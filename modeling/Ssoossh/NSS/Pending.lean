import Ssoossh.NSS.Discipline

/-!
# The clock of pending numbers

A number the directory gives differently waits to be accepted, and the columns around it
say since when and whether the administrators were told.  They are recomputed on every
read from what was pending before, cleared by an acceptance, and touched by the bulk
update that moves accounts with a renumbered group.

`Exact` says what they are worth, for a row with any number of pending values: nothing
pending is the stored value, the clock runs exactly while something is pending, and a row
marked as mailed has nothing pending that was not in the mail.  The mail is claimed by a
call that read the row earlier, so that the marker is right only because the call had seen
something pending; this is what the history of the call is for.
-/

namespace Ssoossh.NSS

open Interleaving Relational Transactional.Tx List Function
open Option (isSome_iff_ne_none isSome_none isSome_some isNone_eq_false_iff isNone_iff_eq_none ne_none_iff_exists')

/-! ## Rows -/

/-- A value of a row: what is stored, what is pending, and what was pending when the mail
was claimed. -/
structure Waiting where
  current : Option Nat
  pending : Option Nat
  told : Option Nat

/-- The pending columns of a row are right. -/
structure Exact (values : List Waiting) (since notifiedAt : Option Int) : Prop where
  differs : ∀ v ∈ values, ∀ n, v.pending = some n → v.current ≠ some n
  clock : since.isSome = true ↔ ∃ v ∈ values, v.pending.isSome = true
  mail : notifiedAt ≠ none → since ≠ none ∧ ∀ v ∈ values, ∀ n, v.pending = some n → v.told = some n

/-- The values of an account: its uid and its primary gid. -/
def accountValues (told : Told) (row : PosixUser) : List Waiting :=
  [⟨some row.number, row.pendingNumber, told.number⟩, ⟨row.own.gid, row.own.pendingGID, told.gid⟩]

/-- The value of a group: its gid. -/
def groupValues (told : Told) (row : PosixGroup) : List Waiting :=
  [⟨some row.number, row.pendingNumber, told.number⟩]

/-- An account whose pending columns are right. -/
def AccountExact (told : Told) (row : PosixUser) : Prop :=
  Exact (accountValues told row) row.pendingSince row.pendingNotifiedAt

/-- A group whose pending columns are right. -/
def GroupExact (told : Told) (row : PosixGroup) : Prop :=
  Exact (groupValues told row) row.pendingSince row.pendingNotifiedAt

variable {row : PosixUser}

/-- The three fields, for values that are written out. -/
theorem exact_iff {values : List Waiting} {since notifiedAt : Option Int} :
    Exact values since notifiedAt ↔
      (∀ v ∈ values, ∀ n, v.pending = some n → v.current ≠ some n) ∧
      (since.isSome = true ↔ ∃ v ∈ values, v.pending.isSome = true) ∧
      (notifiedAt ≠ none →
        since ≠ none ∧ ∀ v ∈ values, ∀ n, v.pending = some n → v.told = some n) :=
  ⟨fun h => ⟨h.differs, h.clock, h.mail⟩, fun ⟨differs, clock, mail⟩ => ⟨differs, clock, mail⟩⟩

theorem differs_iff {number : Nat} {pending : Option Nat} :
    (∀ n, pending = some n → some number ≠ some n) ↔ pending ≠ some number :=
  ⟨fun differs same => differs _ same rfl, fun differs _ same here => differs (here ▸ same)⟩

theorem accountExact_iff {told : Told} : AccountExact told row ↔
    row.pendingNumber ≠ some row.number ∧
    (∀ n, row.own.pendingGID = some n → row.own.gid ≠ some n) ∧
    (row.pendingSince.isSome = true ↔
      row.pendingNumber.isSome = true ∨ row.own.pendingGID.isSome = true) ∧
    (row.pendingNotifiedAt ≠ none → row.pendingSince ≠ none ∧
      (∀ n, row.pendingNumber = some n → told.number = some n) ∧
      ∀ n, row.own.pendingGID = some n → told.gid = some n) := by
  simp only [AccountExact, exact_iff, accountValues, forall_mem_cons, exists_mem_cons_iff,
    differs_iff, and_assoc, not_mem_nil, false_implies, implies_true, and_true, false_and,
    exists_false, or_false]

theorem groupExact_iff {told : Told} {row : PosixGroup} : GroupExact told row ↔
    row.pendingNumber ≠ some row.number ∧
    (row.pendingSince.isSome = true ↔ row.pendingNumber.isSome = true) ∧
    (row.pendingNotifiedAt ≠ none → row.pendingSince ≠ none ∧
      ∀ n, row.pendingNumber = some n → told.number = some n) := by
  simp only [GroupExact, exact_iff, groupValues, forall_mem_cons, exists_mem_cons_iff,
    differs_iff, not_mem_nil, false_implies, implies_true, and_true, false_and, exists_false,
    or_false]

variable {now : Int}

section Exact

/-- Nothing is pending. -/
theorem Exact.settled {values : List Waiting} (nothing : ∀ v ∈ values, v.pending = none) :
    Exact values none none := by
  refine ⟨fun v member n pending => ?_, ?_, fun told => (told rfl).elim⟩
  · rw [nothing v member] at pending
    cases pending
  · simp only [isSome_none, Bool.false_eq_true, false_iff, not_exists, not_and,
      Bool.not_eq_true]
    exact fun v member => by rw [nothing v member, isSome_none]

/-- A pending value is not the stored one. -/
theorem nssPending_ne {stored incoming : Nat} {previous : Option Nat} :
    nssPending stored incoming previous ≠ some stored := by
  unfold nssPending
  split
  · simp
  · split
    · rename_i apart same
      rw [same]
      simpa using apart
    · rename_i apart _
      simpa using apart

/-- **A read keeps the columns right**, whatever was stored and pending before: the clock
and the marker are recomputed from the values before and after. -/
theorem Exact.of_updates (values : List (Waiting × Option Nat)) {since notifiedAt : Option Int}
    (differs : ∀ v ∈ values, ∀ n, v.1.pending = some n → v.1.current ≠ some n)
    (mail : notifiedAt ≠ none → ∀ v ∈ values, ∀ n, v.2 = some n → v.1.told = some n) :
    Exact (values.map (·.1)) (nssPendingSince since now (values.map fun v => (v.1.pending, v.2)))
      (if (nssPendingSince since now (values.map fun v => (v.1.pending, v.2))).isNone ||
          nssPendingRenewed (values.map fun v => (v.1.pending, v.2)) then none else notifiedAt) := by
  refine ⟨?_, ?_, fun marked => ?_⟩
  · simpa only [mem_map, forall_exists_index, and_imp, forall_apply_eq_imp_iff₂] using differs
  · unfold nssPendingSince
    by_cases any : (values.map fun v => (v.1.pending, v.2)).any (·.1.isSome) = true
    · rw [any]
      have some : ∃ v ∈ values.map (·.1), v.pending.isSome = true := by simpa using any
      refine iff_of_true ?_ some
      split
      · rename_i impossible
        cases impossible
      · split
        · rfl
        · rename_i kept
          simp only [Bool.or_eq_true, not_or, Bool.not_eq_true, isNone_eq_false_iff] at kept
          exact kept.2
    · rw [Bool.not_eq_true] at any
      rw [any]
      refine iff_of_false (by simp) ?_
      simpa using any
  · split_ifs at marked with cleared
    · exact (marked rfl).elim
    · simp only [Bool.or_eq_true, not_or, Bool.not_eq_true, isNone_eq_false_iff] at cleared
      obtain ⟨running, old⟩ := cleared
      refine ⟨isSome_iff_ne_none.mp running, fun v member n pending => ?_⟩
      obtain ⟨w, among, rfl⟩ := mem_map.mp member
      -- a value that is not newly pending was pending before, and that one was told
      have kept : newlyPending (w.1.pending, w.2) = false :=
        Bool.eq_false_iff.mpr (any_eq_false.mp old _ (mem_map_of_mem among))
      rw [newlyPending, pending] at kept
      have before : some n = w.2 := by simpa using kept
      exact mail marked w among n before.symm

end Exact

section Changes

variable {d : Directory} {statement : Statement} {told : Told}

/-- What is said about a row is not about its bookkeeping. -/
theorem Exact.of_same {α : Type} {row row' : PosixRow α} {values : PosixRow α → List Waiting}
    (same : Same row row') (agree : values row = values row')
    (h : Exact (values row) row.pendingSince row.pendingNotifiedAt) :
    Exact (values row') row'.pendingSince row'.pendingNotifiedAt := by
  rw [← agree, ← same.agree PosixRow.pendingSince fun _ => rfl,
    ← same.agree PosixRow.pendingNotifiedAt fun _ => rfl]
  exact h

theorem AccountExact.of_same {row' : PosixUser} (same : Same row row') (h : AccountExact told row) :
    AccountExact told row' :=
  Exact.of_same same (same.agree (accountValues told) fun _ => rfl) h

theorem GroupExact.of_same {row row' : PosixGroup} (same : Same row row')
    (h : GroupExact told row) : GroupExact told row' :=
  Exact.of_same same (same.agree (groupValues told) fun _ => rfl) h

/-- What a read makes of a stored gid: its pending one differs. -/
theorem accountGIDUpdate_differs {settings : Settings} {a : NSSAccount} {n : Nat}
    (pending : (accountGIDUpdate settings row a).2 = some n) :
    (accountGIDUpdate settings row a).1 ≠ some n := by
  unfold accountGIDUpdate at pending ⊢
  split at pending
  · cases pending
  · rename_i mode
    rw [if_neg mode]
    cases stored : row.own.gid with
    | none =>
      rw [stored] at pending
      cases pending
    | some =>
      cases incoming : a.gid with
      | none =>
        rw [stored, incoming] at pending
        cases pending
      | some =>
        rw [stored, incoming] at pending
        intro same
        obtain rfl := Option.some.inj same
        exact nssPending_ne pending

/-- An account that is read. -/
theorem AccountExact.follow {settings : Settings} {a : NSSAccount} {disabled : Bool}
    {name : String} (h : AccountExact told row) :
    AccountExact told (refresh a.ref (followAccount settings a disabled now) name now row) := by
  refine Exact.of_updates [(⟨some row.number, nssPending row.number a.uid row.pendingNumber, told.number⟩,
        row.pendingNumber),
      (⟨(accountGIDUpdate settings row a).1, (accountGIDUpdate settings row a).2, told.gid⟩,
        row.own.pendingGID)] ?_ fun marked => ?_
  · simp only [forall_mem_cons, not_mem_nil, false_implies, implies_true, and_true]
    exact ⟨differs_iff.mpr nssPending_ne, fun n pending => accountGIDUpdate_differs pending⟩
  · have mail := (h.mail marked).2
    simpa only [accountValues, forall_mem_cons, not_mem_nil, false_implies, implies_true,
      and_true] using mail

/-- A group that is read. -/
theorem GroupExact.follow {g : NSSGroup} {name : String} {row : PosixGroup}
    (h : GroupExact told row) :
    GroupExact told (refresh g.ref (followGroup g now) name now row) := by
  refine Exact.of_updates [(⟨some row.number, nssPending row.number g.gid row.pendingNumber, told.number⟩,
        row.pendingNumber)] ?_ fun marked => ?_
  · simp only [forall_mem_cons, not_mem_nil, false_implies, implies_true, and_true]
    exact differs_iff.mpr nssPending_ne
  · have mail := (h.mail marked).2
    simpa only [groupValues, forall_mem_cons, not_mem_nil, false_implies, implies_true,
      and_true] using mail

/-- The first two updates of `rekeyGroup` leave a pending gid alone or settle it, and what
they leave is still not the stored one. -/
theorem settledAccount_pendingGID (oldGID newGID : Nat) (now : Int)
    (differs : ∀ n, row.own.pendingGID = some n → row.own.gid ≠ some n) :
    let row' := settledAccount newGID (movedAccount oldGID newGID now row)
    row'.own.pendingGID = none ∨ row'.own.pendingGID = row.own.pendingGID ∧
      ∀ n, row.own.pendingGID = some n → row'.own.gid ≠ some n := by
  dsimp only
  rw [settledAccount_gid]
  unfold settledAccount movedAccount Rel.rewrite
  by_cases moved : (row.own.gid == some oldGID) = true
  · simp only [if_pos moved]
    by_cases settles : (some newGID == some newGID && row.own.pendingGID == some newGID) = true
    · exact .inl (by rw [if_pos settles])
    · rw [if_neg settles]
      refine .inr ⟨rfl, fun n pending same => settles ?_⟩
      simpa [pending] using same.symm
  · simp only [if_neg moved]
    by_cases settles : (row.own.gid == some newGID && row.own.pendingGID == some newGID) = true
    · exact .inl (by rw [if_pos settles])
    · rw [if_neg settles]
      exact .inr ⟨rfl, differs⟩

/-- The last update of `rekeyGroup` stops the clock where nothing is pending any more. -/
theorem AccountExact.cleared (uid : row.pendingNumber ≠ some row.number)
    (gid : ∀ n, row.own.pendingGID = some n → row.own.gid ≠ some n)
    (runs : row.pendingNumber ≠ none ∨ row.own.pendingGID ≠ none → row.pendingSince ≠ none)
    (mail : row.pendingNotifiedAt ≠ none → row.pendingSince ≠ none ∧
      (∀ n, row.pendingNumber = some n → told.number = some n) ∧
      ∀ n, row.own.pendingGID = some n → told.gid = some n) :
    AccountExact told (clearedAccount row) := by
  by_cases waits : row.pendingNumber ≠ none ∨ row.own.pendingGID ≠ none
  · have kept : clearedAccount row = row := by
      refine Rel.rewrite_neg ?_
      rcases waits with waits | waits
      · simp [isNone_eq_false_iff.mpr (isSome_iff_ne_none.mpr waits)]
      · simp [isNone_eq_false_iff.mpr (isSome_iff_ne_none.mpr waits)]
    rw [kept]
    refine accountExact_iff.mpr ⟨uid, gid, ?_, mail⟩
    exact iff_of_true (isSome_iff_ne_none.mpr (runs waits))
      (waits.imp isSome_iff_ne_none.mpr isSome_iff_ne_none.mpr)
  · obtain ⟨uidNone, gidNone⟩ : row.pendingNumber = none ∧ row.own.pendingGID = none := by
      simpa [not_or] using waits
    have stopped : (clearedAccount row).pendingSince = none ∧
        (clearedAccount row).pendingNotifiedAt = none := by
      unfold clearedAccount Rel.rewrite
      by_cases running : row.pendingSince.isSome = true
      · rw [if_pos (by simp [uidNone, gidNone, running])]
        exact ⟨rfl, rfl⟩
      · have since : row.pendingSince = none := by simpa using running
        rw [if_neg (by simp [since])]
        exact ⟨since, by_contra fun marked => (mail marked).1 since⟩
    have pending : (clearedAccount row).pendingNumber = none := by
      unfold clearedAccount Rel.rewrite
      split <;> exact uidNone
    unfold AccountExact
    rw [stopped.1, stopped.2]
    refine Exact.settled ?_
    simp [accountValues, pending, clearedAccount_own, gidNone]

/-- An account that moves with a group, in the three updates of `rekeyGroup`. -/
theorem AccountExact.rekeyed {oldGID newGID : Nat} (h : AccountExact told row) :
    AccountExact told (rekeyedAccount oldGID newGID now row) := by
  obtain ⟨uid, gid, clock, mail⟩ := accountExact_iff.mp h
  have settled := settledAccount_pendingGID oldGID newGID now gid
  have others : ∀ {β : Type} (column : PosixUser → β),
      (∀ row own, column { row with own := own } = column row) →
      (∀ row own, column { row with own := own, updatedAt := now } = column row) →
      column (settledAccount newGID (movedAccount oldGID newGID now row)) = column row := by
    intro β column own updated
    rw [settledAccount, Rel.rewrite_column column (fun row => own row _), movedAccount,
      Rel.rewrite_column column (fun row => updated row _)]
  have number := others PosixRow.number (fun _ _ => rfl) fun _ _ => rfl
  have pending := others PosixRow.pendingNumber (fun _ _ => rfl) fun _ _ => rfl
  have since := others PosixRow.pendingSince (fun _ _ => rfl) fun _ _ => rfl
  have notified := others PosixRow.pendingNotifiedAt (fun _ _ => rfl) fun _ _ => rfl
  unfold rekeyedAccount
  generalize settledAccount newGID (movedAccount oldGID newGID now row) = row' at *
  -- what is pending afterwards was pending before
  have fewer : ∀ n, row'.own.pendingGID = some n → row.own.pendingGID = some n := by
    intro n waiting
    rcases settled with none | ⟨same, -⟩
    · rw [none] at waiting
      cases waiting
    · exact same ▸ waiting
  refine AccountExact.cleared (pending ▸ number ▸ uid) (fun n waiting => ?_) (fun waits => ?_) ?_
  · rcases settled with none | ⟨same, differs⟩
    · rw [none] at waiting
      cases waiting
    · exact differs n (same ▸ waiting)
  · rw [since]
    refine isSome_iff_ne_none.mp (clock.mpr ?_)
    rcases waits with waits | waits
    · exact .inl (isSome_iff_ne_none.mpr (pending ▸ waits))
    · obtain ⟨n, waiting⟩ := ne_none_iff_exists'.mp waits
      exact .inr (by rw [fewer n waiting, isSome_some])
  · rw [notified, since, pending]
    exact fun marked => ⟨(mail marked).1, (mail marked).2.1, fun n waiting =>
      (mail marked).2.2 n (fewer n waiting)⟩

/-- **Every transaction but a claim keeps the columns of an account right.** -/
theorem AccountChange.exact {row' : PosixUser} (changed : AccountChange d statement row row')
    (unclaimed : ∀ read now, statement ≠ .claimAccount read now) (h : AccountExact told row) :
    AccountExact told row' := by
  cases changed with
  | same changed => exact h.of_same changed
  | stored name anchor changed => exact h.follow.of_same changed
  | accepted number changed =>
    refine AccountExact.of_same changed (Exact.settled ?_)
    simp [accountValues, acceptedAccount]
  | rekeyed stored number pending changed => exact h.rekeyed.of_same changed
  | missing unseen present changed
  | tombstoned id live changed | linked here free changed => exact AccountExact.of_same changed h
  | claimed => exact (unclaimed _ _ rfl).elim

/-- **Every transaction but a claim keeps the columns of a group right.** -/
theorem GroupChange.exact {row row' : PosixGroup} (changed : GroupChange d statement row row')
    (unclaimed : ∀ read now, statement ≠ .claimGroup read now) (h : GroupExact told row) :
    GroupExact told row' := by
  cases changed with
  | same changed => exact h.of_same changed
  | stored name anchor changed => exact h.follow.of_same changed
  | accepted number pending changed =>
    refine GroupExact.of_same changed (Exact.settled ?_)
    simp [groupValues, acceptedGroup]
  | missing unseen present changed
  | tombstoned id live changed => exact GroupExact.of_same changed h
  | claimed => exact (unclaimed _ _ rfl).elim

theorem AccountBorn.exact {newID : String} (born : AccountBorn newID statement row) :
    AccountExact told row := by
  obtain ⟨born⟩ := born
  refine AccountExact.of_same born (Exact.settled ?_)
  simp [accountValues, newAccount, newRow]

theorem GroupBorn.exact {newID : String} {row : PosixGroup} (born : GroupBorn newID statement row) :
    GroupExact told row := by
  obtain ⟨born⟩ := born
  refine GroupExact.of_same born (Exact.settled ?_)
  simp [groupValues, newGroup, newRow]

end Changes

/-! ## Claims -/

section Claims

variable {α : Type} {t : NSSTable α} {s s' : Sheet t} {id : String} {same : PosixRow α → Bool}
  {now : Int}

/-- A claim that is won is one of a row that was not marked, and that had the pending values
it had when it was read. -/
theorem claimRow_won (h : (claimRow id same now : SheetTx t Bool).run s = .ok (true, s'))
    {row : PosixRow α} (stored : row ∈ s.rows.rows) (here : row.id = id) :
    row.pendingNotifiedAt = none ∧ same row = true := by
  replace h := run_get_bind_eq_ok.mp h
  obtain ⟨_, m, -, h⟩ := run_bind_eq_ok.mp h
  obtain ⟨any, rfl⟩ := run_pure_eq_ok.mp h
  obtain ⟨hit, there, picked⟩ := any_eq_true.mp any
  simp only [Bool.and_eq_true, beq_iff_eq, isNone_iff_eq_none] at picked
  obtain rfl := Sheet.eq_of_id there stored (picked.1.1.trans here.symm)
  exact ⟨picked.1.2, picked.2⟩

/-- **The rows after a claim.**  What is said about a row and the last mail about it holds
after a claim when it holds of a row that the mail is about, marked or not. -/
theorem right_of_claimRow {Right : Told → PosixRow α → Prop} {told : String → Told} {mailed : Told}
    {won : Bool} (h : (claimRow id same now : SheetTx t Bool).run s = .ok (won, s'))
    (mail : ∀ row, row.pendingNotifiedAt = none → same row = true → Right (told id) row →
      Right mailed row ∧ Right mailed { row with pendingNotifiedAt := some now })
    (right : ∀ row ∈ s.rows.rows, Right (told row.id) row) :
    ∀ row ∈ s'.rows.rows,
      Right ((if won then update told id mailed else told) row.id) row := by
  intro row' after
  rcases (of_claimRow h).2.origin row' after with ⟨row, before, kept, changed⟩ | ⟨no, -⟩
  · rw [kept]
    by_cases hit : won = true ∧ row.id = id
    · obtain ⟨rfl, here⟩ := hit
      obtain ⟨unmarked, read⟩ := claimRow_won h before here
      obtain ⟨left, marked⟩ := mail row unmarked read (here ▸ right row before)
      rw [if_pos rfl, here, update_self]
      rcases changed with rfl | ⟨-, rfl⟩
      · exact left
      · exact marked
    · have told_eq : (if won then update told id mailed else told) row.id =
          told row.id := by
        cases won with
        | false => rfl
        | true => exact update_of_ne (fun here => hit ⟨rfl, here⟩) _ _
      rw [told_eq]
      rcases changed with rfl | ⟨⟨here, -, -, rfl⟩, -⟩
      · exact right row' before
      · exact (hit ⟨rfl, here⟩).elim
  · exact no.elim

end Claims

/-! ## Runs -/

/-- The pending columns of all rows are right. -/
structure AllExact (told : TableName → String → Told) (d : Directory) : Prop where
  accounts : ∀ row ∈ d.accounts.rows.rows, AccountExact (told .accounts row.id) row
  groups : ∀ row ∈ d.groups.rows.rows, GroupExact (told .groups row.id) row

/-- Whatever a call read to mail about has something pending. -/
structure SeenPending (past : History) : Prop where
  accounts : ∀ rows : List PosixUser, ⟨.read .unmailedAccounts, .ok rows⟩ ∈ past → ∀ row ∈ rows,
    row.pendingNumber ≠ none ∨ row.own.pendingGID ≠ none
  groups : ∀ rows : List PosixGroup, ⟨.read .unmailedGroups, .ok rows⟩ ∈ past → ∀ row ∈ rows,
    row.pendingNumber ≠ none

section Runs

variable {missing : Int} {begun : Option Int} {d d' : Directory} {newID : String}

variable {told : TableName → String → Told}

/-- The accounts after a claim. -/
theorem accountExact_of_claim {s s' : Sheet accountTable} {read : PosixUser} {won : Bool}
    (h : (claimAccount read now).run s = .ok (won, s'))
    (pending : read.pendingNumber ≠ none ∨ read.own.pendingGID ≠ none)
    (exact : ∀ row ∈ s.rows.rows, AccountExact (told .accounts row.id) row) :
    ∀ row ∈ s'.rows.rows, AccountExact ((if won then update (told .accounts) read.id
      ⟨read.pendingNumber, read.own.pendingGID⟩ else told .accounts) row.id) row := by
  refine right_of_claimRow h (fun row unmarked same right => ?_) exact
  simp only [Bool.and_eq_true, beq_iff_eq] at same
  obtain ⟨uid, gid, clock, -⟩ := accountExact_iff.mp right
  refine ⟨accountExact_iff.mpr ⟨uid, gid, clock, fun marked => (marked unmarked).elim⟩,
    accountExact_iff.mpr ⟨uid, gid, clock, fun _ => ⟨?_, fun n waiting => same.1 ▸ waiting,
      fun n waiting => same.2 ▸ waiting⟩⟩⟩
  refine isSome_iff_ne_none.mp (clock.mpr ?_)
  rw [same.1, same.2, isSome_iff_ne_none, isSome_iff_ne_none]
  exact pending

/-- The groups after a claim. -/
theorem groupExact_of_claim {s s' : Sheet groupTable} {read : PosixGroup} {won : Bool}
    (h : (claimGroup read now).run s = .ok (won, s')) (pending : read.pendingNumber ≠ none)
    (exact : ∀ row ∈ s.rows.rows, GroupExact (told .groups row.id) row) :
    ∀ row ∈ s'.rows.rows, GroupExact ((if won then update (told .groups) read.id
      ⟨read.pendingNumber, none⟩ else told .groups) row.id) row := by
  refine right_of_claimRow h (fun row unmarked same right => ?_) exact
  rw [beq_iff_eq] at same
  obtain ⟨gid, clock, -⟩ := groupExact_iff.mp right
  refine ⟨groupExact_iff.mpr ⟨gid, clock, fun marked => (marked unmarked).elim⟩,
    groupExact_iff.mpr ⟨gid, clock, fun _ => ⟨?_, fun n waiting => same ▸ waiting⟩⟩⟩
  refine isSome_iff_ne_none.mp (clock.mpr ?_)
  rw [same, isSome_iff_ne_none]
  exact pending

/-- A transaction that claims nothing. -/
theorem AllExact.of_commit {statement : Statement} {result : statement.Result}
    (h : AllExact told d) (done : (statement.tx newID).run d = .ok (result, d'))
    (accounts : ∀ read now, statement ≠ .claimAccount read now)
    (groups : ∀ read now, statement ≠ .claimGroup read now) : AllExact told d' := by
  refine ⟨fun row' after => ?_, fun row' after => ?_⟩
  · rcases (accounts_turn done).origin row' after with ⟨row, before, id, changed⟩ | ⟨born, -⟩
    · rw [id]
      exact changed.exact accounts (h.accounts row before)
    · exact born.exact
  · rcases (groups_turn done).origin row' after with ⟨row, before, id, changed⟩ | ⟨born, -⟩
    · rw [id]
      exact changed.exact groups (h.groups row before)
    · exact born.exact

/-- Every transaction, of a call that has read what it claims. -/
theorem AllExact.commit {s : Shared} {tid : Tid} {past : History} {statement : Statement}
    {result : statement.Result} (h : AllExact s.told s.directory) (seen : SeenPending past)
    (may : May missing begun past (.commit statement))
    (done : (statement.tx newID).run s.directory = .ok (result, d')) :
    AllExact (statement.note { s with directory := d' } tid result).told d' := by
  cases statement with
  | claimAccount read =>
    obtain ⟨rows, loaded, member⟩ := may
    obtain ⟨accounts, claim, rfl⟩ := run_onAccounts_eq_ok.mp done
    have exact := accountExact_of_claim claim (seen.accounts rows loaded read member) h.accounts
    cases result with
    | false | true => exact ⟨exact, h.groups⟩
  | claimGroup read =>
    obtain ⟨rows, loaded, member⟩ := may
    obtain ⟨groups, claim, rfl⟩ := run_onGroups_eq_ok.mp done
    have exact := groupExact_of_claim claim (seen.groups rows loaded read member) h.groups
    cases result with
    | false | true => exact ⟨h.accounts, exact⟩
  | _ => exact h.of_commit done (fun _ _ other => by cases other) fun _ _ other => by cases other

theorem SeenPending.cons {past : History} {action : Act} {answer : action.Resp} (h : SeenPending past)
    (accounts : ∀ rows : List PosixUser,
      (⟨.read .unmailedAccounts, .ok rows⟩ : Event Act.Resp) = ⟨action, answer⟩ →
        ∀ row ∈ rows, row.pendingNumber ≠ none ∨ row.own.pendingGID ≠ none)
    (groups : ∀ rows : List PosixGroup,
      (⟨.read .unmailedGroups, .ok rows⟩ : Event Act.Resp) = ⟨action, answer⟩ →
        ∀ row ∈ rows, row.pendingNumber ≠ none) : SeenPending (⟨action, answer⟩ :: past) where
  accounts rows member := (mem_cons.mp member).elim (accounts rows) (h.accounts rows)
  groups rows member := (mem_cons.mp member).elim (groups rows) (h.groups rows)

/-- A row with a running clock has something pending. -/
theorem AllExact.unmailed (h : AllExact told d) :
    (∀ row ∈ d.accounts.unmailed, row.pendingNumber ≠ none ∨ row.own.pendingGID ≠ none) ∧
      ∀ row ∈ d.groups.unmailed, row.pendingNumber ≠ none := by
  refine ⟨fun row member => ?_, fun row member => ?_⟩
  · obtain ⟨stored, running⟩ := Rel.mem_select.mp member
    rw [Bool.and_eq_true] at running
    obtain ⟨-, -, clock, -⟩ := accountExact_iff.mp (h.accounts row stored)
    exact (clock.mp running.1).imp isSome_iff_ne_none.mp isSome_iff_ne_none.mp
  · obtain ⟨stored, running⟩ := Rel.mem_select.mp member
    rw [Bool.and_eq_true] at running
    obtain ⟨-, clock, -⟩ := groupExact_iff.mp (h.groups row stored)
    exact isSome_iff_ne_none.mp (clock.mp running.1)

/-- What the calls know about the rows they mail about. -/
def pendingKnowledge : Knowledge service where
  ok _ _ _ _ _ := True
  Inv s := AllExact s.told s.directory
  Knows _ past _ := SeenPending past
  Can := Plausible
  May := Call.May
  start _ := ⟨nofun, nofun⟩
  follows := follows_body
  own {heads s tid call past action choice s' answer} inv seen may _ done := by
    cases action with
    | now =>
      obtain rfl := of_exec_now done
      exact ⟨inv, trivial, seen.cons (nofun)
        nofun⟩
    | read query =>
      have answered := plausible_of_exec done
      rcases of_exec_read done with ⟨rfl, failure, rfl⟩ | ⟨rfl, rfl⟩
      · exact ⟨inv, answered, seen.cons (nofun)
          nofun⟩
      · refine ⟨?_, answered, seen.cons (fun rows same => ?_) fun rows same => ?_⟩
        · cases query <;> exact inv
        · cases same
          exact inv.unmailed.1
        · cases same
          exact inv.unmailed.2
    | commit statement =>
      have told : SeenPending (⟨.commit statement, answer⟩ :: past) :=
        seen.cons (nofun) nofun
      rcases of_exec_commit done with ⟨rfl, failure, rfl⟩ |
        ⟨newID, result, directory, rfl, committed, rfl, rfl⟩
      · exact ⟨inv, trivial, told⟩
      · refine ⟨?_, trivial, told⟩
        rw [Statement.note_directory]
        obtain ⟨_, -, may⟩ := may
        exact inv.commit seen may committed
  others _ _ _ _ _ _ _ seen := seen

end Runs

/-- **The pending clock is exact.**  In every state the service reaches, whatever the calls,
the entries, the configurations and the order of steps:
* a pending uid or gid is not the stored one;
* the clock runs exactly while something is pending;
* a row is marked as mailed only while its clock runs and each of its pending numbers is
  the one that was pending when the mail was claimed. -/
theorem pending_exact {cfg : ServiceConfig} {allowed : ServiceConfig → ServiceLabel → Prop}
    (h : Reaches service allowed idle cfg) :
    (∀ row ∈ cfg.shared.directory.accounts.rows.rows,
      row.pendingNumber ≠ some row.number ∧
      (∀ gid, row.own.pendingGID = some gid → row.own.gid ≠ some gid) ∧
      (row.pendingSince ≠ none ↔ row.pendingNumber ≠ none ∨ row.own.pendingGID ≠ none) ∧
      (row.pendingSince = none ∨
        (row.pendingNumber ≠ none ∧
          row.pendingNumber ≠ (cfg.shared.told .accounts row.id).number) ∨
        (row.own.pendingGID ≠ none ∧
          row.own.pendingGID ≠ (cfg.shared.told .accounts row.id).gid) →
        row.pendingNotifiedAt = none)) ∧
    ∀ row ∈ cfg.shared.directory.groups.rows.rows,
      row.pendingNumber ≠ some row.number ∧
      (row.pendingSince ≠ none ↔ row.pendingNumber ≠ none) ∧
      (row.pendingSince = none ∨
        (row.pendingNumber ≠ none ∧
          row.pendingNumber ≠ (cfg.shared.told .groups row.id).number) →
        row.pendingNotifiedAt = none) := by
  have free : ∀ cfg label, allowed cfg label → pendingKnowledge.Allowed cfg label :=
    fun cfg label _ => by cases label <;> simp [Knowledge.Allowed, pendingKnowledge]
  obtain ⟨_, holds⟩ := pendingKnowledge.reaches (h.mono free)
    ⟨fun _ none => absurd none not_mem_nil, fun _ none => absurd none not_mem_nil⟩
    fun _ => rfl
  obtain ⟨accounts, groups⟩ := holds.inv
  refine ⟨fun row stored => ?_, fun row stored => ?_⟩
  · obtain ⟨uid, gid, clock, mail⟩ := accountExact_iff.mp (accounts row stored)
    simp only [isSome_iff_ne_none] at clock
    refine ⟨uid, gid, clock, fun stale => by_contra fun marked => ?_⟩
    obtain ⟨running, number, primary⟩ := mail marked
    rcases stale with stopped | ⟨waits, differs⟩ | ⟨waits, differs⟩
    · exact running stopped
    · obtain ⟨n, pending⟩ := ne_none_iff_exists'.mp waits
      exact differs (pending.trans (number n pending).symm)
    · obtain ⟨n, pending⟩ := ne_none_iff_exists'.mp waits
      exact differs (pending.trans (primary n pending).symm)
  · obtain ⟨gid, clock, mail⟩ := groupExact_iff.mp (groups row stored)
    simp only [isSome_iff_ne_none] at clock
    refine ⟨gid, clock, fun stale => by_contra fun marked => ?_⟩
    obtain ⟨running, number⟩ := mail marked
    rcases stale with stopped | ⟨waits, differs⟩
    · exact running stopped
    · obtain ⟨n, pending⟩ := ne_none_iff_exists'.mp waits
      exact differs (pending.trans (number n pending).symm)

namespace Sample

/-- The directory gives a stored account another uid, and the administrators are told. -/
def mailing : List ServiceLabel :=
  refreshing 0 (account "ann" "1" "ann" 1000) "row" 1 ++
  refreshing 1 (account "ann" "1" "ann" 2000) "" 2 ++
  uninterrupted 2 (.sweepPendingIDChangeMail (.ok true)) [.done "", .done "", .time 4, .done ""]

end Sample

/-- An account that is marked as mailed, and the uid that was in the mail. -/
theorem pending_exact_mailed : ∃ cfg row, Reaches service (fun _ _ => True) idle cfg ∧
    row ∈ cfg.shared.directory.accounts.rows.rows ∧ row.pendingNotifiedAt = some 4 ∧
      (cfg.shared.told .accounts row.id).number = some 2000 := by
  have ran : (Sample.after Sample.mailing).map (fun cfg =>
      cfg.shared.directory.accounts.rows.rows.map fun row =>
        (row.pendingNumber, row.pendingNotifiedAt)) = some [(some 2000, some 4)] := by decide +kernel
  obtain ⟨cfg, found, rows⟩ := Option.map_eq_some_iff.mp ran
  obtain ⟨row, stored, columns⟩ := map_eq_singleton_iff.mp rows
  obtain ⟨pending, marked⟩ := Prod.mk.inj columns
  have reached : Reaches service (fun _ _ => True) idle cfg :=
    Reaches.of_runLabels Sample.mailing (fun _ _ _ => trivial) found
  have member : row ∈ cfg.shared.directory.accounts.rows.rows := stored ▸ mem_singleton_self row
  obtain ⟨-, -, -, mail⟩ := (pending_exact reached).1 row member
  refine ⟨cfg, row, reached, member, marked, by_contra fun differs => ?_⟩
  have unmarked := mail (.inr (.inl ⟨by simp [pending], fun same => differs (pending ▸ same.symm)⟩))
  rw [marked] at unmarked
  cases unmarked

end Ssoossh.NSS
