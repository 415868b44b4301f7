import Ssoossh.NSS.Effects
import Ssoossh.NSS.System

/-!
# What every transaction does

The one place where the transactions are taken apart.  `AccountChange` and
`GroupChange` list, transaction by transaction, all that may happen to a stored row,
with the conditions it happens under; whatever is said later about accounts and groups
over whole runs is said by going through these lists.
-/

namespace Ssoossh.NSS

open Interleaving Relational Transactional Tx List Bool Sheet

variable {α : Type} {t : NSSTable α}

/-! ## Transactions on one table -/

section Sheets

variable {s s' : Sheet t} {now : Int} {u : PUnit}

theorem of_releaseHolds {row : PosixRow α}
    (h : (releaseHolds row now : SheetTx t PUnit).run s = .ok (u, s')) :
    ∃ ids, RecordSpec [] ids s s' := by
  obtain ⟨pruned, m, first, h⟩ := run_bind_eq_ok.mp h
  obtain ⟨q, rfl, rows, deleted⟩ := of_pruneStaleHolds first
  refine ⟨_, recordSpec_of_delete rows deleted (fun k stored picked id names => ?_) h⟩
  exact mem_cons_of_mem _ (mem_named.mpr ⟨k, Rel.mem_select.mpr ⟨stored, picked⟩, names⟩)

theorem of_sweepCollisions {start : Int}
    (h : (sweepCollisions start now : SheetTx t PUnit).run s = .ok (u, s')) :
    ∃ ids, RecordSpec [] ids s s' := by
  replace h := run_get_bind_eq_ok.mp h
  by_cases empty : (s.collisions.select fun k => decide (k.lastSeenAt < start)).isEmpty = true
  · rw [if_pos empty] at h
    obtain ⟨-, rfl⟩ := run_pure_eq_ok.mp h
    exact ⟨[], .refl s⟩
  · rw [if_neg empty] at h
    obtain ⟨_, m, second, h⟩ := run_bind_eq_ok.mp h
    obtain ⟨rows, deleted⟩ := of_deleteCollisions second
    refine ⟨_, recordSpec_of_delete rows deleted (fun k stored picked id names => ?_) h⟩
    exact mem_named.mpr ⟨k, Rel.mem_select.mpr ⟨stored, picked⟩, names⟩

/-- Some rows change in one way, and no collision does. -/
def Sheet.Changes (P : PosixRow α → Prop) (f : PosixRow α → PosixRow α) (s s' : Sheet t) : Prop :=
  s'.collisions = s.collisions ∧
    Evolves (fun row row' => row' = row ∨ P row ∧ row' = f row) (fun _ => False) s s'

theorem changes_of_updateRows {p : PosixRow α → Bool} {P : PosixRow α → Prop}
    {f : PosixRow α → PosixRow α} (h : (updateRows p f : SheetTx t PUnit).run s = .ok (u, s'))
    (same : ∀ row, (f row).id = row.id) (picked : ∀ row ∈ s.rows.rows, p row = true → P row) :
    s.Changes P f s' :=
  evolves_of_updateRows h same (fun row stored here => .inr ⟨picked row stored here, rfl⟩)
    fun _ _ _ => .inl rfl

theorem of_markMissing {start : Int}
    (h : (markMissing start now : SheetTx t PUnit).run s = .ok (u, s')) :
    s.Changes (fun row => row.lastSyncedAt < start ∧ row.missingSince = none)
      (fun row => { row with missingSince := some now, updatedAt := now }) s' := by
  replace h := run_get_bind_eq_ok.mp h
  refine changes_of_updateRows h (fun _ => rfl) fun row stored here => ?_
  simp only [and_eq_true, contains_eq_mem, decide_eq_true_eq, mem_map,
    Option.isNone_iff_eq_none] at here
  obtain ⟨⟨other, unseen, same⟩, missing⟩ := here
  simp only [Sheet.unseen, Sheet.refs, mem_filter, mem_ordered, and_eq_true,
    decide_eq_true_eq] at unseen
  obtain rfl := eq_of_id unseen.1 stored same
  exact ⟨unseen.2.1, missing⟩

theorem of_tombstoneRow {id : String}
    (h : (tombstoneRow id now : SheetTx t PUnit).run s = .ok (u, s')) :
    s.Changes (fun row => row.id = id ∧ row.deletedAt = none)
      (fun row => { row with deletedAt := some now, updatedAt := now }) s' :=
  changes_of_updateRows h (fun _ => rfl) fun row _ here => by simpa using here

theorem of_purgeRow {ref : RowRef} (h : (purgeRow ref : SheetTx t PUnit).run s = .ok (u, s')) :
    s' = { s with rows := s.rows.delete fun row => row.id == ref.id && row.deletedAt.isSome } ∧
      ∃ row ∈ s.rows.rows, row.id = ref.id ∧ row.deletedAt.isSome = true := by
  obtain ⟨affected, m, first, h⟩ := run_bind_eq_ok.mp h
  obtain ⟨rfl, rfl⟩ := of_deleteRows first
  split_ifs at h with found
  · obtain ⟨-, rfl⟩ := run_pure_eq_ok.mp h
    obtain ⟨row, stored, here⟩ := any_eq_true.mp found
    exact ⟨rfl, row, stored, by simpa using here⟩
  · exact (run_throw_ne_ok h).elim

/-- The collisions of a row that is gone are deleted, and the other rows they name are
judged. -/
theorem of_dropCollisionsOf {id : String}
    (h : (dropCollisionsOf id now : SheetTx t PUnit).run s = .ok (u, s')) :
    ∃ m ids, m.rows = s.rows ∧
      (∀ k, k ∈ m.collisions.rows ↔ k ∈ s.collisions.rows ∧ k.names id = false) ∧
      RecordSpec [] ids m s' ∧
      ∀ k ∈ s.collisions.rows, k.names id = true →
        ∀ other, k.names other = true → other ≠ id → other ∈ ids := by
  replace h := run_get_bind_eq_ok.mp h
  obtain ⟨_, m, second, h⟩ := run_bind_eq_ok.mp h
  obtain ⟨rows, deleted⟩ := of_deleteCollisions second
  refine ⟨m, _, rows, deleted, recordSpec_of_recompute h, fun k stored picked other names apart => ?_⟩
  rw [mem_filter]
  exact ⟨mem_named.mpr ⟨k, Rel.mem_select.mpr ⟨stored, picked⟩, names⟩, by simpa using apart⟩

theorem of_claimRow {id : String} {same : PosixRow α → Bool} {won : Bool}
    (h : (claimRow id same now : SheetTx t Bool).run s = .ok (won, s')) :
    s.Changes (fun row => row.id = id ∧ row.pendingNotifiedAt = none ∧ same row = true ∧ won = true)
      (fun row => { row with pendingNotifiedAt := some now }) s' := by
  replace h := run_get_bind_eq_ok.mp h
  obtain ⟨_, m, second, h⟩ := run_bind_eq_ok.mp h
  obtain ⟨rfl, rfl⟩ := run_pure_eq_ok.mp h
  refine changes_of_updateRows second (fun _ => rfl) fun row stored here => ?_
  have any : (s.rows.rows.any fun row =>
      row.id == id && row.pendingNotifiedAt.isNone && same row) = true :=
    any_eq_true.mpr ⟨row, stored, here⟩
  simp only [and_eq_true, beq_iff_eq, Option.isNone_iff_eq_none] at here
  exact ⟨here.1.1, here.1.2, here.2, any⟩

end Sheets

theorem of_linkRow {s s' : Sheet accountTable} {id userID : String} {now : Int} {linked : Bool}
    (h : (linkRow id userID now).run s = .ok (linked, s')) :
    s.Changes (fun row => row.id = id ∧ row.own.userID = none)
      (fun row => { row with own := { row.own with userID := some userID }, updatedAt := now })
      s' := by
  replace h := run_get_bind_eq_ok.mp h
  obtain ⟨_, m, second, h⟩ := run_bind_eq_ok.mp h
  obtain ⟨rfl, rfl⟩ := run_pure_eq_ok.mp h
  exact changes_of_updateRows second (fun _ => rfl) fun row _ here => by simpa using here

/-! ## Memberships -/

section Memberships

variable {d d' : Directory} {u : PUnit}

theorem run_onAccounts_eq_ok {β : Type} {m : SheetTx accountTable β} {value : β} :
    (onAccounts m).run d = .ok (value, d') ↔
      ∃ accounts, m.run d.accounts = .ok (value, accounts) ∧ { d with accounts := accounts } = d' :=
  run_on_eq_ok

theorem run_onGroups_eq_ok {β : Type} {m : SheetTx groupTable β} {value : β} :
    (onGroups m).run d = .ok (value, d') ↔
      ∃ groups, m.run d.groups = .ok (value, groups) ∧ { d with groups := groups } = d' :=
  run_on_eq_ok

theorem of_deleteMembers {p : PosixGroupMember → Bool}
    (h : (deleteMembers p).run d = .ok (u, d')) : d' = { d with members := d.members.delete p } := by
  rw [deleteMembers, StateT.run_modify] at h
  cases h
  rfl

theorem of_updateMembers {p : PosixGroupMember → Bool} {f : PosixGroupMember → PosixGroupMember}
    (h : (updateMembers p f).run d = .ok (u, d')) :
    ∃ members : Rel PosixGroupMember PosixGroupMember.SameKey, d' = { d with members := members } ∧
      ∀ m' ∈ members.rows, ∃ m ∈ d.members.rows, p m = true ∧ m' = f m ∨ p m = false ∧ m' = m := by
  replace h := run_get_bind_eq_ok.mp h
  obtain ⟨members, updated, rfl⟩ := run_checked_set_eq_ok.mp h
  refine ⟨members, rfl, fun m' after => ?_⟩
  rw [Rel.rows_update updated, mem_map] at after
  obtain ⟨m, before, rfl⟩ := after
  refine ⟨m, before, ?_⟩
  unfold Rel.rewrite
  split
  · next mine => exact .inl ⟨mine, rfl⟩
  · next other => exact .inr ⟨eq_false_of_not_eq_true other, rfl⟩

theorem of_insertMember {m : PosixGroupMember} (h : (insertMember m).run d = .ok (u, d')) :
    ∃ members : Rel PosixGroupMember PosixGroupMember.SameKey, d' = { d with members := members } ∧
      members.rows = d.members.rows ++ [m] := by
  replace h := run_get_bind_eq_ok.mp h
  obtain ⟨members, inserted, rfl⟩ := run_checked_set_eq_ok.mp h
  exact ⟨members, rfl, (Rel.insert_cases inserted).2⟩

/-- Nothing but the memberships changed, and each of them was there or is one of `added`. -/
structure Adds (added : PosixGroupMember → Prop) (d d' : Directory) : Prop where
  accounts : d'.accounts = d.accounts
  groups : d'.groups = d.groups
  members : ∀ m ∈ d'.members.rows, m ∈ d.members.rows ∨ added m

namespace Adds

variable {added : PosixGroupMember → Prop}

theorem refl (d : Directory) : Adds added d d := ⟨rfl, rfl, fun _ member => .inl member⟩

theorem trans {d d₁ d' : Directory} (h : Adds added d d₁) (h' : Adds added d₁ d') :
    Adds added d d' := by
  refine ⟨h'.accounts.trans h.accounts, h'.groups.trans h.groups, fun m after => ?_⟩
  rcases h'.members m after with between | new
  · exact h.members m between
  · exact .inr new

theorem mono {added' : PosixGroupMember → Prop} (h : Adds added d d')
    (wider : ∀ m, added m → added' m) : Adds added' d d' :=
  ⟨h.accounts, h.groups, fun m after => (h.members m after).imp_right (wider m)⟩

theorem of_delete {p : PosixGroupMember → Bool} (h : (deleteMembers p).run d = .ok (u, d')) :
    Adds added d d' := by
  obtain rfl := of_deleteMembers h
  exact ⟨rfl, rfl, fun m after => .inl (Rel.mem_delete.mp after).1⟩

end Adds

section Deltas

variable {before after : List (Nat × Nat)} {addedAt : Option Int}

/-- Deletes one after the other are one delete. -/
theorem forM_deleteMembers {α : Type} (p : α → PosixGroupMember → Bool) (l : List α) :
    (l.forM fun a => deleteMembers (p a)) = deleteMembers fun m => l.any (p · m) := by
  have joined (p q : PosixGroupMember → Bool) :
      (deleteMembers p >>= fun _ => deleteMembers q) = deleteMembers fun m => p m || q m := by
    funext d
    refine congrArg (fun members => Except.ok ((), { d with members := members })) ?_
    simp [Rel.delete, filter_filter, Bool.and_comm]
  induction l with
  | nil =>
    funext d
    refine congrArg (fun members => Except.ok ((), { d with members := members })) ?_
    simp [Rel.delete]
  | cons a l ih => exact (congrArg (deleteMembers (p a) >>= fun _ => ·) ih).trans (joined _ _)

theorem of_insertMembers {news : List (Nat × Nat)}
    (h : (news.forM fun m => insertMember ⟨m.1, m.2, addedAt⟩ : DirectoryTx PUnit).run d =
      .ok (u, d')) :
    ∃ members : Rel PosixGroupMember PosixGroupMember.SameKey, d' = { d with members := members } ∧
      members.rows = d.members.rows ++ news.map fun m => ⟨m.1, m.2, addedAt⟩ := by
  induction news generalizing d with
  | nil =>
    obtain ⟨-, rfl⟩ := run_pure_eq_ok.mp h
    exact ⟨_, rfl, (append_nil _).symm⟩
  | cons new news ih =>
    obtain ⟨_, d₁, first, rest⟩ := run_bind_eq_ok.mp h
    obtain ⟨_, rfl, rows⟩ := of_insertMember first
    obtain ⟨members, rfl, more⟩ := ih rest
    exact ⟨members, rfl, by rw [more, rows, append_assoc, map_cons, singleton_append]⟩

/-- Exactly the memberships of `before` that are not in `after` go, and exactly those of
`after` that are not in `before` come. -/
theorem mem_of_applyMemberDeltas
    (h : (applyMemberDeltas (memberDeltas before after) addedAt).run d = .ok (u, d')) :
    (∃ members, d' = { d with members := members }) ∧ ∀ m, m ∈ d'.members.rows ↔
      m ∈ d.members.rows ∧ ((m.gid, m.uid) ∈ before → (m.gid, m.uid) ∈ after) ∨
        (m.gid, m.uid) ∈ after ∧ (m.gid, m.uid) ∉ before ∧ m.addedAt = addedAt := by
  obtain ⟨_, d₁, first, rest⟩ := run_bind_eq_ok.mp h
  rw [forM_deleteMembers] at first
  obtain rfl := of_deleteMembers first
  obtain ⟨members, rfl, rows⟩ := of_insertMembers rest
  refine ⟨⟨members, rfl⟩, fun m => ?_⟩
  have new : m ∈ (addedIn (memberDeltas before after)).map (fun k => ⟨k.1, k.2, addedAt⟩) ↔
      (m.gid, m.uid) ∈ after ∧ (m.gid, m.uid) ∉ before ∧ m.addedAt = addedAt := by
    rw [mem_map]
    constructor
    · rintro ⟨k, added, rfl⟩
      exact ⟨(mem_addedIn.mp added).1, (mem_addedIn.mp added).2, rfl⟩
    · rintro ⟨wanted, new, rfl⟩
      exact ⟨_, mem_addedIn.mpr ⟨wanted, new⟩, rfl⟩
  have kept : ((memberDeltas before after).any fun delta =>
      m.gid == delta.1 && delta.2.removed.contains m.uid) = false ↔
      ((m.gid, m.uid) ∈ before → (m.gid, m.uid) ∈ after) := by
    rw [any_eq_false]
    constructor
    · intro stays was
      by_contra gone
      exact stays (m.gid, _) (mem_memberDeltas.mpr ⟨rfl, m.uid, fun same => gone (same.mp was)⟩)
        (by simpa using mem_onlyIn.mpr ⟨was, gone⟩)
    · rintro stays ⟨gid, delta⟩ listed gone
      obtain ⟨rfl, -⟩ := mem_memberDeltas.mp listed
      obtain ⟨rfl, gone⟩ : m.gid = gid ∧ m.uid ∈ onlyIn gid before after := by simpa using gone
      exact (mem_onlyIn.mp gone).2 (stays (mem_onlyIn.mp gone).1)
  rw [rows, mem_append, Rel.mem_delete, kept, new]

theorem of_applyMemberDeltas
    (h : (applyMemberDeltas (memberDeltas before after) addedAt).run d = .ok (u, d')) :
    Adds (fun m => (m.gid, m.uid) ∈ after) d d' := by
  obtain ⟨⟨members, rfl⟩, rows⟩ := mem_of_applyMemberDeltas h
  exact ⟨rfl, rfl, fun m there => ((rows m).mp there).imp And.left And.left⟩

end Deltas

theorem of_replaceGroupMembers {gid : Nat} {uids : List Nat} {created : Bool} {addedAt : Option Int}
    (h : (replaceGroupMembers gid uids created addedAt).run d = .ok (u, d')) :
    Adds (fun m => m.gid = gid ∧ m.uid ∈ uids) d d' := by
  have known (m : PosixGroupMember) (new : (m.gid, m.uid) ∈ uids.dedup.map fun uid => (gid, uid)) :
      m.gid = gid ∧ m.uid ∈ uids := by
    simpa [eq_comm, And.comm] using new
  cases created with
  | true =>
    obtain ⟨_, m, first, h⟩ := run_bind_eq_ok.mp h
    exact (Adds.of_delete first).trans ((of_applyMemberDeltas h).mono known)
  | false =>
    replace h := run_get_bind_eq_ok.mp h
    exact (of_applyMemberDeltas h).mono known

theorem of_replaceMembershipsOf {uid : Nat} {gids : List Nat} {addedAt : Option Int}
    (h : (replaceMembershipsOf uid gids addedAt).run d = .ok (u, d')) :
    Adds (fun m => m.uid = uid ∧ m.gid ∈ gids) d d' := by
  replace h := run_get_bind_eq_ok.mp h
  refine (of_applyMemberDeltas h).mono fun m new => ?_
  simpa [eq_comm, And.comm] using new

end Memberships

/-! ## Accepting a number -/

/-- An account moves with the group it names. -/
def movedAccount (oldGID newGID : Nat) (now : Int) : PosixUser → PosixUser :=
  Rel.rewrite (fun row => row.own.gid == some oldGID) fun row =>
    { row with own := { row.own with gid := some newGID }, updatedAt := now }

/-- A pending gid that the account now has is not pending. -/
def settledAccount (newGID : Nat) : PosixUser → PosixUser :=
  Rel.rewrite (fun row => row.own.gid == some newGID && row.own.pendingGID == some newGID) fun row =>
    { row with own := { row.own with pendingGID := none } }

/-- The clock of an account with nothing pending stops. -/
def clearedAccount : PosixUser → PosixUser :=
  Rel.rewrite (fun row =>
      row.pendingNumber.isNone && row.own.pendingGID.isNone && row.pendingSince.isSome)
    fun row => { row with pendingSince := none, pendingNotifiedAt := none }

theorem clearedAccount_own (row : PosixUser) : (clearedAccount row).own = row.own := by
  unfold clearedAccount Rel.rewrite
  split <;> rfl

theorem settledAccount_gid {newGID : Nat} (row : PosixUser) :
    (settledAccount newGID row).own.gid = row.own.gid := by
  unfold settledAccount Rel.rewrite
  split <;> rfl

/-- What accepting the number of a group makes of an account. -/
def rekeyedAccount (oldGID newGID : Nat) (now : Int) (row : PosixUser) : PosixUser :=
  clearedAccount (settledAccount newGID (movedAccount oldGID newGID now row))

/-- A column that is neither a gid nor about what is pending. -/
theorem rekeyedAccount_column {β : Type} {oldGID newGID : Nat} {now : Int} (column : PosixUser → β)
    (own : ∀ row own, column { row with own := own } = column row)
    (updated : ∀ row own, column { row with own := own, updatedAt := now } = column row)
    (pending : ∀ row, column { row with pendingSince := none, pendingNotifiedAt := none } = column row)
    (row : PosixUser) : column (rekeyedAccount oldGID newGID now row) = column row := by
  have cleared : ∀ row, column (clearedAccount row) = column row := fun row =>
    Rel.rewrite_column column pending row
  have settled : ∀ row, column (settledAccount newGID row) = column row := fun row =>
    Rel.rewrite_column column (fun row => own row _) row
  have moved : ∀ row, column (movedAccount oldGID newGID now row) = column row := fun row =>
    Rel.rewrite_column column (fun row => updated row _) row
  rw [rekeyedAccount, cleared, settled, moved]

section Accepting

variable {d d' : Directory} {u : PUnit} {now : Int}

/-- One row is rewritten, and the holds it no longer has are released. -/
theorem evolves_of_accept {s m s' : Sheet t} {f : PosixRow α → PosixRow α}
    {row accepted : PosixRow α} (stored : row ∈ s.rows.rows)
    (update : (updateRows (fun other => other.id == row.id) f).run s = .ok (u, m))
    (same : ∀ a, (f a).id = a.id) (release : (releaseHolds accepted now).run m = .ok (u, s')) :
    ∃ m ids, m.collisions = s.collisions ∧
      Evolves (fun a b => a = row ∧ b = f row ∨ a.id ≠ row.id ∧ b = a) (fun _ => False) s m ∧
      RecordSpec [] ids m s' := by
  obtain ⟨ids, record⟩ := of_releaseHolds release
  refine ⟨m, ids, and_assoc.mp ⟨evolves_of_updateRows update same (fun a there here => .inl ?_)
    fun a _ other => .inr ⟨by simpa using other, rfl⟩, record⟩⟩
  obtain rfl := eq_of_id there stored (by simpa using here)
  exact ⟨rfl, rfl⟩

/-- The memberships of an account that is renumbered. -/
theorem of_moveMemberships {row : PosixUser} {newUID : Nat}
    (h : (moveMemberships row newUID).run d = .ok (u, d')) :
    d'.accounts = d.accounts ∧ d'.groups = d.groups ∧ ∀ m' ∈ d'.members.rows, ∃ m ∈ d.members.rows,
      m'.gid = m.gid ∧ (m.uid = row.number ∧ m'.uid = newUID ∨ m.uid ≠ row.number ∧ m'.uid = m.uid) := by
  unfold moveMemberships at h
  split_ifs at h with same
  · obtain ⟨-, rfl⟩ := run_pure_eq_ok.mp h
    refine ⟨rfl, rfl, fun m member => ⟨m, member, rfl, ?_⟩⟩
    by_cases mine : m.uid = row.number
    · exact .inl ⟨mine, mine.trans same.symm⟩
    · exact .inr ⟨mine, rfl⟩
  · replace h := run_get_bind_eq_ok.mp h
    cases held : d.accounts.holderOf (fun other => other.number == newUID) row.id with
    | some =>
      rw [held] at h
      exact (run_throw_ne_ok h).elim
    | none =>
      rw [held] at h
      obtain ⟨_, _, second, h⟩ := run_bind_eq_ok.mp h
      obtain rfl := of_deleteMembers second
      obtain ⟨members, rfl, moved⟩ := of_updateMembers h
      refine ⟨rfl, rfl, fun m' after => ?_⟩
      obtain ⟨m, before, ⟨mine, rfl⟩ | ⟨other, rfl⟩⟩ := moved m' after
      · exact ⟨m, (Rel.mem_delete.mp before).1, rfl, .inl ⟨by simpa using mine, rfl⟩⟩
      · exact ⟨m', (Rel.mem_delete.mp before).1, rfl, .inr ⟨by simpa using other, rfl⟩⟩

/-- What `acceptUser` does. -/
theorem of_acceptUser {uid : Nat} {accepted : PosixUser}
    (h : (acceptUser uid now).run d = .ok (accepted, d')) :
    ∃ row ∈ d.accounts.rows.rows, row.number = uid ∧ d'.groups = d.groups ∧
      (∃ m ids, m.collisions = d.accounts.collisions ∧
        Evolves (fun a b => a = row ∧ b = acceptedAccount now row ∨ a.id ≠ row.id ∧ b = a)
          (fun _ => False) d.accounts m ∧ RecordSpec [] ids m d'.accounts) ∧
      ∀ m' ∈ d'.members.rows, ∃ m ∈ d.members.rows, m'.gid = m.gid ∧
        (m.uid = uid ∧ m'.uid = row.pendingNumber.getD row.number ∨
          m.uid ≠ uid ∧ m'.uid = m.uid) := by
  replace h := run_get_bind_eq_ok.mp h
  cases found : d.accounts.first fun row => row.number == uid with
  | none =>
    rw [found] at h
    exact (run_throw_ne_ok h).elim
  | some row =>
    rw [found] at h
    dsimp only at h
    split_ifs at h with settled
    · exact (run_throw_ne_ok h).elim
    · obtain ⟨stored, here⟩ := of_first found
      have number : row.number = uid := by simpa using here
      obtain ⟨_, d₁, second, h⟩ := run_bind_eq_ok.mp h
      obtain ⟨accounts₁, groups₁, members₁⟩ := of_moveMemberships second
      obtain ⟨_, d₂, third, h⟩ := run_bind_eq_ok.mp h
      obtain ⟨m, update, rfl⟩ := run_onAccounts_eq_ok.mp third
      obtain ⟨current, d₃, fourth, h⟩ := run_bind_eq_ok.mp h
      obtain ⟨m₁, reread, rfl⟩ := run_onAccounts_eq_ok.mp fourth
      obtain ⟨rfl, -, -⟩ := of_firstByID reread
      obtain ⟨_, d₄, fifth, h⟩ := run_bind_eq_ok.mp h
      obtain ⟨m₂, release, rfl⟩ := run_onAccounts_eq_ok.mp fifth
      obtain ⟨rfl, rfl⟩ := run_pure_eq_ok.mp h
      rw [accounts₁] at update
      have updated := evolves_of_accept stored update (fun _ => rfl) release
      exact ⟨row, stored, number, groups₁, updated,
        number ▸ members₁⟩

/-- What renumbering a group does to the accounts and the memberships. -/
theorem of_rekeyGroup {oldGID newGID : Nat}
    (h : (rekeyGroup oldGID newGID now).run d = .ok (u, d')) :
    d'.groups = d.groups ∧ d'.accounts.collisions = d.accounts.collisions ∧
      Evolves (fun a b => b = rekeyedAccount oldGID newGID now a) (fun _ => False) d.accounts
        d'.accounts ∧
      ∀ m' ∈ d'.members.rows, ∃ m ∈ d.members.rows, m'.uid = m.uid ∧
        (m.gid = oldGID ∧ m'.gid = newGID ∨ m.gid ≠ oldGID ∧ m'.gid = m.gid) := by
  obtain ⟨_, _, first, h⟩ := run_bind_eq_ok.mp h
  obtain rfl := of_deleteMembers first
  obtain ⟨_, _, second, h⟩ := run_bind_eq_ok.mp h
  obtain ⟨members, rfl, rekeyed⟩ := of_updateMembers second
  obtain ⟨_, _, third, h⟩ := run_bind_eq_ok.mp h
  obtain ⟨m₁, moved, rfl⟩ := run_onAccounts_eq_ok.mp third
  obtain ⟨_, _, fourth, h⟩ := run_bind_eq_ok.mp h
  obtain ⟨m₂, settled, rfl⟩ := run_onAccounts_eq_ok.mp fourth
  obtain ⟨m₃, cleared, rfl⟩ := run_onAccounts_eq_ok.mp h
  obtain ⟨rows₁, collisions₁⟩ := of_updateRows moved
  obtain ⟨rows₂, collisions₂⟩ := of_updateRows settled
  obtain ⟨rows₃, collisions₃⟩ := of_updateRows cleared
  refine ⟨rfl, collisions₃.trans (collisions₂.trans collisions₁), ?_, fun m' after => ?_⟩
  · refine Evolves.of_map (g := rekeyedAccount oldGID newGID now) ?_ (fun row _ => ?_) fun _ _ => rfl
    · rw [rows₃, rows₂, rows₁, map_map, map_map]
      rfl
    · exact rekeyedAccount_column PosixRow.id (fun _ _ => rfl) (fun _ _ => rfl) (fun _ => rfl) row
  · obtain ⟨m, before, ⟨mine, rfl⟩ | ⟨other, rfl⟩⟩ := rekeyed m' after
    · exact ⟨m, (Rel.mem_delete.mp before).1, rfl, .inl ⟨by simpa using mine, rfl⟩⟩
    · exact ⟨m', (Rel.mem_delete.mp before).1, rfl, .inr ⟨by simpa using other, rfl⟩⟩

/-- What `acceptGroup` does. -/
theorem of_acceptGroup {gid : Nat} {accepted : PosixGroup}
    (h : (acceptGroup gid now).run d = .ok (accepted, d')) :
    ∃ row ∈ d.groups.rows.rows, ∃ newGID, row.number = gid ∧ row.pendingNumber = some newGID ∧
      d'.accounts.collisions = d.accounts.collisions ∧
      Evolves (fun a b => b = rekeyedAccount gid newGID now a) (fun _ => False) d.accounts
        d'.accounts ∧
      (∃ m ids, m.collisions = d.groups.collisions ∧
        Evolves (fun a b => a = row ∧ b = acceptedGroup now row ∨ a.id ≠ row.id ∧ b = a)
          (fun _ => False) d.groups m ∧ RecordSpec [] ids m d'.groups) ∧
      ∀ m' ∈ d'.members.rows, ∃ m ∈ d.members.rows, m'.uid = m.uid ∧
        (m.gid = gid ∧ m'.gid = newGID ∨ m.gid ≠ gid ∧ m'.gid = m.gid) := by
  replace h := run_get_bind_eq_ok.mp h
  cases found : d.groups.first fun row => row.number == gid with
  | none =>
    rw [found] at h
    exact (run_throw_ne_ok h).elim
  | some row =>
    rw [found] at h
    dsimp only at h
    obtain ⟨stored, here⟩ := of_first found
    have number : row.number = gid := by simpa using here
    cases pending : row.pendingNumber with
    | none =>
      rw [pending] at h
      exact (run_throw_ne_ok h).elim
    | some newGID =>
      rw [pending] at h
      dsimp only at h
      cases held : d.groups.holderOf (fun other => other.number == newGID) row.id with
      | some =>
        rw [held] at h
        exact (run_throw_ne_ok h).elim
      | none =>
        rw [held] at h
        obtain ⟨_, d₁, second, h⟩ := run_bind_eq_ok.mp h
        obtain ⟨groups₁, collisions₁, accounts₁, members₁⟩ := of_rekeyGroup second
        obtain ⟨_, d₂, third, h⟩ := run_bind_eq_ok.mp h
        obtain ⟨m, update, rfl⟩ := run_onGroups_eq_ok.mp third
        obtain ⟨current, d₃, fourth, h⟩ := run_bind_eq_ok.mp h
        obtain ⟨m₁, reread, rfl⟩ := run_onGroups_eq_ok.mp fourth
        obtain ⟨rfl, -, -⟩ := of_firstByID reread
        obtain ⟨_, d₄, fifth, h⟩ := run_bind_eq_ok.mp h
        obtain ⟨m₂, release, rfl⟩ := run_onGroups_eq_ok.mp fifth
        obtain ⟨rfl, rfl⟩ := run_pure_eq_ok.mp h
        rw [groups₁] at update
        have updated := evolves_of_accept stored update (fun _ => rfl) release
        exact ⟨row, stored, newGID, number, pending, collisions₁, number ▸ accounts₁,
          updated, number ▸ members₁⟩

end Accepting

/-! ## Purging -/

section Purging

variable {d d' : Directory} {u : PUnit} {now : Int} {ref : RowRef}

/-- What a purge leaves of a table: the row and the collisions that name it are gone, and
the other rows they named are judged again. -/
inductive Purges (ref : RowRef) (s s' : Sheet t) : Prop
  | mk {m : Sheet t} {ids : List String}
      (rows : m.rows = s.rows.delete fun row => row.id == ref.id && row.deletedAt.isSome)
      (collisions : ∀ k, k ∈ m.collisions.rows ↔ k ∈ s.collisions.rows ∧ k.names ref.id = false)
      (record : RecordSpec [] ids m s')
      (affected : ∀ k ∈ s.collisions.rows, k.names ref.id = true →
        ∀ other, k.names other = true → other ≠ ref.id → other ∈ ids)
      (gone : ∃ row ∈ s.rows.rows, row.id = ref.id ∧ row.deletedAt.isSome = true)

theorem of_purgeAccount (h : (purgeAccount ref now).run d = .ok (u, d')) :
    Purges ref d.accounts d'.accounts ∧ d'.groups = d.groups ∧
      d'.members = d.members.delete fun m => m.uid == ref.number := by
  obtain ⟨_, _, first, h⟩ := run_bind_eq_ok.mp h
  obtain ⟨kept, purge, rfl⟩ := run_onAccounts_eq_ok.mp first
  obtain ⟨rfl, gone⟩ := of_purgeRow purge
  obtain ⟨_, _, second, h⟩ := run_bind_eq_ok.mp h
  obtain rfl := of_deleteMembers second
  obtain ⟨last, drop, rfl⟩ := run_onAccounts_eq_ok.mp h
  obtain ⟨m, ids, rows, deleted, record, all⟩ := of_dropCollisionsOf drop
  exact ⟨.mk rows deleted record all gone, rfl, rfl⟩

theorem of_purgeGroup (h : (purgeGroup ref now).run d = .ok (u, d')) :
    Purges ref d.groups d'.groups ∧ d'.accounts = d.accounts ∧
      d'.members = d.members.delete fun m => m.gid == ref.number := by
  obtain ⟨_, _, first, h⟩ := run_bind_eq_ok.mp h
  obtain ⟨kept, purge, rfl⟩ := run_onGroups_eq_ok.mp first
  obtain ⟨rfl, gone⟩ := of_purgeRow purge
  obtain ⟨_, _, second, h⟩ := run_bind_eq_ok.mp h
  obtain rfl := of_deleteMembers second
  obtain ⟨last, drop, rfl⟩ := run_onGroups_eq_ok.mp h
  obtain ⟨m, ids, rows, deleted, record, all⟩ := of_dropCollisionsOf drop
  exact ⟨.mk rows deleted record all gone, rfl, rfl⟩

end Purging

/-! ## Changes -/

/-- All that a transaction may do to a stored account. -/
inductive AccountChange (d : Directory) : Statement → PosixUser → PosixUser → Prop
  | same {statement : Statement} {row row' : PosixUser} (changed : Same row row') :
      AccountChange d statement row row'
  | stored {settings : Settings} {a : NSSAccount} {disabled : Bool} {contenders : List NSSAccount}
      {complete : NSSKinds} {now : Int} {row row' : PosixUser} (name : String)
      (anchor : accountAnchor settings d.accounts a = some row.id)
      (changed : Same (refresh a.ref (followAccount settings a disabled now) name now row) row') :
      AccountChange d (.storeAccount settings a disabled contenders complete now) row row'
  | accepted {uid : Nat} {now : Int} {row row' : PosixUser} (number : row.number = uid)
      (changed : Same (acceptedAccount now row) row') :
      AccountChange d (.acceptUser uid now) row row'
  | rekeyed {gid newGID : Nat} {now : Int} {row row' : PosixUser} {group : PosixGroup}
      (stored : group ∈ d.groups.rows.rows) (number : group.number = gid)
      (pending : group.pendingNumber = some newGID)
      (changed : Same (rekeyedAccount gid newGID now row) row') :
      AccountChange d (.acceptGroup gid now) row row'
  | missing {start now : Int} {row row' : PosixUser} (unseen : row.lastSyncedAt < start)
      (present : row.missingSince = none)
      (changed : Same { row with missingSince := some now } row') :
      AccountChange d (.markMissing .accounts start now) row row'
  | tombstoned {ref : RowRef} {now : Int} {row row' : PosixUser} (id : row.id = ref.id)
      (live : row.deletedAt = none) (changed : Same { row with deletedAt := some now } row') :
      AccountChange d (.tombstone .accounts ref now) row row'
  | linked {id userID : String} {now : Int} {row row' : PosixUser} (here : row.id = id)
      (free : row.own.userID = none)
      (changed : Same { row with own := { row.own with userID := some userID } } row') :
      AccountChange d (.link id userID now) row row'
  | claimed {read : PosixUser} {now : Int} {row row' : PosixUser} (id : row.id = read.id)
      (unmailed : row.pendingNotifiedAt = none) (number : row.pendingNumber = read.pendingNumber)
      (gid : row.own.pendingGID = read.own.pendingGID)
      (changed : Same { row with pendingNotifiedAt := some now } row') :
      AccountChange d (.claimAccount read now) row row'

/-- The account a transaction may insert. -/
inductive AccountBorn (newID : String) : Statement → PosixUser → Prop
  | stored {settings : Settings} {a : NSSAccount} {disabled : Bool} {contenders : List NSSAccount}
      {complete : NSSKinds} {now : Int} {row : PosixUser}
      (born : Same (newAccount newID a disabled now) row) :
      AccountBorn newID (.storeAccount settings a disabled contenders complete now) row

/-- The account a transaction may delete. -/
def Statement.dropsAccount : Statement → PosixUser → Bool
  | .purge .accounts ref _, row => row.id == ref.id && row.deletedAt.isSome
  | _, _ => false

/-- All that a transaction may do to a stored group. -/
inductive GroupChange (d : Directory) : Statement → PosixGroup → PosixGroup → Prop
  | same {statement : Statement} {row row' : PosixGroup} (changed : Same row row') :
      GroupChange d statement row row'
  | stored {settings : Settings} {g : NSSGroup} {contenders : List NSSGroup} {complete : NSSKinds}
      {index : Option NSSMemberIndex} {gone : Option (String → Bool)} {importing : Bool} {now : Int}
      {row row' : PosixGroup} (name : String)
      (anchor : groupAnchor settings d.groups g contenders gone = some row.id)
      (changed : Same (refresh g.ref (followGroup g now) name now row) row') :
      GroupChange d (.storeGroup settings g contenders complete index gone importing now) row row'
  | accepted {gid : Nat} {now : Int} {row row' : PosixGroup} (number : row.number = gid)
      (pending : row.pendingNumber ≠ none) (changed : Same (acceptedGroup now row) row') :
      GroupChange d (.acceptGroup gid now) row row'
  | missing {start now : Int} {row row' : PosixGroup} (unseen : row.lastSyncedAt < start)
      (present : row.missingSince = none)
      (changed : Same { row with missingSince := some now } row') :
      GroupChange d (.markMissing .groups start now) row row'
  | tombstoned {ref : RowRef} {now : Int} {row row' : PosixGroup} (id : row.id = ref.id)
      (live : row.deletedAt = none) (changed : Same { row with deletedAt := some now } row') :
      GroupChange d (.tombstone .groups ref now) row row'
  | claimed {read : PosixGroup} {now : Int} {row row' : PosixGroup} (id : row.id = read.id)
      (unmailed : row.pendingNotifiedAt = none) (number : row.pendingNumber = read.pendingNumber)
      (changed : Same { row with pendingNotifiedAt := some now } row') :
      GroupChange d (.claimGroup read now) row row'

/-- The group a transaction may insert. -/
inductive GroupBorn (newID : String) : Statement → PosixGroup → Prop
  | stored {settings : Settings} {g : NSSGroup} {contenders : List NSSGroup} {complete : NSSKinds}
      {index : Option NSSMemberIndex} {gone : Option (String → Bool)} {importing : Bool} {now : Int}
      {row : PosixGroup} (born : Same (newGroup newID g now) row) :
      GroupBorn newID (.storeGroup settings g contenders complete index gone importing now) row

/-- The group a transaction may delete. -/
def Statement.dropsGroup : Statement → PosixGroup → Bool
  | .purge .groups ref _, row => row.id == ref.id && row.deletedAt.isSome
  | _, _ => false

/-- A table after a transaction that may also delete rows. -/
structure Turns (drops : PosixRow α → Bool) (E : PosixRow α → PosixRow α → Prop)
    (B : PosixRow α → Prop) (s s' : Sheet t) : Prop where
  origin : ∀ row' ∈ s'.rows.rows,
    (∃ row ∈ s.rows.rows, row'.id = row.id ∧ E row row') ∨
      (B row' ∧ ∀ row ∈ s.rows.rows, row.id ≠ row'.id)
  persists : ∀ row ∈ s.rows.rows, drops row = false →
    ∃ row' ∈ s'.rows.rows, row'.id = row.id ∧ E row row'
  dropped : ∀ row ∈ s.rows.rows, drops row = true → ∀ row' ∈ s'.rows.rows, row'.id ≠ row.id

section Turns

variable {s s' : Sheet t} {E : PosixRow α → PosixRow α → Prop} {B : PosixRow α → Prop}

/-- A transaction that deletes nothing. -/
theorem Evolves.turns {E₀ : PosixRow α → PosixRow α → Prop} {B₀ : PosixRow α → Prop}
    (h : Evolves E₀ B₀ s s') (wider : ∀ {a b}, b.id = a.id → E₀ a b → E a b)
    (births : ∀ {a}, B₀ a → B a) : Turns (fun _ => false) E B s s' := by
  have wide : Evolves E B s s' := h.mono wider births
  exact ⟨wide.origin, fun row before _ => wide.persists row before, fun _ _ gone =>
    Bool.noConfusion gone⟩

/-- A row and what became of it. -/
theorem Turns.row {drops : PosixRow α → Bool} (h : Turns drops E B s s') {row row' : PosixRow α}
    (before : row ∈ s.rows.rows) (after : row' ∈ s'.rows.rows) (same : row'.id = row.id) :
    E row row' := by
  cases gone : drops row with
  | true => exact (h.dropped row before gone row' after same).elim
  | false =>
    obtain ⟨next, there, id, changed⟩ := h.persists row before gone
    obtain rfl := eq_of_id there after (id.trans same.symm)
    exact changed

theorem Purges.turns {ref : RowRef} (h : Purges ref s s') (quiet : ∀ {a b}, Same a b → E a b) :
    Turns (fun row => row.id == ref.id && row.deletedAt.isSome) E B s s' := by
  obtain ⟨rows, -, record, -, -⟩ := h
  rename_i m ids
  have kept : ∀ row, row ∈ m.rows.rows ↔
      row ∈ s.rows.rows ∧ (row.id == ref.id && row.deletedAt.isSome) = false := by
    intro row
    rw [rows]
    exact Rel.mem_delete
  refine ⟨fun row' after => ?_, fun row before stays => ?_, fun row before gone row' after same => ?_⟩
  · rcases record.rows.origin row' after with ⟨row, between, id, judged⟩ | ⟨no, -⟩
    · exact .inl ⟨row, ((kept row).mp between).1, id, quiet judged.same⟩
    · exact no.elim
  · obtain ⟨row', after, id, judged⟩ := record.rows.persists row ((kept row).mpr ⟨before, stays⟩)
    exact ⟨row', after, id, quiet judged.same⟩
  · rcases record.rows.origin row' after with ⟨other, between, id, -⟩ | ⟨no, -⟩
    · obtain ⟨there, stays⟩ := (kept other).mp between
      obtain rfl := eq_of_id there before (id.symm.trans same)
      rw [gone] at stays
      cases stays
    · exact no.elim

end Turns

/-- Where a collision has a row on record under a DN, the entry at that DN is anchored to it. -/
def Sheet.Recognizes (s : Sheet t) (dn : String) (anchor : Option String) : Prop :=
  ∀ k ∈ s.collisions.rows, k.otherDN = dn → ∀ id, k.otherID = some id → anchor = some id

/-- Where a store meets a DN that a collision has on record with a row, the entry at that DN is
still the one stored in that row. -/
def Recognized (d : Directory) : Statement → Prop
  | .storeAccount settings a _ contenders _ _ =>
    d.accounts.Recognizes a.dn (accountAnchor settings d.accounts a) ∧
      ∀ c ∈ contenders, c.dn ≠ "" ∧
        d.accounts.Recognizes c.dn ((d.accounts.matchRow settings c.ref).map (·.id))
  | .storeGroup settings g contenders _ _ gone _ _ =>
    d.groups.Recognizes g.dn (groupAnchor settings d.groups g contenders gone) ∧
      ∀ c ∈ contenders, c.dn ≠ "" ∧
        d.groups.Recognizes c.dn ((d.groups.matchRow settings c.ref).map (·.id))
  | _ => True

/-- What a store does to a row, in the words of the lists of changes. -/
theorem Stores.cases {e : NSSEntryRef} {follow : PosixRow α → PosixRow α} {now : Int}
    {target : Option String} {row row' : PosixRow α} (h : Stores e follow now target row row') :
    Same row row' ∨ ∃ name, target = some row.id ∧ Same (refresh e follow name now row) row' := by
  obtain ⟨mid, wrote, same⟩ := h
  cases wrote with
  | kept | released => exact .inl same
  | refreshed name anchor => exact .inr ⟨name, anchor, same⟩

/-- **What a transaction does to one of the tables.**  It changes rows by way of `m`, withholding
none, and judges some of them; or it stores an entry; or it purges a tombstone. -/
inductive Transacts (drops : PosixRow α → Bool) (E : PosixRow α → PosixRow α → Prop)
    (B : PosixRow α → Prop) (recognized : Prop) (s s' : Sheet t) : Prop
  | changes {E₀ : PosixRow α → PosixRow α → Prop} {m : Sheet t} {ids : List String}
      (all : drops = fun _ => false) (evolves : Evolves E₀ (fun _ => False) s m)
      (collisions : m.collisions = s.collisions) (record : RecordSpec [] ids m s')
      (each : ∀ {a b}, E₀ a b → b.withheldAt = a.withheldAt ∧ ∀ {c}, Same b c → E a c)
  | stores {settings : Settings} {e : NSSEntryRef} {follow : PosixRow α → PosixRow α} {now : Int}
      {target : Option String} {born : PosixRow α} {contenders : List NSSEntryRef} {out : Stored α}
      (all : drops = fun _ => false)
      (spec : StoreSpec settings e follow now target born contenders s out s')
      (held : ∀ row, (follow row).withheldAt = row.withheldAt) (free : born.withheldAt = none)
      (same : ∀ {a b}, Same a b → E a b)
      (each : ∀ {a b} name, target = some a.id → Same (refresh e follow name now a) b → E a b)
      (births : ∀ {a}, Same born a → B a)
      (known : recognized → s.Recognizes e.dn target ∧
        ∀ c ∈ contenders, c.dn ≠ "" ∧ s.Recognizes c.dn ((s.matchRow settings c).map (·.id)))
  | purges {ref : RowRef} (one : drops = fun row => row.id == ref.id && row.deletedAt.isSome)
      (purge : Purges ref s s') (same : ∀ {a b}, Same a b → E a b)

section Transacts

variable {drops : PosixRow α → Bool} {E : PosixRow α → PosixRow α → Prop} {B : PosixRow α → Prop}
variable {recognized : Prop} {s s' : Sheet t}

theorem Transacts.turns (h : Transacts drops E B recognized s s') : Turns drops E B s s' := by
  cases h with
  | changes all evolves collisions record each =>
    subst all
    exact (evolves.comp record.rows (E := E) (B := fun _ => False)
      (fun _ changed judged => (each changed).2 judged.same) (fun no _ => no.elim)
      fun no => no).turns (fun _ h => h) fun no => no.elim
  | stores all spec held free same each births =>
    subst all
    refine spec.evolves.turns (fun _ stores => ?_) births
    rcases stores.cases with unchanged | ⟨name, anchor, changed⟩
    · exact same unchanged
    · exact each name anchor changed
  | purges one purge same =>
    subst one
    exact purge.turns same

/-- A transaction that only judges rows ... -/
theorem Transacts.of_record {ids : List String} (all : drops = fun _ => false)
    (record : RecordSpec [] ids s s') (same : ∀ {a b}, Same a b → E a b) :
    Transacts drops E B recognized s s' := by
  have still : Evolves Eq (fun _ => False) s s := .of_rows_eq rfl fun _ => rfl
  refine .changes all still rfl record ?_
  rintro a b rfl
  exact ⟨rfl, same⟩

/-- ... or does not touch the table. -/
theorem Transacts.of_eq (all : drops = fun _ => false) (unchanged : s' = s)
    (same : ∀ {a b}, Same a b → E a b) : Transacts drops E B recognized s s' := by
  subst unchanged
  exact .of_record all (.refl _) same

/-- ... or changes some rows in one way. -/
theorem Transacts.of_changes {P : PosixRow α → Prop} {f : PosixRow α → PosixRow α}
    (all : drops = fun _ => false) (changes : s.Changes P f s')
    (held : ∀ row, (f row).withheldAt = row.withheldAt) (same : ∀ {a b}, Same a b → E a b)
    (each : ∀ {a b}, P a → Same (f a) b → E a b) : Transacts drops E B recognized s s' := by
  refine .changes all changes.2 changes.1 (.refl _) ?_
  rintro a b (rfl | ⟨picked, rfl⟩)
  · exact ⟨rfl, same⟩
  · exact ⟨held a, each picked⟩

end Transacts

section Commit

variable {d d' : Directory} {newID : String} {statement : Statement} {result : statement.Result}

theorem of_storeGroup {settings : Settings} {g : NSSGroup} {contenders : List NSSGroup}
    {complete : NSSKinds} {index : Option NSSMemberIndex} {gone : Option (String → Bool)}
    {importing : Bool} {now : Int} {out : Stored Unit}
    (h : (storeGroup settings g contenders complete index gone importing now newID).run d =
      .ok (out, d')) :
    d'.accounts = d.accounts ∧
      StoreSpec settings g.ref (followGroup g now) now
        (groupAnchor settings d.groups g contenders gone) (newGroup newID g now)
        (contenders.map (·.ref)) d.groups out d'.groups ∧
      ∀ m ∈ d'.members.rows, m ∈ d.members.rows ∨ ∃ row members, out.row = some row ∧
        index = some members ∧ m.gid = row.number ∧
          m.uid ∈ members.resolve settings.text g.members := by
  obtain ⟨stored, d₁, first, h⟩ := run_bind_eq_ok.mp h
  obtain ⟨groups, store, rfl⟩ := run_onGroups_eq_ok.mp first
  obtain ⟨_, d₂, second, h⟩ := run_bind_eq_ok.mp h
  obtain ⟨rfl, rfl⟩ := run_pure_eq_ok.mp h
  have spec := of_storeGroupRow store
  unfold storeMembers at second
  cases row : stored.row with
  | none =>
    rw [row] at second
    obtain ⟨-, rfl⟩ := run_pure_eq_ok.mp second
    exact ⟨rfl, spec, fun m member => .inl member⟩
  | some written =>
    cases index with
    | none =>
      rw [row] at second
      obtain ⟨-, rfl⟩ := run_pure_eq_ok.mp second
      exact ⟨rfl, spec, fun m member => .inl member⟩
    | some members =>
      rw [row] at second
      have adds := of_replaceGroupMembers second
      refine ⟨adds.accounts, adds.groups ▸ spec, fun m member => ?_⟩
      exact (adds.members m member).imp_right fun added =>
        ⟨written, members, rfl, rfl, added.1, added.2⟩

theorem of_tombstoneGroup {ref : RowRef} {now : Int} {u : PUnit}
    (h : (tombstoneGroup ref now).run d = .ok (u, d')) :
    d'.accounts = d.accounts ∧
      d'.members = (d.members.delete fun m => m.gid == ref.number) ∧
      d.groups.Changes (fun row => row.id = ref.id ∧ row.deletedAt = none)
        (fun row => { row with deletedAt := some now, updatedAt := now }) d'.groups := by
  obtain ⟨_, _, first, h⟩ := run_bind_eq_ok.mp h
  obtain ⟨groups, mark, rfl⟩ := run_onGroups_eq_ok.mp first
  obtain rfl := of_deleteMembers h
  exact ⟨rfl, rfl, of_tombstoneRow mark⟩

/-- **Every transaction, and the two tables.** -/
theorem transacts (h : (statement.tx newID).run d = .ok (result, d')) :
    Transacts statement.dropsAccount (AccountChange d statement) (AccountBorn newID statement)
        (Recognized d statement) d.accounts d'.accounts ∧
      Transacts statement.dropsGroup (GroupChange d statement) (GroupBorn newID statement)
        (Recognized d statement) d.groups d'.groups := by
  cases statement with
  | storeAccount =>
    obtain ⟨accounts, store, rfl⟩ := run_onAccounts_eq_ok.mp h
    refine ⟨.stores rfl (of_storeAccount store) (fun _ => rfl) rfl .same .stored .stored ?_,
      .of_eq rfl rfl .same⟩
    exact fun known => ⟨known.1, forall_mem_map.mpr known.2⟩
  | storeGroup =>
    obtain ⟨accounts, store, -⟩ := of_storeGroup h
    refine ⟨.of_eq rfl accounts .same,
      .stores rfl store (fun _ => rfl) rfl .same .stored .stored ?_⟩
    exact fun known => ⟨known.1, forall_mem_map.mpr known.2⟩
  | replaceMembershipsOf =>
    have adds := of_replaceMembershipsOf h
    exact ⟨.of_eq rfl adds.accounts .same, .of_eq rfl adds.groups .same⟩
  | acceptUser =>
    obtain ⟨row, -, number, groups, ⟨m, ids, collisions, update, record⟩, -⟩ := of_acceptUser h
    refine ⟨.changes rfl update collisions record ?_, .of_eq rfl groups .same⟩
    rintro a b (⟨rfl, rfl⟩ | ⟨-, rfl⟩)
    · exact ⟨rfl, .accepted number⟩
    · exact ⟨rfl, .same⟩
  | acceptGroup =>
    obtain ⟨row, stored, newGID, number, pending, collisions, accounts,
      ⟨m, ids, collisions', update, record⟩, -⟩ := of_acceptGroup h
    refine ⟨.changes rfl accounts collisions (.refl _) ?_, .changes rfl update collisions' record ?_⟩
    · rintro a b rfl
      exact ⟨rekeyedAccount_column PosixRow.withheldAt (fun _ _ => rfl) (fun _ _ => rfl)
        (fun _ => rfl) a, .rekeyed stored number pending⟩
    · rintro a b (⟨rfl, rfl⟩ | ⟨-, rfl⟩)
      · exact ⟨rfl, .accepted number (by simp [pending])⟩
      · exact ⟨rfl, .same⟩
  | markMissing table =>
    cases table with
    | accounts =>
      obtain ⟨accounts, mark, rfl⟩ := run_onAccounts_eq_ok.mp h
      exact ⟨.of_changes rfl (of_markMissing mark) (fun _ => rfl) .same
        fun ⟨unseen, present⟩ => .missing unseen present, .of_eq rfl rfl .same⟩
    | groups =>
      obtain ⟨groups, mark, rfl⟩ := run_onGroups_eq_ok.mp h
      exact ⟨.of_eq rfl rfl .same, .of_changes rfl (of_markMissing mark) (fun _ => rfl) .same
        fun ⟨unseen, present⟩ => .missing unseen present⟩
  | tombstone table =>
    cases table with
    | accounts =>
      obtain ⟨accounts, mark, rfl⟩ := run_onAccounts_eq_ok.mp h
      exact ⟨.of_changes rfl (of_tombstoneRow mark) (fun _ => rfl) .same
        fun ⟨id, live⟩ => .tombstoned id live, .of_eq rfl rfl .same⟩
    | groups =>
      obtain ⟨accounts, -, groups⟩ := of_tombstoneGroup h
      exact ⟨.of_eq rfl accounts .same, .of_changes rfl groups (fun _ => rfl) .same
        fun ⟨id, live⟩ => .tombstoned id live⟩
  | sweepCollisions table =>
    cases table with
    | accounts =>
      obtain ⟨accounts, sweep, rfl⟩ := run_onAccounts_eq_ok.mp h
      obtain ⟨ids, record⟩ := of_sweepCollisions sweep
      exact ⟨.of_record rfl record .same, .of_eq rfl rfl .same⟩
    | groups =>
      obtain ⟨groups, sweep, rfl⟩ := run_onGroups_eq_ok.mp h
      obtain ⟨ids, record⟩ := of_sweepCollisions sweep
      exact ⟨.of_eq rfl rfl .same, .of_record rfl record .same⟩
  | purge table =>
    cases table with
    | accounts =>
      obtain ⟨purge, groups, -⟩ := of_purgeAccount h
      exact ⟨.purges rfl purge .same, .of_eq rfl groups .same⟩
    | groups =>
      obtain ⟨purge, accounts, -⟩ := of_purgeGroup h
      exact ⟨.of_eq rfl accounts .same, .purges rfl purge .same⟩
  | link =>
    obtain ⟨accounts, link, rfl⟩ := run_onAccounts_eq_ok.mp h
    exact ⟨.of_changes rfl (of_linkRow link) (fun _ => rfl) .same
      fun ⟨here, free⟩ => .linked here free, .of_eq rfl rfl .same⟩
  | claimAccount =>
    obtain ⟨accounts, claim, rfl⟩ := run_onAccounts_eq_ok.mp h
    refine ⟨.of_changes rfl (of_claimRow claim) (fun _ => rfl) .same ?_, .of_eq rfl rfl .same⟩
    rintro a b ⟨id, unmailed, same, -⟩
    simp only [and_eq_true, beq_iff_eq] at same
    exact .claimed id unmailed same.1 same.2
  | claimGroup =>
    obtain ⟨groups, claim, rfl⟩ := run_onGroups_eq_ok.mp h
    refine ⟨.of_eq rfl rfl .same, .of_changes rfl (of_claimRow claim) (fun _ => rfl) .same ?_⟩
    rintro a b ⟨id, unmailed, same, -⟩
    exact .claimed id unmailed (by simpa using same)

theorem accounts_turn (h : (statement.tx newID).run d = .ok (result, d')) :
    Turns statement.dropsAccount (AccountChange d statement) (AccountBorn newID statement)
      d.accounts d'.accounts :=
  (transacts h).1.turns

theorem groups_turn (h : (statement.tx newID).run d = .ok (result, d')) :
    Turns statement.dropsGroup (GroupChange d statement) (GroupBorn newID statement)
      d.groups d'.groups :=
  (transacts h).2.turns

/-- The group whose number was accepted has it. -/
theorem accepted_group {gid : Nat} {now : Int} {accepted : PosixGroup}
    (h : (acceptGroup gid now).run d = .ok (accepted, d')) :
    ∃ group ∈ d.groups.rows.rows, group.number = gid ∧ ∃ group' ∈ d'.groups.rows.rows,
      group'.id = group.id ∧ group.pendingNumber = some group'.number := by
  obtain ⟨row, stored, newGID, number, pending, -, -, ⟨m, ids, -, update, record⟩, -⟩ :=
    of_acceptGroup h
  obtain ⟨mid, between, id, changed⟩ := update.persists row stored
  obtain ⟨row', after, id', judged⟩ := record.rows.persists mid between
  refine ⟨row, stored, number, row', after, id'.trans id, ?_⟩
  rcases changed with ⟨-, rfl⟩ | ⟨apart, -⟩
  · rw [← judged.same.number, pending]
    show _ = some (row.pendingNumber.getD row.number)
    rw [pending, Option.getD_some]
  · exact (apart rfl).elim

end Commit

/-! ## Steps -/

/-- The step commits a transaction. -/
def Commits (cfg : ServiceConfig) (label : ServiceLabel) (statement : Statement) : Prop :=
  ∃ tid newID, label = .run tid (.done newID) ∧ cfg.heads tid = some (.commit statement)

theorem Query.note_directory (query : Query) (s : Shared) (tid : Tid) (row : query.Row) :
    (query.note s tid row).directory = s.directory := by
  cases query <;> rfl

theorem Statement.note_directory (statement : Statement) (s : Shared) (tid : Tid)
    (result : statement.Result) : (statement.note s tid result).directory = s.directory := by
  cases statement with
  | claimAccount | claimGroup => cases result <;> rfl
  | _ => rfl

section Exec

variable {tid : Tid} {s s' : Shared} {choice : Choice}

theorem of_exec_now {answer : Int} (h : exec tid s .now choice = some (s', answer)) : s' = s := by
  cases choice with
  | time =>
    cases h
    rfl
  | done | fail => cases h

/-- A read is answered, or it fails. -/
theorem of_exec_read {query : Query} {answer : Except Failure query.Row}
    (h : exec tid s (.read query) choice = some (s', answer)) :
    (s' = s ∧ ∃ failure, answer = .error failure) ∨
      (s' = query.note s tid (query.answer s.directory) ∧
        answer = .ok (query.answer s.directory)) := by
  cases choice with
  | time => cases h
  | done =>
    cases h
    exact .inr ⟨rfl, rfl⟩
  | fail =>
    cases h
    exact .inl ⟨rfl, _, rfl⟩

/-- A transaction commits, or it fails and changes nothing. -/
theorem of_exec_commit {statement : Statement} {answer : Except Failure statement.Result}
    (h : exec tid s (.commit statement) choice = some (s', answer)) :
    (s' = s ∧ ∃ failure, answer = .error failure) ∨
      ∃ newID result directory, choice = .done newID ∧
        (statement.tx newID).run s.directory = .ok (result, directory) ∧
        s' = statement.note { s with directory := directory } tid result ∧ answer = .ok result := by
  cases choice with
  | time => cases h
  | done newID =>
    unfold exec at h
    dsimp only at h
    cases done : (statement.tx newID).run s.directory with
    | error =>
      rw [done] at h
      cases h
      exact .inl ⟨rfl, _, rfl⟩
    | ok pair =>
      rw [done] at h
      cases h
      exact .inr ⟨newID, pair.1, pair.2, rfl, done, rfl, rfl⟩
  | fail =>
    cases h
    exact .inl ⟨rfl, _, rfl⟩

end Exec

/-- The directory changes in transactions only. -/
theorem directory_of_step {cfg next : ServiceConfig} {label : ServiceLabel}
    (stepped : service.step cfg label = some next) :
    next.shared.directory = cfg.shared.directory ∨
      ∃ statement newID result, Commits cfg label statement ∧
        (statement.tx newID).run cfg.shared.directory = .ok (result, next.shared.directory) := by
  rcases service.step_cases stepped with ⟨tid, call, rfl, -, rfl⟩ |
    ⟨tid, choice, thread, call, rfl, -, -, rfl⟩ |
    ⟨tid, choice, thread, action, rest, shared, answer, rfl, present, atAction, done, rfl⟩
  · exact .inl rfl
  · exact .inl rfl
  · cases action with
    | now => exact .inl (congrArg Shared.directory (of_exec_now done))
    | read query =>
      rcases of_exec_read done with ⟨rfl, -⟩ | ⟨rfl, -⟩
      · exact .inl rfl
      · exact .inl (query.note_directory _ _ _)
    | commit statement =>
      rcases of_exec_commit done with ⟨rfl, -⟩ |
        ⟨newID, result, directory, rfl, committed, rfl, -⟩
      · exact .inl rfl
      · refine .inr ⟨statement, newID, result, ⟨tid, newID, rfl, ?_⟩, ?_⟩
        · simp [Config.heads, present, atAction]
        · rw [Statement.note_directory]
          exact committed

/-! ## Transactions, one after another -/

/-- The directories that committed transactions lead to, where each of them is `ok` in the
directory it begins with. -/
inductive Committed (ok : Directory → Statement → Prop) : Directory → Prop
  | empty : Committed ok .empty
  | commit {d d' : Directory} {statement : Statement} {newID : String} {result : statement.Result}
      (before : Committed ok d) (permitted : ok d statement)
      (done : (statement.tx newID).run d = .ok (result, d')) : Committed ok d'

end Ssoossh.NSS
