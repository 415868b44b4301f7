import Ssoossh.NSS.Discipline
import Ssoossh.NSS.Frozen

/-!
# Tombstones and the rows that come back

A full run selects the rows it did not see and that have been missing long enough, and
then tombstones them, one transaction each.  The transaction looks at nothing but the id
and whether the row is a tombstone already, and takes the memberships of a group by the
number that was selected.  A read on demand or a login in between may have found the
entry again.

`tombstone_of_live` is such a schedule.  `tombstones_stale` says what keeps it from
happening: as long as no other call stores, renumbers or purges a row that a run still
running has selected, a tombstone is only ever set on a row that is missing, for long
enough and not seen since the run began, and only the memberships of such a group are
deleted.
-/

namespace Ssoossh.NSS

open Interleaving Relational GoTime List Option Sheet

variable {α : Type}

/-! ## Rows that are due -/

/-- A row that a run which began at `start` has not seen, and that was missing at `cutoff`. -/
def PosixRow.Stale (start cutoff : Int) (row : PosixRow α) : Prop :=
  row.lastSyncedAt < start ∧ ∃ since, row.missingSince = some since ∧ since ≤ cutoff

/-- What a run has selected is still as it was: the row is stale, and a group has the number
it had. -/
def Directory.Selected (d : Directory) (a : Awaited) : Prop :=
  match a.table with
  | .accounts => ∃ row ∈ d.accounts.rows.rows, row.id = a.row.id ∧ row.Stale a.start a.cutoff
  | .groups => ∃ row ∈ d.groups.rows.rows, row.id = a.row.id ∧ row.number = a.row.number ∧
    row.Stale a.start a.cutoff

/-- The transaction stores an entry in the selected row, gives a selected group another
number, or purges the row. -/
def Revives (d : Directory) (statement : Statement) (a : Awaited) : Prop :=
  match statement, a.table with
  | .storeAccount settings account _ _ _ _, .accounts =>
    accountAnchor settings d.accounts account = some a.row.id
  | .storeGroup settings g contenders _ _ gone _ _, .groups =>
    groupAnchor settings d.groups g contenders gone = some a.row.id
  | .acceptGroup gid _, .groups => ∃ row ∈ d.groups.rows.rows, row.id = a.row.id ∧ row.number = gid
  | .purge table ref _, table' => table = table' ∧ ref.id = a.row.id
  | _, _ => False

/-- The step revives no row that a run still running, other than the one that takes the
step, has selected and not yet tombstoned. -/
def Unrevived (cfg : ServiceConfig) (label : ServiceLabel) : Prop :=
  ∀ tid choice statement, label = .run tid choice → cfg.heads tid = some (.commit statement) →
    ∀ other, other ≠ tid → cfg.heads other ≠ none → ∀ a ∈ cfg.shared.awaiting other,
      ¬ Revives cfg.shared.directory statement a

variable {table : TableName} {ref : RowRef}

section Rows

variable {d d' : Directory} {statement : Statement} {newID : String} {result : statement.Result}
  {start cutoff : Int}

/-- A row that is changed in other columns only. -/
theorem PosixRow.Stale.of_same {row mid row' : PosixRow α} (h : row.Stale start cutoff)
    (same : Same mid row') (synced : mid.lastSyncedAt = row.lastSyncedAt)
    (missing : mid.missingSince = row.missingSince) : row'.Stale start cutoff := by
  unfold PosixRow.Stale
  rw [← same.agree PosixRow.lastSyncedAt fun _ => rfl, ← same.agree PosixRow.missingSince fun _ => rfl,
    synced, missing]
  exact h

/-- A stale account is only ever revived by a store that is anchored to it. -/
theorem AccountChange.stale {row row' : PosixUser} (changed : AccountChange d statement row row')
    (h : row.Stale start cutoff)
    (kept : ∀ settings a disabled contenders complete now,
      statement = .storeAccount settings a disabled contenders complete now →
        accountAnchor settings d.accounts a ≠ some row.id) : row'.Stale start cutoff := by
  cases changed with
  | same changed => exact h.of_same changed rfl rfl
  | stored name anchor => exact (kept _ _ _ _ _ _ rfl anchor).elim
  | accepted number changed => exact h.of_same changed rfl rfl
  | rekeyed stored number pending changed =>
    refine h.of_same changed ?_ ?_
    · exact rekeyedAccount_column PosixRow.lastSyncedAt (fun _ _ => rfl) (fun _ _ => rfl)
        (fun _ => rfl) row
    · exact rekeyedAccount_column PosixRow.missingSince (fun _ _ => rfl) (fun _ _ => rfl)
        (fun _ => rfl) row
  | missing unseen present =>
    obtain ⟨-, since, missing, -⟩ := h
    rw [present] at missing
    cases missing
  | tombstoned id live changed | linked here free changed
  | claimed id unmailed number gid changed => exact h.of_same changed rfl rfl

/-- A stale group is only ever revived by a store that is anchored to it. -/
theorem GroupChange.stale {row row' : PosixGroup} (changed : GroupChange d statement row row')
    (h : row.Stale start cutoff)
    (kept : ∀ settings g contenders complete index gone importing now,
      statement = .storeGroup settings g contenders complete index gone importing now →
        groupAnchor settings d.groups g contenders gone ≠ some row.id) : row'.Stale start cutoff := by
  cases changed with
  | same changed => exact h.of_same changed rfl rfl
  | stored name anchor => exact (kept _ _ _ _ _ _ _ _ rfl anchor).elim
  | accepted number pending changed => exact h.of_same changed rfl rfl
  | missing unseen present =>
    obtain ⟨-, since, missing, -⟩ := h
    rw [present] at missing
    cases missing
  | tombstoned id live changed
  | claimed id unmailed number changed => exact h.of_same changed rfl rfl

/-- **A selected row stays as it was**, unless the transaction revives it. -/
theorem Directory.Selected.frame {a : Awaited} (h : d.Selected a)
    (done : (statement.tx newID).run d = .ok (result, d')) (kept : ¬ Revives d statement a) :
    d'.Selected a := by
  obtain ⟨table, ref, start, cutoff⟩ := a
  cases table with
  | accounts =>
    obtain ⟨row, stored, here, stale⟩ := h
    have stays : statement.dropsAccount row = false := by
      unfold Statement.dropsAccount
      split
      · exact Bool.and_eq_false_imp.mpr fun same =>
          (kept ⟨rfl, (beq_iff_eq.mp same).symm.trans here⟩).elim
      · rfl
    obtain ⟨row', after, id, changed⟩ := (accounts_turn done).persists row stored stays
    refine ⟨row', after, id.trans here, changed.stale stale ?_⟩
    rintro settings a disabled contenders complete now rfl anchor
    exact kept (anchor.trans (congrArg some here))
  | groups =>
    obtain ⟨row, stored, here, number, stale⟩ := h
    have stays : statement.dropsGroup row = false := by
      unfold Statement.dropsGroup
      split
      · exact Bool.and_eq_false_imp.mpr fun same =>
          (kept ⟨rfl, (beq_iff_eq.mp same).symm.trans here⟩).elim
      · rfl
    obtain ⟨row', after, id, changed⟩ := (groups_turn done).persists row stored stays
    refine ⟨row', after, id.trans here, ?_, changed.stale stale ?_⟩
    · rcases changed.number with same | ⟨now, rfl, -⟩
      · exact same.trans number
      · exact (kept ⟨row, stored, here, rfl⟩).elim
    · rintro settings g contenders complete index gone importing now rfl anchor
      exact kept (anchor.trans (congrArg some here))

/-- What a selection finds. -/
theorem selected_of_due {rows : List RowRef}
    (answered : rows = Query.answer d (.due table start cutoff)) (h : ref ∈ rows) :
    d.Selected ⟨table, ref, start, cutoff⟩ := by
  have stale : ∀ {α : Type} {row : PosixRow α}, row.due start cutoff = true →
      row.Stale start cutoff := by
    intro α row due
    simp only [PosixRow.due, Bool.and_eq_true, decide_eq_true_eq, Option.any_eq_true] at due
    obtain ⟨⟨synced, -⟩, since, missing, early⟩ := due
    exact ⟨synced, since, missing, by simpa using early⟩
  rw [answered] at h
  cases table with
  | accounts =>
    obtain ⟨row, picked, rfl⟩ := mem_map.mp h
    obtain ⟨stored, due⟩ := mem_filter.mp picked
    exact ⟨row, mem_ordered.mp stored, rfl, stale due⟩
  | groups =>
    obtain ⟨row, picked, rfl⟩ := mem_map.mp h
    obtain ⟨stored, due⟩ := mem_filter.mp picked
    exact ⟨row, mem_ordered.mp stored, rfl, rfl, stale due⟩

end Rows

/-! ## What a run knows -/

/-- What a run has selected and not yet tombstoned is awaited, and still as it was. -/
def KnowsDue (tid : Tid) (past : History) (s : Shared) : Prop :=
  ∀ table ref start cutoff, FoundDue past table ref start cutoff → ¬ Tombstoned past table ref →
    ⟨table, ref, start, cutoff⟩ ∈ s.awaiting tid ∧ s.directory.Selected ⟨table, ref, start, cutoff⟩

section Knowing

variable {missing : Int} {begun : Option Int} {s s' : Shared} {d' : Directory} {tid other : Tid} {past : History}
  {newID : String}

theorem Query.note_awaiting_of_ne (query : Query) (row : query.Row) (apart : other ≠ tid) :
    (query.note s tid row).awaiting other = s.awaiting other := by
  cases query with
  | due => exact Function.update_of_ne apart _ _
  | _ => rfl

theorem Statement.note_awaiting_of_ne (statement : Statement) (result : statement.Result)
    (apart : other ≠ tid) : (statement.note s tid result).awaiting other = s.awaiting other := by
  cases statement with
  | tombstone => exact Function.update_of_ne apart _ _
  | claimAccount | claimGroup => cases result <;> rfl
  | _ => rfl

variable {start cutoff : Int}

theorem awaiting_due (rows : List RowRef) :
    (Query.note s tid (.due table start cutoff) rows).awaiting tid =
      rows.map (fun row => ⟨table, row, start, cutoff⟩) ++ s.awaiting tid :=
  Function.update_self ..

theorem awaiting_tombstone {row : RowRef} {now : Int} (u : PUnit) :
    (Statement.note s tid (.tombstone table row now) u).awaiting tid =
      (s.awaiting tid).filter fun other => decide ¬ (other.table = table ∧ other.row = row) :=
  Function.update_self ..

/-- One more event, in a state in which what was known still holds. -/
theorem KnowsDue.cons {action : Act} {answer : action.Resp} (h : KnowsDue tid past s)
    (kept : ∀ {table ref start cutoff}, FoundDue past table ref start cutoff →
      ¬ Tombstoned (⟨action, answer⟩ :: past) table ref →
      ⟨table, ref, start, cutoff⟩ ∈ s.awaiting tid →
      s.directory.Selected ⟨table, ref, start, cutoff⟩ →
      ⟨table, ref, start, cutoff⟩ ∈ s'.awaiting tid ∧
        s'.directory.Selected ⟨table, ref, start, cutoff⟩)
    (new : ∀ {table start cutoff} {rows : List RowRef},
      (⟨action, answer⟩ : Event Act.Resp) = ⟨.read (.due table start cutoff), .ok rows⟩ →
      ∀ ref ∈ rows, ⟨table, ref, start, cutoff⟩ ∈ s'.awaiting tid ∧
        s'.directory.Selected ⟨table, ref, start, cutoff⟩) :
    KnowsDue tid (⟨action, answer⟩ :: past) s' := by
  rintro table ref start cutoff ⟨rows, member, among⟩ unmarked
  rcases mem_cons.mp member with here | earlier
  · exact new here.symm ref among
  · have before : ¬ Tombstoned past table ref := by
      rintro ⟨now, answer, done⟩
      exact unmarked ⟨now, answer, mem_cons_of_mem _ done⟩
    have found : FoundDue past table ref start cutoff := ⟨rows, earlier, among⟩
    obtain ⟨awaited, selected⟩ := h table ref start cutoff found before
    exact kept found unmarked awaited selected

/-- An event that is no selection and changes nothing. -/
theorem KnowsDue.idle {action : Act} {answer : action.Resp} (h : KnowsDue tid past s)
    (other : ∀ {table start cutoff rows},
      (⟨action, answer⟩ : Event Act.Resp) ≠ ⟨.read (.due table start cutoff), .ok rows⟩) :
    KnowsDue tid (⟨action, answer⟩ :: past) s :=
  h.cons (fun _ _ awaited selected => ⟨awaited, selected⟩) fun same => (other same).elim

/-- A call with nothing selected in a table. -/
theorem Early.not_foundDue {tables : List TableName} (early : Early tables past)
    (among : table ∈ tables) : ¬ FoundDue past table ref start cutoff := by
  rintro ⟨rows, member, -⟩
  exact early _ member table among rfl

theorem PurgesOnly.not_foundDue (only : ∀ event ∈ past, Purging event.1) :
    ¬ FoundDue past table ref start cutoff := by
  rintro ⟨rows, member, -⟩
  exact only _ member

theorem KnowsDue.read {query : Query} {row : query.Row} (h : KnowsDue tid past s)
    (answered : row = query.answer s.directory) :
    KnowsDue tid (⟨.read query, .ok row⟩ :: past) (query.note s tid row) := by
  refine h.cons (fun _ _ awaited selected => ?_) fun {table start cutoff rows} same ref among => ?_
  · rw [Query.note_directory]
    refine ⟨?_, selected⟩
    cases query with
    | due =>
      rw [awaiting_due row]
      exact mem_append_right _ awaited
    | _ => exact awaited
  · rw [Query.note_directory]
    cases same
    refine ⟨?_, selected_of_due answered among⟩
    rw [awaiting_due rows]
    exact mem_append_left _ (mem_map_of_mem among)

theorem KnowsDue.commit {statement : Statement} {result : statement.Result}
    (h : KnowsDue tid past s) (may : May missing begun past (.commit statement))
    (done : (statement.tx newID).run s.directory = .ok (result, d')) :
    KnowsDue tid (⟨.commit statement, .ok result⟩ :: past)
      (statement.note { s with directory := d' } tid result) := by
  refine h.cons (fun {table ref start cutoff} found unmarked awaited selected => ?_) ?_
  · rw [Statement.note_directory]
    refine ⟨?_, selected.frame done fun revived => ?_⟩
    · cases statement with
      | tombstone t r now =>
        rw [awaiting_tombstone result, mem_filter]
        refine ⟨awaited, decide_eq_true ?_⟩
        rintro ⟨rfl, rfl⟩
        exact unmarked ⟨now, .ok result, mem_cons_self⟩
      | claimAccount | claimGroup => cases result <;> exact awaited
      | _ => exact awaited
    · -- a call that stores in a table, accepts or purges has selected nothing there
      cases statement with
      | storeAccount =>
        cases table with
        | accounts => exact Early.not_foundDue may (mem_singleton_self _) found
        | groups => exact revived
      | storeGroup =>
        cases table with
        | accounts => exact revived
        | groups => exact Early.not_foundDue may.1 (mem_singleton_self _) found
      | acceptUser => exact revived
      | acceptGroup =>
        refine PurgesOnly.not_foundDue (fun event member => ?_) found
        rw [may event member]
        trivial
      | purge => exact PurgesOnly.not_foundDue may.1 found
      | _ => exact revived
  · intro table start cutoff rows impossible
    cases impossible

/-- Another call's transaction revives nothing this one awaits. -/
theorem KnowsDue.kept {statement : Statement} {result : statement.Result}
    (h : KnowsDue other past s) (done : (statement.tx newID).run s.directory = .ok (result, d'))
    (apart : other ≠ tid) (spared : ∀ a ∈ s.awaiting other, ¬ Revives s.directory statement a) :
    KnowsDue other past (statement.note { s with directory := d' } tid result) := by
  intro table ref start cutoff found unmarked
  obtain ⟨awaited, selected⟩ := h table ref start cutoff found unmarked
  rw [statement.note_awaiting_of_ne (s := { s with directory := d' }) result apart,
    Statement.note_directory]
  exact ⟨awaited, selected.frame done (spared _ awaited)⟩

end Knowing

/-! ## Runs -/

/-- What the runs know about the rows they have selected, while nobody else revives them. -/
def dueKnowledge : Knowledge service where
  ok heads s tid action _ := ∀ statement, action = .commit statement → ∀ other, other ≠ tid →
    heads other ≠ none → ∀ a ∈ s.awaiting other, ¬ Revives s.directory statement a
  Inv _ := True
  Knows := KnowsDue
  Can := Plausible
  May := Call.May
  start _ := by
    rintro table ref start cutoff ⟨rows, none, -⟩
    cases none
  follows := follows_body
  own {heads s tid call past action choice s' answer} _ knows may _ done := by
    refine ⟨trivial, plausible_of_exec done, ?_⟩
    cases action with
    | now =>
      obtain rfl := of_exec_now done
      exact knows.idle fun impossible => by cases impossible
    | read =>
      rcases of_exec_read done with ⟨rfl, failure, rfl⟩ | ⟨rfl, rfl⟩
      · exact knows.idle fun impossible => by cases impossible
      · exact knows.read rfl
    | commit =>
      rcases of_exec_commit done with ⟨rfl, failure, rfl⟩ |
        ⟨newID, result, directory, rfl, committed, rfl, rfl⟩
      · exact knows.idle fun impossible => by cases impossible
      · obtain ⟨_, -, may⟩ := may
        exact knows.commit may committed
  others {heads s tid call past action choice s' answer other past'} _ knows may met done apart busy
      theirs := by
    cases action with
    | now =>
      obtain rfl := of_exec_now done
      exact theirs
    | read query =>
      rcases of_exec_read done with ⟨rfl, failure, rfl⟩ | ⟨rfl, rfl⟩
      · exact theirs
      · intro table ref start cutoff found unmarked
        rw [Query.note_awaiting_of_ne query _ apart, Query.note_directory]
        exact theirs table ref start cutoff found unmarked
    | commit statement =>
      rcases of_exec_commit done with ⟨rfl, failure, rfl⟩ |
        ⟨newID, result, directory, rfl, committed, rfl, rfl⟩
      · exact theirs
      · exact theirs.kept committed apart (met statement rfl other apart busy)

/-- **A live entry is never tombstoned**, in every run in which no step revives a row that
another run still running has selected and not yet tombstoned.  Whenever a run commits a
tombstone, a row gets its `deleted_at`, and a group loses its members, only if it has at
that moment been missing for as long as that run's configuration asks for, and was not
seen since the run began, which is when it first read the clock, to the microsecond. -/
theorem tombstones_stale {pasts : Tid → History} {cfg : ServiceConfig}
    (h : Traced service Unrevived idle pasts cfg)
    {tid : Tid} {thread : Thread Act Act.Resp Call Result} {table : TableName} {ref : RowRef}
    {now : Int} {choice : Choice} {next : ServiceConfig} (present : cfg.threads tid = some thread)
    (head : thread.rest.head? = some (.commit (.tombstone table ref now)))
    (stepped : service.step cfg (.run tid choice) = some next) :
    ∃ start cutoff, Begun (pasts tid) start ∧ (⟨.now, now⟩ : Event Act.Resp) ∈ pasts tid ∧
      cutoff = Time.add now (-thread.current.tombstoneAfter) ∧
      (∀ row ∈ cfg.shared.directory.accounts.rows.rows,
        ∀ row' ∈ next.shared.directory.accounts.rows.rows, row'.id = row.id →
          row'.deletedAt ≠ row.deletedAt → row.Stale start cutoff) ∧
      (∀ row ∈ cfg.shared.directory.groups.rows.rows,
        ∀ row' ∈ next.shared.directory.groups.rows.rows, row'.id = row.id →
          row'.deletedAt ≠ row.deletedAt → row.Stale start cutoff) ∧
      ∀ m ∈ cfg.shared.directory.members.rows, m ∉ next.shared.directory.members.rows →
        ∃ row ∈ cfg.shared.directory.groups.rows.rows, row.number = m.gid ∧ row.Stale start cutoff := by
  have spares : ∀ cfg label, Unrevived cfg label → dueKnowledge.Allowed cfg label := by
    intro cfg label spared
    cases label with
    | spawn => trivial
    | run tid choice =>
      intro action next statement same
      exact spared tid choice statement rfl (same ▸ next)
  have holds := dueKnowledge.traced (h.mono spares) trivial fun _ => rfl
  obtain ⟨⟨_, first, ⟨start, rfl, found⟩, clock, unmarked⟩, knows⟩ := holds.before _ present head
  obtain ⟨-, selected⟩ := knows table ref start _ found unmarked
  refine ⟨start, _, first start rfl, clock, rfl, ?_⟩
  rcases directory_of_step stepped with same | ⟨statement, newID, result, commits, done⟩
  · rw [same]
    refine ⟨fun row before row' after id changed => ?_, fun row before row' after id changed => ?_,
      fun m member gone => (gone member).elim⟩
    · exact (changed (by rw [eq_of_id after before id])).elim
    · exact (changed (by rw [eq_of_id after before id])).elim
  · have here : cfg.heads tid = some (.commit (.tombstone table ref now)) := by
      simp [Config.heads, present, head]
    obtain ⟨tid', newID', label, head'⟩ := commits
    cases label
    rw [here] at head'
    cases head'
    cases table with
    | accounts =>
      obtain ⟨row₀, stored, id₀, stale⟩ := selected
      obtain ⟨accounts, mark, whole⟩ := run_onAccounts_eq_ok.mp done
      rw [← whole]
      refine ⟨fun row before row' after id changed => ?_, fun row before row' after id changed => ?_,
        fun m member gone => (gone member).elim⟩
      · rcases (of_tombstoneRow mark).2.row before after id with rfl | ⟨⟨at', -⟩, -⟩
        · exact (changed rfl).elim
        · obtain rfl := eq_of_id before stored (at'.trans id₀.symm)
          exact stale
      · exact (changed (by rw [eq_of_id after before id])).elim
    | groups =>
      obtain ⟨row₀, stored, id₀, number, stale⟩ := selected
      obtain ⟨accounts, members, -, groups⟩ := of_tombstoneGroup done
      refine ⟨fun row before row' after id changed => ?_, fun row before row' after id changed => ?_,
        fun m member gone => ?_⟩
      · rw [accounts] at after
        exact (changed (by rw [eq_of_id after before id])).elim
      · rcases groups.row before after id with rfl | ⟨⟨at', -⟩, -⟩
        · exact (changed rfl).elim
        · obtain rfl := eq_of_id before stored (at'.trans id₀.symm)
          exact stale
      · refine ⟨row₀, stored, ?_, stale⟩
        rw [members] at gone
        by_contra other
        refine gone (Rel.mem_delete.mpr ⟨member, beq_false_of_ne fun same => other ?_⟩)
        exact number.trans same.symm

namespace Sample

/-- A full run that finds these accounts and no groups. -/
def fullSync (accounts : List NSSAccount) : Call :=
  .sync settings ⟨.ok (.full accounts []), .ok (.full [] []), none⟩

/-- An account is stored, and a first run does not find it. -/
def missed : List ServiceLabel :=
  refreshing 0 (account "ann" "1" "ann" 1000) "row" 1000 ++
  uninterrupted 1 (fullSync []) [.time 2000, .time 2000, .done "", .done "", .time 2000, .done "",
    .done "", .done "", .time 2000, .done "", .done "", .time 2000, .done ""]

/-- A second run selects the account, up to the tombstone. -/
def selecting : List ServiceLabel :=
  missed ++ [.spawn 2 (fullSync []), .run 2 (.time 9000), .run 2 (.time 9000), .run 2 (.done ""),
    .run 2 (.done "")]

/-- Before the tombstone is set, a host asks for the account, and it is there again. -/
def reviving : List ServiceLabel :=
  selecting ++ refreshing 3 (account "ann" "1" "ann" 1000) "" 9500

/-- Whether a call is about to tombstone an account. -/
def tombstones : Option Act → Bool
  | some (.commit (.tombstone .accounts _ _)) => true
  | _ => false

/-- An account: when it was tombstoned and found missing, and when it was last seen. -/
structure Snapshot where
  id : String
  deletedAt : Option Int
  missingSince : Option Int
  lastSyncedAt : Int
deriving DecidableEq

/-- The accounts of a configuration. -/
def lifecycle (cfg : ServiceConfig) : List Snapshot :=
  cfg.shared.directory.accounts.rows.rows.map fun row =>
    ⟨row.id, row.deletedAt, row.missingSince, row.lastSyncedAt⟩

/-- The accounts before and after the second run's next step, if that is a tombstone. -/
def tombstoning (reached : Option ServiceConfig) : Option (ServiceConfig × ServiceConfig) := do
  let cfg ← reached
  let next ← service.step cfg (.run 2 (.done ""))
  if tombstones (cfg.heads 2) then pure (cfg, next) else none

theorem of_tombstoning {reached : Option ServiceConfig} {cfg next : ServiceConfig}
    (h : tombstoning reached = some (cfg, next)) :
    reached = some cfg ∧ service.step cfg (.run 2 (.done "")) = some next ∧
      ∃ thread ref now, cfg.threads 2 = some thread ∧
        thread.rest.head? = some (.commit (.tombstone .accounts ref now)) := by
  simp only [tombstoning, bind_eq_bind, bind_eq_some_iff] at h
  obtain ⟨cfg', found, next', stepped, h⟩ := h
  split at h
  · rename_i marks
    cases h
    refine ⟨found, stepped, ?_⟩
    unfold tombstones at marks
    split at marks
    · rename_i head
      obtain ⟨thread, present, head⟩ := bind_eq_some_iff.mp head
      exact ⟨thread, _, _, present, head⟩
    · cases marks
  · cases h

/-- The step stores nothing but a first account, and neither accepts nor purges. -/
def revivesNothing (cfg : ServiceConfig) : ServiceLabel → Bool
  | .spawn _ _ => true
  | .run tid _ =>
    match cfg.heads tid with
    | some (.commit (.storeAccount _ _ _ _ _ _)) => cfg.shared.directory.accounts.rows.rows.isEmpty
    | some (.commit (.storeGroup _ _ _ _ _ _ _ _)) => false
    | some (.commit (.acceptGroup _ _)) => false
    | some (.commit (.purge _ _ _)) => false
    | _ => true

theorem unrevived_of_revivesNothing (cfg : ServiceConfig) (label : ServiceLabel)
    (h : revivesNothing cfg label = true) : Unrevived cfg label := by
  rintro tid choice statement rfl next other - - ⟨table, ref, start, cutoff⟩ - revived
  simp only [revivesNothing, next] at h
  cases statement with
  | storeAccount =>
    cases table with
    | accounts =>
      obtain ⟨row, matched, -⟩ := map_eq_some_iff.mp revived
      have stored := of_matchRow matched
      rw [isEmpty_iff.mp h] at stored
      cases stored
    | groups => exact revived
  | storeGroup settings g contenders complete index gone importing now
  | acceptGroup | purge => cases h
  | _ => cases table <;> exact revived

end Sample

/-- A row can be tombstoned although it was just found again. -/
theorem tombstone_of_live : ∃ cfg next ref now, Reaches service (fun _ _ => True) idle cfg ∧
    cfg.heads 2 = some (.commit (.tombstone .accounts ref now)) ∧
    service.step cfg (.run 2 (.done "")) = some next ∧
    ∃ row ∈ cfg.shared.directory.accounts.rows.rows,
      ∃ row' ∈ next.shared.directory.accounts.rows.rows,
        row.missingSince = none ∧ row.deletedAt = none ∧ row'.deletedAt = some 9000 := by
  have ran : (Sample.tombstoning (Sample.after Sample.reviving)).map (fun cfgs =>
      (Sample.lifecycle cfgs.1, Sample.lifecycle cfgs.2)) =
      some ([⟨"row", none, none, 9500⟩], [⟨"row", some 9000, none, 9500⟩]) := by decide +kernel
  obtain ⟨⟨cfg, next⟩, found, data⟩ := map_eq_some_iff.mp ran
  obtain ⟨reached, stepped, thread, ref, now, present, head⟩ := Sample.of_tombstoning found
  obtain ⟨before, after⟩ := Prod.mk.inj data
  obtain ⟨row, only, columns⟩ := map_eq_singleton_iff.mp before
  obtain ⟨row', only', columns'⟩ := map_eq_singleton_iff.mp after
  simp only [Sample.Snapshot.mk.injEq] at columns columns'
  refine ⟨cfg, next, ref, now, Reaches.of_runLabels Sample.reviving (fun _ _ _ => trivial) reached,
    by simp [Config.heads, present, head], stepped, row, only ▸ mem_singleton_self row, row',
    only' ▸ mem_singleton_self row', columns.2.2.1, columns.2.1, columns'.2.1⟩

/-- Where nobody revives it, the account that is tombstoned is missing, since before the run. -/
theorem tombstones_stale_missed : ∃ pasts cfg next, Traced service Unrevived idle pasts cfg ∧
    service.step cfg (.run 2 (.done "")) = some next ∧
    ∃ row ∈ cfg.shared.directory.accounts.rows.rows,
      ∃ row' ∈ next.shared.directory.accounts.rows.rows, row'.deletedAt = some 9000 ∧
        ∃ thread start now, cfg.threads 2 = some thread ∧ Begun (pasts 2) start ∧
          (⟨.now, now⟩ : Event Act.Resp) ∈ pasts 2 ∧
          row.Stale start (Time.add now (-thread.current.tombstoneAfter)) := by
  have ran : (Sample.tombstoning (service.runChecked Sample.revivesNothing idle
      Sample.selecting)).map (fun cfgs => (Sample.lifecycle cfgs.1, Sample.lifecycle cfgs.2)) =
      some ([⟨"row", none, some 2000, 1000⟩], [⟨"row", some 9000, some 2000, 1000⟩]) := by
    decide +kernel
  obtain ⟨⟨cfg, next⟩, found, data⟩ := map_eq_some_iff.mp ran
  obtain ⟨reached, stepped, thread, ref, now, present, head⟩ := Sample.of_tombstoning found
  obtain ⟨before, after⟩ := Prod.mk.inj data
  obtain ⟨row, only, columns⟩ := map_eq_singleton_iff.mp before
  obtain ⟨row', only', columns'⟩ := map_eq_singleton_iff.mp after
  simp only [Sample.Snapshot.mk.injEq] at columns columns'
  have stored : row ∈ cfg.shared.directory.accounts.rows.rows := only ▸ mem_singleton_self row
  have stored' : row' ∈ next.shared.directory.accounts.rows.rows :=
    only' ▸ mem_singleton_self row'
  have meets : Reaches service Unrevived idle cfg :=
    Reaches.of_runChecked Sample.unrevived_of_revivesNothing Sample.selecting reached
  obtain ⟨pasts, traced⟩ := meets.traced
  obtain ⟨start, cutoff, begun, clock, rfl, accounts, -⟩ :=
    tombstones_stale traced present head stepped
  exact ⟨pasts, cfg, next, traced, stepped, row, stored, row', stored', columns'.2.1, thread, start, now,
    present, begun, clock, accounts row stored row' stored' (columns'.1.trans columns.1.symm)
      (by simp [columns.2.1, columns'.2.1])⟩

end Ssoossh.NSS
