import Ssoossh.NSS.Discipline
import Ssoossh.NSS.Frozen

/-!
# Memberships and the numbers they name

A membership is a pair of numbers, and nothing in the database ties it to the rows that
hold them.  The numbers were read in earlier transactions than the one that writes the
membership: the uids with the member index, the uid and the gids of an account's groups
when these were stored, the number of a tombstone when it was found.  In between another
call may have taken the number from its row, by accepting another one or by a purge.

`membership_of_renumbered` is such a schedule.  `memberships_linked` says that there is
no other way: as long as no number is taken from a row while another call still running
has it on its notes, every membership names a stored account and a stored group, and an
account that is inserted has none.
-/

namespace Ssoossh.NSS

open Interleaving Relational List Option Function Sheet

/-! ## Holders -/

/-- The row with this id has this number. -/
def Directory.Holder (d : Directory) (table : TableName) (id : String) (n : Nat) : Prop :=
  match table with
  | .accounts => ∃ row ∈ d.accounts.rows.rows, row.id = id ∧ row.number = n
  | .groups => ∃ row ∈ d.groups.rows.rows, row.id = id ∧ row.number = n

/-- Every membership names a uid and a gid that are held. -/
structure Linked (d : Directory) : Prop where
  account : ∀ m ∈ d.members.rows, ∃ id, d.Holder .accounts id m.uid
  group : ∀ m ∈ d.members.rows, ∃ id, d.Holder .groups id m.gid

/-- The transaction takes a number from the row that has it: another one is accepted in its
place, or the row is purged. -/
def GivesUp (d : Directory) (statement : Statement) (table : TableName) (id : String) (n : Nat) :
    Prop :=
  match statement with
  | .acceptUser uid _ => table = .accounts ∧ n = uid ∧
    ∃ row ∈ d.accounts.rows.rows, row.id = id ∧ row.number = n ∧ row.pendingNumber ≠ none
  | .acceptGroup gid _ => table = .groups ∧ n = gid ∧ d.Holder .groups id n
  | .purge t ref _ => table = t ∧ id = ref.id ∧ d.Holder t id n
  | _ => False

/-- A call has this number on its notes. -/
def Notes.Has (notes : Notes) : TableName → Nat → Prop
  | .accounts, n => n ∈ notes.uids
  | .groups, n => n ∈ notes.gids

/-- The step takes no number that another call still running has on its notes. -/
def Undisturbed (cfg : ServiceConfig) (label : ServiceLabel) : Prop :=
  ∀ tid choice statement, label = .run tid choice → cfg.heads tid = some (.commit statement) →
    ∀ table id n, GivesUp cfg.shared.directory statement table id n →
      ∀ other, other ≠ tid → cfg.heads other ≠ none → ¬ (cfg.shared.noted other).Has table n

section Holders

variable {d d' : Directory} {statement : Statement} {newID : String} {result : statement.Result}
  {table : TableName} {id : String} {n : Nat}

/-- **Numbers stay with their rows**, unless the transaction takes them. -/
theorem Directory.Holder.frame (h : d.Holder table id n)
    (done : (statement.tx newID).run d = .ok (result, d'))
    (kept : ¬ GivesUp d statement table id n) : d'.Holder table id n := by
  cases table with
  | accounts =>
    obtain ⟨row, stored, rfl, rfl⟩ := h
    have stays : statement.dropsAccount row = false := by
      unfold Statement.dropsAccount
      split
      · exact Bool.and_eq_false_imp.mpr fun same =>
          (kept ⟨rfl, beq_iff_eq.mp same, row, stored, rfl, rfl⟩).elim
      · rfl
    obtain ⟨row', after, id, changed⟩ := (accounts_turn done).persists row stored stays
    refine ⟨row', after, id, ?_⟩
    rcases changed.number with same | ⟨now, rfl, pending⟩
    · exact same
    · exact (kept ⟨rfl, rfl, row, stored, rfl, rfl, by simp [pending]⟩).elim
  | groups =>
    obtain ⟨row, stored, rfl, rfl⟩ := h
    have stays : statement.dropsGroup row = false := by
      unfold Statement.dropsGroup
      split
      · exact Bool.and_eq_false_imp.mpr fun same =>
          (kept ⟨rfl, beq_iff_eq.mp same, row, stored, rfl, rfl⟩).elim
      · rfl
    obtain ⟨row', after, id, changed⟩ := (groups_turn done).persists row stored stays
    refine ⟨row', after, id, ?_⟩
    rcases changed.number with same | ⟨now, rfl, pending⟩
    · exact same
    · exact (kept ⟨rfl, rfl, row, stored, rfl, rfl⟩).elim

/-- A row has one number. -/
theorem Directory.Holder.unique {n' : Nat} (h : d.Holder table id n) (h' : d.Holder table id n') :
    n = n' := by
  cases table with
  | accounts | groups =>
    obtain ⟨row, stored, rfl, rfl⟩ := h
    obtain ⟨row', stored', same, rfl⟩ := h'
    rw [eq_of_id stored stored' same.symm]

/-- Memberships that were there, of numbers that stay. -/
theorem Linked.frame (h : Linked d) (old : ∀ m ∈ d'.members.rows, m ∈ d.members.rows)
    (uids : ∀ m ∈ d'.members.rows, ∀ id, d.Holder .accounts id m.uid → d'.Holder .accounts id m.uid)
    (gids : ∀ m ∈ d'.members.rows, ∀ id, d.Holder .groups id m.gid → d'.Holder .groups id m.gid) :
    Linked d' where
  account m after := (h.account m (old m after)).imp (uids m after)
  group m after := (h.group m (old m after)).imp (gids m after)

/-- A transaction that takes no number and writes memberships of numbers that are held. -/
theorem Linked.add (h : Linked d) (done : (statement.tx newID).run d = .ok (result, d'))
    (members : ∀ m ∈ d'.members.rows, m ∈ d.members.rows ∨
      (∃ id, d'.Holder .accounts id m.uid) ∧ ∃ id, d'.Holder .groups id m.gid)
    (kept : ∀ table id n, ¬ GivesUp d statement table id n) : Linked d' where
  account m after := (members m after).elim
    (fun before => (h.account m before).imp fun _ holder => holder.frame done (kept _ _ _)) (·.1)
  group m after := (members m after).elim
    (fun before => (h.group m before).imp fun _ holder => holder.frame done (kept _ _ _)) (·.2)

/-- A transaction that takes no number and writes no membership. -/
theorem Linked.untouched (h : Linked d) (done : (statement.tx newID).run d = .ok (result, d'))
    (members : ∀ m ∈ d'.members.rows, m ∈ d.members.rows)
    (kept : ∀ table id n, ¬ GivesUp d statement table id n) : Linked d' :=
  h.add done (fun m after => .inl (members m after)) kept

/-- The uids an index resolves to are among those it was loaded with. -/
theorem NSSMemberIndex.of_resolve {text : DNText} {index : NSSMemberIndex} {members : List String}
    {uid : Nat} (h : uid ∈ index.resolve text members) : ∃ row ∈ index.rows, row.uid = uid := by
  unfold NSSMemberIndex.resolve at h
  rw [mem_insertionSort, mem_dedup, mem_filterMap] at h
  obtain ⟨member, -, found⟩ := h
  obtain ⟨row, hit, rfl⟩ := map_eq_some_iff.mp found
  exact ⟨row, mem_reverse.mp (mem_of_find?_eq_some hit), rfl⟩

end Holders

/-! ## What a call remembers -/

/-- A call has taken this number from a row it read or stored. -/
def Remembered (past : History) : TableName → Nat → Prop
  | .accounts, n => (∃ index, Loaded past index ∧ ∃ row ∈ index.rows, row.uid = n) ∨ StoredUID past n
  | .groups, n => StoredGID past n

/-- What a call knows about the numbers it has read: they are on its notes and still held,
those of tombstones by the rows it found. -/
structure KnowsNumbers (tid : Tid) (past : History) (s : Shared) : Prop where
  number : ∀ table n, Remembered past table n →
    (s.noted tid).Has table n ∧ ∃ id, s.directory.Holder table id n
  tombstone : ∀ table ref, FoundDead past table ref → ¬ Purged past table ref.id →
    (s.noted tid).Has table ref.number ∧ s.directory.Holder table ref.id ref.number

section Notes

variable {s : Shared} {tid other : Tid}

theorem Query.note_noted_of_ne (query : Query) (row : query.Row) (apart : other ≠ tid) :
    (query.note s tid row).noted other = s.noted other := by
  cases query with
  | memberIndex settings | expired table cutoff
  | tombstoned => exact update_of_ne apart _ _
  | _ => rfl

theorem Statement.note_noted_of_ne (statement : Statement) (result : statement.Result)
    (apart : other ≠ tid) : (statement.note s tid result).noted other = s.noted other := by
  cases statement with
  | storeAccount => exact update_of_ne apart _ _
  | storeGroup =>
    exact update_of_ne apart _ _
  | claimAccount | claimGroup => cases result <;> rfl
  | _ => rfl

variable {table : TableName}

theorem Notes.Has.add {notes : Notes} {table' : TableName} {n n' : Nat}
    (h : notes.Has table n) : (notes.add table' n').Has table n := by
  cases table <;> cases table' <;> first | exact mem_cons_of_mem _ h | exact h

theorem Notes.has_add {notes : Notes} {n : Nat} : (notes.add table n).Has table n := by
  cases table <;> exact mem_cons_self

/-- The numbers of all rows of a selection are taken down, and what was on the notes stays. -/
theorem Notes.has_foldl {notes : Notes} {table' : TableName} {rows : List RowRef} {n : Nat}
    (h : notes.Has table n ∨ table' = table ∧ ∃ row ∈ rows, row.number = n) :
    (rows.foldl (fun notes row => notes.add table' row.number) notes).Has table n := by
  induction rows generalizing notes with
  | nil => exact h.resolve_right fun none => by simp at none
  | cons row rows ih =>
    refine ih ?_
    rcases h with before | ⟨rfl, row', member, rfl⟩
    · exact .inl before.add
    · rcases mem_cons.mp member with rfl | later
      · exact .inl Notes.has_add
      · exact .inr ⟨rfl, row', later, rfl⟩

theorem noted_memberIndex {settings : Settings} (index : NSSMemberIndex) :
    (Query.note s tid (.memberIndex settings) index).noted tid =
      { s.noted tid with uids := index.rows.map (·.uid) ++ (s.noted tid).uids } :=
  update_self ..

theorem noted_expired {cutoff : Int} (rows : List RowRef) :
    (Query.note s tid (.expired table cutoff) rows).noted tid =
      rows.foldl (fun notes row => notes.add table row.number) (s.noted tid) :=
  update_self ..

theorem noted_tombstoned {number : Nat} (found : Option RowRef) :
    (Query.note s tid (.tombstoned table number) found).noted tid =
      found.elim (s.noted tid) fun row => (s.noted tid).add table row.number :=
  update_self ..

theorem noted_storeAccount {settings : Settings} {a : NSSAccount} {disabled : Bool}
    {contenders : List NSSAccount} {complete : NSSKinds} {now : Int}
    (stored : Stored AccountColumns) :
    (Statement.note s tid (.storeAccount settings a disabled contenders complete now) stored).noted
      tid = stored.row.elim (s.noted tid) fun row => (s.noted tid).add .accounts row.number :=
  update_self ..

theorem noted_storeGroup {settings : Settings} {g : NSSGroup} {contenders : List NSSGroup}
    {complete : NSSKinds} {index : Option NSSMemberIndex} {gone : Option (String → Bool)}
    {importing : Bool} {now : Int} (stored : Stored Unit) :
    (Statement.note s tid (.storeGroup settings g contenders complete index gone importing now)
      stored).noted tid =
      stored.row.elim (s.noted tid) fun row => (s.noted tid).add .groups row.number :=
  update_self ..

/-- Notes are only added to. -/
theorem Query.has_note (query : Query) (row : query.Row) {n : Nat}
    (h : (s.noted tid).Has table n) : ((query.note s tid row).noted tid).Has table n := by
  cases query with
  | memberIndex =>
    rw [noted_memberIndex row]
    cases table with
    | accounts => exact mem_append_right _ h
    | groups => exact h
  | expired =>
    rw [noted_expired row]
    exact Notes.has_foldl (.inl h)
  | tombstoned =>
    rw [noted_tombstoned row]
    cases row with
    | none => exact h
    | some => exact h.add
  | _ => exact h

theorem Statement.has_note (statement : Statement) (result : statement.Result)
    {n : Nat} (h : (s.noted tid).Has table n) :
    ((statement.note s tid result).noted tid).Has table n := by
  cases statement with
  | storeAccount =>
    rw [noted_storeAccount result]
    cases result.row with
    | none => exact h
    | some row =>
      have added : ((s.noted tid).add .accounts row.number).Has table n := h.add
      exact added
  | storeGroup =>
    rw [noted_storeGroup result]
    cases result.row with
    | none => exact h
    | some row =>
      have added : ((s.noted tid).add .groups row.number).Has table n := h.add
      exact added
  | claimAccount | claimGroup => cases result <;> exact h
  | _ => exact h

end Notes

section Remembering

variable {past : History} {action : Act} {answer : action.Resp} {table : TableName} {n : Nat}
  {ref : RowRef}

/-- The events that teach a call a number. -/
def Teaches : Event Act.Resp → Prop
  | ⟨.read (.memberIndex _), .ok _⟩ | ⟨.commit (.storeAccount _ _ _ _ _ _), .ok _⟩
  | ⟨.commit (.storeGroup _ _ _ _ _ _ _ _), .ok _⟩ => True
  | _ => False

/-- The events that tell a call of a tombstone. -/
def Tells : Event Act.Resp → Prop
  | ⟨.read (.expired _ _), .ok _⟩ | ⟨.read (.tombstoned _ _), .ok _⟩ => True
  | _ => False

theorem Remembered.grow {now : History} (h : Remembered past table n) (grown : past ⊆ now) :
    Remembered now table n := by
  cases table with
  | accounts =>
    exact h.imp (fun ⟨index, loaded, row⟩ => ⟨index, loaded.grow grown, row⟩) (·.grow grown)
  | groups => exact StoredGID.grow h grown

/-- What a call remembers, one event has taught it. -/
theorem Remembered.source (h : Remembered past table n) :
    ∃ event ∈ past, Teaches event ∧ Remembered [event] table n := by
  cases table with
  | accounts =>
    rcases h with ⟨index, ⟨settings, member⟩, row⟩ |
      ⟨settings, a, disabled, contenders, complete, now, stored, member, row⟩
    · exact ⟨_, member, trivial, .inl ⟨index, ⟨settings, mem_singleton_self _⟩, row⟩⟩
    · exact ⟨_, member, trivial, .inr ⟨settings, a, disabled, contenders, complete, now, stored,
        mem_singleton_self _, row⟩⟩
  | groups =>
    obtain ⟨settings, g, contenders, complete, index, gone, importing, now, stored, member, row⟩ := h
    exact ⟨_, member, trivial, settings, g, contenders, complete, index, gone, importing, now, stored,
      mem_singleton_self _, row⟩

theorem FoundDead.source (h : FoundDead past table ref) :
    ∃ event ∈ past, Tells event ∧ FoundDead [event] table ref := by
  rcases h with ⟨cutoff, rows, member, among⟩ | ⟨number, member⟩
  · exact ⟨_, member, trivial, .inl ⟨cutoff, rows, mem_singleton_self _, among⟩⟩
  · exact ⟨_, member, trivial, .inr ⟨number, mem_singleton_self _⟩⟩

/-- A call that purges remembers no number of another kind. -/
theorem PurgesOnly.not_remembered (only : PurgesOnly past) : ¬ Remembered past table n := by
  intro remembered
  obtain ⟨event, member, teaches, -⟩ := remembered.source
  have purging := only event member
  unfold Teaches at teaches
  split at teaches
  · exact purging
  · exact purging
  · exact purging
  · exact teaches

/-- A call that has only looked at the clock has found no tombstone. -/
theorem not_foundDead_of_now (only : ∀ event ∈ past, event.1 = .now) : ¬ FoundDead past table ref := by
  intro found
  obtain ⟨⟨action, answer⟩, member, tells, -⟩ := found.source
  obtain rfl : action = .now := only _ member
  exact tells

theorem PurgesOnly.of_now (only : ∀ event ∈ past, event.1 = .now) : PurgesOnly past := by
  intro event member
  rw [only event member]
  trivial

variable {tid : Tid} {s s' : Shared}

/-- One more event, in a state in which what was known still holds. -/
theorem KnowsNumbers.cons (h : KnowsNumbers tid past s)
    (notes : ∀ {table n}, (s.noted tid).Has table n → (s'.noted tid).Has table n)
    (numbers : ∀ {table id n}, Remembered past table n → s.directory.Holder table id n →
      s'.directory.Holder table id n)
    (tombstones : ∀ {table ref}, FoundDead past table ref →
      ¬ Purged (⟨action, answer⟩ :: past) table ref.id →
      s.directory.Holder table ref.id ref.number → s'.directory.Holder table ref.id ref.number)
    (number : ∀ {table n}, Remembered [⟨action, answer⟩] table n →
      (s'.noted tid).Has table n ∧ ∃ id, s'.directory.Holder table id n)
    (dead : ∀ {table ref}, FoundDead [⟨action, answer⟩] table ref →
      (s'.noted tid).Has table ref.number ∧ s'.directory.Holder table ref.id ref.number) :
    KnowsNumbers tid (⟨action, answer⟩ :: past) s' := by
  refine ⟨fun table n remembered => ?_, fun table ref found kept => ?_⟩
  · obtain ⟨event, member, -, new⟩ := remembered.source
    rcases mem_cons.mp member with rfl | earlier
    · exact number new
    · have before := new.grow (cons_subset.mpr ⟨earlier, nil_subset _⟩)
      obtain ⟨has, id, holder⟩ := h.number table n before
      exact ⟨notes has, id, numbers before holder⟩
  · obtain ⟨event, member, -, new⟩ := found.source
    rcases mem_cons.mp member with rfl | earlier
    · exact dead new
    · have before : FoundDead past table ref := FoundDead.grow new (cons_subset.mpr ⟨earlier, nil_subset _⟩)
      have unpurged : ¬ Purged past table ref.id := by
        rintro ⟨row, now, answer, member, same⟩
        exact kept ⟨row, now, answer, mem_cons_of_mem _ member, same⟩
      obtain ⟨has, holder⟩ := h.tombstone table ref before unpurged
      exact ⟨notes has, tombstones before kept holder⟩

/-- An event that is no answer of the database teaches nothing. -/
theorem KnowsNumbers.idle (h : KnowsNumbers tid past s)
    (read : ∀ query row, (⟨action, answer⟩ : Event Act.Resp) ≠ ⟨.read query, .ok row⟩)
    (commit : ∀ statement result,
      (⟨action, answer⟩ : Event Act.Resp) ≠ ⟨.commit statement, .ok result⟩) :
    KnowsNumbers tid (⟨action, answer⟩ :: past) s := by
  refine h.cons (fun has => has) (fun _ holder => holder) (fun _ _ holder => holder)
    (fun new => ?_) fun new => ?_
  · exfalso
    obtain ⟨event, member, teaches, -⟩ := new.source
    obtain rfl := mem_singleton.mp member
    unfold Teaches at teaches
    split at teaches
    · rename_i same
      exact read _ _ same
    · rename_i same
      exact commit _ _ same
    · rename_i same
      exact commit _ _ same
    · exact teaches
  · exfalso
    obtain ⟨event, member, tells, -⟩ := new.source
    obtain rfl := mem_singleton.mp member
    unfold Tells at tells
    split at tells
    · rename_i same
      exact read _ _ same
    · rename_i same
      exact read _ _ same
    · exact tells

end Remembering

/-! ## Steps -/

section Steps

variable {missing : Int} {begun : Option Int} {s : Shared} {d' : Directory} {tid : Tid} {past : History} {newID : String}

/-- The rows that a member index and a store give their numbers from. -/
theorem holder_of_loadMemberIndex {settings : Settings} {d : Directory} {row : IndexRow}
    (h : row ∈ (loadMemberIndex settings d).rows) : ∃ id, d.Holder .accounts id row.uid := by
  obtain ⟨account, stored, rfl⟩ := mem_map.mp h
  exact ⟨account.id, account, stored, rfl, rfl⟩

variable {statement : Statement} {result : statement.Result}

/-- **A transaction of a call that keeps to what it knows leaves every membership linked.** -/
theorem Linked.commit
    (h : Linked s.directory) (knows : KnowsNumbers tid past s) (may : May missing begun past (.commit statement))
    (done : (statement.tx newID).run s.directory = .ok (result, d')) : Linked d' := by
  cases statement with
  | storeAccount =>
    obtain ⟨accounts, store, rfl⟩ := run_onAccounts_eq_ok.mp done
    exact h.untouched done (fun _ member => member) fun _ _ _ => id
  | storeGroup =>
    obtain ⟨accounts, spec, members⟩ := of_storeGroup done
    obtain ⟨-, -, -, stored⟩ := spec
    refine h.add done (fun m after => ?_) fun _ _ _ => id
    refine (members m after).imp_right fun ⟨row, index', found, loaded, gid, resolved⟩ => ?_
    obtain ⟨source, member, uid⟩ := NSSMemberIndex.of_resolve resolved
    obtain ⟨row', there, same⟩ := stored row found
    obtain ⟨-, id, holder⟩ := knows.number .accounts m.uid
      (.inl ⟨index', may.2 index' loaded, source, member, uid⟩)
    exact ⟨⟨id, holder.frame done fun impossible => impossible⟩,
      row'.id, row', there, rfl, same.number.symm.trans gid.symm⟩
  | replaceMembershipsOf uid =>
    have adds := of_replaceMembershipsOf done
    refine h.add done (fun m after => ?_) fun _ _ _ => id
    refine (adds.members m after).imp_right fun ⟨here, member⟩ => ?_
    obtain ⟨-, id, holder⟩ := knows.number .accounts uid (.inr may.1)
    obtain ⟨-, id', holder'⟩ := knows.number .groups m.gid (may.2 m.gid member)
    exact ⟨⟨id, here ▸ holder.frame done fun impossible => impossible⟩,
      id', holder'.frame done fun impossible => impossible⟩
  | acceptUser =>
    obtain ⟨row, stored, number, groups, ⟨m, ids, -, update, record⟩, members⟩ := of_acceptUser done
    refine ⟨fun m' after => ?_, fun m' after => ?_⟩
    · obtain ⟨old, before, -, moved⟩ := members m' after
      rcases moved with ⟨-, new⟩ | ⟨apart, same⟩
      · -- the account that was accepted has the number its memberships moved to
        obtain ⟨mid, between, id, changed⟩ := update.persists row stored
        obtain ⟨row', there, id', judged⟩ := record.rows.persists mid between
        refine ⟨row'.id, row', there, rfl, ?_⟩
        rcases changed with ⟨-, rfl⟩ | ⟨other, -⟩
        · exact judged.same.number.symm.trans new.symm
        · exact (other rfl).elim
      · rw [same]
        exact (h.account old before).imp fun id holder =>
          holder.frame done fun ⟨_, here, _⟩ => apart here
    · obtain ⟨old, before, gid, -⟩ := members m' after
      rw [gid]
      exact (h.group old before).imp fun id holder => holder.frame done fun ⟨other, _⟩ => by
        cases other
  | acceptGroup =>
    obtain ⟨row, stored, newGID, number, pending, -, -, -, members⟩ := of_acceptGroup done
    refine ⟨fun m' after => ?_, fun m' after => ?_⟩
    · obtain ⟨old, before, uid, -⟩ := members m' after
      rw [uid]
      exact (h.account old before).imp fun id holder => holder.frame done fun ⟨other, _⟩ => by
        cases other
    · obtain ⟨old, before, -, moved⟩ := members m' after
      rcases moved with ⟨-, new⟩ | ⟨apart, same⟩
      · obtain ⟨group, there, number', group', after', -, accepted⟩ := accepted_group done
        obtain rfl := eq_of_number stored there (number.trans number'.symm)
        refine ⟨group'.id, group', after', rfl, ?_⟩
        rw [new]
        exact (Option.some.inj (pending.symm.trans accepted)).symm
      · rw [same]
        exact (h.group old before).imp fun id holder =>
          holder.frame done fun ⟨_, here, _⟩ => apart here
  | markMissing table | sweepCollisions table =>
    refine h.untouched done (fun m after => ?_) fun _ _ _ => id
    cases table with
    | accounts => obtain ⟨_, -, rfl⟩ := run_onAccounts_eq_ok.mp done; exact after
    | groups => obtain ⟨_, -, rfl⟩ := run_onGroups_eq_ok.mp done; exact after
  | tombstone table =>
    refine h.untouched done (fun m after => ?_) fun _ _ _ => id
    cases table with
    | accounts => obtain ⟨_, -, rfl⟩ := run_onAccounts_eq_ok.mp done; exact after
    | groups =>
      rw [(of_tombstoneGroup done).2.1] at after
      exact (Rel.mem_delete.mp after).1
  | purge table ref =>
    obtain ⟨-, found, new⟩ := may
    obtain ⟨-, holder⟩ := knows.tombstone table ref found new
    cases table with
    | accounts =>
      obtain ⟨-, groups, members⟩ := of_purgeAccount done
      have kept : ∀ m ∈ d'.members.rows, m ∈ s.directory.members.rows ∧ m.uid ≠ ref.number := by
        intro m after
        rw [members] at after
        simpa using Rel.mem_delete.mp after
      refine h.frame (fun m after => (kept m after).1) (fun m after id there => ?_)
        fun m after id there => there.frame done fun ⟨other, _⟩ => by cases other
      exact there.frame done fun ⟨_, same, _⟩ => (kept m after).2 (there.unique (same ▸ holder))
    | groups =>
      obtain ⟨-, accounts, members⟩ := of_purgeGroup done
      have kept : ∀ m ∈ d'.members.rows, m ∈ s.directory.members.rows ∧ m.gid ≠ ref.number := by
        intro m after
        rw [members] at after
        simpa using Rel.mem_delete.mp after
      refine h.frame (fun m after => (kept m after).1)
        (fun m after id there => there.frame done fun ⟨other, _⟩ => by cases other)
        fun m after id there => ?_
      exact there.frame done fun ⟨_, same, _⟩ => (kept m after).2 (there.unique (same ▸ holder))
  | link | claimAccount =>
    obtain ⟨_, -, rfl⟩ := run_onAccounts_eq_ok.mp done
    exact h.untouched done (fun _ member => member) fun _ _ _ => id
  | claimGroup =>
    obtain ⟨_, -, rfl⟩ := run_onGroups_eq_ok.mp done
    exact h.untouched done (fun _ member => member) fun _ _ _ => id

/-- A read tells a call numbers that are held. -/
theorem KnowsNumbers.read {query : Query} {row : query.Row} (h : KnowsNumbers tid past s)
    (answered : row = query.answer s.directory) :
    KnowsNumbers tid (⟨.read query, .ok row⟩ :: past) (query.note s tid row) := by
  have same : ∀ {table id n}, s.directory.Holder table id n →
      (query.note s tid row).directory.Holder table id n := by
    intro table id n holder
    rw [Query.note_directory]
    exact holder
  refine h.cons (query.has_note row) (fun _ => same) (fun _ _ => same) (fun {table n} new => ?_)
    fun {table ref} new => ?_
  · cases table with
    | accounts =>
      rcases new with ⟨index, ⟨settings, member⟩, row, among, rfl⟩ |
        ⟨settings, a, disabled, contenders, complete, now, stored, member, -⟩
      · cases mem_singleton.mp member
        have loaded : row ∈ (loadMemberIndex settings s.directory).rows := by
          rw [answered] at among
          exact among
        refine ⟨?_, (holder_of_loadMemberIndex loaded).imp fun _ => same⟩
        rw [noted_memberIndex index]
        exact mem_append_left _ (mem_map_of_mem among)
      · cases mem_singleton.mp member
    | groups =>
      obtain ⟨settings, g, contenders, complete, index, gone, importing, now, stored, member, -⟩ := new
      cases mem_singleton.mp member
  · rcases new with ⟨cutoff, rows, member, among⟩ | ⟨number, member⟩
    · cases mem_singleton.mp member
      refine ⟨?_, same ?_⟩
      · rw [noted_expired rows]
        exact Notes.has_foldl (.inr ⟨rfl, ref, among, rfl⟩)
      · rw [answered] at among
        cases table with
        | accounts | groups =>
          obtain ⟨row, picked, rfl⟩ := mem_map.mp among
          exact ⟨row, (Rel.mem_select.mp picked).1, rfl, rfl⟩
    · cases mem_singleton.mp member
      refine ⟨?_, same ?_⟩
      · rw [noted_tombstoned (some ref)]
        exact Notes.has_add
      · cases table with
        | accounts | groups =>
          obtain ⟨row, found, rfl⟩ := map_eq_some_iff.mp answered.symm
          exact ⟨row, (of_first found).1, rfl, rfl⟩

/-- A transaction tells a call the number of the row it stored, and takes no number the call
still needs. -/
theorem KnowsNumbers.commit
    (h : KnowsNumbers tid past s) (may : May missing begun past (.commit statement))
    (done : (statement.tx newID).run s.directory = .ok (result, d')) :
    KnowsNumbers tid (⟨.commit statement, .ok result⟩ :: past)
      (statement.note { s with directory := d' } tid result) := by
  have same := statement.note_directory { s with directory := d' } tid result
  have notes : ∀ {table n}, (s.noted tid).Has table n →
      ((statement.note { s with directory := d' } tid result).noted tid).Has table n := fun has =>
    statement.has_note (s := { s with directory := d' }) result has
  -- what the call remembers is not taken, as a call that takes numbers remembers none
  refine h.cons notes (fun {table id n} remembered holder => ?_)
    (fun {table ref} found kept holder => ?_) (fun {table n} new => ?_) fun {table ref} new => ?_
  · rw [same]
    refine holder.frame done fun taken => ?_
    cases statement with
    | acceptUser uid now
    | acceptGroup => exact (PurgesOnly.of_now may).not_remembered remembered
    | purge => exact PurgesOnly.not_remembered may.1 remembered
    | _ => exact taken
  · rw [same]
    refine holder.frame done fun taken => ?_
    cases statement with
    | acceptUser | acceptGroup => exact not_foundDead_of_now may found
    | purge t r now =>
      obtain ⟨rfl, here, -⟩ := taken
      exact kept ⟨r, now, .ok result, mem_cons_self, here.symm⟩
    | _ => exact taken
  · rw [same]
    cases table with
    | accounts =>
      rcases new with ⟨index, ⟨settings, member⟩, -⟩ |
        ⟨settings, a, disabled, contenders, complete, now, stored, member, row, found, rfl⟩
      · cases mem_singleton.mp member
      · cases mem_singleton.mp member
        obtain ⟨accounts, store, rfl⟩ := run_onAccounts_eq_ok.mp done
        obtain ⟨-, -, -, written⟩ := of_storeAccount store
        obtain ⟨row', there, unchanged⟩ := written row found
        refine ⟨?_, row'.id, row', there, rfl, unchanged.number.symm⟩
        rw [noted_storeAccount stored, found, elim_some]
        exact Notes.has_add
    | groups =>
      obtain ⟨settings, g, contenders, complete, index, gone, importing, now, stored, member, row,
        found, rfl⟩ := new
      cases mem_singleton.mp member
      obtain ⟨-, ⟨-, -, -, written⟩, -⟩ := of_storeGroup done
      obtain ⟨row', there, unchanged⟩ := written row found
      refine ⟨?_, row'.id, row', there, rfl, unchanged.number.symm⟩
      rw [noted_storeGroup stored, found, elim_some]
      exact Notes.has_add
  · rcases new with ⟨cutoff, rows, member, -⟩ | ⟨number, member⟩
    · cases mem_singleton.mp member
    · cases mem_singleton.mp member

/-- Another call's transaction takes nothing that is on this call's notes. -/
theorem KnowsNumbers.kept {other : Tid}
    (h : KnowsNumbers other past s) (done : (statement.tx newID).run s.directory = .ok (result, d'))
    (apart : other ≠ tid) (spared : ∀ table id n, GivesUp s.directory statement table id n →
      ¬ (s.noted other).Has table n) :
    KnowsNumbers other past (statement.note { s with directory := d' } tid result) := by
  have notes := statement.note_noted_of_ne (s := { s with directory := d' }) result apart
  have same := statement.note_directory { s with directory := d' } tid result
  refine ⟨fun table n remembered => ?_, fun table ref found new => ?_⟩
  · obtain ⟨has, id, holder⟩ := h.number table n remembered
    rw [notes, same]
    exact ⟨has, id, holder.frame done fun taken => spared table id n taken has⟩
  · obtain ⟨has, holder⟩ := h.tombstone table ref found new
    rw [notes, same]
    exact ⟨has, holder.frame done fun taken => spared table _ _ taken has⟩

end Steps

/-! ## Runs -/

/-- What the calls know about numbers, while nobody takes those on another's notes. -/
def numberKnowledge : Knowledge service where
  ok heads s tid action _ := ∀ statement, action = .commit statement → ∀ table id n,
    GivesUp s.directory statement table id n → ∀ other, other ≠ tid → heads other ≠ none →
      ¬ (s.noted other).Has table n
  Inv s := Linked s.directory
  Knows := KnowsNumbers
  Can := Plausible
  May := Call.May
  start _ := by
    refine ⟨fun table n remembered => ?_, fun table ref found _ => ?_⟩
    · exact (PurgesOnly.not_remembered (fun _ none => absurd none not_mem_nil) remembered).elim
    · exact (not_foundDead_of_now (fun _ none => absurd none not_mem_nil) found).elim
  follows := follows_body
  own {heads s tid call past action choice s' answer} inv knows may _ done := by
    obtain ⟨_, -, may⟩ := may
    refine (and_congr_right fun _ => (and_iff_right (plausible_of_exec done))).mpr ?_
    cases action with
    | now =>
      obtain rfl := of_exec_now done
      exact ⟨inv, knows.idle (fun _ _ same => by cases same) fun _ _ same => by cases same⟩
    | read =>
      rcases of_exec_read done with ⟨rfl, failure, rfl⟩ | ⟨rfl, rfl⟩
      · exact ⟨inv, knows.idle (fun _ _ same => by cases same) fun _ _ same => by cases same⟩
      · rw [Query.note_directory]
        exact ⟨inv, knows.read rfl⟩
    | commit =>
      rcases of_exec_commit done with ⟨rfl, failure, rfl⟩ |
        ⟨newID, result, directory, rfl, committed, rfl, rfl⟩
      · exact ⟨inv, knows.idle (fun _ _ same => by cases same) fun _ _ same => by cases same⟩
      · rw [Statement.note_directory]
        exact ⟨inv.commit knows may committed, knows.commit may committed⟩
  others {heads s tid call past action choice s' answer other past'} inv knows may met done apart busy
      theirs := by
    cases action with
    | now =>
      obtain rfl := of_exec_now done
      exact theirs
    | read query =>
      rcases of_exec_read done with ⟨rfl, failure, rfl⟩ | ⟨rfl, rfl⟩
      · exact theirs
      · obtain ⟨number, tombstone⟩ := theirs
        refine ⟨?_, ?_⟩
        all_goals rw [Query.note_directory, Query.note_noted_of_ne query _ apart]
        · exact number
        · exact tombstone
    | commit statement =>
      rcases of_exec_commit done with ⟨rfl, failure, rfl⟩ |
        ⟨newID, result, directory, rfl, committed, rfl, rfl⟩
      · exact theirs
      · exact theirs.kept committed apart fun table id n taken =>
          met statement rfl table id n taken other apart busy

/-- **No inherited memberships.**  In every run in which no step takes a number from its row
while another call still running has it on its notes, every membership names a stored
account and a stored group in every state reached, and whatever the next step is, an
account that it inserts has no memberships. -/
theorem memberships_linked {cfg : ServiceConfig} (h : Reaches service Undisturbed idle cfg) :
    (∀ m ∈ cfg.shared.directory.members.rows,
      (∃ row ∈ cfg.shared.directory.accounts.rows.rows, row.number = m.uid) ∧
        ∃ row ∈ cfg.shared.directory.groups.rows.rows, row.number = m.gid) ∧
    ∀ label next, service.step cfg label = some next →
      ∀ row' ∈ next.shared.directory.accounts.rows.rows,
        (∀ row ∈ cfg.shared.directory.accounts.rows.rows, row.id ≠ row'.id) →
          ∀ m ∈ next.shared.directory.members.rows, m.uid ≠ row'.number := by
  have linked : Linked cfg.shared.directory := by
    have spares : ∀ cfg label, Undisturbed cfg label → numberKnowledge.Allowed cfg label := by
      intro cfg label spared
      cases label with
      | spawn => trivial
      | run tid choice =>
        intro action next statement same
        exact spared tid choice statement rfl (same ▸ next)
    obtain ⟨_, holds⟩ := numberKnowledge.reaches (h.mono spares) ⟨nofun, nofun⟩ fun _ => rfl
    exact holds.inv
  refine ⟨fun m member => ⟨?_, ?_⟩, fun label next stepped row' after new m member same => ?_⟩
  · obtain ⟨id, row, stored, -, number⟩ := linked.account m member
    exact ⟨row, stored, number⟩
  · obtain ⟨id, row, stored, -, number⟩ := linked.group m member
    exact ⟨row, stored, number⟩
  · rcases directory_of_step stepped with unchanged | ⟨statement, newID, result, -, done⟩
    · exact new row' (unchanged ▸ after) rfl
    · rcases (accounts_turn done).origin row' after with ⟨row, before, id, -⟩ | ⟨born, -⟩
      · exact new row before id.symm
      · obtain ⟨born⟩ := born
        have members : next.shared.directory.members = cfg.shared.directory.members := by
          obtain ⟨accounts, -, whole⟩ := run_onAccounts_eq_ok.mp done
          rw [← whole]
        rw [members] at member
        obtain ⟨id, holder⟩ := linked.account m member
        obtain ⟨kept, there, id', number⟩ := holder.frame done fun impossible => impossible
        obtain rfl := eq_of_number there after (number.trans same)
        obtain ⟨row, stored, id'', -⟩ := holder
        exact new row stored (id''.trans id'.symm)

namespace Sample

/-- A group of the directory with one member. -/
def group (dn directoryID name : String) (gid : Nat) (member : String) : NSSGroup :=
  ⟨dn, directoryID, name, gid, [member]⟩

/-- A host asks for the gid of a group, and the directory has this one. -/
def refreshGroup (g : NSSGroup) : Call :=
  .refreshGroup settings (.number g.gid) (.ok ⟨[g], false⟩) []

/-- An account is stored, and then a group it is a member of. -/
def joining : List ServiceLabel :=
  refreshing 0 (account "ann" "1" "ann" 1000) "row" 1 ++
  uninterrupted 1 (refreshGroup (group "ops" "2" "ops" 50 "ann"))
    [.done "", .time 2, .done "group"]

/-- A group is read by one call while an administrator accepts a new uid of its member: the
index was loaded before, the memberships are written afterwards. -/
def renumberedMember : List ServiceLabel :=
  refreshing 0 (account "ann" "1" "ann" 1000) "row" 1 ++
  refreshing 1 (account "ann" "1" "ann" 2000) "" 2 ++
  [.spawn 2 (refreshGroup (group "ops" "2" "ops" 50 "ann")), .run 2 (.done "")] ++
  uninterrupted 3 (.acceptUserIDChange 1000) [.time 3, .done ""] ++
  [.run 2 (.time 4), .run 2 (.done "group")]

/-- The memberships and the uids of a configuration. -/
def numbers (cfg : ServiceConfig) : List (Nat × Nat) × List Nat :=
  (cfg.shared.directory.members.rows.map fun m => (m.gid, m.uid),
    cfg.shared.directory.accounts.rows.rows.map (·.number))

/-- The step takes no number from any row. -/
def takesNothing (cfg : ServiceConfig) : ServiceLabel → Bool
  | .spawn _ _ => true
  | .run tid _ =>
    match cfg.heads tid with
    | some (.commit (.acceptUser _ _)) => false
    | some (.commit (.acceptGroup _ _)) => false
    | some (.commit (.purge _ _ _)) => false
    | _ => true

theorem undisturbed_of_takesNothing (cfg : ServiceConfig) (label : ServiceLabel)
    (h : takesNothing cfg label = true) : Undisturbed cfg label := by
  rintro tid choice statement rfl next table id n taken
  simp only [takesNothing, next] at h
  cases statement with
  | acceptUser | acceptGroup | purge => cases h
  | _ => exact taken.elim

end Sample

/-- A membership can be left with a uid that no account has. -/
theorem membership_of_renumbered : ∃ cfg, Reaches service (fun _ _ => True) idle cfg ∧
    ∃ m ∈ cfg.shared.directory.members.rows,
      ∀ row ∈ cfg.shared.directory.accounts.rows.rows, row.number ≠ m.uid := by
  have ran : (Sample.after Sample.renumberedMember).map Sample.numbers =
      some ([(50, 1000)], [2000]) := by decide +kernel
  obtain ⟨cfg, found, data⟩ := map_eq_some_iff.mp ran
  obtain ⟨members, uids⟩ := Prod.mk.inj data
  obtain ⟨m, only, numbers⟩ := map_eq_singleton_iff.mp members
  refine ⟨cfg, Reaches.of_runLabels Sample.renumberedMember (fun _ _ _ => trivial) found, m,
    only ▸ mem_singleton_self m, fun row stored same => ?_⟩
  have held : row.number ∈ [2000] := uids ▸ mem_map_of_mem stored
  rw [same, (Prod.mk.inj numbers).2] at held
  simp at held

/-- Where nobody takes a number, the uid of a membership is held. -/
theorem memberships_linked_joining : ∃ cfg, Reaches service Undisturbed idle cfg ∧
    ∃ m ∈ cfg.shared.directory.members.rows,
      ∃ row ∈ cfg.shared.directory.accounts.rows.rows, row.number = m.uid := by
  have ran : (service.runChecked Sample.takesNothing idle Sample.joining).map Sample.numbers =
      some ([(50, 1000)], [1000]) := by decide +kernel
  obtain ⟨cfg, found, data⟩ := map_eq_some_iff.mp ran
  obtain ⟨m, only, -⟩ := map_eq_singleton_iff.mp (Prod.mk.inj data).1
  have member : m ∈ cfg.shared.directory.members.rows := only ▸ mem_singleton_self m
  have reached : Reaches service Undisturbed idle cfg :=
    Reaches.of_runChecked Sample.undisturbed_of_takesNothing Sample.joining found
  exact ⟨cfg, reached, m, member, ((memberships_linked reached).1 m member).1⟩

end Ssoossh.NSS
