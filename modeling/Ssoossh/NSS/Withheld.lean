import Ssoossh.NSS.Transitions
import Ssoossh.NSS.Views

/-!
# Withheld rows

Two entries of the directory that claim one number or one name are on record as a
collision, and the stored rows a collision names are withheld from the hosts until it is
over.  A contested row is never served (`Sheet.Sound`).  That a row is withheld only while
it is contested (`Sheet.Idle`) is another matter: a collision is kept under the DN of the
other entry, and where the entry at that DN is replaced by a new one, so is the record of
the row it named, without that row being looked at again.

Every transaction first changes rows and resolves collisions and then records others, and
what matters of it is said by `Records`.  Both properties are proved about that.
-/

namespace Ssoossh.NSS

open Interleaving Relational Transactional Tx Fallible List Option Sheet

variable {α : Type} {t : NSSTable α}

/-! ## The invariants -/

/-- What is on record is about rows that are stored, different ones, and withheld. -/
structure Sheet.Sound (s : Sheet t) : Prop where
  stored : ∀ k ∈ s.collisions.rows, ∀ id, k.names id = true → ∃ row ∈ s.rows.rows, row.id = id
  apart : ∀ k ∈ s.collisions.rows, k.otherID ≠ some k.holderID
  withheld : ∀ row ∈ s.rows.rows, s.Named row.id → row.withheldAt.isSome = true

/-- Rows are withheld for a reason that is on record. -/
def Sheet.Idle (s : Sheet t) : Prop :=
  ∀ row ∈ s.rows.rows, row.withheldAt.isSome = true → s.Named row.id

theorem NSSCollision.names_iff {k : NSSCollision} {id : String} :
    k.names id = true ↔ k.holderID = id ∨ k.otherID = some id := by
  simp [NSSCollision.names]

/-! ## What a transaction does -/

/-- A transaction, as far as it matters here: by way of `m`, in which rows are changed, born or
deleted and collisions resolved, the collisions `pairs` are recorded and the rows of `ids`
judged. -/
inductive Records (pairs : List NSSCollision) (s s' : Sheet t) : Prop
  | mk {m : Sheet t} {ids : List String}
      (origin : ∀ row' ∈ m.rows.rows,
        (∃ row ∈ s.rows.rows, row'.id = row.id ∧ row'.withheldAt = row.withheldAt) ∨
          (row'.withheldAt = none ∧ ∀ row ∈ s.rows.rows, row.id ≠ row'.id))
      (kept : ∀ k ∈ m.collisions.rows, k ∈ s.collisions.rows ∧
        ∀ row ∈ s.rows.rows, k.names row.id = true → ∃ row' ∈ m.rows.rows, row'.id = row.id)
      (resolved : ∀ k ∈ s.collisions.rows, k ∉ m.collisions.rows →
        ∀ row' ∈ m.rows.rows, k.names row'.id = true → row'.id ∈ ids)
      (record : RecordSpec pairs ids m s')
      (stored : ∀ p ∈ pairs, ∀ id, p.names id = true → ∃ row ∈ m.rows.rows, row.id = id)
      (apart : ∀ p ∈ pairs, p.otherID ≠ some p.holderID)

/-- What is recorded replaces no record of a row by another. -/
def Keeps (pairs : List NSSCollision) (s : Sheet t) : Prop :=
  ∀ k ∈ s.collisions.rows, ∀ p ∈ pairs, k.SameKey p → ∀ id, k.otherID = some id → p.otherID = some id

section Records

variable {pairs : List NSSCollision} {s s' : Sheet t}

theorem names_of_sameKey {k p : NSSCollision} (key : k.SameKey p) (other : k.otherID = p.otherID)
    {id : String} (names : k.names id = true) : p.names id = true := by
  rw [NSSCollision.names_iff] at names ⊢
  rwa [← key.2.1, ← other]

theorem Records.sound (h : Records pairs s s') (sound : s.Sound) : s'.Sound := by
  obtain ⟨origin, kept, resolved, record, stored, apart⟩ := h
  rename_i m ids
  refine ⟨fun k after id names => ?_, fun k after => ?_, fun row' after contested => ?_⟩
  · -- the rows a record is about are stored in `m`, and the judgement removes none
    have between : ∃ row ∈ m.rows.rows, row.id = id := by
      rcases record.origin k after with ⟨before, -⟩ | ⟨p, member, key, other⟩
      · obtain ⟨row, there, rfl⟩ := sound.stored k (kept k before).1 id names
        exact (kept k before).2 row there names
      · exact stored p member id (names_of_sameKey key other names)
    obtain ⟨row, there, rfl⟩ := between
    obtain ⟨row', after, id, -⟩ := record.rows.persists row there
    exact ⟨row', after, id⟩
  · rcases record.origin k after with ⟨before, -⟩ | ⟨p, member, key, other⟩
    · exact sound.apart k (kept k before).1
    · rw [other, key.2.1]
      exact apart p member
  · rcases record.rows.origin row' after with ⟨row, between, id, judged⟩ | ⟨no, -⟩
    · by_cases member : row.id ∈ ids
      · exact (judged.own member).mpr (id ▸ contested)
      · obtain ⟨k, there, names⟩ := contested
        rw [id] at names
        rw [judged.other member]
        rcases record.origin k there with ⟨before, -⟩ | ⟨p, recorded, key, other⟩
        · rcases origin row between with ⟨old, stored', same, held⟩ | ⟨-, new⟩
          · rw [held]
            exact sound.withheld old stored' ⟨k, (kept k before).1, same ▸ names⟩
          · obtain ⟨old, stored', same⟩ := sound.stored k (kept k before).1 _ names
            exact (new old stored' same).elim
        · exact (member (record.affected p recorded _ (names_of_sameKey key other names))).elim
    · exact no.elim

theorem Records.idle (h : Records pairs s s') (keeps : Keeps pairs s) (idle : s.Idle) : s'.Idle := by
  obtain ⟨origin, kept, resolved, record, -, -⟩ := h
  rename_i m ids
  intro row' after withheld
  rcases record.rows.origin row' after with ⟨row, between, id, judged⟩ | ⟨no, -⟩
  · rw [id]
    by_cases member : row.id ∈ ids
    · exact (judged.own member).mp withheld
    · rw [judged.other member] at withheld
      rcases origin row between with ⟨old, stored, same, held⟩ | ⟨free, -⟩
      · rw [held] at withheld
        obtain ⟨k, there, names⟩ := idle old stored withheld
        rw [← same] at names
        by_cases still : k ∈ m.collisions.rows
        · rcases record.kept k still with named | ⟨p, recorded, key⟩ | after
          · exact (member (named _ names)).elim
          · -- the record that takes its place names the row too, so the row was judged
            refine (member (record.affected p recorded _ ?_)).elim
            rw [NSSCollision.names_iff] at names ⊢
            exact names.imp key.2.1.symm.trans (keeps k there p recorded key _)
          · exact ⟨k, after, names⟩
        · exact (member (resolved k there still row between names)).elim
      · rw [free] at withheld
        cases withheld
  · exact no.elim

/-- A transaction that changes rows, then records. -/
theorem Records.of_evolves {m : Sheet t} {ids : List String} {E : PosixRow α → PosixRow α → Prop}
    {B : PosixRow α → Prop} (evolves : Evolves E B s m) (collisions : m.collisions = s.collisions)
    (record : RecordSpec [] ids m s') (held : ∀ {a b}, E a b → b.withheldAt = a.withheldAt)
    (births : ∀ {a}, B a → a.withheldAt = none) : Records [] s s' := by
  refine .mk (fun row' after => ?_) (fun k there => ⟨collisions ▸ there, fun row stored _ => ?_⟩)
    (fun k there gone => (gone (collisions ▸ there)).elim) record (by simp) (by simp)
  · rcases evolves.origin row' after with ⟨row, before, id, changed⟩ | ⟨born, new⟩
    · exact .inl ⟨row, before, id, held changed⟩
    · exact .inr ⟨births born, new⟩
  · obtain ⟨row', after, id, -⟩ := evolves.persists row stored
    exact ⟨row', after, id⟩

theorem Purges.records {ref : RowRef} (h : Purges ref s s') : Records [] s s' := by
  obtain ⟨rows, collisions, record, affected, gone⟩ := h
  rename_i m ids
  obtain ⟨purged, stored, id, tombstone⟩ := gone
  have kept : ∀ row, row ∈ m.rows.rows ↔ row ∈ s.rows.rows ∧ row.id ≠ ref.id := by
    intro row
    rw [rows, Rel.mem_delete]
    refine and_congr_right fun there => ?_
    constructor
    · rintro free same
      obtain rfl := eq_of_id there stored (same.trans id.symm)
      simp [same, tombstone] at free
    · intro apart
      simp [apart]
  refine .mk (fun row' after => .inl ⟨row', ((kept row').mp after).1, rfl, rfl⟩)
    (fun k there => ?_) (fun k there resolved row' after names => ?_) record (by simp) (by simp)
  · obtain ⟨before, free⟩ := (collisions k).mp there
    refine ⟨before, fun row here names => ⟨row, (kept row).mpr ⟨here, fun same => ?_⟩, rfl⟩⟩
    rw [same, free] at names
    cases names
  · refine affected k there ?_ row'.id names ((kept row').mp after).2
    by_contra free
    exact resolved ((collisions k).mpr ⟨there, by simpa using free⟩)

end Records

/-! ## Stores -/

section Stores

variable {settings : Settings} {e c : NSSEntryRef} {follow : PosixRow α → PosixRow α} {now : Int}
variable {target : Option String} {born : PosixRow α} {contenders : List NSSEntryRef}
variable {s m s' : Sheet t} {written : Written α} {out : Stored α}

/-- A row other than the one that was written is as it was, but perhaps for its DN. -/
theorem WriteSpec.other (h : WriteSpec e follow now target born s written m) {row' : PosixRow α}
    (after : row' ∈ m.rows.rows) (apart : written.stored.map (·.id) ≠ some row'.id) :
    ∃ row ∈ s.rows.rows, row'.id = row.id ∧ row'.directoryID = row.directoryID := by
  rcases h.evolves.origin row' after with ⟨row, before, id, wrote⟩ | ⟨-, new⟩
  · refine ⟨row, before, id, ?_⟩
    cases wrote with
    | kept | released => rfl
    | refreshed name anchor => exact (apart (by rw [h.anchored (by simp [anchor]), anchor, id])).elim
  · exact (apart (h.births row' after new)).elim

variable {row : PosixRow α}

section

variable (h : WriteSpec e follow now target born s written m)
include h

/-- A row the entry is not anchored to is as it was, but perhaps for its DN. -/
theorem WriteSpec.untouched (before : row ∈ s.rows.rows) (apart : target ≠ some row.id) :
    ∃ row' ∈ m.rows.rows, row'.id = row.id ∧ row'.directoryID = row.directoryID ∧
      (row.dn ≠ e.dn → row' = row) := by
  obtain ⟨row', after, id, wrote⟩ := h.evolves.persists row before
  refine ⟨row', after, id, ?_⟩
  cases wrote with
  | kept => exact ⟨rfl, fun _ => rfl⟩
  | released dn => exact ⟨rfl, fun elsewhere => (elsewhere dn).elim⟩
  | refreshed name anchor => exact (apart anchor).elim

/-- The first row with a directory id is still the first after a write, unless the row that was
written has that id now. -/
theorem WriteSpec.first_of_directoryID {directoryID : String}
    (found : (s.first fun row => row.directoryID == directoryID) = some row)
    (apart : target ≠ some row.id) :
    ∃ row', (m.first fun row => row.directoryID == directoryID) = some row' ∧
      (row'.id = row.id ∨ written.stored.map (·.id) = some row'.id) := by
  obtain ⟨before, here⟩ := of_first found
  obtain ⟨after, there, id, same, -⟩ := h.untouched before apart
  have picked : (after.directoryID == directoryID) = true := same ▸ here
  cases found' : m.first fun row => row.directoryID == directoryID with
  | none => simp [first_eq_none.mp found' after there] at picked
  | some row' =>
    refine ⟨row', rfl, or_iff_not_imp_right.mpr fun other => ?_⟩
    obtain ⟨stored, here'⟩ := of_first found'
    obtain ⟨old, before', id', same'⟩ := h.other stored other
    -- if it were another row, it would come after the first one before the write
    by_contra differs
    have early := sublist_ids_of_first found before' (same' ▸ here') (id' ▸ differs)
    have late := sublist_ids_of_first found' there picked fun equal =>
      differs (equal.symm.trans id)
    rw [id, id'] at late
    exact not_sublist_swap m.nodup_ids (early.trans h.order) late

theorem WriteSpec.first_of_directoryID_none
    {directoryID : String} (absent : (s.first fun row => row.directoryID == directoryID) = none) :
    (m.first fun row => row.directoryID == directoryID) = none ∨
      ∃ row', (m.first fun row => row.directoryID == directoryID) = some row' ∧
        written.stored.map (·.id) = some row'.id := by
  cases found : m.first fun row => row.directoryID == directoryID with
  | none => exact .inl rfl
  | some row' =>
    refine .inr ⟨row', rfl, ?_⟩
    by_contra other
    obtain ⟨stored, here⟩ := of_first found
    obtain ⟨old, before, -, same⟩ := h.other stored other
    have picked := first_eq_none.mp absent old before
    rw [← same, here] at picked
    cases picked

theorem WriteSpec.matchDN (named : c.dn ≠ "")
    (elsewhere : c.dn ≠ e.dn) (found : s.matchDN c = some row) (apart : target ≠ some row.id) :
    m.matchDN c = some row := by
  obtain ⟨first, same⟩ := filter_eq_some_iff.mp found
  obtain ⟨before, here⟩ := of_first first
  have dn : row.dn = c.dn := by simpa using here
  obtain ⟨row', there, -, -, kept⟩ := h.untouched before apart
  obtain rfl := kept (dn ▸ elsewhere)
  refine filter_eq_some_iff.mpr ⟨?_, same⟩
  cases first' : m.first fun row => row.dn == c.dn with
  | none => simp [first_eq_none.mp first' row' there] at here
  | some other =>
    obtain ⟨stored, here'⟩ := of_first first'
    have dn' : other.dn = c.dn := by simpa using here'
    rw [eq_of_dn stored there (dn' ▸ named) (dn'.trans dn.symm)]

/-- Another entry still matches the row it matched before the write, unless it now matches the
row that was written. -/
theorem WriteSpec.matchRow
    (named : c.dn ≠ "") (elsewhere : c.dn ≠ e.dn) (found : s.matchRow settings c = some row)
    (apart : target ≠ some row.id) :
    ∃ row', m.matchRow settings c = some row' ∧
      (row'.id = row.id ∨ written.stored.map (·.id) = some row'.id) := by
  unfold Sheet.matchRow at found ⊢
  by_cases configured : (settings.idConfigured && c.directoryID != "") = true
  · rw [if_pos configured] at found ⊢
    cases byID : s.first fun row => row.directoryID == c.directoryID with
    | some =>
      rw [byID] at found
      obtain rfl := some.inj found
      obtain ⟨row', first', which⟩ := h.first_of_directoryID byID apart
      rw [first']
      exact ⟨row', rfl, which⟩
    | none =>
      rw [byID] at found
      rcases h.first_of_directoryID_none byID with none | ⟨row', first', which⟩
      · rw [none]
        exact ⟨row, h.matchDN named elsewhere found apart, .inl rfl⟩
      · rw [first']
        exact ⟨row', rfl, .inr which⟩
  · rw [if_neg configured] at found ⊢
    exact ⟨row, h.matchDN named elsewhere found apart, .inl rfl⟩

end

/-- What a store records replaces no record of a row, if the entry and those that contend with it
are anchored to the rows on record under their DNs. -/
theorem WriteSpec.keeps (h : WriteSpec e follow now target born s written m) (sound : s.Sound)
    (entry : s.Recognizes e.dn target)
    (others : ∀ c ∈ contenders, c.dn ≠ "" ∧
      s.Recognizes c.dn ((s.matchRow settings c).map (·.id))) :
    Keeps (observedPairs settings m e written.stored written.contended contenders now) s := by
  intro k there p recorded key id named
  have stored : target = some id → written.stored.map (·.id) = some id := fun anchor =>
    (h.anchored (by simp [anchor])).trans anchor
  rcases of_observedPairs recorded with contended | ⟨c, contends, elsewhere, pair⟩
  · obtain ⟨dn, other, -⟩ := h.contended p contended
    rw [other]
    exact stored (entry k there (key.2.2.trans dn) id named)
  · obtain ⟨self, ⟨holder, dn, other⟩ | ⟨-, dn, other⟩⟩ := of_contenderPairs pair
    · -- the contender is on record with a row that is not the one written
      obtain ⟨present, recognized⟩ := others c contends
      obtain ⟨row, matched, rfl⟩ :=
        map_eq_some_iff.mp (recognized k there (key.2.2.trans dn) id named)
      have apart : target ≠ some row.id := by
        intro anchor
        have same := some.inj (holder.symm.trans (stored anchor))
        exact sound.apart k there (by rw [named, key.2.1, same])
      obtain ⟨row', matched', which⟩ := h.matchRow present elsewhere matched apart
      rw [other, matched']
      rcases which with same | written'
      · rw [map_some, same]
      · refine (self ?_).elim
        rw [other, matched', map_some, ← written', holder]
    · rw [other]
      exact stored (entry k there (key.2.2.trans dn) id named)

theorem StoreSpec.records (h : StoreSpec settings e follow now target born contenders s out s')
    (held : ∀ row, (follow row).withheldAt = row.withheldAt) (free : born.withheldAt = none) :
    ∃ pairs, Records pairs s s' ∧ (s.Sound → s.Recognizes e.dn target →
      (∀ c ∈ contenders, c.dn ≠ "" ∧ s.Recognizes c.dn ((s.matchRow settings c).map (·.id))) →
        Keeps pairs s) := by
  obtain ⟨write, record, released, -⟩ := h
  rename_i written m ids
  refine ⟨_, .mk (fun row' after => ?_) (fun k there => ?_) (fun k there gone row' _ names => ?_)
    record (fun p recorded id names => ?_) (fun p recorded => ?_), write.keeps⟩
  · rcases write.evolves.origin row' after with ⟨row, before, id, wrote⟩ | ⟨rfl, new⟩
    · refine .inl ⟨row, before, id, ?_⟩
      cases wrote with
      | kept | released => rfl
      | refreshed => exact held row
    · exact .inr ⟨free, new⟩
  · refine ⟨((write.collisions k).mp there).1, fun row stored _ => ?_⟩
    obtain ⟨row', after, id, -⟩ := write.evolves.persists row stored
    exact ⟨row', after, id⟩
  · refine released k ?_ _ names
    by_contra kept
    exact gone ((write.collisions k).mpr ⟨there, kept⟩)
  · have written' : ∀ id, written.stored.map (·.id) = some id → ∃ row ∈ m.rows.rows, row.id = id := by
      intro id same
      obtain ⟨row, found, rfl⟩ := map_eq_some_iff.mp same
      exact ⟨row, write.stored row found, rfl⟩
    have matched : ∀ c id, (m.matchRow settings c).map (·.id) = some id →
        ∃ row ∈ m.rows.rows, row.id = id := by
      intro c id same
      obtain ⟨row, found, rfl⟩ := map_eq_some_iff.mp same
      exact ⟨row, of_matchRow found, rfl⟩
    rw [NSSCollision.names_iff] at names
    rcases of_observedPairs recorded with contended | ⟨c, -, -, pair⟩
    · obtain ⟨-, other, holder, -⟩ := write.contended p contended
      rcases names with rfl | named
      · exact holder
      · exact written' id (other ▸ named)
    · obtain ⟨-, ⟨holder, -, other⟩ | ⟨holder, -, other⟩⟩ := of_contenderPairs pair
      · rcases names with rfl | named
        · exact written' _ holder
        · exact matched c id (other ▸ named)
      · rcases names with rfl | named
        · exact matched c _ holder
        · exact written' id (other ▸ named)
  · rcases of_observedPairs recorded with contended | ⟨c, -, -, pair⟩
    · exact (write.contended p contended).2.2.2
    · exact (of_contenderPairs pair).1

end Stores

/-! ## Every transaction -/

section Commit

variable {d d' : Directory} {newID : String} {statement : Statement} {result : statement.Result}

/-- A transaction records collisions between accounts. -/
def RecordsAccounts (d d' : Directory) (statement : Statement) : Prop :=
  ∃ pairs, Records pairs d.accounts d'.accounts ∧
    (d.accounts.Sound → Recognized d statement → Keeps pairs d.accounts)

/-- A transaction records collisions between groups. -/
def RecordsGroups (d d' : Directory) (statement : Statement) : Prop :=
  ∃ pairs, Records pairs d.groups d'.groups ∧
    (d.groups.Sound → Recognized d statement → Keeps pairs d.groups)

theorem keeps_nil {s : Sheet t} : Keeps [] s := by simp [Keeps]

/-- A transaction records the collisions it found. -/
theorem Transacts.records {drops : PosixRow α → Bool} {E : PosixRow α → PosixRow α → Prop}
    {B : PosixRow α → Prop} {recognized : Prop} {s s' : Sheet t}
    (h : Transacts drops E B recognized s s') :
    ∃ pairs, Records pairs s s' ∧ (s.Sound → recognized → Keeps pairs s) := by
  cases h with
  | changes all evolves collisions record each =>
    exact ⟨[], .of_evolves evolves collisions record (fun changed => (each changed).1)
      fun no => no.elim, fun _ _ => keeps_nil⟩
  | stores all spec held free same each births known =>
    obtain ⟨pairs, records, keeps⟩ := spec.records held free
    exact ⟨pairs, records, fun sound met => keeps sound (known met).1 (known met).2⟩
  | purges one purge => exact ⟨[], purge.records, fun _ _ => keeps_nil⟩

theorem accounts_record (h : (statement.tx newID).run d = .ok (result, d')) :
    RecordsAccounts d d' statement :=
  (transacts h).1.records

theorem groups_record (h : (statement.tx newID).run d = .ok (result, d')) :
    RecordsGroups d d' statement :=
  (transacts h).2.records

end Commit

/-! ## Runs -/

theorem Sheet.sound_empty : (empty : Sheet t).Sound :=
  ⟨nofun, nofun,
    fun _ none => absurd none not_mem_nil⟩

theorem Sheet.idle_empty : (empty : Sheet t).Idle :=
  fun _ none => absurd none not_mem_nil

theorem sound_of_committed {ok : Directory → Statement → Prop} {d : Directory}
    (h : Committed ok d) : d.accounts.Sound ∧ d.groups.Sound := by
  induction h with
  | empty => exact ⟨sound_empty, sound_empty⟩
  | commit before permitted done ih =>
    obtain ⟨_, accounts, -⟩ := accounts_record done
    obtain ⟨_, groups, -⟩ := groups_record done
    exact ⟨accounts.sound ih.1, groups.sound ih.2⟩

namespace Sample

/-- An account is stored as a host asked for its uid. -/
def storing (a : NSSAccount) (now : Int) : Statement :=
  .storeAccount settings a false [] ⟨true, false⟩ now

/-- A second account wants the name of a first one and is refused, which withholds the first. -/
theorem contested : ∃ d₁ d₂ result₁ result₂ row,
    ((storing (account "h" "1" "ann" 1) 1).tx "H").run .empty = .ok (result₁, d₁) ∧
      d₁.accounts.collisions.rows = [] ∧ d₁.groups.collisions.rows = [] ∧
      ((storing (account "x" "2" "ann" 2) 2).tx "X").run d₁ = .ok (result₂, d₂) ∧
      row ∈ d₂.accounts.rows.rows ∧ row.name = "ann" ∧ row.withheldAt.isSome = true ∧
      d₂.accounts.Named row.id := by
  have ran : ((((storing (account "h" "1" "ann" 1) 1).tx "H").run .empty).toOption.bind fun r₁ =>
      (((storing (account "x" "2" "ann" 2) 2).tx "X").run r₁.2).toOption.map fun r₂ =>
        (r₁.2.accounts.collisions.rows.isEmpty && r₁.2.groups.collisions.rows.isEmpty,
          r₂.2.accounts.rows.rows.map fun row => (row.id, row.name, row.withheldAt.isSome),
          r₂.2.accounts.collisions.rows.map fun k => k.holderID)) =
      some (true, [("H", "ann", true)], ["H"]) := by decide +kernel
  obtain ⟨r₁, first, ran⟩ := bind_eq_some_iff.mp ran
  obtain ⟨r₂, second, data⟩ := map_eq_some_iff.mp ran
  simp only [Prod.mk.injEq, Bool.and_eq_true, List.isEmpty_iff] at data
  obtain ⟨⟨accounts, groups⟩, rows, collisions⟩ := data
  obtain ⟨row, only, here⟩ := map_eq_singleton_iff.mp rows
  obtain ⟨k, record, holder⟩ := map_eq_singleton_iff.mp collisions
  simp only [Prod.mk.injEq] at here
  obtain ⟨id, name, withheld⟩ := here
  have contested : r₂.2.accounts.Named row.id :=
    ⟨k, record ▸ mem_singleton_self k, NSSCollision.names_iff.mpr (.inl (holder.trans id.symm))⟩
  exact ⟨r₁.2, r₂.2, r₁.1, r₂.1, row, toOption_eq_some.mp first, accounts, groups,
    toOption_eq_some.mp second, only ▸ mem_singleton_self row, name, withheld,
    contested⟩

end Sample

/-- **Withholding ends with its reason**, in every run in which the entries that stores meet at a
DN on record are those on record. -/
theorem idle_of_recognized {d : Directory} (h : Committed Recognized d) :
    d.accounts.Idle ∧ d.groups.Idle := by
  induction h with
  | empty => exact ⟨idle_empty, idle_empty⟩
  | commit before recognized done ih =>
    obtain ⟨soundAccounts, soundGroups⟩ := sound_of_committed before
    obtain ⟨_, accounts, keepsAccounts⟩ := accounts_record done
    obtain ⟨_, groups, keepsGroups⟩ := groups_record done
    exact ⟨accounts.idle (keepsAccounts soundAccounts recognized) ih.1,
      groups.idle (keepsGroups soundGroups recognized) ih.2⟩

namespace Sample

/-- An account is renamed to a name that is taken, and then another entry with that name is found
at its DN. -/
def replacing : List ServiceLabel :=
  refreshing 0 (account "h" "1" "ann" 1) "H" 1 ++
  refreshing 1 (account "x" "2" "bob" 2) "X" 2 ++
  refreshing 2 (account "x" "2" "ann" 2) "" 3 ++
  uninterrupted 3 (refreshUser (account "x" "3" "ann" 3)) [.time 4, .done "Y"]

end Sample

/-- The account that was replaced is withheld, and nothing is on record about it. -/
theorem withheld_unnamed : ∃ cfg, Reaches service (fun _ _ => True) idle cfg ∧
    ∃ row ∈ cfg.shared.directory.accounts.rows.rows,
      row.withheldAt ≠ none ∧ ¬ cfg.shared.directory.accounts.Named row.id := by
  have ran : (Sample.after Sample.replacing).map (fun cfg =>
      (cfg.shared.directory.accounts.rows.rows.map fun row => (row.id, row.withheldAt.isSome),
        cfg.shared.directory.accounts.collisions.rows.map fun k => (k.holderID, k.otherID))) =
      some ([("H", true), ("X", true)], [("H", none)]) := by decide +kernel
  obtain ⟨cfg, reached, data⟩ := map_eq_some_iff.mp ran
  obtain ⟨rows, collisions⟩ := Prod.mk.inj data
  obtain ⟨row, there, here⟩ := mem_map.mp
    (rows ▸ mem_cons_of_mem _ (mem_singleton_self _) :
      ("X", true) ∈ cfg.shared.directory.accounts.rows.rows.map fun row =>
        (row.id, row.withheldAt.isSome))
  obtain ⟨id, withheld⟩ := Prod.mk.inj here
  refine ⟨cfg, .of_runLabels Sample.replacing (fun _ _ _ => trivial) reached, row, there,
    isSome_iff_ne_none.mp withheld, ?_⟩
  rintro ⟨k, stored, names⟩
  have only : (k.holderID, k.otherID) ∈ [("H", none)] := collisions ▸ mem_map_of_mem stored
  obtain ⟨holder, other⟩ := Prod.mk.inj (mem_singleton.mp only)
  rw [id] at names
  simp [NSSCollision.names, holder, other] at names

theorem idle_of_recognized_contested : ∃ d row, Committed Recognized d ∧
    row ∈ d.accounts.rows.rows ∧ row.withheldAt.isSome = true ∧ d.accounts.Named row.id := by
  obtain ⟨d₁, d₂, result₁, result₂, row, first, accounts, -, second, there, -, withheld, -⟩ :=
    Sample.contested
  have fresh : Recognized .empty (Sample.storing (Sample.account "h" "1" "ann" 1) 1) :=
    ⟨fun k none => absurd none not_mem_nil, fun c none => absurd none not_mem_nil⟩
  have known : Recognized d₁ (Sample.storing (Sample.account "x" "2" "ann" 2) 2) := by
    refine ⟨fun k stored => ?_, fun c none => absurd none not_mem_nil⟩
    rw [accounts] at stored
    cases stored
  have committed : Committed Recognized d₂ := .commit (.commit .empty fresh first) known second
  exact ⟨d₂, row, committed, there, withheld, (idle_of_recognized committed).1 row there withheld⟩

end Ssoossh.NSS
