import Mathlib.Logic.Basic
import Ssoossh.NSS.Lifecycle

/-!
# What the statements do to the rows

Every transaction is a sequence of statements, and what a sequence does to a table is
said with one relation.  `Evolves E B s s'`: every row of `s` is still there, changed
along `E`, and every row of `s'` comes from one of `s` in that way or was born as `B`
says.  Rows are told apart by their ids.

Most of what the transactions write is bookkeeping: which DN a row holds and whether it
is withheld.  `Same` is agreement on everything else, and a transaction that only does
bookkeeping is `Quiet`.
-/

namespace Ssoossh.NSS

open Relational Transactional Tx List

variable {α : Type} {t : NSSTable α}

/-! ## Evolution -/

/-- Rows are kept, changed along `E`; new ones are born as `B` says. -/
structure Evolves (E : PosixRow α → PosixRow α → Prop) (B : PosixRow α → Prop)
    (s s' : Sheet t) : Prop where
  origin : ∀ row' ∈ s'.rows.rows,
    (∃ row ∈ s.rows.rows, row'.id = row.id ∧ E row row') ∨
      (B row' ∧ ∀ row ∈ s.rows.rows, row.id ≠ row'.id)
  persists : ∀ row ∈ s.rows.rows, ∃ row' ∈ s'.rows.rows, row'.id = row.id ∧ E row row'

namespace Evolves

variable {E E₁ E₂ : PosixRow α → PosixRow α → Prop} {B B₁ B₂ : PosixRow α → Prop}
variable {s m s' : Sheet t}

/-- A row and what became of it. -/
theorem row (h : Evolves E B s s') {row row' : PosixRow α} (before : row ∈ s.rows.rows)
    (after : row' ∈ s'.rows.rows) (same : row'.id = row.id) : E row row' := by
  obtain ⟨next, there, id, changed⟩ := h.persists row before
  obtain rfl := Sheet.eq_of_id there after (id.trans same.symm)
  exact changed

theorem mono (h : Evolves E₁ B₁ s s') (wider : ∀ {a b}, b.id = a.id → E₁ a b → E₂ a b)
    (births : ∀ {a}, B₁ a → B₂ a) : Evolves E₂ B₂ s s' where
  origin row' after := by
    rcases h.origin row' after with ⟨row, before, id, changed⟩ | ⟨born, new⟩
    · exact .inl ⟨row, before, id, wider id changed⟩
    · exact .inr ⟨births born, new⟩
  persists row before := by
    obtain ⟨row', after, id, changed⟩ := h.persists row before
    exact ⟨row', after, id, wider id changed⟩

/-- One transaction after another. -/
theorem comp (h₁ : Evolves E₁ B₁ s m) (h₂ : Evolves E₂ B₂ m s')
    (steps : ∀ {a b c}, b.id = a.id → E₁ a b → E₂ b c → E a c)
    (born : ∀ {b c}, B₁ b → E₂ b c → B c) (late : ∀ {c}, B₂ c → B c) : Evolves E B s s' where
  origin row' after := by
    rcases h₂.origin row' after with ⟨mid, between, id, changed⟩ | ⟨new, fresh⟩
    · rcases h₁.origin mid between with ⟨row, before, id', changed'⟩ | ⟨new, fresh⟩
      · exact .inl ⟨row, before, id.trans id', steps id' changed' changed⟩
      · exact .inr ⟨born new changed, fun row before => id ▸ fresh row before⟩
    · refine .inr ⟨late new, fun row before same => ?_⟩
      obtain ⟨mid, between, id, -⟩ := h₁.persists row before
      exact fresh mid between (id.trans same)
  persists row before := by
    obtain ⟨mid, between, id, changed⟩ := h₁.persists row before
    obtain ⟨row', after, id', changed'⟩ := h₂.persists mid between
    exact ⟨row', after, id'.trans id, steps id changed changed'⟩

/-- A table whose rows are rewritten in place. -/
theorem of_map {g : PosixRow α → PosixRow α} (rows : s'.rows.rows = s.rows.rows.map g)
    (ids : ∀ row ∈ s.rows.rows, (g row).id = row.id) (each : ∀ row ∈ s.rows.rows, E row (g row)) :
    Evolves E B s s' where
  origin row' after := by
    rw [rows, mem_map] at after
    obtain ⟨row, before, rfl⟩ := after
    exact .inl ⟨row, before, ids row before, each row before⟩
  persists row before :=
    ⟨g row, rows ▸ mem_map_of_mem before, ids row before, each row before⟩

/-- A table whose rows are left alone. -/
theorem of_rows_eq (rows : s'.rows.rows = s.rows.rows) (refl : ∀ row, E row row) :
    Evolves E B s s' :=
  of_map (g := id) (by rw [rows, map_id]) (fun _ _ => rfl) fun row _ => refl row

/-- A table with the same rows. -/
theorem of_same (h : Evolves E B m s') (rows : m.rows = s.rows) : Evolves E B s s' :=
  ⟨rows ▸ h.origin, rows ▸ h.persists⟩

end Evolves

/-! ## Bookkeeping -/

/-- A row without the bookkeeping. -/
def PosixRow.core (row : PosixRow α) : PosixRow α :=
  { row with dn := "", withheldAt := none, withheldReason := "", updatedAt := 0 }

/-- Rows that differ in bookkeeping only. -/
def Same (a b : PosixRow α) : Prop := a.core = b.core

namespace Same

variable {a b c : PosixRow α}

theorem trans (h : Same a b) (h' : Same b c) : Same a c := Eq.trans h h'

/-- What is not bookkeeping agrees. -/
theorem agree {β : Type} (h : Same a b) (column : PosixRow α → β)
    (reads : ∀ row : PosixRow α, column row.core = column row) : column a = column b := by
  have same : a.core = b.core := h
  rw [← reads a, ← reads b, same]

theorem id (h : Same a b) : a.id = b.id := h.agree PosixRow.id fun _ => rfl

theorem number (h : Same a b) : a.number = b.number := h.agree PosixRow.number fun _ => rfl

theorem own (h : Same a b) : a.own = b.own := h.agree PosixRow.own fun _ => rfl

end Same

/-! ## Statements -/

section Statements

variable {s s' : Sheet t} {u : PUnit}

/-- A checked value is written. -/
theorem run_checked_set_eq_ok {σ β : Type} {result : Option β} {write : β → σ} {a a' : σ} :
    (checked result >>= fun value => set (write value) : Tx σ Failure PUnit).run a = .ok (u, a') ↔
      ∃ value, result = some value ∧ write value = a' := by
  cases result with
  | none => exact ⟨fun impossible => (nomatch impossible), fun ⟨_, impossible, _⟩ => (nomatch impossible)⟩
  | some => exact run_set_eq_ok.trans (by simp)

variable {p : PosixRow α → Bool} {f : PosixRow α → PosixRow α}

section

variable (h : (updateRows p f : SheetTx t PUnit).run s = .ok (u, s'))
include h

theorem of_updateRows :
    s'.rows.rows = s.rows.rows.map (Rel.rewrite p f) ∧ s'.collisions = s.collisions := by
  replace h := run_get_bind_eq_ok.mp h
  obtain ⟨rows, updated, rfl⟩ := run_checked_set_eq_ok.mp h
  exact ⟨Rel.rows_update updated, rfl⟩

/-- What an update does, row by row. -/
theorem evolves_of_updateRows {E : PosixRow α → PosixRow α → Prop} {B : PosixRow α → Prop}
    (ids : ∀ row, (f row).id = row.id) (hit : ∀ row ∈ s.rows.rows, p row = true → E row (f row))
    (miss : ∀ row ∈ s.rows.rows, p row = false → E row row) :
    s'.collisions = s.collisions ∧ Evolves E B s s' := by
  obtain ⟨rows, collisions⟩ := of_updateRows h
  refine ⟨collisions, .of_map rows (fun row _ => ?_) fun row member => ?_⟩
  · unfold Rel.rewrite
    split
    · exact ids row
    · rfl
  · cases picked : p row with
    | true => exact Rel.rewrite_pos (f := f) picked ▸ hit row member picked
    | false => exact (Rel.rewrite_neg (f := f) picked).symm ▸ miss row member picked

/-- An update of columns that say nothing about the order of the rows. -/
theorem ids_of_updateRows
    (ids : ∀ row, (f row).id = row.id) (created : ∀ row, (f row).createdAt = row.createdAt) :
    s'.ids = s.ids := by
  have same : s'.ordered = s.ordered.map (Rel.rewrite p f) := by
    rw [Sheet.ordered, (of_updateRows h).1]
    refine (map_insertionSort _ _ _ _ fun a _ b _ => ?_).symm
    rw [Rel.rewrite_column PosixRow.createdAt created, Rel.rewrite_column PosixRow.createdAt created]
  rw [Sheet.ids, same, map_map, Sheet.ids]
  exact map_congr_left fun row _ => Rel.rewrite_column PosixRow.id ids row

end

variable {row : PosixRow α}

theorem of_insertRow (h : (insertRow row : SheetTx t PUnit).run s = .ok (u, s')) :
    (∀ old ∈ s.rows.rows, ¬ t.Clash old row) ∧ s'.rows.rows = s.rows.rows ++ [row] ∧
      s'.collisions = s.collisions := by
  replace h := run_get_bind_eq_ok.mp h
  obtain ⟨rows, inserted, rfl⟩ := run_checked_set_eq_ok.mp h
  exact ⟨(Rel.insert_cases inserted).1, (Rel.insert_cases inserted).2, rfl⟩

/-- A row that is inserted leaves the others in their order. -/
theorem ids_of_insertRow (h : (insertRow row : SheetTx t PUnit).run s = .ok (u, s')) :
    s.ids.Sublist s'.ids := by
  have more : s.rows.rows.Sublist s'.rows.rows := by
    rw [(of_insertRow h).2.1]
    exact sublist_append_left _ _
  exact (insertionSort_sublist more).map PosixRow.id

theorem of_deleteRows {affected : Bool}
    (h : (deleteRows p : SheetTx t Bool).run s = .ok (affected, s')) :
    s' = { s with rows := s.rows.delete p } ∧ affected = s.rows.rows.any p := by
  replace h := run_get_bind_eq_ok.mp h
  obtain ⟨_, c, second, third⟩ := run_bind_eq_ok.mp h
  obtain rfl := run_set_eq_ok.mp second
  obtain ⟨rfl, rfl⟩ := run_pure_eq_ok.mp third
  exact ⟨rfl, rfl⟩

theorem of_firstByID {id : String}
    (h : (firstByID id : SheetTx t (PosixRow α)).run s = .ok (row, s')) :
    s' = s ∧ row ∈ s.rows.rows ∧ row.id = id := by
  replace h := run_get_bind_eq_ok.mp h
  cases found : s.first fun row => row.id == id with
  | none =>
    rw [found] at h
    exact (run_throw_ne_ok h).elim
  | some =>
    rw [found] at h
    obtain ⟨rfl, rfl⟩ := run_pure_eq_ok.mp h
    exact ⟨rfl, (Sheet.of_first found).1, by simpa using (Sheet.of_first found).2⟩

/-- The collisions that are deleted are always ones that were just selected. -/
theorem of_deleteCollisions {q : NSSCollision → Bool}
    (h : (deleteCollisions (s.collisions.select q) : SheetTx t PUnit).run s = .ok (u, s')) :
    s'.rows = s.rows ∧
      ∀ k, k ∈ s'.collisions.rows ↔ k ∈ s.collisions.rows ∧ q k = false := by
  replace h := run_get_bind_eq_ok.mp h
  obtain rfl := run_set_eq_ok.mp h
  refine ⟨rfl, fun k => ?_⟩
  rw [Rel.mem_delete]
  refine and_congr_right fun stored => ?_
  constructor
  · intro kept
    by_contra picked
    have member : k ∈ s.collisions.select q := Rel.mem_select.mpr ⟨stored, by simpa using picked⟩
    exact any_eq_false.mp kept k member (decide_eq_true ⟨rfl, rfl, rfl⟩)
  · intro free
    rw [any_eq_false]
    intro p picked key
    obtain ⟨there, taken⟩ := Rel.mem_select.mp picked
    obtain rfl := Rel.eq_of_clash NSSCollision.SameKey.symm stored there (of_decide_eq_true key)
    rw [taken] at free
    cases free

/-- `upsertCollision`, of one collision or of several: what is in the table afterwards, what
becomes of what was in it, and that everything upserted is there. -/
structure Upserts (pairs : List NSSCollision) (s s' : Sheet t) : Prop where
  rows : s'.rows = s.rows
  origin : ∀ k ∈ s'.collisions.rows,
    (k ∈ s.collisions.rows ∧ ∀ p ∈ pairs, ¬ k.SameKey p) ∨
      ∃ p ∈ pairs, k.SameKey p ∧ k.otherID = p.otherID
  kept : ∀ k ∈ s.collisions.rows, (∃ p ∈ pairs, k.SameKey p) ∨ k ∈ s'.collisions.rows
  present : ∀ p ∈ pairs, ∃ k ∈ s'.collisions.rows, k.SameKey p

/-- Nothing is upserted. -/
theorem Upserts.nil (s : Sheet t) : Upserts [] s s :=
  ⟨rfl, fun k after => .inl ⟨after, by simp⟩, fun k before => .inr before, by simp⟩

theorem of_upsertCollision {p : NSSCollision}
    (h : (upsertCollision p : SheetTx t PUnit).run s = .ok (u, s')) : Upserts [p] s s' := by
  replace h := run_get_bind_eq_ok.mp h
  obtain ⟨collisions, written, rfl⟩ := run_checked_set_eq_ok.mp h
  split_ifs at written with there
  · have members : ∀ k, k ∈ collisions.rows ↔ _ := fun _ => Rel.mem_update written
    obtain ⟨old, stored, key⟩ := any_eq_true.mp there
    refine ⟨rfl, fun k after => ?_, fun k before => ?_, fun q only => ?_⟩
    · obtain ⟨k₀, before, rfl⟩ := (members k).mp after
      by_cases key : k₀.SameKey p
      · rw [Rel.rewrite_pos (by simpa using key)]
        exact .inr ⟨p, mem_singleton_self p, key, rfl⟩
      · rw [Rel.rewrite_neg (by simpa using key)]
        exact .inl ⟨before, by simpa using key⟩
    · by_cases key : k.SameKey p
      · exact .inl ⟨p, mem_singleton_self p, key⟩
      · exact .inr ((members k).mpr ⟨k, before, Rel.rewrite_neg (by simpa using key)⟩)
    · obtain rfl := mem_singleton.mp only
      exact ⟨q.seenAgain old, (members _).mpr ⟨old, stored, Rel.rewrite_pos key⟩,
        of_decide_eq_true key⟩
  · have members : ∀ k, k ∈ collisions.rows ↔ _ := fun _ => Rel.mem_insert written
    have absent : ∀ k ∈ s.collisions.rows, ¬ k.SameKey p := by simpa using there
    refine ⟨rfl, fun k after => ?_, fun k before => ?_, fun q only => ?_⟩
    · rcases (members k).mp after with before | rfl
      · exact .inl ⟨before, by simpa using absent k before⟩
      · exact .inr ⟨k, mem_singleton_self k, ⟨rfl, rfl, rfl⟩, rfl⟩
    · exact .inr ((members k).mpr (.inl before))
    · obtain rfl := mem_singleton.mp only
      exact ⟨q, (members q).mpr (.inr rfl), ⟨rfl, rfl, rfl⟩⟩

theorem of_upsertCollisions {pairs : List NSSCollision}
    (h : (pairs.forM upsertCollision : SheetTx t PUnit).run s = .ok (u, s')) :
    Upserts pairs s s' := by
  induction pairs generalizing s with
  | nil =>
    obtain ⟨-, rfl⟩ := run_pure_eq_ok.mp h
    exact .nil s
  | cons p pairs ih =>
    obtain ⟨_, m, first, h⟩ := run_bind_eq_ok.mp h
    have one := of_upsertCollision first
    have rest := ih h
    refine ⟨rest.rows.trans one.rows, fun k after => ?_, fun k before => ?_, fun q member => ?_⟩
    · rcases rest.origin k after with ⟨between, free⟩ | ⟨q, member, key⟩
      · rcases one.origin k between with ⟨before, free'⟩ | ⟨q, member, key⟩
        · exact .inl ⟨before, forall_mem_cons.mpr ⟨free' p (mem_singleton_self p), free⟩⟩
        · obtain rfl := mem_singleton.mp member
          exact .inr ⟨q, mem_cons_self, key⟩
      · exact .inr ⟨q, mem_cons_of_mem p member, key⟩
    · rcases one.kept k before with ⟨q, member, key⟩ | between
      · obtain rfl := mem_singleton.mp member
        exact .inl ⟨q, mem_cons_self, key⟩
      · rcases rest.kept k between with ⟨q, member, key⟩ | after
        · exact .inl ⟨q, mem_cons_of_mem p member, key⟩
        · exact .inr after
    · rcases mem_cons.mp member with rfl | member
      · -- the first pair is there at once, and a later one under its key replaces it
        obtain ⟨k, between, key⟩ := one.present q (mem_singleton_self q)
        rcases rest.kept k between with ⟨p, later, key'⟩ | after
        · obtain ⟨k', after, key''⟩ := rest.present p later
          exact ⟨k', after, key''.trans (key'.symm.trans key)⟩
        · exact ⟨k, after, key⟩
      · exact rest.present q member

end Statements

/-! ## Withholding -/

/-- Some collision names the row. -/
def Sheet.Named (s : Sheet t) (id : String) : Prop := ∃ k ∈ s.collisions.rows, k.names id = true

theorem Sheet.named_congr {s s' : Sheet t} (same : s'.collisions = s.collisions) :
    s'.Named = s.Named := by
  funext id
  rw [Sheet.Named, Sheet.Named, same]

/-- What `recomputeWithheld` does to a row, where `named` says which rows are contested. -/
structure Judged (ids : List String) (contested : String → Prop) (row row' : PosixRow α) : Prop where
  same : Same row row'
  other : row.id ∉ ids → row' = row
  own : row.id ∈ ids → (row'.withheldAt.isSome = true ↔ contested row.id)
  dn : row'.dn = row.dn

section Withholding

variable {s s' : Sheet t} {u : PUnit} {now : Int}

theorem of_recomputeRow {id : String}
    (h : (recomputeRow now id : SheetTx t PUnit).run s = .ok (u, s')) :
    s'.collisions = s.collisions ∧ Evolves (Judged [id] s.Named) (fun _ => False) s s' := by
  replace h := run_get_bind_eq_ok.mp h
  have contested : ((s.collisions.select (·.names id)).insertionSort
      fun a b => a.before b = true).isEmpty = true ↔ ¬ s.Named id := by
    rw [List.isEmpty_iff, ← length_eq_zero_iff, length_insertionSort,
      length_eq_zero_iff, eq_nil_iff_forall_not_mem]
    simp only [Rel.mem_select, Sheet.Named, not_exists]
  by_cases empty : ((s.collisions.select (·.names id)).insertionSort
      fun a b => a.before b = true).isEmpty = true
  · rw [if_pos empty] at h
    refine evolves_of_updateRows h (fun _ => rfl) (fun row _ here => ?_) fun row _ here => ?_
    · obtain ⟨same, -⟩ : row.id = id ∧ _ := by simpa using here
      refine ⟨rfl, fun absent => (absent (by simp [same])).elim, fun _ => ?_, rfl⟩
      simpa [same] using contested.mp empty
    · refine ⟨rfl, fun _ => rfl, fun member => ?_, rfl⟩
      obtain same := mem_singleton.mp member
      have free : row.withheldAt.isSome = false := by simpa [same] using here
      simpa [free, same] using contested.mp empty
  · rw [if_neg empty] at h
    refine evolves_of_updateRows h (fun _ => rfl) (fun row _ here => ?_) fun row _ here => ?_
    · have same : row.id = id := by simpa using here
      refine ⟨rfl, fun absent => (absent (by simp [same])).elim, fun _ => ?_, rfl⟩
      simpa [same] using not_not.mp (mt contested.mpr empty)
    · exact ⟨rfl, fun _ => rfl, fun member => by simp_all, rfl⟩

/-- Rows that are judged twice, by the same collisions. -/
theorem Judged.trans {ids ids' : List String} {contested : String → Prop} {a b c : PosixRow α}
    (h : Judged ids contested a b) (h' : Judged ids' contested b c) :
    Judged (ids ++ ids') contested a c := by
  have same : b.id = a.id := h.same.id.symm
  refine ⟨h.same.trans h'.same, fun absent => ?_, fun member => ?_, h'.dn.trans h.dn⟩
  · rw [mem_append, not_or, ← same] at absent
    rw [h'.other absent.2, h.other (same ▸ absent.1)]
  · by_cases later : b.id ∈ ids'
    · rw [h'.own later, same]
    · rw [h'.other later]
      refine h.own ((mem_append.mp member).resolve_right fun later' => later (same ▸ later'))

theorem of_recomputeWithheld {ids : List String}
    (h : (recomputeWithheld ids now : SheetTx t PUnit).run s = .ok (u, s')) :
    s'.collisions = s.collisions ∧ Evolves (Judged ids s.Named) (fun _ => False) s s' := by
  induction ids generalizing s with
  | nil =>
    obtain ⟨-, rfl⟩ := run_pure_eq_ok.mp h
    exact ⟨rfl, .of_rows_eq rfl fun row => ⟨rfl, fun _ => rfl, by simp, rfl⟩⟩
  | cons id ids ih =>
    obtain ⟨_, m, first, h⟩ := run_bind_eq_ok.mp h
    obtain ⟨collisions, one⟩ := of_recomputeRow first
    obtain ⟨collisions', rest⟩ := ih h
    rw [Sheet.named_congr collisions] at rest
    exact ⟨collisions'.trans collisions, one.comp rest (fun _ first second => first.trans second)
      (fun no _ => no.elim) fun no => no.elim⟩

end Withholding

end Ssoossh.NSS
