import Mathlib.Data.List.Pairwise
import Mathlib.Data.List.Sort

/-!
# Tables with any number of unique indexes

A table whose unique indexes together forbid some pairs of rows.  What they forbid is
one relation `clash` between rows, and that no two rows clash is a **field of the
table**.  A statement that would break it is refused, as a database refuses it, so
the statements are partial where they can be and total where they cannot.

`Table` (in the module of that name) is the special case of one key and one index,
with the evidence that an update is harmless given by the caller; here an update is
checked when it is run, which is what a program sees that does not know.
-/

namespace Relational

open List

/-- Rows no two of which clash. -/
structure Rel (V : Type) (clash : V → V → Prop) where
  rows : List V
  distinct : rows.Pairwise fun a b => ¬ clash a b

namespace Rel

variable {V : Type} {clash : V → V → Prop}

/-- The empty table. -/
def empty : Rel V clash := ⟨[], .nil⟩

/-- The rows of a select. -/
def select (table : Rel V clash) (p : V → Bool) : List V := table.rows.filter p

variable {table : Rel V clash} {p : V → Bool} {row : V}

theorem mem_select : row ∈ table.select p ↔ row ∈ table.rows ∧ p row = true := mem_filter

/-- Rows that clash are one row. -/
theorem eq_of_clash (symm : ∀ {a b}, clash a b → clash b a) {a b : V} (inA : a ∈ table.rows)
    (inB : b ∈ table.rows) (both : clash a b) : a = b := by
  by_contra apart
  have mirrored : Std.Symm fun a b => ¬ clash a b := ⟨fun _ _ free back => free (symm back)⟩
  exact table.distinct.forall inA inB apart both

/-- At most one row is selected. -/
def One (table : Rel V clash) (p : V → Bool) : Prop :=
  ∀ a ∈ table.rows, ∀ b ∈ table.rows, p a = true → p b = true → a = b

/-- A select of one row at most finds it. -/
theorem head?_select_eq_some (one : table.One p) :
    (table.select p).head? = some row ↔ row ∈ table.rows ∧ p row = true := by
  rw [← mem_select]
  constructor
  · exact mem_of_head?
  · intro member
    cases found : (table.select p).head? with
    | none =>
      rw [List.head?_eq_none_iff.mp found] at member
      cases member
    | some =>
      obtain ⟨there, picked⟩ := mem_select.mp (mem_of_head? found)
      rw [one _ there _ (mem_select.mp member).1 picked (mem_select.mp member).2]

theorem head?_select_eq_none :
    (table.select p).head? = none ↔ ∀ row ∈ table.rows, p row = false := by
  rw [List.head?_eq_none_iff, select, filter_eq_nil_iff]
  simp

/-! ## Inserting -/

variable {next : Rel V clash}

section Insert

variable [DecidableRel clash]

/-- Add a row, or refuse it. -/
def insert (table : Rel V clash) (row : V) : Option (Rel V clash) :=
  if h : ∀ old ∈ table.rows, ¬ clash old row then
    some ⟨table.rows ++ [row], pairwise_append.mpr
      ⟨table.distinct, pairwise_singleton _ _, by simpa using h⟩⟩
  else none

theorem insert_cases (h : table.insert row = some next) :
    (∀ old ∈ table.rows, ¬ clash old row) ∧ next.rows = table.rows ++ [row] := by
  unfold insert at h
  split at h
  · rename_i free
    cases h
    exact ⟨free, rfl⟩
  · cases h

theorem mem_insert {other : V} (h : table.insert row = some next) :
    other ∈ next.rows ↔ other ∈ table.rows ∨ other = row := by
  rw [(insert_cases h).2]
  simp

end Insert

/-! ## Updating -/

/-- What an update makes of a row. -/
def rewrite (p : V → Bool) (f : V → V) (row : V) : V := if p row then f row else row

variable {f : V → V}

theorem rewrite_pos (h : p row = true) : rewrite p f row = f row := if_pos h

theorem rewrite_neg (h : p row = false) : rewrite p f row = row := if_neg (by simp [h])

/-- A column an update does not set. -/
theorem rewrite_column {C : Type} (column : V → C) (keeps : ∀ row, column (f row) = column row)
    (row : V) : column (rewrite p f row) = column row := by
  unfold rewrite
  split
  · exact keeps row
  · rfl

section Update

variable [DecidableRel clash]

/-- Rewrite the rows accepted by `p`, or refuse to. -/
def update (table : Rel V clash) (p : V → Bool) (f : V → V) : Option (Rel V clash) :=
  if h : (table.rows.map (rewrite p f)).Pairwise fun a b => ¬ clash a b then
    some ⟨table.rows.map (rewrite p f), h⟩
  else none

theorem rows_update (h : table.update p f = some next) :
    next.rows = table.rows.map (rewrite p f) := by
  unfold update at h
  split at h
  · cases h
    rfl
  · cases h

theorem mem_update (h : table.update p f = some next) :
    row ∈ next.rows ↔ ∃ old ∈ table.rows, rewrite p f old = row := by
  rw [rows_update h, mem_map]

end Update

/-! ## Deleting -/

/-- Delete the rows accepted by `p`. -/
def delete (table : Rel V clash) (p : V → Bool) : Rel V clash :=
  ⟨table.rows.filter fun row => !p row, table.distinct.filter _⟩

theorem mem_delete : row ∈ (table.delete p).rows ↔ row ∈ table.rows ∧ p row = false := by
  simp [delete]

end Rel

/-! ## Order

A select may ask for its rows in an order that leaves ties open, and then the sort is
stable: it does not exchange rows that are tied. -/

section Order

variable {V : Type}

/-- Sorting more rows does not reorder those that were there. -/
theorem insertionSort_sublist {r : V → V → Prop} [DecidableRel r] [Std.Total r] [IsTrans V r]
    {l l' : List V} (h : l.Sublist l') : (l.insertionSort r).Sublist (l'.insertionSort r) := by
  induction h with
  | slnil => exact .refl _
  | cons a _ ih => exact ih.trans (sublist_orderedInsert a _)
  | cons_cons a _ ih => exact ih.orderedInsert_sublist a (pairwise_insertionSort r _)

/-- Of two different elements only one comes first. -/
theorem not_sublist_swap {a b : V} {l : List V} (nodup : l.Nodup) (h : [a, b].Sublist l) :
    ¬ [b, a].Sublist l := by
  intro swapped
  have apart : a ≠ b := by simpa using nodup.sublist h
  induction l with
  | nil => cases h
  | cons c l ih =>
    have absent := (nodup_cons.mp nodup).1
    cases h with
    | cons _ h =>
      cases swapped with
      | cons _ swapped => exact ih (nodup_cons.mp nodup).2 h swapped
      | cons_cons => exact absent (h.subset (by simp))
    | cons_cons =>
      cases swapped with
      | cons _ swapped => exact absent (swapped.subset (by simp))
      | cons_cons => exact apart rfl

end Order

end Relational
