import Mathlib.Data.List.Infix
import Mathlib.Data.List.Nodup
import Mathlib.Data.List.Lemmas
import Mathlib.Data.List.Pairwise

/-!
# Tables with a primary key and a unique index

A relational table as the programs over it see it: rows with a primary key, and
at most one further unique index, which may be partial (a row outside the index
answers `none`).  Both uniqueness constraints are **fields of the table**, so a
statement that would violate one of them is not a statement that can be run: an
`insert` that clashes is refused, and an `update` is only accepted with the
evidence that it moves no row onto a key or an index value it did not have.

The programs only ever use three statements, and the three read rules below are
all their proofs need:

* `find?_insert`: a row is read back, and nothing else changed;
* `find?_update`: a guarded update touches exactly the rows its guard accepts;
* `find?_of_mem`: the key determines the row.
-/

namespace Relational

open List

variable {V K U : Type}

/-- A table of rows `V`, with primary key `key` and partial unique index `index`. -/
structure Table (key : V → K) (index : V → Option U) where
  rows : List V
  keys : (rows.map key).Nodup
  indexed : (rows.filterMap index).Nodup

namespace Table

variable {key : V → K} {index : V → Option U}

/-- The empty table. -/
def empty : Table key index := ⟨[], nodup_nil, nodup_nil⟩

/-- The rows of a select. -/
def select (table : Table key index) (p : V → Bool) : List V := table.rows.filter p

/-- The first row of a select. -/
def findWhere (table : Table key index) (p : V → Bool) : Option V := table.rows.find? p

variable {table : Table key index} {k : K} {row : V}

section Find

variable [DecidableEq K]

/-- The row with a primary key. -/
def find? (table : Table key index) (k : K) : Option V :=
  table.rows.find? fun row => decide (key row = k)

theorem find?_key (h : table.find? k = some row) : key row = k := by
  have := List.find?_some h
  simpa using this

theorem mem_of_find? (h : table.find? k = some row) : row ∈ table.rows :=
  mem_of_find?_eq_some h

/-- The primary key determines the row. -/
theorem find?_of_mem (member : row ∈ table.rows) : table.find? (key row) = some row := by
  cases found : table.find? (key row) with
  | none =>
    have absent := List.find?_eq_none.mp found row member
    simp at absent
  | some =>
    have same := inj_on_of_nodup_map table.keys (mem_of_find? found) member
      (find?_key found)
    rw [same]

theorem find?_iff : table.find? k = some row ↔ row ∈ table.rows ∧ key row = k := by
  constructor
  · exact fun h => ⟨mem_of_find? h, find?_key h⟩
  · rintro ⟨member, rfl⟩
    exact find?_of_mem member

theorem find?_eq_none : table.find? k = none ↔ ∀ row ∈ table.rows, key row ≠ k := by
  simp [find?]

@[simp] theorem find?_empty (k : K) : (empty : Table key index).find? k = none := rfl

end Find

variable {p : V → Bool}

theorem mem_of_findWhere (h : table.findWhere p = some row) : row ∈ table.rows ∧ p row = true :=
  ⟨mem_of_find?_eq_some h, List.find?_some h⟩

theorem mem_select : row ∈ table.select p ↔ row ∈ table.rows ∧ p row = true := mem_filter

/-- The unique index determines the row, among the rows it covers. -/
theorem eq_of_index {other : V} {u : U} (member : row ∈ table.rows) (member' : other ∈ table.rows)
    (atRow : index row = some u) (atOther : index other = some u) : row = other := by
  by_contra apart
  have mirrored : Std.Symm fun a b : V => ∀ u ∈ index a, ∀ v ∈ index b, u ≠ v :=
    ⟨fun _ _ free v atB u atA same => free u atA v atB same.symm⟩
  exact (pairwise_filterMap.mp table.indexed).forall member member' apart u atRow u atOther rfl

/-! ## Inserting -/

section Insert

variable [DecidableEq K] [DecidableEq U]

/-- Whether a row may be added: its key is new, and so is its index value if it
has one. -/
def Accepts (table : Table key index) (row : V) : Prop :=
  key row ∉ table.rows.map key ∧ ∀ u ∈ index row, u ∉ table.rows.filterMap index

instance (table : Table key index) (row : V) : Decidable (table.Accepts row) :=
  inferInstanceAs (Decidable (_ ∧ ∀ u ∈ index row, _))

/-- Add a row, or refuse it as a unique violation. -/
def insert (table : Table key index) (row : V) : Option (Table key index) :=
  if h : table.Accepts row then
    some {
      rows := table.rows ++ [row]
      keys := by
        simpa [nodup_append, table.keys] using h.1
      indexed := by
        cases atRow : index row with
        | none => simpa [filterMap_append, atRow] using table.indexed
        | some u =>
          have fresh := h.2 u atRow
          rw [filterMap_append, filterMap_cons_some atRow, filterMap_nil,
            ← concat_eq_append, nodup_concat]
          exact ⟨fresh, table.indexed⟩ }
  else none

variable {next : Table key index}

theorem rows_insert (h : table.insert row = some next) : next.rows = table.rows ++ [row] := by
  unfold insert at h
  split at h
  · rw [← Option.some.inj h]
  · cases h

theorem accepts_of_insert (h : table.insert row = some next) : table.Accepts row := by
  unfold insert at h
  split at h
  · assumption
  · cases h

variable (h : table.insert row = some next)
include h

/-- A row is only added under a new key. -/
theorem find?_of_insert : table.find? (key row) = none :=
  find?_eq_none.mpr fun other member clash =>
    (accepts_of_insert h).1 (mem_map.mpr ⟨other, member, clash⟩)

/-- Reading after an insert. -/
theorem find?_insert (k : K) : next.find? k = if key row = k then some row else table.find? k := by
  rw [find?, rows_insert h, List.find?_append]
  by_cases same : key row = k
  · subst same
    have absent := find?_of_insert h
    rw [find?] at absent
    simp [absent]
  · simp [same, find?]

/-- An insert hides no row. -/
theorem find?_insert_of_some {old : V}
    (found : table.find? k = some old) : next.find? k = some old := by
  rw [find?_insert h, if_neg, found]
  rintro rfl
  rw [find?_of_insert h] at found
  cases found

end Insert

/-! ## Updating -/

/-- Rewriting rows so that each keeps its index value or leaves the index. -/
private theorem filterMap_map_sublist {f : V → Option U} {g : V → V}
    (keep : ∀ row, f (g row) = f row ∨ f (g row) = none) :
    ∀ l : List V, ((l.map g).filterMap f).Sublist (l.filterMap f)
  | [] => by simp
  | row :: l => by
    have rest := filterMap_map_sublist keep l
    rw [map_cons]
    rcases keep row with same | gone
    · rw [filterMap_cons, filterMap_cons, same]
      split
      · exact rest
      · exact rest.cons_cons _
    · rw [filterMap_cons_none gone, filterMap_cons]
      split
      · exact rest
      · exact rest.cons _

/-- An update of the rows accepted by `p`.  The evidence says that no row changes
its key, and that a row keeps its index value or leaves the index. -/
def update (table : Table key index) (p : V → Bool) (f : V → V)
    (keepKey : ∀ row, p row = true → key (f row) = key row)
    (keepIndex : ∀ row, p row = true → index (f row) = index row ∨ index (f row) = none) :
    Table key index where
  rows := table.rows.map fun row => if p row then f row else row
  keys := by
    have same : (table.rows.map fun row => if p row then f row else row).map key =
        table.rows.map key := by
      rw [map_map]
      refine map_congr_left fun row _ => ?_
      by_cases hp : p row = true <;> simp [hp, keepKey]
    exact same ▸ table.keys
  indexed := by
    refine table.indexed.sublist (filterMap_map_sublist (fun row => ?_) table.rows)
    split_ifs with hp
    · exact keepIndex row hp
    · exact Or.inl rfl

/-- Whether an update touches any row. -/
def affects (table : Table key index) (p : V → Bool) : Bool := table.rows.any p

section Find

variable [DecidableEq K]

/-- Reading after an update: the row that was there, rewritten if the guard
accepts it. -/
theorem find?_update {f : V → V} {keepKey : ∀ row, p row = true → key (f row) = key row}
    {keepIndex : ∀ row, p row = true → index (f row) = index row ∨ index (f row) = none} (k : K) :
    (table.update p f keepKey keepIndex).find? k =
      (table.find? k).map fun row => if p row then f row else row := by
  have same : ∀ row : V, key (if p row then f row else row) = key row := by
    intro row
    by_cases hp : p row = true <;> simp [hp, keepKey]
  simp only [find?, update, List.find?_map, Function.comp_def, same]

/-- A statement about one key touches a row if that key has one it accepts. -/
theorem affects_key : table.affects (fun row => decide (key row = k) && p row) = true ↔
      ∃ row, table.find? k = some row ∧ p row = true := by
  simp only [affects, any_eq_true, Bool.and_eq_true, decide_eq_true_eq, find?_iff, and_assoc]

end Find

end Table

/-! ## `LIKE`

The two wildcards of a pattern, and no escape.  Engines differ in whether letters are
compared with their case, so the comparison is a parameter. -/

/-- How characters are compared. -/
structure Collation where
  same : Char → Char → Bool
  refl : ∀ c, same c c = true

/-- Whether a text matches a pattern: `%` stands for any characters and `_` for one. -/
def like (collation : Collation) : List Char → List Char → Bool
  | [], text => text.isEmpty
  | c :: pattern, text =>
    if c = '%' then text.tails.any (like collation pattern)
    else match text with
      | [] => false
      | d :: rest => (c = '_' || collation.same c d) && like collation pattern rest

section Like

variable {collation : Collation}

theorem like_percent (pattern text : List Char) :
    like collation ('%' :: pattern) text = text.tails.any (like collation pattern) := by
  cases text <;> rfl

/-- A text matches itself, wildcards and all. -/
theorem like_append (text : List Char) {pattern rest : List Char}
    (h : like collation pattern rest = true) : like collation (text ++ pattern) (text ++ rest) = true := by
  induction text with
  | nil => exact h
  | cons c text ih =>
    rw [cons_append, cons_append, like]
    split
    · refine any_eq_true.mpr ⟨text ++ rest, ?_, ih⟩
      exact (mem_tails ..).mpr (suffix_cons c _)
    · simp [collation.refl, ih]

/-- A text with `part` in it matches `%part%`. -/
theorem like_of_infix {part text : List Char} (h : part <:+: text) :
    like collation ('%' :: (part ++ ['%'])) text = true := by
  obtain ⟨before, after, rfl⟩ := h
  rw [like_percent, any_eq_true]
  refine ⟨part ++ after, ?_, like_append part ?_⟩
  · rw [append_assoc]
    exact (mem_tails ..).mpr (suffix_append ..)
  · rw [like_percent, any_eq_true]
    exact ⟨[], (mem_tails ..).mpr (nil_suffix ..), rfl⟩

end Like

end Relational
