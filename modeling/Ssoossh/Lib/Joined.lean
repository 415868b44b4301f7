import Mathlib.Data.List.Forall2

/-!
# Joined texts

Pieces joined by separators, as strings are by `strings.Join`.  If no piece contains a
separator the pieces can be read off the joined text (`Joined.eq_of_join`).  If some do,
the text no longer says which of its characters are separators.  A `Cell` says so: a
joined text as a list of cells keeps for every character whether it separates, and two
such lists may spell the same text and still be cut differently (`Recut`).
-/

namespace Joined

open List

variable {A B : Type}

/-! ## Joining and splitting -/

/-- Rows of pieces: the pieces of a row are joined by `inner`, the rows by `outer`. -/
def join (outer inner : A) (rows : List (List (List A))) : List A :=
  [outer].intercalate (rows.map [inner].intercalate)

/-- What can be read off a joined text: no row and no piece is empty, and no piece contains a
separator. -/
structure Clear (outer inner : A) (rows : List (List (List A))) : Prop where
  row : ∀ row ∈ rows, row ≠ []
  piece : ∀ row ∈ rows, ∀ piece ∈ row, piece ≠ []
  outer : ∀ row ∈ rows, ∀ piece ∈ row, outer ∉ piece
  inner : ∀ row ∈ rows, ∀ piece ∈ row, inner ∉ piece

theorem mem_intercalate {x c : A} {l : List (List A)} (h : c ∈ [x].intercalate l) :
    c = x ∨ ∃ piece ∈ l, c ∈ piece := by
  induction l with
  | nil => cases h
  | cons first rest ih =>
    cases rest with
    | nil =>
      rw [intercalate_singleton] at h
      exact .inr ⟨first, mem_cons_self, h⟩
    | cons =>
      rw [intercalate_cons_cons, mem_append, mem_append, mem_singleton] at h
      rcases h with (here | rfl) | later
      · exact .inr ⟨first, mem_cons_self, here⟩
      · exact .inl rfl
      · rcases ih later with same | ⟨piece, member, here⟩
        · exact .inl same
        · exact .inr ⟨piece, mem_cons_of_mem first member, here⟩

theorem intercalate_ne_nil {x : A} {l : List (List A)} (some : l ≠ [])
    (pieces : ∀ piece ∈ l, piece ≠ []) : [x].intercalate l ≠ [] := by
  cases l with
  | nil => exact (some rfl).elim
  | cons first rest =>
    have nonempty := pieces first mem_cons_self
    cases rest with
    | nil =>
      rw [intercalate_singleton]
      exact nonempty
    | cons =>
      rw [intercalate_cons_cons]
      exact append_ne_nil_of_left_ne_nil (append_ne_nil_of_left_ne_nil nonempty _) _

theorem map_intercalate (f : A → B) (x : A) (l : List (List A)) :
    ([x].intercalate l).map f = [f x].intercalate (l.map (List.map f)) := by
  induction l with
  | nil => rfl
  | cons first rest ih =>
    cases rest with
    | nil => simp
    | cons =>
      rw [intercalate_cons_cons, map_append, map_append, ih]
      simp

/-- Joining is natural in the letters. -/
theorem map_join (f : A → B) (outer inner : A) (rows : List (List (List A))) :
    (join outer inner rows).map f = join (f outer) (f inner) (rows.map (List.map (List.map f))) := by
  unfold join
  rw [map_intercalate, map_map, map_map]
  congr 1
  exact map_congr_left fun row _ => map_intercalate f inner row

/-- **The pieces can be read off a joined text.** -/
theorem eq_of_join [DecidableEq A] {outer inner : A} (apart : outer ≠ inner)
    {rows rows' : List (List (List A))} (clear : Clear outer inner rows)
    (clear' : Clear outer inner rows') (h : join outer inner rows = join outer inner rows') :
    rows = rows' := by
  have nonempty : ∀ {rows : List (List (List A))}, Clear outer inner rows →
      ∀ text ∈ rows.map [inner].intercalate, text ≠ [] := by
    intro rows clear text member
    obtain ⟨row, there, rfl⟩ := mem_map.mp member
    exact intercalate_ne_nil (clear.row row there) (clear.piece row there)
  have unseparated : ∀ {rows : List (List (List A))}, Clear outer inner rows →
      ∀ text ∈ rows.map [inner].intercalate, outer ∉ text := by
    intro rows clear text member inside
    obtain ⟨row, there, rfl⟩ := mem_map.mp member
    rcases mem_intercalate inside with same | ⟨piece, here, inPiece⟩
    · exact apart same
    · exact clear.outer row there piece here inPiece
  have split : ∀ {rows : List (List (List A))}, Clear outer inner rows →
      (rows.map [inner].intercalate).map (List.splitOn inner) = rows := by
    intro rows clear
    rw [map_map]
    refine (map_congr_left fun row there => ?_).trans (map_id rows)
    exact splitOn_intercalate inner (clear.inner row there) (clear.row row there)
  have texts : rows.map [inner].intercalate = rows'.map [inner].intercalate := by
    unfold join at h
    by_cases none : rows = []
    · subst none
      by_contra differs
      have some : rows'.map [inner].intercalate ≠ [] := fun none => differs (by rw [none]; rfl)
      exact intercalate_ne_nil some (nonempty clear') h.symm
    · by_cases none' : rows' = []
      · subst none'
        have some : rows.map [inner].intercalate ≠ [] := fun empty => none (map_eq_nil_iff.mp empty)
        exact (intercalate_ne_nil some (nonempty clear) h).elim
      · rw [← splitOn_intercalate outer (unseparated clear) (mt map_eq_nil_iff.mp none), h,
          splitOn_intercalate outer (unseparated clear') (mt map_eq_nil_iff.mp none')]
  rw [← split clear, texts, split clear']

/-- The two sides of the first separator. -/
theorem eq_of_cut {x : A} {front front' back back' : List A} (h : x ∉ front) (h' : x ∉ front')
    (same : front ++ x :: back = front' ++ x :: back') : front = front' ∧ back = back' := by
  induction front generalizing front' with
  | nil =>
    cases front' with
    | nil => exact ⟨rfl, (cons_eq_cons.mp same).2⟩
    | cons =>
      rw [(cons_eq_cons.mp same).1] at h'
      exact (h' mem_cons_self).elim
  | cons a front ih =>
    cases front' with
    | nil =>
      rw [← (cons_eq_cons.mp same).1] at h
      exact (h mem_cons_self).elim
    | cons b =>
      obtain ⟨head, tail⟩ := cons_eq_cons.mp same
      obtain ⟨rfl, rfl⟩ := ih (mt (mem_cons_of_mem a) h) (mt (mem_cons_of_mem b) h') tail
      exact ⟨by rw [head], rfl⟩

/-- Lists whose members are told apart by their images. -/
theorem eq_of_map_eq {f : B → A} {l l' : List B}
    (injective : ∀ a ∈ l, ∀ b ∈ l', f a = f b → a = b) (h : l.map f = l'.map f) : l = l' := by
  induction l generalizing l' with
  | nil => exact (map_eq_nil_iff.mp h.symm).symm
  | cons a l ih =>
    cases l' with
    | nil => cases h
    | cons b =>
      obtain ⟨head, tail⟩ := cons_eq_cons.mp h
      rw [injective a mem_cons_self b mem_cons_self head,
        ih (fun a there b there' => injective a (mem_cons_of_mem _ there) b
          (mem_cons_of_mem _ there')) tail]

/-! ## Cells -/

/-- A character of a joined text. -/
inductive Cell
  | mark (c : Char)
  | text (c : Char)
deriving DecidableEq

/-- The character. -/
def Cell.char : Cell → Char
  | .mark c => c
  | .text c => c

/-- A text none of whose characters separates. -/
def cells (text : String) : List Cell := text.toList.map .text

theorem char_cells (text : String) : (cells text).map Cell.char = text.toList := by
  rw [cells, map_map]
  exact map_id text.toList

theorem cells_injective {text text' : String} (h : cells text = cells text') : text = text' := by
  rw [← String.toList_inj, ← char_cells, h, char_cells]

theorem mark_not_mem_cells (c : Char) (text : String) : Cell.mark c ∉ cells text := by
  intro member
  obtain ⟨_, -, impossible⟩ := mem_map.mp member
  cases impossible

/-- A character that separates in one of two texts and does not in the other. -/
inductive Cell.Clash : Cell → Cell → Prop
  | left (c : Char) : Clash (.mark c) (.text c)
  | right (c : Char) : Clash (.text c) (.mark c)

/-- Two joined texts that are the same character by character, and have a separator in one that
is none in the other. -/
structure Recut (a b : List Cell) : Prop where
  alike : List.Forall₂ (fun x y => x.char = y.char) a b
  apart : ∃ place ∈ a.zip b, place.1.Clash place.2

theorem alike_iff {a b : List Cell} :
    List.Forall₂ (fun x y => Cell.char x = Cell.char y) a b ↔ a.map Cell.char = b.map Cell.char := by
  rw [← List.forall₂_map_left_iff (R := fun c y => c = Cell.char y),
    ← List.forall₂_map_right_iff (R := Eq), List.forall₂_eq_eq_eq]

/-- Cells of one character are the same or clash. -/
theorem Cell.eq_or_clash {x y : Cell} (same : x.char = y.char) : x = y ∨ x.Clash y := by
  cases x with
  | mark c =>
    cases y with
    | mark => exact .inl (congrArg Cell.mark same)
    | text c' =>
      obtain rfl : c = c' := same
      exact .inr (.left c)
  | text c =>
    cases y with
    | mark c' =>
      obtain rfl : c = c' := same
      exact .inr (.right c)
    | text => exact .inl (congrArg Cell.text same)

/-- Texts that spell alike are the same, or one has a separator where the other has none. -/
theorem eq_or_clash {a b : List Cell} (alike : a.map Cell.char = b.map Cell.char) :
    a = b ∨ ∃ place ∈ a.zip b, place.1.Clash place.2 := by
  induction a generalizing b with
  | nil => exact .inl (map_eq_nil_iff.mp alike.symm).symm
  | cons x a ih =>
    cases b with
    | nil => cases alike
    | cons y =>
      obtain ⟨head, tail⟩ := cons_eq_cons.mp alike
      rw [zip_cons_cons]
      rcases Cell.eq_or_clash head with rfl | clash
      · rcases ih tail with rfl | ⟨place, member, clash⟩
        · exact .inl rfl
        · exact .inr ⟨place, mem_cons_of_mem _ member, clash⟩
      · exact .inr ⟨(x, y), mem_cons_self, clash⟩

/-- A text does not clash with itself. -/
theorem not_recut_self (a : List Cell) : ¬ Recut a a := by
  intro recut
  obtain ⟨place, member, clash⟩ := recut.apart
  have same : place.1 = place.2 := by
    rw [zip_eq_zipWith, zipWith_self, mem_map] at member
    obtain ⟨x, -, rfl⟩ := member
    rfl
  obtain ⟨x, y⟩ := place
  obtain rfl : x = y := same
  cases clash

/-- **Texts that spell alike are the same, or are cut differently.** -/
theorem eq_iff_not_recut {a b : List Cell} (alike : a.map Cell.char = b.map Cell.char) :
    a = b ↔ ¬ Recut a b := by
  constructor
  · rintro rfl
    exact not_recut_self a
  · intro whole
    rcases eq_or_clash alike with same | clash
    · exact same
    · exact (whole ⟨alike_iff.mpr alike, clash⟩).elim

end Joined
