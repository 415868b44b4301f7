import Mathlib.Data.List.Pairwise
import Mathlib.Data.List.Nodup

/-!
# Entries with two keys

A store whose entries have a name and a number, no two of them with the same name or the
same number.  An entry is found under either, and storing one replaces whatever shares a key
with it.

The lemmas say where an entry that is found after an operation comes from, which is what an
invariant of such a store is proved with.
-/

namespace TwoKey

/-- What an entry is looked for by. -/
inductive Key (N M : Type) where
  | name (name : N)
  | number (number : M)
deriving DecidableEq, Repr

section Key

variable {N M : Type}

/-- An entry with this name and this number is under the key. -/
def Key.Picks (key : Key N M) (name : N) (number : M) : Prop :=
  match key with
  | .name wanted => name = wanted
  | .number wanted => number = wanted

instance [DecidableEq N] [DecidableEq M] (key : Key N M) (name : N) (number : M) :
    Decidable (key.Picks name number) :=
  match key with
  | .name wanted => inferInstanceAs (Decidable (name = wanted))
  | .number wanted => inferInstanceAs (Decidable (number = wanted))

end Key

/-- Two entries share no key. -/
def Apart {N M E : Type} (name : E → N) (number : E → M) (a b : E) : Prop :=
  name a ≠ name b ∧ number a ≠ number b

instance {N M E : Type} (name : E → N) (number : E → M) : Std.Symm (Apart name number) where
  symm _ _ apart := ⟨apart.1.symm, apart.2.symm⟩

/-- The entries of a store. -/
structure Shelf {N M E : Type} (name : E → N) (number : E → M) where
  entries : List E
  apart : entries.Pairwise (Apart name number)

namespace Shelf

variable {N M E : Type} [DecidableEq N] [DecidableEq M] {name : E → N} {number : E → M}
variable (shelf : Shelf name number) {key key' : Key N M} {e e' : E}

/-- No entries. -/
def empty : Shelf name number := ⟨[], .nil⟩

/-- The entry under a key. -/
def find (key : Key N M) : Option E :=
  shelf.entries.find? fun e => decide (key.Picks (name e) (number e))

/-- Store an entry in place of those that share a key with it. -/
def put (e : E) : Shelf name number where
  entries := e :: shelf.entries.filter fun old => decide (name e ≠ name old ∧ number e ≠ number old)
  apart := by
    refine List.pairwise_cons.mpr ⟨fun old kept => ?_, shelf.apart.filter _⟩
    have apart := (List.mem_filter.mp kept).2
    simpa [Apart] using apart

/-- Drop the entry of a name. -/
def drop (dropped : N) : Shelf name number where
  entries := shelf.entries.filter fun e => decide (name e ≠ dropped)
  apart := shelf.apart.filter _

/-- Keep some entries. -/
def keep (p : E → Bool) : Shelf name number where
  entries := shelf.entries.filter p
  apart := shelf.apart.filter _

/-- Change entries, but not their keys. -/
def change (f : E → E) (names : ∀ e, name (f e) = name e) (numbers : ∀ e, number (f e) = number e) :
    Shelf name number where
  entries := shelf.entries.map f
  apart := by
    rw [List.pairwise_map]
    refine shelf.apart.imp fun {a b} apart => ?_
    rw [Apart, names, names, numbers, numbers]
    exact apart

variable {shelf}

/-- The entry that is found is there, under the key. -/
theorem mem_of_find (found : shelf.find key = some e) : e ∈ shelf.entries :=
  List.mem_of_find?_eq_some found

theorem picks_of_find (found : shelf.find key = some e) : key.Picks (name e) (number e) := by
  have picked := List.find?_some found
  exact of_decide_eq_true picked

omit [DecidableEq N] [DecidableEq M] in
/-- An entry is known by its name, -/
theorem eq_of_name (there : e ∈ shelf.entries) (there' : e' ∈ shelf.entries)
    (same : name e = name e') : e = e' := by
  by_contra distinct
  exact (shelf.apart.forall there there' distinct).1 same

omit [DecidableEq N] [DecidableEq M] in
/-- and by its number. -/
theorem eq_of_number (there : e ∈ shelf.entries) (there' : e' ∈ shelf.entries)
    (same : number e = number e') : e = e' := by
  by_contra distinct
  exact (shelf.apart.forall there there' distinct).2 same

omit [DecidableEq N] [DecidableEq M] in
/-- Two entries under one key are the same. -/
theorem eq_of_picks (there : e ∈ shelf.entries) (there' : e' ∈ shelf.entries)
    (picks : key.Picks (name e) (number e)) (picks' : key.Picks (name e') (number e')) : e = e' := by
  cases key with
  | name => exact eq_of_name there there' (Eq.trans picks (Eq.symm picks'))
  | number => exact eq_of_number there there' (Eq.trans picks (Eq.symm picks'))

/-- An entry is found under its keys. -/
theorem find_of_mem (there : e ∈ shelf.entries) (picks : key.Picks (name e) (number e)) :
    shelf.find key = some e := by
  cases found : shelf.find key with
  | none => exact absurd (decide_eq_true picks) (List.find?_eq_none.mp found e there)
  | some => rw [eq_of_picks (mem_of_find found) there (picks_of_find found) picks]

/-- What is found under a key. -/
theorem find_eq_some_iff :
    shelf.find key = some e ↔ e ∈ shelf.entries ∧ key.Picks (name e) (number e) :=
  ⟨fun found => ⟨mem_of_find found, picks_of_find found⟩, fun there => find_of_mem there.1 there.2⟩

/-- What is found under one key is found under the other. -/
theorem find_of_picks (found : shelf.find key = some e) (picks : key'.Picks (name e) (number e)) :
    shelf.find key' = some e :=
  find_of_mem (mem_of_find found) picks

/-! ## After an operation -/

theorem find_keep (p : E → Bool) : (shelf.keep p).find key = (shelf.find key).filter p := by
  ext e
  rw [Option.filter_eq_some_iff, find_eq_some_iff, find_eq_some_iff, keep, List.mem_filter]
  exact and_right_comm

theorem find_drop {dropped : N} :
    (shelf.drop dropped).find key = (shelf.find key).filter fun e => decide (name e ≠ dropped) :=
  find_keep _

theorem find_put : (shelf.put e).find key =
    if key.Picks (name e) (number e) then some e
    else (shelf.find key).filter fun old => decide (name e ≠ name old ∧ number e ≠ number old) := by
  split
  · next picks => exact find_of_mem List.mem_cons_self picks
  · next other =>
      rw [← find_keep, find, put, List.find?_cons_of_neg (by simpa using other)]
      rfl

theorem find_change {f : E → E} {names : ∀ e, name (f e) = name e}
    {numbers : ∀ e, number (f e) = number e} :
    (shelf.change f names numbers).find key = (shelf.find key).map f := by
  rw [find, change, List.find?_map]
  simp only [Function.comp_def, names, numbers]
  rfl

theorem of_find_put (found : (shelf.put e).find key = some e') :
    e' = e ∨ shelf.find key = some e' := by
  rw [find_put] at found
  split at found
  · exact .inl (Option.some.inj found).symm
  · exact .inr (Option.filter_eq_some_iff.mp found).1

theorem of_find_drop {dropped : N} (found : (shelf.drop dropped).find key = some e) :
    shelf.find key = some e ∧ name e ≠ dropped := by
  rw [find_drop, Option.filter_eq_some_iff] at found
  exact ⟨found.1, of_decide_eq_true found.2⟩

theorem of_find_change {f : E → E} {names : ∀ e, name (f e) = name e}
    {numbers : ∀ e, number (f e) = number e} (found : (shelf.change f names numbers).find key = some e) :
    ∃ old, shelf.find key = some old ∧ f old = e := by
  rw [find_change] at found
  exact Option.map_eq_some_iff.mp found

end Shelf

end TwoKey
