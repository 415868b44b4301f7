import Mathlib.Data.List.Forall2
import Mathlib.Logic.Basic

/-!
# Computations that can fail

What the success of a fallible computation says, one construct at a time.  A check
written in `do` notation succeeds exactly when every guard on its way held, and
with these equivalences in the simp set that reading is what `simp` produces.
-/

namespace Fallible

variable {ε ε' α β : Type}

variable {x : Except ε α} {f : α → Except ε β}

/-- A sequence succeeds exactly when each step does. -/
@[simp] theorem bind_eq_ok {b : β} : (x >>= f) = .ok b ↔ ∃ a, x = .ok a ∧ f a = .ok b := by
  cases x <;> simp [bind, Except.bind]

variable {e : ε} {a : α}

@[simp] theorem throw_ne_ok : (throw e : Except ε α) ≠ .ok a := by
  simp [throw, throwThe, MonadExceptOf.throw]

@[simp] theorem throw_bind : ((throw e : Except ε α) >>= f) = throw e := rfl

@[simp] theorem pure_eq_ok {b : α} : (pure a : Except ε α) = .ok b ↔ a = b := by
  simp [pure, Except.pure]

/-- A branch that throws was not taken. -/
@[simp] theorem ite_throw_eq_ok {p : Prop} [Decidable p] {a : Except ε α} {b : α} :
    (if p then throw e else a) = .ok b ↔ ¬ p ∧ a = .ok b := by
  by_cases h : p <;> simp [h]

@[simp] theorem exists_unit_eq_ok {x : Except ε Unit} : (∃ u, x = .ok u) ↔ x = .ok () :=
  ⟨fun ⟨(), h⟩ => h, fun h => ⟨(), h⟩⟩

@[simp] theorem mapError_eq_ok {f : ε → ε'} : x.mapError f = .ok a ↔ x = .ok a := by
  cases x <;> simp [Except.mapError]

theorem toOption_eq_some : x.toOption = some a ↔ x = .ok a := by
  cases x <;> simp [Except.toOption]

/-- A computation that succeeds returns what it returns. -/
theorem eq_ok_get (succeeds : x.toOption.isSome = true) : x = .ok (x.toOption.get succeeds) := by
  cases x with
  | error => cases succeeds
  | ok => rfl

variable {l : List α}

/-- A traversal succeeds exactly when it does at every element. -/
theorem forM_eq_ok {f : α → Except ε Unit} : forM l f = .ok () ↔ ∀ x ∈ l, f x = .ok () := by
  induction l with
  | nil => simp
  | cons x l ih => simp [ih]

/-- What a successful map returns, element by element. -/
theorem mapM_eq_ok {l' : List β} :
    l.mapM f = .ok l' ↔ List.Forall₂ (fun x y => f x = .ok y) l l' := by
  induction l generalizing l' with
  | nil => cases l' <;> simp
  | cons x l ih =>
    rw [List.mapM_cons]
    simp only [bind_eq_ok, pure_eq_ok, ih]
    constructor
    · rintro ⟨y, first, ys, rest, rfl⟩
      exact .cons first rest
    · rintro (_ | ⟨first, rest⟩)
      exact ⟨_, first, _, rest, rfl⟩

/-- What a map returned was returned for something. -/
theorem exists_of_forall₂ {R : α → β → Prop} {l' : List β} (related : List.Forall₂ R l l') {y : β}
    (member : y ∈ l') : ∃ x, R x y := by
  induction related with
  | nil => cases member
  | cons first _ ih =>
    rcases List.mem_cons.mp member with rfl | later
    · exact ⟨_, first⟩
    · exact ih later

end Fallible
