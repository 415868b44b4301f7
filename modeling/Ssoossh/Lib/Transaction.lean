import Mathlib.Data.List.Basic

/-!
# Transactions

A transaction reads and rewrites some tables and either commits or fails.  A failure
carries no state, so whoever runs a transaction that fails is left with the tables it
started from: that is all there is to a rollback.

Transactions are reasoned about by what they do to the state **if they commit**.
-/

namespace Transactional

variable {σ τ ε α β γ : Type}

/-- A transaction on tables `σ`, which may fail with `ε`. -/
abbrev Tx (σ ε α : Type) := StateT σ (Except ε) α

namespace Tx

/-- Work on a part of the tables. -/
def on (get : σ → τ) (set : τ → σ → σ) (m : Tx τ ε α) : Tx σ ε α := fun s =>
  match m.run (get s) with
  | .ok (value, part) => .ok (value, set part s)
  | .error e => .error e

/-! ## What a commit says -/

/-- A sequence commits exactly when its parts do, one after the other. -/
theorem run_bind_eq_ok {m : Tx σ ε α} {next : α → Tx σ ε β} {s s'' : σ} {b : β} :
    (m >>= next).run s = .ok (b, s'') ↔
      ∃ a s', m.run s = .ok (a, s') ∧ (next a).run s' = .ok (b, s'') := by
  rw [StateT.run_bind]
  cases done : m.run s with
  | error => simp [bind, Except.bind]
  | ok pair =>
    obtain ⟨a, s'⟩ := pair
    simp [bind, Except.bind]

theorem run_pure_eq_ok {a b : α} {s s' : σ} :
    (pure a : Tx σ ε α).run s = .ok (b, s') ↔ a = b ∧ s = s' := by
  rw [StateT.run_pure, pure, Applicative.toPure, Monad.toApplicative]
  simp [Except.instMonad, Except.pure]

theorem run_get_bind_eq_ok {next : σ → Tx σ ε β} {s s' : σ} {b : β} :
    (get >>= next).run s = .ok (b, s') ↔ (next s).run s = .ok (b, s') := Iff.rfl

theorem run_set_eq_ok {s s' t : σ} {u : PUnit} :
    (set t : Tx σ ε PUnit).run s = .ok (u, s') ↔ t = s' := by
  rw [StateT.run_set]
  simp [pure, Except.pure]

theorem run_throw_ne_ok {e : ε} {s : σ} {result : α × σ} :
    (throw e : Tx σ ε α).run s ≠ .ok result := by
  intro impossible
  cases impossible

theorem run_on_eq_ok {get : σ → τ} {set : τ → σ → σ} {m : Tx τ ε α} {s s' : σ} {a : α} :
    (on get set m).run s = .ok (a, s') ↔
      ∃ t, m.run (get s) = .ok (a, t) ∧ set t s = s' := by
  show (match m.run (get s) with
    | .ok (value, part) => Except.ok (value, set part s)
    | .error e => Except.error e) = .ok (a, s') ↔ _
  cases done : m.run (get s) with
  | error => simp
  | ok pair =>
    obtain ⟨value, part⟩ := pair
    constructor
    · intro same
      cases same
      exact ⟨part, rfl, rfl⟩
    · rintro ⟨t, same, rfl⟩
      cases same
      rfl

end Tx

end Transactional
