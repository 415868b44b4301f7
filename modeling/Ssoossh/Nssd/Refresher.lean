import Mathlib.Data.Finset.Basic
import Mathlib.Data.PNat.Basic

/-!
# The queue of background refreshes

The refresher of the host daemon, for every interleaving of `Enqueue` with its one goroutine.

`Enqueue` holds the lock from its look at `pending` to its write there, but the goroutine
receives outside the lock, so a key can leave the queue before it is in `pending`.  `Sound`
ties the queue, `pending` and the goroutine together.  Its field `order` is the point: the
keys taken are those run, the one in hand and those queued, in this order.
-/

namespace Ssoossh.Nssd.Refresher

open List

/-- Where the goroutine of `Run` is, with the key it holds. -/
inductive Runner where
  | idle
  | received (key : String)
  | waited (key : String)
  | removed (key : String)
  | stopped (lost : Option String)

/-- The key received and not yet taken out of `pending`. -/
def Runner.held : Runner → List String
  | .received key | .waited key => [key]
  | .stopped lost => lost.toList
  | .idle | .removed _ => []

/-- The key received and not yet run. -/
def Runner.hand : Runner → List String
  | .removed key => [key]
  | runner => runner.held

/-- How many of its four steps the key in hand has had. -/
def Runner.phase : Runner → ℕ
  | .idle => 0
  | .received _ => 1
  | .waited _ => 2
  | .removed _ => 3
  | .stopped lost => lost.toList.length

/-- A refresher.  The last three fields are history: the keys for which `Enqueue` returned true,
the keys run, and how many steps the goroutine has taken for keys. -/
structure State where
  queue : List String
  pending : Finset String
  /-- The key an `Enqueue` has sent and not yet written to `pending`: it holds the lock. -/
  sending : Option String
  runner : Runner
  accepted : List String
  runs : List String
  turns : ℕ

/-- A new refresher. -/
def newRefresher : State := ⟨[], ∅, none, .idle, [], [], 0⟩

inductive Step where
  /-- `Enqueue` takes the lock, looks at `pending` and tries the send. -/
  | enqueue (key : String)
  /-- The `Enqueue` that sent writes `pending` and lets go of the lock. -/
  | add
  | receive
  /-- The wait for the rate ends, with an error when the context has ended. -/
  | wait (ok : Bool)
  | remove
  | run
  /-- The goroutine sees that the context has ended. -/
  | done

/-- What `Enqueue` returns. -/
def Enqueue (size : ℕ+) (s : State) (key : String) : Bool :=
  key ∉ s.pending ∧ s.queue.length < size

/-- One step, when it can be taken. -/
def step (size : ℕ+) (s : State) : Step → Option State
  | .enqueue key =>
    if s.sending.isSome then none
    else if Enqueue size s key then
      some { s with queue := s.queue ++ [key], sending := some key, accepted := s.accepted ++ [key] }
    else some s
  | .add => s.sending.map fun key => { s with pending := insert key s.pending, sending := none }
  | .receive =>
    match s.runner, s.queue with
    | .idle, key :: rest =>
      some { s with queue := rest, runner := .received key, turns := s.turns + 1 }
    | _, _ => none
  | .wait ok =>
    match s.runner, ok with
    | .received key, true => some { s with runner := .waited key, turns := s.turns + 1 }
    | .received key, false => some { s with runner := .stopped key }
    | _, _ => none
  | .remove =>
    match s.runner, s.sending with
    | .waited key, none =>
      some { s with pending := s.pending.erase key, runner := .removed key, turns := s.turns + 1 }
    | _, _ => none
  | .run =>
    match s.runner with
    | .removed key => some { s with runs := s.runs ++ [key], runner := .idle, turns := s.turns + 1 }
    | _ => none
  | .done =>
    match s.runner with
    | .idle => some { s with runner := .stopped none }
    | _ => none

/-- The state after a schedule: a step that cannot be taken leaves the state as it is. -/
def after (size : ℕ+) (schedule : List Step) : State :=
  schedule.foldl (fun s move => (step size s move).getD s) newRefresher

/-- What every interleaving keeps. -/
structure Sound (size : ℕ+) (s : State) : Prop where
  distinct : (s.runner.held ++ s.queue).Nodup
  tracked : ∀ key, (key ∈ s.pending ∨ s.sending = some key) ↔ key ∈ s.runner.held ++ s.queue
  bounded : s.queue.length ≤ size
  order : s.accepted = s.runs ++ s.runner.hand ++ s.queue
  turns : s.turns = 4 * s.runs.length + s.runner.phase

variable {size : ℕ+} {s s' : State}

/-- A key that `Enqueue` takes is neither queued nor waiting to be taken out of `pending`. -/
theorem Sound.fresh (sound : Sound size s) (free : s.sending = none) {key : String}
    (taken : Enqueue size s key = true) : key ∉ s.runner.held ++ s.queue := by
  intro queued
  rcases (sound.tracked key).2 queued with known | sent
  · exact (of_decide_eq_true taken).1 known
  · simp [free] at sent

theorem sound_enqueue (sound : Sound size s) {key : String}
    (moved : step size s (.enqueue key) = some s') : Sound size s' := by
  simp only [step] at moved
  split_ifs at moved with locked taken <;> cases moved
  · have free : s.sending = none := by simpa using locked
    have fresh := sound.fresh free taken
    refine ⟨?_, fun k => ?_, ?_, by simp [sound.order], sound.turns⟩
    · rw [← append_assoc, ← concat_eq_append]
      exact sound.distinct.concat fresh
    · have known := sound.tracked k
      simp only [free, reduceCtorEq, or_false] at known
      rw [← append_assoc, mem_append, ← known]
      simp [eq_comm]
    · rw [length_append]
      exact (of_decide_eq_true taken).2
  · exact sound

/-- The goroutine moves the head of the queue to its hand and from there to the runs.  The key
it takes out of `pending` is not queued, so what stays there is what is queued. -/
theorem sound_step (sound : Sound size s) {move : Step} (moved : step size s move = some s') :
    Sound size s' := by
  have ⟨distinct, tracked, bounded, order, turns⟩ := sound
  obtain ⟨queue, pending, sending, runner, accepted, runs, n⟩ := s
  cases move with
  | enqueue key => exact sound_enqueue sound moved
  | add =>
    cases sending <;> cases moved
    exact ⟨distinct, fun k => by simp [← tracked k, eq_comm, or_comm], bounded, order, turns⟩
  | receive =>
    cases runner <;> cases queue <;> cases moved
    exact ⟨distinct, tracked, Nat.le_of_succ_le bounded,
      by simpa [Runner.hand, Runner.held] using order, congrArg (· + 1) turns⟩
  | wait ok =>
    cases runner <;> cases ok <;> cases moved
    · exact ⟨distinct, tracked, bounded, order, turns⟩
    · exact ⟨distinct, tracked, bounded, order, congrArg (· + 1) turns⟩
  | remove =>
    cases runner <;> cases sending <;> cases moved
    obtain ⟨fresh, rest⟩ := nodup_cons.mp distinct
    refine ⟨rest, fun k => ?_, bounded, order, congrArg (· + 1) turns⟩
    have known := tracked k
    simp only [Runner.held, singleton_append, mem_cons, reduceCtorEq, or_false] at known
    simp only [Runner.held, Finset.mem_erase, known, nil_append, reduceCtorEq, or_false]
    constructor
    · rintro ⟨other, same | queued⟩
      · exact absurd same other
      · exact queued
    · intro queued
      exact ⟨fun same => fresh (same ▸ queued), .inr queued⟩
  | run =>
    cases runner <;> cases moved
    refine ⟨distinct, tracked, bounded, by simpa [Runner.hand, Runner.held] using order, ?_⟩
    simp only [Runner.phase, length_append, length_singleton] at turns ⊢
    omega
  | done =>
    cases runner <;> cases moved
    exact ⟨distinct, tracked, bounded, order, turns⟩

theorem sound_after (size : ℕ+) (schedule : List Step) : Sound size (after size schedule) := by
  have start : Sound size newRefresher :=
    ⟨.nil, fun _ => by simp [newRefresher, Runner.held], Nat.zero_le _, rfl, rfl⟩
  refine foldlRecOn schedule _ start fun s sound move _ => ?_
  cases moved : step size s move with
  | none => exact sound
  | some s' => exact sound_step sound moved

/-- While there is work and nobody holds the lock, the goroutine has a step to take. -/
theorem can_move (size : ℕ+) (alive : ∀ lost, s.runner ≠ .stopped lost) (free : s.sending = none)
    (work : s.runner.hand ++ s.queue ≠ []) :
    ∃ move ∈ [Step.receive, .wait true, .remove, .run], (step size s move).isSome := by
  obtain ⟨queue, pending, sending, runner, accepted, runs, n⟩ := s
  cases free
  cases runner with
  | idle =>
    cases queue with
    | nil => exact absurd rfl work
    | cons key rest => exact ⟨.receive, by simp, rfl⟩
  | received key => exact ⟨.wait true, by simp, rfl⟩
  | waited key => exact ⟨.remove, by simp, rfl⟩
  | removed key => exact ⟨.run, by simp, rfl⟩
  | stopped lost => exact absurd rfl (alive lost)

/-- After every schedule: the queued keys are distinct and no more than the queue holds; a key
is in `pending`, or about to be written there by the `Enqueue` that holds the lock, exactly
when it is queued or received and not yet taken out; the keys for which `Enqueue` returned
true are those run, the one in hand and those queued, in this order; a key that `Enqueue`
would take has left the queue and `pending` since it was last taken; the goroutine runs one
key for every four steps it takes; and while there is work and the lock is free it can take
its next step. -/
theorem enqueued_once_run_once (size : ℕ+) (schedule : List Step) :
    let s := after size schedule
    s.queue.Nodup ∧ s.queue.length ≤ size ∧
      (∀ key, (key ∈ s.pending ∨ s.sending = some key) ↔ (key ∈ s.queue ∨ key ∈ s.runner.held)) ∧
      s.accepted = s.runs ++ s.runner.hand ++ s.queue ∧
      (s.sending = none → ∀ key, Enqueue size s key = true →
        key ∉ s.queue ∧ key ∉ s.runner.held) ∧
      s.turns = 4 * s.runs.length + s.runner.phase ∧
      ((∀ lost, s.runner ≠ .stopped lost) → s.sending = none → s.runner.hand ++ s.queue ≠ [] →
        ∃ move ∈ [Step.receive, .wait true, .remove, .run], (step size s move).isSome) := by
  have sound := sound_after size schedule
  refine ⟨sound.distinct.of_append_right, sound.bounded, fun key => ?_, sound.order,
    fun free key taken => ?_, sound.turns, can_move size⟩
  · rw [sound.tracked key, mem_append, or_comm]
  · have fresh := sound.fresh free taken
    rw [mem_append, not_or] at fresh
    exact fresh.symm

/-- A key is queued again before the run that its first `Enqueue` asked for: it is out of
`pending` by then. -/
theorem queued_again_before_run :
    let s := after 4096 [.enqueue "u", .add, .receive, .wait true, .remove, .enqueue "u", .add]
    s.accepted = ["u", "u"] ∧ s.queue = ["u"] ∧ s.runs = [] := by
  decide +kernel

end Ssoossh.Nssd.Refresher
