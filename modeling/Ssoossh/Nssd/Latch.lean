import Ssoossh.Nssd.Upstream

/-!
# The latch

A 401 latches the client (`latch`), so that no lookup is sent until an operator resets it
or the key file is reloaded.  The latch is one value of the word of state that every
lookup overwrites when it ends.  A lookup that was let through before the 401 and ends
after it overwrites the latch with its own outcome, whatever that is.

The latch holds as long as this does not happen: in a run in which no lookup ends with
another outcome than a 401 while the client is latched (`Orderly`), no gate lets a lookup
through, and the first step of any run that is not orderly opens the gate.
-/

namespace Ssoossh.Nssd.Upstream

open Interleaving GoTime

/-- The lookups and resets over a client, as they stand. -/
abbrev Lookups := Interleaving.Config Act Resp State Nat Call (Option Failure)

/-- The client is latched, or it was not or is not any more: while it is, a gate that does not
reload the key lets no lookup through, whatever the time and the key file are by then. -/
def State.Holds (cfg : Config) (s : State) : Prop :=
  s.latched = true → ∀ choice : Choice,
    (execute cfg (s.pass choice) choice .gate).1.latched = true →
      (execute cfg (s.pass choice) choice .gate).2 ≠ none

/-- A step that records another outcome than a 401. -/
def Act.overwrites : Act → Bool
  | .online | .rateLimited _ | .fail _ => true
  | _ => false

/-- While the client is latched no lookup ends with another outcome. -/
def Orderly (lookups : Lookups) : Label Nat Choice Call → Prop
  | .spawn _ _ => True
  | .run tid _ => lookups.shared.client.state = .unauthorized →
    ∀ action, lookups.heads tid = some action → action.overwrites = false

section Gate

variable {c : Client} {file : KeyFile} {now : Int}

/-- Reloading the key says nothing about the server. -/
theorem Client.state_reloadKey {force : Bool} : (c.reloadKey file force).1.state = c.state := by
  unfold Client.reloadKey
  split
  · rfl
  · dsimp only
    split <;> rfl

theorem Client.state_judge : (c.judge now).1.state = c.state := by
  unfold Client.judge
  repeat' split
  all_goals rfl

/-- A new key clears the latch, and nothing else of the state. -/
theorem Client.state_noticeKey : (c.noticeKey file).1.state =
    if (c.noticeKey file).2 = true ∧ c.state = .unauthorized then .unknown else c.state := by
  have kept : (c.reloadKey file false).1.state = c.state := state_reloadKey
  unfold Client.noticeKey
  generalize c.reloadKey file false = reloaded at kept ⊢
  obtain ⟨c', fresh⟩ := reloaded
  dsimp only at kept ⊢
  rw [← kept]
  split <;> rfl

/-- The state after a gate. -/
theorem Client.state_gate : (c.gate file now).1.state =
    if (c.gate file now).2.2 = true ∧ c.state = .unauthorized then .unknown else c.state :=
  state_judge.trans state_noticeKey

/-- A gate that does not reload the key refuses if the client is latched. -/
theorem Client.gate_refuses (latched : c.state = .unauthorized)
    (stale : (c.gate file now).2.2 = false) : (c.gate file now).2.1 = some .unauthorized := by
  have unread : (c.noticeKey file).2 = false := stale
  have kept : (c.noticeKey file).1.state = .unauthorized := by
    rw [state_noticeKey, unread, if_neg (by simp)]
    exact latched
  show ((c.noticeKey file).1.judge now).2 = some .unauthorized
  rw [Client.judge, if_pos kept]

/-- A gate lets a lookup through if the client is not latched, the key file is the same and
enough time has passed. -/
theorem Client.gate_admits (open' : c.state ≠ .unauthorized) (same : file.stamp = .ok c.keyStamp)
    (late : c.retryAt ≤ now) : (c.gate file now).2 = (none, false) := by
  have unread : c.reloadKey file false = (c, false) := by
    rw [Client.reloadKey, same]
    exact if_pos ⟨rfl, rfl⟩
  have unnoticed : c.noticeKey file = (c, false) := by
    unfold Client.noticeKey
    rw [unread]
    exact if_neg (by simp)
  have judged : c.judge now = (c, none) := by
    have passed : Time.before now c.retryAt = false := decide_eq_false (not_lt.mpr late)
    rw [Client.judge, if_neg open', passed, if_neg (by simp), if_neg (by simp)]
  unfold Client.gate
  rw [unnoticed]
  dsimp only
  rw [judged]

end Gate

/-! ## Steps -/

/-- The history variable and the word of state agree. -/
def State.Agrees (s : State) : Prop := s.latched = true ↔ s.client.state = .unauthorized

section Steps

variable (cfg : Config) {s : State}

/-- **The latch holds exactly while the word of state says so.** -/
theorem State.holds_iff : s.Holds cfg ↔ (s.latched = true → s.client.state = .unauthorized) := by
  constructor
  · intro holds latched
    by_contra other
    -- the file is the one that was read last, and every delay is over
    let choice : Choice :=
      { elapsed := (s.client.retryAt - s.clock).toNat
        file := some ⟨.ok s.client.keyStamp, .ok s.client.key⟩ }
    have late : s.client.retryAt ≤ (s.pass choice).clock := by
      show s.client.retryAt ≤ s.clock + ((s.client.retryAt - s.clock).toNat : Int)
      omega
    have admitted : (s.client.gate (s.pass choice).file (s.pass choice).clock).2 = (none, false) :=
      Client.gate_admits other rfl late
    refine holds latched choice ?_ (congrArg Prod.fst admitted)
    show (s.latched && !(s.client.gate (s.pass choice).file (s.pass choice).clock).2.2) = true
    rw [admitted, latched]
    rfl
  · intro agrees latched choice still
    have stale : (s.client.gate (s.pass choice).file (s.pass choice).clock).2.2 = false := by
      have both : (s.latched && !(s.client.gate (s.pass choice).file (s.pass choice).clock).2.2) =
          true := still
      simpa [latched] using both
    show (s.client.gate (s.pass choice).file (s.pass choice).clock).2.1 ≠ none
    rw [Client.gate_refuses (agrees latched) stale]
    exact Option.some_ne_none _

/-- What a step that overwrites nothing does to the latch. -/
theorem State.Agrees.step (agrees : s.Agrees) (choice : Choice) {action : Act}
    (keeps : action.overwrites = false) : (execute cfg (s.pass choice) choice action).1.Agrees := by
  cases action with
  | gate =>
    show (s.latched && !(s.client.gate (s.pass choice).file (s.pass choice).clock).2.2) = true ↔
      (s.client.gate (s.pass choice).file (s.pass choice).clock).1.state = .unauthorized
    rw [Client.state_gate]
    generalize (s.client.gate (s.pass choice).file (s.pass choice).clock).2.2 = reloaded
    unfold State.Agrees at agrees
    cases reloaded with
    | false => simpa using agrees
    | true =>
      by_cases latched : s.client.state = .unauthorized
      · simp [latched]
      · simp [latched]
  | acquire =>
    show (if (s.pass choice).slots < maxInFlight then _ else (s.pass choice, false)).1.Agrees
    split
    · exact agrees
    · exact agrees
  | clientFor =>
    unfold execute
    dsimp only
    split
    · exact agrees
    · split
      · exact agrees
      · exact agrees
  | call => exact agrees
  | retire client =>
    show s.latched = true ↔ (s.client.retire client).state = .unauthorized
    unfold Client.retire
    split
    · exact agrees
    · exact agrees
  | expired | sleep | callerGone => exact agrees
  | online => cases keeps
  | latch => exact ⟨fun _ => rfl, fun _ => rfl⟩
  | rateLimited | fail => cases keeps
  | release => exact agrees
  | reset => exact ⟨nofun, nofun⟩

/-- A step that records another outcome opens the latch if there is one. -/
theorem State.step_overwrites (s : State) (choice : Choice) {action : Act} (overwrites : action.overwrites = true) :
    (execute cfg (s.pass choice) choice action).1.client.state ≠ .unauthorized ∧
      (execute cfg (s.pass choice) choice action).1.latched = s.latched := by
  cases action with
  | online | rateLimited | fail => exact ⟨nofun, rfl⟩
  | _ => cases overwrites

/-- **What one step does to the latch.**  It stays as it should be exactly if the step is orderly. -/
theorem step_agrees {lookups next : Lookups} {label : Label Nat Choice Call}
    (agrees : lookups.shared.Agrees) (stepped : (machine cfg).step lookups label = some next) :
    (Orderly lookups label → next.shared.Agrees) ∧
      (next.shared.Holds cfg ↔ Orderly lookups label) := by
  have unmoved (same : next.shared = lookups.shared) (orderly : Orderly lookups label) :
      (Orderly lookups label → next.shared.Agrees) ∧
        (next.shared.Holds cfg ↔ Orderly lookups label) := by
    rw [same]
    exact ⟨fun _ => agrees, fun _ => orderly, fun _ => (State.holds_iff cfg).mpr agrees.mp⟩
  rcases Machine.step_cases _ stepped with ⟨tid, call, rfl, -, rfl⟩ |
    ⟨tid, choice, thread, call, rfl, present, ended, rfl⟩ |
    ⟨tid, choice, thread, action, rest, shared, answer, rfl, present, atAction, done, rfl⟩
  · exact unmoved rfl trivial
  · refine unmoved rfl fun _ action head => ?_
    rw [Config.heads, present, Option.bind_some, ended] at head
    cases head
  · have head : lookups.heads tid = some action := by
      rw [Config.heads, present, Option.bind_some, atAction]
      rfl
    obtain rfl : (execute cfg (lookups.shared.pass choice) choice action).1 = shared :=
      congrArg Prod.fst (Option.some.inj done)
    cases overwrites : action.overwrites with
    | false =>
      have orderly : Orderly lookups (.run tid choice) := by
        intro _ other head'
        obtain rfl := Option.some.inj (head.symm.trans head')
        exact overwrites
      have after := agrees.step cfg choice overwrites
      exact ⟨fun _ => after, fun _ => orderly, fun _ => (State.holds_iff cfg).mpr after.mp⟩
    | true =>
      obtain ⟨opened, kept⟩ := State.step_overwrites cfg lookups.shared choice overwrites
      have orderly_iff : Orderly lookups (.run tid choice) ↔ ¬ lookups.shared.latched = true := by
        rw [State.Agrees] at agrees
        rw [agrees]
        constructor
        · intro orderly latched
          rw [orderly latched action head] at overwrites
          cases overwrites
        · exact fun free latched => (free latched).elim
      have holds_iff := State.holds_iff cfg
        (s := (execute cfg (lookups.shared.pass choice) choice action).1)
      rw [kept] at holds_iff
      constructor
      · intro orderly
        have free := orderly_iff.mp orderly
        exact ⟨fun latched => (free (kept ▸ latched)).elim, fun latched => (opened latched).elim⟩
      · rw [orderly_iff]
        exact holds_iff.trans ⟨fun h latched => opened (h latched), fun free latched => (free latched).elim⟩

end Steps

/-- **The latch holds** in every run in which no lookup ends with another outcome than a 401 while
the client is latched.  Then, and only then, it also holds after the next step. -/
theorem latch_holds_iff (cfg : Config) (key : Key) (stamp : Stamp) (file : KeyFile) (clock : Int)
    (reached : Lookups)
    (run : Reaches (machine cfg) Orderly (idle (newClient key stamp) file clock) reached) :
    reached.shared.Holds cfg ∧ ∀ label next, (machine cfg).step reached label = some next →
      (next.shared.Holds cfg ↔ Orderly reached label) := by
  have agrees : reached.shared.Agrees := by
    refine run.invariant (I := fun lookups => lookups.shared.Agrees) ⟨nofun, nofun⟩ ?_
    intro lookups next label agrees orderly stepped
    exact (step_agrees cfg agrees stepped).1 orderly
  refine ⟨(State.holds_iff cfg).mpr agrees.mp, fun label next stepped => ?_⟩
  exact (step_agrees cfg agrees stepped).2

namespace Sample

/-- A key file. -/
def keyFile : KeyFile := ⟨.ok { present := true }, .ok ⟨"fleet", "secret"⟩⟩

/-- A client that has read it. -/
def fresh : Lookups := idle (newClient ⟨"fleet", "secret"⟩ { present := true }) keyFile 0

/-- Nothing happens but the step. -/
def quiet : Choice := {}

/-- The server answers. -/
def reply (reply : Reply) : Choice := { reply }

/-- A lookup that nothing interrupts, and what the server answers it. -/
def answered (tid : Nat) (answer : Reply) : List (Label Nat Choice Call) :=
  .spawn tid .lookup :: [quiet, quiet, quiet, reply answer, quiet, quiet].map (.run tid)

/-- Two lookups are sent; one is answered by a 401, then the other is answered, and a third one is
made. -/
def crossing : List (Label Nat Choice Call) :=
  [.spawn 0 .lookup, .spawn 1 .lookup] ++
    [quiet, quiet, quiet, reply .unauthorized].map (.run 0) ++
    [quiet, quiet, quiet, reply .found].map (.run 1) ++
    [.run 0 quiet, .run 1 quiet, .spawn 2 .lookup, .run 2 quiet]

/-- Whether a step is orderly. -/
def orderly (lookups : Lookups) : Label Nat Choice Call → Bool
  | .spawn _ _ => true
  | .run tid _ => lookups.shared.client.state != .unauthorized ||
    (lookups.heads tid).all fun action => !action.overwrites

theorem orderly_sound (lookups : Lookups) (label : Label Nat Choice Call)
    (checked : orderly lookups label = true) : Orderly lookups label := by
  cases label with
  | spawn => trivial
  | run =>
    intro latched action head
    simpa [orderly, latched, head] using checked

end Sample

open Upstream.Sample in
/-- After a 401 that nothing crosses the client is latched, and the latch holds. -/
theorem latch_holds_answered : ∃ reached : Lookups,
    (machine {}).runChecked orderly fresh (answered 0 .unauthorized) = some reached ∧
      reached.shared.latched = true ∧ reached.shared.Holds {} := by
  have ran : ((machine {}).runChecked orderly fresh (answered 0 .unauthorized)).map
      (fun lookups => lookups.shared.latched) = some true := by decide +kernel
  obtain ⟨reached, run, latched⟩ := Option.map_eq_some_iff.mp ran
  have holds := latch_holds_iff {} _ _ _ _ reached (.of_runChecked orderly_sound _ run)
  exact ⟨reached, run, latched, holds.1⟩

open Upstream.Sample in
/-- An answer that was under way when the 401 came opens the latch: the gate lets a third lookup
through, with the same key file and without a reset. -/
theorem crossing_opens_latch : ((machine {}).runLabels fresh crossing).map (fun lookups =>
      (lookups.shared.latched, lookups.heads 2)) = some (true, some .acquire) := by
  decide +kernel

end Ssoossh.Nssd.Upstream
