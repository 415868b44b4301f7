import Mathlib.Data.Multiset.Count
import Mathlib.Data.Multiset.Filter

/-!
# The cap on userdb connections

`connSlots` counts the connections that are served at once, and how many of them are of
unprivileged peers (`nssd/server/server.go`).  Nothing counts the slots of uid 0: that a
quarter of them is kept for it follows from the two caps together.

`Tallies` ties the counters to the uids that hold a slot, and is kept by every call as long as
only held slots are given back.  The accept loop is such a caller: what `admit` starts for a
connection gives back the slot that the connection was given, and does so once.
-/

namespace Ssoossh.Nssd.Connections

/-! ## The slots -/

/-- `connSlots`.  Its mutex makes each call one step. -/
structure ConnSlots where
  limit : Int
  unprivLimit : Int
  total : Int := 0
  unprivileged : Int := 0

/-- `newConnSlots`: a quarter of the slots is only for root. -/
def newConnSlots (limit : Int) : ConnSlots where
  limit := limit
  unprivLimit := limit - limit.tdiv 4

namespace ConnSlots

/-- `acquire`: refused at the limit, and at their own limit for everybody but root. -/
def acquire (c : ConnSlots) (uid : UInt32) : ConnSlots × Bool :=
  if c.total ≥ c.limit ∨ uid ≠ 0 ∧ c.unprivileged ≥ c.unprivLimit then (c, false)
  else
    ({ c with
        total := c.total + 1
        unprivileged := if uid ≠ 0 then c.unprivileged + 1 else c.unprivileged }, true)

/-- `release`: gives back what `acquire` took for this uid. -/
def release (c : ConnSlots) (uid : UInt32) : ConnSlots :=
  { c with
    total := c.total - 1
    unprivileged := if uid ≠ 0 then c.unprivileged - 1 else c.unprivileged }

end ConnSlots

/-- A call. -/
inductive Call where
  | acquire (uid : UInt32)
  | release (uid : UInt32)

/-- One call, beside the uids of the slots that are held.  A release that matches no acquire
is no step. -/
def step (state : ConnSlots × Multiset UInt32) : Call → Option (ConnSlots × Multiset UInt32)
  | .acquire uid =>
    let (slots, free) := state.1.acquire uid
    some (slots, if free then uid ::ₘ state.2 else state.2)
  | .release uid =>
    if uid ∈ state.2 then some (state.1.release uid, state.2.erase uid) else none

/-- A sequence of calls. -/
def run (limit : Int) (calls : List Call) : Option (ConnSlots × Multiset UInt32) :=
  calls.foldlM step (newConnSlots limit, 0)

/-! ## What the counters count -/

/-- The counters are those of the slots that are held, and within the caps. -/
structure Tallies (limit : Int) (c : ConnSlots) (held : Multiset UInt32) : Prop where
  whole : c.limit = limit
  share : c.unprivLimit = limit - limit.tdiv 4
  total : c.total = held.card
  unprivileged : c.unprivileged = held.countP (· ≠ 0)
  capped : c.total ≤ c.limit
  unprivCapped : c.unprivileged ≤ c.unprivLimit

section Tallies

variable {limit : Int} {c : ConnSlots} {held : Multiset UInt32} {uid : UInt32}

theorem tallies_new (one : 1 ≤ limit) : Tallies limit (newConnSlots limit) 0 := by
  have positive : 0 ≤ limit := Int.le_of_lt one
  exact ⟨rfl, rfl, rfl, rfl, positive, Int.sub_nonneg_of_le (Int.tdiv_le_self 4 positive)⟩

theorem Tallies.acquire (h : Tallies limit c held) (uid : UInt32) :
    Tallies limit (c.acquire uid).1 (if (c.acquire uid).2 then uid ::ₘ held else held) := by
  unfold ConnSlots.acquire
  split
  · exact h
  · rename_i free
    obtain ⟨room, apart⟩ := not_or.mp free
    refine ⟨h.whole, h.share, ?_, ?_, Int.lt_of_not_ge room, ?_⟩
    · simp [h.total]
    · by_cases root : uid = 0
      · simp [root, h.unprivileged]
      · simp [root, h.unprivileged]
    · by_cases root : uid = 0
      · simpa [root] using h.unprivCapped
      · have below := Int.lt_of_not_ge fun full => apart ⟨root, full⟩
        simpa [root] using Int.add_one_le_of_lt below

theorem Tallies.release (h : Tallies limit c (uid ::ₘ held)) :
    Tallies limit (c.release uid) held := by
  have capped := h.capped
  have unprivCapped := h.unprivCapped
  refine ⟨h.whole, h.share, ?_, ?_, ?_, ?_⟩
  · simp [ConnSlots.release, h.total]
  · by_cases root : uid = 0
    · simp [ConnSlots.release, root, h.unprivileged]
    · simp [ConnSlots.release, root, h.unprivileged]
  · simp only [ConnSlots.release]
    omega
  · simp only [ConnSlots.release]
    split <;> omega

/-- Root is refused only where all slots are held, and then a quarter of them is its own. -/
theorem Tallies.refused (h : Tallies limit c held) (full : (c.acquire 0).2 = false) :
    limit.tdiv 4 ≤ held.count 0 ∧ held.card = limit := by
  have taken : c.limit ≤ c.total := by
    by_contra room
    simp [ConnSlots.acquire, room] at full
  have parts : held.card = held.count 0 + held.countP (· ≠ 0) := by
    rw [held.card_eq_countP_add_countP (0 = ·)]
    exact congrArg _ (Multiset.countP_congr rfl fun _ _ => by simp [eq_comm])
  obtain ⟨whole, share, total, unprivileged, capped, unprivCapped⟩ := h
  omega

/-- One call keeps the tallies ... -/
theorem tallies_of_step {state next : ConnSlots × Multiset UInt32} {call : Call}
    (h : Tallies limit state.1 state.2) (stepped : step state call = some next) :
    Tallies limit next.1 next.2 := by
  cases call with
  | acquire uid =>
    cases stepped
    exact h.acquire uid
  | release uid =>
    simp only [step] at stepped
    split_ifs at stepped with taken
    cases stepped
    obtain ⟨rest, same⟩ := Multiset.exists_cons_of_mem taken
    rw [same] at h ⊢
    rw [Multiset.erase_cons_head]
    exact h.release

/-- ... and so do any number of calls. -/
theorem tallies_of_calls {calls : List Call} {state last : ConnSlots × Multiset UInt32}
    (h : Tallies limit state.1 state.2) (ran : calls.foldlM step state = some last) :
    Tallies limit last.1 last.2 := by
  induction calls generalizing state with
  | nil =>
    cases ran
    exact h
  | cons call calls ih =>
    obtain ⟨next, stepped, rest⟩ := Option.bind_eq_some_iff.mp ran
    exact ih (tallies_of_step h stepped) rest

end Tallies

/-- **Unprivileged peers do not starve root.**  After any calls that give back held slots only,
the slots that are held are those counted and no more than the limit, all but a quarter of them
is the most that unprivileged peers hold, and root is refused only if it holds that quarter, or
if there is none and every slot is held. -/
theorem root_keeps_quarter (limit : Int) (one : 1 ≤ limit) {calls : List Call} {c : ConnSlots}
    {held : Multiset UInt32} (ran : run limit calls = some (c, held)) :
    held.card = c.total ∧ c.total ≤ limit ∧ held.countP (· ≠ 0) ≤ limit - limit.tdiv 4 ∧
      ((c.acquire 0).2 = false →
        limit.tdiv 4 ≤ held.count 0 ∧ (limit.tdiv 4 = 0 → held.card = limit)) := by
  have h : Tallies limit c held := tallies_of_calls (tallies_new one) ran
  refine ⟨h.total.symm, h.whole ▸ h.capped, ?_, fun full => ?_⟩
  · rw [← h.unprivileged, ← h.share]
    exact h.unprivCapped
  · obtain ⟨quarter, all⟩ := h.refused full
    exact ⟨quarter, fun _ => all⟩

/-- A flood of one user, and root: it has the fourth slot, and then no other. -/
theorem root_keeps_quarter_flood : ∃ c held,
    run 4 [.acquire 1000, .acquire 1000, .acquire 1000, .acquire 1000, .acquire 0] =
      some (c, held) ∧ held.countP (· ≠ 0) = 3 ∧ (c.acquire 0).2 = false ∧
        Int.tdiv 4 4 ≤ held.count 0 := by
  have ran : run 4 [.acquire 1000, .acquire 1000, .acquire 1000, .acquire 1000, .acquire 0] =
      some (⟨4, 3, 4, 3⟩, {0, 1000, 1000, 1000}) := rfl
  refine ⟨_, _, ran, by decide, by decide, ?_⟩
  exact ((root_keeps_quarter 4 (by decide) ran).2.2.2 (by decide)).1

/-! ## The accept loop -/

/-- `DefaultSocketMaxConnections`. -/
def defaultSocketMaxConnections : Int := 1024

def maxRefusing : Nat := 64

/-- What runs for a connection: it is served, or it is over the cap and told so. -/
inductive Task where
  | serve (uid : UInt32)
  | refuse
deriving DecidableEq

/-- The uid of a connection that is served. -/
def Task.served : Task → Option UInt32
  | .serve uid => some uid
  | .refuse => none

/-- What `admit` reads and writes: the slots, and how many are in the channel `refusing`. -/
structure Server where
  slots : ConnSlots
  refusing : Nat := 0

/-- The limit that `New` takes from its options. -/
def maxConns (maxConnections : Int) : Int :=
  if maxConnections ≤ 0 then defaultSocketMaxConnections else maxConnections

/-- `New`. -/
def newServer (maxConnections : Int) : Server where
  slots := newConnSlots (maxConns maxConnections)

/-- `admit`, with the uid of the peer if its credentials were read.  A connection without a task
was closed. -/
def Server.admitConn (s : Server) : Option UInt32 → Server × Option Task
  | none => (s, none)
  | some uid =>
    let (slots, free) := s.slots.acquire uid
    if free then ({ s with slots }, some (.serve uid))
    else if s.refusing < maxRefusing then
      ({ slots, refusing := s.refusing + 1 }, some .refuse)
    else ({ s with slots }, none)

/-- What a task defers to its end. -/
def Server.finish (s : Server) : Task → Server
  | .serve uid => { s with slots := s.slots.release uid }
  | .refuse => { s with refusing := s.refusing - 1 }

/-- What happens in `acceptLoop`. -/
inductive Event where
  | accept (cred : Option UInt32)
  | finish (task : Task)

/-- One event, beside the tasks that run. -/
def serve (state : Server × Multiset Task) : Event → Option (Server × Multiset Task)
  | .accept cred =>
    let (server, task) := state.1.admitConn cred
    some (server, task.elim state.2 (· ::ₘ state.2))
  | .finish task =>
    if task ∈ state.2 then some (state.1.finish task, state.2.erase task) else none

/-- The calls of the slots that an event makes: `admit` asks for a slot once it knows the peer, and
only the task of a connection that is served gives one back. -/
def Event.calls : Event → List Call
  | .accept (some uid) => [.acquire uid]
  | .finish (.serve uid) => [.release uid]
  | .accept none | .finish .refuse => []

section Loop

variable {state next : Server × Multiset Task}

/-- The calls of one event are legal, and hold what is served ... -/
theorem calls_of_serve {event : Event} (served : serve state event = some next) :
    event.calls.foldlM step (state.1.slots, state.2.filterMap Task.served) =
      some (next.1.slots, next.2.filterMap Task.served) := by
  have silent (tasks : Multiset Task) :
      (Task.refuse ::ₘ tasks).filterMap Task.served = tasks.filterMap Task.served :=
    Multiset.filterMap_cons_none _ _ rfl
  cases event with
  | accept cred =>
    cases served
    cases cred with
    | none => rfl
    | some uid =>
      simp only [Event.calls, List.foldlM_cons, List.foldlM_nil, step]
      generalize state.1.slots.acquire uid = answer
      obtain ⟨slots, free⟩ := answer
      cases free with
      | true => simp [Task.served]
      | false =>
        by_cases room : state.1.refusing < maxRefusing
        · simp [room, silent]
        · simp [room]
  | finish task =>
    simp only [serve] at served
    split_ifs at served with runs
    cases served
    obtain ⟨rest, same⟩ := Multiset.exists_cons_of_mem runs
    rw [same, Multiset.erase_cons_head]
    cases task with
    | serve uid => simp [Event.calls, step, Task.served, Server.finish]
    | refuse => simp [Event.calls, silent, Server.finish]

/-- ... and so are those of many. -/
theorem calls_of_events {events : List Event} (ran : events.foldlM serve state = some next) :
    (events.flatMap Event.calls).foldlM step (state.1.slots, state.2.filterMap Task.served) =
      some (next.1.slots, next.2.filterMap Task.served) := by
  induction events generalizing state with
  | nil =>
    cases ran
    rfl
  | cons event events ih =>
    obtain ⟨mid, served, rest⟩ := Option.bind_eq_some_iff.mp ran
    rw [List.flatMap_cons, List.foldlM_append, calls_of_serve served]
    exact ih rest

/-- **What the accept loop does with the slots**: in every run of it, the calls it makes are legal,
so that it only gives back slots that are held, and what is held is what is served. -/
theorem calls_of_run {n : Int} {events : List Event}
    (ran : events.foldlM serve (newServer n, 0) = some next) :
    1 ≤ maxConns n ∧ run (maxConns n) (events.flatMap Event.calls) =
      some (next.1.slots, next.2.filterMap Task.served) := by
  refine ⟨?_, calls_of_events ran⟩
  unfold maxConns
  split
  · decide
  · omega

end Loop

/-- One slot: the second peer is refused, and is served once the first has left. -/
theorem calls_of_run_refused : ∃ next,
    [.accept (some 7), .accept (some 8), .finish (.serve 7), .finish .refuse,
      .accept (some 8)].foldlM serve (newServer 1, 0) = some next ∧
    run 1 [.acquire 7, .acquire 8, .release 7, .acquire 8] = some (next.1.slots, {8}) := by
  have ran : [.accept (some 7), .accept (some 8), .finish (.serve 7), .finish .refuse,
      .accept (some 8)].foldlM serve (newServer 1, 0) = some (⟨⟨1, 1, 1, 1⟩, 0⟩, {.serve 8}) := rfl
  exact ⟨_, ran, (calls_of_run ran).2⟩

end Ssoossh.Nssd.Connections
