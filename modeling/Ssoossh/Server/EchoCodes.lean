import Mathlib.Data.List.Basic

/-!
# Identity echo codes

`server/service/identityechocode.go`.  A call of the service takes its statements one by one, and
other calls take theirs in between; a call is kept as what it still has to do, with its local
variables.  `events` is what the statements did, newest first: a code is consumed by the update of
`Redeem`, and `Redeem` succeeds, and audits, once it has read the row back.

`Orderly` says that a code has one fate.  It holds as long as no `Redeem` updates a code with a
time that is before the time of an `End` which already updated it.
-/

namespace Ssoossh.EchoCodes

open List

/-- `outcome` is stored with `completed_at`. -/
structure IdentityEchoCode where
  id : String
  codeHash : String
  expiresAt : Int
  usedAt : Option Int := none
  outcome : Option String := none
deriving DecidableEq

def defaultEchoCodeTTL : Int := 15 * 60 * 1000000000

/-- A call before a statement. -/
inductive Call
  | mint (id codeHash : String) (expiresAt now : Int)
  | redeem (hash : String) (now : Int)
  | redeemed (hash : String)
  | endRead (row : IdentityEchoCode)
  | endTimed (row : IdentityEchoCode) (now : Int)
deriving DecidableEq

/-- What a statement did, to the code with an id. -/
inductive Event
  | minted (id codeHash : String)
  | replaced (id : String)
  | consumed (id : String)
  | used (id : String)
  | ended (id : String) (now : Int)
  | outcome (id outcome : String)
deriving DecidableEq

def Event.id : Event → String
  | minted id _ | replaced id | consumed id | used id | ended id _ | outcome id _ => id

structure State where
  clock : Int := 0
  codes : List IdentityEchoCode := []
  calls : List Call := []
  events : List Event := []

/-- `UPDATE`. -/
def update (hit : IdentityEchoCode → Bool) (f : IdentityEchoCode → IdentityEchoCode)
    (codes : List IdentityEchoCode) : List IdentityEchoCode :=
  codes.map fun row => if hit row then f row else row

/-- The row can be redeemed at this time. -/
def live (now : Int) (row : IdentityEchoCode) : Bool :=
  row.usedAt.isNone && decide (row.expiresAt > now)

def redeemable (hash : String) (now : Int) (row : IdentityEchoCode) : Bool :=
  row.codeHash == hash && live now row

def endable (id : String) (row : IdentityEchoCode) : Bool := row.id == id && row.usedAt.isNone

def incomplete (id : String) (row : IdentityEchoCode) : Bool := row.id == id && row.outcome.isNone

namespace State

variable (s : State)

/-- The transaction of `Mint`, and the audit of the codes it replaced. -/
def mint (id codeHash : String) (expiresAt now : Int) : State :=
  { s with
    codes := [⟨id, codeHash, expiresAt, none, none⟩]
    events := .minted id codeHash :: (s.codes.filter (live now)).map (.replaced ·.id) ++ s.events }

/-- The update of `Redeem`, which goes on only if it matched one row. -/
def redeem (hash : String) (now : Int) : State :=
  { s with
    codes := update (redeemable hash now) (fun row => { row with usedAt := some now }) s.codes
    calls := if (s.codes.filter (redeemable hash now)).length = 1 then .redeemed hash :: s.calls
      else s.calls
    events := (s.codes.filter (redeemable hash now)).map (.consumed ·.id) ++ s.events }

/-- The read of `Redeem`, and the audit of the code it found. -/
def redeemed (hash : String) : State :=
  { s with events := (s.codes.find? (·.codeHash == hash)).toList.map (.used ·.id) ++ s.events }

/-- The update of `End`.  It returns true, and audits, if it matched a row. -/
def endUpdate (read : IdentityEchoCode) (now : Int) : State :=
  { s with
    codes := update (endable read.id) (fun row =>
      { row with expiresAt := if read.expiresAt > now then now else read.expiresAt }) s.codes
    events := (s.codes.filter (endable read.id)).map (.ended ·.id now) ++ s.events }

/-- `RecordOutcome`, of an outcome that is clipped. -/
def recordOutcome (id outcome : String) : State :=
  { s with
    codes := update (incomplete id) (fun row => { row with outcome := some outcome }) s.codes
    events := .outcome id outcome :: s.events }

/-- The next statement of a call. -/
def proceed : Call → State
  | .mint id codeHash expiresAt now => s.mint id codeHash expiresAt now
  | .redeem hash now => s.redeem hash now
  | .redeemed hash => s.redeemed hash
  | .endRead row => { s with calls := .endTimed row s.clock :: s.calls }
  | .endTimed row now => s.endUpdate row now

end State

/-- Who moves next.  A statement may fail, and then its call ends. -/
inductive Label
  | tick (passed : Nat)
  | mint (id codeHash : String) (ttl : Int)
  | redeem (hash : String)
  | endCode (id : String)
  | recordOutcome (id outcome : String)
  | proceed (call : Call)
  | fail (call : Call)

def State.step (s : State) : Label → State
  | .tick passed => { s with clock := s.clock + passed }
  | .mint id codeHash ttl =>
    let ttl := if ttl ≤ 0 then defaultEchoCodeTTL else ttl
    { s with calls := .mint id codeHash (s.clock + ttl) s.clock :: s.calls }
  | .redeem hash => { s with calls := .redeem hash s.clock :: s.calls }
  | .endCode id =>
    { s with calls := (s.codes.find? (·.id == id)).toList.map .endRead ++ s.calls }
  | .recordOutcome id outcome => s.recordOutcome id outcome
  | .proceed call =>
    if call ∈ s.calls then { s with calls := s.calls.erase call }.proceed call else s
  | .fail call => { s with calls := s.calls.erase call }

/-! ## One fate -/

/-- The code that the last `Mint` stored. -/
def lastMinted : List Event → Option String
  | [] => none
  | .minted id _ :: _ => some id
  | _ :: earlier => lastMinted earlier

/-- The first outcome that was recorded for a code since the last `Mint`. -/
def firstOutcome (id : String) : List Event → Option String
  | [] => none
  | .minted _ _ :: _ => none
  | .outcome other outcome :: earlier =>
    (firstOutcome id earlier).or (if other = id then some outcome else none)
  | _ :: earlier => firstOutcome id earlier

/-- A code is consumed at most once, while it is the one minted last, and not after it was ended or
replaced.  A `Redeem` of it succeeds at most once, after it was consumed and while it still is the
one minted last; it is then not ended or replaced as unused. -/
def Orderly : List Event → Prop
  | [] => True
  | .consumed id :: earlier => lastMinted earlier = some id ∧ .consumed id ∉ earlier ∧
    .replaced id ∉ earlier ∧ (∀ t, .ended id t ∉ earlier) ∧ Orderly earlier
  | .used id :: earlier => lastMinted earlier = some id ∧ .consumed id ∈ earlier ∧
    .used id ∉ earlier ∧ Orderly earlier
  | .ended id _ :: earlier => .consumed id ∉ earlier ∧ Orderly earlier
  | .replaced id :: earlier => .consumed id ∉ earlier ∧ Orderly earlier
  | _ :: earlier => Orderly earlier

/-- The steps the result is about.  Ids and codes are random and do not repeat, and no `Redeem`
updates a code with a time before that of an `End` which already updated it. -/
def Allowed (s : State) : Label → Prop
  | .proceed (.mint id codeHash _ _) =>
    (∀ event ∈ s.events, event.id ≠ id) ∧ ∀ other, .minted other codeHash ∉ s.events
  | .proceed (.redeem hash now) => ∀ row ∈ s.codes, row.codeHash = hash →
    ∀ t, .ended row.id t ∈ s.events → t ≤ now
  | _ => True

inductive Reachable : State → Prop
  | start : Reachable {}
  | step {s : State} {label : Label} (reached : Reachable s) (allowed : Allowed s label) :
      Reachable (s.step label)

/-- What is known of a stored code. -/
structure Stored (events : List Event) (row : IdentityEchoCode) : Prop where
  last : lastMinted events = some row.id
  minted : .minted row.id row.codeHash ∈ events
  replaced : .replaced row.id ∉ events
  unused : row.usedAt = none ↔ .consumed row.id ∉ events
  ended : ∀ t, .ended row.id t ∈ events → ∃ t', .ended row.id t' ∈ events ∧ row.expiresAt ≤ t'
  outcome : row.outcome = firstOutcome row.id events

/-- At most one `Redeem` of a code is between its update and its read, and it has not succeeded. -/
def Pending (events : List Event) (calls : List Call) (hash : String) : Prop :=
  calls.count (.redeemed hash) = 0 ∨ calls.count (.redeemed hash) = 1 ∧
    ∃ id, .minted id hash ∈ events ∧ .consumed id ∈ events ∧ .used id ∉ events

/-- The invariant of every reachable state. -/
structure Inv (s : State) : Prop where
  table : s.codes = [] ∨ ∃ row, s.codes = [row] ∧ Stored s.events row
  orderly : Orderly s.events
  minted : ∀ i j h h', .minted i h ∈ s.events → .minted j h' ∈ s.events → (i = j ↔ h = h')
  pending : ∀ hash, Pending s.events s.calls hash

variable {s : State} {id hash codeHash outcome : String} {expiresAt now : Int}
  {row : IdentityEchoCode}

/-- More events, and no more calls, leave a pending `Redeem` pending. -/
theorem Pending.grow {events added : List Event} {calls calls' : List Call}
    (h : Pending events calls hash)
    (others : ∀ i, .minted i hash ∈ events → .used i ∉ added)
    (fewer : calls'.count (.redeemed hash) ≤ calls.count (.redeemed hash)) :
    Pending (added ++ events) calls' hash := by
  rcases h with none | ⟨one, id, minted, consumed, unused⟩
  · exact .inl (by omega)
  · rcases Nat.le_one_iff_eq_zero_or_eq_one.mp (one ▸ fewer) with none | one
    · exact .inl none
    · exact .inr ⟨one, id, mem_append_right _ minted, mem_append_right _ consumed,
        fun used => (mem_append.mp used).elim (others id minted) unused⟩

theorem Orderly.tail {event : Event} {earlier : List Event} (h : Orderly (event :: earlier)) :
    Orderly earlier := by
  cases event with
  | minted | outcome => exact h
  | replaced | ended => exact h.2
  | consumed => exact h.2.2.2.2
  | used => exact h.2.2.2

theorem Orderly.consumed_of_used {events : List Event} (h : Orderly events)
    (used : .used id ∈ events) : .consumed id ∈ events := by
  induction events with
  | nil => cases used
  | cons event earlier ih =>
    rcases mem_cons.mp used with rfl | before
    · exact .tail _ h.2.1
    · exact .tail _ (ih h.tail before)

section

variable (h : Inv s)
include h

/-- A step that does not mint. -/
theorem Inv.grow {clock : Int} {codes : List IdentityEchoCode} {calls : List Call}
    (added : List Event) (plain : ∀ i h, .minted i h ∉ added)
    (table : codes = [] ∨ ∃ row, codes = [row] ∧ Stored (added ++ s.events) row)
    (orderly : Orderly (added ++ s.events))
    (pending : ∀ hash, Pending (added ++ s.events) calls hash) :
    Inv ⟨clock, codes, calls, added ++ s.events⟩ where
  table := table
  orderly := orderly
  minted i j hash hash' first second := h.minted i j hash hash'
    ((mem_append.mp first).resolve_left (plain i hash))
    ((mem_append.mp second).resolve_left (plain j hash'))
  pending := pending

/-- An update matches nothing, or the code that is stored. -/
theorem Inv.hits (hit : IdentityEchoCode → Bool) (f : IdentityEchoCode → IdentityEchoCode) :
    (s.codes.filter hit = [] ∧ update hit f s.codes = s.codes) ∨
      ∃ row, s.codes = [row] ∧ Stored s.events row ∧ hit row = true ∧ s.codes.filter hit = [row] ∧
        update hit f s.codes = [f row] := by
  rcases h.table with none | ⟨row, only, stored⟩
  · simp [none, update]
  · by_cases is : hit row = true
    · exact .inr ⟨row, only, stored, is, by simp [only, is], by simp [only, update, is]⟩
    · exact .inl ⟨by simp [only, is], by simp [only, update, is]⟩

theorem Inv.mint (new : ∀ event ∈ s.events, event.id ≠ id)
    (fresh : ∀ other, .minted other codeHash ∉ s.events) :
    Inv (s.mint id codeHash expiresAt now) := by
  -- what is replaced was stored, and not consumed
  obtain ⟨gone, is, orderly, about⟩ : ∃ gone : List Event, (s.mint id codeHash expiresAt now).events =
      .minted id codeHash :: gone ++ s.events ∧ Orderly (gone ++ s.events) ∧
      ∀ event ∈ gone, ∃ other, event = .replaced other ∧ other ≠ id := by
    rcases h.hits (live now) (fun row => row) with ⟨none, -⟩ | ⟨row, -, stored, hit, hits, -⟩
    · exact ⟨[], by simp [State.mint, none], h.orderly, nofun⟩
    · refine ⟨[.replaced row.id], by simp [State.mint, hits],
        ⟨stored.unused.mp (by simp_all [live]), h.orderly⟩, ?_⟩
      rintro _ (_ | ⟨_, ⟨⟩⟩)
      exact ⟨_, rfl, new _ stored.minted⟩
  have unseen (event : Event) (its : event.id = id) (there : event ∈ gone ++ s.events) : False := by
    rcases mem_append.mp there with replaced | earlier
    · obtain ⟨other, rfl, ne⟩ := about _ replaced
      exact ne its
    · exact new _ earlier its
  have earlier {i hash : String} (there : .minted i hash ∈ gone ++ s.events) :
      .minted i hash ∈ s.events :=
    (mem_append.mp there).resolve_left fun replaced => nomatch about _ replaced
  refine ⟨.inr ⟨_, rfl, ?_⟩, is ▸ orderly, fun i j hash hash' first second => ?_, fun hash => ?_⟩
  · rw [is]
    exact ⟨rfl, .head _, fun | .tail _ there => unseen _ rfl there,
      iff_of_true rfl fun | .tail _ there => unseen _ rfl there,
      fun _ => fun | .tail _ there => (unseen _ rfl there).elim, rfl⟩
  · rw [is] at first second
    rcases mem_cons.mp first with this | old
    · cases this
      rcases mem_cons.mp second with this | old
      · cases this
        exact iff_of_true rfl rfl
      · refine iff_of_false (fun same => unseen (.minted j hash') same.symm old) ?_
        rintro rfl
        exact fresh j (earlier old)
    · rcases mem_cons.mp second with this | old'
      · cases this
        refine iff_of_false (fun same => unseen (.minted i hash) same old) ?_
        rintro rfl
        exact fresh i (earlier old)
      · exact h.minted i j hash hash' (earlier old) (earlier old')
  · rw [is]
    refine (h.pending hash).grow (fun i _ used => ?_) (Nat.le_refl _)
    obtain ⟨other, ⟨⟩, -⟩ := about _ ((mem_cons.mp used).resolve_left nofun)

theorem Inv.redeem (allowed : ∀ row ∈ s.codes, row.codeHash = hash →
    ∀ t, .ended row.id t ∈ s.events → t ≤ now) : Inv (s.redeem hash now) := by
  unfold State.redeem
  rcases h.hits (redeemable hash now) (fun row => { row with usedAt := some now }) with
    ⟨none, same⟩ | ⟨row, only, stored, hit, hits, updated⟩
  · rw [none, same]
    exact h
  rw [hits, updated]
  simp only [redeemable, live, Bool.and_eq_true, beq_iff_eq, Option.isNone_iff_eq_none,
    decide_eq_true_eq] at hit
  obtain ⟨rfl, unused, live⟩ := hit
  obtain ⟨last, minted, replaced, unconsumed, ended, first⟩ := stored
  have new := unconsumed.mp unused
  refine h.grow [.consumed row.id] (by simp)
    (.inr ⟨_, rfl, last, .tail _ minted, by simpa, by simp, by simpa, first⟩)
    ⟨last, new, replaced, fun t there => ?_, h.orderly⟩ fun hash => ?_
  · obtain ⟨t', there, past⟩ := ended t there
    have := allowed row (only ▸ mem_singleton_self row) rfl t' there
    omega
  · by_cases other : row.codeHash = hash
    · subst other
      -- a call that still waits would have consumed this very code
      rcases h.pending row.codeHash with none | ⟨-, id, minted', consumed, -⟩
      · exact .inr ⟨by simp [none], row.id, .tail _ minted, .head _,
          fun used => new (h.orderly.consumed_of_used (by simpa using used))⟩
      · exact absurd ((h.minted _ _ _ _ minted' minted).mpr rfl ▸ consumed) new
    · exact (h.pending hash).grow (by simp) (by simp [other])

theorem Inv.redeemed (there : .redeemed hash ∈ s.calls) :
    Inv ({ s with calls := s.calls.erase (.redeemed hash) }.redeemed hash) := by
  have fewer (call : Call) : (s.calls.erase (.redeemed hash)).count call ≤ s.calls.count call :=
    erase_sublist.count_le call
  unfold State.redeemed
  cases found : s.codes.find? (·.codeHash == hash) with
  | none => exact h.grow [] nofun h.table h.orderly fun _ => (h.pending _).grow nofun (fewer _)
  | some row =>
    rcases h.table with none | ⟨row', only, stored⟩
    · simp [none] at found
    obtain ⟨rfl, rfl⟩ : row'.codeHash = hash ∧ row' = row := by simpa [only] using found
    obtain ⟨last, minted, replaced, unused, ended, first⟩ := stored
    rcases h.pending row'.codeHash with none | ⟨one, id, minted', consumed, unread⟩
    · exact absurd there (count_eq_zero.mp none)
    obtain rfl := (h.minted _ _ _ _ minted' minted).mpr rfl
    refine h.grow [.used row'.id] (by simp)
      (.inr ⟨_, only, last, .tail _ minted, by simpa, by simpa, by simpa, first⟩)
      ⟨last, consumed, unread, h.orderly⟩ fun hash => ?_
    by_cases other : row'.codeHash = hash
    · exact .inl (by simp [← other, one])
    · refine (h.pending hash).grow (fun i minted' used => other ?_) (fewer _)
      obtain ⟨rfl⟩ : i = row'.id := by simpa using used
      exact (h.minted _ _ _ _ minted minted').mp rfl

theorem Inv.endUpdate (read : IdentityEchoCode) : Inv (s.endUpdate read now) := by
  unfold State.endUpdate
  rcases h.hits (endable read.id) (fun row => { row with
    expiresAt := if read.expiresAt > now then now else read.expiresAt }) with
    ⟨none, same⟩ | ⟨row, only, stored, hit, hits, updated⟩
  · rw [none, same]
    exact h
  rw [hits, updated]
  simp only [endable, Bool.and_eq_true, beq_iff_eq, Option.isNone_iff_eq_none] at hit
  obtain ⟨last, minted, replaced, unused, -, first⟩ := stored
  refine h.grow [.ended row.id now] (by simp)
    (.inr ⟨_, rfl, last, .tail _ minted, by simpa, by simpa, fun t _ => ⟨now, .head _, ?_⟩, first⟩)
    ⟨unused.mp hit.2, h.orderly⟩ fun hash => (h.pending hash).grow (by simp) (Nat.le_refl _)
  dsimp only
  split <;> omega

theorem Inv.recordOutcome : Inv (s.recordOutcome id outcome) := by
  refine h.grow [.outcome id outcome] (by simp) ?_ h.orderly
    fun hash => (h.pending hash).grow (by simp) (Nat.le_refl _)
  rcases h.table with none | ⟨row, only, last, minted, replaced, unused, ended, first⟩
  · exact .inl (by rw [none]; rfl)
  refine .inr ⟨_, by rw [only]; rfl, ?_⟩
  beta_reduce
  split
  · next hit =>
    refine ⟨last, .tail _ minted, by simpa, by simpa, by simpa, ?_⟩
    simp only [incomplete, Bool.and_eq_true, beq_iff_eq, Option.isNone_iff_eq_none] at hit
    simp [firstOutcome, ← first, hit.2, hit.1.symm]
  · next miss =>
    refine ⟨last, .tail _ minted, by simpa, by simpa, by simpa, ?_⟩
    cases is : row.outcome with
    | some => simp [firstOutcome, ← first, is]
    | none =>
      have other : id ≠ row.id := by
        rintro rfl
        simp [incomplete, is] at miss
      simp [firstOutcome, ← first, is, other]

/-- **One step keeps the invariant.** -/
theorem Inv.step {label : Label} (allowed : Allowed s label) : Inv (s.step label) := by
  have same {clock : Int} {calls : List Call} (fewer : ∀ hash, calls.count (.redeemed hash) ≤
      s.calls.count (.redeemed hash)) : Inv ⟨clock, s.codes, calls, s.events⟩ :=
    h.grow [] nofun h.table h.orderly fun hash => (h.pending hash).grow nofun (fewer hash)
  have fewer (call : Call) (hash : String) :
      (s.calls.erase call).count (.redeemed hash) ≤ s.calls.count (.redeemed hash) :=
    erase_sublist.count_le _
  cases label with
  | tick => exact same fun _ => Nat.le_refl _
  | mint => exact same (by simp)
  | redeem => exact same (by simp)
  | endCode id =>
    refine same fun hash => ?_
    cases s.codes.find? (·.id == id) <;> simp
  | recordOutcome => exact h.recordOutcome
  | fail call => exact same (fewer call)
  | proceed call =>
    show Inv (if call ∈ s.calls then _ else s)
    split
    · next there =>
      have rest : Inv { s with calls := s.calls.erase call } := same (fewer call)
      cases call with
      | mint => exact rest.mint allowed.1 allowed.2
      | redeem => exact rest.redeem allowed
      | redeemed => exact h.redeemed there
      | endRead row => exact same fun hash => by simp
      | endTimed row => exact rest.endUpdate row
    · exact h

end

theorem Reachable.inv (reached : Reachable s) : Inv s := by
  induction reached with
  | start => exact ⟨.inl rfl, trivial, nofun, fun _ => .inl rfl⟩
  | step _ allowed ih => exact ih.step allowed

/-- A code that was consumed is neither ended nor replaced as unused, before or after. -/
theorem Orderly.exclusive {events : List Event} (h : Orderly events)
    (consumed : .consumed id ∈ events) : .replaced id ∉ events ∧ ∀ t, .ended id t ∉ events := by
  induction events with
  | nil => cases consumed
  | cons event earlier ih =>
    rcases mem_cons.mp consumed with rfl | before
    · obtain ⟨-, -, replaced, ended, -⟩ := h
      exact ⟨by simpa using replaced, by simpa using ended⟩
    · -- once it is consumed, the newest event cannot be a replacement or an end of it
      obtain ⟨replaced, ended⟩ := ih h.tail before
      refine ⟨fun there => ?_, fun t there => ?_⟩
      · rcases mem_cons.mp there with rfl | there
        · exact h.1 before
        · exact replaced there
      · rcases mem_cons.mp there with rfl | there
        · exact h.1 before
        · exact ended t there

/-- **A code has one fate.** -/
theorem one_fate (reached : Reachable s) : s.codes.length ≤ 1 ∧ Orderly s.events ∧
    (∀ id, .used id ∈ s.events → .replaced id ∉ s.events ∧ ∀ t, .ended id t ∉ s.events) ∧
    ∀ row ∈ s.codes, row.outcome = firstOutcome row.id s.events := by
  obtain ⟨table, orderly, -, -⟩ := reached.inv
  refine ⟨?_, orderly, fun id used => orderly.exclusive (orderly.consumed_of_used used), ?_⟩
  · rcases table with none | ⟨row, only, -⟩
    · simp [none]
    · simp [only]
  · rintro row there
    rcases table with none | ⟨row', only, stored⟩
    · rw [none] at there
      cases there
    · obtain rfl : row = row' := by simpa [only] using there
      exact stored.outcome

/-- A code that is redeemed. -/
theorem one_fate_redeemed : ∃ s, Reachable s ∧ .used "1" ∈ s.events ∧
    .replaced "1" ∉ s.events ∧ ∀ t, .ended "1" t ∉ s.events := by
  have minting : Reachable (State.step {} (.mint "1" "h" 900)) := .step .start trivial
  have minted : Reachable (State.step _ (.proceed (.mint "1" "h" 900 0))) := .step minting ⟨nofun, nofun⟩
  have asked : Reachable (State.step _ (.redeem "h")) := .step minted trivial
  have consumed : Reachable (State.step _ (.proceed (.redeem "h" 0))) :=
    .step asked fun _ _ _ _ ended => nomatch mem_singleton.mp ended
  have used : Reachable (State.step _ (.proceed (.redeemed "h"))) := .step consumed trivial
  exact ⟨_, used, by decide +kernel, (one_fate used).2.2.1 "1" (by decide +kernel)⟩

/-- A `Redeem` reads the clock, an `End` reads it a second later and retires the code, and the
`Redeem` consumes it. -/
theorem redeemed_after_end : ([.mint "1" "h" 900, .proceed (.mint "1" "h" 900 0), .tick 5,
      .redeem "h", .tick 1, .endCode "1", .proceed (.endRead ⟨"1", "h", 900, none, none⟩),
      .proceed (.endTimed ⟨"1", "h", 900, none, none⟩ 6), .proceed (.redeem "h" 5),
      .proceed (.redeemed "h")].foldl State.step {}).events =
    [.used "1", .consumed "1", .ended "1" 6, .minted "1" "h"] := by
  decide +kernel

end Ssoossh.EchoCodes
