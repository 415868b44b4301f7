import Mathlib.Algebra.BigOperators.Group.Finset.Basic
import Mathlib.Data.BitVec
import Mathlib.Data.Fintype.Basic
import Mathlib.Tactic.LinearCombination
import Mathlib.Tactic.Ring

/-!
# The usage aggregate

How lookups are counted, for any number of server instances that count and flush at once.

A count is in the map of the instance that counted it, in the map that a running `Flush` took
from it, or in `nss_key_usage`.  Every step moves counts between the three, and the row added
to is always the sum of the two: that is all the conservation law needs (`Tally`).  The counters
are the `int64` of the source, so the law is one of their arithmetic: below 2^63 lookups the sum is
their number.
-/

namespace Ssoossh.NSS.Usage

/-- How a lookup ended. -/
inductive Result where
  | hit
  | miss
  | unauthorized
  | rateLimited
  | forbidden
  | badRequest
  | error
  deriving DecidableEq

/-- What the counting reads of a finished lookup: the key's verdict, the address and the
result. -/
structure LookupOutcome where
  ok : Bool
  keyID : String
  generation : Int
  sourceIP : String
  result : Result

/-- One row of the aggregate; the day is counted in days of UTC. -/
structure UsageKey where
  keyID : String
  sourceIP : String
  generation : Int
  day : Int
  deriving DecidableEq

/-- The counters are `int64`. -/
structure UsageCount where
  lookups : BitVec 64
  misses : BitVec 64
  firstSeen : Int
  lastSeen : Int

/-- The counts of one map, or of the table. -/
abbrev Counts := UsageKey → Option UsageCount

/-- Add `count` to a row: what `restore` and the upsert of `Flush` do to a row that exists. -/
def UsageCount.add (row count : UsageCount) : UsageCount where
  lookups := row.lookups + count.lookups
  misses := row.misses + count.misses
  firstSeen := if count.firstSeen < row.firstSeen then count.firstSeen else row.firstSeen
  lastSeen := if row.lastSeen < count.lastSeen then count.lastSeen else row.lastSeen

/-- Add every count of `pending`: a row that is not there yet is put in. -/
def merge (rows pending : Counts) : Counts := fun key =>
  match pending key, rows key with
  | none, row => row
  | some count, none => some count
  | some count, some row => some (row.add count)

/-- Whether `Observe` counts the lookup: only answered lookups of a verified key are usage. -/
def answered (o : LookupOutcome) : Bool :=
  o.ok && (o.result = .hit || o.result = .miss || o.result = .badRequest)

/-- The row of a lookup, at a time in nanoseconds. -/
def usageKey (o : LookupOutcome) (now : Int) : UsageKey where
  keyID := o.keyID
  sourceIP := o.sourceIP
  generation := o.generation
  day := now / (24 * 60 * 60 * 1000000000)

/-- One lookup more in a row, which is new when there is none. -/
def UsageCount.next (row : Option UsageCount) (miss : Bool) (now : Int) : UsageCount :=
  let row := row.getD ⟨0, 0, now, now⟩
  { row with
    lookups := row.lookups + 1
    misses := if miss then row.misses + 1 else row.misses
    lastSeen := now }

/-- `count` adds one lookup to its row. -/
def count (rows : Counts) (o : LookupOutcome) (miss : Bool) (now : Int) : Counts :=
  Function.update rows (usageKey o now) (some (.next (rows (usageKey o now)) miss now))

/-- `Observe`, of which only the counting is modelled. -/
def Observe (rows : Counts) (o : LookupOutcome) (now : Int) : Counts :=
  if answered o then count rows o (o.result = .miss) now else rows

/-- A server instance: its live map, and the maps its running `Flush` calls took. -/
structure Instance where
  live : Counts
  pending : List Counts

variable {ι : Type} [DecidableEq ι]

/-- The table and the instances. -/
structure State (ι : Type) where
  usage : Counts
  instances : ι → Instance

/-- Nothing has been counted. -/
def State.empty : State ι := ⟨fun _ => none, fun _ => ⟨fun _ => none, []⟩⟩

inductive Step (ι : Type) where
  | observe (i : ι) (o : LookupOutcome) (now : Int)
  /-- `Flush` takes the live map and leaves an empty one. -/
  | detach (i : ι)
  /-- The transaction of a running `Flush` adds its map to the table.  An empty map, for which
  `Flush` opens no transaction, adds nothing. -/
  | commit (i : ι) (n : ℕ)
  /-- The transaction failed, having written nothing, and `restore` puts the counts back. -/
  | restore (i : ι) (n : ℕ)

/-- The state with another instance in place of `i`. -/
def State.put (s : State ι) (i : ι) (inst : Instance) : State ι :=
  { s with instances := Function.update s.instances i inst }

/-- One step; a call that is not running does nothing. -/
def step (s : State ι) : Step ι → State ι
  | .observe i o now =>
    let inst := s.instances i
    s.put i { inst with live := Observe inst.live o now }
  | .detach i =>
    let inst := s.instances i
    s.put i ⟨fun _ => none, inst.live :: inst.pending⟩
  | .commit i n =>
    let inst := s.instances i
    match inst.pending[n]? with
    | none => s
    | some rows =>
      { s.put i { inst with pending := inst.pending.eraseIdx n } with usage := merge s.usage rows }
  | .restore i n =>
    let inst := s.instances i
    match inst.pending[n]? with
    | none => s
    | some rows => s.put i ⟨merge inst.live rows, inst.pending.eraseIdx n⟩

/-- The state after a schedule. -/
def run (s : State ι) (schedule : List (Step ι)) : State ι :=
  schedule.foldl step s

/-- A lookup that the row `key` is to count, in terms of the columns of the row: a verified key's,
answered, from the source and in the generation of the row, and on its day. -/
def UsageKey.Covers (key : UsageKey) (o : LookupOutcome) (now : Int) : Prop :=
  o.ok = true ∧ (o.result = .hit ∨ o.result = .miss ∨ o.result = .badRequest) ∧
    o.keyID = key.keyID ∧ o.sourceIP = key.sourceIP ∧ o.generation = key.generation ∧
    key.day * 86400000000000 ≤ now ∧ now < (key.day + 1) * 86400000000000

instance (key : UsageKey) (o : LookupOutcome) (now : Int) : Decidable (key.Covers o now) :=
  inferInstanceAs (Decidable (_ ∧ _))

/-- The step is a lookup for the row `key`, of those `p` selects by their result. -/
def Step.lookupOf (key : UsageKey) (p : Result → Bool) : Step ι → Bool
  | .observe _ o now => decide (key.Covers o now) && p o.result
  | _ => false

/-- A counter of the rows: adding rows adds it up, and a lookup that it counts adds one. -/
structure Tally where
  get : UsageCount → BitVec 64
  counts : Result → Bool
  add : ∀ row count, get (row.add count) = get row + get count
  next : ∀ row result now, get (.next row (result = .miss) now)
    = (row.map get).getD 0 + if counts result then 1 else 0

def lookups : Tally where
  get := UsageCount.lookups
  counts _ := true
  add _ _ := rfl
  next row _ _ := by cases row <;> rfl

def misses : Tally where
  get := UsageCount.misses
  counts result := result = .miss
  add _ _ := rfl
  next row result _ := by
    by_cases miss : result = .miss <;> cases row <;> simp [UsageCount.next, miss]

/-- `count` files an answered lookup under the one row that is for it. -/
theorem covers_iff (key : UsageKey) (o : LookupOutcome) (now : Int) :
    key.Covers o now ↔ answered o = true ∧ usageKey o now = key := by
  obtain ⟨keyID, sourceIP, generation, day⟩ := key
  simp only [UsageKey.Covers, answered, usageKey, UsageKey.mk.injEq, Bool.and_eq_true,
    Bool.or_eq_true, decide_eq_true_eq]
  constructor
  · rintro ⟨ok, result, rfl, rfl, rfl, early, late⟩
    exact ⟨⟨ok, or_assoc.mpr result⟩, rfl, rfl, rfl, by omega⟩
  · rintro ⟨⟨ok, result⟩, rfl, rfl, rfl, rfl⟩
    exact ⟨ok, or_assoc.mp result, rfl, rfl, rfl, by omega, by omega⟩

namespace Tally

variable (t : Tally) (key : UsageKey)

/-- The counter of one row of a map; a row that is not there counts nothing. -/
def row (rows : Counts) : BitVec 64 := ((rows key).map t.get).getD 0

/-- What an instance holds in memory, in flight or not. -/
def held (inst : Instance) : BitVec 64 :=
  t.row key inst.live + (inst.pending.map (t.row key)).sum

/-- The counter of one row over the table and all instances. -/
def total [Fintype ι] (s : State ι) : BitVec 64 :=
  t.row key s.usage + ∑ i, t.held key (s.instances i)

/-- How many of the steps are lookups that the counter of the row counts. -/
def observed (schedule : List (Step ι)) : ℕ := schedule.countP (Step.lookupOf key t.counts)

theorem row_merge (rows pending : Counts) :
    t.row key (merge rows pending) = t.row key rows + t.row key pending := by
  unfold row merge
  cases pending key <;> cases rows key <;> simp [t.add]

omit [DecidableEq ι] in
theorem row_Observe (rows : Counts) (i : ι) (o : LookupOutcome) (now : Int) :
    t.row key (Observe rows o now)
      = t.row key rows + (t.observed key [Step.observe i o now] : ℕ) := by
  have covers : key.Covers o now ↔ answered o = true ∧ usageKey o now = key := covers_iff key o now
  by_cases usage : answered o
  · by_cases same : usageKey o now = key
    · have of : Step.lookupOf key t.counts (Step.observe i o now) = t.counts o.result := by
        simp [Step.lookupOf, covers.mpr ⟨usage, same⟩]
      subst same
      simp only [Observe, if_pos usage, observed, List.countP_singleton, of, row, count,
        Function.update_self, Option.map_some, Option.getD_some, t.next]
      split <;> simp
    · have other : ¬ key.Covers o now := fun its => same (covers.mp its).2
      simp [Observe, usage, observed, Step.lookupOf, other, row, count,
        Function.update_of_ne (Ne.symm same)]
  · have other : ¬ key.Covers o now := fun its => usage (covers.mp its).1
    simp [Observe, usage, observed, Step.lookupOf, other]

/-- A map taken out of the maps in flight takes its counts with it. -/
theorem held_eraseIdx {inst : Instance} {n : ℕ} {rows : Counts}
    (there : inst.pending[n]? = some rows) :
    t.held key inst = t.row key rows + t.held key { inst with pending := inst.pending.eraseIdx n } := by
  obtain ⟨inside, rfl⟩ := List.getElem?_eq_some_iff.mp there
  have perm := ((List.getElem_cons_eraseIdx_perm inside).map (t.row key)).sum_eq
  simp only [List.map_cons, List.sum_cons] at perm
  simp only [held]
  linear_combination -perm

theorem total_put [Fintype ι] (s : State ι) (i : ι) (inst : Instance) :
    t.total key (s.put i inst) + t.held key (s.instances i)
      = t.total key s + t.held key inst := by
  have others : ∀ j ∈ Finset.univ.erase i,
      t.held key ((s.put i inst).instances j) = t.held key (s.instances j) :=
    fun j other => congrArg _ (Function.update_of_ne (Finset.ne_of_mem_erase other) ..)
  have new : (s.put i inst).instances i = inst := Function.update_self ..
  simp only [total, ← Finset.add_sum_erase _ _ (Finset.mem_univ i)]
  rw [Finset.sum_congr rfl others, new]
  simp only [State.put]
  ring

theorem total_step [Fintype ι] (s : State ι) (move : Step ι) :
    t.total key (step s move) = t.total key s + (t.observed key [move] : ℕ) := by
  cases move with
  | observe i o now =>
    have moved := t.total_put key s i
      { s.instances i with live := Observe (s.instances i).live o now }
    simp only [held, t.row_Observe key _ i] at moved
    simp only [step]
    linear_combination moved
  | detach i =>
    have moved := t.total_put key s i
      ⟨fun _ => none, (s.instances i).live :: (s.instances i).pending⟩
    have empty : t.row key (fun _ => none) = 0 := rfl
    have none : t.observed key [Step.detach i] = 0 := rfl
    simp only [held, empty, List.map_cons, List.sum_cons] at moved
    rw [step, none, Nat.cast_zero]
    linear_combination moved
  | commit i n =>
    have none : t.observed key [Step.commit i n] = 0 := rfl
    rw [step, none, Nat.cast_zero, add_zero]
    split
    · rfl
    · rename_i rows there
      let taken : Instance := { s.instances i with pending := (s.instances i).pending.eraseIdx n }
      have moved := t.total_put key s i taken
      have stored : t.total key { s.put i taken with usage := merge s.usage rows }
          = t.total key (s.put i taken) + t.row key rows := by
        simp only [total, row_merge, State.put]
        ring
      linear_combination stored + moved - t.held_eraseIdx key there
  | restore i n =>
    have none : t.observed key [Step.restore i n] = 0 := rfl
    rw [step, none, Nat.cast_zero, add_zero]
    split
    · rfl
    · rename_i rows there
      have moved := t.total_put key s i
        ⟨merge (s.instances i).live rows, (s.instances i).pending.eraseIdx n⟩
      have lighter := t.held_eraseIdx key there
      simp only [held, row_merge] at moved lighter
      linear_combination moved - lighter

theorem total_run [Fintype ι] (s : State ι) (schedule : List (Step ι)) :
    t.total key (run s schedule) = t.total key s + (t.observed key schedule : ℕ) := by
  induction schedule generalizing s with
  | nil => simp [run, observed]
  | cons move rest ih =>
    have split : t.observed key (move :: rest) = t.observed key [move] + t.observed key rest :=
      (List.countP_append : ([move] ++ rest).countP _ = _)
    have first := t.total_step key s move
    have later := ih (step s move)
    rw [split, Nat.cast_add]
    change t.total key (run (step s move) rest) = _
    linear_combination later + first

end Tally

/-- **No lookup is lost or counted twice.**  After every schedule, on any number of instances, the
lookups of a row in the table, in the live maps and in the maps being flushed add up to the
lookups that were answered for its key, source and generation on its day, and its misses to the
misses among them. -/
theorem usage_conserved [Fintype ι] (schedule : List (Step ι)) (key : UsageKey) :
    let s := run State.empty schedule
    lookups.total key s = (schedule.countP (Step.lookupOf key fun _ => true) : ℕ) ∧
      misses.total key s = (schedule.countP (Step.lookupOf key (· = .miss)) : ℕ) := by
  have start (t : Tally) : t.total key (State.empty : State ι) = 0 := by
    simp [Tally.total, Tally.held, Tally.row, State.empty]
  constructor
  · rw [Tally.total_run, start, zero_add]
    rfl
  · rw [Tally.total_run, start, zero_add]
    rfl

end Ssoossh.NSS.Usage
