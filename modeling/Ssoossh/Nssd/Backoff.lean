import Mathlib.Data.List.Infix
import Ssoossh.Nssd.Validate
import Ssoossh.Nssd.Latch

/-!
# The offline backoff

After a failure the client is offline, and its gate refuses every lookup for a while.  The
first wait is `offline_timeout`, and each failure that is recorded while the client is offline
doubles it, up to an hour.

An `Outage` is a run in which failures are all that is recorded.  Its periods of backoff are
kept beside it: a failure opens a period if the one before it is over, and otherwise falls into
that one and prolongs it.  The wait is a function of the failures since the outage began, not of
the periods: lookups that were let through together double it once each.  So the periods are the
ones of the documentation if every failure has a period of its own and the first wait is no
longer than the longest one.
-/

namespace Ssoossh.Nssd.Upstream

open Interleaving GoTime List

/-! ## Periods -/

/-- A period of backoff: its first and its last failure, when it ends, and how many failures
fell into it. -/
structure Period where
  start : Int
  last : Int
  ends : Int
  failures : Nat
deriving DecidableEq, Repr

/-- How long it lasts. -/
def Period.length (p : Period) : Int := p.ends - p.start

/-- A failure at `now` that puts the next lookup off until `retryAt`.  The newest period is the
first. -/
def note (now retryAt : Int) : List Period → List Period
  | [] => [⟨now, now, retryAt, 1⟩]
  | p :: earlier =>
    if p.ends ≤ now then ⟨now, now, retryAt, 1⟩ :: p :: earlier
    else { p with last := now, ends := retryAt, failures := p.failures + 1 } :: earlier

/-- All failures. -/
def failures (periods : List Period) : Nat := (periods.map Period.failures).sum

theorem failures_note (now retryAt : Int) (periods : List Period) :
    failures (note now retryAt periods) = failures periods + 1 := by
  cases periods with
  | nil => rfl
  | cons =>
    rw [note]
    split
    · simp only [failures, map_cons, sum_cons]
      omega
    · simp only [failures, map_cons, sum_cons]
      omega

variable {periods : List Period}

/-- The newest period is the one that the failure fell into, the others are as they were. -/
theorem exists_note (now retryAt : Int) (counted : ∀ p ∈ periods, 0 < p.failures) :
    ∃ p earlier, note now retryAt periods = p :: earlier ∧ earlier <:+ periods ∧ p.last = now ∧
      p.ends = retryAt ∧ 0 < p.failures ∧ (p.failures = 1 → p.last = p.start) := by
  cases periods with
  | nil => exact ⟨_, [], rfl, suffix_rfl, rfl, rfl, Nat.one_pos, fun _ => rfl⟩
  | cons p earlier =>
    rw [note]
    split
    · exact ⟨_, _, rfl, suffix_rfl, rfl, rfl, Nat.one_pos, fun _ => rfl⟩
    · have more := counted p mem_cons_self
      exact ⟨_, _, rfl, suffix_cons p earlier, rfl, rfl, Nat.succ_pos _,
        fun one => absurd one (by dsimp only; omega)⟩

/-- With one failure to each period there are as many of both. -/
theorem failures_eq_length (lone : ∀ p ∈ periods, p.failures = 1) :
    failures periods = periods.length := by
  induction periods with
  | nil => rfl
  | cons p earlier ih =>
    have rest := ih fun q mem => lone q (mem_cons_of_mem p mem)
    have one := lone p mem_cons_self
    simp only [failures, map_cons, sum_cons, length_cons] at rest ⊢
    omega

/-! ## Waits -/

section Waits

variable (cfg : Config)

/-- The wait after so many failures. -/
def waitAfter : Nat → Int
  | 0 => 0
  | 1 => cfg.offlineTimeout
  | count + 2 => min (wrapInt64 (2 * waitAfter (count + 1))) maxOfflineBackoff

/-- The length of a period with `earlier` ones before it, as documented. -/
def nominal (earlier : Nat) : Int :=
  min (cfg.offlineTimeout * 2 ^ earlier) (max maxOfflineBackoff cfg.offlineTimeout)

variable {cfg}

theorem nominal_pos (positive : 0 < cfg.offlineTimeout) (earlier : Nat) : 0 < nominal cfg earlier := by
  refine lt_min (Int.mul_pos positive (Int.pow_pos (by decide))) ?_
  exact lt_of_lt_of_le positive (le_max_right _ _)

theorem nominal_mono (positive : 0 < cfg.offlineTimeout) {earlier later : Nat} (le : earlier ≤ later) :
    nominal cfg earlier ≤ nominal cfg later := by
  refine min_le_min_right _ (Int.mul_le_mul_of_nonneg_left ?_ positive.le)
  exact_mod_cast Nat.pow_le_pow_right (by decide) le

/-- Doubling with a cap is a power of two with a cap, if the cap is not passed at once. -/
theorem waitAfter_eq_nominal (positive : 0 < cfg.offlineTimeout)
    (short : cfg.offlineTimeout ≤ maxOfflineBackoff) (count : Nat) :
    waitAfter cfg (count + 1) = nominal cfg count := by
  have cap : max maxOfflineBackoff cfg.offlineTimeout = maxOfflineBackoff := max_eq_left short
  induction count with
  | zero =>
    show cfg.offlineTimeout = nominal cfg 0
    rw [nominal, cap, Int.pow_zero, Int.mul_one, min_eq_left short]
  | succ count ih =>
    have above := nominal_pos positive count
    rw [waitAfter, ih]
    unfold nominal at above ⊢
    rw [cap] at above ⊢
    have unwrapped : wrapInt64 (2 * min (cfg.offlineTimeout * 2 ^ count) maxOfflineBackoff) =
        2 * min (cfg.offlineTimeout * 2 ^ count) maxOfflineBackoff := by
      have below := min_le_right (cfg.offlineTimeout * 2 ^ count) maxOfflineBackoff
      generalize min (cfg.offlineTimeout * 2 ^ count) maxOfflineBackoff = wait at above below
      have hour : maxOfflineBackoff = 3600000000000 := by decide
      refine wrapInt64_of_mem ?_ ?_
      · unfold minInt64
        omega
      · unfold maxInt64
        omega
    rw [unwrapped, Int.pow_succ, ← Int.mul_assoc]
    generalize cfg.offlineTimeout * 2 ^ count = doubled
    omega

/-- A first wait beyond the cap is cut by the second failure. -/
theorem waitAfter_two_lt (long : maxOfflineBackoff < cfg.offlineTimeout) :
    waitAfter cfg 2 < nominal cfg 1 := by
  have hour : maxOfflineBackoff = 3600000000000 := by decide
  have capped : waitAfter cfg 2 ≤ maxOfflineBackoff := min_le_right _ _
  have whole : nominal cfg 1 = cfg.offlineTimeout := by
    rw [nominal, max_eq_right long.le, Int.pow_one]
    exact min_eq_right (by omega)
  omega

end Waits

/-! ## Outages -/

/-- A step that records an outcome of a lookup, or forgets what was recorded. -/
def Act.records : Act → Bool
  | .online | .latch | .rateLimited _ | .fail _ | .reset => true
  | _ => false

/-- The periods after a step of an outage.  Nothing but failures is recorded. -/
def watch (lookups : Lookups) (label : Label Nat Choice Call) (next : Lookups)
    (periods : List Period) : Option (List Period) :=
  match label with
  | .spawn _ _ => some periods
  | .run tid _ =>
    match lookups.heads tid with
    | some (.fail _) => some (note next.shared.clock next.shared.client.retryAt periods)
    | some action => if action.records then none else some periods
    | none => some periods

/-- The runs in which every outcome is a failure, with their periods of backoff. -/
inductive Outage (cfg : Config) (first : Lookups) : List Period → Lookups → Prop
  | begun : Outage cfg first [] first
  | step {periods periods' : List Period} {lookups next : Lookups} {label : Label Nat Choice Call} :
      Outage cfg first periods lookups → (machine cfg).step lookups label = some next →
      watch lookups label next periods = some periods' → Outage cfg first periods' next

/-- What the client and the periods say of each other. -/
structure Timed (cfg : Config) (periods : List Period) (client : Client) : Prop where
  state : periods = [] ↔ client.state ≠ .offline
  wait : periods ≠ [] → client.backoff = waitAfter cfg (failures periods)
  counted : ∀ p ∈ periods, 0 < p.failures
  waits : ∀ p earlier, p :: earlier <:+ periods →
    p.ends = p.last + waitAfter cfg (failures (p :: earlier)) ∧ (p.failures = 1 → p.last = p.start)

section Steps

variable {cfg : Config} {periods : List Period} {client : Client}

/-- A failure, as the next entry of the history. -/
theorem Timed.fail (timed : Timed cfg periods client) (error : String) (now : Int) :
    Timed cfg (note now (client.fail cfg error now).retryAt periods) (client.fail cfg error now) := by
  have backoff : (client.fail cfg error now).backoff = waitAfter cfg (failures periods + 1) := by
    cases periods with
    | nil => exact if_neg (timed.state.mp rfl)
    | cons p earlier =>
      have offline : client.state = .offline := by
        by_contra other
        exact absurd (timed.state.mpr other) (cons_ne_nil p earlier)
      have some' : 0 < failures (p :: earlier) := by
        have := timed.counted p mem_cons_self
        simp only [failures, map_cons, sum_cons]
        omega
      obtain ⟨count, more⟩ := Nat.exists_eq_add_of_lt some'
      rw [Nat.zero_add] at more
      have wait := timed.wait (cons_ne_nil p earlier)
      rw [more] at wait ⊢
      show (if client.state = .offline then min (wrapInt64 (2 * client.backoff)) maxOfflineBackoff
        else cfg.offlineTimeout) = _
      rw [if_pos offline, wait, waitAfter]
  have due : (client.fail cfg error now).retryAt = now + waitAfter cfg (failures periods + 1) := by
    rw [← backoff]
    rfl
  obtain ⟨p, earlier, noted, suffix, last, ends, positive, one⟩ :=
    exists_note now (client.fail cfg error now).retryAt timed.counted
  have total := failures_note now (client.fail cfg error now).retryAt periods
  rw [noted] at total ⊢
  refine ⟨⟨nofun, fun other => (other rfl).elim⟩, fun _ => ?_, ?_, fun q before older => ?_⟩
  · rw [backoff, total]
  · exact forall_mem_cons.mpr ⟨positive, fun q mem => timed.counted q (suffix.subset mem)⟩
  · rcases suffix_cons_iff.mp older with same | older
    · obtain ⟨rfl, rfl⟩ := List.cons.inj same
      exact ⟨by rw [total, ends, last, due], one⟩
    · exact timed.waits q before (older.trans suffix)

/-- The periods depend on two fields of the client. -/
theorem Timed.of_same {client' : Client} (timed : Timed cfg periods client)
    (state : client'.state = .offline ↔ client.state = .offline)
    (backoff : client'.backoff = client.backoff) : Timed cfg periods client' where
  state := timed.state.trans (not_congr state.symm)
  wait := fun some' => backoff.trans (timed.wait some')
  counted := timed.counted
  waits := timed.waits

theorem Client.backoff_noticeKey (file : KeyFile) :
    (client.noticeKey file).1.backoff = client.backoff := by
  have kept : (client.reloadKey file false).1.backoff = client.backoff := by
    unfold Client.reloadKey
    split
    · rfl
    · dsimp only
      split <;> rfl
  unfold Client.noticeKey
  generalize client.reloadKey file false = reloaded at kept ⊢
  dsimp only
  split
  · exact kept
  · exact kept

theorem Client.backoff_gate (file : KeyFile) (now : Int) :
    (client.gate file now).1.backoff = client.backoff := by
  have kept : ((client.noticeKey file).1.judge now).1.backoff = (client.noticeKey file).1.backoff := by
    unfold Client.judge
    repeat' split
    all_goals rfl
  exact kept.trans (Client.backoff_noticeKey file)

/-- What a step that records nothing does to the periods. -/
theorem Timed.quiet {s : State} (timed : Timed cfg periods s.client) (choice : Choice) {action : Act}
    (quiet : action.records = false) :
    Timed cfg periods (execute cfg (s.pass choice) choice action).1.client := by
  cases action with
  | gate =>
    refine timed.of_same ?_ (Client.backoff_gate _ _)
    show (s.client.gate (s.pass choice).file (s.pass choice).clock).1.state = .offline ↔ _
    rw [Client.state_gate]
    split
    · next cleared => simp [cleared.2]
    · rfl
  | acquire =>
    show Timed cfg periods (if (s.pass choice).slots < maxInFlight then _ else (s.pass choice, false)).1.client
    split
    · exact timed
    · exact timed
  | clientFor =>
    unfold execute
    dsimp only
    split
    · exact timed
    · split
      · exact timed
      · exact timed.of_same Iff.rfl rfl
  | retire client =>
    show Timed cfg periods (s.client.retire client)
    unfold Client.retire
    split
    · exact timed.of_same Iff.rfl rfl
    · exact timed
  | call | expired | sleep | callerGone | release => exact timed
  | online | latch | rateLimited | fail | reset => cases quiet

/-- **What one step of an outage does to the periods.** -/
theorem Timed.step {periods' : List Period} {lookups next : Lookups} {label : Label Nat Choice Call}
    (timed : Timed cfg periods lookups.shared.client)
    (stepped : (machine cfg).step lookups label = some next)
    (watched : watch lookups label next periods = some periods') :
    Timed cfg periods' next.shared.client := by
  rcases Machine.step_cases _ stepped with ⟨tid, call, rfl, -, rfl⟩ |
    ⟨tid, choice, thread, call, rfl, present, ended, rfl⟩ |
    ⟨tid, choice, thread, action, rest, shared, answer, rfl, present, atAction, done, rfl⟩
  · obtain rfl := Option.some.inj watched
    exact timed
  · have head : lookups.heads tid = none := by
      rw [Config.heads, present, Option.bind_some, ended]
      rfl
    rw [watch, head] at watched
    obtain rfl := Option.some.inj watched
    exact timed
  · have head : lookups.heads tid = some action := by
      rw [Config.heads, present, Option.bind_some, atAction]
      rfl
    obtain rfl : (execute cfg (lookups.shared.pass choice) choice action).1 = shared :=
      congrArg Prod.fst (Option.some.inj done)
    cases records : action.records with
    | false =>
      have unchanged : periods = periods' := by
        rw [watch, head] at watched
        cases action with
        | fail => cases records
        | _ => simpa [records] using watched
      exact unchanged ▸ timed.quiet choice records
    | true =>
      rw [watch, head] at watched
      cases action with
      | fail error =>
        obtain rfl := Option.some.inj watched
        exact timed.fail error _
      | _ => simp [records] at watched

/-- In an outage the wait is a function of the failures. -/
theorem Outage.timed {first reached : Lookups} (outage : Outage cfg first periods reached)
    (before : first.shared.client.state ≠ .offline) : Timed cfg periods reached.shared.client := by
  induction outage with
  | begun => exact ⟨⟨fun _ => before, fun _ => rfl⟩, nofun, nofun, fun p earlier suffix => nomatch suffix_nil.mp suffix⟩
  | step _ stepped watched ih => exact ih.step stepped watched

end Steps

/-! ## Documented periods -/

/-- Each period is as long as documented, and none is shorter than an earlier one. -/
def Documented (cfg : Config) (periods : List Period) : Prop :=
  (∀ p earlier, p :: earlier <:+ periods → p.length = nominal cfg earlier.length) ∧
    periods.Pairwise fun p q => q.length ≤ p.length

variable {cfg : Config}

/-- With one failure to each period, a period is as long as the wait after so many failures. -/
theorem Timed.length_of_lone {client : Client} (timed : Timed cfg periods client)
    (lone : ∀ p ∈ periods, p.failures = 1) {p : Period} {earlier : List Period}
    (suffix : p :: earlier <:+ periods) : p.length = waitAfter cfg (earlier.length + 1) := by
  obtain ⟨ends, last⟩ := timed.waits p earlier suffix
  have alone : failures (p :: earlier) = earlier.length + 1 :=
    failures_eq_length fun q mem => lone q (suffix.subset mem)
  rw [Period.length, ends, last (lone p (suffix.subset mem_cons_self)), alone]
  omega

/-- Lengths that grow with the number of earlier periods. -/
theorem pairwise_length (positive : 0 < cfg.offlineTimeout)
    (lengths : ∀ p earlier, p :: earlier <:+ periods → p.length = nominal cfg earlier.length) :
    periods.Pairwise fun p q => q.length ≤ p.length := by
  induction periods with
  | nil => exact List.Pairwise.nil
  | cons p earlier ih =>
    refine pairwise_cons.mpr ⟨fun q mem => ?_, ih fun q before suffix =>
      lengths q before (suffix.trans (suffix_cons p earlier))⟩
    obtain ⟨between, before, split⟩ := append_of_mem mem
    have older : q :: before <:+ p :: earlier := ⟨p :: between, by rw [split]; rfl⟩
    rw [lengths p earlier suffix_rfl, lengths q before older, split]
    refine nominal_mono positive ?_
    rw [length_append, length_cons]
    omega

/-- **The backoff counts failures.**  In every outage, each period ends when the wait after all
failures so far has passed since its last failure.  So with one failure to each period the periods
are the documented ones exactly if the first wait is not longer than the longest, or the outage has
no second period. -/
theorem backoff_counts_failures (cfg : Config) (valid : cfg.Valid) (first reached : Lookups)
    (before : first.shared.client.state ≠ .offline) (periods : List Period)
    (outage : Outage cfg first periods reached) :
    (∀ p earlier, p :: earlier <:+ periods →
        p.ends = p.last + waitAfter cfg (failures (p :: earlier))) ∧
      ((∀ p ∈ periods, p.failures = 1) →
        (Documented cfg periods ↔ cfg.offlineTimeout ≤ maxOfflineBackoff ∨ periods.length ≤ 1)) := by
  have timed := outage.timed before
  have positive := valid.offlineTimeout_pos
  refine ⟨fun p earlier suffix => (timed.waits p earlier suffix).1, fun lone => ⟨?_, ?_⟩⟩
  · rintro ⟨lengths, -⟩
    by_contra neither
    rw [not_or, not_le, not_le] at neither
    obtain ⟨long, more⟩ := neither
    -- the second period from the end of the list is the second one of the outage
    obtain ⟨later, p, q, rfl⟩ : ∃ later p q, periods = later ++ [p, q] := by
      have split := take_append_drop (periods.length - 2) periods
      have two : (periods.drop (periods.length - 2)).length = 2 := by
        rw [length_drop]
        omega
      obtain ⟨p, q, both⟩ := length_eq_two.mp two
      exact ⟨_, p, q, (both ▸ split).symm⟩
    have suffix : [p, q] <:+ later ++ [p, q] := suffix_append later [p, q]
    have actual := timed.length_of_lone lone suffix
    have documented := lengths p [q] suffix
    have shorter : waitAfter cfg 2 < nominal cfg 1 := waitAfter_two_lt long
    exact absurd (actual.symm.trans documented) shorter.ne
  · intro fits
    have lengths : ∀ p earlier, p :: earlier <:+ periods → p.length = nominal cfg earlier.length := by
      intro p earlier suffix
      rw [timed.length_of_lone lone suffix]
      rcases fits with short | single
      · exact waitAfter_eq_nominal positive short _
      · have none : earlier = [] := by
          have := suffix.length_le
          rw [length_cons] at this
          exact length_eq_zero_iff.mp (by omega)
        subst none
        show cfg.offlineTimeout = nominal cfg 0
        rw [nominal, Int.pow_zero, Int.mul_one, min_eq_left (le_max_right _ _)]
    exact ⟨lengths, pairwise_length positive lengths⟩

/-- The outage that a list of steps makes. -/
def observe (cfg : Config) : List (Label Nat Choice Call) → List Period → Lookups →
    Option (List Period × Lookups)
  | [], periods, lookups => some (periods, lookups)
  | label :: labels, periods, lookups => do
    let next ← (machine cfg).step lookups label
    let periods ← watch lookups label next periods
    observe cfg labels periods next

theorem Outage.of_observe {first lookups reached : Lookups} {periods' : List Period}
    {labels : List (Label Nat Choice Call)} (outage : Outage cfg first periods lookups)
    (observed : observe cfg labels periods lookups = some (periods', reached)) :
    Outage cfg first periods' reached := by
  induction labels generalizing periods lookups with
  | nil =>
    cases observed
    exact outage
  | cons label labels ih =>
    obtain ⟨next, stepped, rest⟩ := Option.bind_eq_some_iff.mp observed
    obtain ⟨noted, watched, rest⟩ := Option.bind_eq_some_iff.mp rest
    exact ih (outage.step stepped watched) rest

namespace Sample

/-- A lookup up to the server's answer, which is no use. -/
def sent (tid elapsed : Nat) : List (Label Nat Choice Call) :=
  .spawn tid .lookup ::
    [{ elapsed }, quiet, quiet, reply (.status "502")].map (.run tid)

/-- Its failure is recorded. -/
def failing (tid : Nat) : List (Label Nat Choice Call) := [.run tid quiet, .run tid quiet, .run tid quiet]

/-- Two lookups, the second one when the backoff of the first is over. -/
def apart (elapsed : Nat) : List (Label Nat Choice Call) :=
  sent 0 0 ++ failing 0 ++ sent 1 elapsed ++ failing 1

/-- Two lookups that are sent before the first failure. -/
def together : List (Label Nat Choice Call) := sent 0 0 ++ sent 1 0 ++ failing 0 ++ failing 1

/-- A wait of two hours after the first failure. -/
def patient : Config := { offlineTimeout := 120 * Duration.minute }

/-- The outage that the steps make, if they can be taken. -/
theorem outage_of_observe {cfg : Config} (labels : List (Label Nat Choice Call)) {periods : List Period}
    (observed : (observe cfg labels [] fresh).map Prod.fst = some periods) :
    ∃ reached, Outage cfg fresh periods reached := by
  obtain ⟨⟨noted, reached⟩, run, rfl⟩ := Option.map_eq_some_iff.mp observed
  exact ⟨reached, Outage.begun.of_observe run⟩

end Sample

open Upstream.Sample in
/-- Two lookups apart double the wait once. -/
theorem backoff_counts_failures_apart : let minute := Duration.minute
    let periods : List Period := [⟨minute, minute, 3 * minute, 1⟩, ⟨0, 0, minute, 1⟩]
    ∃ reached, Outage {} fresh periods reached ∧ Documented {} periods := by
  intro minute periods
  obtain ⟨reached, outage⟩ : ∃ reached, Outage {} fresh periods reached :=
    outage_of_observe (apart 60000000000) (by decide +kernel)
  have counts := backoff_counts_failures {} (by decide +kernel) fresh reached (by decide) periods outage
  exact ⟨reached, outage, (counts.2 (by decide)).mpr (.inl (by decide))⟩

open Upstream.Sample in
/-- Two lookups that fail together make the first period twice as long as documented.  And with a
first wait of two hours the second period is one hour long. -/
theorem backoff_off_documented : let hour := 60 * Duration.minute
    let first : List Period := [⟨0, 0, 2 * Duration.minute, 2⟩]
    let second : List Period := [⟨2 * hour, 2 * hour, 3 * hour, 1⟩, ⟨0, 0, 2 * hour, 1⟩]
    (Config.Valid {} ∧ (∃ reached, Outage {} fresh first reached) ∧ ¬ Documented {} first) ∧
      patient.Valid ∧ (∃ reached, Outage patient fresh second reached) ∧ ¬ Documented patient second := by
  intro hour first second
  refine ⟨⟨by decide +kernel, outage_of_observe together (by decide +kernel), ?_⟩,
    by decide +kernel, outage_of_observe (apart 7200000000000) (by decide +kernel), ?_⟩
  · rintro ⟨lengths, -⟩
    exact absurd (lengths _ [] suffix_rfl) (by decide)
  · rintro ⟨lengths, -⟩
    exact absurd (lengths _ _ suffix_rfl) (by decide)

end Ssoossh.Nssd.Upstream
