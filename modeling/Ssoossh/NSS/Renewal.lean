import Mathlib
import Ssoossh.NSS.KeyLifecycle

/-!
# The lifetime of a fleet key

A key does not store how long it lives.  Every rotation derives that again from the expiry
and the start that the rotation before it wrote, and bounds it by `nss.key_max_lifetime`
as it is by then.

**A rotation takes the minimum** of the lifetime so far and the limit (`lifetime_rotated`),
with no expiry and no limit as the top element, so that a sequence of rotations takes the
minimum of all of them.  The one thing that can go wrong is the difference of two times,
which saturates at the largest `time.Duration`, some 292 years: a longer lifetime, which
`Create` accepts where there is no limit, is cut to that by its first rotation.

## Main definitions

* `NSSKey.issuedAt`, `NSSKey.lifetime`: when a key was last issued, and for how long.
* `Rotation`, `NSSKeyService.renewals`: rotations one after another, each under its own limit.
* `Renewed`: what the rotations were to make of a key.
-/

namespace Ssoossh.NSS

open Relational GoTime Fallible

/-! ## Lifetimes -/

namespace NSSKey

/-- When a key was last issued: at its last rotation, or at its creation. -/
def issuedAt (key : NSSKey) : Int := key.rotatedAt.getD key.createdAt

/-- For how long a key was last issued, with the top element for a key that does not
expire. -/
def lifetime (key : NSSKey) : WithTop Int :=
  match key.expiresAt with
  | none => ⊤
  | some expires => ((expires - key.issuedAt : Int) : WithTop Int)

/-- The lifetime of a key is positive, and a `time.Duration` can hold it. -/
def Spans (key : NSSKey) : Prop :=
  ∀ expires, key.expiresAt = some expires →
    key.issuedAt < expires ∧ expires - key.issuedAt ≤ maxInt64

variable {key : NSSKey} {expires : Int}

theorem lifetime_of_none (forever : key.expiresAt = none) : key.lifetime = ⊤ := by
  rw [lifetime, forever]

theorem lifetime_of_some (ends : key.expiresAt = some expires) :
    key.lifetime = ((expires - key.issuedAt : Int) : WithTop Int) := by
  rw [lifetime, ends]

/-- A bound on the lifetime is one on the expiry. -/
theorem lifetime_le_coe_iff {bound : Int} (ends : key.expiresAt = some expires) :
    key.lifetime ≤ (bound : WithTop Int) ↔ expires ≤ key.issuedAt + bound := by
  rw [lifetime_of_some ends, WithTop.coe_le_coe, sub_le_iff_le_add']

end NSSKey

/-- A value of `nss.key_max_lifetime`. -/
abbrev Limit := { limit : Int // Duration.Fits limit }

/-- The bound a limit sets.  Only a positive one does. -/
def ceiling (limit : Int) : WithTop Int := if 0 < limit then (limit : WithTop Int) else ⊤

theorem ceiling_of_pos {limit : Int} (positive : 0 < limit) : ceiling limit = (limit : WithTop Int) :=
  if_pos positive

theorem ceiling_of_nonpos {limit : Int} (none : ¬ 0 < limit) : ceiling limit = ⊤ :=
  if_neg none

namespace NSSKeyService

variable {s : NSSKeyService} {key : NSSKey} {now expires : Int} {token : String}

/-- A rotation issues the key now. -/
theorem issuedAt_rotated : (s.rotated now token key).issuedAt = now := rfl

/-- The expiry a rotation sets on a key that had one, where the difference of the times is
their difference. -/
theorem renewedExpiry_of_some (spans : key.Spans) (ends : key.expiresAt = some expires) :
    s.renewedExpiry key now = some (now +
      if 0 < s.keyMaxLifetime ∧ s.keyMaxLifetime < expires - key.issuedAt then s.keyMaxLifetime
      else expires - key.issuedAt) := by
  obtain ⟨later, representable⟩ := spans expires ends
  have difference : Time.sub expires (key.rotatedAt.getD key.createdAt) = expires - key.issuedAt :=
    Time.sub_of_mem (by unfold minInt64; unfold NSSKey.issuedAt at later; omega) representable
  have positive : ¬ expires - key.issuedAt ≤ 0 := by omega
  unfold renewedExpiry
  rw [ends]
  simp only [difference, positive, false_or]
  split_ifs with trimmed negative
  · omega
  · rfl
  · rfl

/-- **A rotation takes the minimum** of the lifetime so far and the limit. -/
theorem lifetime_rotated (spans : key.Spans) :
    (s.rotated now token key).lifetime = min key.lifetime (ceiling s.keyMaxLifetime) := by
  by_cases limited : 0 < s.keyMaxLifetime
  · rw [ceiling_of_pos limited]
    cases ends : key.expiresAt with
    | none =>
      have renewed : (s.rotated now token key).expiresAt = some (now + s.keyMaxLifetime) := by
        show s.renewedExpiry key now = _
        unfold renewedExpiry
        rw [ends]
        exact if_neg (by omega)
      rw [NSSKey.lifetime_of_some renewed, NSSKey.lifetime_of_none ends, issuedAt_rotated,
        min_eq_right le_top, add_sub_cancel_left]
    | some =>
      rw [NSSKey.lifetime_of_some (renewedExpiry_of_some spans ends), issuedAt_rotated,
        add_sub_cancel_left, NSSKey.lifetime_of_some ends, ← WithTop.coe_min]
      congr 1
      split_ifs with longer
      · omega
      · omega
  · rw [ceiling_of_nonpos limited, min_eq_left le_top]
    cases ends : key.expiresAt with
    | none =>
      have renewed : (s.rotated now token key).expiresAt = none := by
        show s.renewedExpiry key now = _
        unfold renewedExpiry
        rw [ends]
        exact if_pos (by omega)
      rw [NSSKey.lifetime_of_none renewed, NSSKey.lifetime_of_none ends]
    | some =>
      rw [NSSKey.lifetime_of_some (renewedExpiry_of_some spans ends), issuedAt_rotated,
        add_sub_cancel_left, NSSKey.lifetime_of_some ends]
      exact congrArg _ (if_neg fun both => limited both.1)

/-- A rotation leaves the lifetime positive and within a `time.Duration`. -/
theorem spans_rotated (fits : Duration.Fits s.keyMaxLifetime) (spans : key.Spans) :
    (s.rotated now token key).Spans := by
  intro renewed ends
  rw [issuedAt_rotated]
  have shown : s.renewedExpiry key now = some renewed := ends
  cases old : key.expiresAt with
  | none =>
    unfold renewedExpiry at shown
    rw [old] at shown
    have bound := fits.2
    simp only [Time.add, Option.ite_none_left_eq_some, Option.some.injEq] at shown
    omega
  | some expires =>
    obtain ⟨later, representable⟩ := spans expires old
    rw [renewedExpiry_of_some spans old, Option.some.injEq] at shown
    split_ifs at shown with longer
    · omega
    · omega

/-- Without a limit a lifetime that no `time.Duration` holds is cut to the largest one. -/
theorem lifetime_rotated_of_long (unlimited : s.keyMaxLifetime ≤ 0)
    (ends : key.expiresAt = some expires) (long : maxInt64 < expires - key.issuedAt) :
    (s.rotated now token key).lifetime = ((maxInt64 : Int) : WithTop Int) := by
  have difference : Time.sub expires (key.rotatedAt.getD key.createdAt) = maxInt64 := by
    unfold Time.sub minInt64
    unfold maxInt64 NSSKey.issuedAt at *
    omega
  have renewed : (s.rotated now token key).expiresAt = some (now + maxInt64) := by
    show s.renewedExpiry key now = _
    unfold renewedExpiry
    rw [ends]
    have untrimmed : ¬ (0 < s.keyMaxLifetime ∧ (maxInt64 ≤ 0 ∨ s.keyMaxLifetime < maxInt64)) :=
      fun trimmed => absurd trimmed.1 (not_lt.mpr unlimited)
    simp only [difference, if_neg untrimmed]
    exact if_neg (by decide)
  rw [NSSKey.lifetime_of_some renewed, issuedAt_rotated, add_sub_cancel_left]

variable {keys next : NSSKeys} {caller : Caller} {id : String}

/-- The row after a rotation. -/
theorem find?_of_rotate (found : keys.find? id = some key)
    (rotates : s.rotate keys now caller id token = .ok next) :
    next.find? id = some (s.rotated now token key) := by
  simp only [rotate, bind_eq_ok, pure_eq_ok] at rotates
  obtain ⟨loaded, -, rfl⟩ := rotates
  refine (find?_store keys id (s.rotated now token) (fun _ => rfl) id).trans ?_
  rw [if_pos rfl, found]
  rfl

/-! ## Creation -/

/-- What `Create` makes of the date it was asked for. -/
theorem expiry_of_create {input : NSSKeyCreate} {ids : List String} {row : NSSKey}
    (made : s.create keys now caller input token ids = .ok (next, row)) :
    s.keyExpiry input.expiresAt now = .ok row.expiresAt ∧ row.createdAt = now ∧
      row.rotatedAt = none ∧ s.admin.grantsNSSKeyAdmin caller.groups = true ∧
      ∃ user, caller.user = some user := by
  simp only [create, throw_bind, bind_eq_ok, ite_throw_eq_ok] at made
  obtain ⟨admin, user, resolved, name, -, description, -, group, -, expires, dated, email, -, made⟩ :=
    made
  obtain ⟨-, shape⟩ := insert_of_insertWithFreshID made
  rw [shape]
  refine ⟨dated, rfl, rfl, by simpa using admin, ?_⟩
  unfold resolveActor at resolved
  split at resolved
  · cases resolved
  · exact ⟨_, ‹_›⟩

/-- A date that is accepted is in the future and under the limit. -/
theorem keyExpiry_eq_ok {asked given : Option Int}
    (accepted : s.keyExpiry asked now = .ok given) (expires : Int) (ends : given = some expires) :
    now < expires ∧ (0 < s.keyMaxLifetime → expires ≤ now + s.keyMaxLifetime) ∧
      (s.keyMaxLifetime ≤ 0 → asked = some expires) := by
  subst ends
  unfold keyExpiry at accepted
  split at accepted
  · cases accepted
  · rename_i future
    split at accepted
    · rename_i unlimited
      cases accepted
      refine ⟨by simpa using future, fun limited => absurd limited (by omega), fun _ => rfl⟩
    · rename_i limited
      cases asked with
      | none =>
        simp only [Except.ok.injEq, Option.some.injEq, Time.add] at accepted
        refine ⟨by omega, fun _ => by omega, fun unlimited => absurd unlimited limited⟩
      | some at' =>
        simp only [Option.any_some, Bool.not_eq_true', Time.after_iff,
          Except.ok.injEq, Option.some.injEq, Time.add] at accepted future
        have later : now < at' := by simpa using future
        split_ifs at accepted with trimmed
        · refine ⟨by omega, fun _ => by omega, fun unlimited => absurd unlimited limited⟩
        · refine ⟨by omega, fun _ => by omega, fun unlimited => absurd unlimited limited⟩

end NSSKeyService

/-! ## Rotations one after another -/

/-- A call of `Rotate`, and the limit that is configured by then. -/
structure Rotation where
  limit : Limit
  now : Int
  caller : Caller
  token : String

/-- The table, and the rotations of one key that succeeded, the latest first. -/
structure Renewals where
  keys : NSSKeys
  performed : List Rotation

namespace NSSKeyService

/-- The service under a limit. -/
def limited (s : NSSKeyService) (limit : Limit) : NSSKeyService :=
  { s with keyMaxLifetime := limit.1 }

/-- One rotation.  One that is refused changes nothing. -/
def renew (s : NSSKeyService) (id : String) (state : Renewals) (r : Rotation) : Renewals :=
  match (s.limited r.limit).rotate state.keys r.now r.caller id r.token with
  | .ok keys => ⟨keys, r :: state.performed⟩
  | .error _ => state

/-- The rotations of a key, one after another. -/
def renewals (s : NSSKeyService) (id : String) (keys : NSSKeys) (rotations : List Rotation) :
    Renewals :=
  rotations.foldl (s.renew id) ⟨keys, []⟩

end NSSKeyService

/-- The limit under which a key was last issued. -/
def limitInForce (first : Limit) (performed : List Rotation) : Int :=
  ((performed.head?.map Rotation.limit).getD first).1

/-- The least of the lifetime given at creation and the limits of the rotations. -/
def lowest (given : WithTop Int) (performed : List Rotation) : WithTop Int :=
  performed.foldr (fun r least => min least (ceiling r.limit.1)) given

/-- **What the rotations were to make of a key** that was made under a limit. -/
structure Renewed (first : Limit) (made : NSSKey) (performed : List Rotation) (key : NSSKey) :
    Prop where
  /-- It was last issued by the latest rotation. -/
  issued : key.issuedAt = (performed.head?.map Rotation.now).getD made.createdAt
  /-- Under a constant limit it is issued for the lifetime given at creation. -/
  same : (∀ r ∈ performed, r.limit = first) → key.lifetime = made.lifetime
  /-- It expires after it was issued ... -/
  later : ∀ expires, key.expiresAt = some expires → key.issuedAt < expires
  /-- ... and no later than the limit allows. -/
  bounded : 0 < limitInForce first performed →
    ∃ expires, key.expiresAt = some expires ∧
      expires ≤ key.issuedAt + limitInForce first performed
  /-- Its lifetime is the least seen so far. -/
  least : key.lifetime = lowest made.lifetime performed

variable {first : Limit} {made key : NSSKey} {performed : List Rotation}

/-- What one rotation after another keeps, and what `Renewed` follows from. -/
structure Renewing (first : Limit) (made : NSSKey) (performed : List Rotation) (key : NSSKey) :
    Prop where
  issued : key.issuedAt = (performed.head?.map Rotation.now).getD made.createdAt
  spans : key.Spans
  bounded : key.lifetime ≤ ceiling (limitInForce first performed)
  least : key.lifetime = lowest made.lifetime performed

namespace Renewing

/-- The step: a rotation that succeeds. -/
theorem rotated {s : NSSKeyService} (renewing : Renewing first made performed key) (r : Rotation) :
    Renewing first made (r :: performed) ((s.limited r.limit).rotated r.now r.token key) where
  issued := rfl
  spans := NSSKeyService.spans_rotated r.limit.2 renewing.spans
  bounded := by
    rw [NSSKeyService.lifetime_rotated renewing.spans]
    exact min_le_right _ _
  least := by
    rw [NSSKeyService.lifetime_rotated renewing.spans, renewing.least]
    rfl

/-- Under a constant limit the least is what was given at creation. -/
theorem lowest_of_constant (under : made.lifetime ≤ ceiling first.1)
    (constant : ∀ r ∈ performed, r.limit = first) : lowest made.lifetime performed = made.lifetime := by
  induction performed with
  | nil => rfl
  | cons r performed ih =>
    have earlier := ih fun r' member => constant r' (List.mem_cons_of_mem r member)
    show min (lowest made.lifetime performed) (ceiling r.limit.1) = made.lifetime
    rw [earlier, constant r List.mem_cons_self]
    exact min_eq_left under

theorem renewed (under : made.lifetime ≤ ceiling first.1)
    (renewing : Renewing first made performed key) : Renewed first made performed key where
  issued := renewing.issued
  same := fun constant => renewing.least.trans (lowest_of_constant under constant)
  later := fun expires ends => (renewing.spans expires ends).1
  bounded := by
    intro positive
    have bounded := renewing.bounded
    rw [ceiling_of_pos positive] at bounded
    cases ends : key.expiresAt with
    | none =>
      rw [NSSKey.lifetime_of_none ends] at bounded
      exact absurd bounded (not_le.mpr (WithTop.coe_lt_top _))
    | some expires => exact ⟨expires, rfl, (NSSKey.lifetime_le_coe_iff ends).mp bounded⟩
  least := renewing.least

end Renewing

/-- The run: the row of the key is there after any rotations, and keeps what a rotation
keeps. -/
theorem renewing_foldl (s : NSSKeyService) (id : String) (rotations : List Rotation) :
    ∀ state : Renewals,
      (∃ key, state.keys.find? id = some key ∧ Renewing first made state.performed key) →
      ∃ key, (rotations.foldl (s.renew id) state).keys.find? id = some key ∧
        Renewing first made (rotations.foldl (s.renew id) state).performed key := by
  induction rotations with
  | nil => exact fun _ held => held
  | cons r rotations ih =>
    intro state held
    apply ih
    obtain ⟨key, found, renewing⟩ := held
    unfold NSSKeyService.renew
    split
    · rename_i keys rotates
      exact ⟨_, NSSKeyService.find?_of_rotate found rotates, renewing.rotated r⟩
    · exact ⟨key, found, renewing⟩

/-! ## The lifetime of a created key -/

variable {s : NSSKeyService} {keys next : NSSKeys} {now : Int} {caller : Caller}
  {input : NSSKeyService.NSSKeyCreate} {token : String} {ids : List String}

section

variable (created : (s.limited first).create keys now caller input token ids = .ok (next, made))
include created

/-- A new key is issued at its creation, under the limit. -/
theorem renewing_of_create
    (short : first.1 ≤ 0 → ∀ asked, input.expiresAt = some asked → asked - now ≤ maxInt64) :
    Renewing first made [] made ∧ made.lifetime ≤ ceiling first.1 := by
  obtain ⟨dated, createdNow, fresh, -⟩ := NSSKeyService.expiry_of_create created
  have issued : made.issuedAt = now := by rw [NSSKey.issuedAt, fresh, ← createdNow]; rfl
  have accepted := NSSKeyService.keyExpiry_eq_ok dated
  have under : made.lifetime ≤ ceiling first.1 := by
    by_cases positive : 0 < first.1
    · rw [ceiling_of_pos positive]
      cases ends : made.expiresAt with
      | none =>
        -- With a limit no key is made without an expiry.
        rw [ends] at dated
        unfold NSSKeyService.keyExpiry at dated
        rw [if_neg (show ¬ (s.limited first).keyMaxLifetime ≤ 0 from not_le.mpr positive)] at dated
        split at dated
        · cases dated
        · split at dated <;> cases dated
      | some expires =>
        rw [NSSKey.lifetime_le_coe_iff ends, issued]
        exact (accepted expires ends).2.1 positive
    · rw [ceiling_of_nonpos positive]
      exact le_top
  refine ⟨⟨?_, ?_, under, rfl⟩, under⟩
  · rw [issued, createdNow]
    rfl
  · intro expires ends
    obtain ⟨later, limited, unlimited⟩ := accepted expires ends
    rw [issued]
    refine ⟨later, ?_⟩
    by_cases positive : 0 < first.1
    · have bound := limited positive
      have fits := first.2.2
      have same : (s.limited first).keyMaxLifetime = first.1 := rfl
      omega
    · exact short (not_lt.mp positive) expires (unlimited (not_lt.mp positive))

/-- The key admin who made a key may rotate it. -/
theorem rotate_of_create (later : Int) :
    ∃ keys', (s.limited first).rotate next later caller made.id token = .ok keys' := by
  obtain ⟨inserted, -, -, -, -, live⟩ := NSSKeyService.create_eq_ok created
  obtain ⟨-, -, -, admin, user, resolved⟩ := NSSKeyService.expiry_of_create created
  have found : next.find? made.id = some made := by
    rw [Table.find?_insert inserted, if_pos rfl]
  simp [NSSKeyService.rotate, NSSKeyService.mutate, NSSKeyService.load, found, live, resolveActor,
    resolved, NSSKeyService.permissions, admin, NSSKeyService.checkPermissions]

/-- **Rotations renew a key for the lifetime it was made with**, and for no longer than any
limit since, exactly if that lifetime is one a `time.Duration` holds.  Under a limit it
always is.  Without one it is the date asked for that decides. -/
theorem rotation_renews_iff :
    (∀ rotations : List Rotation, (now :: rotations.map Rotation.now).Pairwise (· < ·) →
      ∃ key, (s.renewals made.id next rotations).keys.find? made.id = some key ∧
        Renewed first made (s.renewals made.id next rotations).performed key) ↔
      (first.1 ≤ 0 → ∀ asked, input.expiresAt = some asked → asked - now ≤ maxInt64) := by
  obtain ⟨inserted, -⟩ := NSSKeyService.create_eq_ok created
  have found : next.find? made.id = some made := by rw [Table.find?_insert inserted, if_pos rfl]
  constructor
  · -- One rotation, by the key admin who made the key, shows a lifetime that is too long.
    intro renews unlimited asked dated
    by_contra long
    obtain ⟨given, createdNow, fresh, -⟩ := NSSKeyService.expiry_of_create created
    have issued : made.issuedAt = now := by rw [NSSKey.issuedAt, fresh, ← createdNow]; rfl
    have ends : made.expiresAt = some asked := by
      rw [dated] at given
      cases expiry : made.expiresAt with
      | none =>
        rw [expiry] at given
        unfold NSSKeyService.keyExpiry at given
        rw [if_pos (show (s.limited first).keyMaxLifetime ≤ 0 from unlimited)] at given
        split at given <;> cases given
      | some expires =>
        exact ((NSSKeyService.keyExpiry_eq_ok (expiry ▸ given) expires rfl).2.2 unlimited).symm
    obtain ⟨key, stored, renewed⟩ := renews [⟨first, now + 1, caller, token⟩] (by simp)
    obtain ⟨after, rotates⟩ := rotate_of_create created (now + 1)
    have step : s.renewals made.id next [⟨first, now + 1, caller, token⟩] =
        ⟨after, [⟨first, now + 1, caller, token⟩]⟩ := by
      simp only [NSSKeyService.renewals, List.foldl_cons, List.foldl_nil, NSSKeyService.renew,
        rotates]
    rw [step] at stored renewed
    cases stored.symm.trans (NSSKeyService.find?_of_rotate found rotates)
    have same := renewed.same (by simp)
    rw [NSSKeyService.lifetime_rotated_of_long unlimited ends (by omega),
      NSSKey.lifetime_of_some ends, WithTop.coe_inj] at same
    omega
  · intro short rotations _
    obtain ⟨renewing, under⟩ := renewing_of_create created short
    obtain ⟨key, stored, kept⟩ :=
      renewing_foldl s made.id rotations ⟨next, []⟩ ⟨made, found, renewing⟩
    exact ⟨key, stored, kept.renewed under⟩

end

namespace Sample

/-- The service of a fleet without a limit. -/
def noLimit : Limit := ⟨0, by decide⟩

/-- The key admin makes a key at time 0 for so many nanoseconds. -/
def createFor (lifetime : Int) : Except KeyFailure (NSSKeys × NSSKey) :=
  (keyService.limited noLimit).create Table.empty 0 keyAdmin ⟨"web", "", "", some lifetime, none⟩ "one"
    ["nss_a"]

/-- The key admin rotates it at time 5. -/
def rotateOnce : List Rotation := [⟨noLimit, 5, keyAdmin, "two"⟩]

end Sample

open Sample in
/-- A key for 20 nanoseconds is renewed for 20 nanoseconds. -/
theorem rotation_renews_twenty : (∃ next made, createFor 20 = .ok (next, made) ∧ ∃ key,
      (keyService.renewals made.id next rotateOnce).keys.find? made.id = some key ∧
        Renewed noLimit made (keyService.renewals made.id next rotateOnce).performed key) := by
  cases outcome : createFor 20 with
  | error =>
    have succeeds : (createFor 20).toOption.isSome = true := by decide +kernel
    rw [outcome] at succeeds
    cases succeeds
  | ok pair =>
    obtain ⟨next, made⟩ := pair
    refine ⟨next, made, rfl, ?_⟩
    refine (rotation_renews_iff outcome).mpr ?_ rotateOnce (by decide)
    intro _ asked dated
    cases dated
    decide

open Sample in
/-- A key for ten years more than a `time.Duration` holds, made at time 0 and rotated at
time 5, loses the ten years. -/
theorem rotation_shortens_long_key :
    ((createFor (maxInt64 + 315360000000000000)).toOption.map fun pair =>
      (pair.2.expiresAt.map (· - pair.2.issuedAt),
        ((keyService.renewals pair.2.id pair.1 rotateOnce).keys.find? pair.2.id).map fun key =>
          key.expiresAt.map (· - key.issuedAt))) =
      some (some (maxInt64 + 315360000000000000), some (some maxInt64)) := by
  decide +kernel

end Ssoossh.NSS
