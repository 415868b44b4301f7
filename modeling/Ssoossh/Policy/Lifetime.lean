import Ssoossh.Policy.Condition

/-!
# The lifetime policy

What a certificate may be granted beyond its type's own options
(`server/service/lifetimepolicy.go`): tiers, tried in order, give a maximum
duration and a set of extensions to the identities that match them; rules for
source networks shorten the duration, take extensions away, and may pin a service
certificate to the address the request came from.

Compiling (`parseLifetimePolicy`) rejects what could not mean anything; evaluating
(`LifetimePolicyEngine.evaluate`) is total.  The results at the end say what an
evaluation returned in terms of the tier and the rule that matched, so that no
proof above this module unfolds `evaluate`.
-/

namespace Ssoossh

open GoTime Fallible

/-! ## Compiled policies -/

/-- A compiled tier. -/
structure ParsedTier where
  name : String
  when : ParsedCondition
  maxDuration : Int
  grantExtensions : List String
  maxEnrollmentDuration : Int

/-- A compiled rule for a source network. -/
structure ParsedSourceRule where
  network : NetIP.Prefix
  maxDuration : Int
  removedExtensions : List String
  pinSourceAddress : Bool

/-- A compiled policy. -/
structure ParsedLifetimePolicy where
  defaultDuration : Int
  defaultExtensions : List String
  defaultEnrollmentDuration : Int
  tiers : List ParsedTier
  sourceRules : List ParsedSourceRule

/-- The compiled policies of the four types, where one is configured. -/
structure LifetimePolicyEngine where
  userPolicy : Option ParsedLifetimePolicy
  servicePolicy : Option ParsedLifetimePolicy
  pamPolicy : Option ParsedLifetimePolicy
  consolePolicy : Option ParsedLifetimePolicy

/-- What a policy is compiled against. -/
structure PolicyParseContext where
  label : String
  declaredClaims : List String
  allowedExtensions : List String
  isService : Bool

/-! ## Compiling -/

/-- `isLifetimePolicyConfigured`. -/
def isLifetimePolicyConfigured (policy : LifetimePolicy) : Bool :=
  policy.defaultDuration > 0 || !policy.tiers.isEmpty || !policy.sourcePolicy.isEmpty ||
    !policy.defaultExtensions.isEmpty || policy.defaultEnrollmentDuration > 0

section Parse

variable (ext : Externals)

/-- `parseTier`. -/
def parseTier (ctx : PolicyParseContext) (index : Nat) (tier : LifetimePolicyTier) :
    Except String ParsedTier := do
  if tier.name = "" then
    throw ("tiers[" ++ toString index ++
      "] has no name: the name is what the recorded policy explanation calls the tier")
  if tier.when.isZero then
    throw ("tier " ++ ext.quote tier.name ++
      " has no when condition (group tiers moved from `group: <name>` to `when: \x7bgroup: <name>\x7d`)")
  let when ← (parseCondition ext ctx.declaredClaims tier.when).mapError fun e =>
    "tier " ++ ext.quote tier.name ++ ": " ++ e
  if tier.maxDuration ≤ 0 then
    throw ("tier " ++ ext.quote tier.name ++ " needs a max_duration greater than zero")
  forM tier.grantExtensions fun extension =>
    if ctx.allowedExtensions.contains extension then .ok ()
    else .error ("tier " ++ ext.quote tier.name ++ " grants extension " ++ ext.quote extension ++
      ", which is outside the type's extensions ceiling")
  if !ctx.isService ∧ tier.maxEnrollmentDuration ≠ 0 then
    throw ("tier " ++ ext.quote tier.name ++
      " sets max_enrollment_duration, which only applies to service certificates")
  return ⟨tier.name, when, tier.maxDuration, tier.grantExtensions, tier.maxEnrollmentDuration⟩

/-- A network rule: its CIDR has to parse. -/
def parseSourceRule (entry : SourcePolicyEntry) : Except String ParsedSourceRule :=
  match NetIP.parsePrefix entry.cidr with
  | none => .error ("invalid CIDR " ++ ext.quote entry.cidr ++ ": " ++ ext.prefixError entry.cidr)
  | some network =>
    .ok ⟨network, entry.maxDuration, entry.removedExtensions, entry.pinSourceAddress⟩

/-- `parseLifetimePolicy`. -/
def parseLifetimePolicy (policy : LifetimePolicy) (ctx : PolicyParseContext) :
    Except String ParsedLifetimePolicy := do
  if policy.defaultDuration ≤ 0 then
    throw "default_duration is required when a lifetime policy is configured: without it, an identity matching no tier would receive a zero-second certificate"
  if policy.onAbsentClaim ≠ "" ∧ policy.onAbsentClaim ≠ "floor" then
    throw "on_absent_claim only accepts \"floor\": an absent claim must never mean \"skip this condition\""
  if !ctx.isService ∧ policy.defaultEnrollmentDuration ≠ 0 then
    throw "default_enrollment_duration only applies to service certificates"
  forM policy.defaultExtensions fun extension =>
    if ctx.allowedExtensions.contains extension then .ok ()
    else .error ("default_extensions grants " ++ ext.quote extension ++
      ", which is outside the type's extensions ceiling")
  let tiers ← (policy.tiers.mapIdx fun i tier => (i, tier)).mapM fun tier =>
    parseTier ext ctx tier.1 tier.2
  let sourceRules ← policy.sourcePolicy.mapM (parseSourceRule ext)
  return ⟨policy.defaultDuration, policy.defaultExtensions, policy.defaultEnrollmentDuration,
    tiers, sourceRules⟩

/-- One slot of the engine: nothing where no policy is configured. -/
def compilePolicy (policy : LifetimePolicy) (ctx : PolicyParseContext) :
    Except String (Option ParsedLifetimePolicy) :=
  if isLifetimePolicyConfigured policy then
    ((parseLifetimePolicy ext policy ctx).mapError fun e =>
      "failed to parse " ++ ctx.label ++ ": " ++ e).map some
  else .ok none

/-- `newLifetimePolicyEngine`. -/
def newLifetimePolicyEngine (opts : CertificateOptions) (declaredClaims : List String) :
    Except String LifetimePolicyEngine := do
  let userPolicy ← compilePolicy ext opts.user.lifetimePolicy
    ⟨"cert_options.user.lifetime_policy", declaredClaims, opts.user.extensions, false⟩
  let servicePolicy ← compilePolicy ext opts.service.lifetimePolicy
    ⟨"cert_options.service.lifetime_policy", declaredClaims, opts.service.extensions, true⟩
  let pamPolicy ← compilePolicy ext opts.pam.lifetimePolicy
    ⟨"cert_options.pam.lifetime_policy", declaredClaims, opts.pam.extensions, false⟩
  let consolePolicy ← compilePolicy ext opts.console.lifetimePolicy
    ⟨"cert_options.console.lifetime_policy", declaredClaims, opts.console.extensions, false⟩
  return ⟨userPolicy, servicePolicy, pamPolicy, consolePolicy⟩

end Parse

/-- A compiled tier says what the configured one does. -/
structure LifetimePolicyTier.CompilesTo (ext : Externals) (declaredClaims : List String)
    (tier : LifetimePolicyTier) (parsed : ParsedTier) : Prop where
  name : parsed.name = tier.name
  when : parseCondition ext declaredClaims tier.when = .ok parsed.when
  maxDuration : parsed.maxDuration = tier.maxDuration
  positive : 0 < tier.maxDuration
  grantExtensions : parsed.grantExtensions = tier.grantExtensions

/-- A compiled rule says what the configured one does. -/
structure SourcePolicyEntry.CompilesTo (entry : SourcePolicyEntry) (parsed : ParsedSourceRule) :
    Prop where
  network : NetIP.parsePrefix entry.cidr = some parsed.network
  maxDuration : parsed.maxDuration = entry.maxDuration
  removedExtensions : parsed.removedExtensions = entry.removedExtensions
  pinSourceAddress : parsed.pinSourceAddress = entry.pinSourceAddress

/-- A compiled policy says what the configured one does, tier by tier and rule by
rule. -/
structure LifetimePolicy.CompilesTo (ext : Externals) (declaredClaims : List String)
    (policy : LifetimePolicy) (parsed : ParsedLifetimePolicy) : Prop where
  defaultDuration : parsed.defaultDuration = policy.defaultDuration
  positive : 0 < policy.defaultDuration
  defaultExtensions : parsed.defaultExtensions = policy.defaultExtensions
  tiers : List.Forall₂ (LifetimePolicyTier.CompilesTo ext declaredClaims) policy.tiers parsed.tiers
  sourceRules : List.Forall₂ SourcePolicyEntry.CompilesTo policy.sourcePolicy parsed.sourceRules

variable {ext : Externals}

theorem compilesTo_of_parseTier {ctx : PolicyParseContext} {index : Nat}
    {tier : LifetimePolicyTier} {parsed : ParsedTier}
    (accepted : parseTier ext ctx index tier = .ok parsed) :
    tier.CompilesTo ext ctx.declaredClaims parsed := by
  simp only [parseTier, throw_bind, ite_throw_eq_ok, bind_eq_ok,
    mapError_eq_ok, pure_eq_ok, not_le] at accepted
  obtain ⟨-, -, _, condition, positive, _, -, -, rfl⟩ := accepted
  exact ⟨rfl, condition, rfl, positive, rfl⟩

theorem compilesTo_of_parseSourceRule {entry : SourcePolicyEntry} {parsed : ParsedSourceRule}
    (accepted : parseSourceRule ext entry = .ok parsed) : entry.CompilesTo parsed := by
  unfold parseSourceRule at accepted
  cases network : NetIP.parsePrefix entry.cidr with
  | none => simp [network] at accepted
  | some =>
    simp only [network, Except.ok.injEq] at accepted
    subst accepted
    exact ⟨network, rfl, rfl, rfl⟩

/-- The positions a compilation carries along for its messages drop out. -/
private theorem forall₂_of_indexed {α β : Type} {R : α → β → Prop} {l : List α} {l' : List β}
    {m : List (Nat × α)} (entries : m.map Prod.snd = l)
    (related : List.Forall₂ (fun entry => R entry.2) m l') : List.Forall₂ R l l' := by
  subst entries
  rwa [List.forall₂_map_left_iff]

theorem compilesTo_of_compilePolicy {policy : LifetimePolicy} {ctx : PolicyParseContext}
    {parsed : ParsedLifetimePolicy} (accepted : compilePolicy ext policy ctx = .ok (some parsed)) :
    policy.CompilesTo ext ctx.declaredClaims parsed := by
  have compiled : parseLifetimePolicy ext policy ctx = .ok parsed := by
    unfold compilePolicy at accepted
    split_ifs at accepted with configured
    · cases outcome : parseLifetimePolicy ext policy ctx with
      | error => simp [outcome, Except.map, Except.mapError] at accepted
      | ok => simpa [outcome, Except.map, Except.mapError] using accepted
    · simp at accepted
  simp only [parseLifetimePolicy, throw_bind, ite_throw_eq_ok,
    bind_eq_ok, pure_eq_ok, not_le, mapM_eq_ok] at compiled
  obtain ⟨positive, -, -, _, -, tiers, tiersCompiled, rules, rulesCompiled, rfl⟩ := compiled
  refine ⟨rfl, positive, rfl, ?_, ?_⟩
  · have indexed : (policy.tiers.mapIdx fun i tier => (i, tier)).map Prod.snd = policy.tiers := by
      refine List.ext_getElem (by simp) fun i _ _ => ?_
      simp
    exact forall₂_of_indexed indexed (tiersCompiled.imp fun _ _ => compilesTo_of_parseTier)
  · exact rulesCompiled.imp fun _ _ => compilesTo_of_parseSourceRule

/-- `lifetimePolicyEngine.policyFor`. -/
def LifetimePolicyEngine.policyFor (engine : LifetimePolicyEngine) :
    CertificateType → Option ParsedLifetimePolicy
  | .user => engine.userPolicy
  | .service => engine.servicePolicy
  | .pam => engine.pamPolicy
  | .console => engine.consolePolicy
  | .other _ => none

/-! ## Lists of names -/

/-- `intersectStrings`: the requested names that are permitted, in the order they
were requested. -/
def intersectStrings (requested permitted : List String) : List String :=
  if permitted.isEmpty then [] else requested.filter permitted.contains

/-- `subtractStrings`. -/
def subtractStrings (set remove : List String) : List String :=
  set.filter fun s => !remove.contains s

/-- An empty permission permits nothing, so the early return of `intersectStrings`
is no special case. -/
theorem intersectStrings_eq_filter (requested permitted : List String) :
    intersectStrings requested permitted = requested.filter permitted.contains := by
  unfold intersectStrings
  split_ifs with none
  · have : permitted = [] := by simpa using none
    subst this
    simp
  · rfl

/-! ## Evaluating -/

/-- The result of an evaluation. -/
structure PolicyOutcome where
  duration : Int
  enrollmentDuration : Int
  grantActive : Bool := false
  granted : List String := []
  grantSource : String := ""
  removed : List String := []
  pinSource : Bool := false
  explanation : PolicyExplanation

/-- The better of two matching rules: the longer prefix, then the smaller maximum
duration, then the earlier one. -/
def betterRule (best : Option ParsedSourceRule) (rule : ParsedSourceRule) :
    Option ParsedSourceRule :=
  match best with
  | none => some rule
  | some old =>
    if rule.network.bits > old.network.bits then some rule
    else if rule.network.bits = old.network.bits ∧ rule.maxDuration < old.maxDuration then some rule
    else some old

/-- `matchSourceRule`: the longest network with the address; of equals the lower `max_duration`. -/
def matchSourceRule (rules : List ParsedSourceRule) (sourceIP : String) :
    Option ParsedSourceRule :=
  match NetIP.parseAddr sourceIP with
  | none => none
  | some addr => (rules.filter fun rule => rule.network.contains addr.unmap).foldl betterRule none

/-- The first tier whose condition the identity meets. -/
def ParsedLifetimePolicy.matchTier (policy : ParsedLifetimePolicy) (identity : Identity) :
    Option ParsedTier :=
  policy.tiers.find? fun tier => tier.when.evaluate identity

namespace LifetimePolicyEngine

/-- `lifetimePolicyEngine.evaluate` where a policy is configured.  Each field of the
result is what the loop over the tiers and the source rule leave in it. -/
def evaluatePolicy (policy : ParsedLifetimePolicy) (certType : CertificateType)
    (identity : Identity) (sourceIP : String) (ceiling enrollmentCeiling : Int) : PolicyOutcome :=
  let tier := policy.matchTier identity
  let rule := matchSourceRule policy.sourceRules sourceIP
  let tierDuration := (tier.map (·.maxDuration)).getD policy.defaultDuration
  let cappedDuration := match rule with
    | some rule =>
      if rule.maxDuration > 0 ∧ rule.maxDuration < tierDuration then rule.maxDuration
      else tierDuration
    | none => tierDuration
  let duration := min cappedDuration ceiling
  let grantActive := !policy.tiers.isEmpty
  let ownGrant := (tier.map (·.grantExtensions)).filter fun grant => !grant.isEmpty
  let pinSource := (rule.map (·.pinSourceAddress)).getD false && decide (certType = .service)
  let configuredEnrollment := ((tier.map (·.maxEnrollmentDuration)).filter (0 < ·)).getD
    policy.defaultEnrollmentDuration
  let enrollmentDuration :=
    if certType = .service then
      min (if configuredEnrollment ≤ 0 then enrollmentCeiling else configuredEnrollment)
        enrollmentCeiling
    else enrollmentCeiling
  { duration
    enrollmentDuration
    grantActive
    granted := if grantActive then ownGrant.getD policy.defaultExtensions else []
    grantSource := if grantActive then (if ownGrant.isSome then "tier" else "default") else ""
    removed := (rule.map (·.removedExtensions)).getD []
    pinSource
    explanation :=
      { certType := certType.name
        policyConfigured := true
        tier := tier.map fun tier =>
          ⟨tier.name, tier.when.rendered, Duration.format tier.maxDuration⟩
        noTierMatched := tier.isNone && grantActive
        defaultDuration := if tier.isNone then Duration.format policy.defaultDuration else ""
        sourceRule := rule.map fun (rule : ParsedSourceRule) =>
          { cidr := rule.network.format
            maxDuration := if rule.maxDuration > 0 then Duration.format rule.maxDuration else ""
            removedExtensions := rule.removedExtensions
            pinSourceAddress := pinSource }
        ceiling := Duration.format ceiling
        effectiveDuration := Duration.format duration
        enrollment :=
          if certType = .service then
            some ⟨Duration.format enrollmentCeiling, Duration.format enrollmentDuration⟩
          else none } }

/-- `lifetimePolicyEngine.evaluate`: a type without a policy gets its ceilings. -/
def evaluate (engine : LifetimePolicyEngine) (certType : CertificateType) (identity : Identity)
    (sourceIP : String) (ceiling enrollmentCeiling : Int) : PolicyOutcome :=
  match engine.policyFor certType with
  | none =>
    { duration := ceiling
      enrollmentDuration := enrollmentCeiling
      explanation :=
        { certType := certType.name
          ceiling := Duration.format ceiling
          effectiveDuration := Duration.format ceiling } }
  | some policy => evaluatePolicy policy certType identity sourceIP ceiling enrollmentCeiling

end LifetimePolicyEngine

/-- `policyOutcome.narrowOptions`: the narrowed options, and the outcome with its
account of the extensions. -/
def PolicyOutcome.narrowOptions (outcome : PolicyOutcome) (narrowed : RequestedOptions)
    (sourceIP : String) : RequestedOptions × PolicyOutcome :=
  let granted :=
    if outcome.grantActive then intersectStrings narrowed.extensions outcome.granted
    else narrowed.extensions
  let effective :=
    if outcome.removed.isEmpty then granted else subtractStrings granted outcome.removed
  let account : ExtensionsExplanation :=
    { requested := narrowed.extensions
      granted := if outcome.grantActive then outcome.granted else []
      grantSource := if outcome.grantActive then outcome.grantSource else ""
      removed := outcome.removed
      effective }
  ({ narrowed with
      extensions := effective
      sourceAddresses := if outcome.pinSource then [sourceIP] else narrowed.sourceAddresses },
    { outcome with explanation := { outcome.explanation with extensions := some account } })

/-! ## What an evaluation returns -/

/-- Whether an outcome lets a requested extension through. -/
def PolicyOutcome.permits (outcome : PolicyOutcome) (extension : String) : Bool :=
  (!outcome.grantActive || outcome.granted.contains extension) &&
    !outcome.removed.contains extension

/-- The extensions that come out are the ones let through, in the order they were
asked for. -/
theorem PolicyOutcome.extensions_narrowOptions (outcome : PolicyOutcome)
    (narrowed : RequestedOptions) (sourceIP : String) :
    (outcome.narrowOptions narrowed sourceIP).1.extensions =
      narrowed.extensions.filter outcome.permits := by
  have granted :
      (if outcome.grantActive then intersectStrings narrowed.extensions outcome.granted
        else narrowed.extensions) =
      narrowed.extensions.filter fun e => !outcome.grantActive || outcome.granted.contains e := by
    rw [intersectStrings_eq_filter]
    cases outcome.grantActive with
    | true => simp only [if_true, Bool.not_true, Bool.false_or]
    | false => simp
  have subtracted (kept : List String) :
      (if outcome.removed.isEmpty then kept else subtractStrings kept outcome.removed) =
      kept.filter fun e => !outcome.removed.contains e := by
    cases outcome.removed <;> simp [subtractStrings]
  simp only [narrowOptions, granted, subtracted, List.filter_filter]
  exact List.filter_congr fun extension _ => Bool.and_comm _ _

@[simp] theorem PolicyOutcome.noTouchRequired_narrowOptions (outcome : PolicyOutcome)
    (narrowed : RequestedOptions) (sourceIP : String) :
    (outcome.narrowOptions narrowed sourceIP).1.noTouchRequired = narrowed.noTouchRequired := rfl

@[simp] theorem PolicyOutcome.sourceAddresses_narrowOptions (outcome : PolicyOutcome)
    (narrowed : RequestedOptions) (sourceIP : String) :
    (outcome.narrowOptions narrowed sourceIP).1.sourceAddresses =
      if outcome.pinSource then [sourceIP] else narrowed.sourceAddresses := rfl

/-- What the tiers allow an identity: the duration of the first tier it meets, or
the default. -/
def ParsedLifetimePolicy.tierDuration (policy : ParsedLifetimePolicy) (identity : Identity) : Int :=
  match policy.matchTier identity with
  | some tier => tier.maxDuration
  | none => policy.defaultDuration

/-- The same, as an evaluation computes it. -/
theorem ParsedLifetimePolicy.getD_matchTier (policy : ParsedLifetimePolicy) (identity : Identity) :
    ((policy.matchTier identity).map (·.maxDuration)).getD policy.defaultDuration =
      policy.tierDuration identity := by
  unfold ParsedLifetimePolicy.tierDuration
  cases policy.matchTier identity <;> rfl

/-- A policy that compiles allows every identity something. -/
theorem LifetimePolicy.CompilesTo.tierDuration_pos {declaredClaims : List String}
    {policy : LifetimePolicy} {parsed : ParsedLifetimePolicy}
    (compiles : policy.CompilesTo ext declaredClaims parsed) (identity : Identity) :
    0 < parsed.tierDuration identity := by
  unfold ParsedLifetimePolicy.tierDuration
  cases matched : parsed.matchTier identity with
  | none => simpa [compiles.defaultDuration] using compiles.positive
  | some =>
    obtain ⟨configuredTier, same⟩ :=
      exists_of_forall₂ compiles.tiers (List.mem_of_find?_eq_some matched)
    simpa [same.maxDuration] using same.positive

/-- The extensions the tiers grant an identity: those of the first tier it meets if
that tier names any, else the default ones. -/
def ParsedLifetimePolicy.grantedExtensions (policy : ParsedLifetimePolicy)
    (identity : Identity) : List String :=
  match policy.matchTier identity with
  | some tier => if tier.grantExtensions = [] then policy.defaultExtensions else tier.grantExtensions
  | none => policy.defaultExtensions

/-- The extensions the rule of the source network takes away. -/
def ParsedLifetimePolicy.removedExtensions (policy : ParsedLifetimePolicy) (sourceIP : String) :
    List String :=
  match matchSourceRule policy.sourceRules sourceIP with
  | some rule => rule.removedExtensions
  | none => []

namespace LifetimePolicyEngine

variable {engine : LifetimePolicyEngine} {certType : CertificateType} {identity : Identity}
variable {sourceIP : String} {ceiling enrollmentCeiling : Int} {policy : ParsedLifetimePolicy}

/-- No policy ever lengthens a certificate past its type's own duration. -/
theorem duration_evaluate_le_ceiling :
    (engine.evaluate certType identity sourceIP ceiling enrollmentCeiling).duration ≤ ceiling := by
  unfold evaluate
  cases engine.policyFor certType with
  | none => exact le_refl ceiling
  | some => exact min_le_right _ _

/-- Nor past what the tiers allow the identity. -/
theorem duration_evaluate_le_tier (configured : engine.policyFor certType = some policy) :
    (engine.evaluate certType identity sourceIP ceiling enrollmentCeiling).duration ≤
      policy.tierDuration identity := by
  rw [evaluate, configured]
  refine le_trans (min_le_left _ _) ?_
  rw [policy.getD_matchTier]
  cases matchSourceRule policy.sourceRules sourceIP with
  | none => exact le_refl _
  | some =>
    show (if _ then _ else _) ≤ _
    split_ifs with shorter
    · exact shorter.2.le
    · exact le_refl _

/-- Nor past the maximum of the source network's rule, where that rule has one. -/
theorem duration_evaluate_le_rule (configured : engine.policyFor certType = some policy)
    {rule : ParsedSourceRule}
    (matched : matchSourceRule policy.sourceRules sourceIP = some rule)
    (bounded : 0 < rule.maxDuration) :
    (engine.evaluate certType identity sourceIP ceiling enrollmentCeiling).duration ≤
      rule.maxDuration := by
  rw [evaluate, configured]
  refine le_trans (min_le_left _ _) ?_
  rw [matched]
  show (if _ then _ else _) ≤ _
  split_ifs with shorter
  · exact le_refl _
  · exact not_lt.mp fun longer => shorter ⟨bounded, longer⟩

/-- So only the type's own duration can make an evaluated one negative. -/
theorem min_zero_le_duration_evaluate {ext : Externals} {declaredClaims : List String}
    (compiled : ∀ parsed, engine.policyFor certType = some parsed →
      ∃ policy : LifetimePolicy, policy.CompilesTo ext declaredClaims parsed) :
    min 0 ceiling ≤
      (engine.evaluate certType identity sourceIP ceiling enrollmentCeiling).duration := by
  unfold evaluate
  cases configured : engine.policyFor certType with
  | none => exact min_le_right 0 ceiling
  | some parsed =>
    obtain ⟨policy, compiles⟩ := compiled parsed configured
    have tier : 0 < ((parsed.matchTier identity).map (·.maxDuration)).getD
        parsed.defaultDuration :=
      parsed.getD_matchTier identity ▸ compiles.tierDuration_pos identity
    refine min_le_min_right ceiling ?_
    cases matchSourceRule parsed.sourceRules sourceIP with
    | none => exact tier.le
    | some =>
      show (0 : Int) ≤ if _ then _ else _
      split_ifs with shorter
      · exact shorter.1.le
      · exact tier.le

/-- Where no policy is configured every extension is let through. -/
theorem permits_evaluate_of_none (absent : engine.policyFor certType = none) (extension : String) :
    (engine.evaluate certType identity sourceIP ceiling enrollmentCeiling).permits extension := by
  simp [evaluate, absent, PolicyOutcome.permits]

/-- Where one is, an extension is let through if the tiers, where there are any,
grant it and the source network's rule does not take it away. -/
theorem permits_evaluate (configured : engine.policyFor certType = some policy)
    (extension : String) :
    (engine.evaluate certType identity sourceIP ceiling enrollmentCeiling).permits extension =
      ((policy.tiers.isEmpty || (policy.grantedExtensions identity).contains extension) &&
        !(policy.removedExtensions sourceIP).contains extension) := by
  have removed : ((matchSourceRule policy.sourceRules sourceIP).map
      (·.removedExtensions)).getD [] = policy.removedExtensions sourceIP := by
    unfold ParsedLifetimePolicy.removedExtensions
    cases matchSourceRule policy.sourceRules sourceIP <;> rfl
  have granted : (((policy.matchTier identity).map (·.grantExtensions)).filter
      fun grant => !grant.isEmpty).getD policy.defaultExtensions =
      policy.grantedExtensions identity := by
    unfold ParsedLifetimePolicy.grantedExtensions
    cases policy.matchTier identity with
    | none => rfl
    | some tier => by_cases empty : tier.grantExtensions = [] <;> simp [empty, Option.filter]
  simp only [evaluate, configured, evaluatePolicy, PolicyOutcome.permits, removed, granted]
  cases policy.tiers.isEmpty <;> simp

/-- The source address is pinned only for a service certificate, by a rule that
says so. -/
theorem pinSource_evaluate
    (pinned : (engine.evaluate certType identity sourceIP ceiling enrollmentCeiling).pinSource) :
    certType = .service ∧ ∃ policy rule, engine.policyFor certType = some policy ∧
      matchSourceRule policy.sourceRules sourceIP = some rule ∧ rule.pinSourceAddress := by
  unfold evaluate at pinned
  cases configured : engine.policyFor certType with
  | none => simp [configured] at pinned
  | some policy =>
    simp only [configured, evaluatePolicy, Bool.and_eq_true, decide_eq_true_eq] at pinned
    cases matched : matchSourceRule policy.sourceRules sourceIP with
    | none => simp [matched] at pinned
    | some rule =>
      simp only [matched, Option.map_some, Option.getD_some] at pinned
      exact ⟨pinned.2, policy, rule, rfl, matched, pinned.1⟩

end LifetimePolicyEngine

end Ssoossh
