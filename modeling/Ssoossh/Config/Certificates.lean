import Ssoossh.Model
import Ssoossh.Lib.Fallible
import Ssoossh.Lib.NetIP

/-!
# `cert_options`

The configuration of issuance (`server/config/types_certificates.go` and
`types_policy.go`): one block of options per certificate type, each with an
optional condition on the approver and an optional lifetime policy, under one
client timeout.

The timeout is the budget a waiting client has.  A tenth of it is kept for signing
and another tenth for slack, and what is left is how long a request stays
approvable (`approvalTTLFor`); the quotients are integer quotients, so the shares
do not add up to the budget exactly.

`CertificateOptions.validate` is the check the server makes when it loads the
file.  What it does *not* check is part of the model too: no sign of a
`valid_duration` is rejected here or anywhere else.
-/

namespace Ssoossh

open GoTime

/-! ## Conditions -/

/-- A condition on an identity, as configured.  Exactly one of the four forms is
meant to be set; which ones are is checked when the condition is compiled. -/
structure PolicyCondition where
  group : String := ""
  claim : String := ""
  atLeast : Option Float64 := none
  atMost : Option Float64 := none
  exactly : Option Float64 := none
  equals : Option String := none
  oneOf : List String := []
  contains : String := ""
  allOf : List PolicyCondition := []
  anyOf : List PolicyCondition := []

namespace PolicyCondition

/-- `PolicyCondition.IsZero`. -/
def isZero (cond : PolicyCondition) : Bool :=
  cond.group == "" && cond.claim == "" && cond.atLeast.isNone && cond.atMost.isNone &&
    cond.exactly.isNone && cond.equals.isNone && cond.oneOf.isEmpty && cond.contains == "" &&
    cond.allOf.isEmpty && cond.anyOf.isEmpty

section

variable (ext : Externals)

/-- The text of a comparison. -/
def formatComparator (cond : PolicyCondition) : String :=
  match cond.exactly, cond.atLeast, cond.atMost, cond.equals with
  | some x, _, _, _ => "claim " ++ cond.claim ++ " == " ++ ext.formatFloat x
  | none, some low, some high, _ =>
    "claim " ++ cond.claim ++ " in [" ++ ext.formatFloat low ++ ", " ++ ext.formatFloat high ++ "]"
  | none, some low, none, _ => "claim " ++ cond.claim ++ " >= " ++ ext.formatFloat low
  | none, none, some high, _ => "claim " ++ cond.claim ++ " <= " ++ ext.formatFloat high
  | none, none, none, some value => "claim " ++ cond.claim ++ " equals " ++ ext.quote value
  | none, none, none, none =>
    if !cond.oneOf.isEmpty then
      "claim " ++ cond.claim ++ " one_of [" ++ ", ".intercalate cond.oneOf ++ "]"
    else if cond.contains != "" then
      "claim " ++ cond.claim ++ " contains " ++ ext.quote cond.contains
    else "claim " ++ cond.claim

mutual

/-- `PolicyCondition.String`. -/
def format : PolicyCondition → String
  | ⟨group, claim, atLeast, atMost, exactly, equals, oneOf, contains, allOf, anyOf⟩ =>
    let cond : PolicyCondition :=
      ⟨group, claim, atLeast, atMost, exactly, equals, oneOf, contains, allOf, anyOf⟩
    if cond.isZero then ""
    else if !allOf.isEmpty then "all_of(" ++ ", ".intercalate (formatList allOf) ++ ")"
    else if !anyOf.isEmpty then "any_of(" ++ ", ".intercalate (formatList anyOf) ++ ")"
    else if group != "" then "group " ++ ext.quote group
    else formatComparator ext cond

/-- The texts `joinConditions` joins. -/
def formatList : List PolicyCondition → List String
  | [] => []
  | cond :: conds => format cond :: formatList conds

end

end

end PolicyCondition

/-! ## Options -/

/-- A tier of a lifetime policy. -/
structure LifetimePolicyTier where
  name : String
  when : PolicyCondition
  maxDuration : Int
  grantExtensions : List String := []
  maxEnrollmentDuration : Int := 0

/-- A rule for requests from a network. -/
structure SourcePolicyEntry where
  cidr : String
  maxDuration : Int := 0
  extensions : List String := []
  removedExtensions : List String := []
  pinSourceAddress : Bool := false

/-- A lifetime policy. -/
structure LifetimePolicy where
  defaultDuration : Int := 0
  onAbsentClaim : String := ""
  defaultExtensions : List String := []
  defaultEnrollmentDuration : Int := 0
  tiers : List LifetimePolicyTier := []
  sourcePolicy : List SourcePolicyEntry := []

/-- `cert_options.user`. -/
structure CertOptionsUser where
  requireGroup : String := ""
  require : Option PolicyCondition := none
  validDuration : Int := 30 * Duration.second
  extensions : List String := ["permit-pty", "permit-user-rc"]
  keyIDTemplate : String := ""
  lifetimePolicy : LifetimePolicy := {}

/-- `cert_options.service`. -/
structure CertOptionsService where
  requireGroup : String := ""
  require : Option PolicyCondition := none
  allowUserAccounts : Bool := false
  validDuration : Int := 8760 * 60 * Duration.minute
  extensions : List String := []
  enrollmentDuration : Int := 8760 * 60 * Duration.minute
  keyIDTemplate : String := ""
  lifetimePolicy : LifetimePolicy := {}

/-- `cert_options.pam`. -/
structure CertOptionsPAM where
  requireGroup : String := ""
  require : Option PolicyCondition := none
  validDuration : Int := 30 * Duration.second
  extensions : List String := []
  keyIDTemplate : String := ""
  lifetimePolicy : LifetimePolicy := {}

/-- `cert_options.console`. -/
structure CertOptionsConsole where
  require : Option PolicyCondition := none
  allowedNetworks : List String := []
  clientTimeout : Int := 2 * Duration.minute
  validDuration : Int := 30 * Duration.second
  extensions : List String := []
  keyIDTemplate : String := ""
  lifetimePolicy : LifetimePolicy := {}

/-- `cert_options`. -/
structure CertificateOptions where
  user : CertOptionsUser := {}
  service : CertOptionsService := {}
  pam : CertOptionsPAM := {}
  console : CertOptionsConsole := {}
  clientTimeout : Int := 5 * Duration.minute

/-! ## Budgets -/

/-- The share of a budget that is kept for signing, as a divisor. -/
def signingShare : Int := 10

/-- `SigningGraceFor`. -/
def signingGraceFor (budget : Int) : Int := Duration.quot budget signingShare

/-- `ApprovalTTLFor`. -/
def approvalTTLFor (budget : Int) : Int := budget - 2 * signingGraceFor budget

/-- `CertificateOptions.SigningGrace`. -/
def CertificateOptions.signingGrace (opts : CertificateOptions) : Int :=
  signingGraceFor opts.clientTimeout

/-- `CertificateOptions.ApprovalTTL`. -/
def CertificateOptions.approvalTTL (opts : CertificateOptions) : Int :=
  approvalTTLFor opts.clientTimeout

section Validate

variable (ext : Externals)

/-- `validateExtensionName`. -/
def validateExtensionName (name : String) : Except String Unit :=
  match name with
  | "permit-X11-forwarding" => .ok ()
  | "permit-agent-forwarding" => .ok ()
  | "permit-port-forwarding" => .ok ()
  | "permit-pty" => .ok ()
  | "permit-user-rc" => .ok ()
  | "source-address" => .error (ext.quote name ++
    " is an SSH critical option, not an extension: pin service certificates to a network with lifetime_policy.source_policy[].pin_source_address")
  | "force-command" => .error (ext.quote name ++
    " is an SSH critical option, not an extension")
  | "verify-required" => .error (ext.quote name ++
    " is an SSH critical option, not an extension, and ssoossh never sets it")
  | "no-touch-required" => .error (ext.quote name ++
    " cannot be configured: the server adds it only to service certificates whose enrollment asked for it")
  | _ =>
    -- a vendor extension, cut at the first at sign
    let before := name.toList.takeWhile (· != '@')
    let after := (name.toList.drop before.length).drop 1
    if before != [] && after != [] then .ok ()
    else .error (ext.quote name ++
      " is not an SSH certificate extension: use permit-X11-forwarding, permit-agent-forwarding, permit-port-forwarding, permit-pty, permit-user-rc, or a vendor extension named name@domain")

/-- The first error of a list of checks. -/
def firstError {α : Type} (check : α → Except String Unit) (items : List α) : Except String Unit :=
  items.forM check

/-- The extension names of one certificate type, each list under its path. -/
def namedLists (path : String) (extensions : List String) (policy : LifetimePolicy) :
    List (String × List String) :=
  [(path ++ ".extensions", extensions),
    (path ++ ".lifetime_policy.default_extensions", policy.defaultExtensions)] ++
  policy.tiers.mapIdx (fun i tier =>
    (path ++ ".lifetime_policy.tiers[" ++ toString i ++ "].grant_extensions",
      tier.grantExtensions)) ++
  policy.sourcePolicy.mapIdx (fun i rule =>
    (path ++ ".lifetime_policy.source_policy[" ++ toString i ++ "].removed_extensions",
      rule.removedExtensions))

namespace CertificateOptions

/-- The four lifetime policies under their paths. -/
def lifetimePolicies (opts : CertificateOptions) : List (String × LifetimePolicy) :=
  [("cert_options.user.lifetime_policy", opts.user.lifetimePolicy),
    ("cert_options.service.lifetime_policy", opts.service.lifetimePolicy),
    ("cert_options.pam.lifetime_policy", opts.pam.lifetimePolicy),
    ("cert_options.console.lifetime_policy", opts.console.lifetimePolicy)]

/-- `validateExtensionNames`. -/
def validateExtensionNames (opts : CertificateOptions) : Except String Unit :=
  firstError
    (fun named => firstError
      (fun name => (validateExtensionName ext name).mapError fun e => named.1 ++ ": " ++ e) named.2)
    (namedLists "cert_options.user" opts.user.extensions opts.user.lifetimePolicy ++
      namedLists "cert_options.service" opts.service.extensions opts.service.lifetimePolicy ++
      namedLists "cert_options.pam" opts.pam.extensions opts.pam.lifetimePolicy ++
      namedLists "cert_options.console" opts.console.extensions opts.console.lifetimePolicy)

/-- The budgets: the client timeout, and the console's own. -/
def validateTimeouts (opts : CertificateOptions) : Except String Unit := do
  if opts.clientTimeout < signingShare then
    throw "cert_options.client_timeout must be greater than zero (the default is 5m): a disabled timeout leaves pending requests unbounded and gives the stranded-request sweep no cutoff"
  if opts.console.clientTimeout > opts.clientTimeout then
    throw ("cert_options.console.client_timeout (" ++ Duration.format opts.console.clientTimeout ++
      ") must not exceed cert_options.client_timeout (" ++ Duration.format opts.clientTimeout ++
      "): the global budget is the ceiling every per-type budget is measured against, and a type may only shorten it")
  if opts.console.clientTimeout ≠ 0 ∧ opts.console.clientTimeout < signingShare then
    throw "cert_options.console.client_timeout must be greater than zero (the default is 2m), or unset to inherit cert_options.client_timeout"

/-- The keys that were replaced by others. -/
def validateReplaced (opts : CertificateOptions) : Except String Unit := do
  firstError
    (fun entry : String × String =>
      if entry.2 = "" then .ok ()
      else .error (entry.1 ++ " has been replaced by require: move `require_group: " ++
        ext.quote entry.2 ++ "` to `require: \x7bgroup: " ++ ext.quote entry.2 ++ "\x7d`"))
    [("cert_options.user.require_group", opts.user.requireGroup),
      ("cert_options.service.require_group", opts.service.requireGroup),
      ("cert_options.pam.require_group", opts.pam.requireGroup)]
  firstError
    (fun entry : String × LifetimePolicy => firstError
      (fun rule : Nat × SourcePolicyEntry =>
        if rule.2.extensions = [] then .ok ()
        else .error (entry.1 ++ ".source_policy[" ++ toString rule.1 ++
          "].extensions has been replaced by removed_extensions: source rules now subtract extensions instead of intersecting them"))
      (entry.2.sourcePolicy.mapIdx fun i rule => (i, rule)))
    opts.lifetimePolicies

/-- `CertificateOptions.Validate`. -/
def validate (opts : CertificateOptions) : Except String Unit := do
  opts.validateTimeouts
  firstError
    (fun network : Nat × String =>
      match NetIP.parsePrefix network.2 with
      | some _ => .ok ()
      | none => .error ("cert_options.console.allowed_networks[" ++ toString network.1 ++ "]: " ++
        ext.quote network.2 ++ " is not a CIDR network (e.g. 10.20.0.0/16): " ++
        ext.prefixError network.2))
    (opts.console.allowedNetworks.mapIdx fun i cidr => (i, cidr))
  if opts.service.enrollmentDuration ≤ 0 then
    throw "cert_options.service.enrollment_duration must be greater than zero (the default is 8760h): a zero lifetime expires every enrollment code the moment it is issued"
  opts.validateReplaced ext
  opts.validateExtensionNames ext

end CertificateOptions

end Validate

end Ssoossh
