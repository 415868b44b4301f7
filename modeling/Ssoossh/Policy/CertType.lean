import Ssoossh.Policy.Lifetime

/-!
# What each certificate type allows

The table of per-type policies (`server/service/certtypepolicy.go`), the accounts
an identity holds and the linkage checks over them (`server/service/certrequest.go`),
the key ID templates (`server/service/keyid.go`), and `compileCertOptions`, which
builds all of it from the configuration at startup.

Two facts about this layer carry the guarantees of an approval.  The bounds of a
compiled policy are those of the configuration, type by type (`Bounds`), and what
a linkage check lets through are accounts the identity holds
(`checkUserPrincipalLinkage_eq_ok`, `checkServiceAccountLinkage_eq_ok`).
-/

namespace Ssoossh

open GoTime List Fallible

/-! ## Names of accounts -/

/-- The characters of `principalRegex`. -/
def principalChar (c : Char) : Bool :=
  c.isAlphanum || c == '.' || c == '_' || c == '-'

/-- `ValidatePrincipal`.  The length is in bytes. -/
def validatePrincipal (ext : Externals) (principal : String) : Except String Unit := do
  if principal = "" then
    throw "principal cannot be empty"
  if principal.utf8ByteSize > 255 then
    throw "principal exceeds maximum length of 255 characters"
  if !principal.toList.all principalChar then
    throw ("principal contains invalid characters: " ++ ext.quote principal)

/-- An accumulator that takes every name once. -/
def appendNew (accounts : List String) (account : String) : List String :=
  if accounts.contains account then accounts else accounts ++ [account]

/-- An accumulator that takes every name but the empty one once. -/
def appendNamed (accounts : List String) (account : String) : List String :=
  if account != "" && !accounts.contains account then accounts ++ [account] else accounts

variable {accounts : List String} {account : String}

theorem mem_appendNew {name : String} :
    account ∈ appendNew accounts name ↔ account ∈ accounts ∨ account = name := by
  unfold appendNew
  split_ifs with known
  · refine ⟨.inl, ?_⟩
    rintro (old | rfl)
    · exact old
    · simpa using known
  · simp

theorem mem_appendNamed {name : String} :
    account ∈ appendNamed accounts name ↔ account ∈ accounts ∨ (account ≠ "" ∧ account = name) := by
  unfold appendNamed
  split_ifs with fresh
  · simp only [Bool.and_eq_true, bne_iff_ne] at fresh
    simp only [mem_append, mem_singleton]
    refine or_congr_right ⟨?_, And.right⟩
    rintro rfl
    exact ⟨fresh.1, rfl⟩
  · refine ⟨.inl, ?_⟩
    rintro (old | ⟨named, rfl⟩)
    · exact old
    · simpa [named] using fresh

variable {names : List String}

theorem mem_foldl_appendNew :
    account ∈ names.foldl appendNew accounts ↔ account ∈ accounts ∨ account ∈ names := by
  induction names generalizing accounts with
  | nil => simp
  | cons name names ih => rw [foldl_cons, ih, mem_appendNew, mem_cons, or_assoc]

theorem mem_foldl_appendNamed : account ∈ names.foldl appendNamed accounts ↔
      account ∈ accounts ∨ (account ≠ "" ∧ account ∈ names) := by
  induction names generalizing accounts with
  | nil => simp
  | cons name names ih =>
    rw [foldl_cons, ih, mem_appendNamed, mem_cons, or_assoc, ← and_or_left]

theorem nodup_foldl_appendNamed (nodup : accounts.Nodup) :
    (names.foldl appendNamed accounts).Nodup := by
  induction names generalizing accounts with
  | nil => exact nodup
  | cons name names ih =>
    refine ih ?_
    unfold appendNamed
    split_ifs with fresh
    · have : name ∉ accounts := by simp at fresh; exact fresh.2
      simpa [nodup_append] using
        ⟨nodup, fun a member (same : a = name) => this (same ▸ member)⟩
    · exact nodup

/-! ## The accounts an identity holds -/

/-- `heldAccounts`. -/
def heldAccounts (identity : Identity) : List String :=
  identity.otherAccounts.foldl appendNew [identity.username]

variable {identity : Identity}

@[simp] theorem mem_heldAccounts :
    account ∈ heldAccounts identity ↔
      account = identity.username ∨ account ∈ identity.otherAccounts := by
  simp [heldAccounts, mem_foldl_appendNew]

/-- `ApprovableServiceAccounts`: the claimed accounts, and the approver's own if allowed. -/
def approvableServiceAccounts (identity : Identity) (allowUserAccounts : Bool) : List String :=
  let claimed := identity.serviceAccounts.foldl appendNamed []
  if allowUserAccounts then (heldAccounts identity).foldl appendNamed claimed else claimed

theorem mem_approvableServiceAccounts {allowUserAccounts : Bool} :
    account ∈ approvableServiceAccounts identity allowUserAccounts ↔
      account ≠ "" ∧ (account ∈ identity.serviceAccounts ∨
        (allowUserAccounts ∧ account ∈ heldAccounts identity)) := by
  cases allowUserAccounts <;>
    simp only [approvableServiceAccounts, Bool.false_eq_true, if_true, if_false,
      mem_foldl_appendNamed, not_mem_nil, false_or, false_and, or_false, true_and]
  tauto

theorem nodup_approvableServiceAccounts (identity : Identity) (allowUserAccounts : Bool) :
    (approvableServiceAccounts identity allowUserAccounts).Nodup := by
  have claimed : (identity.serviceAccounts.foldl appendNamed []).Nodup :=
    nodup_foldl_appendNamed nodup_nil
  cases allowUserAccounts with
  | false => exact claimed
  | true => exact nodup_foldl_appendNamed claimed

/-- `UserOwnServiceAccounts`. -/
def userOwnServiceAccounts (identity : Identity) (allowUserAccounts : Bool) : List String :=
  if allowUserAccounts then
    ((heldAccounts identity).filter fun account =>
      account != "" && !identity.serviceAccounts.contains account).foldl appendNew []
  else []

/-! ## Linkage -/

section Linkage

variable (ext : Externals)

/-- `checkServiceAccountLinkage`. -/
def checkServiceAccountLinkage (identity : Identity) (serviceAccount : String)
    (allowUserAccounts : Bool) : Except ServiceError Unit :=
  if serviceAccount = "" then
    .error (.invalidRequest "approving a service certificate requires choosing a service account")
  else if identity.serviceAccounts.contains serviceAccount then .ok ()
  else if allowUserAccounts && (heldAccounts identity).contains serviceAccount then .ok ()
  else .error (.forbidden
    ("identity is not associated with service account " ++ ext.quote serviceAccount))

/-- `checkUserPrincipalLinkage`: nobody gets a principal they do not hold. -/
def checkUserPrincipalLinkage (identity : Identity) (selected : List String) :
    Except ServiceError Unit :=
  forM selected fun principal =>
    if (heldAccounts identity).contains principal then .ok ()
    else .error (.forbidden ("approver does not hold principal " ++ ext.quote principal))

variable {ext}

theorem checkServiceAccountLinkage_eq_ok {serviceAccount : String} {allowUserAccounts : Bool} :
    checkServiceAccountLinkage ext identity serviceAccount allowUserAccounts = .ok () ↔
      serviceAccount ≠ "" ∧ (serviceAccount ∈ identity.serviceAccounts ∨
        (allowUserAccounts ∧ serviceAccount ∈ heldAccounts identity)) := by
  unfold checkServiceAccountLinkage
  split_ifs with empty claimed own
  · simp [empty]
  · simp only [contains_iff_mem] at claimed
    simp [empty, claimed]
  · simp only [Bool.and_eq_true, contains_iff_mem] at own
    exact iff_of_true rfl ⟨empty, .inr own⟩
  · simp only [Bool.and_eq_true, contains_iff_mem] at claimed own
    exact iff_of_false (by simp) fun linked => linked.2.elim claimed own

theorem checkUserPrincipalLinkage_eq_ok {selected : List String} :
    checkUserPrincipalLinkage ext identity selected = .ok () ↔
      ∀ principal ∈ selected, principal ∈ heldAccounts identity := by
  rw [checkUserPrincipalLinkage, forM_eq_ok]
  refine forall₂_congr fun principal _ => ?_
  split_ifs with held
  · simpa using held
  · simpa using held

end Linkage

/-! ## Key IDs -/

/-- Stands for an empty field in a key ID. -/
def missingPlaceholder : String := "MISSING"

/-- `orMissing`. -/
def orMissing (s : String) : String := if s = "" then missingPlaceholder else s

/-- `newKeyIDTemplateData`. -/
def newKeyIDTemplateData (identity : Identity) (clientIP uniqueID : String) : KeyIDTemplateData where
  username := orMissing identity.username
  subject := orMissing identity.subject
  email := orMissing identity.email
  clientIP := orMissing clientIP
  uniqueID := orMissing uniqueID
  extra := identity.extra

def defaultUserServiceKeyIDTemplate : String := "\x7b\x7b.Username\x7d\x7d"
def defaultPAMKeyIDTemplate : String := "pam:\x7b\x7b.Username\x7d\x7d"
def defaultConsoleKeyIDTemplate : String := "console:\x7b\x7b.Username\x7d\x7d"

/-- The templates of the four types, by their source text. -/
structure KeyIDTemplates where
  user : String
  service : String
  pam : String
  console : String

section Compile

variable (ext : Externals)

/-- `parseKeyIDTemplate`: parsed, and executed once on the zero data. -/
def parseKeyIDTemplate (name src : String) : Except String String :=
  match ext.executeTemplate src {} with
  | .ok _ => .ok src
  | .error e => .error ("invalid key_id_template for " ++ name ++ " certificates: " ++ e)

/-- `newKeyIDTemplates`.  Only the service type falls back to the user type's. -/
def newKeyIDTemplates (opts : CertificateOptions) : Except String KeyIDTemplates := do
  let orDefault (src default : String) : String := if src = "" then default else src
  let userSrc := orDefault opts.user.keyIDTemplate defaultUserServiceKeyIDTemplate
  let user ← parseKeyIDTemplate ext "user" userSrc
  let service ← parseKeyIDTemplate ext "service" (orDefault opts.service.keyIDTemplate userSrc)
  let pam ← parseKeyIDTemplate ext "pam" (orDefault opts.pam.keyIDTemplate defaultPAMKeyIDTemplate)
  let console ← parseKeyIDTemplate ext "console"
    (orDefault opts.console.keyIDTemplate defaultConsoleKeyIDTemplate)
  return ⟨user, service, pam, console⟩

/-! ## The policies of the types -/

/-- How an approved request goes on. -/
inductive CertApprovalFlow
  | unsupported
  | enrollment
  | signing
  deriving DecidableEq, Repr

/-- Everything about a certificate type that an approval consults. -/
structure CertTypePolicy where
  require : Option ParsedCondition
  validDuration : Int
  enrollmentDuration : Int := 0
  extensions : List String
  noTouchEligible : Bool := false
  keyIDTemplate : String
  principals : Identity → List String → List String
  flow : CertApprovalFlow
  linkage : Identity → ApprovalSelection → Except ServiceError Unit
  clientTimeout : Int
  allowedNetworks : List NetIP.Prefix := []
  usesUserCode : Bool := false

/-- `certTypePolicy.approvalTTL`. -/
def CertTypePolicy.approvalTTL (policy : CertTypePolicy) : Int :=
  approvalTTLFor policy.clientTimeout

/-- `certTypePolicy.permitsSource`: without networks any source, and else only one in them. -/
def CertTypePolicy.permitsSource (policy : CertTypePolicy) (sourceIP : String) : Bool :=
  if policy.allowedNetworks.isEmpty then true
  else match NetIP.parseAddr sourceIP with
    | none => false
    | some addr => policy.allowedNetworks.any fun network => network.contains addr.unmap

/-- `narrowRequestedOptions`.  The two fields it does not name are dropped. -/
def narrowRequestedOptions (policy : CertTypePolicy) (requested : RequestedOptions) :
    RequestedOptions where
  extensions := intersectStrings requested.extensions policy.extensions
  noTouchRequired := requested.noTouchRequired && policy.noTouchEligible

/-- The policy table, one entry for each known type. -/
structure CertTypePolicies where
  user : CertTypePolicy
  service : CertTypePolicy
  pam : CertTypePolicy
  console : CertTypePolicy

/-- The lookup. -/
def CertTypePolicies.get? (policies : CertTypePolicies) : CertificateType → Option CertTypePolicy
  | .user => some policies.user
  | .service => some policies.service
  | .pam => some policies.pam
  | .console => some policies.console
  | .other _ => none

/-- `parseRequire`. -/
def parseRequire (cond : Option PolicyCondition) (label : String) (declaredClaims : List String) :
    Except String (Option ParsedCondition) :=
  match cond with
  | none => .ok none
  | some cond =>
    if cond.isZero then .ok none
    else ((parseCondition ext declaredClaims cond).mapError fun e => label ++ ": " ++ e).map some

/-- `parseAllowedNetworks`. -/
def parseAllowedNetworks (cidrs : List String) (label : String) :
    Except String (List NetIP.Prefix) :=
  (cidrs.mapIdx fun i cidr => (i, cidr)).mapM fun entry =>
    match NetIP.parsePrefix entry.2 with
    | some network => .ok network
    | none => .error (label ++ "[" ++ toString entry.1 ++ "]: invalid CIDR " ++
      ext.quote entry.2 ++ ": " ++ ext.prefixError entry.2)

/-- The principals of a user certificate: the selection, or the username. -/
def userPrincipals (identity : Identity) (selected : List String) : List String :=
  if selected.isEmpty then [identity.username] else selected

/-- The placeholder of the service type, which an enrollment never consults. -/
def servicePrincipals (identity : Identity) (_selected : List String) : List String :=
  [identity.username]

/-- The principals of a PAM or console certificate: the selection, or every account
held. -/
def localAuthPrincipals (identity : Identity) (selected : List String) : List String :=
  if selected.isEmpty then heldAccounts identity else selected

/-- `newCertTypePolicies`. -/
def newCertTypePolicies (opts : CertificateOptions) (templates : KeyIDTemplates)
    (declaredClaims : List String) : Except String CertTypePolicies := do
  let requireUser ← parseRequire ext opts.user.require "cert_options.user.require" declaredClaims
  let requireService ← parseRequire ext opts.service.require "cert_options.service.require"
    declaredClaims
  let requirePAM ← parseRequire ext opts.pam.require "cert_options.pam.require" declaredClaims
  let requireConsole ← parseRequire ext opts.console.require "cert_options.console.require"
    declaredClaims
  let consoleNetworks ← parseAllowedNetworks ext opts.console.allowedNetworks
    "cert_options.console.allowed_networks"
  let consoleTimeout :=
    if opts.console.clientTimeout ≤ 0 then opts.clientTimeout else opts.console.clientTimeout
  return {
    user :=
      { require := requireUser
        validDuration := opts.user.validDuration
        extensions := opts.user.extensions
        keyIDTemplate := templates.user
        principals := userPrincipals
        flow := .signing
        clientTimeout := opts.clientTimeout
        linkage := fun identity selection =>
          checkUserPrincipalLinkage ext identity selection.principals }
    service :=
      { require := requireService
        validDuration := opts.service.validDuration
        enrollmentDuration := opts.service.enrollmentDuration
        extensions := opts.service.extensions
        noTouchEligible := true
        keyIDTemplate := templates.service
        principals := servicePrincipals
        flow := .enrollment
        clientTimeout := opts.clientTimeout
        linkage := fun identity selection => checkServiceAccountLinkage ext identity
          selection.serviceAccount opts.service.allowUserAccounts }
    pam :=
      { require := requirePAM
        validDuration := opts.pam.validDuration
        extensions := opts.pam.extensions
        keyIDTemplate := templates.pam
        principals := localAuthPrincipals
        flow := .signing
        clientTimeout := opts.clientTimeout
        linkage := fun identity selection =>
          checkUserPrincipalLinkage ext identity selection.principals }
    console :=
      { require := requireConsole
        validDuration := opts.console.validDuration
        extensions := opts.console.extensions
        keyIDTemplate := templates.console
        principals := localAuthPrincipals
        flow := .signing
        clientTimeout := consoleTimeout
        allowedNetworks := consoleNetworks
        usesUserCode := true
        linkage := fun identity selection =>
          checkUserPrincipalLinkage ext identity selection.principals } }

/-- What the service decides with, built once at startup. -/
structure CompiledOptions where
  engine : LifetimePolicyEngine
  policies : CertTypePolicies

/-- `compileCertOptions`. -/
def compileCertOptions (opts : CertificateOptions) (declaredClaims : List String) :
    Except String CompiledOptions := do
  let templates ← newKeyIDTemplates ext opts
  let engine ← newLifetimePolicyEngine ext opts declaredClaims
  let policies ← newCertTypePolicies ext opts templates declaredClaims
  return ⟨engine, policies⟩

end Compile

/-! ## What compiling keeps -/

/-- `cert_options.<type>.valid_duration`. -/
def CertificateOptions.validDurationFor (opts : CertificateOptions) : CertificateType → Int
  | .user => opts.user.validDuration
  | .service => opts.service.validDuration
  | .pam => opts.pam.validDuration
  | .console => opts.console.validDuration
  | .other _ => 0

variable {opts : CertificateOptions}

/-- Durations that fit, type by type. -/
theorem CertificateOptions.fits_validDurationFor (user : Duration.Fits opts.user.validDuration)
    (service : Duration.Fits opts.service.validDuration)
    (pam : Duration.Fits opts.pam.validDuration)
    (console : Duration.Fits opts.console.validDuration) :
    ∀ certType, Duration.Fits (opts.validDurationFor certType)
  | .user => user
  | .service => service
  | .pam => pam
  | .console => console
  | .other _ => ⟨by show minInt64 ≤ 0; decide, by show 0 ≤ maxInt64; decide⟩

/-- `cert_options.<type>.extensions`. -/
def CertificateOptions.extensionsFor (opts : CertificateOptions) : CertificateType → List String
  | .user => opts.user.extensions
  | .service => opts.service.extensions
  | .pam => opts.pam.extensions
  | .console => opts.console.extensions
  | .other _ => []

/-- `cert_options.<type>.lifetime_policy`. -/
def CertificateOptions.lifetimePolicyFor (opts : CertificateOptions) :
    CertificateType → LifetimePolicy
  | .user => opts.user.lifetimePolicy
  | .service => opts.service.lifetimePolicy
  | .pam => opts.pam.lifetimePolicy
  | .console => opts.console.lifetimePolicy
  | .other _ => {}

/-- The budget of a type: its own where it has one, else the global one. -/
def CertificateOptions.clientTimeoutFor (opts : CertificateOptions) : CertificateType → Int
  | .console => if opts.console.clientTimeout ≤ 0 then opts.clientTimeout
    else opts.console.clientTimeout
  | _ => opts.clientTimeout

/-- What the policy of a type takes from the configuration, and what its two
functions can return. -/
structure CertTypePolicy.Bounds (ext : Externals) (opts : CertificateOptions)
    (certType : CertificateType) (policy : CertTypePolicy) : Prop where
  validDuration : policy.validDuration = opts.validDurationFor certType
  extensions : policy.extensions = opts.extensionsFor certType
  clientTimeout : policy.clientTimeout = opts.clientTimeoutFor certType
  noTouchEligible : policy.noTouchEligible = decide (certType = .service)
  flow : policy.flow = if certType = .service then .enrollment else .signing
  /-- Linked principals of a signing type are accounts the identity holds. -/
  held : certType ≠ .service → ∀ identity selection, policy.linkage identity selection = .ok () →
    ∀ principal ∈ policy.principals identity selection.principals,
      principal ∈ heldAccounts identity
  /-- For the service type linkage is a check of the one account chosen. -/
  linked : certType = .service → ∀ identity selection, policy.linkage identity selection =
    checkServiceAccountLinkage ext identity selection.serviceAccount opts.service.allowUserAccounts

variable {ext : Externals}

/-- A selection that is linked, and what stands for an absent one, are held. -/
private theorem held_of_linked {selected : List String} {fallback : List String}
    (within : ∀ account ∈ fallback, account ∈ heldAccounts identity)
    (linked : checkUserPrincipalLinkage ext identity selected = .ok ()) :
    ∀ principal ∈ (if selected.isEmpty then fallback else selected),
      principal ∈ heldAccounts identity := by
  split_ifs
  · exact within
  · exact checkUserPrincipalLinkage_eq_ok.mp linked

/-- **Compiling keeps the configured bounds**, for every type. -/
theorem bounds_of_compile {declaredClaims : List String} {compiled : CompiledOptions}
    {certType : CertificateType} {policy : CertTypePolicy}
    (accepted : compileCertOptions ext opts declaredClaims = .ok compiled)
    (found : compiled.policies.get? certType = some policy) : policy.Bounds ext opts certType := by
  simp only [compileCertOptions, newCertTypePolicies, bind_eq_ok,
    pure_eq_ok] at accepted
  obtain ⟨templates, -, engine, -, policies, ⟨_, -, _, -, _, -, _, -, _, -, rfl⟩, rfl⟩ := accepted
  cases certType with
  | other => simp [CertTypePolicies.get?] at found
  | user =>
    obtain rfl := Option.some.inj found
    refine ⟨rfl, rfl, rfl, rfl, rfl, fun _ identity selection linked => ?_, by simp⟩
    exact held_of_linked (by simp) linked
  | service =>
    obtain rfl := Option.some.inj found
    exact ⟨rfl, rfl, rfl, rfl, rfl, by simp, fun _ _ _ => rfl⟩
  | pam | console =>
    obtain rfl := Option.some.inj found
    refine ⟨rfl, rfl, rfl, rfl, rfl, fun _ identity selection linked => ?_, by simp⟩
    exact held_of_linked (fun _ held => held) linked

/-- A configured lifetime policy and its compiled form agree, for every type. -/
theorem compilesTo_of_compile {declaredClaims : List String} {compiled : CompiledOptions}
    {certType : CertificateType} {policy : ParsedLifetimePolicy}
    (accepted : compileCertOptions ext opts declaredClaims = .ok compiled)
    (configured : compiled.engine.policyFor certType = some policy) :
    (opts.lifetimePolicyFor certType).CompilesTo ext declaredClaims policy := by
  simp only [compileCertOptions, newLifetimePolicyEngine, bind_eq_ok,
    pure_eq_ok] at accepted
  obtain ⟨_, -, engine, ⟨_, user, _, service, _, pam, _, console, rfl⟩, _, -, rfl⟩ := accepted
  cases certType with
  | user => exact compilesTo_of_compilePolicy (user.trans (congrArg _ configured))
  | service => exact compilesTo_of_compilePolicy (service.trans (congrArg _ configured))
  | pam => exact compilesTo_of_compilePolicy (pam.trans (congrArg _ configured))
  | console => exact compilesTo_of_compilePolicy (console.trans (congrArg _ configured))
  | other => simp [LifetimePolicyEngine.policyFor] at configured

end Ssoossh
