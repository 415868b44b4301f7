import Ssoossh.Server.Creation

/-!
# Deciding a request

`Detail`, `ResolveUserCode`, `Approve` in its two flows, and `Deny`
(`server/service/certrequest.go`, `server/service/certrequest_usercode.go`), with
what they tell a waiting client (`notifyWaiter`) and how a request that nobody
decided runs out (`expire`).
-/

namespace Ssoossh

open GoTime

/-! ## Telling the waiter -/

/-- The wire shape of an outcome: an unset expiry is absent. -/
def WaitOutcome.toMessage (outcome : WaitOutcome) : OutcomeMessage where
  status := outcome.status
  certificate := outcome.certificate
  code := outcome.code
  serviceAccount := outcome.serviceAccount
  expiresAt := if Time.isZero outcome.expiresAt then none else some outcome.expiresAt

/-- `notifyWaiter`.  A failed publication is only logged. -/
def notifyWaiter (id : RequestID) (outcome : WaitOutcome) : Service Unit := do
  let resolvedAt ← perform .now
  let stamped : WaitOutcome := { outcome with resolvedAt := resolvedAt }
  perform (.cachePut .notify id stamped)
  let _ ← perform (.publishWake id (some stamped.toMessage))
  pure ()

/-- `expire`: nothing is told unless this call changed the row. -/
def expire (id : RequestID) : Service Unit := do
  let now ← perform .now
  match ← perform (.write (.expire id now)) with
  | .ok true => notifyWaiter id { status := .expired }
  | _ => pure ()

/-! ## Refusing what is no longer pending -/

/-- `notPendingError`. -/
def notPendingError (row : CertificateRequest) (cutoff : Int) : ServiceError :=
  match row.status with
  | .expired => .expired "certificate request"
  | .pending =>
    if ¬ Time.isZero cutoff ∧ Time.before row.createdAt cutoff then .expired "certificate request"
    else .conflict "this certificate request is no longer pending"
  | .denied => .conflict "this certificate request was already denied"
  | _ => .conflict "this certificate request was already approved"

/-- `explainNotPending`, from the row the transaction re-read. -/
def explainNotPending (server : Server) (id : RequestID) (row : Option CertificateRequest) :
    Service Unit :=
  match row with
  | none => throw (.notFound ("certificate request " ++ server.ext.quote id))
  | some row => do
    let cutoff ← server.ttlCutoffFor row.type
    throw (notPendingError row cutoff)

/-- The transactions end in one of two ways. -/
def orExplain (server : Server) (id : RequestID) (settled : Settled) : Service Unit :=
  match settled with
  | .committed => pure ()
  | .refused row => explainNotPending server id row

/-! ## Detail and ResolveUserCode -/

/-- What the approval page shows. -/
structure RequestDetail where
  request : CertificateRequest
  requested : RequestedOptions
  narrowed : RequestedOptions
  clientPolicy : Option ClientPolicy
  selectableExtensions : List String
  principals : List String
  validDuration : Int
  expiresAt : Int
  decision : Option Decision
  trustedCAFingerprints : List Bytes

/-- The options column, decoded. -/
def decodeRequested (ext : Externals) (row : CertificateRequest) :
    Except ServiceError RequestedOptions :=
  match RequestedOptions.unmarshal row.requestedOptions with
  | some requested => .ok requested
  | none => .error (.internal
    ("failed to decode requested options: " ++ ext.jsonError row.requestedOptions))

/-- Every principal passes `ValidatePrincipal`. -/
def validatePrincipals (ext : Externals) (principals : List String) : Except ServiceError Unit :=
  forM principals fun principal =>
    (validatePrincipal ext principal).mapError fun e => .internal ("invalid principal: " ++ e)

theorem validatePrincipals_eq_ok {ext : Externals} {principals : List String} :
    validatePrincipals ext principals = .ok () ↔
      ∀ principal ∈ principals, validatePrincipal ext principal = .ok () := by
  simp only [validatePrincipals, Fallible.forM_eq_ok, Fallible.mapError_eq_ok]

/-- `Detail`: who opens a request is bound to it, unless somebody was before. -/
def detail (server : Server) (id : RequestID) (identity : Identity) : Service RequestDetail := do
  let found ← lookupRequest server.ext .elsewhere id
  let user ← resolveUser identity
  let row ← bindRequester found user
  let requested ← lift (decodeRequested server.ext row)
  let policy ← lift (server.policyFor row.type)
  let decision : Option Decision ← read (.decision row.id)
    "failed to look up certificate request decision"
  let principals := policy.principals identity []
  lift (validatePrincipals server.ext principals)
  pure
    { request := row
      requested := requested
      narrowed := narrowRequestedOptions policy requested
      clientPolicy := row.host.clientPolicy
      selectableExtensions := policy.extensions
      principals := principals
      validDuration := policy.validDuration
      expiresAt := Time.add row.createdAt policy.approvalTTL
      decision := decision
      trustedCAFingerprints := row.host.trustedCAFingerprints }

/-- Whether a pending row is past its type's budget. -/
def pastCutoff (row : CertificateRequest) (cutoff : Int) : Bool :=
  !Time.isZero cutoff && Time.before row.createdAt cutoff

/-- `ResolveUserCode`. -/
def resolveUserCode (server : Server) (submitted : String) (identity : Identity) :
    Service RequestID := do
  let code ← lift ((normalizeUserCode server.ext submitted).mapError fun e =>
    .invalidRequest ("that is not a valid code: " ++ e))
  match ← read (.liveRequestByCode code) "failed to look up certificate request by user code" with
  | none => throw (.notFound "console login request for that code")
  | some row => do
    if row.status = .pending then
      let cutoff ← server.ttlCutoffFor row.type
      if pastCutoff row cutoff then
        expire row.id
        throw (.expired "console login request")
    let user ← resolveUser identity
    let bound ← bindRequester row user
    pure bound.id

/-! ## Approve -/

/-- `checkApproverAuthorization`: the condition of the type, then what is selected. -/
def checkApproverAuthorization (certType : CertificateType) (policy : CertTypePolicy)
    (identity : Identity) (selection : ApprovalSelection) : Except ServiceError Unit :=
  if policy.require.any fun condition => !condition.evaluate identity then
    .error (.forbidden ("identity is not authorized to approve " ++ certType.name ++
      " certificates"))
  else policy.linkage identity selection

/-- Who passes: the approvers the type's condition names, if it has one, whose choice
is linked to them. -/
theorem checkApproverAuthorization_eq_ok {certType : CertificateType} {policy : CertTypePolicy}
    {identity : Identity} {selection : ApprovalSelection} :
    checkApproverAuthorization certType policy identity selection = .ok () ↔
      (∀ condition ∈ policy.require, condition.evaluate identity = true) ∧
        policy.linkage identity selection = .ok () := by
  unfold checkApproverAuthorization
  cases policy.require with
  | none => simp
  | some condition => by_cases meets : condition.evaluate identity <;> simp [meets]

/-- Key types, as configuration names them. -/
inductive SSHKeyType
  | ed25519
  | ecdsa
  | rsa
  deriving DecidableEq

/-- `fipsmode.FromSSHAlgorithm`. -/
def fromSSHAlgorithm (algorithm : String) : Option SSHKeyType :=
  if algorithm = "ssh-ed25519" then some .ed25519
  else if algorithm = "ssh-rsa" then some .rsa
  else if algorithm = "ecdsa-sha2-nistp256" ∨ algorithm = "ecdsa-sha2-nistp384" ∨
      algorithm = "ecdsa-sha2-nistp521" then some .ecdsa
  else none

/-- `fipsmode.IsApprovedInFIPS`. -/
def isApprovedInFIPS (keyType : SSHKeyType) : Bool := [SSHKeyType.ecdsa, .rsa].contains keyType

/-- `checkFIPSApproved`. -/
def checkFIPSApproved (ext : Externals) (authorizedKey : String) : Except ServiceError Unit := do
  let key ← (ext.parseAuthorizedKey authorizedKey).mapError fun e =>
    .internal ("failed to parse public key: " ++ e)
  if (fromSSHAlgorithm key.algorithm).any isApprovedInFIPS then pure ()
  else throw (.internal ("public key algorithm " ++ ext.quote key.algorithm ++
    " is not FIPS-approved"))

/-- `newDecision`. -/
def newDecision (decisionID : String) (row : CertificateRequest) (outcome : DecisionOutcome)
    (identity : Identity) (dc : DecisionContext) (decidedAt : Int)
    (explanation : Option PolicyExplanation) : Decision where
  id := decisionID
  certificateRequestID := row.id
  outcome := outcome
  subject := identity.subject
  username := identity.username
  email := identity.email
  groups := identity.groups
  otherAccounts := identity.otherAccounts
  serviceAccounts := identity.serviceAccounts
  sourceIP := dc.sourceIP
  userAgent := dc.userAgent
  acceptLanguage := dc.acceptLanguage
  forwardedFor := dc.forwardedFor
  policyExplanation := explanation
  reportedUsername := row.reportedIdentity.1
  reportedHostname := row.reportedIdentity.2
  pamService := row.host.pamService
  tty := row.host.tty
  remoteHost := row.host.remoteHost
  requestingUser := row.host.requestingUser
  process := row.host.process
  machineID := row.host.machineID
  client := row.host.client
  decidedAt := decidedAt

/-- `executeKeyIDTemplate` on an approver's data. -/
def renderKeyID (ext : Externals) (policy : CertTypePolicy) (identity : Identity)
    (row : CertificateRequest) : Except ServiceError String :=
  (ext.executeTemplate policy.keyIDTemplate
    (newKeyIDTemplateData identity row.sourceIP row.id)).mapError fun e =>
      .internal ("failed to compute key ID: " ++ e)

def serialMask : Nat := 2 ^ 63

/-- `serial.New`: 64 random bits with the high bit cleared. -/
def newSerial : Service Nat := do
  match ← perform (.random 8) with
  | .ok bytes => pure (GoText.bigEndian bytes % serialMask)
  | .error e => throw (.internal
    ("failed to allocate certificate serial: failed to generate certificate serial: " ++ e))

def maxNotificationEmailLength : Nat := 320

/-- `validateNotificationEmail`. -/
def validateNotificationEmail (ext : Externals) (address : String) : Except ServiceError String :=
  let trimmed := GoText.trimSpace address
  if trimmed = "" then .ok ""
  else if trimmed.utf8ByteSize > maxNotificationEmailLength then
    .error (.invalidRequest ("notification address is " ++ toString trimmed.utf8ByteSize ++
      " characters, over the " ++ toString maxNotificationEmailLength ++ " limit"))
  else if !ext.isMailAddress trimmed then
    .error (.invalidRequest (ext.quote trimmed ++ " is not a valid email address"))
  else .ok trimmed

/-- `recordApproverExtensions`: an approver's choice is recorded as the input it is. -/
def recordApproverExtensions (explanation : PolicyExplanation) (selected : Option (List String))
    (narrowed requestedByClient : List String) : PolicyExplanation :=
  match selected, explanation.extensions with
  | some _, some account =>
    { explanation with
      extensions := some
        { account with approverSelected := narrowed, requested := requestedByClient } }
  | _, _ => explanation

/-- `approveServiceEnrollment`: all in one transaction. -/
def approveServiceEnrollment (server : Server) (row : CertificateRequest)
    (narrowed : RequestedOptions) (requestedByClient : List String) (identity : Identity)
    (policy : CertTypePolicy) (dc : DecisionContext) (selection : ApprovalSelection) :
    Service Unit := do
  let notificationEmail ← lift (validateNotificationEmail server.ext selection.notificationEmail)
  let outcome := server.compiled.engine.evaluate row.type identity row.sourceIP
    policy.validDuration policy.enrollmentDuration
  let granted := outcome.narrowOptions narrowed row.sourceIP
  let explanation := recordApproverExtensions granted.2.explanation selection.extensions
    granted.1.extensions requestedByClient
  let keyID ← lift (renderKeyID server.ext policy identity row)
  lift (validatePrincipals server.ext [selection.serviceAccount])
  let token ← perform .newUUID
  let enrollmentID ← perform .newUUID
  let now ← perform .now
  let expiresAt := Time.truncate (Time.add now outcome.enrollmentDuration) Duration.microsecond
  let decisionID ← perform .newUUID
  let decision := newDecision decisionID row .approved identity dc now (some explanation)
  let grant : ServiceGrant :=
    { requestID := row.id
      enrollmentID := enrollmentID
      token := token
      publicKey := row.publicKey
      keyID := keyID
      serviceAccount := selection.serviceAccount
      options := granted.1
      effectiveDuration := outcome.duration
      userID := row.userID.getD ""
      createdAt := now
      expiresAt := expiresAt
      notificationEmail := notificationEmail }
  let settled ← transaction (.approveServiceEnrollment grant decision)
    ["failed to mark certificate request as enrolled", "failed to create enrollment",
      "failed to record approval decision"]
  orExplain server row.id settled
  notifyWaiter row.id
    { status := .enrolled
      code := token
      serviceAccount := selection.serviceAccount
      expiresAt := expiresAt }

/-- `approveForSigning`: row and decision in one transaction, and then the job is published. -/
def approveForSigning (server : Server) (row : CertificateRequest) (identity : Identity)
    (policy : CertTypePolicy) (narrowed : RequestedOptions) (dc : DecisionContext)
    (selectedPrincipals : List String) : Service Unit := do
  let keyID ← lift (renderKeyID server.ext policy identity row)
  let serial ← newSerial
  let now ← perform .now
  let outcome := server.compiled.engine.evaluate row.type identity row.sourceIP
    policy.validDuration 0
  let granted := outcome.narrowOptions narrowed row.sourceIP
  let principals := policy.principals identity selectedPrincipals
  ensure (principals ≠ []) (.internal ("refusing to sign a certificate with no principals for " ++
    row.type.name ++ " request " ++ server.ext.quote row.id))
  lift (validatePrincipals server.ext principals)
  let decisionID ← perform .newUUID
  let decision :=
    { newDecision decisionID row .approved identity dc now (some granted.2.explanation) with
      principals := some principals
      grantedOptions := some granted.1 }
  let settled ← transaction (.approveForSigning row.id serial granted.1.marshal decision)
    ["failed to mark certificate request as signing", "failed to record approval decision"]
  orExplain server row.id settled
  match ← perform (.publishJob
    { requestID := row.id
      type := row.type
      publicKey := row.publicKey
      principals := principals
      keyID := keyID
      requestedOptions := granted.1
      validAfter := now
      validBefore := Time.add now outcome.duration
      serial := serial }) with
  | .ok _ => pure ()
  | .error e => throw (.internal ("failed to publish signing job: " ++ e))

/-- The first checks of `Approve`: still pending, and within its budget. -/
def ensureApprovable (server : Server) (row : CertificateRequest) : Service Unit := do
  let cutoff ← server.ttlCutoffFor row.type
  if row.status ≠ .pending then
    throw (notPendingError row cutoff)
  else if pastCutoff row cutoff then
    expire row.id
    throw (notPendingError row cutoff)

/-- What is requested once the approver's choice stands in for the client's. -/
def withSelection (requested : RequestedOptions) (selection : ApprovalSelection) :
    RequestedOptions :=
  { requested with extensions := selection.extensions.getD requested.extensions }

/-- `Approve`.  The claims of the approver come from their user row. -/
def approve (server : Server) (id : RequestID) (session : Identity) (dc : DecisionContext)
    (selection : ApprovalSelection) : Service Unit := do
  let found ← lookupRequest server.ext .elsewhere id
  ensureApprovable server found
  let requested ← lift (decodeRequested server.ext found)
  let policy ← lift (server.policyFor found.type)
  let clientNarrowed := narrowRequestedOptions policy requested
  let narrowed := narrowRequestedOptions policy (withSelection requested selection)
  let user ← resolveUser session
  let identity := { session with extra := decodeExtraFields server.ext user.extraFields }
  lift (checkApproverAuthorization found.type policy identity selection)
  let row ← bindRequester found user
  lift (if server.fipsEnabled then checkFIPSApproved server.ext row.publicKey else .ok ())
  match policy.flow with
  | .enrollment =>
    approveServiceEnrollment server row narrowed clientNarrowed.extensions identity policy dc
      selection
  | .signing =>
    approveForSigning server row identity policy narrowed dc selection.principals
  | .unsupported => throw (.internal ("unsupported certificate approval flow for " ++ row.type.name))

/-! ## Deny -/

/-- `Deny`. -/
def deny (server : Server) (id : RequestID) (identity : Identity) (dc : DecisionContext) :
    Service Unit := do
  let now ← perform .now
  let found ← lookupRequest server.ext .elsewhere id
  let decisionID ← perform .newUUID
  let decision := newDecision decisionID found .denied identity dc now none
  let user ← resolveUser identity
  let row ← bindRequester found user
  let cutoff ← server.ttlCutoffFor row.type
  let settled ← transaction (.deny id cutoff now decision)
    ["failed to deny certificate request", "failed to record denial decision"]
  orExplain server id settled
  notifyWaiter id { status := .denied }

end Ssoossh
