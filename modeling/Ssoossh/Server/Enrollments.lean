import Ssoossh.Server.Decisions

/-!
# Redeeming an enrollment code

`EnrollmentService` (`server/service/enrollment.go`): `Retrieve`, which turns a code
into a certificate under what was fixed when the enrollment was approved, and the
two calls by which a holder of the service account changes an enrollment.  Also the
login's `upsertUser` (`server/service/auth.go`), which is where user rows come from.
-/

namespace Ssoossh

open GoTime

/-- What `Retrieve` has in hand while it waits for the signer. -/
structure PendingRetrieval where
  enrollmentID : EnrollmentID
  retrievalID : RetrievalID
  serial : Nat
  retrievedAt : Int

/-- `notifyExpiredAttempt`, up to the mail it queues. -/
def notifyExpiredAttempt (server : Server) (enrollment : Enrollment) (attemptedAt : Int) :
    Service Unit :=
  if server.expiredAttemptWindow ≤ 0 then pure ()
  else do
    let _ ← perform (.write
      (.claimExpiredAttempt enrollment.id attemptedAt server.expiredAttemptWindow))
    pure ()

/-- The stored principals. -/
def storedPrincipals (ext : Externals) (enrollment : Enrollment) :
    Except ServiceError (List String) :=
  let missing : ServiceError := .internal ("enrollment " ++ ext.quote enrollment.id ++
    " has no stored principals; re-enroll the service")
  match unmarshalStrings enrollment.principals with
  | some [] => .error missing
  | some principals => .ok principals
  | none => .error missing

/-- The stored options. -/
def storedOptions (ext : Externals) (enrollment : Enrollment) :
    Except ServiceError RequestedOptions :=
  match RequestedOptions.unmarshal enrollment.optionSet with
  | some options => .ok options
  | none => .error (.internal
    ("failed to decode enrollment option set: " ++ ext.jsonError enrollment.optionSet))

/-- When a certificate redeemed now ends.  A row without a duration is from before
there was one, and ends with its code. -/
def retrievalEnd (enrollment : Enrollment) (now : Int) : Int :=
  match enrollment.certificateDurationSeconds with
  | none => enrollment.expiresAt
  | some seconds => Time.add now (wrapInt64 (seconds * Duration.second))

/-- `Retrieve`, up to the wait for the signer. -/
def retrieve (server : Server) (code sourceIP : String) : Service PendingRetrieval := do
  match ← read (.enrollmentByCode code) "failed to look up enrollment" with
  | none => throw (.notFound "enrollment")
  | some enrollment => do
    let now ← perform .now
    if ¬ Time.after enrollment.expiresAt now then do
      notifyExpiredAttempt server enrollment now
      throw (.notFound "enrollment")
    else do
      let principals ← lift (storedPrincipals server.ext enrollment)
      let options ← lift (storedOptions server.ext enrollment)
      let serial ← newSerial
      let retrievalID ← perform .newUUID
      let _ ← write (.insertRetrieval
        { id := retrievalID
          enrollmentID := enrollment.id
          sourceIP := sourceIP
          certificateSerial := serial
          retrievedAt := now }) "failed to record enrollment retrieval"
      match ← perform (.subscribe retrievalID) with
      | .error e => throw (.internal ("failed to subscribe to retrieval outcome: " ++ e))
      | .ok _ => do
        match ← perform (.publishJob
          { requestID := retrievalID
            type := .service
            publicKey := enrollment.publicKey
            principals := principals
            keyID := enrollment.keyID
            requestedOptions := options
            validAfter := now
            validBefore := retrievalEnd enrollment now
            serial := serial }) with
        | .ok _ => pure ⟨enrollment.id, retrievalID, serial, now⟩
        | .error e => throw (.internal ("failed to publish signing job: " ++ e))

/-- `markRetrievalSucceeded`.  Failing to write these fails nothing. -/
def markRetrievalSucceeded (pending : PendingRetrieval) : Service Unit := do
  let _ ← perform (.write (.retrievalSucceeded pending.retrievalID))
  let _ ← perform (.write (.stampRedemption pending.enrollmentID pending.retrievedAt))
  pure ()

/-- One pass of `awaitSignedCertificate`: the certificate, or nothing yet. -/
def awaitSignedCertificate (server : Server) (pending : PendingRetrieval) :
    Service (Option String) := do
  match ← perform (.receive (decide (0 < server.certOptions.signingGrace))) with
  | .closed => throw (.internal
    "retrieval outcome subscription closed before signing finished")
  | .canceled => throw .canceled
  | .timer => throw (.internal "timed out waiting for certificate signing")
  | .message none => pure none
  | .message (some outcome) =>
    match outcome.status with
    | .approved => do
      match ← perform (.read (.certificate pending.serial)) with
      | .ok (some _) => do
        markRetrievalSucceeded pending
        pure (some outcome.certificate)
      | _ => pure none
    | .failed => throw (.internal "certificate signing failed; see server logs")
    | _ => pure none

/-! ## Ownership -/

/-- `ownsEnrollment`: who may approve for the account owns its codes; there is no other owner. -/
def ownsEnrollment (server : Server) (identity : Identity) (enrollment : Enrollment) : Bool :=
  if enrollment.serviceAccount = "" then false
  else (approvableServiceAccounts identity
    server.certOptions.service.allowUserAccounts).contains enrollment.serviceAccount

/-- The enrollment of a call by one of its owners. -/
def ownedEnrollment (server : Server) (enrollmentID : EnrollmentID) (identity : Identity) :
    Service Enrollment := do
  match ← read (.enrollment enrollmentID) "failed to look up enrollment" with
  | none => throw (.notFound ("enrollment " ++ server.ext.quote enrollmentID))
  | some enrollment => do
    ensure (ownsEnrollment server identity enrollment = true ∨
      server.grantsSOC identity.groups = true)
      (.forbidden "enrollment belongs to a service account you do not hold")
    pure enrollment

/-- `SetNotificationEmail`. -/
def setNotificationEmail (server : Server) (enrollmentID : EnrollmentID) (identity : Identity)
    (address : String) : Service Unit := do
  let trimmed ← lift (validateNotificationEmail server.ext address)
  let _ ← ownedEnrollment server enrollmentID identity
  let _ ← write (.setNotificationEmail enrollmentID trimmed)
    ("failed to set the notification address of enrollment " ++ server.ext.quote enrollmentID)
  pure ()

def maxAuditReasonLength : Nat := 1000

/-- `ValidateAuditReason` for an expiry, which needs a reason. -/
def validateExpiryReason (reason : String) : Except ServiceError Unit :=
  let trimmed := GoText.trimSpace reason
  if trimmed = "" then
    .error (.invalidRequest "a reason is required for enrollment.expired")
  else if trimmed.utf8ByteSize > maxAuditReasonLength then
    .error (.invalidRequest ("the reason for enrollment.expired is too long (" ++
      toString trimmed.utf8ByteSize ++ " characters, limit " ++ toString maxAuditReasonLength ++
      ")"))
  else .ok ()

/-- `ExpireForIdentity`.  A code that has expired keeps the time it did. -/
def expireForIdentity (server : Server) (enrollmentID : EnrollmentID) (identity : Identity)
    (reason : String) : Service Unit := do
  lift (validateExpiryReason reason)
  let enrollment ← ownedEnrollment server enrollmentID identity
  let now ← perform .now
  if ¬ Time.after enrollment.expiresAt now then pure ()
  else do
    let found : Bool ← transaction (.expireEnrollment enrollmentID now) []
    ensure (found = true) (.notFound ("enrollment " ++ server.ext.quote enrollmentID))

/-! ## Users -/

/-- `extraValue.MarshalJSON`. -/
def ExtraValue.toValue : ExtraValue → Json.Value
  | .scalar text _ => Json.ofString text
  | .list elements => Json.ofStrings elements

/-- The claims column. -/
def encodeExtraFields (extra : Extra) : String :=
  String.ofList (Json.print (.object
    ((extra.mergeSort fun a b => decide (a.1 ≤ b.1)).map fun claim =>
      (claim.1.toList, claim.2.toValue))))

/-- `upsertUser`. -/
def upsertUser (identity : Identity) : Service Unit := do
  let userID ← perform .newUUID
  let _ ← transaction (.upsertUser
    { id := userID
      subject := identity.subject
      username := identity.username
      email := identity.email
      otherAccounts := identity.otherAccounts
      serviceAccounts := identity.serviceAccounts
      extraFields := encodeExtraFields identity.extra }) []
  pure ()

end Ssoossh
