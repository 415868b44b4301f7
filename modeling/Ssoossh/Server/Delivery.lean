import Ssoossh.Server.Decisions

/-!
# Waiting for an outcome, and producing one

`Wait` and everything it calls (`server/service/certrequest.go`), the handler of the
signer's replies (`server/service/signreply.go`), and the two periodic passes: the
sweep of stranded requests (`server/service/sweep.go`) and the eviction of old cache
entries.

`Wait` and `awaitStatus` are loops without a bound.  One pass of a loop is a program
that says how to go on (`Next`): with another pass, or with a result.
-/

namespace Ssoossh

open GoTime

/-- How a loop of `Wait` goes on. -/
inductive Next
  | again
  | confirm (message : OutcomeMessage) (current : CertificateRequest) (deadline : Int)
  | done (outcome : WaitOutcome)

/-! ## Wait -/

/-- `enrollmentExpiry`: a display detail, the zero time where it cannot be read. -/
def enrollmentExpiry (code : String) : Service Int :=
  if code = "" then pure Time.zero
  else do
    match ← perform (.read (.enrollmentByCode code)) with
    | .ok (some enrollment) => pure enrollment.expiresAt
    | _ => pure Time.zero

/-- `reconcileStatus`: whether to block. -/
def reconcileStatus (server : Server) (id : RequestID) (row : CertificateRequest) : Service Bool :=
  match row.status with
  | .pending => do
    let cutoff ← server.ttlCutoffFor row.type
    if pastCutoff row cutoff then
      expire id
      pure false
    else pure true
  | .signing => pure true
  | .approved => throw (.certificateUnavailable id)
  | .enrolled => do
    let expiresAt ← enrollmentExpiry row.enrollmentToken
    notifyWaiter id
      { status := .enrolled
        code := row.enrollmentToken
        serviceAccount := row.serviceAccount
        expiresAt := expiresAt }
    pure false
  | status => do
    notifyWaiter id { status := status }
    pure false

/-- `expiryTimer`: whether a timer is set.  One whose deadline has passed is not. -/
def expiryTimer (server : Server) (row : CertificateRequest) : Service Bool :=
  if server.approvalTTLFor row.type ≤ 0 then pure false
  else do
    let now ← perform .now
    let deadline := Time.add row.createdAt (server.approvalTTLFor row.type)
    pure (decide (0 < Time.sub deadline now))

/-- The end of `tryHandleWakeMessage`: a message the row confirms is the outcome, any
other is dropped. -/
def acceptWake (id : RequestID) (message : OutcomeMessage) (row : CertificateRequest) :
    Service Next :=
  if row.status = message.status then do
    let resolvedAt ← perform .now
    let outcome : WaitOutcome :=
      { status := message.status
        certificate := message.certificate
        code := message.code
        serviceAccount := message.serviceAccount
        expiresAt := message.expiresAt.getD Time.zero
        resolvedAt := resolvedAt }
    perform (.cachePut .accept id outcome)
    pure (.done outcome)
  else pure .again

def statusConfirmWindow : Int := 2 * Duration.second

/-- `tryHandleWakeMessage`, up to the loop of `awaitStatus`. -/
def tryHandleWakeMessage (id : RequestID) (payload : Option OutcomeMessage) : Service Next :=
  match payload with
  | none => pure .again
  | some message =>
    if message.status.terminal then do
      match ← perform (.read (.request (.confirm message.status) id)) with
      | .ok (some row) =>
        if row.status ≠ message.status ∧ row.status = .signing then do
          let started ← perform .now
          pure (.confirm message row (Time.add started statusConfirmWindow))
        else acceptWake id message row
      | _ => pure .again
    else pure .again

/-- One pass of `awaitStatus`, and what becomes of the message when it is over. -/
def awaitStatus (id : RequestID) (message : OutcomeMessage) (current : CertificateRequest)
    (deadline : Int) : Service Next := do
  let inTime : Bool ← perform (.withinWindow id message.status deadline)
  if inTime then do
    let elapsed : Bool ← perform (.pollPause id message.status)
    if elapsed then do
      match ← perform (.read (.request (.confirm message.status) id)) with
      | .ok (some row) =>
        if row.status = message.status then acceptWake id message row
        else pure (.confirm message row deadline)
      | _ => acceptWake id message current
    else acceptWake id message current
  else acceptWake id message current

/-- One pass of the loop of `Wait`. -/
def waitLoop (server : Server) (id : RequestID) : Service Next := do
  match ← perform (.cacheGet id) with
  | some outcome => pure (.done outcome)
  | none => do
    let row ← lookupRequest server.ext .loop id
    let block ← reconcileStatus server id row
    if block then do
      let armed ← expiryTimer server row
      match ← perform (.receive armed) with
      | .message payload => tryHandleWakeMessage id payload
      | .closed => throw .shuttingDown
      | .canceled => throw .canceled
      | .timer => pure .again
    else pure .again

/-- `Wait`, up to its loop. -/
def wait (id : RequestID) : Service Next := do
  match ← perform (.cacheGet id) with
  | some outcome => pure (.done outcome)
  | none => do
    match ← perform (.subscribe id) with
    | .ok _ => pure .again
    | .error e => throw (.internal
      ("failed to subscribe to certificate request updates: " ++ e))

/-! ## Replies -/

/-- `resolvesRequestRow`. -/
def resolvesRequestRow (reply : SignedReply) : Bool := reply.type != .service

/-- `resolveRetrievalOwner`: the user and the request behind a retrieval, where they
can be read. -/
def resolveRetrievalOwner (id : RetrievalID) : Service (Option UserID × Option RequestID) := do
  match ← perform (.read (.retrieval id)) with
  | .ok (some retrieval) => do
    match ← perform (.read (.enrollment retrieval.enrollmentID)) with
    | .ok (some enrollment) => pure (some enrollment.userID, enrollment.certificateRequestID)
    | _ => pure (none, none)
  | _ => pure (none, none)

/-- The owner `recordCertificate` reads off the request row. -/
def resolveRequestOwner (id : RequestID) : Service (Option UserID × Option RequestID) := do
  match ← perform (.read (.request .elsewhere id)) with
  | .ok (some row) => pure (row.userID, some id)
  | _ => pure (none, none)

/-- The row `recordCertificate` inserts, once for each serial. -/
def recordFor (reply : SignedReply) (owner : Option UserID × Option RequestID) :
    Service Unit := do
  let certificateID ← perform .newUUID
  let _ ← write (.recordCertificate
    { id := certificateID
      type := reply.type
      userID := owner.1
      certificateRequestID := owner.2
      publicKeyFingerprint := reply.publicKeyFingerprint
      serialNumber := reply.serial
      keyID := reply.keyID
      principals := reply.principals
      criticalOptions := reply.criticalOptions
      extensions := reply.extensions
      issuedAt := reply.validAfter
      expiresAt := reply.validBefore }) "failed to persist certificate audit record"
  pure ()

/-- `recordCertificate`. -/
def recordCertificate (reply : SignedReply) : Service Unit :=
  if reply.type = .service then do
    let owner ← resolveRetrievalOwner reply.requestID
    recordFor reply owner
  else do
    let owner ← resolveRequestOwner reply.requestID
    recordFor reply owner

/-- `markResolved`.  A row that is no longer being signed is left alone. -/
def markResolved (id : RequestID) (status : Status) (failureReason : String) : Service Unit := do
  let now ← perform .now
  let _ ← write (.markResolved id status failureReason now)
    ("mark certificate request " ++ id ++ " resolved")
  pure ()

/-- `resolveSuccess`: record, deliver, then mark. -/
def resolveSuccess (reply : SignedReply) : Service Unit := do
  recordCertificate reply
  notifyWaiter reply.requestID { status := .approved, certificate := reply.certificate }
  if resolvesRequestRow reply then markResolved reply.requestID .approved "" else pure ()

/-- `resolveFailure`: the waiter is told before the row is. -/
def resolveFailure (reply : SignedReply) : Service Unit := do
  notifyWaiter reply.requestID { status := .failed }
  if resolvesRequestRow reply then
    markResolved reply.requestID .failed (reply.errorCode ++ ": " ++ reply.error)
  else pure ()

/-- `handle`. -/
def handle (reply : SignedReply) : Service Unit :=
  if reply.failed then resolveFailure reply else resolveSuccess reply

/-! ## Periodic passes -/

def failureReasonStranded : String := "stranded awaiting signature"

/-- `strandedCutoff`, at a time. -/
def strandedCutoffAt (server : Server) (now : Int) : Int :=
  Time.add now (-(server.certOptions.approvalTTL + server.certOptions.signingGrace))

/-- `strandedCutoff`: the zero time where there is no budget. -/
def strandedCutoff (server : Server) : Service Int :=
  if server.certOptions.approvalTTL ≤ 0 then pure Time.zero
  else do
    let now ← perform .now
    pure (strandedCutoffAt server now)

/-- Tell the waiters of the rows that were failed. -/
def notifyFailed : List CertificateRequest → Service Unit
  | [] => pure ()
  | row :: rows => do
    notifyWaiter row.id { status := .failed }
    notifyFailed rows

/-- `failStranded`: those the guarded update hit are told; an error leaves them to the next
sweep. -/
def failStranded (ids : List RequestID) : Service Unit := do
  let now ← perform .now
  match ← perform (.write (.failStranded ids failureReasonStranded now)) with
  | .ok updated => notifyFailed updated
  | .error _ => pure ()

/-- `SweepStrandedRequests`: a reply that never came fails its request. -/
def sweepStrandedRequests (server : Server) : Service Unit := do
  let cutoff ← strandedCutoff server
  let stranded : List CertificateRequest ← read (.signingBefore cutoff)
    "failed to list stranded certificate requests"
  if stranded.isEmpty then pure () else failStranded (stranded.map (·.id))

/-- `EvictResolved`: an outcome is cached as long as a request can be approved. -/
def evictResolved (server : Server) : Service Unit := do
  let now ← perform .now
  let _ ← perform (.evict (Time.add now (-server.certOptions.approvalTTL)))
  pure ()

end Ssoossh
