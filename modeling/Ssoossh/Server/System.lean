import Ssoossh.Server.Delivery
import Ssoossh.Server.Enrollments

/-!
# The whole server

Every call a client, a browser, the signer or a timer makes, and the machine that
runs any number of them at once on any number of processes.  The loops of `Wait`
and `Retrieve` are calls of their own that only those two continue as.

The broker may also deliver a payload nobody can read (`stray`).
-/

namespace Ssoossh

open Interleaving

/-- The calls. -/
inductive Call
  | createRequest (p : NewCertRequestParams)
  | claimPage (id : RequestID) (presentedToken : String) (userAgent : Bytes)
  | detail (id : RequestID) (identity : Identity)
  | resolveUserCode (submitted : String) (identity : Identity)
  | approve (id : RequestID) (session : Identity) (dc : DecisionContext)
      (selection : ApprovalSelection)
  | deny (id : RequestID) (identity : Identity) (dc : DecisionContext)
  | wait (id : RequestID)
  | waitLoop (id : RequestID)
  | awaitStatus (id : RequestID) (message : OutcomeMessage) (current : CertificateRequest)
      (deadline : Int)
  | handle (reply : SignedReply)
  | sweepStrandedRequests
  | evictResolved
  | retrieve (code sourceIP : String)
  | awaitSigned (pending : PendingRetrieval)
  | setNotificationEmail (id : EnrollmentID) (identity : Identity) (address : String)
  | expireForIdentity (id : EnrollmentID) (identity : Identity) (reason : String)
  | upsertUser (identity : Identity)
  | stray (topic : RequestID)

/-- Whether a call is one the outside makes. -/
def Call.external : Call → Bool
  | .waitLoop _ => false
  | .awaitStatus _ _ _ _ => false
  | .awaitSigned _ => false
  | _ => true

/-- What the calls return. -/
inductive Result
  | created (outcome : Except ServiceError CreatedRequest)
  | claimed (outcome : Except ServiceError ClaimPageResult)
  | detailed (outcome : Except ServiceError RequestDetail)
  | resolved (outcome : Except ServiceError RequestID)
  | waited (outcome : Except ServiceError WaitOutcome)
  | retrieved (outcome : Except ServiceError String)
  | finished (outcome : Except ServiceError Unit)

/-- A call that ends in what its program returns. -/
def ending {α : Type} (program : Service α) (result : Except ServiceError α → Result) :
    Prog Act Act.Resp (Call ⊕ Result) := do
  let outcome ← program.run
  pure (.inr (result outcome))

/-- A pass of the loops of `Wait`. -/
def waiting (id : RequestID) (program : Service Next) : Prog Act Act.Resp (Call ⊕ Result) := do
  match ← program.run with
  | .ok .again => pure (.inl (.waitLoop id))
  | .ok (.confirm message current deadline) =>
    pure (.inl (.awaitStatus id message current deadline))
  | .ok (.done outcome) => pure (.inr (.waited (.ok outcome)))
  | .error e => pure (.inr (.waited (.error e)))

/-- The first part of `Retrieve`. -/
def retrieving (program : Service PendingRetrieval) : Prog Act Act.Resp (Call ⊕ Result) := do
  match ← program.run with
  | .ok pending => pure (.inl (.awaitSigned pending))
  | .error e => pure (.inr (.retrieved (.error e)))

/-- A pass of the loop of `Retrieve`. -/
def awaitingSigned (pending : PendingRetrieval) (program : Service (Option String)) :
    Prog Act Act.Resp (Call ⊕ Result) := do
  match ← program.run with
  | .ok none => pure (.inl (.awaitSigned pending))
  | .ok (some certificate) => pure (.inr (.retrieved (.ok certificate)))
  | .error e => pure (.inr (.retrieved (.error e)))

/-- An unreadable message. -/
def stray (topic : RequestID) : Service Unit := do
  let _ ← perform (.publishWake topic none)
  pure ()

/-- What each call runs. -/
def body (server : Server) : Call → Prog Act Act.Resp (Call ⊕ Result)
  | .createRequest p => ending (createRequest server p) .created
  | .claimPage id presentedToken userAgent =>
    ending (claimPage server.ext id presentedToken userAgent) .claimed
  | .detail id identity => ending (detail server id identity) .detailed
  | .resolveUserCode submitted identity =>
    ending (resolveUserCode server submitted identity) .resolved
  | .approve id session dc selection =>
    ending (approve server id session dc selection) .finished
  | .deny id identity dc => ending (deny server id identity dc) .finished
  | .wait id => waiting id (wait id)
  | .waitLoop id => waiting id (waitLoop server id)
  | .awaitStatus id message current deadline =>
    waiting id (awaitStatus id message current deadline)
  | .handle reply => ending (handle reply) .finished
  | .sweepStrandedRequests => ending (sweepStrandedRequests server) .finished
  | .evictResolved => ending (evictResolved server) .finished
  | .retrieve code sourceIP => retrieving (retrieve server code sourceIP)
  | .awaitSigned pending => awaitingSigned pending (awaitSignedCertificate server pending)
  | .setNotificationEmail id identity address =>
    ending (setNotificationEmail server id identity address) .finished
  | .expireForIdentity id identity reason =>
    ending (expireForIdentity server id identity reason) .finished
  | .upsertUser identity => ending (upsertUser identity) .finished
  | .stray topic => ending (stray topic) .finished

/-- The machine. -/
def system (server : Server) : Machine Act Act.Resp Shared Tid Choice Call Result where
  exec := exec
  body := body server

/-- A configuration of the server. -/
abbrev SystemConfig := Config Act Act.Resp Shared Tid Call Result

/-- A step of the scheduler. -/
abbrev SystemLabel := Label Tid Choice Call

end Ssoossh
