import Ssoossh.Lib.Table
import Ssoossh.Model

/-!
# The database

The tables behind a certificate request, the reads (`Query`) and the writes
(`Statement`) the services make on them.  A statement is one SQL statement, or one
transaction where the source runs several in one: nothing else can come between its
parts, and it commits as a whole or not at all.

A guarded statement says how many rows it touched, a transaction whose guard no
longer matches says what the row looks like by then, and one that a unique
constraint refuses says at which of its parts.  Whether the database answers at all
is not decided here (`Ssoossh.Server.Machine`).

No service ever deletes one of these rows.
-/

namespace Ssoossh

open Relational GoTime

/-! ## Tables -/

/-- The unique index on user codes.  It covers the rows that are still live. -/
def CertificateRequest.codeIndex (row : CertificateRequest) : Option String :=
  if row.userCode ≠ "" ∧ row.status.live = true then some row.userCode else none

/-- Setting the status of a live row keeps its index entry or drops it. -/
theorem CertificateRequest.codeIndex_of_live {row row' : CertificateRequest}
    (code : row'.userCode = row.userCode) (live : row.status.live = true) :
    row'.codeIndex = row.codeIndex ∨ row'.codeIndex = none := by
  unfold codeIndex
  rw [code]
  by_cases stays : row'.status.live = true <;> simp [live, stays]

/-- The tables. -/
structure Database where
  requests : Table CertificateRequest.id CertificateRequest.codeIndex
  decisions : Table Decision.certificateRequestID (fun decision => some decision.id)
  enrollments : Table Enrollment.id (fun enrollment => some enrollment.code)
  retrievals : Table EnrollmentRetrieval.id (fun _ => (none : Option Empty))
  users : Table User.id (fun user => some user.subject)
  certificates : Table Certificate.id (fun certificate => some certificate.serialNumber)

/-- A new database. -/
def Database.empty : Database :=
  ⟨.empty, .empty, .empty, .empty, .empty, .empty⟩

/-! ## What an approval of a service request fixes -/

/-- Everything `approveServiceEnrollment` fixes, before it is encoded into a row. -/
structure ServiceGrant where
  requestID : RequestID
  enrollmentID : EnrollmentID
  token : String
  publicKey : String
  keyID : String
  serviceAccount : String
  options : RequestedOptions
  effectiveDuration : Int
  userID : UserID
  createdAt : Int
  expiresAt : Int
  notificationEmail : String
  deriving DecidableEq, Repr

/-- The one principal of a service certificate. -/
def ServiceGrant.principals (grant : ServiceGrant) : List String := [grant.serviceAccount]

/-- The enrollment row of a grant. -/
def ServiceGrant.enrollment (grant : ServiceGrant) : Enrollment where
  id := grant.enrollmentID
  code := grant.token
  publicKey := grant.publicKey
  optionSet := grant.options.marshal
  keyID := grant.keyID
  principals := marshalStrings grant.principals
  serviceAccount := grant.serviceAccount
  certificateRequestID := some grant.requestID
  userID := grant.userID
  createdAt := grant.createdAt
  expiresAt := grant.expiresAt
  certificateDurationSeconds := some (Duration.quot grant.effectiveDuration Duration.second)
  notificationEmail := grant.notificationEmail

/-! ## Reads -/

/-- Which read of a request row this is.  The loop of `Wait` and the confirmation of
a wake message read the same row as everything else; where they stand matters to
the theorems about delivery. -/
inductive ReadSite
  | loop
  | confirm (want : Status)
  | elsewhere
  deriving DecidableEq, Repr

/-- The reads. -/
inductive Query
  | request (site : ReadSite) (id : RequestID)
  | liveRequestByCode (code : String)
  | user (subject : String)
  | decision (id : RequestID)
  | enrollmentByCode (code : String)
  | enrollment (id : EnrollmentID)
  | retrieval (id : RetrievalID)
  | certificate (serial : Nat)
  | signingBefore (cutoff : Int)
  deriving DecidableEq, Repr

/-- What a read returns. -/
def Query.Row : Query → Type
  | .request _ _ => Option CertificateRequest
  | .liveRequestByCode _ => Option CertificateRequest
  | .user _ => Option User
  | .decision _ => Option Decision
  | .enrollmentByCode _ => Option Enrollment
  | .enrollment _ => Option Enrollment
  | .retrieval _ => Option EnrollmentRetrieval
  | .certificate _ => Option Certificate
  | .signingBefore _ => List CertificateRequest

/-- The answer to a read.  The zero time is no cutoff. -/
def Query.answer (db : Database) : (query : Query) → query.Row
  | .request _ id => db.requests.find? id
  | .liveRequestByCode code =>
    db.requests.findWhere fun row => row.userCode == code && row.status.live
  | .user subject => db.users.findWhere fun user => user.subject == subject
  | .decision id => db.decisions.find? id
  | .enrollmentByCode code => db.enrollments.findWhere fun enrollment => enrollment.code == code
  | .enrollment id => db.enrollments.find? id
  | .retrieval id => db.retrievals.find? id
  | .certificate serial =>
    db.certificates.findWhere fun certificate => certificate.serialNumber == serial
  | .signingBefore cutoff =>
    db.requests.select fun row =>
      row.status == .signing && (Time.isZero cutoff || Time.before row.createdAt cutoff)

/-! ## Writes -/

/-- The outcome of a transaction that first tests the status of its request: it
committed, or this is the row it found instead. -/
inductive Settled
  | committed
  | refused (row : Option CertificateRequest)

/-- The writes. -/
inductive Statement
  | insertRequest (row : CertificateRequest)
  | bindRequester (id : RequestID) (userID : UserID)
  | approveForSigning (id : RequestID) (serial : Nat) (optionsJSON : String) (decision : Decision)
  | approveServiceEnrollment (grant : ServiceGrant) (decision : Decision)
  | deny (id : RequestID) (cutoff now : Int) (decision : Decision)
  | expire (id : RequestID) (now : Int)
  | markResolved (id : RequestID) (status : Status) (failureReason : String) (now : Int)
  | failStranded (ids : List RequestID) (failureReason : String) (now : Int)
  | claimPage (id : RequestID) (hash : String) (now : Int) (userAgent : Bytes)
  | recordCertificate (row : Certificate)
  | insertRetrieval (row : EnrollmentRetrieval)
  | retrievalSucceeded (id : RetrievalID)
  | stampRedemption (id : EnrollmentID) (now : Int)
  | claimExpiredAttempt (id : EnrollmentID) (attemptedAt window : Int)
  | expireEnrollment (id : EnrollmentID) (now : Int)
  | setNotificationEmail (id : EnrollmentID) (address : String)
  | upsertUser (row : User)

/-- What a write returns: for a guarded update, whether it touched a row. -/
def Statement.Result : Statement → Type
  | .insertRequest _ => Unit
  | .bindRequester _ _ => Bool
  | .approveForSigning _ _ _ _ => Settled
  | .approveServiceEnrollment _ _ => Settled
  | .deny _ _ _ _ => Settled
  | .expire _ _ => Bool
  | .markResolved _ _ _ _ => Bool
  | .failStranded _ _ _ => List CertificateRequest
  | .claimPage _ _ _ _ => Bool
  | .recordCertificate _ => Bool
  | .insertRetrieval _ => Unit
  | .retrievalSucceeded _ => Unit
  | .stampRedemption _ _ => Unit
  | .claimExpiredAttempt _ _ _ => Bool
  | .expireEnrollment _ _ => Bool
  | .setNotificationEmail _ _ => Unit
  | .upsertUser _ => Unit

/-- A guarded rewriting of request rows that can break neither the key nor the
index on user codes. -/
structure RequestUpdate where
  guard : CertificateRequest → Bool
  set : CertificateRequest → CertificateRequest
  keepID : ∀ row, (set row).id = row.id
  keepCode : ∀ row, guard row = true →
    (set row).codeIndex = row.codeIndex ∨ (set row).codeIndex = none

namespace RequestUpdate

/-- `bindRequester`: a row nobody owns yet. -/
def bind (userID : UserID) : RequestUpdate where
  guard row := row.userID.isNone
  set row := { row with userID := some userID }
  keepID _ := rfl
  keepCode _ _ := .inl rfl

/-- `claimApprovalPage`: a page nobody claimed yet. -/
def claim (hash : String) (now : Int) (userAgent : Bytes) : RequestUpdate where
  guard row := row.claimTokenHash.isNone
  set row :=
    { row with claimTokenHash := some hash, claimedAt := some now, claimUserAgent := userAgent }
  keepID _ := rfl
  keepCode _ _ := .inl rfl

/-- An update of the rows with a given live status. -/
def ofStatus (status : Status) (live : status.live = true) (guard : CertificateRequest → Bool)
    (set : CertificateRequest → CertificateRequest) (keepID : ∀ row, (set row).id = row.id)
    (keepCode : ∀ row, (set row).userCode = row.userCode) : RequestUpdate where
  guard row := row.status == status && guard row
  set := set
  keepID := keepID
  keepCode row accepted :=
    CertificateRequest.codeIndex_of_live (keepCode row) (by simp_all)

/-- `approveForSigning`. -/
def signing (serial : Nat) (optionsJSON : String) : RequestUpdate :=
  ofStatus .pending rfl (fun _ => true)
    (fun row => { row with
      status := .signing
      serialNumber := some serial
      requestedOptions := optionsJSON })
    (fun _ => rfl) (fun _ => rfl)

/-- `approveServiceEnrollment`. -/
def enrolled (grant : ServiceGrant) : RequestUpdate :=
  ofStatus .pending rfl (fun _ => true)
    (fun row => { row with
      status := .enrolled
      requestedOptions := grant.options.marshal
      enrollmentToken := grant.token
      serviceAccount := grant.serviceAccount
      resolvedAt := some grant.createdAt })
    (fun _ => rfl) (fun _ => rfl)

/-- `Deny`: only a row created after the cutoff, where there is one. -/
def denied (cutoff now : Int) : RequestUpdate :=
  ofStatus .pending rfl (fun row => Time.isZero cutoff || Time.after row.createdAt cutoff)
    (fun row => { row with status := .denied, resolvedAt := some now })
    (fun _ => rfl) (fun _ => rfl)

/-- `expire`. -/
def expired (now : Int) : RequestUpdate :=
  ofStatus .pending rfl (fun _ => true)
    (fun row => { row with status := .expired, resolvedAt := some now })
    (fun _ => rfl) (fun _ => rfl)

/-- `markResolved` and `failStranded`. -/
def resolved (status : Status) (failureReason : String) (now : Int) : RequestUpdate :=
  ofStatus .signing rfl (fun _ => true)
    (fun row => { row with
      status := status
      failureReason := failureReason
      resolvedAt := some now })
    (fun _ => rfl) (fun _ => rfl)

end RequestUpdate

namespace Database

/-- Run an update on the request rows whose key is chosen. -/
def updateRequests (db : Database) (chosen : RequestID → Bool) (update : RequestUpdate) :
    Database :=
  { db with
    requests := db.requests.update (fun row => chosen row.id && update.guard row) update.set
      (fun row _ => update.keepID row)
      (fun row accepted => update.keepCode row (by simp_all)) }

/-- Run an update on the row of one key. -/
def updateRequest (db : Database) (id : RequestID) (update : RequestUpdate) : Database :=
  db.updateRequests (fun k => decide (k = id)) update

/-- Whether that update touches the row. -/
def affectsRequest (db : Database) (id : RequestID) (update : RequestUpdate) : Bool :=
  db.requests.affects fun row => decide (row.id = id) && update.guard row

/-- Rewrite the enrollment rows of a key that a guard accepts, leaving key and code
alone. -/
def updateEnrollment (db : Database) (id : EnrollmentID) (guard : Enrollment → Bool)
    (set : Enrollment → Enrollment)
    (keep : ∀ row, (set row).id = row.id ∧ (set row).code = row.code) : Database :=
  { db with
    enrollments := db.enrollments.update (fun row => decide (row.id = id) && guard row) set
      (fun row _ => (keep row).1)
      (fun row _ => .inl (congrArg some (keep row).2)) }

/-- Whether that update touches the row. -/
def affectsEnrollment (db : Database) (id : EnrollmentID) (guard : Enrollment → Bool) : Bool :=
  db.enrollments.affects fun row => decide (row.id = id) && guard row

/-- Add a decision, or fail as the given part of a transaction. -/
def recordDecision (db : Database) (decision : Decision) (stage : Nat) : Except Nat Database :=
  match db.decisions.insert decision with
  | some decisions => .ok { db with decisions }
  | none => .error stage

/-- The transaction of `approveForSigning`. -/
def approveForSigning (db : Database) (id : RequestID) (serial : Nat) (optionsJSON : String)
    (decision : Decision) : Except Nat (Database × Settled) := do
  let update := RequestUpdate.signing serial optionsJSON
  if db.affectsRequest id update then
    let next ← (db.updateRequest id update).recordDecision decision 1
    return (next, .committed)
  else
    return (db, .refused (db.requests.find? id))

/-- The transaction of `approveServiceEnrollment`. -/
def approveServiceEnrollment (db : Database) (grant : ServiceGrant) (decision : Decision) :
    Except Nat (Database × Settled) := do
  let update := RequestUpdate.enrolled grant
  if db.affectsRequest grant.requestID update then
    let marked := db.updateRequest grant.requestID update
    match marked.enrollments.insert grant.enrollment with
    | none => .error 1
    | some enrollments =>
      let next ← ({ marked with enrollments } : Database).recordDecision decision 2
      return (next, .committed)
  else
    return (db, .refused (db.requests.find? grant.requestID))

/-- The transaction of `Deny`. -/
def deny (db : Database) (id : RequestID) (cutoff now : Int) (decision : Decision) :
    Except Nat (Database × Settled) := do
  let update := RequestUpdate.denied cutoff now
  if db.affectsRequest id update then
    let next ← (db.updateRequest id update).recordDecision decision 1
    return (next, .committed)
  else
    return (db, .refused (db.requests.find? id))

/-- The one statement of `failStranded`, with the rows it returns. -/
def failStranded (db : Database) (ids : List RequestID) (failureReason : String) (now : Int) :
    Database × List CertificateRequest :=
  let update := RequestUpdate.resolved .failed failureReason now
  (db.updateRequests ids.contains update,
    (db.requests.select fun row => ids.contains row.id && update.guard row).map update.set)

/-- An insert that does nothing when the serial is already recorded. -/
def recordCertificate (db : Database) (row : Certificate) : Except Nat (Database × Bool) :=
  match db.certificates.findWhere fun old => old.serialNumber == row.serialNumber with
  | some _ => .ok (db, false)
  | none =>
    match db.certificates.insert row with
    | some certificates => .ok ({ db with certificates }, true)
    | none => .error 0

/-- `upsertUser`: a new subject gets a row, a known one gets its columns refreshed. -/
def upsertUser (db : Database) (row : User) : Except Nat Database :=
  match db.users.findWhere fun old => old.subject == row.subject with
  | some _ =>
    .ok { db with
      users := db.users.update (fun old => old.subject == row.subject)
        (fun old => { old with
          username := row.username
          email := row.email
          otherAccounts := row.otherAccounts
          serviceAccounts := row.serviceAccounts
          extraFields := row.extraFields })
        (fun _ _ => rfl) (fun _ _ => .inl rfl) }
  | none =>
    match db.users.insert row with
    | some users => .ok { db with users }
    | none => .error 0

end Database

/-- The effect of a write: the database after it with what it returns, or the part
of it that a unique constraint refused. -/
def Statement.run (db : Database) :
    (statement : Statement) → Except Nat (Database × statement.Result)
  | .insertRequest row =>
    match db.requests.insert row with
    | some requests => .ok ({ db with requests }, ())
    | none => .error 0
  | .bindRequester id userID =>
    .ok (db.updateRequest id (.bind userID), db.affectsRequest id (.bind userID))
  | .approveForSigning id serial optionsJSON decision =>
    db.approveForSigning id serial optionsJSON decision
  | .approveServiceEnrollment grant decision => db.approveServiceEnrollment grant decision
  | .deny id cutoff now decision => db.deny id cutoff now decision
  | .expire id now =>
    .ok (db.updateRequest id (.expired now), db.affectsRequest id (.expired now))
  | .markResolved id status failureReason now =>
    .ok (db.updateRequest id (.resolved status failureReason now),
      db.affectsRequest id (.resolved status failureReason now))
  | .failStranded ids failureReason now => .ok (db.failStranded ids failureReason now)
  | .claimPage id hash now userAgent =>
    .ok (db.updateRequest id (.claim hash now userAgent),
      db.affectsRequest id (.claim hash now userAgent))
  | .recordCertificate row => db.recordCertificate row
  | .insertRetrieval row =>
    match db.retrievals.insert row with
    | some retrievals => .ok ({ db with retrievals }, ())
    | none => .error 0
  | .retrievalSucceeded id =>
    .ok ({ db with
      retrievals := db.retrievals.update (fun row => decide (row.id = id))
        (fun row => { row with succeeded := true }) (fun _ _ => rfl) (fun _ _ => .inl rfl) }, ())
  | .stampRedemption id now =>
    .ok (db.updateEnrollment id (fun row => row.redeemedAt.isNone)
      (fun row => { row with redeemedAt := some now }) (fun _ => ⟨rfl, rfl⟩), ())
  | .claimExpiredAttempt id attemptedAt window =>
    let due (row : Enrollment) : Bool :=
      row.lastExpiredAttemptNotifiedAt.all fun last =>
        Time.before last (Time.add attemptedAt (-window))
    .ok (db.updateEnrollment id due
      (fun row => { row with lastExpiredAttemptNotifiedAt := some attemptedAt })
      (fun _ => ⟨rfl, rfl⟩), db.affectsEnrollment id due)
  | .expireEnrollment id now =>
    .ok (db.updateEnrollment id (fun _ => true)
      (fun row => { row with expiresAt := now, expiryReminderSentAt := none })
      (fun _ => ⟨rfl, rfl⟩), db.affectsEnrollment id fun _ => true)
  | .setNotificationEmail id address =>
    .ok (db.updateEnrollment id (fun _ => true)
      (fun row => { row with notificationEmail := address }) (fun _ => ⟨rfl, rfl⟩), ())
  | .upsertUser row => (db.upsertUser row).map fun next => (next, ())

end Ssoossh
