import Ssoossh.Lib.Fallible
import Ssoossh.Server.Database

/-!
# How rows evolve

What the statements can do to rows that are already there, once for all of them.
A row is never removed, and a column is rewritten only where a guard allows it; so
what a call has read stays true in part, and these relations say which part.

`Database.Related` is parameterised by how a status may change.  One statement
changes a status along an edge of `Status.moves` or not at all (`Statement.steps`);
any number of them lead along `Status.LeadsTo` (`Database.Evolves`).
-/

namespace Ssoossh

open Relational

/-! ## Statuses -/

/-- The moves of a status. -/
def Status.moves : Status → Status → Bool
  | .pending, .signing => true
  | .pending, .enrolled => true
  | .pending, .denied => true
  | .pending, .expired => true
  | .signing, .approved => true
  | .signing, .failed => true
  | _, _ => false

/-- A status stays, or makes one move. -/
def Status.Moves (a b : Status) : Prop := b = a ∨ a.moves b = true

/-- Where any number of moves can lead. -/
def Status.LeadsTo : Status → Status → Prop
  | .pending, _ => True
  | .signing, b => b = .signing ∨ b = .approved ∨ b = .failed
  | a, b => b = a

namespace Status

theorem Moves.refl (a : Status) : a.Moves a := .inl rfl

theorem LeadsTo.refl (a : Status) : a.LeadsTo a := by cases a <;> simp [LeadsTo]

variable {a b : Status}

theorem LeadsTo.of_moves (h : a.Moves b) : a.LeadsTo b := by
  revert h
  cases a <;> cases b <;> simp [Moves, moves, LeadsTo]

theorem LeadsTo.trans {c : Status} (h : a.LeadsTo b) (h' : b.LeadsTo c) : a.LeadsTo c := by
  revert h h'
  cases a <;> cases b <;> cases c <;> simp [LeadsTo]

/-- A terminal status is final. -/
theorem LeadsTo.eq_of_terminal (h : a.LeadsTo b) (isOver : a.terminal = true) : b = a := by
  revert h isOver
  cases a <;> simp [LeadsTo, terminal]

/-- A row that has left `pending` does not come back. -/
theorem LeadsTo.ne_pending (h : a.LeadsTo b) (left : a ≠ .pending) : b ≠ .pending := by
  revert h left
  cases a <;> cases b <;> simp [LeadsTo]

end Status

/-! ## Rows -/

variable {db db' : Database}

section Rows

variable (R : Status → Status → Prop)

/-- What two versions of a request row have in common. -/
structure CertificateRequest.Related (row row' : CertificateRequest) : Prop where
  id : row'.id = row.id
  type : row'.type = row.type
  publicKey : row'.publicKey = row.publicKey
  sourceIP : row'.sourceIP = row.sourceIP
  createdAt : row'.createdAt = row.createdAt
  status : R row.status row'.status
  owner : ∀ userID, row.userID = some userID → row'.userID = some userID
  serial : row.status ≠ .pending → row'.serialNumber = row.serialNumber
  claim : ∀ hash, row.claimTokenHash = some hash → row'.claimTokenHash = some hash ∧
    row'.claimedAt = row.claimedAt ∧ row'.claimUserAgent = row.claimUserAgent

/-- An enrollment keeps everything but its expiry, its address for mail and what it
records about mail and redemptions. -/
def Enrollment.SameGrant (row row' : Enrollment) : Prop :=
  row' = { row with
    expiresAt := row'.expiresAt
    redeemedAt := row'.redeemedAt
    notificationEmail := row'.notificationEmail
    expiryReminderSentAt := row'.expiryReminderSentAt
    lastExpiredAttemptNotifiedAt := row'.lastExpiredAttemptNotifiedAt }

/-- A retrieval keeps everything but whether it succeeded. -/
def EnrollmentRetrieval.Same (row row' : EnrollmentRetrieval) : Prop :=
  row' = { row with succeeded := row'.succeeded }

/-- What two versions of the database have in common. -/
structure Database.Related (db db' : Database) : Prop where
  requests : ∀ id row, db.requests.find? id = some row →
    ∃ row', db'.requests.find? id = some row' ∧ row.Related R row'
  decisions : ∀ id decision, db.decisions.find? id = some decision →
    db'.decisions.find? id = some decision
  users : ∀ id user, db.users.find? id = some user →
    ∃ user', db'.users.find? id = some user' ∧ user'.subject = user.subject
  enrollments : ∀ id row, db.enrollments.find? id = some row →
    ∃ row', db'.enrollments.find? id = some row' ∧ row.SameGrant row'
  retrievals : ∀ id row, db.retrievals.find? id = some row →
    ∃ row', db'.retrievals.find? id = some row' ∧ row.Same row'

variable {R}

theorem CertificateRequest.Related.refl (reflexive : ∀ a, R a a) (row : CertificateRequest) :
    row.Related R row :=
  ⟨rfl, rfl, rfl, rfl, rfl, reflexive _, fun _ h => h, fun _ => rfl, fun _ h => ⟨h, rfl, rfl⟩⟩

theorem Database.Related.refl (reflexive : ∀ a, R a a) (db : Database) : db.Related R db where
  requests _ row found := ⟨row, found, .refl reflexive row⟩
  decisions _ _ found := found
  users _ user found := ⟨user, found, rfl⟩
  enrollments _ row found := ⟨row, found, rfl⟩
  retrievals _ row found := ⟨row, found, rfl⟩

theorem CertificateRequest.Related.mono {R' : Status → Status → Prop}
    (weaker : ∀ a b, R a b → R' a b) {row row' : CertificateRequest} (h : row.Related R row') :
    row.Related R' row' :=
  { h with status := weaker _ _ h.status }

theorem Database.Related.mono {R' : Status → Status → Prop} (weaker : ∀ a b, R a b → R' a b)
    (h : db.Related R db') : db.Related R' db' where
  requests id row found := by
    obtain ⟨row', found', related⟩ := h.requests id row found
    exact ⟨row', found', related.mono weaker⟩
  decisions := h.decisions
  users := h.users
  enrollments := h.enrollments
  retrievals := h.retrievals

end Rows

/-- How a request row evolves over any number of statements. -/
abbrev CertificateRequest.Evolves (row row' : CertificateRequest) : Prop :=
  row.Related Status.LeadsTo row'

/-- How the database evolves over any number of statements. -/
abbrev Database.Evolves (db db' : Database) : Prop := db.Related Status.LeadsTo db'

theorem CertificateRequest.Evolves.refl (row : CertificateRequest) : row.Evolves row :=
  Related.refl Status.LeadsTo.refl row

theorem CertificateRequest.Evolves.trans {a b c : CertificateRequest} (h : a.Evolves b)
    (h' : b.Evolves c) : a.Evolves c where
  id := h'.id.trans h.id
  type := h'.type.trans h.type
  publicKey := h'.publicKey.trans h.publicKey
  sourceIP := h'.sourceIP.trans h.sourceIP
  createdAt := h'.createdAt.trans h.createdAt
  status := h.status.trans h'.status
  owner userID bound := h'.owner userID (h.owner userID bound)
  serial left := (h'.serial (h.status.ne_pending left)).trans (h.serial left)
  claim hash claimed := by
    obtain ⟨first, at₁, agent₁⟩ := h.claim hash claimed
    obtain ⟨second, at₂, agent₂⟩ := h'.claim hash first
    exact ⟨second, at₂.trans at₁, agent₂.trans agent₁⟩

theorem Enrollment.SameGrant.trans {a b c : Enrollment} (h : a.SameGrant b) (h' : b.SameGrant c) :
    a.SameGrant c := by
  unfold SameGrant at *
  rw [h', h]

theorem EnrollmentRetrieval.Same.trans {a b c : EnrollmentRetrieval} (h : a.Same b)
    (h' : b.Same c) : a.Same c := by
  unfold Same at *
  rw [h', h]

theorem Database.Evolves.refl (db : Database) : db.Evolves db := Related.refl Status.LeadsTo.refl db

theorem Database.Evolves.trans {a b c : Database} (h : a.Evolves b) (h' : b.Evolves c) :
    a.Evolves c where
  requests id row found := by
    obtain ⟨mid, found₁, evolved₁⟩ := h.requests id row found
    obtain ⟨last, found₂, evolved₂⟩ := h'.requests id mid found₁
    exact ⟨last, found₂, CertificateRequest.Evolves.trans evolved₁ evolved₂⟩
  decisions id decision found := h'.decisions id decision (h.decisions id decision found)
  users id user found := by
    obtain ⟨mid, found₁, same₁⟩ := h.users id user found
    obtain ⟨last, found₂, same₂⟩ := h'.users id mid found₁
    exact ⟨last, found₂, same₂.trans same₁⟩
  enrollments id row found := by
    obtain ⟨mid, found₁, same₁⟩ := h.enrollments id row found
    obtain ⟨last, found₂, same₂⟩ := h'.enrollments id mid found₁
    exact ⟨last, found₂, same₁.trans same₂⟩
  retrievals id row found := by
    obtain ⟨mid, found₁, same₁⟩ := h.retrievals id row found
    obtain ⟨last, found₂, same₂⟩ := h'.retrievals id mid found₁
    exact ⟨last, found₂, same₁.trans same₂⟩

/-! ## What one statement does -/

namespace RequestUpdate

variable {row : CertificateRequest}

theorem bind_steps {userID : UserID} (free : (bind userID).guard row = true) :
    row.Related Status.Moves ((bind userID).set row) := by
  have unbound : row.userID = none := by simpa [bind] using free
  exact ⟨rfl, rfl, rfl, rfl, rfl, .inl rfl, by simp [unbound], fun _ => rfl,
    fun _ claimed => ⟨claimed, rfl, rfl⟩⟩

variable {now : Int}

theorem claim_steps {hash : String} {userAgent : Bytes}
    (free : (claim hash now userAgent).guard row = true) :
    row.Related Status.Moves ((claim hash now userAgent).set row) := by
  have unclaimed : row.claimTokenHash = none := by simpa [claim] using free
  exact ⟨rfl, rfl, rfl, rfl, rfl, .inl rfl, fun _ bound => bound, fun _ => rfl,
    by simp [unclaimed]⟩

/-- An update of pending rows that only decides them. -/
private theorem decides {row' : CertificateRequest} (pending : row.status = .pending)
    (moves : Status.pending.moves row'.status = true)
    (same : row' = { row with
      status := row'.status
      serialNumber := row'.serialNumber
      requestedOptions := row'.requestedOptions
      enrollmentToken := row'.enrollmentToken
      serviceAccount := row'.serviceAccount
      resolvedAt := row'.resolvedAt }) : row.Related Status.Moves row' := by
  rw [same]
  exact ⟨rfl, rfl, rfl, rfl, rfl, .inr (pending ▸ moves), fun _ bound => bound,
    fun left => (left pending).elim, fun _ claimed => ⟨claimed, rfl, rfl⟩⟩

theorem pending_of_signing {serial : Nat} {optionsJSON : String} (row : CertificateRequest)
    (accepted : (signing serial optionsJSON).guard row = true) : row.status = .pending := by
  simpa [signing, ofStatus] using accepted

theorem pending_of_enrolled {grant : ServiceGrant} (row : CertificateRequest)
    (accepted : (enrolled grant).guard row = true) : row.status = .pending := by
  simpa [enrolled, ofStatus] using accepted

theorem pending_of_denied {cutoff : Int} (row : CertificateRequest)
    (accepted : (denied cutoff now).guard row = true) : row.status = .pending := by
  simp only [denied, ofStatus, Bool.and_eq_true, beq_iff_eq] at accepted
  exact accepted.1

theorem signing_steps {serial : Nat} {optionsJSON : String}
    (accepted : (signing serial optionsJSON).guard row = true) :
    row.Related Status.Moves ((signing serial optionsJSON).set row) :=
  decides (pending_of_signing row accepted) rfl rfl

theorem enrolled_steps {grant : ServiceGrant} (accepted : (enrolled grant).guard row = true) :
    row.Related Status.Moves ((enrolled grant).set row) :=
  decides (pending_of_enrolled row accepted) rfl rfl

theorem denied_steps {cutoff : Int} (accepted : (denied cutoff now).guard row = true) :
    row.Related Status.Moves ((denied cutoff now).set row) :=
  decides (pending_of_denied row accepted) rfl rfl

theorem expired_steps (pending : (expired now).guard row = true) :
    row.Related Status.Moves ((expired now).set row) :=
  decides (by simpa [expired, ofStatus] using pending) rfl rfl

theorem resolved_steps {status : Status} {failureReason : String}
    (lawful : status = .approved ∨ status = .failed)
    (signing : (resolved status failureReason now).guard row = true) :
    row.Related Status.Moves ((resolved status failureReason now).set row) := by
  have inSigning : row.status = .signing := by simpa [resolved, ofStatus] using signing
  refine ⟨rfl, rfl, rfl, rfl, rfl, .inr ?_, fun _ bound => bound, fun _ => rfl,
    fun _ claimed => ⟨claimed, rfl, rfl⟩⟩
  rw [inSigning]
  rcases lawful with rfl | rfl <;> rfl

end RequestUpdate

namespace Database

variable {db : Database}

/-- Reading a request after an update. -/
theorem find?_updateRequests (chosen : RequestID → Bool) (update : RequestUpdate) (k : RequestID) :
    (db.updateRequests chosen update).requests.find? k =
      (db.requests.find? k).map fun row =>
        if chosen row.id && update.guard row then update.set row else row := by
  rw [updateRequests, Table.find?_update]

/-- An update that moves each row it accepts moves the database. -/
theorem updateRequests_steps (chosen : RequestID → Bool) (update : RequestUpdate)
    (steps : ∀ row, update.guard row = true → row.Related Status.Moves (update.set row)) :
    db.Related Status.Moves (db.updateRequests chosen update) where
  requests id row found := by
    refine ⟨_, by rw [find?_updateRequests, found, Option.map_some], ?_⟩
    split_ifs with accepted
    · exact steps row (by simp_all)
    · exact .refl Status.Moves.refl row
  decisions _ _ found := found
  users _ user found := ⟨user, found, rfl⟩
  enrollments _ row found := ⟨row, found, rfl⟩
  retrievals _ row found := ⟨row, found, rfl⟩

/-- What an update of one row does to the request it is about. -/
theorem updateRequest_affected {id : RequestID} {update : RequestUpdate}
    (affected : db.affectsRequest id update = true) :
    ∃ row, db.requests.find? id = some row ∧ update.guard row = true ∧
      ∀ k, (db.updateRequest id update).requests.find? k =
        if k = id then some (update.set row) else db.requests.find? k := by
  obtain ⟨row, found, accepted⟩ := Table.affects_key.mp affected
  refine ⟨row, found, accepted, fun k => ?_⟩
  rw [updateRequest, find?_updateRequests]
  split_ifs with same
  · subst same
    simp [found, Table.find?_key found, accepted]
  · cases other : db.requests.find? k with
    | none => rfl
    | some => simp [Table.find?_key other, same]

/-- Updating an enrollment keeps its grant. -/
theorem updateEnrollment_steps (id : EnrollmentID) (guard : Enrollment → Bool)
    (set : Enrollment → Enrollment)
    (keep : ∀ row, (set row).id = row.id ∧ (set row).code = row.code)
    (same : ∀ row : Enrollment, row.SameGrant (set row)) :
    db.Related Status.Moves (db.updateEnrollment id guard set keep) where
  requests _ row found := ⟨row, found, .refl Status.Moves.refl row⟩
  decisions _ _ found := found
  users _ user found := ⟨user, found, rfl⟩
  enrollments k row found := by
    refine ⟨_, by rw [updateEnrollment, Table.find?_update, found, Option.map_some], ?_⟩
    split_ifs
    · exact same row
    · rfl
  retrievals _ row found := ⟨row, found, rfl⟩

end Database

/-- The one restriction on a statement's arguments: a request is resolved to a status
that ends signing. -/
def Statement.Lawful : Statement → Prop
  | .markResolved _ status _ _ => status = .approved ∨ status = .failed
  | _ => True

/-! ### Deciding a request -/

namespace Database

variable {db db' : Database} {id : RequestID} {decision : Decision} {settled : Settled}

/-- A transaction has updated the row of one request and recorded one decision. -/
structure Decided (db db' : Database) (id : RequestID) (update : RequestUpdate)
    (decision : Decision) (row : CertificateRequest) : Prop where
  found : db.requests.find? id = some row
  accepted : update.guard row = true
  requests : ∀ k, db'.requests.find? k =
    if k = id then some (update.set row) else db.requests.find? k
  recorded : db.decisions.insert decision = some db'.decisions
  users : db'.users = db.users
  retrievals : db'.retrievals = db.retrievals

theorem Decided.decisions {update : RequestUpdate} {row : CertificateRequest}
    (h : db.Decided db' id update decision row) (k : RequestID) :
    db'.decisions.find? k =
      if decision.certificateRequestID = k then some decision else db.decisions.find? k :=
  Table.find?_insert h.recorded k

/-- Such a transaction has committed, or it has found nothing to do. -/
def Settles (db db' : Database) (id : RequestID) (update : RequestUpdate) (decision : Decision)
    (settled : Settled) : Prop :=
  settled = .committed ∧ (∃ row, db.Decided db' id update decision row) ∨
    settled ≠ .committed ∧ db' = db

/-- The two steps every such transaction has in common. -/
private theorem decided_of_recordDecision {update : RequestUpdate} {mid : Database} {stage : Nat}
    (affected : db.affectsRequest id update = true)
    (recorded : mid.recordDecision decision stage = .ok db')
    (requests : mid.requests = (db.updateRequest id update).requests)
    (decisions : mid.decisions = db.decisions) (users : mid.users = db.users)
    (retrievals : mid.retrievals = db.retrievals) :
    (∃ row, db.Decided db' id update decision row) ∧ db'.enrollments = mid.enrollments := by
  unfold recordDecision at recorded
  split at recorded
  · rename_i next inserted
    cases recorded
    obtain ⟨row, found, accepted, rows⟩ := updateRequest_affected affected
    refine ⟨⟨row, found, accepted, fun k => ?_, decisions ▸ inserted, users, retrievals⟩, rfl⟩
    rw [← rows k, ← requests]
  · cases recorded

theorem settles_approveForSigning {serial : Nat} {optionsJSON : String}
    (done : db.approveForSigning id serial optionsJSON decision = .ok (db', settled)) :
    db.Settles db' id (.signing serial optionsJSON) decision settled ∧
      db'.enrollments = db.enrollments := by
  simp only [approveForSigning] at done
  split_ifs at done with affected
  · obtain ⟨next, recorded, kept⟩ := Fallible.bind_eq_ok.mp done
    cases kept
    obtain ⟨decided, enrollments⟩ := decided_of_recordDecision affected recorded rfl rfl rfl rfl
    exact ⟨.inl ⟨rfl, decided⟩, enrollments⟩
  · cases done
    exact ⟨.inr ⟨by simp, rfl⟩, rfl⟩

theorem settles_deny {cutoff now : Int}
    (done : db.deny id cutoff now decision = .ok (db', settled)) :
    db.Settles db' id (.denied cutoff now) decision settled ∧ db'.enrollments = db.enrollments := by
  simp only [deny] at done
  split_ifs at done with affected
  · obtain ⟨next, recorded, kept⟩ := Fallible.bind_eq_ok.mp done
    cases kept
    obtain ⟨decided, enrollments⟩ := decided_of_recordDecision affected recorded rfl rfl rfl rfl
    exact ⟨.inl ⟨rfl, decided⟩, enrollments⟩
  · cases done
    exact ⟨.inr ⟨by simp, rfl⟩, rfl⟩

theorem settles_approveServiceEnrollment {grant : ServiceGrant}
    (done : db.approveServiceEnrollment grant decision = .ok (db', settled)) :
    db.Settles db' grant.requestID (.enrolled grant) decision settled ∧
      (settled = .committed → db.enrollments.insert grant.enrollment = some db'.enrollments) := by
  simp only [approveServiceEnrollment] at done
  split_ifs at done with affected
  · split at done
    · cases done
    · rename_i enrollments inserted
      obtain ⟨next, recorded, kept⟩ := Fallible.bind_eq_ok.mp done
      cases kept
      obtain ⟨decided, same⟩ := decided_of_recordDecision affected recorded rfl rfl rfl rfl
      exact ⟨.inl ⟨rfl, decided⟩, fun _ => by rw [same]; exact inserted⟩
  · cases done
    exact ⟨.inr ⟨by simp, rfl⟩, fun committed => by cases committed⟩

/-- A transaction that decides a request moves the database if its update moves the row and the
enrollments stay. -/
theorem Settles.steps {update : RequestUpdate} (settles : db.Settles db' id update decision settled)
    (moves : ∀ row, update.guard row = true → row.Related Status.Moves (update.set row))
    (enrollments : settled = .committed → ∀ key row, db.enrollments.find? key = some row →
      db'.enrollments.find? key = some row) : db.Related Status.Moves db' := by
  rcases settles with ⟨committed, row, h⟩ | ⟨-, rfl⟩
  · refine ⟨fun k old found => ?_, fun _ _ => Table.find?_insert_of_some h.recorded, ?_,
      fun key row found => ⟨row, enrollments committed key row found, rfl⟩, ?_⟩
    · rw [h.requests]
      split_ifs with same
      · subst same
        cases h.found.symm.trans found
        exact ⟨_, rfl, moves row h.accepted⟩
      · exact ⟨old, found, .refl Status.Moves.refl old⟩
    · exact h.users ▸ (Database.Related.refl Status.Moves.refl db).users
    · exact h.retrievals ▸ (Database.Related.refl Status.Moves.refl db).retrievals
  · exact .refl Status.Moves.refl _

end Database

/-! ### All statements -/

/-- The rows of requests that a statement rewrites, and how, if it does nothing else. -/
def Statement.amends : Statement → Option ((RequestID → Bool) × RequestUpdate)
  | .bindRequester id userID => some (fun k => decide (k = id), .bind userID)
  | .expire id now => some (fun k => decide (k = id), .expired now)
  | .markResolved id status failureReason now =>
    some (fun k => decide (k = id), .resolved status failureReason now)
  | .failStranded ids failureReason now => some (ids.contains, .resolved .failed failureReason now)
  | .claimPage id hash now userAgent => some (fun k => decide (k = id), .claim hash now userAgent)
  | _ => none

/-- A statement creates or decides a request. -/
def Statement.decisive : Statement → Bool
  | .insertRequest _ => true
  | .approveForSigning _ _ _ _ => true
  | .approveServiceEnrollment _ _ => true
  | .deny _ _ _ _ => true
  | _ => false

/-- What a statement does that neither creates nor decides a request: it rewrites rows of
requests, or it is about other tables. -/
inductive Statement.Change (db : Database) (statement : Statement) : Database → Prop
  | amend {chosen : RequestID → Bool} {update : RequestUpdate}
      (amends : statement.amends = some (chosen, update)) :
      Change db statement (db.updateRequests chosen update)
  | elsewhere {db' : Database} (requests : db'.requests = db.requests)
      (decisions : db'.decisions = db.decisions) (related : db.Related Status.Moves db')
      (enrollments : ∀ key row', db'.enrollments.find? key = some row' →
        ∃ row, db.enrollments.find? key = some row ∧ row.SameGrant row') : Change db statement db'

variable {statement : Statement}

/-- A statement that leaves the enrollments alone too. -/
private theorem Statement.Change.of_related
    (related : db.Related Status.Moves db') (requests : db'.requests = db.requests)
    (decisions : db'.decisions = db.decisions) (enrollments : db'.enrollments = db.enrollments) :
    statement.Change db db' :=
  .elsewhere requests decisions related fun _ row found => ⟨row, enrollments ▸ found, rfl⟩

variable {result : statement.Result}

theorem Statement.change
    (plain : statement.decisive = false) (done : statement.run db = .ok (db', result)) :
    statement.Change db db' := by
  have same := Database.Related.refl Status.Moves.refl db
  have enrollment (id : EnrollmentID) (guard : Enrollment → Bool) (set : Enrollment → Enrollment)
      (keep : ∀ row, (set row).id = row.id ∧ (set row).code = row.code)
      (grant : ∀ row : Enrollment, row.SameGrant (set row)) :
      statement.Change db (db.updateEnrollment id guard set keep) := by
    refine .elsewhere rfl rfl (Database.updateEnrollment_steps id guard set keep grant)
      fun key row' found' => ?_
    rw [Database.updateEnrollment, Table.find?_update] at found'
    obtain ⟨row, found, rfl⟩ := Option.map_eq_some_iff.mp found'
    refine ⟨row, found, ?_⟩
    split_ifs
    · exact grant row
    · rfl
  cases statement with
  | insertRequest | approveForSigning | approveServiceEnrollment | deny => cases plain
  | bindRequester | expire | markResolved | failStranded | claimPage =>
    cases done
    exact .amend rfl
  | stampRedemption | claimExpiredAttempt | expireEnrollment | setNotificationEmail =>
    cases done
    exact enrollment _ _ _ _ fun _ => rfl
  | recordCertificate =>
    simp only [run, Database.recordCertificate] at done
    split at done
    · cases done
      exact .of_related same rfl rfl rfl
    · split at done
      · cases done
        exact .of_related { same with } rfl rfl rfl
      · cases done
  | insertRetrieval =>
    simp only [run] at done
    split at done
    · rename_i retrievals inserted
      cases done
      refine .of_related { same with retrievals := fun id old found => ?_ } rfl rfl rfl
      exact ⟨old, Table.find?_insert_of_some inserted found, rfl⟩
    · cases done
  | retrievalSucceeded =>
    cases done
    refine .of_related { same with retrievals := fun k old found => ?_ } rfl rfl rfl
    refine ⟨_, by rw [Table.find?_update, found, Option.map_some], ?_⟩
    split_ifs <;> rfl
  | upsertUser =>
    simp only [run, Database.upsertUser] at done
    split at done
    · cases done
      refine .of_related { same with users := fun k old found => ?_ } rfl rfl rfl
      refine ⟨_, by rw [Table.find?_update, found, Option.map_some], ?_⟩
      split_ifs <;> rfl
    · split at done
      · rename_i users inserted
        cases done
        refine .of_related { same with users := fun k old found => ?_ } rfl rfl rfl
        exact ⟨old, Table.find?_insert_of_some inserted found, rfl⟩
      · cases done

/-- A rewriting moves each row it accepts, and decides none. -/
theorem Statement.amends_steps {chosen : RequestID → Bool}
    {update : RequestUpdate} (lawful : statement.Lawful)
    (amends : statement.amends = some (chosen, update)) {row : CertificateRequest}
    (accepted : update.guard row = true) :
    row.Related Status.Moves (update.set row) ∧ (row.status = .pending →
      (update.set row).status = .pending ∨ (update.set row).status = .expired) := by
  cases statement with
  | bindRequester =>
    cases amends
    exact ⟨RequestUpdate.bind_steps accepted, .inl⟩
  | claimPage =>
    cases amends
    exact ⟨RequestUpdate.claim_steps accepted, .inl⟩
  | expire =>
    cases amends
    exact ⟨RequestUpdate.expired_steps accepted, fun _ => .inr rfl⟩
  | markResolved =>
    cases amends
    refine ⟨RequestUpdate.resolved_steps lawful accepted, fun pending => ?_⟩
    simp [RequestUpdate.resolved, RequestUpdate.ofStatus, pending] at accepted
  | failStranded =>
    cases amends
    refine ⟨RequestUpdate.resolved_steps (.inr rfl) accepted, fun pending => ?_⟩
    simp [RequestUpdate.resolved, RequestUpdate.ofStatus, pending] at accepted
  | _ => cases amends

/-- **One statement moves the database by one step.** -/
theorem Statement.steps (lawful : statement.Lawful) (done : statement.run db = .ok (db', result)) :
    db.Related Status.Moves db' := by
  by_cases plain : statement.decisive = false
  · cases Statement.change plain done with
    | amend amends =>
      exact Database.updateRequests_steps _ _ fun _ accepted => (amends_steps lawful amends accepted).1
    | elsewhere _ _ related => exact related
  cases statement with
  | insertRequest =>
    simp only [run] at done
    split at done
    · rename_i requests inserted
      cases done
      exact { Database.Related.refl Status.Moves.refl db with
        requests := fun id old found =>
          ⟨old, Table.find?_insert_of_some inserted found, .refl Status.Moves.refl old⟩ }
    · cases done
  | approveForSigning =>
    obtain ⟨settles, enrollments⟩ := Database.settles_approveForSigning done
    exact settles.steps (fun _ => RequestUpdate.signing_steps) fun _ _ _ found => enrollments ▸ found
  | approveServiceEnrollment =>
    obtain ⟨settles, inserted⟩ := Database.settles_approveServiceEnrollment done
    exact settles.steps (fun _ => RequestUpdate.enrolled_steps) fun committed _ _ =>
      Table.find?_insert_of_some (inserted committed)
  | deny =>
    obtain ⟨settles, enrollments⟩ := Database.settles_deny done
    exact settles.steps (fun _ => RequestUpdate.denied_steps) fun _ _ _ found => enrollments ▸ found
  | _ => exact absurd rfl plain

/-- Any lawful statement lets the database evolve. -/
theorem Statement.evolves
    (lawful : statement.Lawful) (done : statement.run db = .ok (db', result)) : db.Evolves db' :=
  (steps lawful done).mono fun _ _ => .of_moves

end Ssoossh
