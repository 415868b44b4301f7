import Ssoossh.Server.Effects
import Ssoossh.Server.Issuance

/-!
# The life of a certificate request

The invariant of the whole server, over any number of processes, users and calls.
The tables agree about every request, every job that was published is accounted for
by a decision or by a retrieval, whatever a process has cached or been sent was told
by some process before, and no page is claimed twice (`Shared.Sound`).

`lifecycle` is the contract that says so: what each action owes (`Owes`) is enough to
keep the invariant, and the discipline of `Ssoossh.Server.Discipline` is enough for
what the actions owe.  `lifecycleCalls` are the calls of the server under it, and
`Server.start` is a server with a new database on which nothing has been called yet.
-/

namespace Ssoossh

open Interleaving Relational GoTime List Option

/-! ## The invariant -/

/-- A job carries what a grant fixed. -/
structure SigningJob.Carries (job : SigningJob) (grant : ServiceGrant) : Prop where
  publicKey : job.publicKey = grant.publicKey
  keyID : job.keyID = grant.keyID
  principals : job.principals = grant.principals
  options : job.requestedOptions = grant.options
  lifetime : job.validBefore - job.validAfter =
    Duration.quot grant.effectiveDuration Duration.second * Duration.second

/-- What a published job rests on: an approved decision and the serial of the row, or
a retrieval of an enrollment. -/
inductive SigningJob.Accounted (job : SigningJob) (s : Shared) : Prop
  | approval {row : CertificateRequest} {decision : Decision} (type : job.type ≠ .service)
      (found : s.row job.requestID = some row) (left : row.status ≠ .pending)
      (serial : row.serialNumber = some job.serial)
      (recorded : s.db.decisions.find? job.requestID = some decision)
      (approved : decision.outcome = .approved)
  | retrieval {row : EnrollmentRetrieval} {enrollment : Enrollment} {grant : ServiceGrant}
      (type : job.type = .service) (found : s.db.retrievals.find? job.requestID = some row)
      (serial : row.certificateSerial = job.serial)
      (redeemed : s.db.enrollments.find? row.enrollmentID = some enrollment)
      (granted : grant ∈ s.grants) (code : enrollment.code = grant.token)
      (carries : job.Carries grant)

/-- An outcome worth telling: final, and with a certificate only when approved. -/
def WaitOutcome.Honest (outcome : WaitOutcome) : Prop :=
  outcome.status.terminal = true ∧ (outcome.certificate ≠ "" → outcome.status = .approved)

namespace Shared

/-- A message was told by some process. -/
def Heralded (s : Shared) (topic : String) (message : OutcomeMessage) : Prop :=
  ∃ told ∈ s.told, told.requestID = topic ∧ told.outcome.toMessage = message

/-- There is an enrollment row of a grant. -/
def Stores (s : Shared) (grant : ServiceGrant) : Prop :=
  ∃ enrollment, s.db.enrollments.find? grant.enrollmentID = some enrollment ∧
    grant.enrollment.SameGrant enrollment

/-- **The invariant of the server.** -/
structure Sound (s : Shared) : Prop where
  consistent : s.db.Consistent
  jobs : ∀ job ∈ s.jobs, job.Accounted s
  cached : ∀ process id outcome, s.resolved process id = some outcome →
    ⟨process, id, outcome⟩ ∈ s.told
  told : ∀ told ∈ s.told, told.outcome.Honest
  queued : ∀ tid channel, s.channels tid = some channel → channel.queue ⊆ channel.delivered
  delivered : ∀ tid channel, s.channels tid = some channel → ∀ message,
    some message ∈ channel.delivered → s.Heralded channel.topic message
  claimed : ∀ claim ∈ s.claims, ∃ row, s.row claim.requestID = some row ∧
    row.claimTokenHash = some claim.hash
  claimedOnce : ∀ claim ∈ s.claims, ∀ claim' ∈ s.claims,
    claim.requestID = claim'.requestID → claim = claim'
  enrollments : ∀ key enrollment, s.db.enrollments.find? key = some enrollment →
    ∃ grant ∈ s.grants, grant.enrollment.SameGrant enrollment
  grants : ∀ grant ∈ s.grants, Duration.Fits grant.effectiveDuration
  granted : ∀ grant ∈ s.grants, s.Stores grant

theorem sound_empty : ({ db := .empty } : Shared).Sound where
  consistent := Database.consistent_empty
  jobs _ member := by cases member
  cached _ _ _ found := by cases found
  told _ member := by cases member
  queued _ _ found := by cases found
  delivered _ _ found := by cases found
  claimed _ member := by cases member
  claimedOnce _ member := by cases member
  enrollments _ _ found := by cases found
  grants _ member := by cases member
  granted _ member := by cases member

end Shared

/-! ## What actions owe -/

/-- A decision in the name of the user the request belongs to. -/
def Decision.Rightful (decision : Decision) (s : Shared) (id : RequestID) : Prop :=
  decision.certificateRequestID = id ∧ ∃ row, s.row id = some row ∧
    s.db.OwnedBy row decision.subject

/-- What a statement owes. -/
def Statement.Owes (tid : Tid) (s : Shared) : Statement → Prop
  | .insertRequest row => row.Untouched
  | .approveForSigning id _ _ decision => decision.outcome = .approved ∧ decision.Rightful s id
  | .approveServiceEnrollment grant decision => Duration.Fits grant.effectiveDuration ∧
    decision.outcome = .approved ∧ decision.Rightful s grant.requestID
  | .deny id _ _ decision => decision.outcome = .denied ∧ decision.Rightful s id
  | .markResolved id status _ _ => (status = .approved ∨ status = .failed) ∧
    ∃ outcome, outcome.status = status ∧ ⟨tid.process, id, outcome⟩ ∈ s.told
  | _ => True

/-- An outcome that was told before. -/
def Shared.Repeats (s : Shared) (id : RequestID) (outcome : WaitOutcome) : Prop :=
  ∃ told ∈ s.told, told.requestID = id ∧ told.outcome.status = outcome.status ∧
    told.outcome.certificate = outcome.certificate

/-- What a write to the cache owes. -/
def PutSite.Owes (s : Shared) (id : RequestID) (outcome : WaitOutcome) : PutSite → Prop
  | .notify => outcome.certificate = "" ∧ s.Ended id outcome.status ∨
    outcome.status = .approved ∨ outcome.certificate = "" ∧ outcome.status = .failed
  | .accept => s.Repeats id outcome ∧ s.Ended id outcome.status

/-- What an action owes. -/
def Owes (tid : Tid) (action : Act) (s : Shared) : Prop :=
  match action with
  | .write statement => statement.Owes tid s
  | .cachePut site id outcome => site.Owes s id outcome
  | .publishWake topic (some message) =>
    ∃ outcome, outcome.toMessage = message ∧ ⟨tid.process, topic, outcome⟩ ∈ s.told
  | .publishJob job => job.Accounted s
  | _ => True

variable {statement : Statement}

theorem Statement.Owes.lawful {tid : Tid} {s : Shared} (owed : statement.Owes tid s) :
    statement.Lawful := by
  cases statement with
  | markResolved => exact owed.1
  | _ => trivial

variable {action : Act}

/-- An action that meets what it owes lets the state evolve. -/
theorem Effect.evolves_of_owes {tid : Tid} {s s' : Shared} {answer : action.Resp}
    (effect : Effect tid s action answer s') (owed : Owes tid action s) : s.Evolves s' :=
  effect.evolves fun statement same => by
    subst same
    exact Statement.Owes.lawful owed

/-! ## What answers stand for -/

variable {db : Database} {id : RequestID}

section Learning

variable {tid : Tid} {s s' : Shared}

/-- A guarded update of one row that touched it. -/
private theorem row_of_affected {update : RequestUpdate}
    (affected : db.affectsRequest id update = true) :
    ∃ row, update.guard row = true ∧
      (db.updateRequest id update).requests.find? id = some (update.set row) := by
  obtain ⟨row, -, accepted, rows⟩ := Database.updateRequest_affected affected
  exact ⟨row, accepted, by rw [rows, if_pos rfl]⟩

/-- A transaction that committed has left the row as its update sets it. -/
private theorem row_of_settles {db' : Database} {update : RequestUpdate} {decision : Decision}
    (settles : db.Settles db' id update decision .committed) :
    (∃ row, db'.requests.find? id = some (update.set row)) ∧
      db'.decisions.find? decision.certificateRequestID = some decision := by
  rcases settles with ⟨-, row, h⟩ | ⟨absurd, -⟩
  · exact ⟨⟨row, by rw [h.requests, if_pos rfl]⟩, by rw [h.decisions, if_pos rfl]⟩
  · exact (absurd rfl).elim

/-- What a write is answered is true of the state it leaves. -/
theorem Statement.learn {result : statement.Result} (done : statement.run s.db = .ok (db, result)) :
    statement.Learned tid (({ s with db } : Shared).note tid statement result) result := by
  unfold Learned
  split
  · obtain ⟨rfl, affected⟩ := Prod.mk.inj (Except.ok.inj done)
    obtain ⟨row, -, found⟩ := row_of_affected affected
    exact ⟨_, found, rfl⟩
  · obtain ⟨⟨row, found⟩, recorded⟩ := row_of_settles (Database.settles_approveForSigning done).1
    exact ⟨recorded, _, found, by simp [RequestUpdate.signing, RequestUpdate.ofStatus], rfl⟩
  · obtain ⟨⟨row, found⟩, -⟩ := row_of_settles (Database.settles_approveServiceEnrollment done).1
    exact ⟨_, found, rfl, rfl⟩
  · obtain ⟨⟨row, found⟩, -⟩ := row_of_settles (Database.settles_deny done).1
    exact ⟨_, found, rfl, rfl⟩
  · obtain ⟨rfl, affected⟩ := Prod.mk.inj (Except.ok.inj done)
    obtain ⟨row, -, found⟩ := row_of_affected affected
    exact ⟨_, found, rfl, rfl⟩
  · rename_i ids failureReason now rows
    obtain ⟨rfl, same⟩ := Prod.mk.inj (Except.ok.inj done)
    intro row member
    rw [← show _ = rows from same] at member
    obtain ⟨old, chosen, rfl⟩ := mem_map.mp member
    obtain ⟨present, selected⟩ := Table.mem_select.mp chosen
    refine ⟨(RequestUpdate.resolved .failed failureReason now).set old, ?_, rfl, rfl⟩
    show (s.db.updateRequests _ _).requests.find? old.id = _
    rw [Database.find?_updateRequests, Table.find?_of_mem present, map_some, if_pos selected]
  · rename_i row _
    simp only [run] at done
    split at done
    · rename_i retrievals inserted
      cases done
      refine ⟨row, ?_, rfl⟩
      show retrievals.find? row.id = some row
      rw [Table.find?_insert inserted, if_pos rfl]
    · cases done
  · exact mem_cons_self
  · trivial

/-- What a read is answered is plausible, and true of the state. -/
theorem Query.learn (query : Query) : Plausible (.read query) (.ok (query.answer s.db)) ∧
    query.Learned s (query.answer s.db) := by
  cases query with
  | request site id =>
    cases found : s.db.requests.find? id with
    | none => simp only [answer, found]; exact ⟨trivial, trivial⟩
    | some row =>
      simp only [answer, found]
      exact ⟨Table.find?_key found, row, found, .refl row⟩
  | user subject =>
    cases found : s.db.users.findWhere fun user => user.subject == subject with
    | none => simp only [answer, found]; exact ⟨trivial, trivial⟩
    | some row =>
      simp only [answer, found]
      obtain ⟨member, same⟩ := Table.mem_of_findWhere found
      have same : row.subject = subject := by simpa using same
      exact ⟨same, row, Table.find?_of_mem member, same⟩
  | enrollmentByCode code =>
    cases found : s.db.enrollments.findWhere fun enrollment => enrollment.code == code with
    | none => simp only [answer, found]; exact ⟨trivial, trivial⟩
    | some row =>
      simp only [answer, found]
      obtain ⟨member, same⟩ := Table.mem_of_findWhere found
      have same : row.code = code := by simpa using same
      exact ⟨same, row, Table.find?_of_mem member, rfl⟩
  | _ => exact ⟨trivial, trivial⟩

/-- **What an action is answered is plausible, and stands for what it says.** -/
theorem Effect.learn {answer : action.Resp} (sound : s.Sound)
    (effect : Effect tid s action answer s') :
    Plausible action answer ∧ Learned tid s' action answer := by
  cases effect with
  | read => exact Query.learn _
  | write done => exact ⟨trivial, Statement.learn done⟩
  | @cacheGet id =>
    refine ⟨trivial, ?_⟩
    cases found : s.resolved tid.process id with
    | none => trivial
    | some => exact sound.cached _ _ _ found
  | cachePut => exact ⟨trivial, mem_cons_self⟩
  | evict | publishWake | publishJob => exact ⟨trivial, trivial⟩
  | @subscribe topic free => exact ⟨trivial, { topic }, Function.update_self _ _ _, rfl⟩
  | @receive armed topic payload queue delivered there =>
    refine ⟨trivial, ?_⟩
    cases payload with
    | none => trivial
    | some message =>
      have arrived : some message ∈ delivered := sound.queued _ _ there mem_cons_self
      obtain ⟨told, member, same⟩ := sound.delivered _ _ there message arrived
      exact ⟨_, Function.update_self _ _ _, told, member, same⟩
  | @quiet _ _ nothing =>
    cases action with
    | read query =>
      cases answer with
      | ok => exact nothing.elim
      | error => exact ⟨by cases query <;> trivial, trivial⟩
    | write =>
      cases answer with
      | ok => exact nothing.elim
      | error => exact ⟨trivial, trivial⟩
    | subscribe =>
      cases answer with
      | ok => exact nothing.elim
      | error => exact ⟨trivial, trivial⟩
    | receive =>
      cases answer with
      | message => exact nothing.elim
      | _ => exact ⟨trivial, trivial⟩
    | random =>
      cases answer with
      | ok => exact ⟨nothing, trivial⟩
      | error => exact ⟨trivial, trivial⟩
    | cacheGet | cachePut => exact nothing.elim
    | _ => exact ⟨trivial, trivial⟩

end Learning

/-! ## The invariant is kept -/

variable {job : SigningJob}

section Keeping

variable {tid : Tid} {s s' : Shared}

/-- What a job rests on stays. -/
theorem SigningJob.Accounted.mono (h : s.Evolves s') : job.Accounted s → job.Accounted s'
  | .approval type found left serial recorded approved => by
    obtain ⟨row', found', evolved⟩ := h.row found
    exact .approval type found' (evolved.status.ne_pending left)
      ((evolved.serial left).trans serial) (h.db.decisions _ _ recorded) approved
  | .retrieval type found serial redeemed granted code carries => by
    obtain ⟨row', found', same⟩ := h.db.retrievals _ _ found
    obtain ⟨enrollment', redeemed', same'⟩ := h.db.enrollments _ _ redeemed
    have serial' : row'.certificateSerial = job.serial := by rw [same]; exact serial
    have redeemed'' : s'.db.enrollments.find? row'.enrollmentID = some enrollment' := by
      rw [same]
      exact redeemed'
    exact .retrieval type found' serial' redeemed'' (h.grants granted) (by rw [same']; exact code)
      carries

/-- An enrollment row stays, and so does what it was granted. -/
theorem Shared.Stores.mono {grant : ServiceGrant} (h : s.Evolves s') :
    s.Stores grant → s'.Stores grant := by
  rintro ⟨enrollment, found, same⟩
  obtain ⟨enrollment', found', same'⟩ := h.db.enrollments _ _ found
  exact ⟨enrollment', found', same.trans same'⟩

variable {result : statement.Result}

/-- A write keeps the tables consistent. -/
theorem Statement.consistent (consistent : s.db.Consistent)
    (owed : statement.Owes tid s) (done : statement.run s.db = .ok (db, result)) :
    db.Consistent := by
  have rightful {decision : Decision} {id : RequestID} (h : decision.Rightful s id) :
      ∀ row, s.db.requests.find? id = some row → s.db.OwnedBy row decision.subject := by
    intro row found
    obtain ⟨-, row', found', owned⟩ := h
    cases found.symm.trans found'
    exact owned
  cases statement with
  | insertRequest =>
    simp only [run] at done
    split at done
    · rename_i requests inserted
      cases done
      exact consistent.create owed.1 inserted rfl rfl rfl
    · cases done
  | approveForSigning =>
    obtain ⟨settles, enrollments⟩ := Database.settles_approveForSigning done
    refine consistent.settle settles RequestUpdate.pending_of_signing
      (fun _ => Status.decided_signing) (fun _ => rfl) owed.2.1 (rightful owed.2) (fun _ => ?_)
      fun _ _ k => ?_
    · rw [owed.1]
      exact iff_of_false (by decide) (by simp [RequestUpdate.signing, RequestUpdate.ofStatus])
    · simp [Database.Enrolls, enrollments, RequestUpdate.signing, RequestUpdate.ofStatus]
  | approveServiceEnrollment =>
    obtain ⟨settles, inserted⟩ := Database.settles_approveServiceEnrollment done
    refine consistent.settle settles RequestUpdate.pending_of_enrolled
      (fun _ => Status.decided_enrolled) (fun _ => rfl) owed.2.2.1 (rightful owed.2.2) (fun _ => ?_)
      fun committed _ k => ?_
    · rw [owed.2.1]
      exact iff_of_false (by decide) (by simp [RequestUpdate.enrolled, RequestUpdate.ofStatus])
    · rw [Database.enrolls_insert (inserted committed)]
      simp [RequestUpdate.enrolled, RequestUpdate.ofStatus]
  | deny =>
    obtain ⟨settles, enrollments⟩ := Database.settles_deny done
    refine consistent.settle settles RequestUpdate.pending_of_denied
      (fun _ => Status.decided_denied) (fun _ => rfl) owed.2.1 (rightful owed.2) (fun _ => ?_)
      fun _ _ k => ?_
    · exact iff_of_true owed.1 rfl
    · simp [Database.Enrolls, enrollments, RequestUpdate.denied, RequestUpdate.ofStatus]
  | _ => exact consistent.keep (Statement.steps owed.lawful done) (Statement.keeps owed.lawful rfl done)

/-- Where an enrollment row comes from: it was there, or its grant is noted. -/
theorem Statement.enrollment_origin (lawful : statement.Lawful)
    (done : statement.run s.db = .ok (db, result)) {key : EnrollmentID} {enrollment' : Enrollment}
    (found : db.enrollments.find? key = some enrollment') :
    (∃ enrollment, s.db.enrollments.find? key = some enrollment ∧
      enrollment.SameGrant enrollment') ∨
    ∃ grant ∈ (({ s with db } : Shared).note tid statement result).grants,
      grant.enrollment.SameGrant enrollment' := by
  cases statement with
  | insertRequest =>
    simp only [run] at done
    split at done
    · cases done
      exact .inl ⟨enrollment', found, rfl⟩
    · cases done
  | approveForSigning =>
    rw [(Database.settles_approveForSigning done).2] at found
    exact .inl ⟨enrollment', found, rfl⟩
  | deny =>
    rw [(Database.settles_deny done).2] at found
    exact .inl ⟨enrollment', found, rfl⟩
  | approveServiceEnrollment grant =>
    obtain ⟨settles, inserted⟩ := Database.settles_approveServiceEnrollment done
    rcases settles with ⟨rfl, -⟩ | ⟨-, rfl⟩
    · rw [Table.find?_insert (inserted rfl)] at found
      split_ifs at found
      · cases found
        exact .inr ⟨grant, mem_cons_self, rfl⟩
      · exact .inl ⟨enrollment', found, rfl⟩
    · exact .inl ⟨enrollment', found, rfl⟩
  | _ => exact .inl ((Statement.keeps lawful rfl done).enrollments key enrollment' found)

/-- A new claim is for a page nobody had claimed. -/
theorem Statement.claims_note (done : statement.run s.db = .ok (db, result)) {claim : PageClaim}
    (member : claim ∈ (({ s with db } : Shared).note tid statement result).claims) :
    claim ∈ s.claims ∨
      (∃ row, s.row claim.requestID = some row ∧ row.claimTokenHash = none) ∧
        (∃ row, db.requests.find? claim.requestID = some row ∧
          row.claimTokenHash = some claim.hash) ∧
        (({ s with db } : Shared).note tid statement result).claims = claim :: s.claims := by
  unfold Shared.note at member ⊢
  split at member
  · exact .inl member
  · obtain ⟨rfl, affected⟩ := Prod.mk.inj (Except.ok.inj done)
    rcases mem_cons.mp member with rfl | old
    · obtain ⟨row, found, accepted, rows⟩ := Database.updateRequest_affected affected
      refine .inr ⟨⟨row, found, ?_⟩, ⟨_, by rw [rows, if_pos rfl], rfl⟩, rfl⟩
      simpa [RequestUpdate.claim] using accepted
    · exact .inl old
  · exact .inl member

/-- A write keeps the invariant. -/
theorem Shared.Sound.write (sound : s.Sound)
    (owed : statement.Owes tid s) (done : statement.run s.db = .ok (db, result)) :
    (({ s with db } : Shared).note tid statement result).Sound := by
  have effect : Effect tid s (.write statement) (.ok result) _ := .write done
  have evolved := effect.evolves_of_owes owed
  refine ⟨?_, ?_, ?_, ?_, ?_, ?_, ?_, ?_, ?_, ?_, ?_⟩
  · rw [Shared.db_note]
    exact Statement.consistent sound.consistent owed done
  · intro job member
    rw [Shared.jobs_note] at member
    exact (sound.jobs job member).mono evolved
  · rw [Shared.resolved_note, Shared.told_note]
    exact sound.cached
  · rw [Shared.told_note]
    exact sound.told
  · rw [Shared.channels_note]
    exact sound.queued
  · simp only [Shared.channels_note, Shared.Heralded, Shared.told_note]
    exact sound.delivered
  · intro claim member
    rcases Statement.claims_note done member with old | ⟨-, ⟨row, found, held⟩, -⟩
    · obtain ⟨row, found, held⟩ := sound.claimed claim old
      obtain ⟨row', found', kept⟩ := evolved.row found
      exact ⟨row', found', (kept.claim _ held).1⟩
    · exact ⟨row, by rw [Shared.row, Shared.db_note]; exact found, held⟩
  · -- a page that is claimed now had no hash, so no earlier claim is for it
    have fresh {claim old : PageClaim} (member : old ∈ s.claims)
        (free : ∃ row, s.row claim.requestID = some row ∧ row.claimTokenHash = none)
        (same : claim.requestID = old.requestID) : False := by
      obtain ⟨row, found, none⟩ := free
      obtain ⟨row', found', held⟩ := sound.claimed old member
      rw [same, found'] at found
      cases found
      rw [held] at none
      cases none
    intro claim member claim' member' same
    rcases Statement.claims_note done member with old | ⟨free, -, all⟩
    · rcases Statement.claims_note done member' with old' | ⟨free', -, -⟩
      · exact sound.claimedOnce claim old claim' old' same
      · exact (fresh old free' same.symm).elim
    · rw [all] at member'
      rcases mem_cons.mp member' with rfl | old'
      · rfl
      · exact (fresh old' free same).elim
  · intro key enrollment' found
    rw [Shared.db_note] at found
    rcases Statement.enrollment_origin owed.lawful done found with ⟨old, there, kept⟩ | noted
    · obtain ⟨grant, member, same⟩ := sound.enrollments key old there
      exact ⟨grant, evolved.grants member, same.trans kept⟩
    · exact noted
  · intro grant member
    unfold Shared.note at member
    split at member
    · rcases mem_cons.mp member with rfl | old
      · exact owed.1
      · exact sound.grants grant old
    · exact sound.grants grant member
    · exact sound.grants grant member
  · intro grant member
    have old (there : grant ∈ s.grants) := (sound.granted grant there).mono evolved
    unfold Shared.note at member
    split at member
    · rcases mem_cons.mp member with rfl | there
      · obtain ⟨-, inserted⟩ := Database.settles_approveServiceEnrollment done
        refine ⟨grant.enrollment, ?_, rfl⟩
        show db.enrollments.find? grant.enrollmentID = some grant.enrollment
        rw [Table.find?_insert (inserted rfl)]
        exact if_pos rfl
      · exact old there
    · exact old member
    · exact old member

/-- What may be cached is worth telling. -/
theorem PutSite.Owes.honest {site : PutSite} {outcome : WaitOutcome} (sound : s.Sound)
    (owed : site.Owes s id outcome) : outcome.Honest := by
  cases site with
  | notify =>
    rcases owed with ⟨bare, row, found, same, isOver⟩ | approved | ⟨bare, failed⟩
    · exact ⟨isOver, fun certified => (certified bare).elim⟩
    · exact ⟨by rw [approved]; rfl, fun _ => approved⟩
    · exact ⟨by rw [failed]; rfl, fun certified => (certified bare).elim⟩
  | accept =>
    obtain ⟨⟨told, member, -, status, certificate⟩, -⟩ := owed
    have honest := sound.told told member
    unfold WaitOutcome.Honest at honest ⊢
    rwa [← status, ← certificate]

/-- A property of channels after one of them was replaced. -/
private theorem of_updated {channels : Tid → Option Channel} {other : Tid} {channel new : Channel}
    {P : Channel → Prop} (replaced : P new) (kept : ∀ old, channels other = some old → P old)
    (found : Function.update channels tid (some new) other = some channel) : P channel := by
  by_cases same : other = tid
  · subst same
    rw [Function.update_self] at found
    exact some.inj found ▸ replaced
  · rw [Function.update_of_ne same] at found
    exact kept channel found

/-- **An action that meets what it owes keeps the invariant.** -/
theorem Effect.sound {answer : action.Resp} (sound : s.Sound) (owed : Owes tid action s)
    (effect : Effect tid s action answer s') : s'.Sound := by
  have evolved := effect.evolves_of_owes owed
  have jobs {job : SigningJob} (member : job ∈ s.jobs) : job.Accounted s' :=
    (sound.jobs job member).mono evolved
  cases effect with
  | read | cacheGet | quiet => exact sound
  | write done => exact sound.write owed done
  | @cachePut site id outcome =>
    refine { sound with jobs := fun job => jobs, cached := ?_, told := ?_, delivered := ?_ }
    · intro process id' outcome' found
      simp only [Shared.cachePut] at found
      split_ifs at found with same
      · cases found
        obtain ⟨rfl, rfl⟩ := same
        exact mem_cons_self
      · exact mem_cons_of_mem _ (sound.cached process id' outcome' found)
    · intro told member
      rcases mem_cons.mp member with rfl | old
      · exact PutSite.Owes.honest sound owed
      · exact sound.told told old
    · intro other channel found message arrived
      obtain ⟨told, member, same⟩ := sound.delivered other channel found message arrived
      exact ⟨told, mem_cons_of_mem _ member, same⟩
  | evict =>
    refine { sound with jobs := fun job => jobs, cached := fun process id outcome found => ?_ }
    simp only [Shared.evict] at found
    split_ifs at found
    · exact sound.cached process id outcome (eq_some_of_filter_eq_some found)
    · exact sound.cached process id outcome found
  | @subscribe topic free =>
    exact { sound with
      jobs := fun job => jobs
      queued := fun other channel => of_updated (List.Subset.refl _) (sound.queued other)
      delivered := fun other channel => of_updated (fun _ arrived => by cases arrived)
        (sound.delivered other) }
  | @publishWake topic payload =>
    have pushed {other : Tid} {channel : Channel}
        (found : (s.publishWake topic payload).channels other = some channel) :
        ∃ old, s.channels other = some old ∧
          channel = if old.topic = topic then old.push payload else old := by
      obtain ⟨old, found', same⟩ := map_eq_some_iff.mp found
      exact ⟨old, found', same.symm⟩
    refine { sound with jobs := fun job => jobs, queued := ?_, delivered := ?_ }
    · intro other channel found
      obtain ⟨old, there, rfl⟩ := pushed found
      have queued := sound.queued other old there
      split_ifs
      · intro message member
        rcases mem_append.mp member with waiting | new
        · exact mem_cons_of_mem _ (queued waiting)
        · exact mem_singleton.mp new ▸ mem_cons_self
      · exact queued
    · intro other channel found message arrived
      obtain ⟨old, there, rfl⟩ := pushed found
      have delivered := sound.delivered other old there message
      split_ifs at arrived ⊢ with same
      · rcases mem_cons.mp arrived with new | earlier
        · subst new
          obtain ⟨outcome, sent, told⟩ := owed
          exact ⟨_, told, same.symm, sent⟩
        · exact delivered earlier
      · exact delivered arrived
  | publishJob =>
    refine { sound with jobs := fun job member => ?_ }
    rcases mem_cons.mp member with rfl | old
    · exact SigningJob.Accounted.mono evolved owed
    · exact jobs old
  | @receive armed topic payload queue delivered there =>
    have rest : queue ⊆ delivered := fun message waiting =>
      sound.queued tid _ there (mem_cons_of_mem _ waiting)
    exact { sound with
      jobs := fun job => jobs
      queued := fun other channel => of_updated rest (sound.queued other)
      delivered := fun other channel => of_updated (sound.delivered tid _ there)
        (sound.delivered other) }

end Keeping

/-! ## From discipline to obligations -/

section Obligations

variable {tid : Tid} {s : Shared} {past : History} {id : RequestID}

/-- What a call has been answered is known of the state. -/
def Knows (tid : Tid) (s : Shared) (past : History) : Prop :=
  ∀ event ∈ past, Learned tid s event.1 event.2

theorem Saw.row {row : CertificateRequest} (seen : Saw past id row) (known : Knows tid s past) :
    ∃ row', s.row id = some row' ∧ row.Evolves row' := by
  obtain ⟨site, member⟩ := seen
  exact known _ member

theorem Bound.row {userID : UserID} (bound : Bound past id userID) (known : Knows tid s past) :
    ∃ row, s.row id = some row ∧ row.userID = some userID := by
  rcases bound with ⟨row, seen, owner⟩ | member
  · obtain ⟨row', found, evolved⟩ := seen.row known
    exact ⟨row', found, evolved.owner _ owner⟩
  · exact known _ member

theorem Decides.rightful {decision : Decision} (decides : Decides past id decision)
    (known : Knows tid s past) : decision.Rightful s id := by
  obtain ⟨about, user, resolved, bound⟩ := decides
  obtain ⟨row, found, owner⟩ := bound.row known
  obtain ⟨user', found', same⟩ := known _ resolved
  exact ⟨about, row, found, user.id, user', owner, found', same⟩

theorem Confirmed.ended {status : Status} (confirmed : Confirmed past id status)
    (known : Knows tid s past) : s.Ended id status := by
  cases confirmed with
  | read seen isOver =>
    obtain ⟨row', found, evolved⟩ := seen.row known
    exact ⟨row', found, evolved.status.eq_of_terminal isOver, isOver⟩
  | expire done | deny done => exact known _ done
  | enroll same done => exact same ▸ known _ done
  | sweep done member same => exact same ▸ known _ done _ member

theorem Relayed.repeats {outcome : WaitOutcome} (relayed : Relayed past id outcome)
    (known : Knows tid s past) : s.Repeats id outcome := by
  obtain ⟨listening, message, ⟨armed, heard⟩, status, certificate⟩ := relayed
  obtain ⟨channel, found, topic⟩ := known _ listening
  obtain ⟨channel', found', told, member, topic', same⟩ := known _ heard
  cases found.symm.trans found'
  subst same
  exact ⟨told, member, topic'.trans topic, status.symm, certificate.symm⟩

/-- What an enrollment row stores is what its grant fixed, and a job that redeems the
row carries that. -/
theorem SigningJob.Redeems.carries {enrollment enrollment' : Enrollment} {grant : ServiceGrant}
    (redeems : job.Redeems enrollment) (kept : enrollment.SameGrant enrollment')
    (granted : grant.enrollment.SameGrant enrollment')
    (fits : Duration.Fits grant.effectiveDuration) :
    job.Carries grant ∧ enrollment'.code = grant.token := by
  have principals : enrollment.principals = marshalStrings grant.principals :=
    (congrArg Enrollment.principals kept).symm.trans (congrArg Enrollment.principals granted)
  have options : enrollment.optionSet = grant.options.marshal :=
    (congrArg Enrollment.optionSet kept).symm.trans (congrArg Enrollment.optionSet granted)
  have seconds : enrollment.certificateDurationSeconds =
      some (Duration.quot grant.effectiveDuration Duration.second) :=
    (congrArg Enrollment.certificateDurationSeconds kept).symm.trans
      (congrArg Enrollment.certificateDurationSeconds granted)
  have stored := redeems.principals
  have decoded := redeems.options
  have ends := redeems.validBefore
  rw [principals, unmarshalStrings_marshalStrings, some.injEq] at stored
  rw [options, RequestedOptions.unmarshal_marshal, some.injEq] at decoded
  simp only [retrievalEnd, seconds, Duration.wrap_quot_second fits, Time.add] at ends
  refine ⟨⟨?_, ?_, stored.symm, decoded.symm, by omega⟩, congrArg Enrollment.code granted⟩
  · exact redeems.publicKey.trans
      ((congrArg Enrollment.publicKey kept).symm.trans (congrArg Enrollment.publicKey granted))
  · exact redeems.keyID.trans
      ((congrArg Enrollment.keyID kept).symm.trans (congrArg Enrollment.keyID granted))

theorem Ordered.accounted (sound : s.Sound) (ordered : Ordered past job)
    (known : Knows tid s past) : job.Accounted s := by
  cases ordered with
  | approval type approved about done =>
    obtain ⟨recorded, row, found, left, serial⟩ := known _ done
    exact .approval type found left serial (about ▸ recorded) approved
  | retrieval seen done id of serial redeems =>
    obtain ⟨enrollment', found, kept⟩ := known _ seen
    obtain ⟨row, found', same⟩ := known _ done
    obtain ⟨grant, member, granted⟩ := sound.enrollments _ _ found
    obtain ⟨carries, code⟩ := redeems.carries kept granted (sound.grants grant member)
    refine .retrieval redeems.type (id ▸ found') ?_ ?_ member code carries
    · rw [same]
      exact serial
    · rw [same]
      exact of ▸ found

/-- **A call that keeps the discipline meets what its actions owe.** -/
theorem owes_of_may {terms : Terms} (sound : s.Sound) (known : Knows tid s past)
    (may : May terms past action) : Owes tid action s := by
  cases action with
  | write statement =>
    cases statement with
    | insertRequest => exact may
    | approveForSigning => exact ⟨may.1, may.2.rightful known⟩
    | approveServiceEnrollment =>
      exact ⟨may.2.1, may.2.2.1, may.2.2.2.rightful known⟩
    | deny => exact ⟨may.1, may.2.rightful known⟩
    | markResolved =>
      obtain ⟨lawful, outcome, same, cached⟩ := may
      exact ⟨lawful, outcome, same, known _ cached⟩
    | _ => trivial
  | cachePut site =>
    cases site with
    | notify => exact may.imp (fun h => ⟨h.1, h.2.ended known⟩) And.right
    | accept => exact ⟨may.1.repeats known, may.2.ended known⟩
  | publishWake topic payload =>
    cases payload with
    | none => trivial
    | some =>
      obtain ⟨outcome, sent, cached⟩ := may
      exact ⟨outcome, sent, known _ cached⟩
  | publishJob => exact may.2.accounted sound known
  | _ => trivial

end Obligations

/-! ## The contract -/

/-- The contract of the server's life: no schedule is excluded. -/
def lifecycle (server : Server) : Contract (system server) where
  ok _ _ _ _ _ := True
  Inv := Shared.Sound
  Rel := Shared.Evolves
  Stay _ _ _ _ := True
  Pre := Owes
  refl := Shared.Evolves.refl
  trans := Shared.Evolves.trans
  stay_refl _ _ _ := trivial
  stay_trans _ _ := trivial
  sound inv _ owed done :=
    have effect := effect_of_exec done
    ⟨effect.sound inv owed, effect.evolves_of_owes owed, fun _ _ => trivial⟩

/-! ## The calls -/

/-- The request a `Wait` is for, in any of its loops. -/
def Call.waitsFor : Call → Option RequestID
  | .wait id => some id
  | .waitLoop id => some id
  | .awaitStatus id _ _ _ => some id
  | _ => none

/-- What a loop is entered with. -/
def Call.Evidence (past : History) : Call → Prop
  | .waitLoop id => Subscribed past id
  | .awaitStatus id message current _ => Subscribed past id ∧ message.status.terminal = true ∧
    Heard past message ∧ Saw past id current
  | _ => True

theorem Call.evidence_nil (call : Call) (external : call.external = true) : call.Evidence [] := by
  cases call <;> trivial

/-- What a call has seen when it returns. -/
def Call.Answers (server : Server) (call : Call) (past : History) : Result → Prop
  | .waited (.ok outcome) => ∃ id, call.waitsFor = some id ∧
    (⟨.cacheGet id, some outcome⟩ ∈ past ∨ ⟨.cachePut .accept id outcome, ()⟩ ∈ past)
  | .claimed outcome => ∃ id presentedToken userAgent,
    call = .claimPage id presentedToken userAgent ∧
      ClaimGrounds server.ext id presentedToken past outcome
  | _ => True

/-- What a call tells without having it from the row: a handler, its reply. -/
def Call.replies : Call → RequestID → Status → Prop
  | .handle reply => fun id status => id = reply.requestID ∧ status = reply.status
  | _ => fun _ _ => False

/-- Whether a call goes on as another. -/
def Call.Serves (current origin : Call) : Prop :=
  current = origin ∨ current.external = false ∧ current.waitsFor = origin.waitsFor

/-- How the body of a call ends. -/
def Call.Ends (server : Server) (call : Call) (past : History) (outcome : Call ⊕ Result) : Prop :=
  outcome.elim
    (fun next => next.external = false ∧ next.waitsFor = call.waitsFor ∧ next.Evidence past)
    (fun result => call.Answers server past result)

section Bodies

open Prog

variable {server : Server} {call : Call} {past : History} {terms : Terms}

/-- A call that ends in what its program returns. -/
private theorem ending_follows {α : Type} {program : Service α}
    {result : Except ServiceError α → Result} {Q : History → α → Prop}
    (yields : Yields Plausible (May terms) Q program past)
    (answers : ∀ now outcome, (∀ value, outcome = .ok value → Q now value) →
      call.Answers server now (result outcome)) :
    (ending program result).Follows Plausible (May terms) (call.Ends server) past :=
  Follows.bind yields fun now outcome _ known => .ret (answers now outcome known)

/-- A pass of the loops of `Wait`. -/
private theorem waiting_follows {program : Service Next}
    (yields : Yields Plausible (May terms) (fun now next => next.Grounds id now) program past)
    (waits : call.waitsFor = some id) :
    (waiting id program).Follows Plausible (May terms) (call.Ends server) past := by
  refine Follows.bind yields fun now outcome _ known => ?_
  cases outcome with
  | error => exact .ret trivial
  | ok next =>
    have grounds := known next rfl
    cases next with
    | again | confirm => exact .ret ⟨rfl, waits.symm, grounds⟩
    | done => exact .ret ⟨id, waits, grounds⟩

/-- **Every call keeps the discipline.** -/
theorem body_follows (evidence : call.Evidence past) :
    (body server call).Follows Plausible (May (.any call.replies)) (call.Ends server) past := by
  cases call with
  | createRequest => exact ending_follows createRequest_yields fun _ _ _ => trivial
  | claimPage id presentedToken userAgent =>
    refine Follows.bind claimPage_follows fun now outcome _ grounds => .ret ?_
    exact ⟨id, presentedToken, userAgent, rfl, grounds⟩
  | detail => exact ending_follows detail_yields fun _ _ _ => trivial
  | resolveUserCode =>
    exact ending_follows resolveUserCode_yields fun _ _ _ => trivial
  | approve =>
    exact ending_follows (approve_yields.loosen fun _ _ may => may.1.any) fun _ _ _ => trivial
  | deny => exact ending_follows deny_yields fun _ _ _ => trivial
  | wait => exact waiting_follows wait_yields rfl
  | waitLoop => exact waiting_follows (waitLoop_yields evidence) rfl
  | awaitStatus =>
    obtain ⟨listening, isOver, heard, seen⟩ := evidence
    exact waiting_follows (awaitStatus_yields listening isOver heard seen) rfl
  | handle => exact ending_follows (handle_yields ⟨rfl, rfl⟩) fun _ _ _ => trivial
  | sweepStrandedRequests =>
    exact ending_follows sweepStrandedRequests_yields fun _ _ _ => trivial
  | evictResolved => exact ending_follows evictResolved_yields fun _ _ _ => trivial
  | retrieve =>
    refine Follows.bind retrieve_yields fun now outcome _ _ => ?_
    cases outcome with
    | error => exact .ret trivial
    | ok => exact .ret ⟨rfl, rfl, trivial⟩
  | awaitSigned =>
    refine Follows.bind awaitSignedCertificate_yields fun now outcome _ _ => ?_
    cases outcome with
    | error => exact .ret trivial
    | ok certificate =>
      cases certificate with
      | none => exact .ret ⟨rfl, rfl, trivial⟩
      | some => exact .ret trivial
  | setNotificationEmail =>
    exact ending_follows setNotificationEmail_yields fun _ _ _ => trivial
  | expireForIdentity =>
    exact ending_follows expireForIdentity_yields fun _ _ _ => trivial
  | upsertUser => exact ending_follows upsertUser_yields fun _ _ _ => trivial
  | stray => exact ending_follows stray_yields fun _ _ _ => trivial

/-- What a call answers, it answers for the call it serves. -/
theorem Call.Answers.serves {origin current : Call} {result : Result}
    (serves : current.Serves origin) (answers : current.Answers server past result) :
    origin.Answers server past result := by
  rcases serves with rfl | ⟨loop, waits⟩
  · exact answers
  · unfold Answers at answers ⊢
    split at answers
    · exact waits ▸ answers
    · obtain ⟨id, presentedToken, userAgent, rfl, -⟩ := answers
      cases loop
    · trivial

end Bodies

/-- What the answers to the calls of a server stand for under a contract: facts that
stay, and that are enough for what the discipline lets a call do. -/
structure Facts {server : Server} (C : Contract (system server)) where
  Fact : Tid → Event Act.Resp → Shared → Prop
  stable : ∀ {tid event s s'}, C.Rel s s' → Fact tid event s → Fact tid event s'
  learn : ∀ {tid heads s action choice s' answer}, C.Inv s → C.Pre tid action s →
    C.ok heads s tid action choice → exec tid s action choice = some (s', answer) →
    Plausible action answer ∧ Fact tid ⟨action, answer⟩ s'
  owed : ∀ {tid terms past action s}, C.Inv s → (∀ event ∈ past, Fact tid event s) →
    May terms past action → C.Pre tid action s

/-- **The calls of the server under a contract.**  A call knows what its answers stand
for, in all of its loops and when it returns. -/
def Facts.calls {server : Server} {C : Contract (system server)} (F : Facts C) : C.Calls where
  Made _ call := call.external = true
  Ready tid origin current s := current.Serves origin ∧
    ∃ past, (∀ event ∈ past, F.Fact tid event s) ∧ current.Evidence past
  Post tid origin result s :=
    ∃ past, (∀ event ∈ past, F.Fact tid event s) ∧ origin.Answers server past result
  start := by
    intro tid call s external _
    exact ⟨.inl rfl, [], fun _ member => (List.not_mem_nil member).elim, call.evidence_nil external⟩
  body := by
    rintro tid origin current s ⟨serves, past, known, evidence⟩ -
    refine Contract.Obeys.of_follows (F.Fact tid) F.stable F.learn F.owed ?_
      (body_follows evidence) known
    intro now outcome s' _ known' ends
    cases outcome with
    | inl =>
      obtain ⟨loop, waits, evidence'⟩ := ends
      refine ⟨.inr ⟨loop, waits.trans ?_⟩, now, known', evidence'⟩
      rcases serves with rfl | ⟨-, same⟩
      · rfl
      · exact same
    | inr => exact ⟨now, known', Call.Answers.serves serves ends⟩

/-- The facts of the contract of the server's life. -/
def lifecycleFacts (server : Server) : Facts (lifecycle server) where
  Fact tid event s := Learned tid s event.1 event.2
  stable evolved fact := fact.mono evolved
  learn inv _ _ done := (effect_of_exec done).learn inv
  owed inv known may := owes_of_may inv known may

/-- **The calls of the server under the contract of its life.** -/
def lifecycleCalls (server : Server) : (lifecycle server).Calls := (lifecycleFacts server).calls

/-- A server with a new database, on which nothing has been called. -/
def start : SystemConfig := ⟨{ db := .empty }, fun _ => none⟩

/-- The steps of the server: any call the outside makes, and any step of a call. -/
abbrev Steps (server : Server) : SystemConfig → SystemLabel → Prop :=
  (lifecycleCalls server).Allowed

/-- **Everything the server can reach keeps the invariant.** -/
theorem lifecycle_reaches {server : Server} {cfg : SystemConfig}
    (run : Reaches (system server) (Steps server) start cfg) :
    (lifecycleCalls server).Holds start.shared cfg :=
  (lifecycleCalls server).reaches run
    ((lifecycleCalls server).holds_idle Shared.sound_empty fun _ => rfl)

/-- One step moves every row along an edge of its life, or not at all. -/
theorem step_related {server : Server} {base : Shared} {cfg next : SystemConfig}
    {label : SystemLabel} (held : (lifecycleCalls server).Holds base cfg)
    (stepped : (system server).step cfg label = some next) :
    cfg.shared.db.Related Status.Moves next.shared.db := by
  have same : cfg.shared.db.Related Status.Moves cfg.shared.db := .refl Status.Moves.refl _
  rcases (system server).step_cases stepped with
    ⟨tid, call, -, -, rfl⟩ | ⟨tid, choice, thread, call, -, -, -, rfl⟩ |
    ⟨tid, choice, thread, action, rest, shared, answer, -, present, atAction, done, rfl⟩
  · exact same
  · exact same
  · have owed := held.threads tid thread present
    rw [atAction] at owed
    have pre : Owes tid action cfg.shared :=
      (owed cfg.shared (.refl _) trivial held.inv).1
    have effect := effect_of_exec done
    cases effect with
    | write ran =>
      rw [Shared.db_note]
      exact Statement.steps pre.lawful ran
    | _ => exact same

/-! ## A run to evaluate -/

namespace Sample

/-- The schedule of one call that nothing interrupts. -/
def uninterrupted (tid : Tid) (call : Call) (choices : List Choice) : List SystemLabel :=
  .spawn tid call :: choices.map (.run tid)

/-- A user logs in, asks for a certificate and approves it. -/
def signing : List SystemLabel :=
  uninterrupted ⟨0, 0⟩ (.upsertUser approver) [.text "user", .done] ++
  uninterrupted ⟨0, 1⟩ (.createRequest { type := .user, publicKey := "key" })
    [.text "request", .time 0, .done] ++
  uninterrupted ⟨0, 2⟩ (.approve "request" approver {} {})
    [.done, .time 1, .done, .done, .bytes (List.replicate 8 1), .time 1, .text "decision", .done,
      .done]

/-- The server after a schedule. -/
def after (labels : List SystemLabel) : Option SystemConfig :=
  (system server).runLabels start labels

/-- Whether a step is one the server can be made to take. -/
def external : SystemLabel → Bool
  | .spawn _ call => call.external
  | .run _ _ => true

theorem reaches_from {labels : List SystemLabel} {cfg next : SystemConfig}
    (runs : (system server).runLabels cfg labels = some next)
    (made : labels.all external = true) :
    Reaches (system server) (Steps server) cfg next := by
  refine Reaches.of_runLabels labels (fun label member cfg => ?_) runs
  cases label with
  | spawn => exact all_eq_true.mp made _ member
  | run => exact fun _ _ => trivial

theorem reaches_after {labels : List SystemLabel} {cfg : SystemConfig}
    (runs : after labels = some cfg) (made : labels.all external = true) :
    Reaches (system server) (Steps server) start cfg :=
  reaches_from runs made

end Sample

/-! ## Decide once -/

/-- **A certificate request is decided once.**  In every state the server reaches the
tables agree about each request and every job is accounted for; and from there every
step moves a row along an edge of its life or leaves it, never gives it to another
user, and never touches a final status. -/
theorem decided_once {server : Server} {cfg : SystemConfig}
    (run : Reaches (system server) (Steps server) start cfg) :
    (∀ decision ∈ cfg.shared.db.decisions.rows, ∀ decision' ∈ cfg.shared.db.decisions.rows,
      decision.certificateRequestID = decision'.certificateRequestID → decision = decision') ∧
    (∀ id, (∃ decision ∈ cfg.shared.db.decisions.rows, decision.certificateRequestID = id) ↔
      ∃ row, cfg.shared.row id = some row ∧ row.status ≠ .pending ∧ row.status ≠ .expired) ∧
    (∀ decision ∈ cfg.shared.db.decisions.rows, ∃ row userID user,
      cfg.shared.row decision.certificateRequestID = some row ∧ row.userID = some userID ∧
        cfg.shared.db.users.find? userID = some user ∧ user.subject = decision.subject) ∧
    (∀ id, (∃ enrollment ∈ cfg.shared.db.enrollments.rows,
        enrollment.certificateRequestID = some id) ↔
      ∃ row, cfg.shared.row id = some row ∧ row.status = .enrolled) ∧
    (∀ job ∈ cfg.shared.jobs,
      (job.type ≠ .service → ∃ row decision, cfg.shared.row job.requestID = some row ∧
        row.serialNumber = some job.serial ∧
        cfg.shared.db.decisions.find? job.requestID = some decision ∧
        decision.outcome = .approved) ∧
      (job.type = .service → ∃ retrieval enrollment,
        cfg.shared.db.retrievals.find? job.requestID = some retrieval ∧
        retrieval.certificateSerial = job.serial ∧
        cfg.shared.db.enrollments.find? retrieval.enrollmentID = some enrollment)) ∧
    ∀ label next, (system server).step cfg label = some next →
      ∀ id row, cfg.shared.row id = some row → ∃ row', next.shared.row id = some row' ∧
        (row'.status = row.status ∨ row.status.moves row'.status = true) ∧
        (row.status.terminal = true → row'.status = row.status) ∧
        ∀ userID, row.userID = some userID → row'.userID = some userID := by
  have held := lifecycle_reaches run
  have sound : cfg.shared.Sound := held.inv
  have recorded {decision : Decision} (member : decision ∈ cfg.shared.db.decisions.rows) :=
    Table.find?_of_mem member
  refine ⟨?_, fun id => ?_, ?_, fun id => ?_, ?_, ?_⟩
  · intro decision member decision' member' same
    have first := recorded member
    rw [same, recorded member'] at first
    exact (some.inj first).symm
  · refine Iff.trans ?_ (sound.consistent.decided id)
    constructor
    · rintro ⟨decision, member, rfl⟩
      exact ⟨decision, recorded member⟩
    · rintro ⟨decision, found⟩
      exact ⟨decision, Table.mem_of_find? found, Table.find?_key found⟩
  · intro decision member
    obtain ⟨row, found, -⟩ := (sound.consistent.decided _).mp ⟨decision, recorded member⟩
    obtain ⟨⟨userID, user, owner, there, same⟩, -⟩ :=
      sound.consistent.decider _ row decision found (recorded member)
    exact ⟨row, userID, user, found, owner, there, same⟩
  · refine Iff.trans ?_ (sound.consistent.enrolled id)
    constructor
    · rintro ⟨enrollment, member, about⟩
      exact ⟨_, enrollment, Table.find?_of_mem member, about⟩
    · rintro ⟨key, enrollment, found, about⟩
      exact ⟨enrollment, Table.mem_of_find? found, about⟩
  · intro job member
    cases sound.jobs job member with
    | approval type found left serial decided approved =>
      exact ⟨fun _ => ⟨_, _, found, serial, decided, approved⟩, fun service => (type service).elim⟩
    | retrieval type found serial redeemed =>
      exact ⟨fun other => (other type).elim, fun _ => ⟨_, _, found, serial, redeemed⟩⟩
  · intro label next stepped id row found
    obtain ⟨row', found', moved⟩ := (step_related held stepped).requests id row found
    refine ⟨row', found', moved.status, fun isOver => ?_, moved.owner⟩
    exact (Status.LeadsTo.of_moves moved.status).eq_of_terminal isOver

/-- After an approval there is one job, and it is accounted for. -/
theorem decided_once_signing : ∃ cfg, Sample.after Sample.signing = some cfg ∧
    cfg.shared.jobs.length = 1 ∧ ∀ job ∈ cfg.shared.jobs, job.type ≠ .service →
      ∃ row decision, cfg.shared.row job.requestID = some row ∧
        row.serialNumber = some job.serial ∧
        cfg.shared.db.decisions.find? job.requestID = some decision ∧
        decision.outcome = .approved := by
  have ran : (Sample.after Sample.signing).map (·.shared.jobs.length) = some 1 := by decide +kernel
  obtain ⟨cfg, runs, one⟩ := map_eq_some_iff.mp ran
  have settled := decided_once (Sample.reaches_after runs (by decide))
  exact ⟨cfg, runs, one, fun job member => (settled.2.2.2.2.1 job member).1⟩

end Ssoossh
