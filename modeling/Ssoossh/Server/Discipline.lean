import Ssoossh.Server.System

/-!
# What a call may do

The discipline every call of the server keeps, in terms of what the call itself has
seen.  A decision is only ever written by a call that has read the decider's user
row and holds the request bound to it; an outcome is only cached once the row is
known to have it, or by the reply that is about to give it to the row; nothing is
published that was not stored first.

Nothing here is about the shared state: `May` speaks about a call's own history, and
each program is walked through once.  What the answers stand for, and what follows
for whole runs, is `Ssoossh.Server.Lifecycle`.
-/

namespace Ssoossh

open Interleaving

/-! ## Histories of calls -/

/-- What a call has done and been answered, newest first. -/
abbrev History := List (Event Act.Resp)

/-- The answers that a database and a source of randomness can give at all. -/
def Plausible : (action : Act) → action.Resp → Prop
  | .read (.request _ id), .ok (some row) => row.id = id
  | .read (.user subject), .ok (some user) => user.subject = subject
  | .read (.enrollmentByCode code), .ok (some enrollment) => enrollment.code = code
  | .random n, .ok bytes => bytes.length = n
  | _, _ => True

/-- The call has read this row of a request. -/
def Saw (past : History) (id : RequestID) (row : CertificateRequest) : Prop :=
  ∃ site, ⟨.read (.request site id), .ok (some row)⟩ ∈ past

/-- The call knows that a request belongs to a user. -/
def Bound (past : History) (id : RequestID) (userID : UserID) : Prop :=
  (∃ row, Saw past id row ∧ row.userID = some userID) ∨
    ⟨.write (.bindRequester id userID), .ok true⟩ ∈ past

/-- The call may write this decision: it has read the row of the user it is in the
name of, and the request belongs to that user. -/
def Decides (past : History) (id : RequestID) (decision : Decision) : Prop :=
  decision.certificateRequestID = id ∧ ∃ user : User,
    ⟨.read (.user decision.subject), .ok (some user)⟩ ∈ past ∧ Bound past id user.id

/-- The call knows that a request has ended with a status: it has read the row so, or
it has itself ended it. -/
inductive Confirmed (past : History) (id : RequestID) : Status → Prop
  | read {row : CertificateRequest} (seen : Saw past id row) (isOver : row.status.terminal = true) :
      Confirmed past id row.status
  | expire {now : Int} (done : ⟨.write (.expire id now), .ok true⟩ ∈ past) :
      Confirmed past id .expired
  | deny {cutoff now : Int} {decision : Decision}
      (done : ⟨.write (.deny id cutoff now decision), .ok .committed⟩ ∈ past) :
      Confirmed past id .denied
  | enroll {grant : ServiceGrant} {decision : Decision} (same : grant.requestID = id)
      (done : ⟨.write (.approveServiceEnrollment grant decision), .ok .committed⟩ ∈ past) :
      Confirmed past id .enrolled
  | sweep {ids : List RequestID} {failureReason : String} {now : Int}
      {rows : List CertificateRequest} {row : CertificateRequest}
      (done : ⟨.write (.failStranded ids failureReason now), .ok rows⟩ ∈ past)
      (member : row ∈ rows) (same : row.id = id) : Confirmed past id .failed

/-- The call listens on a request's topic. -/
def Subscribed (past : History) (id : RequestID) : Prop := ⟨.subscribe id, .ok ()⟩ ∈ past

/-- The call has received a message. -/
def Heard (past : History) (message : OutcomeMessage) : Prop :=
  ∃ armed, ⟨.receive armed, .message (some message)⟩ ∈ past

/-- The outcome is that of a message the call has received. -/
def Relayed (past : History) (id : RequestID) (outcome : WaitOutcome) : Prop :=
  Subscribed past id ∧ ∃ message, Heard past message ∧
    outcome.status = message.status ∧ outcome.certificate = message.certificate

/-- A job redeems an enrollment: it carries what the row stores. -/
structure SigningJob.Redeems (job : SigningJob) (enrollment : Enrollment) : Prop where
  type : job.type = .service
  publicKey : job.publicKey = enrollment.publicKey
  keyID : job.keyID = enrollment.keyID
  principals : unmarshalStrings enrollment.principals = some job.principals
  options : RequestedOptions.unmarshal enrollment.optionSet = some job.requestedOptions
  validBefore : job.validBefore = retrievalEnd enrollment job.validAfter
  live : job.validAfter < enrollment.expiresAt

/-- The call may have this signed: it has committed an approval with that serial, or
recorded the retrieval of an enrollment it has read. -/
inductive Ordered (past : History) (job : SigningJob) : Prop
  | approval {optionsJSON : String} {decision : Decision} (type : job.type ≠ .service)
      (approved : decision.outcome = .approved)
      (about : decision.certificateRequestID = job.requestID)
      (done : ⟨.write (.approveForSigning job.requestID job.serial optionsJSON decision),
        .ok .committed⟩ ∈ past)
  | retrieval {code : String} {enrollment : Enrollment} {retrieval : EnrollmentRetrieval}
      (seen : ⟨.read (.enrollmentByCode code), .ok (some enrollment)⟩ ∈ past)
      (done : ⟨.write (.insertRetrieval retrieval), .ok ()⟩ ∈ past)
      (id : retrieval.id = job.requestID) (of : retrieval.enrollmentID = enrollment.id)
      (serial : retrieval.certificateSerial = job.serial)
      (redeems : job.Redeems enrollment)

/-- The call may cache this outcome, where it may tell these on its own account. -/
def Caches (told : RequestID → Status → Prop) (past : History) (id : RequestID)
    (outcome : WaitOutcome) : PutSite → Prop
  | .notify => outcome.certificate = "" ∧ Confirmed past id outcome.status ∨
    told id outcome.status ∧
      (outcome.status = .approved ∨ outcome.certificate = "" ∧ outcome.status = .failed)
  | .accept => Relayed past id outcome ∧ Confirmed past id outcome.status

/-- What a call is known to put into the jobs and the service grants it makes, and what it
tells without having it from the row. -/
structure Terms where
  job : History → SigningJob → Prop
  grant : History → ServiceGrant → Prop
  told : RequestID → Status → Prop

/-- **The discipline**: what a call may do next, after what it has seen. -/
def May (terms : Terms) (past : History) : Act → Prop
  | .write (.insertRequest row) =>
    row.status = .pending ∧ row.userID = none ∧ row.claimTokenHash = none
  | .write (.approveForSigning id _ _ decision) =>
    decision.outcome = .approved ∧ Decides past id decision
  | .write (.approveServiceEnrollment grant decision) =>
    terms.grant past grant ∧ GoTime.Duration.Fits grant.effectiveDuration ∧
      decision.outcome = .approved ∧ Decides past grant.requestID decision
  | .write (.deny id _ _ decision) => decision.outcome = .denied ∧ Decides past id decision
  | .write (.markResolved id status _ _) => (status = .approved ∨ status = .failed) ∧
    ∃ outcome, outcome.status = status ∧ ⟨.cachePut .notify id outcome, ()⟩ ∈ past
  | .cachePut site id outcome => Caches terms.told past id outcome site
  | .publishWake topic (some message) =>
    ∃ outcome, outcome.toMessage = message ∧ ⟨.cachePut .notify topic outcome, ()⟩ ∈ past
  | .publishJob job => terms.job past job ∧ Ordered past job
  | _ => True

/-- The terms that say nothing about jobs and grants. -/
def Terms.any (told : RequestID → Status → Prop) : Terms := ⟨fun _ _ => True, fun _ _ => True, told⟩

/-- What is done under some terms may be done with any jobs and grants. -/
theorem May.any {terms : Terms} {past : History} {action : Act} (h : May terms past action) :
    May (.any terms.told) past action := by
  unfold May at h ⊢
  split at h
  all_goals first
    | exact h
    | exact ⟨trivial, h.2⟩

/-! ### What was known stays known -/

variable {row : CertificateRequest} {message : OutcomeMessage}

section Mono

variable {past now : History} {id : RequestID}

variable (grown : past ⊆ now)
include grown

theorem Saw.mono : Saw past id row → Saw now id row :=
  fun ⟨site, seen⟩ => ⟨site, grown seen⟩

theorem Bound.mono {userID : UserID} : Bound past id userID → Bound now id userID
  | .inl ⟨row, seen, owner⟩ => .inl ⟨row, seen.mono grown, owner⟩
  | .inr done => .inr (grown done)

theorem Confirmed.mono {status : Status} : Confirmed past id status → Confirmed now id status
  | .read seen isOver => .read (seen.mono grown) isOver
  | .expire done => .expire (grown done)
  | .deny done => .deny (grown done)
  | .enroll same done => .enroll same (grown done)
  | .sweep done member same => .sweep (grown done) member same

theorem Heard.mono : Heard past message → Heard now message :=
  fun ⟨armed, heard⟩ => ⟨armed, grown heard⟩

end Mono

/-! ## The building blocks of programs -/

section Blocks

open Prog

variable {α : Type} {Can : (action : Act) → action.Resp → Prop} {Allowed : History → Act → Prop}
variable {Q : History → α → Prop} {past : History}

theorem yields_perform {action : Act} (may : Allowed past action) :
    Yields Can Allowed (fun now answer => ⟨action, answer⟩ ∈ now ∧ Can action answer)
      (perform action) past :=
  Prog.yields_perform may

/-- One step, and what is left to do. -/
theorem yields_step {action : Act} {next : action.Resp → Service α} (may : Allowed past action)
    (cont : ∀ now answer, past ⊆ now → ⟨action, answer⟩ ∈ now ∧ Can action answer →
      Yields Can Allowed Q (next answer) now) :
    Yields Can Allowed Q (perform action >>= next) past :=
  (yields_perform may).bind cont

theorem yields_ensure {p : Prop} [Decidable p] {error : ServiceError} :
    Yields Can Allowed (fun _ _ => p) (ensure p error) past := by
  unfold ensure
  split_ifs with holds
  · exact yields_pure holds
  · exact yields_throw

theorem yields_lift {outcome : Except ServiceError α} :
    Yields Can Allowed (fun _ value => outcome = .ok value) (lift outcome) past :=
  yields_mk fun _ returned => returned

variable {failure : String}

theorem yields_read {query : Query} (may : Allowed past (.read query)) :
    Yields Can Allowed (fun now row => ⟨.read query, .ok row⟩ ∈ now ∧ Can (.read query) (.ok row))
      (read query failure) past := by
  refine yields_step may fun now answer _ known => ?_
  cases answer with
  | ok => exact yields_pure known
  | error => exact yields_throw

theorem yields_write {statement : Statement} (may : Allowed past (.write statement)) :
    Yields Can Allowed (fun now result => ⟨.write statement, .ok result⟩ ∈ now)
      (write statement failure) past := by
  refine yields_step may fun now answer _ known => ?_
  cases answer with
  | ok => exact yields_pure known.1
  | error => exact yields_throw

theorem yields_transaction {statement : Statement} {failures : List String}
    (may : Allowed past (.write statement)) :
    Yields Can Allowed (fun now result => ⟨.write statement, .ok result⟩ ∈ now)
      (transaction statement failures) past := by
  refine yields_step may fun now answer _ known => ?_
  cases answer with
  | ok => exact yields_pure known.1
  | error =>
    dsimp only
    split <;> exact yields_throw

/-- A run that starts with a read ends there, or it goes on with the row it was answered with. -/
theorem runs_read {now : History} {query : Query} {next : query.Row → Service α}
    {outcome : Except ServiceError α}
    (run : Runs Can (read query failure >>= next).run past now outcome) :
    (∃ e, now = ⟨.read query, .error e⟩ :: past) ∨
      ∃ row, Runs Can (next row).run (⟨.read query, .ok row⟩ :: past) now outcome := by
  obtain _ | ⟨-, rest⟩ := run
  rename_i answer
  cases answer with
  | ok row => exact .inr ⟨row, rest⟩
  | error e =>
    cases rest
    exact .inl ⟨e, rfl⟩

end Blocks

/-- The call keeps to the discipline, whatever comes of it. -/
abbrev Disciplined {α : Type} (terms : Terms) (program : Service α) (past : History) : Prop :=
  Prog.Yields Plausible (May terms) (fun _ _ => True) program past

/-! ## Parts of calls -/

variable {ext : Externals} {identity : Identity} {outcome : WaitOutcome}

section Parts

open Prog

variable {server : Server} {terms : Terms} {past : History} {id : RequestID}

theorem ttlCutoffFor_yields {certType : CertificateType} :
    Disciplined terms (server.ttlCutoffFor certType) past := by
  unfold Server.ttlCutoffFor
  split_ifs
  · exact yields_pure trivial
  · refine yields_step trivial fun now time _ _ => ?_
    exact yields_pure trivial

theorem lookupRequest_yields {site : ReadSite} :
    Yields Plausible (May terms) (fun now row => Saw now id row ∧ row.id = id)
      (lookupRequest ext site id) past := by
  refine (yields_read trivial).bind fun now row _ known => ?_
  cases row with
  | none => exact yields_throw
  | some => exact yields_pure ⟨⟨site, known.1⟩, known.2⟩

theorem resolveUser_yields : Yields Plausible (May terms)
      (fun now user => ⟨.read (.user identity.subject), .ok (some user)⟩ ∈ now)
      (resolveUser identity) past := by
  refine (yields_read trivial).bind fun now user _ known => ?_
  cases user with
  | none => exact yields_throw
  | some => exact yields_pure known.1

/-- The caller of `bindRequester` goes on with the row it had, now in the name of its
user. -/
theorem bindRequester_yields {user : User} : Yields Plausible (May terms)
      (fun now bound => bound = { row with userID := some user.id } ∧
        (Saw past row.id row → Bound now row.id user.id))
      (bindRequester row user) past := by
  unfold bindRequester
  cases owned : row.userID with
  | some =>
    refine yields_ensure.bind fun now _ grown same => yields_pure ?_
    subst same
    exact ⟨by rw [← owned], fun seen => .inl ⟨row, seen.mono grown, owned⟩⟩
  | none =>
    refine (yields_write trivial).bind fun now won _ done => ?_
    cases won with
    | true => exact yields_pure ⟨rfl, fun _ => .inr done⟩
    | false =>
      refine (yields_read trivial).bind fun now claimed _ known => ?_
      cases claimed with
      | none => exact yields_throw
      | some claimed =>
        refine yields_ensure.bind fun later _ grown same => yields_pure ?_
        exact ⟨rfl, fun _ => .inl ⟨claimed, ⟨_, grown known.1⟩, same⟩⟩

theorem notifyWaiter_yields
    (may : ∀ now stamped, past ⊆ now → stamped = { outcome with resolvedAt := stamped.resolvedAt } →
      Caches terms.told now id stamped .notify) :
    Yields Plausible (May terms)
      (fun now _ => ∃ stamped : WaitOutcome, stamped.status = outcome.status ∧
        ⟨.cachePut .notify id stamped, ()⟩ ∈ now)
      (notifyWaiter id outcome) past := by
  refine yields_step trivial fun now resolvedAt grown _ => ?_
  refine yields_step (may now _ grown rfl) fun now' _ grown' cached => ?_
  refine yields_step ⟨_, rfl, cached.1⟩ fun now'' _ grown'' _ => ?_
  exact yields_pure ⟨{ outcome with resolvedAt := resolvedAt }, rfl, grown'' cached.1⟩

/-- Telling a waiter what the row is known to say. -/
theorem notifyConfirmed_yields (bare : outcome.certificate = "")
    (known : Confirmed past id outcome.status) :
    Disciplined terms (notifyWaiter id outcome) past := by
  refine (notifyWaiter_yields fun now stamped grown same => .inl ?_).mono fun _ _ _ _ => trivial
  rw [same]
  exact ⟨bare, known.mono grown⟩

theorem expire_yields : Disciplined terms (expire id) past := by
  refine yields_step trivial fun now time _ _ => ?_
  refine yields_step trivial fun now answer _ done => ?_
  split
  · exact notifyConfirmed_yields rfl (.expire done.1)
  · exact yields_pure trivial

theorem orExplain_yields {settled : Settled} :
    Yields Plausible (May terms) (fun _ _ => settled = .committed)
      (orExplain server id settled) past := by
  cases settled with
  | committed => exact yields_pure rfl
  | refused row =>
    cases row with
    | none => exact yields_throw
    | some => exact ttlCutoffFor_yields.bind fun _ _ _ _ => yields_throw

theorem newSerial_yields :
    Yields Plausible (May terms) (fun _ serial => serial < serialMask) newSerial past := by
  refine yields_step trivial fun now answer _ _ => ?_
  cases answer with
  | ok => exact yields_pure (Nat.mod_lt _ (by decide))
  | error => exact yields_throw

end Parts

/-! ## Calls -/

section Creating

open Prog

variable {server : Server} {terms : Terms} {past : History}

/-- A row as `CreateRequest` makes it: nobody has touched it yet. -/
def CertificateRequest.Untouched (row : CertificateRequest) : Prop :=
  row.status = .pending ∧ row.userID = none ∧ row.claimTokenHash = none

theorem persistWithUserCode_yields (new : row.Untouched) {lastError : String} {attempts : Nat} :
    Disciplined terms (persistWithUserCode row lastError attempts)
      past := by
  induction attempts generalizing past lastError with
  | zero => exact yields_throw
  | succ attempts ih =>
    have code : Disciplined terms newUserCode past := by
      refine yields_step trivial fun now answer _ _ => ?_
      cases answer with
      | ok => exact yields_pure trivial
      | error => exact yields_throw
    refine code.bind fun now code _ _ => ?_
    have may : May terms now (.write (.insertRequest { row with userCode := code })) := new
    refine yields_step may fun now answer _ _ => ?_
    cases answer with
    | ok => exact yields_pure trivial
    | error =>
      dsimp only
      split_ifs
      · exact ih
      · exact yields_throw

theorem persistNewRequest_yields {policy : CertTypePolicy} (new : row.Untouched) :
    Disciplined terms (persistNewRequest policy row) past := by
  unfold persistNewRequest
  split_ifs
  · exact persistWithUserCode_yields new
  · have may : May terms past (.write (.insertRequest row)) := new
    exact (yields_write may).bind fun _ _ _ _ => yields_pure trivial

theorem createRequest_yields {p : NewCertRequestParams} :
    Disciplined terms (createRequest server p) past := by
  refine yields_lift.bind fun now policy _ _ => ?_
  refine yields_ensure.bind fun now _ _ _ => ?_
  refine yields_step trivial fun now id _ _ => ?_
  refine yields_step trivial fun now createdAt _ _ => ?_
  refine (persistNewRequest_yields ⟨rfl, rfl, rfl⟩).bind fun now row _ _ => ?_
  exact yields_pure trivial

end Creating

section Claiming

open Prog

variable {ext : Externals} {terms : Terms} {past : History} {id : RequestID}
variable {presentedToken : String} {userAgent : Bytes}

/-- What a caller of `ClaimApprovalPage` has seen when it gets its answer. -/
def ClaimPageResult.Grounds (ext : Externals) (id : RequestID) (presentedToken : String)
    (past : History) : ClaimPageResult → Prop
  | .claimed token => token ≠ "" ∧ ∃ now userAgent,
    ⟨.write (.claimPage id (hashClaimToken ext token) now userAgent), .ok true⟩ ∈ past
  | .matched => presentedToken ≠ "" ∧ ∃ row, Saw past id row ∧
    row.claimTokenHash = some (hashClaimToken ext presentedToken)
  | .unknownRequest => ∃ site, ⟨.read (.request site id), .ok none⟩ ∈ past
  | _ => ∃ row stored, Saw past id row ∧ row.claimTokenHash = some stored ∧
    ¬ (presentedToken ≠ "" ∧ hashClaimToken ext presentedToken = stored)

/-- What a caller of `ClaimApprovalPage` has seen when it is over: an error means that
the row could not be read, or that it was not claimed when it was. -/
def ClaimGrounds (ext : Externals) (id : RequestID) (presentedToken : String) (past : History) :
    Except ServiceError ClaimPageResult → Prop
  | .ok result => result.Grounds ext id presentedToken past
  | .error e => (∃ message, e = .internal
    ("failed to look up certificate request for claiming: " ++ message)) ∨
    ∃ row, Saw past id row ∧ row.claimTokenHash = none

theorem judgeClaim_follows {stored : String} (seen : Saw past id row)
    (held : row.claimTokenHash = some stored) :
    (judgeClaim ext row stored presentedToken userAgent).run.Follows Plausible (May terms)
      (ClaimGrounds ext id presentedToken) past := by
  unfold judgeClaim
  split_ifs with same blocked
  · exact .ret ⟨same.1, row, seen, by rw [held, same.2]⟩
  · split
    · exact .ret ⟨row, stored, seen, held, same⟩
    · refine .act trivial fun time _ => ?_
      have seen' := seen.mono (List.subset_cons_self ⟨.now, time⟩ past)
      show Follows _ _ _ (ExceptT.run (if _ then pure _ else pure _)) _
      split_ifs
      · exact .ret ⟨row, stored, seen', held, same⟩
      · exact .ret ⟨row, stored, seen', held, same⟩
  · exact .ret ⟨row, stored, seen, held, same⟩

theorem newClaimToken_yields :
    Yields Plausible (May terms) (fun _ token => token ≠ "") newClaimToken past := by
  refine yields_step trivial fun now answer _ known => ?_
  cases answer with
  | error => exact yields_throw
  | ok bytes =>
    refine yields_pure ?_
    have length : bytes.length = 32 := known.2
    have : GoText.rawURLEncode bytes ≠ [] :=
      GoText.rawURLEncode_ne_nil (by rintro rfl; cases length)
    simpa using this

/-- The first fetch claims the page, and every other is judged by the claim it finds. -/
theorem claimPage_follows :
    (claimPage ext id presentedToken userAgent).run.Follows Plausible (May terms)
      (ClaimGrounds ext id presentedToken) past := by
  have lookup {failure : String} : (read (.request .elsewhere id) failure).run.Follows Plausible
      (May terms) (fun now outcome => match outcome with
        | .ok row => ⟨.read (.request .elsewhere id), .ok row⟩ ∈ now ∧
          Plausible (.read (.request .elsewhere id)) (.ok row)
        | .error e => ∃ message, e = .internal (failure ++ ": " ++ message)) past := by
    refine .act trivial fun answer can => ?_
    cases answer with
    | ok => exact .ret ⟨List.mem_cons_self, can⟩
    | error e => exact .ret ⟨e.message, rfl⟩
  refine Follows.bindExcept lookup ?_ fun now row _ known => ?_
  · exact fun now error _ failed => .inl failed
  cases row with
  | none => exact .ret ⟨_, known.1⟩
  | some row =>
    obtain ⟨seen, rfl⟩ : Saw now id row ∧ row.id = id := ⟨⟨_, known.1⟩, known.2⟩
    dsimp only [claimApprovalPage]
    cases held : row.claimTokenHash with
    | some => exact judgeClaim_follows seen held
    | none =>
      have unclaimed {later : History} (grown : now ⊆ later) {e : ServiceError} :
          ClaimGrounds ext row.id presentedToken later (.error e) :=
        .inr ⟨row, seen.mono grown, held⟩
      refine newClaimToken_yields.bindExcept (fun _ _ grown => unclaimed grown)
        fun now₁ token grown₁ nonempty => ?_
      refine (yields_perform trivial).bindExcept
        (fun _ _ grown => unclaimed (List.Subset.trans grown₁ grown)) fun now₂ time grown₂ _ => ?_
      have grown₂ := List.Subset.trans grown₁ grown₂
      refine (yields_write trivial).bindExcept
        (fun _ _ grown => unclaimed (List.Subset.trans grown₂ grown)) fun now₃ won grown₃ done => ?_
      have grown₃ := List.Subset.trans grown₂ grown₃
      cases won with
      | true => exact .ret ⟨nonempty, _, _, done⟩
      | false =>
        refine (yields_read trivial).bindExcept
          (fun _ _ grown => unclaimed (List.Subset.trans grown₃ grown))
          fun now₄ reread grown₄ known => ?_
        have grown₄ := List.Subset.trans grown₃ grown₄
        cases reread with
        | none => exact .ret (unclaimed grown₄)
        | some reread =>
          dsimp only
          cases held' : reread.claimTokenHash with
          | none => exact .ret (unclaimed grown₄)
          | some => exact judgeClaim_follows ⟨_, known.1⟩ held'

end Claiming

section Deciding

open Prog

variable {server : Server} {terms : Terms} {past : History} {id : RequestID}

theorem detail_yields : Disciplined terms (detail server id identity) past := by
  refine lookupRequest_yields.bind fun now found _ _ => ?_
  refine resolveUser_yields.bind fun now user _ _ => ?_
  refine bindRequester_yields.bind fun now row _ _ => ?_
  refine yields_lift.bind fun now requested _ _ => ?_
  refine yields_lift.bind fun now policy _ _ => ?_
  refine (yields_read trivial).bind fun now decision _ _ => ?_
  refine yields_lift.bind fun now _ _ _ => ?_
  exact yields_pure trivial

theorem resolveUserCode_yields {submitted : String} :
    Disciplined terms (resolveUserCode server submitted identity)
      past := by
  refine yields_lift.bind fun now code _ _ => ?_
  refine (yields_read trivial).bind fun now row _ _ => ?_
  cases row with
  | none => exact yields_throw
  | some row =>
    have rest {past : History} : Disciplined terms
        (do let user ← resolveUser identity; let bound ← bindRequester row user; pure bound.id)
        past := by
      refine resolveUser_yields.bind fun now user _ _ => ?_
      refine bindRequester_yields.bind fun now bound _ _ => ?_
      exact yields_pure trivial
    dsimp only
    split_ifs
    · refine ttlCutoffFor_yields.bind fun now cutoff _ _ => ?_
      split_ifs
      · exact expire_yields.bind fun _ _ _ _ => yields_throw
      · exact rest
    · exact rest

theorem deny_yields {dc : DecisionContext} :
    Disciplined terms (deny server id identity dc) past := by
  refine yields_step trivial fun now time _ _ => ?_
  refine lookupRequest_yields.bind fun now found _ ⟨seen, same⟩ => ?_
  subst same
  refine yields_step trivial fun now decisionID grown₁ _ => ?_
  refine resolveUser_yields.bind fun now user grown₂ resolved => ?_
  refine bindRequester_yields.bind fun now row grown₃ ⟨_, bound⟩ => ?_
  refine ttlCutoffFor_yields.bind fun now cutoff grown₄ _ => ?_
  have bound' := (bound ((seen.mono grown₁).mono grown₂)).mono grown₄
  have may : May terms now (.write (.deny found.id cutoff time
      (newDecision decisionID found .denied identity dc time none))) :=
    ⟨rfl, rfl, user, grown₄ (grown₃ resolved), bound'⟩
  refine (yields_transaction may).bind fun now settled _ done => ?_
  refine orExplain_yields.bind fun now _ grown committed => ?_
  subst committed
  exact notifyConfirmed_yields rfl (.deny (grown done))

end Deciding

section Waiting

open Prog

variable {server : Server} {terms : Terms} {past : History} {id : RequestID}

/-- What a pass of `Wait` has seen when it ends: enough to start the next one, or
where its outcome comes from. -/
def Next.Grounds (id : RequestID) (past : History) : Next → Prop
  | .again => Subscribed past id
  | .confirm message current _ => Subscribed past id ∧ message.status.terminal = true ∧
    Heard past message ∧ Saw past id current
  | .done outcome => ⟨.cacheGet id, some outcome⟩ ∈ past ∨
    ⟨.cachePut .accept id outcome, ()⟩ ∈ past

theorem wait_yields :
    Yields Plausible (May terms) (fun now next => next.Grounds id now) (wait id) past := by
  refine yields_step trivial fun now cached _ known => ?_
  cases cached with
  | some => exact yields_pure (.inl known.1)
  | none =>
    refine yields_step trivial fun now answer _ known => ?_
    cases answer with
    | ok => exact yields_pure known.1
    | error => exact yields_throw

theorem acceptWake_yields (listening : Subscribed past id)
    (isOver : message.status.terminal = true) (heard : Heard past message)
    (seen : Saw past id row) :
    Yields Plausible (May terms) (fun now next => next.Grounds id now)
      (acceptWake id message row) past := by
  unfold acceptWake
  split_ifs with same
  · refine yields_step trivial fun now resolvedAt grown _ => ?_
    have confirmed : Confirmed now id message.status :=
      same ▸ .read (seen.mono grown) (same ▸ isOver)
    have relayed : ∀ outcome : WaitOutcome, outcome.status = message.status →
        outcome.certificate = message.certificate → Relayed now id outcome :=
      fun outcome status certificate =>
        ⟨grown listening, message, heard.mono grown, status, certificate⟩
    refine yields_step ⟨relayed _ rfl rfl, confirmed⟩ fun now _ _ cached => ?_
    exact yields_pure (.inr cached.1)
  · exact yields_pure listening

theorem tryHandleWakeMessage_yields {payload : Option OutcomeMessage}
    (listening : Subscribed past id) (heard : ∀ message ∈ payload, Heard past message) :
    Yields Plausible (May terms) (fun now next => next.Grounds id now)
      (tryHandleWakeMessage id payload) past := by
  unfold tryHandleWakeMessage
  cases payload with
  | none => exact yields_pure listening
  | some message =>
    dsimp only
    split_ifs with isOver
    · refine yields_step trivial fun now answer grown known => ?_
      split
      · rename_i row
        have seen : Saw now id row := ⟨_, known.1⟩
        split_ifs with racing
        · refine yields_step trivial fun later started grown' _ => yields_pure ?_
          exact ⟨grown' (grown listening), isOver, ((heard message rfl).mono grown).mono grown',
            seen.mono grown'⟩
        · exact acceptWake_yields (grown listening) isOver ((heard message rfl).mono grown) seen
      · exact yields_pure (grown listening)
    · exact yields_pure listening

theorem awaitStatus_yields {current : CertificateRequest} {deadline : Int}
    (listening : Subscribed past id) (isOver : message.status.terminal = true)
    (heard : Heard past message) (seen : Saw past id current) :
    Yields Plausible (May terms) (fun now next => next.Grounds id now)
      (awaitStatus id message current deadline) past := by
  have settle {now : History} (grown : past ⊆ now) :
      Yields Plausible (May terms) (fun now next => next.Grounds id now)
        (acceptWake id message current) now :=
    acceptWake_yields (grown listening) isOver (heard.mono grown) (seen.mono grown)
  refine yields_step trivial fun now inTime grown₁ _ => ?_
  cases inTime with
  | false => exact settle grown₁
  | true =>
    refine yields_step trivial fun now elapsed grown₂ _ => ?_
    cases elapsed with
    | false => exact settle (List.Subset.trans grown₁ grown₂)
    | true =>
      refine yields_step trivial fun now answer grown₃ known => ?_
      have grown := List.Subset.trans (List.Subset.trans grown₁ grown₂) grown₃
      split
      · rename_i row
        have seen' : Saw now id row := ⟨_, known.1⟩
        split_ifs
        · exact acceptWake_yields (grown listening) isOver (heard.mono grown) seen'
        · exact yields_pure ⟨grown listening, isOver, heard.mono grown, seen'⟩
      · exact settle grown

theorem reconcileStatus_yields (seen : Saw past id row) :
    Disciplined terms (reconcileStatus server id row) past := by
  have told {now : History} {outcome : WaitOutcome} (bare : outcome.certificate = "")
      (same : row.status = outcome.status) (isOver : row.status.terminal = true) (grown : past ⊆ now) :
      Disciplined terms
        (do notifyWaiter id outcome; pure false) now := by
    have confirmed : Confirmed now id outcome.status := same ▸ .read (seen.mono grown) isOver
    exact (notifyConfirmed_yields bare confirmed).bind fun _ _ _ _ => yields_pure trivial
  unfold reconcileStatus
  split
  · refine ttlCutoffFor_yields.bind fun now cutoff _ _ => ?_
    split_ifs
    · exact expire_yields.bind fun _ _ _ _ => yields_pure trivial
    · exact yields_pure trivial
  · exact yields_pure trivial
  · exact yields_throw
  · rename_i enrolled
    have expiry : Disciplined terms
        (enrollmentExpiry row.enrollmentToken) past := by
      unfold enrollmentExpiry
      split_ifs
      · exact yields_pure trivial
      · refine yields_step trivial fun now answer _ _ => ?_
        split <;> exact yields_pure trivial
    refine expiry.bind fun now expiresAt grown _ => ?_
    exact told rfl enrolled (by rw [enrolled]; rfl) grown
  · rename_i notPending notSigning notApproved notEnrolled
    exact told rfl rfl (by cases status : row.status <;> simp_all [Status.terminal])
      (List.Subset.refl _)

theorem waitLoop_yields (listening : Subscribed past id) :
    Yields Plausible (May terms) (fun now next => next.Grounds id now) (waitLoop server id)
      past := by
  refine yields_step trivial fun now cached grown₁ known => ?_
  cases cached with
  | some => exact yields_pure (.inl known.1)
  | none =>
    refine lookupRequest_yields.bind fun now row grown₂ ⟨seen, _⟩ => ?_
    refine (reconcileStatus_yields seen).bind fun now block grown₃ _ => ?_
    have listening' := grown₃ (grown₂ (grown₁ listening))
    cases block with
    | false => exact yields_pure listening'
    | true =>
      have timer : Disciplined terms
          (expiryTimer server row) now := by
        unfold expiryTimer
        split_ifs
        · exact yields_pure trivial
        · refine yields_step trivial fun now time _ _ => ?_
          exact yields_pure trivial
      refine timer.bind fun now armed grown₄ _ => ?_
      refine yields_step trivial fun now received grown₅ known => ?_
      have listening'' := grown₅ (grown₄ listening')
      cases received with
      | message =>
        refine tryHandleWakeMessage_yields listening'' ?_
        rintro message rfl
        exact ⟨armed, known.1⟩
      | closed | canceled => exact yields_throw
      | timer => exact yields_pure listening''

end Waiting

section Replying

open Prog

variable {server : Server} {terms : Terms} {past : History} {id : RequestID}

theorem recordCertificate_yields {reply : SignedReply} :
    Disciplined terms (recordCertificate reply) past := by
  have rest {past : History} {owner : Option UserID × Option RequestID} :
      Disciplined terms (recordFor reply owner) past := by
    refine yields_step trivial fun now certificateID _ _ => ?_
    refine (yields_write trivial).bind fun now _ _ _ => ?_
    exact yields_pure trivial
  unfold recordCertificate
  split_ifs
  · refine Yields.bind (Q := fun _ _ => True) ?_ fun _ _ _ _ => rest
    refine yields_step trivial fun now answer _ _ => ?_
    split
    · refine yields_step trivial fun now answer _ _ => ?_
      split <;> exact yields_pure trivial
    · exact yields_pure trivial
  · refine Yields.bind (Q := fun _ _ => True) ?_ fun _ _ _ _ => rest
    refine yields_step trivial fun now answer _ _ => ?_
    split <;> exact yields_pure trivial

/-- A reply is passed on before it is written down, and the row is given the status
that was passed on. -/
theorem deliver_yields {failureReason : String} {resolves : Bool}
    (own : terms.told id outcome.status)
    (fate : outcome.status = .approved ∨ outcome.certificate = "" ∧ outcome.status = .failed) :
    Disciplined terms
      (do notifyWaiter id outcome
          if resolves then markResolved id outcome.status failureReason else pure ()) past := by
  have told : Yields Plausible (May terms) _ (notifyWaiter id outcome) past :=
    notifyWaiter_yields fun now stamped _ same => .inr (by rw [same]; exact ⟨own, fate⟩)
  refine told.bind fun now _ _ ⟨stamped, same, cached⟩ => ?_
  split_ifs
  · refine yields_step trivial fun now time grown _ => ?_
    have may : May terms now (.write (.markResolved id outcome.status failureReason time)) :=
      ⟨fate.imp_right And.right, stamped, same, grown cached⟩
    exact (yields_write may).bind fun _ _ _ _ => yields_pure trivial
  · exact yields_pure trivial

/-- The status a reply gives its request. -/
def SignedReply.status (reply : SignedReply) : Status :=
  if reply.failed then .failed else .approved

theorem handle_yields {reply : SignedReply} (own : terms.told reply.requestID reply.status) :
    Disciplined terms (handle reply) past := by
  unfold handle
  unfold SignedReply.status at own
  split_ifs at own ⊢
  · exact deliver_yields own (.inr ⟨rfl, rfl⟩)
  · exact recordCertificate_yields.bind fun _ _ _ _ => deliver_yields own (.inl rfl)

theorem notifyFailed_yields {rows : List CertificateRequest}
    (failed : ∀ row ∈ rows, Confirmed past row.id .failed) :
    Disciplined terms (notifyFailed rows) past := by
  induction rows generalizing past with
  | nil => exact yields_pure trivial
  | cons row rows ih =>
    refine (notifyConfirmed_yields rfl (failed row List.mem_cons_self)).bind
      fun now _ grown _ => ?_
    exact ih fun row member => (failed row (List.mem_cons_of_mem _ member)).mono grown

theorem sweepStrandedRequests_yields : Disciplined terms (sweepStrandedRequests server) past := by
  have cutoff : Disciplined terms (strandedCutoff server) past := by
    unfold strandedCutoff
    split_ifs
    · exact yields_pure trivial
    · refine yields_step trivial fun now time _ _ => ?_
      exact yields_pure trivial
  refine cutoff.bind fun now cutoff _ _ => ?_
  refine (yields_read trivial).bind fun now stranded _ _ => ?_
  split_ifs
  · exact yields_pure trivial
  · refine yields_step trivial fun now time _ _ => ?_
    refine yields_step trivial fun now answer _ done => ?_
    cases answer with
    | ok => exact notifyFailed_yields fun row member => .sweep done.1 member rfl
    | error => exact yields_pure trivial

theorem evictResolved_yields : Disciplined terms (evictResolved server) past := by
  refine yields_step trivial fun now time _ _ => ?_
  refine yields_step trivial fun now _ _ _ => ?_
  exact yields_pure trivial

theorem stray_yields : Disciplined terms (stray id) past := by
  refine yields_step trivial fun now _ _ _ => ?_
  exact yields_pure trivial

end Replying

section Redeeming

open Prog

variable {server : Server} {told : RequestID → Status → Prop} {past : History}

/-- What the stored principals decode to. -/
theorem storedPrincipals_eq_ok {enrollment : Enrollment} {principals : List String}
    (h : storedPrincipals ext enrollment = .ok principals) :
    unmarshalStrings enrollment.principals = some principals ∧ principals ≠ [] := by
  unfold storedPrincipals at h
  split at h
  · cases h
  · rename_i stored nonempty found
    cases h
    exact ⟨found, nonempty⟩
  · cases h

/-- What the stored options decode to. -/
theorem storedOptions_eq_ok {enrollment : Enrollment} {options : RequestedOptions}
    (h : storedOptions ext enrollment = .ok options) :
    RequestedOptions.unmarshal enrollment.optionSet = some options := by
  unfold storedOptions at h
  split at h
  · rename_i found
    cases h
    exact found
  · cases h

/-- `Retrieve` orders nothing but what the enrollment it has read stores, and only
while that enrollment is live. -/
theorem retrieve_yields {code sourceIP : String} :
    Disciplined (.any told) (retrieve server code sourceIP) past := by
  refine (yields_read trivial).bind fun now enrollment _ seen => ?_
  cases enrollment with
  | none => exact yields_throw
  | some enrollment =>
    refine yields_step trivial fun now (time : Int) grown₁ _ => ?_
    split_ifs with alive
    · refine yields_lift.bind fun now principals grown₂ stored => ?_
      refine yields_lift.bind fun now options grown₃ stored' => ?_
      refine newSerial_yields.bind fun now serial grown₄ _ => ?_
      refine yields_step trivial fun now retrievalID grown₅ _ => ?_
      refine (yields_write trivial).bind fun now _ grown₆ done => ?_
      refine yields_step trivial fun now answer grown₇ _ => ?_
      cases answer with
      | error => exact yields_throw
      | ok =>
        have seen' := grown₇ (grown₆ (grown₅ (grown₄ (grown₃ (grown₂ (grown₁ seen.1))))))
        have live : time < enrollment.expiresAt := by
          simpa [GoTime.Time.after] using alive
        have ordered : Ordered now
            { requestID := retrievalID
              type := .service
              publicKey := enrollment.publicKey
              principals := principals
              keyID := enrollment.keyID
              requestedOptions := options
              validAfter := time
              validBefore := retrievalEnd enrollment time
              serial := serial } :=
          .retrieval seen' (grown₇ done) rfl rfl rfl
            ⟨rfl, rfl, rfl, (storedPrincipals_eq_ok stored).1, storedOptions_eq_ok stored',
              rfl, live⟩
        refine yields_step ⟨trivial, ordered⟩ fun now answer _ _ => ?_
        cases answer with
        | ok => exact yields_pure trivial
        | error => exact yields_throw
    · have attempt : Disciplined (.any told)
          (notifyExpiredAttempt server enrollment time) now := by
        unfold notifyExpiredAttempt
        split_ifs
        · exact yields_pure trivial
        · refine yields_step trivial fun now _ _ _ => ?_
          exact yields_pure trivial
      exact attempt.bind fun _ _ _ _ => yields_throw

theorem awaitSignedCertificate_yields {pending : PendingRetrieval} :
    Disciplined (.any told) (awaitSignedCertificate server pending)
      past := by
  refine yields_step trivial fun now received _ _ => ?_
  split
  · exact yields_throw
  · exact yields_throw
  · exact yields_throw
  · exact yields_pure trivial
  · split
    · refine yields_step trivial fun now answer _ _ => ?_
      split
      · refine yields_step trivial fun now _ _ _ => ?_
        refine yields_step trivial fun now _ _ _ => ?_
        exact yields_pure trivial
      · exact yields_pure trivial
    · exact yields_throw
    · exact yields_pure trivial

variable {id : EnrollmentID}

theorem ownedEnrollment_yields : Yields Plausible (May (.any told))
      (fun _ enrollment => ownsEnrollment server identity enrollment = true ∨
        server.grantsSOC identity.groups = true)
      (ownedEnrollment server id identity) past := by
  refine (yields_read trivial).bind fun now enrollment _ _ => ?_
  cases enrollment with
  | none => exact yields_throw
  | some => exact yields_ensure.bind fun _ _ _ owned => yields_pure owned

theorem setNotificationEmail_yields {address : String} : Disciplined (.any told)
      (setNotificationEmail server id identity address) past := by
  refine yields_lift.bind fun now trimmed _ _ => ?_
  refine ownedEnrollment_yields.bind fun now _ _ _ => ?_
  refine (yields_write trivial).bind fun now _ _ _ => ?_
  exact yields_pure trivial

theorem expireForIdentity_yields {reason : String} : Disciplined (.any told)
      (expireForIdentity server id identity reason) past := by
  refine yields_lift.bind fun now _ _ _ => ?_
  refine ownedEnrollment_yields.bind fun now enrollment _ _ => ?_
  refine yields_step trivial fun now time _ _ => ?_
  split_ifs
  · refine (yields_transaction trivial).bind fun now (found : Bool) _ _ => ?_
    exact yields_ensure.mono fun _ _ _ _ => trivial
  · exact yields_pure trivial

theorem upsertUser_yields : Disciplined (.any told) (upsertUser identity) past := by
  refine yields_step trivial fun now userID _ _ => ?_
  refine (yields_transaction trivial).bind fun now _ _ _ => ?_
  exact yields_pure trivial

end Redeeming

end Ssoossh
