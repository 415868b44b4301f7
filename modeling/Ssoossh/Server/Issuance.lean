import Ssoossh.Server.Discipline

/-!
# What an approval fixes

`Approve` is walked through once, with everything it has established by the time it
commits: the row and the approver it has read, the policy of the type, and the
narrowing that the options went through.  From that the two guarantees of an
approval follow.  The configuration is the outer bound of what is issued, and the
principals are the approver's own.

An approval fixes a signing job, or for the service type an enrollment; `Fixed` is
what either of them says in the end, the enrollment as it is read back from its
columns.
-/

namespace Ssoossh

open Interleaving GoTime

/-! ## What an approval rests on -/

/-- What `Approve` has read and decoded. -/
structure Approval where
  row : CertificateRequest
  user : User
  policy : CertTypePolicy
  requested : RequestedOptions

namespace Approval

variable (server : Server) (session : Identity) (selection : ApprovalSelection)
variable (approval : Approval)

/-- The approver: the session, with the claims of the user row. -/
def identity : Identity :=
  { session with extra := decodeExtraFields server.ext approval.user.extraFields }

/-- What the lifetime policy says. -/
def outcome (enrollmentCeiling : Int) : PolicyOutcome :=
  server.compiled.engine.evaluate approval.row.type (approval.identity server session)
    approval.row.sourceIP approval.policy.validDuration enrollmentCeiling

/-- The options that come out of all narrowing. -/
def options (enrollmentCeiling : Int) : RequestedOptions :=
  ((approval.outcome server session enrollmentCeiling).narrowOptions
    (narrowRequestedOptions approval.policy (withSelection approval.requested selection))
    approval.row.sourceIP).1

/-- The explanation of an approval in the enrollment flow. -/
def explanation : PolicyExplanation :=
  let granted := (approval.outcome server session
    approval.policy.enrollmentDuration).narrowOptions
    (narrowRequestedOptions approval.policy (withSelection approval.requested selection))
    approval.row.sourceIP
  recordApproverExtensions granted.2.explanation selection.extensions granted.1.extensions
    (narrowRequestedOptions approval.policy approval.requested).extensions

/-- That it was read and decoded, and that the approver passed the checks. -/
structure Holds (id : RequestID) (past : History) : Prop where
  seen : Saw past id approval.row
  id : approval.row.id = id
  user : ⟨.read (.user session.subject), .ok (some approval.user)⟩ ∈ past
  decoded : decodeRequested server.ext approval.row = .ok approval.requested
  policy : server.policyFor approval.row.type = .ok approval.policy
  authorized : checkApproverAuthorization approval.row.type approval.policy
    (approval.identity server session) selection = .ok ()

/-- The job an approval in the signing flow publishes. -/
structure Signs (job : SigningJob) : Prop where
  flow : approval.policy.flow = .signing
  requestID : job.requestID = approval.row.id
  type : job.type = approval.row.type
  publicKey : job.publicKey = approval.row.publicKey
  principals : job.principals =
    approval.policy.principals (approval.identity server session) selection.principals
  nonempty : job.principals ≠ []
  valid : validatePrincipals server.ext job.principals = .ok ()
  options : job.requestedOptions = approval.options server session selection 0
  validBefore : job.validBefore = Time.add job.validAfter (approval.outcome server session 0).duration

/-- The grant an approval in the enrollment flow commits. -/
structure Enrolls (grant : ServiceGrant) : Prop where
  flow : approval.policy.flow = .enrollment
  requestID : grant.requestID = approval.row.id
  publicKey : grant.publicKey = approval.row.publicKey
  serviceAccount : grant.serviceAccount = selection.serviceAccount
  valid : validatePrincipals server.ext grant.principals = .ok ()
  options : grant.options =
    approval.options server session selection approval.policy.enrollmentDuration
  duration : grant.effectiveDuration =
    (approval.outcome server session approval.policy.enrollmentDuration).duration

variable {server session selection approval}

variable {past : History} {id : RequestID}

theorem Holds.mono {now : History} (grown : past ⊆ now)
    (h : approval.Holds server session selection id past) :
    approval.Holds server session selection id now :=
  { h with seen := h.seen.mono grown, user := grown h.user }

section

variable (h : approval.Holds server session selection id past)
include h

/-- The bounds of the policy are those of the configuration. -/
theorem Holds.bounds : approval.policy.Bounds server.ext server.certOptions approval.row.type := by
  have known := h.policy
  unfold Server.policyFor at known
  cases found : server.compiled.policies.get? approval.row.type with
  | none => simp [found] at known
  | some =>
    simp only [found, Except.ok.injEq] at known
    exact known ▸ bounds_of_compile server.accepted found

/-- The signing flow is that of every type but the service type. -/
theorem Holds.type_ne_service (flow : approval.policy.flow = .signing) :
    approval.row.type ≠ .service := by
  intro service
  have := h.bounds.flow
  rw [flow, if_pos service] at this
  cases this

/-- The enrollment flow is that of the service type. -/
theorem Holds.type_eq_service
    (flow : approval.policy.flow = .enrollment) : approval.row.type = .service := by
  by_contra other
  have := h.bounds.flow
  rw [flow, if_neg other] at this
  cases this

/-- A granted duration is one Go can represent. -/
theorem Holds.fits (enrollmentCeiling : Int) :
    Duration.Fits (approval.outcome server session enrollmentCeiling).duration := by
  have ceiling := server.representable approval.row.type
  rw [← h.bounds.validDuration] at ceiling
  have low : min 0 approval.policy.validDuration ≤
      (approval.outcome server session enrollmentCeiling).duration :=
    LifetimePolicyEngine.min_zero_le_duration_evaluate fun parsed configured =>
      ⟨_, compilesTo_of_compile server.accepted configured⟩
  have high : (approval.outcome server session enrollmentCeiling).duration ≤
      approval.policy.validDuration := LifetimePolicyEngine.duration_evaluate_le_ceiling
  have negative : minInt64 ≤ 0 := by decide
  exact ⟨(le_min negative ceiling.1).trans low, high.trans ceiling.2⟩

end

/-- The terms of an approval. -/
def terms (server : Server) (id : RequestID) (session : Identity)
    (selection : ApprovalSelection) : Terms where
  job past job := ∃ approval : Approval, approval.Holds server session selection id past ∧
    approval.Signs server session selection job
  grant past grant := ∃ approval : Approval, approval.Holds server session selection id past ∧
    approval.Enrolls server session selection grant
  told _ _ := False

/-- The discipline of the record: an enrollment is committed with the explanation of an
approval. -/
def Records (server : Server) (session : Identity) (selection : ApprovalSelection)
    (id : RequestID) (past : History) : Act → Prop
  | .write (.approveServiceEnrollment _ decision) =>
    ∃ approval : Approval, approval.Holds server session selection id past ∧
      decision.policyExplanation = some (approval.explanation server session selection)
  | _ => True

/-- The discipline of `Approve`: it keeps to the terms, and to the record. -/
def Approves (server : Server) (session : Identity) (selection : ApprovalSelection)
    (id : RequestID) (past : History) (action : Act) : Prop :=
  May (terms server id session selection) past action ∧
    Records server session selection id past action

/-- The terms under which nothing is granted. -/
def nothing : Terms := ⟨fun _ _ => False, fun _ _ => False, fun _ _ => False⟩

/-- What grants nothing keeps to any discipline. -/
theorem approves_of_may {action : Act} (may : May nothing past action) :
    Approves server session selection id past action := by
  constructor
  · unfold May at may ⊢
    split at may
    all_goals first
      | exact may
      | exact absurd may.1 not_false
  · unfold Records
    split
    · exact absurd may.1 not_false
    · trivial

end Approval

/-! ## Walking through `Approve` -/

section Walk

open Prog Approval

variable {server : Server} {session : Identity} {selection : ApprovalSelection}
variable {dc : DecisionContext} {id : RequestID} {past : History} (approval : Approval)

/-- What a successful approval has committed and published. -/
def Committed (now : History) : Prop :=
  (∃ job, ⟨.publishJob job, .ok ()⟩ ∈ now) ∨
    ∃ grant decision, ⟨.write (.approveServiceEnrollment grant decision), .ok .committed⟩ ∈ now

variable {row : CertificateRequest} {identity : Identity} {narrowed : RequestedOptions}

section Approved

variable (holds : approval.Holds server session selection id past)
variable (bound : Bound past id approval.user.id)
include holds bound

/-- The decision of the user the row was bound to. -/
theorem decides_of_holds {now : History} (grown : past ⊆ now) {decision : Decision}
    (about : decision.certificateRequestID = approval.row.id)
    (subject : decision.subject = session.subject) : Decides now approval.row.id decision :=
  ⟨about, approval.user, subject ▸ grown holds.user, holds.id ▸ bound.mono grown⟩

variable (ofRow : row = { approval.row with userID := some approval.user.id })
variable (ofUser : identity = approval.identity server session)
variable (ofOptions : narrowed =
  narrowRequestedOptions approval.policy (withSelection approval.requested selection))
include ofRow ofUser ofOptions

theorem approveServiceEnrollment_yields {requestedByClient : List String}
    (flow : approval.policy.flow = .enrollment)
    (ofClient : requestedByClient =
      (narrowRequestedOptions approval.policy approval.requested).extensions) :
    Yields Plausible (Approves server session selection id) (fun now _ => Committed now)
      (approveServiceEnrollment server row narrowed requestedByClient identity approval.policy dc
        selection) past := by
  subst ofRow ofUser ofOptions ofClient
  refine yields_lift.bind fun now notificationEmail grown₁ _ => ?_
  refine yields_lift.bind fun now keyID grown₂ _ => ?_
  refine yields_lift.bind fun now _ grown₃ valid => ?_
  refine yields_step ⟨trivial, trivial⟩ fun now token grown₄ _ => ?_
  refine yields_step ⟨trivial, trivial⟩ fun now enrollmentID grown₅ _ => ?_
  refine yields_step ⟨trivial, trivial⟩ fun now time grown₆ _ => ?_
  refine yields_step ⟨trivial, trivial⟩ fun now decisionID grown₇ _ => ?_
  have grown : past ⊆ now := fun _ member =>
    grown₇ (grown₆ (grown₅ (grown₄ (grown₃ (grown₂ (grown₁ member))))))
  refine (yields_transaction ?may).bind fun now settled grown₈ done => ?_
  case may =>
    exact ⟨⟨⟨approval, holds.mono grown, flow, rfl, rfl, rfl, valid, rfl, rfl⟩, holds.fits _, rfl,
      decides_of_holds _ holds bound grown rfl rfl⟩, approval, holds.mono grown, rfl⟩
  refine (orExplain_yields.loosen fun _ _ => approves_of_may).bind fun now _ grown₉ committed => ?_
  subst committed
  refine ((notifyConfirmed_yields rfl (.enroll rfl (grown₉ done))).loosen
    fun _ _ => approves_of_may).mono fun _ _ grown₁₀ _ => ?_
  exact .inr ⟨_, _, grown₁₀ (grown₉ done)⟩

theorem approveForSigning_yields (flow : approval.policy.flow = .signing) :
    Yields Plausible (Approves server session selection id) (fun now _ => Committed now)
      (approveForSigning server row identity approval.policy narrowed dc selection.principals)
      past := by
  subst ofRow ofUser ofOptions
  refine yields_lift.bind fun now keyID grown₁ _ => ?_
  refine (newSerial_yields.loosen fun _ _ => approves_of_may).bind fun now serial grown₂ _ => ?_
  refine yields_step ⟨trivial, trivial⟩ fun now time grown₃ _ => ?_
  refine yields_ensure.bind fun now _ grown₄ nonempty => ?_
  refine yields_lift.bind fun now _ grown₅ valid => ?_
  refine yields_step ⟨trivial, trivial⟩ fun now decisionID grown₆ _ => ?_
  have grown : past ⊆ now := fun _ member =>
    grown₆ (grown₅ (grown₄ (grown₃ (grown₂ (grown₁ member)))))
  refine (yields_transaction ?may).bind fun now settled grown₇ done => ?_
  case may => exact ⟨⟨rfl, decides_of_holds _ holds bound grown rfl rfl⟩, trivial⟩
  refine (orExplain_yields.loosen fun _ _ => approves_of_may).bind fun now _ grown₈ committed => ?_
  subst committed
  refine yields_step ?order fun now answer _ published => ?_
  case order =>
    have holds' := (holds.mono grown).mono (List.Subset.trans grown₇ grown₈)
    exact ⟨⟨⟨approval, holds', flow, rfl, rfl, rfl, rfl, nonempty, valid, rfl, rfl⟩,
      .approval (holds.type_ne_service flow) rfl rfl (grown₈ done)⟩, trivial⟩
  cases answer with
  | ok => exact yields_pure (.inl ⟨_, published.1⟩)
  | error => exact yields_throw

end Approved

omit approval in
theorem ensureApprovable_yields {terms : Terms} :
    Yields Plausible (May terms) (fun _ _ => row.status = .pending) (ensureApprovable server row)
      past := by
  refine ttlCutoffFor_yields.bind fun now cutoff _ _ => ?_
  split_ifs with settled late
  · exact yields_throw
  · exact expire_yields.bind fun _ _ _ _ => yields_throw
  · exact yields_pure (not_not.mp settled)

/-- **`Approve`, walked through**: what it commits is on the terms of the approval. -/
theorem approve_yields :
    Yields Plausible (Approves server session selection id) (fun now _ => Committed now)
      (approve server id session dc selection) past := by
  refine (lookupRequest_yields.loosen fun _ _ => approves_of_may).bind fun now found _ ⟨seen, same⟩ => ?_
  refine (ensureApprovable_yields.loosen fun _ _ => approves_of_may).bind fun now _ grown₁ _ => ?_
  refine yields_lift.bind fun now requested grown₂ decoded => ?_
  refine yields_lift.bind fun now policy grown₃ policyFor => ?_
  refine (resolveUser_yields.loosen fun _ _ => approves_of_may).bind fun now user grown₄ resolved => ?_
  refine yields_lift.bind fun now _ grown₅ authorized => ?_
  have seen' : Saw now id found :=
    seen.mono fun _ member => grown₅ (grown₄ (grown₃ (grown₂ (grown₁ member))))
  have holds : Holds server session selection ⟨found, user, policy, requested⟩ id now :=
    ⟨seen', same, grown₅ resolved, decoded, policyFor, authorized⟩
  refine (bindRequester_yields.loosen fun _ _ => approves_of_may).bind fun now row grown₆ ⟨bound, known⟩ => ?_
  subst bound
  refine yields_lift.bind fun now _ grown₇ _ => ?_
  have bound : Bound now id user.id := by
    subst same
    exact (known seen').mono grown₇
  have holds' := (holds.mono grown₆).mono grown₇
  cases flow : policy.flow with
  | enrollment =>
    exact approveServiceEnrollment_yields ⟨found, user, policy, requested⟩ holds' bound rfl rfl rfl
      flow rfl
  | signing => exact approveForSigning_yields ⟨found, user, policy, requested⟩ holds' bound rfl rfl rfl flow
  | unsupported => exact yields_throw

end Walk

/-! ## What is fixed -/

/-- What a certificate will carry. -/
structure Issue where
  options : RequestedOptions
  lifetime : Int
  principals : List String

/-- What an approval with a history has fixed: a published job, or a committed
enrollment as its columns are read back. -/
inductive Fixed (now : History) : Issue → Prop
  | signing {job : SigningJob} (published : ⟨.publishJob job, .ok ()⟩ ∈ now) :
      Fixed now ⟨job.requestedOptions, job.validBefore - job.validAfter, job.principals⟩
  | enrollment {grant : ServiceGrant} {decision : Decision} {options : RequestedOptions}
      {seconds : Int} {principals : List String}
      (committed : ⟨.write (.approveServiceEnrollment grant decision), .ok .committed⟩ ∈ now)
      (optionSet : RequestedOptions.unmarshal grant.enrollment.optionSet = some options)
      (duration : grant.enrollment.certificateDurationSeconds = some seconds)
      (stored : unmarshalStrings grant.enrollment.principals = some principals) :
      Fixed now ⟨options, seconds * Duration.second, principals⟩

/-- What has been committed and published fixes something. -/
theorem Committed.fixed {now : History} : Committed now → ∃ issue, Fixed now issue
  | .inl ⟨_, published⟩ => ⟨_, .signing published⟩
  | .inr ⟨grant, _, committed⟩ => ⟨_, .enrollment committed
    (RequestedOptions.unmarshal_marshal grant.options) rfl
    (unmarshalStrings_marshalStrings grant.principals)⟩

namespace Approval

/-- The ways an approval fixes something, one for each flow. -/
inductive Fixes (server : Server) (session : Identity) (selection : ApprovalSelection)
    (approval : Approval) (issue : Issue) : Prop
  | signing (flow : approval.policy.flow = .signing)
      (options : issue.options = approval.options server session selection 0)
      (lifetime : issue.lifetime = (approval.outcome server session 0).duration)
      (principals : issue.principals =
        approval.policy.principals (approval.identity server session) selection.principals)
      (nonempty : issue.principals ≠ [])
      (valid : validatePrincipals server.ext issue.principals = .ok ())
  | enrollment (flow : approval.policy.flow = .enrollment)
      (options : issue.options =
        approval.options server session selection approval.policy.enrollmentDuration)
      (lifetime : issue.lifetime = Duration.quot
        (approval.outcome server session approval.policy.enrollmentDuration).duration
        Duration.second * Duration.second)
      (principals : issue.principals = [selection.serviceAccount])
      (valid : validatePrincipals server.ext issue.principals = .ok ())

/-- **What a run of `Approve` fixes is what its approval fixes.** -/
theorem fixes_of_run {server : Server} {session : Identity} {selection : ApprovalSelection}
    {dc : DecisionContext} {id : RequestID} {now : History} {outcome : Except ServiceError Unit}
    (run : Prog.Runs Plausible (approve server id session dc selection).run [] now outcome)
    {issue : Issue} (fixed : Fixed now issue) :
    ∃ approval : Approval, approval.Holds server session selection id now ∧
      approval.Fixes server session selection issue := by
  obtain ⟨-, taken⟩ := approve_yields.runs run
  cases fixed with
  | signing published =>
    rcases taken _ published with absurd | ⟨before, grown, ⟨⟨approval, holds, signs⟩, -⟩, -⟩
    · cases absurd
    · refine ⟨approval, holds.mono grown, .signing signs.flow signs.options ?_ signs.principals
        signs.nonempty signs.valid⟩
      show _ - _ = _
      rw [signs.validBefore, Time.add]
      omega
  | enrollment committed optionSet duration stored =>
    rcases taken _ committed with absurd | ⟨before, grown, ⟨⟨approval, holds, enrolls⟩, -⟩, -⟩
    · cases absurd
    · rw [ServiceGrant.enrollment, RequestedOptions.unmarshal_marshal] at optionSet
      rw [ServiceGrant.enrollment, unmarshalStrings_marshalStrings] at stored
      cases optionSet
      cases stored
      cases duration
      refine ⟨approval, holds.mono grown, .enrollment enrolls.flow enrolls.options ?_ ?_
        enrolls.valid⟩
      · rw [← enrolls.duration]
      · rw [ServiceGrant.principals, enrolls.serviceAccount]

end Approval

/-! ## The configuration is the outer bound -/

/-- The extensions the configuration leaves to an identity at a source address: in
the ceiling of the type, granted where there are tiers, and not taken away by the
rule of the network. -/
def Server.permitsExtension (server : Server) (certType : CertificateType) (identity : Identity)
    (sourceIP extension : String) : Bool :=
  (server.certOptions.extensionsFor certType).contains extension &&
    match server.compiled.engine.policyFor certType with
    | none => true
    | some policy =>
      (policy.tiers.isEmpty || (policy.grantedExtensions identity).contains extension) &&
        !(policy.removedExtensions sourceIP).contains extension

namespace Approval

/-- The bounds of the configuration on what an approval fixes.  The compiled policy of
the type is the configured one, tier by tier and rule by rule. -/
structure Within (server : Server) (session : Identity) (selection : ApprovalSelection)
    (approval : Approval) (issue : Issue) : Prop where
  compiled : ∀ policy, server.compiled.engine.policyFor approval.row.type = some policy →
    (server.certOptions.lifetimePolicyFor approval.row.type).CompilesTo server.ext
      server.declaredClaims policy
  extensions : issue.options.extensions =
    (selection.extensions.getD approval.requested.extensions).filter
      (server.permitsExtension approval.row.type (approval.identity server session)
        approval.row.sourceIP)
  forceCommand : issue.options.forceCommand = ""
  sourceAddresses : issue.options.sourceAddresses = [] ∨
    issue.options.sourceAddresses = [approval.row.sourceIP] ∧ approval.row.type = .service ∧
      ∃ policy rule, server.compiled.engine.policyFor approval.row.type = some policy ∧
        matchSourceRule policy.sourceRules approval.row.sourceIP = some rule ∧
          rule.pinSourceAddress = true
  noTouchRequired : issue.options.noTouchRequired = true →
    approval.row.type = .service ∧ approval.requested.noTouchRequired = true
  tier : ∀ policy, server.compiled.engine.policyFor approval.row.type = some policy →
    issue.lifetime ≤ policy.tierDuration (approval.identity server session)
  rule : ∀ policy rule, server.compiled.engine.policyFor approval.row.type = some policy →
    matchSourceRule policy.sourceRules approval.row.sourceIP = some rule →
      0 < rule.maxDuration → issue.lifetime ≤ rule.maxDuration

section Bounds

variable {server : Server} {session : Identity} {selection : ApprovalSelection}
variable {approval : Approval} {id : RequestID} {past : History} {enrollmentCeiling : Int}

/-- The five narrowing stages come down to one filter. -/
theorem Holds.extensions_options (h : approval.Holds server session selection id past) :
    (approval.options server session selection enrollmentCeiling).extensions =
      (selection.extensions.getD approval.requested.extensions).filter
        (server.permitsExtension approval.row.type (approval.identity server session)
          approval.row.sourceIP) := by
  rw [options, PolicyOutcome.extensions_narrowOptions]
  simp only [narrowRequestedOptions, intersectStrings_eq_filter, withSelection,
    List.filter_filter, h.bounds.extensions]
  refine List.filter_congr fun extension _ => ?_
  unfold Server.permitsExtension outcome
  cases configured : server.compiled.engine.policyFor approval.row.type with
  | none => simp [LifetimePolicyEngine.permits_evaluate_of_none configured]
  | some =>
    rw [LifetimePolicyEngine.permits_evaluate configured, Bool.and_comm]

theorem Holds.sourceAddresses_options :
    (approval.options server session selection enrollmentCeiling).sourceAddresses = [] ∨
      (approval.options server session selection enrollmentCeiling).sourceAddresses =
          [approval.row.sourceIP] ∧ approval.row.type = .service ∧
        ∃ policy rule, server.compiled.engine.policyFor approval.row.type = some policy ∧
          matchSourceRule policy.sourceRules approval.row.sourceIP = some rule ∧
            rule.pinSourceAddress = true := by
  simp only [options, PolicyOutcome.sourceAddresses_narrowOptions]
  split_ifs with pinned
  · exact .inr ⟨rfl, LifetimePolicyEngine.pinSource_evaluate pinned⟩
  · exact .inl rfl

theorem Holds.noTouchRequired_options (h : approval.Holds server session selection id past)
    (noTouch : (approval.options server session selection enrollmentCeiling).noTouchRequired) :
    approval.row.type = .service ∧ approval.requested.noTouchRequired = true := by
  simp only [options, PolicyOutcome.noTouchRequired_narrowOptions,
    narrowRequestedOptions, withSelection, h.bounds.noTouchEligible, Bool.and_eq_true,
    decide_eq_true_eq] at noTouch
  exact ⟨noTouch.2, noTouch.1⟩

/-- A lifetime that is no longer than the evaluated one, except that it may be
rounded up to nothing, keeps every bound that is positive. -/
theorem Holds.within {issue : Issue} (h : approval.Holds server session selection id past)
    (options : issue.options = approval.options server session selection enrollmentCeiling)
    (lifetime : issue.lifetime ≤ max 0 (approval.outcome server session enrollmentCeiling).duration) :
    approval.Within server session selection issue where
  compiled policy configured := compilesTo_of_compile server.accepted configured
  extensions := options ▸ h.extensions_options
  forceCommand := by rw [options]; rfl
  sourceAddresses := options ▸ Holds.sourceAddresses_options
  noTouchRequired noTouch := h.noTouchRequired_options (by rwa [← options])
  tier policy configured := by
    have compiles := compilesTo_of_compile server.accepted configured
    have bound : (approval.outcome server session enrollmentCeiling).duration ≤
        policy.tierDuration (approval.identity server session) :=
      LifetimePolicyEngine.duration_evaluate_le_tier configured
    exact lifetime.trans (max_le (compiles.tierDuration_pos _).le bound)
  rule policy rule configured matched positive := by
    have bound : (approval.outcome server session enrollmentCeiling).duration ≤ rule.maxDuration :=
      LifetimePolicyEngine.duration_evaluate_le_rule configured matched positive
    exact lifetime.trans (max_le positive.le bound)

end Bounds

end Approval

/-! ## Runs to evaluate

The results below are statements about the runs of `Approve`; these are some of them, of a
service approval that a tier and a rule narrow, and under a negative duration. -/

namespace Sample

/-- A pending request for a service certificate. -/
def request : CertificateRequest where
  id := "request"
  type := .service
  publicKey := "key"
  requestedOptions := RequestedOptions.marshal {}
  sourceIP := "192.0.2.1"
  status := .pending
  createdAt := 0

/-- A database and a broker that give the first answer that comes to mind. -/
def answers : (action : Act) → action.Resp
  | .read (.request _ id) => .ok (some { request with id := id })
  | .read (.liveRequestByCode _) => .ok none
  | .read (.user subject) => .ok (some { id := "user", subject := subject })
  | .read (.decision _) => .ok none
  | .read (.enrollmentByCode _) => .ok none
  | .read (.enrollment _) => .ok none
  | .read (.retrieval _) => .ok none
  | .read (.certificate _) => .ok none
  | .read (.signingBefore _) => .ok []
  | .write (.bindRequester _ _) => .ok true
  | .write (.approveForSigning _ _ _ _) => .ok .committed
  | .write (.approveServiceEnrollment _ _) => .ok .committed
  | .write _ => .error ⟨"database is locked", 0, false⟩
  | .cacheGet _ => none
  | .cachePut _ _ _ => ()
  | .evict _ => ()
  | .subscribe _ => .ok ()
  | .publishWake _ _ => .ok ()
  | .publishJob _ => .ok ()
  | .receive _ => .closed
  | .now => (0 : Int)
  | .withinWindow _ _ _ => false
  | .pollPause _ _ => false
  | .newUUID => "uuid"
  | .random n => .ok (List.replicate n 0)

theorem plausible_answers (action : Act) : Plausible action (answers action) := by
  cases action with
  | read query => cases query <;> first | rfl | trivial
  | random => exact List.length_replicate
  | _ => trivial

def approver : Identity where
  subject := "subject"
  username := "admin"
  groups := ["ops"]
  serviceAccounts := ["backup"]

/-- The default options. -/
def server : Server :=
  .ofOptions .plain {} rfl (CertificateOptions.fits_validDurationFor (by decide) (by decide)
    (by decide) (by decide))

/-- The default options, but for a service duration of minus one and a half seconds. -/
def negativeServer : Server :=
  .ofOptions .plain { service := { validDuration := -1500 * Duration.millisecond } } rfl
    (CertificateOptions.fits_validDurationFor (by decide) (by decide) (by decide) (by decide))

/-- A tier for the approver's group, and a rule for the requester's network. -/
def tieredServer : Server :=
  .ofOptions .plain
    { service :=
        { extensions := ["permit-pty", "permit-user-rc"]
          lifetimePolicy :=
            { defaultDuration := Duration.second
              tiers := [{ name := "ops", when := { group := "ops" }, maxDuration := 2 * Duration.minute,
                          grantExtensions := ["permit-pty", "permit-user-rc"] }]
              sourcePolicy := [{ cidr := "192.0.2.0/24", maxDuration := Duration.minute,
                                 removedExtensions := ["permit-pty"], pinSourceAddress := true }] } } }
    rfl (CertificateOptions.fits_validDurationFor (by decide) (by decide) (by decide) (by decide))

/-- The approver's choice of extensions, one of them beyond the type's. -/
def choice : Option (List String) := some ["permit-X11-forwarding", "permit-user-rc", "permit-pty"]

/-- What the tier and the rule leave of it, pinned to the address. -/
def narrowed : Issue where
  options := { extensions := ["permit-user-rc"], sourceAddresses := ["192.0.2.1"] }
  lifetime := 60 * Duration.second
  principals := ["backup"]

/-- An approval of the request for the service account `backup`. -/
def approval (server : Server) (extensions : Option (List String) := none) :
    History × Except ServiceError Unit :=
  (approve server "request" approver {} { serviceAccount := "backup", extensions }).run.answered
    (fun _ => answers) []

theorem runs_approval (server : Server) (extensions : Option (List String))
    (succeeds : (approval server extensions).2 = .ok ()) :
    Prog.Runs Plausible
      (approve server "request" approver {} { serviceAccount := "backup", extensions }).run []
      (approval server extensions).1 (.ok ()) :=
  succeeds ▸ Prog.runs_answered (fun _ => plausible_answers) _ _

theorem row_of_saw {server : Server} {extensions : Option (List String)} {row : CertificateRequest}
    (seen : Saw (approval server extensions).1 "request" row) : row = request := by
  obtain ⟨site, seen⟩ := seen
  rcases Prog.of_mem_answered seen with start | same
  · cases start
  · exact Option.some.inj (Except.ok.inj same)

theorem fixed_narrowed : Fixed (approval tieredServer choice).1 narrowed :=
  .enrollment (List.mem_of_getElem? (i := 3) rfl) (RequestedOptions.unmarshal_marshal _) rfl
    (unmarshalStrings_marshalStrings ["backup"])

/-- What the approval under the negative duration commits. -/
def grant : ServiceGrant where
  requestID := "request"
  enrollmentID := "uuid"
  token := "uuid"
  publicKey := "key"
  keyID := defaultUserServiceKeyIDTemplate
  serviceAccount := "backup"
  options := {}
  effectiveDuration := -1500 * Duration.millisecond
  userID := "user"
  createdAt := 0
  expiresAt := 365 * 24 * 60 * Duration.minute
  notificationEmail := ""

end Sample

section Results

variable {server : Server} {session : Identity} {selection : ApprovalSelection}
variable {dc : DecisionContext} {id : RequestID} {now : History}

/-- **The configuration is the outer bound of issuance.**  Whatever a successful
approval fixes is within the bounds of its type, tier and source network; and its
lifetime is within the type's duration, except that a negative duration of the
service type, stored in whole seconds, may be rounded up by less than a second. -/
theorem approve_within_configuration
    (run : Prog.Runs Plausible (approve server id session dc selection).run [] now (.ok ())) :
    (∃ issue, Fixed now issue) ∧ ∀ issue, Fixed now issue →
      ∃ approval : Approval, approval.Holds server session selection id now ∧
        approval.Within server session selection issue ∧
        (issue.lifetime ≤ server.certOptions.validDurationFor approval.row.type ∨
          approval.row.type = .service ∧ server.certOptions.service.validDuration < 0 ∧
            issue.lifetime ≤ 0 ∧
            issue.lifetime < server.certOptions.service.validDuration + Duration.second) := by
  obtain ⟨committed, -⟩ := approve_yields.runs run
  refine ⟨(committed () rfl).fixed, fun issue fixed => ?_⟩
  obtain ⟨approval, holds, fixes⟩ := Approval.fixes_of_run run fixed
  refine ⟨approval, holds, ?_⟩
  have ceiling (enrollmentCeiling : Int) :
      (approval.outcome server session enrollmentCeiling).duration ≤
        server.certOptions.validDurationFor approval.row.type :=
    holds.bounds.validDuration ▸ LifetimePolicyEngine.duration_evaluate_le_ceiling
  cases fixes with
  | signing flow options lifetime =>
    refine ⟨holds.within options ?_, .inl ?_⟩
    · exact lifetime.le.trans (le_max_right _ _)
    · exact lifetime.le.trans (ceiling _)
  | enrollment flow options lifetime =>
    have service := holds.type_eq_service flow
    rcases le_or_gt 0 (approval.outcome server session
        approval.policy.enrollmentDuration).duration with nonneg | negative
    · have kept := lifetime.le.trans (Duration.quot_second_mul_le nonneg)
      exact ⟨holds.within options (kept.trans (le_max_right _ _)), .inl (kept.trans (ceiling _))⟩
    · obtain ⟨rounded, near⟩ := Duration.quot_second_mul_of_nonpos negative.le
      rw [← lifetime] at rounded near
      refine ⟨holds.within options (rounded.trans (le_max_left _ _)), ?_⟩
      -- only a negative ceiling lets the evaluated duration be negative
      have low : min 0 approval.policy.validDuration ≤ (approval.outcome server session
          approval.policy.enrollmentDuration).duration :=
        LifetimePolicyEngine.min_zero_le_duration_evaluate fun parsed configured =>
          ⟨_, compilesTo_of_compile server.accepted configured⟩
      have validDuration := holds.bounds.validDuration
      rw [service] at validDuration
      have within := ceiling approval.policy.enrollmentDuration
      rw [service] at within
      refine .inr ⟨service, ?_, rounded, near.trans_le (add_le_add_left within _)⟩
      have : min 0 approval.policy.validDuration < 0 := low.trans_lt negative
      rw [validDuration] at this
      exact (min_lt_iff.mp this).resolve_left (lt_irrefl 0)

/-- The tier, the rule and the extensions of the type all narrow this approval. -/
theorem approve_within_configuration_tiered :
    Fixed (Sample.approval Sample.tieredServer Sample.choice).1 Sample.narrowed ∧
      ∃ approval : Approval, approval.Within Sample.tieredServer Sample.approver
        { serviceAccount := "backup", extensions := Sample.choice } Sample.narrowed := by
  obtain ⟨approval, -, within, -⟩ :=
    (approve_within_configuration (Sample.runs_approval _ _ rfl)).2 _ Sample.fixed_narrowed
  exact ⟨Sample.fixed_narrowed, approval, within⟩

/-- A duration of minus one and a half seconds is stored as minus one second, which is
longer. -/
theorem approve_exceeds_negative_duration :
    Prog.Runs Plausible (approve Sample.negativeServer "request" Sample.approver {}
        { serviceAccount := "backup" }).run [] (Sample.approval Sample.negativeServer).1 (.ok ()) ∧
      Saw (Sample.approval Sample.negativeServer).1 "request" Sample.request ∧
      Fixed (Sample.approval Sample.negativeServer).1 ⟨{}, -1 * Duration.second, ["backup"]⟩ ∧
      ¬ -1 * Duration.second ≤
        Sample.negativeServer.certOptions.validDurationFor Sample.request.type := by
  have committed : ∃ decision, ⟨.write (.approveServiceEnrollment Sample.grant decision),
      .ok .committed⟩ ∈ (Sample.approval Sample.negativeServer).1 :=
    ⟨_, List.mem_of_getElem? (i := 3) rfl⟩
  obtain ⟨decision, committed⟩ := committed
  refine ⟨Sample.runs_approval _ _ rfl, ⟨.elsewhere, List.mem_of_getElem? (i := 11) rfl⟩, ?_,
    by decide⟩
  exact .enrollment committed (RequestedOptions.unmarshal_marshal {}) rfl
    (unmarshalStrings_marshalStrings ["backup"])

/-- **Principals are always the approver's own.**  The second half says that the
three lists of service accounts, the one that is checked, the one that is offered and
the one that owns an enrollment, are the same set. -/
theorem approve_principals_own
    (run : Prog.Runs Plausible (approve server id session dc selection).run [] now (.ok ())) :
    ((∃ issue, Fixed now issue) ∧ ∀ issue, Fixed now issue →
      issue.principals ≠ [] ∧
      (∀ principal ∈ issue.principals, validatePrincipal server.ext principal = .ok ()) ∧
      ∃ approval : Approval, approval.Holds server session selection id now ∧
        (approval.row.type ≠ .service →
          ∀ principal ∈ issue.principals, principal ∈ heldAccounts session) ∧
        (approval.row.type = .service → issue.principals = [selection.serviceAccount] ∧
          (selection.serviceAccount ∈ session.serviceAccounts ∨
            server.certOptions.service.allowUserAccounts = true ∧
              selection.serviceAccount ∈ heldAccounts session))) ∧
    (∀ identity allowUserAccounts,
      (approvableServiceAccounts identity allowUserAccounts).Nodup ∧
      "" ∉ approvableServiceAccounts identity allowUserAccounts ∧
      ∀ account, checkServiceAccountLinkage server.ext identity account allowUserAccounts = .ok () ↔
        account ∈ approvableServiceAccounts identity allowUserAccounts) ∧
    ∀ identity enrollment, ownsEnrollment server identity enrollment = true ↔
      enrollment.serviceAccount ∈
        approvableServiceAccounts identity server.certOptions.service.allowUserAccounts := by
  obtain ⟨committed, -⟩ := approve_yields.runs run
  refine ⟨⟨(committed () rfl).fixed, fun issue fixed => ?_⟩, fun identity allow => ?_,
    fun identity enrollment => ?_⟩
  · obtain ⟨approval, holds, fixes⟩ := Approval.fixes_of_run run fixed
    have linked := (checkApproverAuthorization_eq_ok.mp holds.authorized).2
    cases fixes with
    | signing flow _ _ principals nonempty valid =>
      have signing := holds.type_ne_service flow
      refine ⟨nonempty, validatePrincipals_eq_ok.mp valid, approval, holds, fun _ => ?_,
        fun service => (signing service).elim⟩
      rw [principals]
      exact holds.bounds.held signing _ _ linked
    | enrollment flow _ _ principals valid =>
      have service := holds.type_eq_service flow
      refine ⟨by simp [principals], validatePrincipals_eq_ok.mp valid, approval, holds,
        fun signing => (signing service).elim, fun _ => ⟨principals, ?_⟩⟩
      rw [holds.bounds.linked service] at linked
      exact (checkServiceAccountLinkage_eq_ok.mp linked).2
  · refine ⟨nodup_approvableServiceAccounts identity allow, ?_, fun account => ?_⟩
    · rw [mem_approvableServiceAccounts]
      exact fun named => named.1 rfl
    · rw [checkServiceAccountLinkage_eq_ok, mem_approvableServiceAccounts]
  · unfold ownsEnrollment
    split_ifs with unnamed
    · simp [unnamed, mem_approvableServiceAccounts]
    · rw [List.contains_iff_mem]

/-- The account that was chosen is the one principal of the enrollment. -/
theorem approve_principals_own_backup :
    Fixed (Sample.approval Sample.tieredServer Sample.choice).1 Sample.narrowed ∧
      Sample.narrowed.principals = ["backup"] ∧
      validatePrincipal Sample.tieredServer.ext "backup" = .ok () := by
  have own := (approve_principals_own (Sample.runs_approval _ _ rfl)).1.2 _ Sample.fixed_narrowed
  exact ⟨Sample.fixed_narrowed, rfl, own.2.1 "backup" (List.mem_singleton_self _)⟩

end Results

end Ssoossh
