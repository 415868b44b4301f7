import Ssoossh.Server.Lifecycle

/-!
# Redeeming an enrollment

What the approval of a service request fixed is what every certificate redeemed with
its code is ordered under, whatever happened to policies, configuration and users in
between.  The invariant of `Ssoossh.Server.Lifecycle` already ties every such job to
*a* grant with the code of its enrollment; codes are unique, so it is *the* grant.

The other half is about one call.  A `Retrieve` that finds no enrollment, or finds one
that has expired, leaves neither a retrieval row nor a job behind.
-/

namespace Ssoossh

open Interleaving Relational GoTime List

/-! ## One code, one grant -/

section Grants

variable {s : Shared} {grant grant' : ServiceGrant}

/-- Rows of two grants with one code are one row. -/
theorem Shared.Stores.unique (stored : s.Stores grant) (stored' : s.Stores grant')
    (token : grant.token = grant'.token) :
    ∃ enrollment, grant.enrollment.SameGrant enrollment ∧
      grant'.enrollment.SameGrant enrollment := by
  obtain ⟨enrollment, found, same⟩ := stored
  obtain ⟨enrollment', found', same'⟩ := stored'
  have code : enrollment.code = enrollment'.code := by
    rw [show enrollment.code = grant.token from congrArg Enrollment.code same,
      show enrollment'.code = grant'.token from congrArg Enrollment.code same', token]
  have one : enrollment = enrollment' :=
    Table.eq_of_index (Table.mem_of_find? found) (Table.mem_of_find? found')
      (congrArg some code) rfl
  subst one
  exact ⟨enrollment, same, same'⟩

/-- What is stored determines what a job has to carry. -/
theorem SigningJob.Carries.of_sameGrant {job : SigningJob} {enrollment : Enrollment}
    (carries : job.Carries grant) (same : grant.enrollment.SameGrant enrollment)
    (same' : grant'.enrollment.SameGrant enrollment) : job.Carries grant' := by
  have both := same.symm.trans same'
  have principals := congrArg (fun row => unmarshalStrings row.principals) both
  have options := congrArg (fun row => RequestedOptions.unmarshal row.optionSet) both
  have seconds := congrArg Enrollment.certificateDurationSeconds both
  simp only [ServiceGrant.enrollment, unmarshalStrings_marshalStrings,
    RequestedOptions.unmarshal_marshal, Option.some.injEq] at principals options seconds
  constructor
  · rw [carries.publicKey]
    exact congrArg Enrollment.publicKey both
  · rw [carries.keyID]
    exact congrArg Enrollment.keyID both
  · rw [carries.principals, principals]
  · rw [carries.options, options]
  · rw [carries.lifetime, seconds]

end Grants

/-! ## A code that is unknown or expired -/

/-- The actions by which `Retrieve` leaves something behind. -/
def Act.redeems : Act → Bool
  | .publishJob _ => true
  | .write (.insertRetrieval _) => true
  | _ => false

/-- The actions by which `Retrieve` finds out whether a code is good. -/
def Act.consults : Act → Bool
  | .now => true
  | .read (.enrollmentByCode _) => true
  | _ => false

section Refusing

open Prog

variable {server : Server} {past now : History} {code sourceIP : String}

/-- A call that asked once, and was told of a live enrollment, was not refused. -/
theorem not_refused {enrollment : Enrollment} {clock time : Int}
    {answer : Except DBError (Option Enrollment)}
    (once : ∀ event ∈ now, event ∈ ([⟨.now, clock⟩,
        ⟨.read (.enrollmentByCode code), .ok (some enrollment)⟩] : History) ∨
      event.1.consults = false)
    (alive : clock < enrollment.expiresAt)
    (asked : ⟨.read (.enrollmentByCode code), answer⟩ ∈ now) :
    ¬ (answer = .ok none ∨ ⟨.now, time⟩ ∈ now ∧
      ∃ enrollment, answer = .ok (some enrollment) ∧ enrollment.expiresAt ≤ time) := by
  have told : answer = .ok (some enrollment) := by
    rcases once _ asked with member | calm
    · rcases mem_cons.mp member with other | same
      · cases other
      · cases mem_singleton.mp same
        rfl
    · cases calm
  subst told
  rintro (absurd | ⟨read, enrollment', same, late⟩)
  · cases absurd
  · cases same
    rcases once _ read with member | calm
    · rcases mem_cons.mp member with same | other
      · cases same
        omega
      · cases mem_singleton.mp other
    · cases calm

/-- **A `Retrieve` that is refused leaves nothing behind.** -/
theorem retrieve_refused {outcome : Except ServiceError PendingRetrieval}
    (run : Runs Plausible (retrieve server code sourceIP).run [] now outcome)
    {answer : Except DBError (Option Enrollment)} {time : Int}
    (asked : ⟨.read (.enrollmentByCode code), answer⟩ ∈ now)
    (refuses : answer = .ok none ∨ ⟨.now, time⟩ ∈ now ∧
      ∃ enrollment, answer = .ok (some enrollment) ∧ enrollment.expiresAt ≤ time) :
    ∀ event ∈ now, event.1.redeems = false := by
  rcases runs_read run with ⟨e, rfl⟩ | ⟨found, rest⟩
  · -- the lookup failed
    exact forall_mem_singleton.mpr rfl
  cases found with
  | none =>
    cases rest
    exact forall_mem_singleton.mpr rfl
  | some enrollment =>
    obtain ⟨clock, last⟩ := Runs.of_step rest
    split_ifs at last with alive
    · -- a live code is not asked about again
      refine (not_refused (Yields.taken (P := fun action => action.consults = false)
        (Q := fun _ _ => True) ?_ last)
        (by simpa [Time.after] using alive) asked refuses).elim
      refine yields_lift.bind fun now principals _ _ => ?_
      refine yields_lift.bind fun now options _ _ => ?_
      have serial : Yields Plausible (fun _ action => action.consults = false)
          (fun _ _ => True) newSerial now := by
        refine yields_step rfl fun now answer _ _ => ?_
        cases answer with
        | ok => exact yields_pure trivial
        | error => exact yields_throw
      refine serial.bind fun now serial _ _ => ?_
      refine yields_step rfl fun now retrievalID _ _ => ?_
      refine (yields_write rfl).bind fun now _ _ _ => ?_
      refine yields_step rfl fun now answer _ _ => ?_
      cases answer with
      | error => exact yields_throw
      | ok =>
        refine yields_step rfl fun now answer _ _ => ?_
        cases answer with
        | ok => exact yields_pure trivial
        | error => exact yields_throw
    · -- nothing that follows a refusal redeems
      have earlier : ∀ event ∈ ([⟨.now, clock⟩,
          ⟨.read (.enrollmentByCode code), .ok (some enrollment)⟩] : History),
          event.1.redeems = false :=
            forall_mem_cons.mpr ⟨rfl, forall_mem_singleton.mpr rfl⟩
      refine fun event member => (Yields.taken (P := fun action => action.redeems = false)
        (Q := fun _ _ => True) ?_ last event member).elim (earlier event) id
      refine Yields.bind (Q := fun _ _ => True) ?_ fun now _ _ _ => yields_throw
      unfold notifyExpiredAttempt
      split_ifs
      · exact yields_pure trivial
      · refine yields_step rfl fun now _ _ _ => ?_
        exact yields_pure trivial

end Refusing

/-! ## What was fixed is what is redeemed -/

namespace Sample

/-- A service request is approved, and its code redeemed an hour later. -/
def redeeming : List SystemLabel :=
  uninterrupted ⟨0, 0⟩ (.upsertUser approver) [.text "user", .done] ++
  uninterrupted ⟨0, 1⟩ (.createRequest { type := .service, publicKey := "key" })
    [.text "request", .time 0, .done] ++
  uninterrupted ⟨0, 2⟩ (.approve "request" approver {} { serviceAccount := "backup" })
    [.done, .time 1, .done, .done, .text "code", .text "enrollment", .time 1, .text "decision",
      .done, .time 1, .done, .done] ++
  uninterrupted ⟨1, 0⟩ (.retrieve "code" "192.0.2.1")
    [.done, .time (60 * Duration.minute), .bytes (List.replicate 8 1), .text "retrieval", .done,
      .done, .done]

end Sample

/-- **A redemption is evaluated at enrollment time.**  Every job of the service type
comes from a retrieval of an enrollment that was granted; under each grant of that
enrollment's code it carries the key, the key ID, the principal and the options that
were fixed, for the whole seconds of the duration that was fixed.  And a `Retrieve`
whose code is unknown, or expired by the time it reads the clock, neither records a
retrieval nor publishes a job. -/
theorem redeemed_as_granted {server : Server} {cfg : SystemConfig}
    (run : Reaches (system server) (Steps server) start cfg) :
    (∀ job ∈ cfg.shared.jobs, job.type = .service → ∃ retrieval enrollment,
      cfg.shared.db.retrievals.find? job.requestID = some retrieval ∧
      cfg.shared.db.enrollments.find? retrieval.enrollmentID = some enrollment ∧
      (∃ grant ∈ cfg.shared.grants, grant.token = enrollment.code) ∧
      ∀ grant ∈ cfg.shared.grants, grant.token = enrollment.code →
        job.publicKey = grant.publicKey ∧ job.keyID = grant.keyID ∧
        job.principals = [grant.serviceAccount] ∧
        job.requestedOptions = grant.options ∧
        job.validBefore - job.validAfter =
          Duration.quot grant.effectiveDuration Duration.second * Duration.second) ∧
    ∀ code sourceIP now outcome,
      Prog.Runs Plausible (retrieve server code sourceIP).run [] now outcome →
      ∀ answer (time : Int), ⟨.read (.enrollmentByCode code), answer⟩ ∈ now →
        (answer = .ok none ∨ ⟨.now, time⟩ ∈ now ∧
          ∃ enrollment, answer = .ok (some enrollment) ∧ enrollment.expiresAt ≤ time) →
        ∀ event ∈ now, (∀ job, event.1 ≠ .publishJob job) ∧
          ∀ row, event.1 ≠ .write (.insertRetrieval row) := by
  have sound : cfg.shared.Sound := (lifecycle_reaches run).inv
  constructor
  · intro job member service
    cases sound.jobs job member with
    | approval type => exact (type service).elim
    | @retrieval row enrollment grant _ found serial redeemed granted code carries =>
      refine ⟨row, enrollment, found, redeemed, ⟨grant, granted, code.symm⟩, ?_⟩
      intro grant' granted' code'
      have token : grant.token = grant'.token := by rw [← code, code']
      obtain ⟨stored, same, same'⟩ :=
        (sound.granted grant granted).unique (sound.granted grant' granted') token
      have carried := carries.of_sameGrant same same'
      exact ⟨carried.publicKey, carried.keyID, carried.principals, carried.options,
        carried.lifetime⟩
  · intro code sourceIP now outcome ran answer time asked refuses event member
    have nothing := retrieve_refused ran asked refuses event member
    constructor
    · intro job same
      rw [same] at nothing
      cases nothing
    · intro row same
      rw [same] at nothing
      cases nothing

/-- The redemption of the sample is under the grant of its code. -/
theorem redeemed_as_granted_redeeming : ∃ cfg, Sample.after Sample.redeeming = some cfg ∧
    ∃ job ∈ cfg.shared.jobs, ∃ grant ∈ cfg.shared.grants, job.publicKey = grant.publicKey ∧
      job.principals = [grant.serviceAccount] ∧ job.requestedOptions = grant.options := by
  have ran : (Sample.after Sample.redeeming).map (·.shared.jobs.map (·.type)) =
      some [.service] := by decide +kernel
  obtain ⟨cfg, runs, types⟩ := Option.map_eq_some_iff.mp ran
  obtain ⟨job, jobs, service⟩ := map_eq_singleton_iff.mp types
  have member : job ∈ cfg.shared.jobs := by rw [jobs]; exact mem_singleton_self job
  obtain ⟨retrieval, enrollment, -, -, ⟨grant, granted, code⟩, carries⟩ :=
    (redeemed_as_granted (Sample.reaches_after runs (by decide))).1 job member service
  obtain ⟨publicKey, -, principals, options, -⟩ := carries grant granted code
  exact ⟨cfg, runs, job, member, grant, granted, publicKey, principals, options⟩

end Ssoossh
