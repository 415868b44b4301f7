import Ssoossh.Server.Issuance

/-!
# The record of how the extensions came out

An approval for a service keeps an account of the extensions with its decision: what
the client asked for, what the approver chose instead, what the tiers granted, what
the source network took away, and the result.  `Replays` says what a reader of the
record may expect: the result follows from the other four.

The account is put together by `narrowOptions`, which has been handed the approver's
choice, and by `recordApproverExtensions`, which runs after it and is handed its
result.  So what is recorded as chosen is what came out of all narrowing, and an empty
choice is not recorded at all.  `explanation_replays_iff` says when the record can
still be read as it is meant.
-/

namespace Ssoossh

open Interleaving List

/-! ## Reading the record -/

namespace ExtensionsExplanation

/-- The optional fields of the record as `json.Marshal` writes them: an empty one is
left out. -/
def optionalFields (account : ExtensionsExplanation) : List (List Char × Json.Value) :=
  Json.stringsField "approver_selected" account.approverSelected ++
    Json.stringsField "granted" account.granted ++
    Json.stringField "grant_source" account.grantSource ++
    Json.stringsField "removed" account.removed

/-- The approver's choice is in the encoded record. -/
def Present (account : ExtensionsExplanation) : Prop :=
  ∃ value, ("approver_selected".toList, value) ∈ account.optionalFields

theorem present_iff (account : ExtensionsExplanation) :
    account.Present ↔ account.approverSelected ≠ [] := by
  simp only [Present, optionalFields, mem_append, Json.mem_stringsField,
    Json.mem_stringField, Prod.mk.injEq]
  constructor
  · rintro ⟨value, ((⟨chosen, -⟩ | ⟨-, other, -⟩) | ⟨-, other, -⟩) | ⟨-, other, -⟩⟩
    · exact chosen
    all_goals exact absurd other (by decide)
  · intro chosen
    exact ⟨_, .inl (.inl (.inl ⟨chosen, trivial, rfl⟩))⟩

/-- **The record can be replayed**: it names what the client asked for and what the
approver chose, each within the ceiling of the type, and what came out follows from
them and the two policy stages. -/
structure Replays (account : ExtensionsExplanation) (ceiling asked : List String)
    (choice : Option (List String)) : Prop where
  requested : account.requested = intersectStrings asked ceiling
  present : account.Present ↔ choice.isSome
  selected : ∀ chosen, choice = some chosen →
    account.approverSelected = intersectStrings chosen ceiling
  effective : ∀ input, (account.Present → input = account.approverSelected) →
    (¬ account.Present → input = account.requested) →
    account.effective = subtractStrings
      (if account.grantSource ≠ "" then intersectStrings input account.granted else input)
      account.removed

end ExtensionsExplanation

/-- An evaluation names a source for the grant exactly where there is one. -/
theorem LifetimePolicyEngine.grantSource_evaluate (engine : LifetimePolicyEngine)
    (certType : CertificateType) (identity : Identity) (sourceIP : String)
    (ceiling enrollmentCeiling : Int) :
    (engine.evaluate certType identity sourceIP ceiling enrollmentCeiling).grantSource ≠ "" ↔
      (engine.evaluate certType identity sourceIP ceiling enrollmentCeiling).grantActive = true := by
  unfold evaluate
  cases engine.policyFor certType with
  | none => simp
  | some policy =>
    simp only [evaluatePolicy]
    cases policy.tiers.isEmpty with
    | true => simp
    | false =>
      simp only [Bool.not_false, if_true, iff_true]
      split_ifs <;> decide

/-- The two policy stages of a record, applied to a list. -/
theorem PolicyOutcome.replay_narrowOptions {outcome : PolicyOutcome}
    (sourced : outcome.grantSource ≠ "" ↔ outcome.grantActive = true) (input : List String) :
    subtractStrings
      (if (if outcome.grantActive then outcome.grantSource else "") ≠ "" then
        intersectStrings input (if outcome.grantActive then outcome.granted else [])
      else input) outcome.removed = input.filter outcome.permits := by
  unfold subtractStrings PolicyOutcome.permits
  cases active : outcome.grantActive with
  | true =>
    rw [active] at sourced
    simp only [if_true, if_pos (sourced.mpr rfl), intersectStrings_eq_filter, filter_filter]
    refine filter_congr fun extension _ => ?_
    rw [Bool.not_true, Bool.false_or, Bool.and_comm]
  | false => simp

namespace Approval

variable {server : Server} {session : Identity} {selection : ApprovalSelection}
variable {approval : Approval} {id : RequestID} {past : History}

/-- The account of the extensions, in terms of the lists that went in. -/
theorem extensions_explanation (server : Server) (session : Identity)
    (selection : ApprovalSelection) (approval : Approval) :
    ∃ account, (approval.explanation server session selection).extensions = some account ∧
      account.requested =
        intersectStrings approval.requested.extensions approval.policy.extensions ∧
      account.effective = (intersectStrings
        (selection.extensions.getD approval.requested.extensions)
        approval.policy.extensions).filter
          (approval.outcome server session approval.policy.enrollmentDuration).permits ∧
      account.approverSelected = (if selection.extensions.isSome then account.effective else []) ∧
      ∀ input, subtractStrings
        (if account.grantSource ≠ "" then intersectStrings input account.granted else input)
        account.removed =
          input.filter
            (approval.outcome server session approval.policy.enrollmentDuration).permits := by
  have sourced := LifetimePolicyEngine.grantSource_evaluate server.compiled.engine
    approval.row.type (approval.identity server session) approval.row.sourceIP
    approval.policy.validDuration approval.policy.enrollmentDuration
  have effective :=
    (approval.outcome server session approval.policy.enrollmentDuration).extensions_narrowOptions
      (narrowRequestedOptions approval.policy (withSelection approval.requested selection))
      approval.row.sourceIP
  cases chosen : selection.extensions with
  | none =>
    have input : (narrowRequestedOptions approval.policy
        (withSelection approval.requested selection)).extensions =
        intersectStrings approval.requested.extensions approval.policy.extensions := by
      simp [narrowRequestedOptions, withSelection, chosen]
    rw [input] at effective
    rw [explanation, chosen]
    exact ⟨_, rfl, input, effective, rfl, PolicyOutcome.replay_narrowOptions sourced⟩
  | some choice =>
    have input : (narrowRequestedOptions approval.policy
        (withSelection approval.requested selection)).extensions =
        intersectStrings choice approval.policy.extensions := by
      simp [narrowRequestedOptions, withSelection, chosen]
    rw [input] at effective
    rw [explanation, chosen]
    exact ⟨_, rfl, rfl, effective, rfl, PolicyOutcome.replay_narrowOptions sourced⟩

/-- What the configuration lets through of a type's ceiling is what the evaluation
permits. -/
theorem Holds.permitsExtension_iff (h : approval.Holds server session selection id past)
    {extension : String} (within : extension ∈ approval.policy.extensions) :
    server.permitsExtension approval.row.type (approval.identity server session)
        approval.row.sourceIP extension =
      (approval.outcome server session approval.policy.enrollmentDuration).permits extension := by
  have ceiling : (server.certOptions.extensionsFor approval.row.type).contains extension = true := by
    rw [← h.bounds.extensions]
    simpa using within
  unfold Server.permitsExtension Approval.outcome
  rw [ceiling, Bool.true_and]
  cases configured : server.compiled.engine.policyFor approval.row.type with
  | none => simp [LifetimePolicyEngine.permits_evaluate_of_none configured]
  | some => rw [LifetimePolicyEngine.permits_evaluate configured]

/-- Every extension the approver chose from the ceiling of the type comes out, and
there is at least one. -/
def ChoiceKept (server : Server) (session : Identity) (selection : ApprovalSelection)
    (approval : Approval) : Prop :=
  ∀ chosen, selection.extensions = some chosen →
    (∃ extension ∈ chosen, extension ∈ server.certOptions.extensionsFor approval.row.type) ∧
    ∀ extension ∈ chosen, extension ∈ server.certOptions.extensionsFor approval.row.type →
      server.permitsExtension approval.row.type (approval.identity server session)
        approval.row.sourceIP extension = true

/-- When the account of an approval can be replayed. -/
theorem Holds.replays_iff (h : approval.Holds server session selection id past) :
    ∃ account, (approval.explanation server session selection).extensions = some account ∧
      (account.Replays (server.certOptions.extensionsFor approval.row.type)
          approval.requested.extensions selection.extensions ↔
        approval.ChoiceKept server session selection) := by
  obtain ⟨account, recorded, requested, effective, selected, replay⟩ :=
    extensions_explanation server session selection approval
  refine ⟨account, recorded, ?_⟩
  have ceiling := h.bounds.extensions
  rw [← ceiling]
  unfold ChoiceKept
  rw [← ceiling]
  cases chosen : selection.extensions with
  | none =>
    rw [chosen] at selected effective
    have absent : ¬ account.Present := by
      rw [account.present_iff, selected]
      simp
    constructor
    · intro _ choice some
      cases some
    · intro _
      refine ⟨requested, by simp [absent], ?_, ?_⟩
      · intro choice some
        cases some
      · intro input _ fallback
        rw [fallback absent, replay, requested, effective]
        rfl
  | some choice =>
    rw [chosen] at selected effective
    replace selected : account.approverSelected = account.effective := selected
    replace effective : account.effective =
      (intersectStrings choice approval.policy.extensions).filter _ := effective
    constructor
    · intro replays extensions same
      cases same
      have present := replays.present.mpr rfl
      have kept := replays.selected choice rfl
      rw [selected, effective, filter_eq_self] at kept
      rw [account.present_iff, selected, effective, filter_eq_self.mpr kept] at present
      obtain ⟨extension, member⟩ := exists_mem_of_ne_nil _ present
      simp only [intersectStrings_eq_filter, mem_filter, contains_iff_mem] at member kept
      refine ⟨⟨extension, member⟩, ?_⟩
      intro other asked within
      rw [h.permitsExtension_iff within]
      exact kept other ⟨asked, within⟩
    · intro keeps
      obtain ⟨⟨extension, asked, within⟩, permitted⟩ := keeps choice rfl
      have kept : account.effective = intersectStrings choice approval.policy.extensions := by
        rw [effective, filter_eq_self]
        intro other member
        simp only [intersectStrings_eq_filter, mem_filter, contains_iff_mem] at member
        rw [← h.permitsExtension_iff member.2]
        exact permitted other member.1 member.2
      have present : account.Present := by
        rw [account.present_iff, selected, kept, intersectStrings_eq_filter]
        exact ne_nil_of_mem (mem_filter.mpr ⟨asked, by simpa using within⟩)
      refine ⟨requested, ?_, ?_, ?_⟩
      · simp [present]
      · intro extensions same
        cases same
        rw [selected, kept]
      · intro input fromChoice _
        rw [fromChoice present, replay, selected, kept]
        exact kept.symm.trans effective

end Approval

/-- **When the record can be replayed.**  The explanation an approval for a service
commits with its decision accounts for the extensions as `Replays` says exactly if
the approver chose nothing, or chose at least one extension of the type's ceiling and
none of those that a tier does not grant or the source network takes away. -/
theorem explanation_replays_iff {server : Server} {session : Identity}
    {selection : ApprovalSelection} {dc : DecisionContext} {id : RequestID} {now : History}
    {outcome : Except ServiceError Unit}
    (run : Prog.Runs Plausible (approve server id session dc selection).run [] now outcome)
    {grant : ServiceGrant} {decision : Decision}
    (committed : ⟨.write (.approveServiceEnrollment grant decision), .ok .committed⟩ ∈ now) :
    ∃ approval : Approval, approval.Holds server session selection id now ∧
      ∃ explanation account, decision.policyExplanation = some explanation ∧
        explanation.extensions = some account ∧
        (account.Replays (server.certOptions.extensionsFor approval.row.type)
            approval.requested.extensions selection.extensions ↔
          approval.ChoiceKept server session selection) := by
  rcases (approve_yields.runs run).2 _ committed with
    absurd | ⟨before, grown, -, approval, holds, recorded⟩
  · cases absurd
  · obtain ⟨account, extensions, replays⟩ := holds.replays_iff
    exact ⟨approval, holds.mono grown, _, account, recorded, extensions, replays⟩

/-! ## Two approvals to evaluate -/

namespace ExplanationSample

/-- Two extensions for services, of which every network loses one. -/
def server : Server :=
  .ofOptions .plain
    { service :=
        { extensions := ["permit-pty", "permit-user-rc"]
          lifetimePolicy :=
            { defaultDuration := GoTime.Duration.minute
              sourcePolicy := [{ cidr := "0.0.0.0/0", removedExtensions := ["permit-pty"] }] } } }
    rfl (CertificateOptions.fits_validDurationFor (by decide) (by decide) (by decide) (by decide))

/-- An approval with a choice of extensions. -/
def approval (choice : List String) : History × Except ServiceError Unit :=
  Sample.approval server (some choice)

end ExplanationSample

open ExplanationSample in
/-- An approval whose choice comes out whole. -/
theorem explanation_replays_whole_choice : ∃ grant decision explanation account,
      ⟨.write (.approveServiceEnrollment grant decision), .ok .committed⟩ ∈
        (approval ["permit-user-rc"]).1 ∧
      decision.policyExplanation = some explanation ∧ explanation.extensions = some account ∧
      account.Replays (server.certOptions.extensionsFor .service) [] (some ["permit-user-rc"]) := by
  obtain ⟨read, holds, explanation, account, recorded, extensions, replays⟩ :=
    explanation_replays_iff (Sample.runs_approval server (some ["permit-user-rc"]) rfl)
      (mem_of_getElem? (i := 3) rfl)
  have row := Sample.row_of_saw holds.seen
  have decoded := holds.decoded
  rw [row] at decoded
  have requested : {} = read.requested := Except.ok.inj decoded
  rw [row, ← requested] at replays
  refine ⟨_, _, explanation, account, mem_of_getElem? (i := 3) rfl, recorded, extensions, replays.mpr ?_⟩
  intro chosen same
  cases same
  rw [row]
  refine ⟨⟨_, mem_singleton_self _, by decide⟩, fun extension chosen _ => ?_⟩
  obtain rfl := mem_singleton.mp chosen
  rfl

open ExplanationSample in
/-- Both extensions are chosen and within the ceiling.  The record says that the
approver chose the one that was left. -/
theorem explanation_rewrites_choice : (approval ["permit-pty", "permit-user-rc"]).2 = .ok () ∧
      ∃ grant decision explanation account,
        ⟨.write (.approveServiceEnrollment grant decision), .ok .committed⟩ ∈
          (approval ["permit-pty", "permit-user-rc"]).1 ∧
        decision.policyExplanation = some explanation ∧
        explanation.extensions = some account ∧
        account.approverSelected = ["permit-user-rc"] ∧
        ¬ account.Replays (server.certOptions.extensionsFor .service) []
          (some ["permit-pty", "permit-user-rc"]) := by
  refine ⟨by rfl, _, _, _, _, mem_of_getElem? (i := 3) rfl, rfl, rfl, rfl, ?_⟩
  intro replays
  exact absurd (replays.selected _ rfl) (by decide)

end Ssoossh
