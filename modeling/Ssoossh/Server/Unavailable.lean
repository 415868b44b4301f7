import Ssoossh.Server.Lifecycle

/-!
# When a certificate is unavailable

A `Wait` that finds the row approved but nothing in its cache gives up: the
certificate is not stored anywhere else.  The comment on that branch says that this
happens only after a restart.  It also happens in a race.

* On **one process** the reply is cached before the row is marked, but `Wait` looks
  into the cache before it reads the row, and the whole of the reply can be handled in
  between.
* On **another process** the certificate comes as a message, but the loop of `Wait`
  reads the row before it takes the message.

For each there is a condition on the schedule under which it does not happen.
-/

namespace Ssoossh

open Interleaving Prog Relational

/-! ## Approved rows -/

/-- The row of a request is approved. -/
def Shared.Approved (s : Shared) (id : RequestID) : Prop :=
  ∃ row, s.row id = some row ∧ row.status = .approved

instance (s : Shared) (id : RequestID) : Decidable (s.Approved id) :=
  decidable_of_iff ((s.row id).any (·.status == .approved) = true) (by
    unfold Shared.Approved
    cases s.row id <;> simp)

/-- The action that approves a request. -/
def Act.approves (id : RequestID) : Act → Bool
  | .write (.markResolved id' .approved _ _) => id' == id
  | _ => false

variable {tid : Tid} {s : Shared} {action : Act}

/-- **Only `markResolved` approves.** -/
theorem Effect.approves {s' : Shared} {answer : action.Resp} {id : RequestID}
    (effect : Effect tid s action answer s') (owed : Owes tid action s) (after : s'.Approved id) :
    s.Approved id ∨ action.approves id = true := by
  cases effect with
  | @write statement db result done =>
    obtain ⟨row', found', approved⟩ := after
    rw [Shared.row, Shared.db_note] at found'
    rcases Statement.row_origin done found' with rfl | ⟨row, found, moves⟩
    · have pending : row'.status = .pending := owed.1
      rw [pending] at approved
      cases approved
    · rcases moves with same | pending | ⟨-, resolves⟩
      · exact .inl ⟨row, found, same.symm.trans approved⟩
      · obtain ⟨moved, there, related⟩ := (Statement.steps owed.lawful done).requests id row found
        cases there.symm.trans found'
        have impossible := related.status
        rw [pending, approved] at impossible
        rcases impossible with same | moves
        · cases same
        · cases moves
      · rw [approved, Table.find?_key found] at resolves
        cases statement with
        | markResolved id' =>
          obtain ⟨rfl, rfl⟩ := resolves
          exact .inr (beq_self_eq_true id')
        | failStranded => cases resolves.2
        | _ => exact resolves.elim
  | _ => exact .inl after

/-! ## What the parts of `Wait` fail with -/

/-- Where a `Wait` attends to messages: it takes one, or confirms the one it took. -/
def Act.attends : Act → Bool
  | .receive _ => true
  | .read (.request (.confirm _) _) => true
  | .withinWindow _ _ _ => true
  | .pollPause _ _ => true
  | _ => false

variable {Q : Call ⊕ Result → Shared → Prop}

section Failures

variable {server : Server} {id : RequestID}

/-- The failures that say nothing about the request: the database, the context, the
shutdown, and that there is no such request. -/
def ServiceError.Passing : ServiceError → Prop
  | .internal _ => True
  | .canceled => True
  | .shuttingDown => True
  | .notFound _ => True
  | _ => False

/-- A part of `Wait` that does not give up. -/
abbrev Persists {α : Type} (P : Act → Prop) (program : Service α) : Prop :=
  Fails P ServiceError.Passing program

theorem perform_persists (elsewhere : action.attends = false) :
    Persists (·.attends = false) (perform action) := fails_perform elsewhere

theorem notifyWaiter_persists {outcome : WaitOutcome} :
    Persists (·.attends = false) (notifyWaiter id outcome) :=
  (perform_persists rfl).bind fun _ => (perform_persists rfl).bind fun _ =>
    (perform_persists rfl).bind fun _ => fails_pure

theorem expire_persists : Persists (·.attends = false) (expire id) := by
  refine (perform_persists rfl).bind fun now => (perform_persists rfl).bind fun answer => ?_
  split
  · exact notifyWaiter_persists
  · exact fails_pure

theorem enrollmentExpiry_persists {code : String} :
    Persists (·.attends = false) (enrollmentExpiry code) := by
  unfold enrollmentExpiry
  split_ifs
  · exact fails_pure
  · refine (perform_persists rfl).bind fun answer => ?_
    split <;> exact fails_pure

theorem ttlCutoffFor_persists {certType : CertificateType} :
    Persists (·.attends = false) (server.ttlCutoffFor certType) := by
  unfold Server.ttlCutoffFor
  split_ifs
  · exact fails_pure
  · exact (perform_persists rfl).bind fun _ => fails_pure

variable {row : CertificateRequest}

/-- A row that is not approved is no reason to give up. -/
theorem reconcileStatus_persists (waiting : row.status ≠ .approved) :
    Persists (·.attends = false) (reconcileStatus server id row) := by
  unfold reconcileStatus
  split
  · refine ttlCutoffFor_persists.bind fun cutoff => ?_
    split_ifs
    · exact expire_persists.bind fun _ => fails_pure
    · exact fails_pure
  · exact fails_pure
  · rename_i approved
    exact (waiting approved).elim
  · exact enrollmentExpiry_persists.bind fun _ => notifyWaiter_persists.bind fun _ => fails_pure
  · exact notifyWaiter_persists.bind fun _ => fails_pure

theorem expiryTimer_persists : Persists (·.attends = false) (expiryTimer server row) := by
  unfold expiryTimer
  split_ifs
  · exact fails_pure
  · exact (perform_persists rfl).bind fun _ => fails_pure

theorem acceptWake_persists {message : OutcomeMessage} :
    Persists (fun _ => True) (acceptWake id message row) := by
  unfold acceptWake
  split_ifs
  · exact (fails_perform trivial).bind fun _ => (fails_perform trivial).bind fun _ => fails_pure
  · exact fails_pure

theorem tryHandleWakeMessage_persists {payload : Option OutcomeMessage} :
    Persists (fun _ => True) (tryHandleWakeMessage id payload) := by
  unfold tryHandleWakeMessage
  split
  · exact fails_pure
  · split_ifs
    · refine (fails_perform trivial).bind fun answer => ?_
      split
      · split_ifs
        · exact (fails_perform trivial).bind fun _ => fails_pure
        · exact acceptWake_persists
      · exact fails_pure
    · exact fails_pure

theorem awaitStatus_persists {message : OutcomeMessage} {current : CertificateRequest}
    {deadline : Int} :
    Persists (fun _ => True) (awaitStatus id message current deadline) := by
  refine (fails_perform trivial).bind fun inTime => ?_
  cases inTime with
  | false => exact acceptWake_persists
  | true =>
    refine (fails_perform trivial).bind fun elapsed => ?_
    cases elapsed with
    | false => exact acceptWake_persists
    | true =>
      refine (fails_perform trivial).bind fun answer => ?_
      split
      · split_ifs
        · exact acceptWake_persists
        · exact fails_pure
      · exact acceptWake_persists

theorem wait_persists : Persists (fun _ => True) (wait id) := by
  refine (fails_perform trivial).bind fun cached => ?_
  cases cached with
  | some => exact fails_pure
  | none =>
    refine (fails_perform trivial).bind fun opened => ?_
    cases opened with
    | ok => exact fails_pure
    | error => exact fails_throw trivial

/-- What `Wait` does where it blocks. -/
def receiving (id : RequestID) (armed : Bool) : Service Next := do
  match ← perform (.receive armed) with
  | .message payload => tryHandleWakeMessage id payload
  | .closed => throw .shuttingDown
  | .canceled => throw .canceled
  | .timer => pure .again

/-- What `Wait` does with the row it has read. -/
def reconciled (server : Server) (id : RequestID) (row : CertificateRequest) : Service Next := do
  let block ← reconcileStatus server id row
  if block then do
    let armed ← expiryTimer server row
    receiving id armed
  else pure .again

theorem reconciled_persists (waiting : row.status ≠ .approved) :
    Persists (fun _ => True) (reconciled server id row) := by
  refine Fails.bind ((reconcileStatus_persists waiting).loosen fun _ _ => trivial) fun block => ?_
  cases block with
  | false => exact fails_pure
  | true =>
    refine Fails.bind (expiryTimer_persists.loosen fun _ _ => trivial) fun armed => ?_
    refine (fails_perform trivial).bind fun received => ?_
    cases received with
    | message => exact tryHandleWakeMessage_persists
    | closed | canceled => exact fails_throw trivial
    | timer => exact fails_pure

/-- What `Wait` does with the answer to its read of the row. -/
def looked (server : Server) (id : RequestID) :
    Except DBError (Option CertificateRequest) → Service Next
  | .ok (some row) => reconciled server id row
  | .ok none => throw (.notFound ("certificate request " ++ server.ext.quote id))
  | .error e => throw (.internal ("failed to look up certificate request" ++ ": " ++ e.message))

theorem looked_persists {answer : Except DBError (Option CertificateRequest)}
    (waiting : ∀ row, answer = .ok (some row) → row.status ≠ .approved) :
    Persists (fun _ => True) (looked server id answer) := by
  unfold looked
  split
  · exact reconciled_persists (waiting _ rfl)
  · exact fails_throw trivial
  · exact fails_throw trivial

/-- **A pass of the loop of `Wait`, action by action**: the cache, then the row. -/
theorem waitLoop_run : (waitLoop server id).run =
    .act (.cacheGet id) fun
      | some outcome => .ret (.ok (.done outcome))
      | none => .act (.read (.request .loop id)) fun answer => (looked server id answer).run := by
  show Prog.act _ _ = _
  congr 1
  funext cached
  cases cached with
  | some => rfl
  | none =>
    show Prog.act _ _ = _
    congr 1
    funext answer
    cases answer with
    | error => rfl
    | ok row => cases row <;> rfl

/-- How a pass of `Wait` goes on. -/
def turn (id : RequestID) : Except ServiceError Next → Prog Act Act.Resp (Call ⊕ Result)
  | .ok .again => pure (.inl (.waitLoop id))
  | .ok (.confirm message current deadline) => pure (.inl (.awaitStatus id message current deadline))
  | .ok (.done outcome) => pure (.inr (.waited (.ok outcome)))
  | .error e => pure (.inr (.waited (.error e)))

/-- A `Wait` goes on, or ends in an outcome or in a failure that says nothing about the
request. -/
def Given (outcome : Call ⊕ Result) : Prop :=
  ∀ e, outcome = .inr (.waited (.error e)) → e.Passing

/-- A pass that does not give up. -/
theorem given_turn {C : Contract (system server)} {outcome : Except ServiceError Next}
    (persists : ∀ e, outcome = .error e → e.Passing) (obeys : C.Obeys tid Q (turn id outcome) s) :
    C.Obeys tid (fun outcome s => Q outcome s ∧ Given outcome) (turn id outcome) s := by
  cases outcome with
  | error e =>
    refine fun s' moved stayed inv => ⟨obeys s' moved stayed inv, fun e' same => ?_⟩
    cases same
    exact persists e rfl
  | ok next =>
    cases next <;>
      exact fun s' moved stayed inv => ⟨obeys s' moved stayed inv, nofun⟩

/-- A program that does not give up, whatever the others do. -/
theorem given_of_persists {C : Contract (system server)} {program : Service Next}
    (persists : Persists (fun _ => True) program) (inv : C.Inv s)
    (obeys : C.Obeys tid Q (program.run >>= turn id) s) :
    C.Obeys tid (fun outcome s => Q outcome s ∧ Given outcome) (program.run >>= turn id) s :=
  Contract.Obeys.through (N := fun _ => True) (fun _ _ _ => trivial)
    (fun _ _ _ _ _ _ => trivial) persists obeys inv trivial
    fun _ _ fails _ _ rest => given_turn fails rest

end Failures

/-! ## One process -/

/-- Where a `Wait` stands that has missed the cache: it is about to read the row. -/
def Act.looksUp (id : RequestID) : Act → Bool
  | .read (.request .loop id') => id' == id
  | _ => false

/-- The action of `EvictResolved`. -/
def Act.evicts : Act → Bool
  | .evict _ => true
  | _ => false

/-- A step of the waiter's process, where that evicts nothing, and that does not approve
the request between the waiter's look into the cache and its look at the row. -/
def Unraced (id : RequestID) (waiter : Tid) (heads : Tid → Option Act) (tid : Tid)
    (action : Act) : Prop :=
  tid.process = waiter.process ∧ action.evicts = false ∧
    (action.approves id = true → (heads waiter).any (·.looksUp id) = false)

instance (id : RequestID) (waiter : Tid) (heads : Tid → Option Act) (tid : Tid) (action : Act) :
    Decidable (Unraced id waiter heads tid action) := by
  unfold Unraced
  infer_instance

/-- What was told is cached, and so is the outcome of an approved request. -/
structure Shared.Warm (process : Nat) (id : RequestID) (s : Shared) : Prop where
  cached : ∀ told ∈ s.told, s.resolved told.process told.requestID ≠ none
  approved : s.Approved id → s.resolved process id ≠ none

section OneProcess

variable {server : Server} {id : RequestID} {waiter : Tid}

/-- **A step of one process keeps its cache warm.** -/
theorem Effect.warm {heads : Tid → Option Act} {s' : Shared} {answer : action.Resp}
    (warm : s.Warm waiter.process id) (owed : Owes tid action s)
    (unraced : Unraced id waiter heads tid action) (effect : Effect tid s action answer s') :
    s'.Warm waiter.process id := by
  obtain ⟨here, kept, -⟩ := unraced
  have approves : s'.Approved id → s.Approved id ∨ action.approves id = true :=
    effect.approves owed
  cases effect with
  | read | cacheGet | quiet => exact warm
  | subscribe | publishWake | publishJob | receive => exact ⟨warm.cached, warm.approved⟩
  | evict => cases kept
  | @cachePut site id' outcome =>
    have still {p : Nat} {k : RequestID} (there : s.resolved p k ≠ none) :
        (s.cachePut tid.process id' outcome).resolved p k ≠ none := by
      simp only [Shared.cachePut]
      split_ifs
      · exact Option.some_ne_none _
      · exact there
    refine ⟨fun told member => ?_, fun approved => still (warm.approved approved)⟩
    rcases List.mem_cons.mp member with rfl | old
    · simp [Shared.cachePut]
    · exact still (warm.cached told old)
  | @write statement db result done =>
    refine ⟨?_, fun after => ?_⟩
    · rw [Shared.told_note, Shared.resolved_note]
      exact warm.cached
    · rw [Shared.resolved_note]
      rcases approves after with before | marks
      · exact warm.approved before
      · -- what is marked was told before, on this process
        unfold Act.approves at marks
        split at marks
        · rename_i same
          cases same
          obtain ⟨-, outcome, -, told⟩ := owed
          have cached := warm.cached _ told
          rw [here, eq_of_beq marks] at cached
          exact cached
        · cases marks

/-- The contract of the server's life, on one process and without the race. -/
def unraced (server : Server) (id : RequestID) (waiter : Tid) :
    (lifecycle server).Refinement where
  ok heads _ tid action _ := Unraced id waiter heads tid action
  Inv := Shared.Warm waiter.process id
  Rel _ _ := True
  Stay tid head s s' := tid = waiter → head.any (·.looksUp id) = true → s'.Approved id →
    s.Approved id
  refl _ := trivial
  trans _ _ := trivial
  stay_refl _ _ _ _ _ approved := approved
  stay_trans h h' same stands approved := h same stands (h' same stands approved)
  sound inv warm _ met owed done := by
    have effect := effect_of_exec done
    refine ⟨effect.warm warm owed met, trivial, fun other _ same stands after => ?_⟩
    rcases effect.approves owed after with before | marks
    · exact before
    · subst same
      rw [met.2.2 marks] at stands
      cases stands

/-- **A waiter that looks at the row right after its cache does not give up.** -/
theorem waitLoop_given
    (obeys : ((lifecycle server).refine (unraced server id waiter)).Obeys waiter Q
      ((waitLoop server id).run >>= turn id) s) :
    ((lifecycle server).refine (unraced server id waiter)).Obeys waiter
      (fun outcome s => Q outcome s ∧ Given outcome) ((waitLoop server id).run >>= turn id) s := by
  rw [waitLoop_run] at obeys ⊢
  intro s₁ moved stayed inv
  obtain ⟨pre, after⟩ := obeys s₁ moved stayed inv
  refine ⟨pre, fun heads choice s₂ cached met done => ?_⟩
  have rest := after heads choice s₂ cached met done
  have inv₂ := (Contract.sound _ inv met pre done).1
  cases cached with
  | some => exact given_turn (nofun) rest
  | none =>
    -- nothing is cached, so the row is not approved here
    obtain ⟨rfl, missed⟩ := (effect_of_exec done).of_cacheGet
    have waiting : ¬ s₂.Approved id := fun approved => inv₂.2.approved approved missed
    intro s₃ moved stayed inv
    obtain ⟨pre, after⟩ := rest s₃ moved stayed inv
    refine ⟨pre, fun heads choice s₄ answer met done => ?_⟩
    have rest := after heads choice s₄ answer met done
    have inv₄ := (Contract.sound _ inv met pre done).1
    -- nor is it when it is read
    have still : ¬ s₃.Approved id := fun approved =>
      waiting (stayed.2 rfl (beq_self_eq_true id) approved)
    refine given_of_persists (looked_persists fun row same => ?_) inv₄ rest
    obtain ⟨-, read⟩ := (effect_of_exec done).of_read
    exact fun approved => still ⟨row, (read _ same).symm, approved⟩

/-- No pass of the waiter gives up. -/
theorem given_body {current : Call} (waits : current.waitsFor = some id)
    (inv : ((lifecycle server).refine (unraced server id waiter)).Inv s)
    (obeys : ((lifecycle server).refine (unraced server id waiter)).Obeys waiter Q
      (body server current) s) :
    ((lifecycle server).refine (unraced server id waiter)).Obeys waiter
      (fun outcome s => Q outcome s ∧ Given outcome) (body server current) s := by
  cases current with
  | wait =>
    cases waits
    exact given_of_persists wait_persists inv obeys
  | waitLoop =>
    cases waits
    exact waitLoop_given obeys
  | awaitStatus =>
    cases waits
    exact given_of_persists awaitStatus_persists inv obeys
  | _ => cases waits

/-- The calls of the server, with what the waiter is promised. -/
def unracedCalls (server : Server) (id : RequestID) (waiter : Tid) :
    ((lifecycle server).refine (unraced server id waiter)).Calls :=
  ((lifecycleCalls server).refine (unraced server id waiter)).extend
    (fun _ _ _ _ => True)
    (fun tid origin result _ => tid = waiter → origin.waitsFor = some id → Given (.inr result))
    (fun _ _ => trivial)
    (by
      intro tid origin current s ready _ inv obeys
      by_cases concerned : tid = waiter ∧ origin.waitsFor = some id
      · obtain ⟨rfl, waits⟩ := concerned
        refine Contract.Obeys.weaken (given_body ?_ inv obeys) fun outcome _ _ given => ?_
        · rcases ready.1 with rfl | ⟨-, same⟩
          · exact waits
          · exact same.trans waits
        · cases outcome with
          | inl => exact ⟨given.1, trivial⟩
          | inr => exact ⟨given.1, fun _ _ => given.2⟩
      · refine obeys.weaken fun outcome _ _ ends => ⟨ends, ?_⟩
        cases outcome with
        | inl => trivial
        | inr => exact fun same waits => (concerned ⟨same, waits⟩).elim)

end OneProcess

/-- The steps of one process without the race. -/
abbrev UnracedSteps (server : Server) (id : RequestID) (waiter : Tid) :
    SystemConfig → SystemLabel → Prop :=
  ((lifecycleCalls server).refine (unraced server id waiter)).Allowed

namespace Sample

/-- A client waits for the signer, on a given process. -/
def listening (process : Nat) : List SystemLabel :=
  signing ++ uninterrupted ⟨process, 3⟩ (.wait "request") [.done, .done, .done]

/-- It has looked into the cache, at the row and at the clock, and blocks. -/
def blocked (process : Nat) : List SystemLabel :=
  listening process ++ [.done, .done, .time 2].map (.run ⟨process, 3⟩)

/-- The signer's reply. -/
def reply : SignedReply := { requestID := "request", type := .user, certificate := "signed" }

/-- It is handled. -/
def handled : List SystemLabel :=
  uninterrupted ⟨0, 4⟩ (.handle reply)
    [.done, .text "certificate", .done, .time 3, .done, .done, .time 3, .done]

/-- Whether a reply was handled. -/
def isHandled (tid : Tid) (cfg : SystemConfig) : Option SignedReply :=
  match cfg.threads tid with
  | some ⟨.handle reply, _, .ret (.inr (.finished (.ok ())))⟩ => some reply
  | _ => none

variable {cfg : SystemConfig}

theorem returned_of_isHandled {tid : Tid} {reply : SignedReply}
    (isOver : isHandled tid cfg = some reply) :
    cfg.Returned tid (.handle reply) (.finished (.ok ())) := by
  unfold isHandled at isOver
  split at isOver
  · rename_i present
    cases isOver
    exact ⟨_, present, rfl, rfl⟩
  · cases isOver

/-- How a `Wait` has ended. -/
def ended (tid : Tid) (cfg : SystemConfig) : Option (RequestID × Except ServiceError WaitOutcome) :=
  match cfg.threads tid with
  | some ⟨.wait id, _, .ret (.inr (.waited outcome))⟩ => some (id, outcome)
  | _ => none

theorem returned_of_ended {tid : Tid} {id : RequestID} {outcome : Except ServiceError WaitOutcome}
    (isOver : ended tid cfg = some (id, outcome)) :
    cfg.Returned tid (.wait id) (.waited outcome) := by
  unfold ended at isOver
  split at isOver
  · rename_i present
    cases isOver
    exact ⟨_, present, rfl, rfl⟩
  · cases isOver

/-- Whether a step is free of the race. -/
def unracedStep (waiter : Tid) (cfg : SystemConfig) : SystemLabel → Bool
  | .spawn _ call => call.external
  | .run tid _ => (cfg.heads tid).all fun action =>
    decide (Unraced "request" waiter cfg.heads tid action)

theorem unracedSteps_of_step {waiter : Tid} {label : SystemLabel}
    (passed : unracedStep waiter cfg label = true) :
    UnracedSteps server "request" waiter cfg label := by
  cases label with
  | spawn => exact passed
  | run tid =>
    intro action next
    rw [unracedStep, next] at passed
    have now : Unraced "request" waiter cfg.heads tid action := of_decide_eq_true passed
    exact ⟨trivial, now⟩

end Sample

/-- **A live process loses no certificate**, if it does not mark a request approved just
when the waiter has looked into the cache and not yet at the row: the waiter is never
told that the certificate is unavailable. -/
theorem wait_given_unraced {server : Server} {id : RequestID} {waiter : Tid}
    {cfg : SystemConfig} (run : Reaches (system server) (UnracedSteps server id waiter) start cfg) :
    ¬ cfg.Returned waiter (.wait id) (.waited (.error (.certificateUnavailable id))) := by
  intro returned
  have warm : (start.shared).Warm waiter.process id :=
    ⟨fun _ member => (by cases member), fun ⟨row, found, _⟩ => (by cases found)⟩
  have held := (unracedCalls server id waiter).reaches run
    (Contract.Calls.holds_idle _ ⟨Shared.sound_empty, warm⟩ fun _ => rfl)
  exact (held.post returned).2 rfl rfl _ rfl

/-- A waiter that blocks gets its certificate. -/
theorem wait_given_blocked : ∃ cfg outcome,
    Reaches (system Sample.server) (UnracedSteps Sample.server "request" ⟨0, 3⟩) start cfg ∧
      cfg.Returned ⟨0, 3⟩ (.wait "request") (.waited (.ok outcome)) ∧
      outcome.certificate = "signed" ∧
      ¬ cfg.Returned ⟨0, 3⟩ (.wait "request")
        (.waited (.error (.certificateUnavailable "request"))) := by
  have ran : ((system Sample.server).runChecked (Sample.unracedStep ⟨0, 3⟩) start
      (Sample.blocked 0 ++ Sample.handled ++
        [.message, .done, .time 4, .done].map (.run ⟨0, 3⟩))).map (Sample.ended ⟨0, 3⟩) =
      some (some ("request", .ok
        { status := .approved, certificate := "signed", resolvedAt := 4 })) := by
    rfl
  obtain ⟨cfg, runs, isOver⟩ := Option.map_eq_some_iff.mp ran
  have run := Reaches.of_runChecked (fun _ _ => Sample.unracedSteps_of_step) _ runs
  exact ⟨cfg, _, run, Sample.returned_of_ended isOver, rfl, wait_given_unraced run⟩

/-- A step of one process on which nothing is evicted. -/
def alone (process : Nat) : SystemLabel → Bool
  | .spawn _ .evictResolved => false
  | .spawn tid _ => tid.process == process
  | .run _ _ => true

/-- All on one process that evicts nothing: the reply is handled between the waiter's look
into the cache and its look at the row. -/
theorem wait_unavailable_raced : ∃ cfg,
    Reaches (system Sample.server)
      (fun cfg label => Steps Sample.server cfg label ∧ alone 0 label = true) start cfg ∧
      cfg.Returned ⟨0, 4⟩ (.handle Sample.reply) (.finished (.ok ())) ∧
      cfg.Returned ⟨0, 3⟩ (.wait "request")
        (.waited (.error (.certificateUnavailable "request"))) := by
  have ran : (Sample.after (Sample.listening 0 ++ [.run ⟨0, 3⟩ .done] ++ Sample.handled ++
      [.run ⟨0, 3⟩ .done])).map (fun cfg => (Sample.isHandled ⟨0, 4⟩ cfg, Sample.ended ⟨0, 3⟩ cfg)) =
      some (some Sample.reply, some ("request", .error (.certificateUnavailable "request"))) := by
    rfl
  obtain ⟨cfg, runs, seen⟩ := Option.map_eq_some_iff.mp ran
  obtain ⟨first, second⟩ := Prod.mk.inj seen
  refine ⟨cfg, ?_, Sample.returned_of_isHandled first, Sample.returned_of_ended second⟩
  refine Reaches.of_runLabels _ (fun label member cfg => ?_) runs
  have checked := List.all_eq_true.mp
    (show List.all _ (fun label => Sample.external label && alone 0 label) = true by decide) label
    member
  rw [Bool.and_eq_true] at checked
  refine ⟨?_, checked.2⟩
  cases label with
  | spawn => exact checked.1
  | run => exact fun _ _ => trivial

end Ssoossh
