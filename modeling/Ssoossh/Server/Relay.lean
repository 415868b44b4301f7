import Ssoossh.Server.Agreement
import Ssoossh.Server.Unavailable

/-!
# Certificates from another process

A `Wait` on one process is woken by a message from the process that handles the
signer's reply.  It subscribes before it first reads the row, so that a message that
comes early waits in its channel.  But the loop reads the row before it looks into the
channel, and an approved row that is not in the cache makes it give up: whether it
does depends on when the other process marks the row.

It does not, where the row is marked while the waiter attends to the message
(`poised`), and what follows is not cut short by a timer, a cancelled context or a
failed read (`prompt`).
-/

namespace Ssoossh

open Interleaving Prog Relational GoTime Option

/-! ## The condition -/

/-- Whether a call listens on a topic. -/
def Shared.listens (s : Shared) (tid : Tid) (topic : String) : Bool :=
  (s.channels tid).any (·.topic == topic)

/-- Whether the next message of a channel says that the request was approved. -/
def Shared.wakes (s : Shared) (tid : Tid) : Bool :=
  match (s.channels tid).bind (·.queue.head?) with
  | some (some message) => message.status == .approved
  | _ => false

variable {s : Shared} {tid : Tid} {topic : String}

theorem Shared.listens_iff :
    s.listens tid topic = true ↔ ∃ channel, s.channels tid = some channel ∧ channel.topic = topic := by
  unfold listens
  cases s.channels tid <;> simp

theorem Shared.wakes_iff : s.wakes tid = true ↔ ∃ topic message queue delivered,
      s.channels tid = some ⟨topic, some message :: queue, delivered⟩ ∧
        message.status = .approved := by
  unfold wakes
  cases s.channels tid with
  | none => simp
  | some channel =>
    obtain ⟨topic, queue, delivered⟩ := channel
    rcases queue with _ | ⟨_ | message, queue⟩
    · simp
    · simp
    · simp

/-- Where a waiter attends to the message: it is about to take it, or confirms it. -/
def Shared.attending (s : Shared) (id : RequestID) (waiter : Tid) : Act → Bool
  | .receive _ => s.wakes waiter
  | .read (.request (.confirm .approved) id') => id' == id
  | .withinWindow id' .approved _ => id' == id
  | .pollPause id' .approved => id' == id
  | _ => false

/-- Whether a waiter listens and attends to the message. -/
def poised (id : RequestID) (waiter : Tid) (head : Option Act) (s : Shared) : Bool :=
  s.listens waiter id && head.any (s.attending id waiter)

variable {action : Act}

theorem attends_of_attending {id : RequestID} {waiter : Tid}
    (attending : s.attending id waiter action = true) : action.attends = true := by
  unfold Shared.attending at attending
  split at attending
  · rfl
  · rfl
  · rfl
  · rfl
  · cases attending

/-- Whether the environment lets a waiter go on: no timer, no end of the window, no
cancelled pause and no failed read. -/
def prompt : Act → Choice → Bool
  | .receive _, .timer => false
  | .withinWindow _ _ deadline, .time t => Time.before t deadline
  | .pollPause _ _, .canceled => false
  | .read (.request (.confirm _) _), .fail _ _ => false
  | _, _ => true

/-- All that waiters are notified of is one certificate. -/
def Act.Tells (id : RequestID) (certificate : String) : Act → Prop
  | .cachePut .notify id' outcome => id' = id →
    outcome.status = .approved ∧ outcome.certificate = certificate
  | _ => True

/-- A step in order: the request is resolved with one certificate, it is marked approved
by another call while the waiter attends to the message, and then the waiter is let go on. -/
def Orderly (id : RequestID) (certificate : String) (waiter : Tid) (heads : Tid → Option Act)
    (s : Shared) (tid : Tid) (action : Act) (choice : Choice) : Prop :=
  action.Tells id certificate ∧
  (action.approves id = true → tid ≠ waiter ∧ poised id waiter (heads waiter) s = true) ∧
  (tid = waiter → s.Approved id → prompt action choice = true)

instance (id : RequestID) (certificate : String) (action : Act) :
    Decidable (action.Tells id certificate) := by
  cases action with
  | cachePut cause id' outcome =>
    cases cause with
    | notify => exact inferInstanceAs (Decidable (id' = id → _ ∧ _))
    | _ => exact .isTrue trivial
  | _ => exact .isTrue trivial

instance (id : RequestID) (certificate : String) (waiter : Tid) (heads : Tid → Option Act)
    (s : Shared) (tid : Tid) (action : Act) (choice : Choice) :
    Decidable (Orderly id certificate waiter heads s tid action choice) := by
  unfold Orderly
  infer_instance

/-! ## The invariant -/

/-- All that was told is the certificate, and a request is approved only once the waiter
has subscribed. -/
structure Shared.Relayed (id : RequestID) (certificate : String) (waiter : Tid) (s : Shared) :
    Prop where
  told : ∀ told ∈ s.told, told.requestID = id →
    told.outcome.status = .approved ∧ told.outcome.certificate = certificate
  subscribed : s.Approved id → s.channels waiter ≠ none

section Keeping

variable {id : RequestID} {certificate : String} {waiter tid : Tid} {heads : Tid → Option Act}
variable {s s' : Shared} {action : Act} {answer : action.Resp} {choice : Choice}

theorem Shared.Evolves.channels_ne_none (evolved : s.Evolves s')
    (there : s.channels waiter ≠ none) : s'.channels waiter ≠ none := by
  obtain ⟨channel, found⟩ := ne_none_iff_exists'.mp there
  obtain ⟨channel', found', -⟩ := evolved.channels waiter channel found
  rw [found']
  exact some_ne_none _

theorem Shared.Evolves.listens (evolved : s.Evolves s')
    (listening : s.listens waiter topic = true) : s'.listens waiter topic = true := by
  obtain ⟨channel, found, same⟩ := Shared.listens_iff.mp listening
  obtain ⟨channel', found', topic', -⟩ := evolved.channels waiter channel found
  exact Shared.listens_iff.mpr ⟨channel', found', topic'.trans same⟩

/-- Nobody else takes a waiter's message away, or puts one before it. -/
theorem Effect.wakes (effect : Effect tid s action answer s') (apart : waiter ≠ tid)
    (waking : s.wakes waiter = true) : s'.wakes waiter = true := by
  obtain ⟨topic, message, queue, delivered, found, approved⟩ := Shared.wakes_iff.mp waking
  refine Shared.wakes_iff.mpr ?_
  cases effect with
  | write =>
    rw [Shared.channels_note]
    exact ⟨topic, message, queue, delivered, found, approved⟩
  | subscribe | receive =>
    exact ⟨topic, message, queue, delivered, (Function.update_of_ne apart _ _).trans found, approved⟩
  | @publishWake topic' payload =>
    simp only [Shared.publishWake, found, map_some]
    split_ifs
    · exact ⟨topic, message, queue ++ [payload], payload :: delivered, rfl, approved⟩
    · exact ⟨topic, message, queue, delivered, rfl, approved⟩
  | _ => exact ⟨topic, message, queue, delivered, found, approved⟩

theorem Effect.relayed (relayed : s.Relayed id certificate waiter)
    (owed : Owes tid action s) (orderly : Orderly id certificate waiter heads s tid action choice)
    (effect : Effect tid s action answer s') : s'.Relayed id certificate waiter := by
  obtain ⟨tells, marks, -⟩ := orderly
  have evolved := effect.evolves_of_owes owed
  refine ⟨?_, fun after => ?_⟩
  · cases effect with
    | @cachePut site id' outcome =>
      intro told member about
      rcases List.mem_cons.mp member with rfl | old
      · cases site with
        | notify => exact tells about
        | accept =>
          obtain ⟨⟨told, member, same, status, certificate'⟩, -⟩ := owed
          rw [← status, ← certificate']
          exact relayed.told told member (same.trans about)
      · exact relayed.told told old about
    | write =>
      rw [Shared.told_note]
      exact relayed.told
    | _ => exact relayed.told
  · refine evolved.channels_ne_none ?_
    rcases effect.approves owed after with before | approves
    · exact relayed.subscribed before
    · have attending := (marks approves).2
      rw [poised, Bool.and_eq_true] at attending
      obtain ⟨channel, found, -⟩ := Shared.listens_iff.mp attending.1
      rw [found]
      exact some_ne_none _

end Keeping

/-! ## The contract -/

section Relaying

variable {server : Server} {id : RequestID} {certificate : String} {waiter : Tid}

/-- What a waiter can expect of the others: while it attends to nothing, the request is not
approved; while it waits for a message, only once that is there; the message stays, and
so does the subscription. -/
structure Undisturbed (id : RequestID) (waiter : Tid) (head : Option Act) (s s' : Shared) :
    Prop where
  calm : head.all (·.attends = false) = true → s'.Approved id → s.Approved id
  receiving : ∀ armed, head = some (.receive armed) → s'.Approved id →
    s.Approved id ∨ s'.wakes waiter = true
  wakes : s.wakes waiter = true → s'.wakes waiter = true
  listens : s.listens waiter id = true → s'.listens waiter id = true

theorem Undisturbed.refl (head : Option Act) (s : Shared) : Undisturbed id waiter head s s :=
  ⟨fun _ h => h, fun _ _ h => .inl h, fun h => h, fun h => h⟩

theorem Undisturbed.trans {head : Option Act} {a b c : Shared}
    (h : Undisturbed id waiter head a b) (h' : Undisturbed id waiter head b c) :
    Undisturbed id waiter head a c where
  calm still approved := h.calm still (h'.calm still approved)
  receiving armed stands approved := by
    rcases h'.receiving armed stands approved with before | waking
    · exact (h.receiving armed stands before).imp_right h'.wakes
    · exact .inr waking
  wakes waking := h'.wakes (h.wakes waking)
  listens listening := h'.listens (h.listens listening)

variable {heads : Tid → Option Act} {s' : Shared} {choice : Choice}

/-- An orderly step of another call does not disturb a waiter. -/
theorem Effect.undisturbed {answer : action.Resp} (effect : Effect tid s action answer s')
    (owed : Owes tid action s) (apart : waiter ≠ tid)
    (orderly : Orderly id certificate waiter heads s tid action choice) :
    Undisturbed id waiter (heads waiter) s s' := by
  have poisedOf (after : s'.Approved id) :
      s.Approved id ∨ (heads waiter).any (s.attending id waiter) = true := by
    refine (effect.approves owed after).imp_right fun marks => ?_
    have ready := (orderly.2.1 marks).2
    rw [poised, Bool.and_eq_true] at ready
    exact ready.2
  refine ⟨fun still after => ?_, fun armed stands after => ?_, effect.wakes apart,
    (effect.evolves_of_owes owed).listens⟩
  · refine (poisedOf after).resolve_right fun attending => ?_
    cases head : heads waiter with
    | none => simp [head] at attending
    | some =>
      rw [head] at attending still
      simp [attends_of_attending attending] at still
  · refine (poisedOf after).imp_right fun attending => effect.wakes apart ?_
    rw [stands] at attending
    exact attending

/-- The contract of the server's life, for orderly steps. -/
def relaying (server : Server) (id : RequestID) (certificate : String) (waiter : Tid) :
    (lifecycle server).Refinement where
  ok heads s tid action choice := Orderly id certificate waiter heads s tid action choice
  Inv := Shared.Relayed id certificate waiter
  Rel _ _ := True
  Stay tid head s s' := tid = waiter → Undisturbed id waiter head s s'
  refl _ := trivial
  trans _ _ := trivial
  stay_refl _ head s _ := .refl head s
  stay_trans h h' same := (h same).trans (h' same)
  sound _ relayed _ orderly owed done := by
    have effect := effect_of_exec done
    refine ⟨effect.relayed relayed owed orderly, trivial, fun other apart same => ?_⟩
    subst same
    exact effect.undisturbed owed apart orderly

/-- The contract of the server's life with that added. -/
abbrev relayed (server : Server) (id : RequestID) (certificate : String) (waiter : Tid) :
    Contract (system server) :=
  (lifecycle server).refine (relaying server id certificate waiter)

/-- A waiter does not approve the request itself. -/
theorem Orderly.waiting {answer : action.Resp}
    (orderly : Orderly id certificate waiter heads s waiter action choice)
    (effect : Effect waiter s action answer s') (owed : Owes waiter action s)
    (before : ¬ s.Approved id) : ¬ s'.Approved id := fun after =>
  before ((effect.approves owed after).resolve_right fun marks => (orderly.2.1 marks).1 rfl)

/-! ## What a pass of `Wait` hands on -/

/-- What the next pass of the waiter starts from. -/
def Call.Onward (id : RequestID) (s : Shared) : Call → Prop
  | .waitLoop _ => ¬ s.Approved id
  | .awaitStatus _ message _ _ => message.status = .approved
  | _ => True

/-- How a pass of the waiter ends. -/
def Onward (id : RequestID) (outcome : Call ⊕ Result) (s : Shared) : Prop :=
  outcome.elim (fun call => call.Onward id s) fun result => Given (.inr result)

/-- The same, before the turn of the loop. -/
def Steady (id : RequestID) (s : Shared) : Except ServiceError Next → Prop
  | .ok .again => ¬ s.Approved id
  | .ok (.confirm message _ _) => message.status = .approved
  | .ok (.done _) => True
  | .error e => e.Passing

variable {Q : Call ⊕ Result → Shared → Prop} {s : Shared}

/-- Whoever obeys the contract in a program also goes onward at its end. -/
def GoesOnward (server : Server) (id : RequestID) (certificate : String) (waiter : Tid)
    (Q : Call ⊕ Result → Shared → Prop) (s : Shared) (program : Prog Act Act.Resp (Call ⊕ Result)) :
    Prop :=
  (relayed server id certificate waiter).Obeys waiter Q program s →
    (relayed server id certificate waiter).Obeys waiter
      (fun outcome s => Q outcome s ∧ Onward id outcome s) program s

theorem onward_turn {outcome : Except ServiceError Next} (steady : Steady id s outcome) :
    GoesOnward server id certificate waiter Q s (turn id outcome) := by
  intro obeys
  cases outcome with
  | error =>
    refine fun s' moved stayed inv => ⟨obeys s' moved stayed inv, fun e' same => ?_⟩
    cases same
    exact steady
  | ok next =>
    cases next with
    | again =>
      refine fun s' moved stayed inv => ⟨obeys s' moved stayed inv, fun approved => ?_⟩
      exact steady ((stayed.2 rfl).calm rfl approved)
    | confirm =>
      exact fun s' moved stayed inv => ⟨obeys s' moved stayed inv, steady⟩
    | done =>
      exact fun s' moved stayed inv =>
        ⟨obeys s' moved stayed inv, nofun⟩

/-- One step of the waiter, after whatever the others did. -/
theorem onward_act {next : action.Resp → Prog Act Act.Resp (Call ⊕ Result)}
    (cont : ∀ {s₁ s₂ heads choice answer}, Undisturbed id waiter (some action) s s₁ →
      (relayed server id certificate waiter).Inv s₁ → Owes waiter action s₁ →
      Orderly id certificate waiter heads s₁ waiter action choice →
      exec waiter s₁ action choice = some (s₂, answer) →
      (relayed server id certificate waiter).Inv s₂ →
      GoesOnward server id certificate waiter Q s₂ (next answer)) :
    GoesOnward server id certificate waiter Q s (.act action next) := by
  intro obeys s₁ moved stayed inv
  obtain ⟨pre, after⟩ := obeys s₁ moved stayed inv
  refine ⟨pre, fun heads choice s₂ answer met done => ?_⟩
  have inv₂ := (Contract.sound _ inv met pre done).1
  exact cont (stayed.2 rfl) inv pre met.2 done inv₂ (after heads choice s₂ answer met done)

/-- A part of the waiter in which it attends to nothing. -/
theorem onward_part {α : Type} {program : Service α} {next : α → Service Next}
    (persists : Persists (·.attends = false) program)
    (inv : (relayed server id certificate waiter).Inv s) (before : ¬ s.Approved id)
    (listening : s.listens waiter id = true)
    (cont : ∀ value s', (relayed server id certificate waiter).Inv s' → ¬ s'.Approved id →
      s'.listens waiter id = true →
      GoesOnward server id certificate waiter Q s' ((next value).run >>= turn id)) :
    GoesOnward server id certificate waiter Q s ((program >>= next).run >>= turn id) := by
  intro obeys
  have flat : ((program >>= next).run >>= turn id) =
      program.run >>= fun outcome => ExceptT.bindCont next outcome >>= turn id :=
    bind_assoc _ _ _
  rw [flat] at obeys ⊢
  refine Contract.Obeys.through
    (N := fun s => ¬ s.Approved id ∧ s.listens waiter id = true) ?_ ?_ persists obeys inv
    ⟨before, listening⟩ ?_
  · intro action s s' elsewhere stayed now
    have undisturbed := stayed.2 rfl
    refine ⟨fun after => now.1 (undisturbed.calm ?_ after), undisturbed.listens now.2⟩
    simpa using elsewhere
  · intro heads s action choice s' answer _ _ owed orderly done now
    have effect := effect_of_exec done
    exact ⟨orderly.2.waiting effect owed now.1, (effect.evolves_of_owes owed).listens now.2⟩
  · intro outcome s' passing inv' now rest
    cases outcome with
    | error e => exact onward_turn (show Steady id s' (.error e) from passing e rfl) rest
    | ok value => exact cont value s' inv' now.1 now.2 rest

/-! ## Confirming a message -/

/-- A part of the waiter whose end does not depend on what the others do. -/
theorem onward_confined {program : Service Next}
    (confined : program.run.Confined (fun _ => True) fun outcome => ∀ s, Steady id s outcome)
    (inv : (relayed server id certificate waiter).Inv s) :
    GoesOnward server id certificate waiter Q s (program.run >>= turn id) := fun obeys =>
  Contract.Obeys.through (N := fun _ => True) (fun _ _ _ => trivial) (fun _ _ _ _ _ _ => trivial)
    confined obeys inv trivial fun _ s' steady _ _ rest => onward_turn (steady s') rest

variable {message : OutcomeMessage} {row : CertificateRequest}

/-- A message that the row bears out is the outcome, and any other is dropped. -/
theorem onward_acceptWake (inv : (relayed server id certificate waiter).Inv s)
    (steady : row.status = message.status ∨ ¬ s.Approved id) :
    GoesOnward server id certificate waiter Q s ((acceptWake id message row).run >>= turn id) := by
  intro obeys
  by_cases same : row.status = message.status
  · refine onward_confined ?_ inv obeys
    rw [acceptWake, if_pos same]
    exact .act trivial fun _ => .act trivial fun _ => .ret fun _ => trivial
  · have dropped : acceptWake id message row = pure .again := if_neg same
    rw [dropped] at obeys ⊢
    exact onward_turn (show Steady id s (.ok .again) from steady.resolve_left same) obeys

variable {want : Status}

/-- What a waiter that confirms a message reads: the approved row, if the request is approved. -/
theorem confirm_read {answer : Except DBError (Option CertificateRequest)}
    (orderly : Orderly id certificate waiter heads s waiter (.read (.request (.confirm want) id))
      choice)
    (done : exec waiter s (.read (.request (.confirm want) id)) choice = some (s', answer)) :
    s' = s ∧ (s.Approved id → ∃ row, answer = .ok (some row) ∧ row.status = .approved) := by
  obtain ⟨rfl, -⟩ := (effect_of_exec done).of_read
  refine ⟨rfl, fun approved => ?_⟩
  have going := orderly.2.2 rfl approved
  obtain ⟨row, found, status⟩ := approved
  cases choice with
  | done =>
    cases done
    exact ⟨row, congrArg Except.ok found, status⟩
  | fail => cases going
  | _ => cases done

/-- A message that was taken says that the request was approved. -/
theorem approved_of_received {queue delivered : List (Option OutcomeMessage)} (sound : s.Sound)
    (relayed : s.Relayed id certificate waiter) (listening : s.listens waiter id = true)
    (there : s.channels waiter = some ⟨topic, some message :: queue, delivered⟩) :
    message.status = .approved := by
  obtain ⟨channel, found, about⟩ := Shared.listens_iff.mp listening
  cases there.symm.trans found
  have arrived : some message ∈ delivered := sound.queued _ _ there List.mem_cons_self
  obtain ⟨told, member, topic', rfl⟩ := sound.delivered _ _ there message arrived
  exact (relayed.told told member (topic'.trans about)).1

/-- What becomes of a message, by the row. -/
def confirmed (id : RequestID) (message : OutcomeMessage) :
    Except DBError (Option CertificateRequest) → Service Next
  | .ok (some row) =>
    if row.status ≠ message.status ∧ row.status = .signing then do
      let started ← perform .now
      pure (.confirm message row (Time.add started statusConfirmWindow))
    else acceptWake id message row
  | _ => pure .again

theorem tryHandleWakeMessage_run (final : message.status.terminal = true) :
    (tryHandleWakeMessage id (some message)).run =
      .act (.read (.request (.confirm message.status) id)) fun answer =>
        (confirmed id message answer).run := by
  simp only [tryHandleWakeMessage, if_pos final]
  show act _ _ = _
  congr 1
  funext answer
  cases answer with
  | error => rfl
  | ok row => cases row <;> rfl

/-- Handling a message that says that the request was approved. -/
theorem onward_tryHandleWakeMessage (approved : message.status = .approved) :
    GoesOnward server id certificate waiter Q s
      ((tryHandleWakeMessage id (some message)).run >>= turn id) := by
  have final : message.status.terminal = true := by rw [approved]; rfl
  rw [tryHandleWakeMessage_run final]
  refine onward_act fun {_ s₂ _ _ answer} _ _ _ orderly done inv₂ => ?_
  obtain ⟨rfl, seen⟩ := confirm_read orderly done
  have again (nothing : ∀ row, answer ≠ .ok (some row)) :
      GoesOnward server id certificate waiter Q s₂ (turn id (.ok .again)) := by
    refine onward_turn (show ¬ s₂.Approved id from fun approved => ?_)
    obtain ⟨row, same, -⟩ := seen approved
    exact nothing row same
  cases answer with
  | error => exact again fun _ same => by cases same
  | ok found =>
    cases found with
    | none => exact again fun _ same => by cases same
    | some =>
      intro rest
      simp only [confirmed] at rest ⊢
      split_ifs at rest ⊢ with racing
      · refine onward_confined ?_ inv₂ rest
        exact .act trivial fun _ => .ret fun _ => approved
      · refine onward_acceptWake inv₂ ?_ rest
        by_cases decided : s₂.Approved id
        · obtain ⟨row', same, status⟩ := seen decided
          cases same
          exact .inl (status.trans approved.symm)
        · exact .inr decided

variable {deadline : Int}

/-- The window of a waiter does not end once the request is approved. -/
theorem waiting_of_late
    (orderly : Orderly id certificate waiter heads s waiter (.withinWindow id want deadline) choice)
    (done : exec waiter s (.withinWindow id want deadline) choice = some (s', false)) :
    ¬ s'.Approved id := by
  intro approved
  cases choice with
  | time t =>
    obtain ⟨rfl, late⟩ := Prod.mk.inj (some.inj done)
    have inTime : Time.before t deadline = true := orderly.2.2 rfl approved
    rw [show Time.before t deadline = false from late] at inTime
    cases inTime
  | _ => cases done

/-- Nor is its pause cut short. -/
theorem waiting_of_canceled
    (orderly : Orderly id certificate waiter heads s waiter (.pollPause id want) choice)
    (done : exec waiter s (.pollPause id want) choice = some (s', false)) : ¬ s'.Approved id := by
  intro approved
  cases choice with
  | canceled =>
    obtain ⟨rfl, -⟩ := Prod.mk.inj (some.inj done)
    cases orderly.2.2 rfl approved
  | _ => cases done

/-- Nor does its timer go off. -/
theorem waiting_of_timer {armed : Bool}
    (orderly : Orderly id certificate waiter heads s waiter (.receive armed) choice)
    (done : exec waiter s (.receive armed) choice = some (s', .timer)) : ¬ s'.Approved id := by
  intro approved
  cases choice with
  | timer =>
    simp only [exec] at done
    split_ifs at done
    obtain ⟨rfl, -⟩ := Prod.mk.inj (some.inj done)
    cases orderly.2.2 rfl approved
  | message =>
    simp only [exec, map_eq_some_iff] at done
    obtain ⟨next, -, impossible⟩ := done
    cases impossible
  | _ => cases done

/-- What a poll does with the row: it is the outcome, or there is another poll. -/
def polled (id : RequestID) (message : OutcomeMessage) (row : CertificateRequest)
    (deadline : Int) : Service Next :=
  if row.status = message.status then acceptWake id message row
  else pure (.confirm message row deadline)

theorem onward_polled (approved : message.status = .approved)
    (inv : (relayed server id certificate waiter).Inv s) :
    GoesOnward server id certificate waiter Q s ((polled id message row deadline).run >>= turn id) := by
  intro obeys
  unfold polled at obeys ⊢
  split_ifs at obeys ⊢ with same
  · exact onward_acceptWake inv (.inl same) obeys
  · exact onward_turn
      (show Steady id s (.ok (.confirm message row deadline)) from approved) obeys

/-- Polling for the row to catch up with a message. -/
theorem onward_awaitStatus {current : CertificateRequest} (approved : message.status = .approved) :
    GoesOnward server id certificate waiter Q s
      ((awaitStatus id message current deadline).run >>= turn id) := by
  -- the clock
  refine onward_act fun {_ _ _ _ inTime} _ _ _ orderly done inv₂ => ?_
  cases inTime with
  | false => exact onward_acceptWake inv₂ (.inr (waiting_of_late orderly done))
  | true =>
    -- the pause
    refine onward_act fun {_ _ _ _ elapsed} _ _ _ orderly done inv₄ => ?_
    cases elapsed with
    | false => exact onward_acceptWake inv₄ (.inr (waiting_of_canceled orderly done))
    | true =>
      -- the row
      refine onward_act fun {_ _ _ _ answer} _ _ _ orderly done inv₆ => ?_
      obtain ⟨rfl, seen⟩ := confirm_read orderly done
      have waiting (nothing : ∀ row, answer ≠ .ok (some row)) : ¬ _ := fun decided =>
        have ⟨row, same, _⟩ := seen decided
        nothing row same
      cases answer with
      | error => exact onward_acceptWake inv₆ (.inr (waiting fun _ same => by cases same))
      | ok found =>
        cases found with
        | none => exact onward_acceptWake inv₆ (.inr (waiting fun _ same => by cases same))
        | some => exact onward_polled approved inv₆

/-- Blocking until there is a message. -/
theorem onward_receive {armed : Bool} (before : ¬ s.Approved id)
    (listening : s.listens waiter id = true) :
    GoesOnward server id certificate waiter Q s ((receiving id armed).run >>= turn id) := by
  refine onward_act fun {s₁ s₂ _ _ received} undisturbed inv pre orderly done _ => ?_
  -- where the request is approved by now, the message is there
  have waking (approved : s₁.Approved id) : s₁.wakes waiter = true :=
    (undisturbed.receiving armed rfl approved).resolve_left before
  cases received with
  | closed => exact onward_turn (show Steady id s₂ (.error .shuttingDown) from trivial)
  | canceled => exact onward_turn (show Steady id s₂ (.error .canceled) from trivial)
  | timer => exact onward_turn (show Steady id s₂ (.ok .again) from waiting_of_timer orderly done)
  | message payload =>
    have effect := effect_of_exec done
    obtain ⟨topic, queue, delivered, there⟩ := effect.of_receive
    cases payload with
    | some =>
      exact onward_tryHandleWakeMessage
        (approved_of_received inv.1 inv.2 (undisturbed.listens listening) there)
    | none =>
      -- an unreadable message came first, so the request is not approved
      have waiting : ¬ s₁.Approved id := by
        intro approved
        obtain ⟨_, message, _, _, found, -⟩ := Shared.wakes_iff.mp (waking approved)
        rw [there] at found
        cases found
      exact onward_turn (show Steady id s₂ (.ok .again) from orderly.waiting effect pre waiting)

/-- A row that is not approved. -/
theorem onward_reconciled (pending : row.status ≠ .approved)
    (inv : (relayed server id certificate waiter).Inv s) (before : ¬ s.Approved id)
    (listening : s.listens waiter id = true) :
    GoesOnward server id certificate waiter Q s ((reconciled server id row).run >>= turn id) := by
  intro obeys
  refine onward_part (reconcileStatus_persists pending) inv before listening ?_ obeys
  intro block s₁ inv before listening obeys
  cases block with
  | false => exact onward_turn (show Steady id s₁ (.ok .again) from before) obeys
  | true =>
    refine onward_part expiryTimer_persists inv before listening ?_ obeys
    intro armed s₂ _ before listening obeys
    exact onward_receive before listening obeys

/-- **A pass of the loop that starts before the request is approved.** -/
theorem onward_waitLoop (before : ¬ s.Approved id) (listening : s.listens waiter id = true) :
    GoesOnward server id certificate waiter Q s ((waitLoop server id).run >>= turn id) := by
  rw [waitLoop_run]
  -- the cache
  refine onward_act fun {_ s₂ _ _ cached} undisturbed _ _ _ done _ => ?_
  have before := fun approved => before (undisturbed.calm rfl approved)
  have listening := undisturbed.listens listening
  obtain ⟨rfl, -⟩ := (effect_of_exec done).of_cacheGet
  cases cached with
  | some outcome => exact onward_turn (show Steady id s₂ (.ok (.done outcome)) from trivial)
  | none =>
    -- the row
    refine onward_act fun {_ s₄ _ _ answer} undisturbed inv _ _ done _ => ?_
    have before := fun approved => before (undisturbed.calm rfl approved)
    have listening := undisturbed.listens listening
    obtain ⟨rfl, read⟩ := (effect_of_exec done).of_read
    cases answer with
    | error => exact onward_turn (show Steady id s₄ (.error (.internal _)) from trivial)
    | ok found =>
      cases found with
      | none => exact onward_turn (show Steady id s₄ (.error (.notFound _)) from trivial)
      | some row =>
        have pending : row.status ≠ .approved := fun approved =>
          before ⟨row, (read _ rfl).symm, approved⟩
        exact onward_reconciled pending inv before listening

/-- The first part of `Wait`: one that can still subscribe does so before the request is
approved. -/
theorem onward_wait : GoesOnward server id certificate waiter Q s ((wait id).run >>= turn id) := by
  -- the cache
  refine onward_act fun {_ s₂ _ _ cached} _ _ _ _ _ _ => ?_
  cases cached with
  | some outcome => exact onward_turn (show Steady id s₂ (.ok (.done outcome)) from trivial)
  | none =>
    -- the subscription
    refine onward_act fun {s₃ s₄ _ _ opened} _ inv pre orderly done _ => ?_
    cases opened with
    | error => exact onward_turn (show Steady id s₄ (.error (.internal _)) from trivial)
    | ok =>
      have effect := effect_of_exec done
      have waiting : ¬ s₃.Approved id := fun approved =>
        inv.2.subscribed approved effect.of_subscribe
      exact onward_turn (show Steady id s₄ (.ok .again) from orderly.waiting effect pre waiting)

/-- Every pass of the waiter. -/
theorem onward_body {origin current : Call}
    (ready : (lifecycleCalls server).Ready waiter origin current s)
    (waits : current.waitsFor = some id) (onward : current.Onward id s) :
    GoesOnward server id certificate waiter Q s (body server current) := by
  intro obeys
  cases current with
  | wait =>
    cases waits
    exact onward_wait obeys
  | waitLoop =>
    cases waits
    obtain ⟨-, past, known, listening⟩ := ready
    exact onward_waitLoop onward (Shared.listens_iff.mpr (known _ listening)) obeys
  | awaitStatus =>
    cases waits
    exact onward_awaitStatus onward obeys
  | _ => cases waits

/-- The calls of the server, with what the waiter is promised. -/
def relayedCalls (server : Server) (id : RequestID) (certificate : String) (waiter : Tid) :
    (relayed server id certificate waiter).Calls :=
  ((lifecycleCalls server).refine (relaying server id certificate waiter)).extend
    (fun tid origin current s => tid = waiter → origin.waitsFor = some id → current.Onward id s)
    (fun tid origin result _ => tid = waiter → origin.waitsFor = some id → Given (.inr result))
    (by
      intro tid call s external _ _ _
      cases call with
      | waitLoop | awaitStatus => cases external
      | _ => trivial)
    (by
      intro tid origin current s ready also inv obeys
      by_cases concerned : tid = waiter ∧ origin.waitsFor = some id
      · obtain ⟨rfl, waits⟩ := concerned
        have serves : current.waitsFor = some id := by
          rcases ready.1 with rfl | ⟨-, same⟩
          · exact waits
          · exact same.trans waits
        refine Contract.Obeys.weaken (onward_body ready serves (also rfl waits) obeys)
          fun outcome _ _ onward => ?_
        cases outcome with
        | inl | inr => exact ⟨onward.1, fun _ _ => onward.2⟩
      · refine obeys.weaken fun outcome _ _ ends => ⟨ends, ?_⟩
        cases outcome <;> exact fun same waits => (concerned ⟨same, waits⟩).elim)

end Relaying

/-- The orderly steps of the server. -/
abbrev OrderlySteps (server : Server) (id : RequestID) (certificate : String) (waiter : Tid) :
    SystemConfig → SystemLabel → Prop :=
  ((lifecycleCalls server).refine (relaying server id certificate waiter)).Allowed

namespace Sample

/-- Whether a step is orderly. -/
def orderlyStep (waiter : Tid) (cfg : SystemConfig) : SystemLabel → Bool
  | .spawn _ call => call.external
  | .run tid choice => (cfg.heads tid).all fun action =>
    decide (Orderly "request" "signed" waiter cfg.heads cfg.shared tid action choice)

theorem orderlySteps_of_step {waiter : Tid} {cfg : SystemConfig} {label : SystemLabel}
    (passed : orderlyStep waiter cfg label = true) :
    OrderlySteps server "request" "signed" waiter cfg label := by
  cases label with
  | spawn => exact passed
  | run tid choice =>
    intro action next
    rw [orderlyStep, next] at passed
    have now : Orderly "request" "signed" waiter cfg.heads cfg.shared tid action choice :=
      of_decide_eq_true passed
    exact ⟨trivial, now⟩

end Sample

/-- **A certificate reaches a waiter on another process**, where the row is marked while
the waiter attends to the message and nothing cuts that short: a `Wait` that is over has
returned this certificate, or failed for a reason that says nothing about the request. -/
theorem wait_relayed_orderly {server : Server} {id : RequestID} {certificate : String}
    {waiter : Tid} {cfg : SystemConfig}
    (run : Reaches (system server) (OrderlySteps server id certificate waiter) start cfg)
    {outcome : Except ServiceError WaitOutcome}
    (returned : cfg.Returned waiter (.wait id) (.waited outcome)) :
    outcome ≠ .error (.certificateUnavailable id) ∧
      (∀ told, outcome = .ok told →
        told.status = .approved ∧ told.certificate = certificate) ∧
      ∀ e, outcome = .error e → e.Passing := by
  have fresh : (start.shared).Relayed id certificate waiter :=
    ⟨fun _ member => (by cases member), fun ⟨row, found, _⟩ => (by cases found)⟩
  have held := (relayedCalls server id certificate waiter).reaches run
    (Contract.Calls.holds_idle _ ⟨Shared.sound_empty, fresh⟩ fun _ => rfl)
  obtain ⟨post, given⟩ := held.post returned
  have passing (e : ServiceError) (failed : outcome = .error e) : e.Passing := by
    subst failed
    exact given rfl rfl e rfl
  refine ⟨passing _, fun told same => ?_, passing⟩
  subst same
  exact held.inv.2.told _ (told_of_post post) rfl

/-- A waiter on another process that blocks gets its certificate. -/
theorem wait_relayed_blocked : ∃ cfg outcome,
    Reaches (system Sample.server) (OrderlySteps Sample.server "request" "signed" ⟨1, 3⟩) start
      cfg ∧
      cfg.Returned ⟨1, 3⟩ (.wait "request") (.waited (.ok outcome)) ∧
      outcome.certificate = "signed" := by
  have ran : ((system Sample.server).runChecked (Sample.orderlyStep ⟨1, 3⟩) start
      (Sample.blocked 1 ++ Sample.handled ++
        [.message, .done, .time 4, .done].map (.run ⟨1, 3⟩))).map (Sample.ended ⟨1, 3⟩) =
      some (some ("request", .ok
        { status := .approved, certificate := "signed", resolvedAt := 4 })) := by
    rfl
  obtain ⟨cfg, runs, isOver⟩ := map_eq_some_iff.mp ran
  have run := Reaches.of_runChecked (fun _ _ => Sample.orderlySteps_of_step) _ runs
  have returned := Sample.returned_of_ended isOver
  exact ⟨cfg, _, run, returned, ((wait_relayed_orderly run returned).2.1 _ rfl).2⟩

/-- A waiter on another process that has subscribed, but reads the row only after it was
marked, gives up although the certificate is in its channel. -/
theorem wait_unavailable_remote : ∃ cfg channel message,
    Reaches (system Sample.server) (Steps Sample.server) start cfg ∧
      cfg.Returned ⟨1, 3⟩ (.wait "request")
        (.waited (.error (.certificateUnavailable "request"))) ∧
      cfg.shared.channels ⟨1, 3⟩ = some channel ∧ channel.topic = "request" ∧
      some message ∈ channel.queue ∧ message.status = .approved ∧
      message.certificate = "signed" := by
  have ran : (Sample.after (Sample.listening 1 ++ Sample.handled ++
      [.done, .done].map (.run ⟨1, 3⟩))).map
      (fun cfg => (Sample.ended ⟨1, 3⟩ cfg, cfg.shared.channels ⟨1, 3⟩)) =
      some (some ("request", .error (.certificateUnavailable "request")),
        some ⟨"request",
          [some { status := .approved, certificate := "signed" }],
          [some { status := .approved, certificate := "signed" }]⟩) := by
    rfl
  obtain ⟨cfg, runs, seen⟩ := map_eq_some_iff.mp ran
  obtain ⟨isOver, open'⟩ := Prod.mk.inj seen
  exact ⟨cfg, _, _, Sample.reaches_after runs (by decide), Sample.returned_of_ended isOver, open', rfl,
    List.mem_cons_self, rfl, rfl⟩

end Ssoossh
