import Ssoossh.Server.Lifecycle

/-!
# Whether all who wait are told the same

The outcome of a request is kept three times: in the row, in the caches of the
processes, and in the messages that wake other processes.  The handler of a reply
writes the cache and wakes the others before it touches the row, and whether or not
the row is still being signed.

A late reply therefore overturns an outcome that was told already.  Where the replies to
a request say one thing, none is taken up once the sweep has given the request up, and
the sweep gives up none whose reply is being handled (`PromptRun`), all three agree in every
run (`Agreed`).
-/

namespace Ssoossh

open Interleaving Relational List Option

/-! ## The condition -/

/-- The reply a call handles. -/
def Call.reply? : Call → Option SignedReply
  | .handle reply => some reply
  | _ => none

/-- A reply that does not come too late: its request is being signed, or has its status
already, and so have the replies to it that were taken up before. -/
def InTime (s : Shared) (taken : List SignedReply) (reply : SignedReply) : Prop :=
  (∀ row ∈ s.row reply.requestID, row.status = .signing ∨ row.status = reply.status) ∧
    ∀ other ∈ taken, other.requestID = reply.requestID → other.status = reply.status

/-- What spares a request whose reply was taken up: the sweep fails it only if the reply
does too or the row is no longer being signed, and no new request gets its identifier. -/
def Spares (s : Shared) (reply : SignedReply) : Act → Prop
  | .write (.failStranded ids _ _) => reply.requestID ∈ ids → reply.status = .failed ∨
    ∀ row ∈ s.row reply.requestID, row.status ≠ .signing
  | .write (.insertRequest row) => row.id ≠ reply.requestID
  | _ => True

instance (s : Shared) (taken : List SignedReply) (reply : SignedReply) :
    Decidable (InTime s taken reply) := by
  unfold InTime
  infer_instance

instance (s : Shared) (reply : SignedReply) (action : Act) : Decidable (Spares s reply action) := by
  unfold Spares
  split <;> infer_instance

/-- The runs in which replies are taken up in time and spared from then on, with the
replies that a handler was started for, whether or not it is over. -/
inductive PromptRun (server : Server) : List SignedReply → SystemConfig → Prop
  | idle : PromptRun server [] start
  | call {taken : List SignedReply} {cfg next : SystemConfig} {tid : Tid} {call : Call}
      (before : PromptRun server taken cfg) (external : call.external = true)
      (inTime : ∀ reply ∈ call.reply?, InTime cfg.shared taken reply)
      (stepped : (system server).step cfg (.spawn tid call) = some next) :
      PromptRun server (call.reply?.toList ++ taken) next
  | run {taken : List SignedReply} {cfg next : SystemConfig} {tid : Tid} {choice : Choice}
      (before : PromptRun server taken cfg)
      (spares : ∀ action ∈ cfg.heads tid, ∀ reply ∈ taken, Spares cfg.shared reply action)
      (stepped : (system server).step cfg (.run tid choice) = some next) :
      PromptRun server taken next

theorem PromptRun.reaches {server : Server} {taken : List SignedReply} {cfg : SystemConfig}
    (run : PromptRun server taken cfg) : Reaches (system server) (Steps server) start cfg := by
  induction run with
  | idle => exact .refl
  | call _ external _ stepped ih =>
    refine .tail ih ?_ stepped
    exact external
  | run _ _ stepped ih =>
    refine .tail ih ?_ stepped
    exact fun _ _ => trivial

/-! ## Who may tell what -/

/-- A call goes on as its discipline has it, after what it has seen, and if it handles a
reply that was taken up. -/
def Attends (server : Server) (taken : List SignedReply) (s : Shared) (tid : Tid)
    (thread : Thread Act Act.Resp Call Result) : Prop :=
  thread.current.reply?.toList ⊆ taken ∧
    ∃ past, thread.rest.Follows Plausible (May (.any thread.current.replies))
      (thread.current.Ends server) past ∧ Knows tid s past

section Telling

variable {server : Server} {taken more : List SignedReply} {s s' : Shared} {tid : Tid}
variable {thread : Thread Act Act.Resp Call Result} {action : Act}
variable {rest : action.Resp → Prog Act Act.Resp (Call ⊕ Result)}

theorem Attends.mono (attends : Attends server taken s tid thread) (grown : taken ⊆ more)
    (evolved : s.Evolves s') : Attends server more s' tid thread := by
  obtain ⟨held, past, follows, known⟩ := attends
  exact ⟨List.Subset.trans held grown, past, follows, fun event member =>
    (known event member).mono evolved⟩

/-- A loop goes round. -/
theorem Attends.loop {call : Call} (attends : Attends server taken s tid thread)
    (atEnd : thread.rest = .ret (.inl call)) :
    Attends server taken s tid ⟨thread.origin, call, body server call⟩ := by
  obtain ⟨-, past, follows, known⟩ := attends
  rw [atEnd] at follows
  obtain ⟨loop, -, evidence⟩ | _ := follows
  refine ⟨?_, past, body_follows evidence, known⟩
  cases call <;> first | exact nil_subset _ | cases loop

/-- What a call does next it may do, and what it is answered it knows. -/
theorem Attends.act (attends : Attends server taken s tid thread) (sound : s.Sound)
    (atAction : thread.rest = .act action rest) :
    Owes tid action s ∧ ∀ {answer : action.Resp} {s'}, Effect tid s action answer s' →
      Attends server taken s' tid ⟨thread.origin, thread.current, rest answer⟩ := by
  obtain ⟨held, past, follows, known⟩ := attends
  rw [atAction] at follows
  obtain _ | ⟨may, after⟩ := follows
  have owed := owes_of_may sound known may
  refine ⟨owed, fun effect => ?_⟩
  obtain ⟨possible, fact⟩ := effect.learn sound
  refine ⟨held, _, after _ possible, forall_mem_cons.mpr ⟨fact, fun event member => ?_⟩⟩
  exact (known event member).mono (effect.evolves_of_owes owed)

/-- **What is told is what the row says, or a reply that was taken up.** -/
theorem Attends.tells {site : PutSite} {id : RequestID} {outcome : WaitOutcome}
    {rest : Unit → Prog Act Act.Resp (Call ⊕ Result)} (attends : Attends server taken s tid thread)
    (atAction : thread.rest = .act (.cachePut site id outcome) rest) :
    s.Ended id outcome.status ∨
      ∃ reply ∈ taken, reply.requestID = id ∧ reply.status = outcome.status := by
  obtain ⟨held, past, follows, known⟩ := attends
  rw [atAction] at follows
  obtain _ | ⟨may, -⟩ := follows
  cases site with
  | accept => exact .inl (may.2.ended known)
  | notify =>
    rcases may with ⟨-, confirmed⟩ | ⟨own, -⟩
    · exact .inl (confirmed.ended known)
    · have own : thread.current.replies id outcome.status := own
      cases current : thread.current <;> rw [current] at own held
      case handle reply => exact .inr ⟨reply, held mem_cons_self, own.1.symm, own.2.symm⟩
      all_goals exact own.elim

end Telling

/-! ## The invariant -/

/-- **Row, caches and messages agree**: what was told about a request is how its row ended,
or a reply that was taken up; and all such replies agree, with the row as well unless that
is still being signed. -/
structure Agreed (s : Shared) (taken : List SignedReply) : Prop where
  told : ∀ told ∈ s.told, s.Ended told.requestID told.outcome.status ∨
    ∃ reply ∈ taken, reply.requestID = told.requestID ∧ reply.status = told.outcome.status
  taken : ∀ reply ∈ taken, InTime s taken reply

section Keeping

variable {tid : Tid} {s s' : Shared} {taken : List SignedReply} {reply : SignedReply}

/-- A reply that was taken up says how its row ended. -/
theorem Agreed.ended {status : Status} (agreed : Agreed s taken) (held : reply ∈ taken)
    (ended : s.Ended reply.requestID status) : reply.status = status := by
  obtain ⟨row, found, rfl, isOver⟩ := ended
  rcases (agreed.taken reply held).1 row found with signing | same
  · rw [signing] at isOver
    cases isOver
  · exact same.symm

/-- What was told about a request has one status. -/
theorem Agreed.one {told other : Told} (agreed : Agreed s taken) (member : told ∈ s.told)
    (member' : other ∈ s.told) (same : other.requestID = told.requestID) :
    other.outcome.status = told.outcome.status := by
  rcases agreed.told told member with ended | ⟨reply, held, about, status⟩ <;>
    rcases agreed.told other member' with ended' | ⟨reply', held', about', status'⟩
  · obtain ⟨row, found, status, -⟩ := ended
    obtain ⟨row', found', status', -⟩ := ended'
    rw [same, found, some.injEq] at found'
    rw [← status, ← status', found']
  · rw [← status']
    exact agreed.ended held' (about'.trans same ▸ ended)
  · rw [← status]
    exact (agreed.ended held (about.trans same.symm ▸ ended')).symm
  · rw [← status, ← status']
    exact (agreed.taken reply held).2 reply' held' (about'.trans (same.trans about.symm))

/-- What was told about a request is what its row says, unless it is still being signed. -/
theorem Agreed.row {told : Told} {row : CertificateRequest} (agreed : Agreed s taken)
    (member : told ∈ s.told) (found : s.row told.requestID = some row) :
    row.status = .signing ∨ row.status = told.outcome.status := by
  rcases agreed.told told member with ⟨row', found', status, -⟩ | ⟨reply, held, about, status⟩
  · rw [found, some.injEq] at found'
    exact .inr (found' ▸ status)
  · rw [← status]
    exact (agreed.taken reply held).1 row (about ▸ found)

/-- A reply is taken up in time. -/
theorem Agreed.take (agreed : Agreed s taken) (inTime : InTime s taken reply) :
    Agreed s (reply :: taken) where
  told told member := (agreed.told told member).imp_right fun ⟨reply, held, about⟩ =>
    ⟨reply, mem_cons_of_mem _ held, about⟩
  taken := by
    refine forall_mem_cons.mpr ⟨⟨inTime.1, ?_⟩, fun other held => ⟨(agreed.taken other held).1, ?_⟩⟩
    · exact forall_mem_cons.mpr ⟨fun _ => rfl, inTime.2⟩
    · refine forall_mem_cons.mpr ⟨fun same => ?_, (agreed.taken other held).2⟩
      exact (inTime.2 other held same.symm).symm

/-- A write that spares a reply leaves its row being signed, or with the status of the
reply. -/
theorem Agreed.write {db : Database} {statement : Statement} {result : statement.Result}
    {row' : CertificateRequest} (agreed : Agreed s taken) (held : reply ∈ taken)
    (owed : statement.Owes tid s) (spares : Spares s reply (.write statement))
    (done : statement.run s.db = .ok (db, result))
    (found' : db.requests.find? reply.requestID = some row') :
    row'.status = .signing ∨ row'.status = reply.status := by
  rcases Statement.row_origin done found' with rfl | ⟨row, found, moves⟩
  · exact (spares (Table.find?_key found')).elim
  · have before := (agreed.taken reply held).1 row found
    have about : row.id = reply.requestID := Table.find?_key found
    rcases moves with same | pending | ⟨signing, resolves⟩
    · rwa [same]
    · -- no reply leaves a request pending
      rw [pending] at before
      unfold SignedReply.status at before
      split_ifs at before <;> rcases before with impossible | impossible <;> cases impossible
    · refine .inr ?_
      cases statement with
      | markResolved =>
        obtain ⟨rfl, same⟩ := resolves
        obtain ⟨-, outcome, status, spoken⟩ := owed
        rw [← same, ← status]
        rcases agreed.told _ spoken with ended | ⟨other, held', about', status'⟩
        · exact (agreed.ended held (about ▸ ended)).symm
        · rw [← status']
          exact (agreed.taken reply held).2 other held' (about'.trans about)
      | failStranded =>
        obtain ⟨chosen, failed⟩ := resolves
        rcases spares (about ▸ chosen) with same | settled
        · rw [failed, same]
        · exact (settled row found signing).elim
      | _ => exact resolves.elim

/-- **An action that spares the replies keeps the agreement**, where what it tells is what
the row says, or a reply that was taken up. -/
theorem Effect.agreed {action : Act} {answer : action.Resp} (agreed : Agreed s taken)
    (owed : Owes tid action s) (spares : ∀ reply ∈ taken, Spares s reply action)
    (tells : ∀ site id outcome, action = .cachePut site id outcome → s.Ended id outcome.status ∨
      ∃ reply ∈ taken, reply.requestID = id ∧ reply.status = outcome.status)
    (effect : Effect tid s action answer s') : Agreed s' taken := by
  have evolved := effect.evolves_of_owes owed
  have kept (told : Told) (member : told ∈ s.told) :=
    (agreed.told told member).imp_left (Shared.Ended.mono evolved)
  cases effect with
  | read | cacheGet | quiet => exact agreed
  | write done =>
    refine ⟨?_, fun reply held => ⟨fun row found => ?_, (agreed.taken reply held).2⟩⟩
    · rw [Shared.told_note]
      exact kept
    · rw [Shared.row, Shared.db_note] at found
      exact agreed.write held owed (spares reply held) done found
  | @cachePut site id outcome =>
    refine ⟨fun told member => ?_, fun reply held =>
      ⟨(agreed.taken reply held).1, (agreed.taken reply held).2⟩⟩
    rcases mem_cons.mp member with rfl | old
    · exact (tells site id outcome rfl).imp_left (Shared.Ended.mono evolved)
    · exact kept told old
  | evict | subscribe | publishWake | publishJob | receive =>
    exact ⟨kept, fun reply held =>
      ⟨(agreed.taken reply held).1, (agreed.taken reply held).2⟩⟩

end Keeping

/-- **Row, caches and messages agree in every such run.** -/
theorem PromptRun.agreed {server : Server} {taken : List SignedReply} {cfg : SystemConfig}
    (run : PromptRun server taken cfg) : Agreed cfg.shared taken := by
  suffices Agreed cfg.shared taken ∧ ∀ tid thread, cfg.threads tid = some thread →
    Attends server taken cfg.shared tid thread from this.1
  induction run with
  | idle => exact ⟨⟨fun _ member => (not_mem_nil member).elim, fun _ member =>
      (not_mem_nil member).elim⟩, fun _ _ there => nomatch there⟩
  | @call taken cfg next tid call _ external inTime stepped ih =>
    obtain ⟨agreed, attend⟩ := ih
    obtain ⟨_, _, ⟨⟩, -, rfl⟩ | ⟨_, _, _, _, ⟨⟩, -⟩ | ⟨_, _, _, _, _, _, _, ⟨⟩, -⟩ :=
      (system server).step_cases stepped
    constructor
    · cases handles : call.reply? with
      | none => exact agreed
      | some reply => exact agreed.take (inTime reply handles)
    · intro other running there
      rcases update_eq_some there with ⟨rfl, rfl⟩ | ⟨-, there⟩
      · exact ⟨subset_append_left _ _, [], body_follows (call.evidence_nil external),
          fun _ member => (not_mem_nil member).elim⟩
      · exact (attend other running there).mono (subset_append_right _ _) (.refl _)
  | @run taken cfg next tid choice before spares stepped ih =>
    obtain ⟨agreed, attend⟩ := ih
    have sound := (lifecycle_reaches before.reaches).inv
    obtain ⟨_, _, ⟨⟩, -⟩ | ⟨_, _, thread, call, ⟨⟩, present, atEnd, rfl⟩ |
      ⟨_, _, thread, action, rest, shared, answer, ⟨⟩, present, atAction, done, rfl⟩ :=
      (system server).step_cases stepped
    · refine ⟨agreed, fun other running there => ?_⟩
      rcases update_eq_some there with ⟨rfl, rfl⟩ | ⟨-, there⟩
      · exact (attend other thread present).loop atEnd
      · exact attend other running there
    · have effect := effect_of_exec done
      obtain ⟨owed, after⟩ := (attend tid thread present).act sound atAction
      constructor
      · refine effect.agreed agreed owed (spares action (by simp [Config.heads, present, atAction])) ?_
        rintro site id outcome rfl
        exact (attend tid thread present).tells atAction
      · intro other running there
        rcases update_eq_some there with ⟨rfl, rfl⟩ | ⟨-, there⟩
        · exact after effect
        · exact (attend other running there).mono (List.Subset.refl _) (effect.evolves_of_owes owed)

/-! ## Agreement -/

/-- What a `Wait` returns was told. -/
theorem told_of_post {server : Server} {s : Shared} {tid : Tid} {id : RequestID}
    {outcome : WaitOutcome}
    (post : (lifecycleCalls server).Post tid (.wait id) (.waited (.ok outcome)) s) :
    ⟨tid.process, id, outcome⟩ ∈ s.told := by
  obtain ⟨past, known, id', waits, cached | accepted⟩ := post
  · cases waits
    exact known _ cached
  · cases waits
    exact known _ accepted

namespace Sample

/-- A user asks for a certificate, the sweep gives the request up, and a client is told. -/
def givenUp : List SystemLabel :=
  signing ++
  uninterrupted ⟨0, 3⟩ .sweepStrandedRequests
    [.time 1000000000000000, .done, .time 1000000000000000, .done, .time 1000000000000000, .done,
      .done] ++
  uninterrupted ⟨0, 4⟩ (.wait "request") [.done]

/-- The signer's reply, and a client who asks after it. -/
def replied : List SystemLabel :=
  uninterrupted ⟨0, 5⟩ (.handle { requestID := "request", type := .user, certificate := "signed" })
    [.done, .text "certificate", .done, .time 1000000000000001, .done, .done,
      .time 1000000000000001, .done] ++
  uninterrupted ⟨0, 6⟩ (.wait "request") [.done]

/-- A sweep that lists the request before the reply comes, and gives it up after. -/
def overtaken : List SystemLabel :=
  signing ++
  uninterrupted ⟨0, 3⟩ .sweepStrandedRequests [.time 1000000000000000, .done] ++
  replied ++ [.run ⟨0, 3⟩ (.time 1000000000000002), .run ⟨0, 3⟩ .done]

/-- What a client was told, and what the row says. -/
def toldAt (tid : Tid) (cfg : SystemConfig) : Option (RequestID × WaitOutcome × Status) :=
  match cfg.threads tid with
  | some ⟨.wait id, _, .ret (.inr (.waited (.ok outcome)))⟩ =>
    (cfg.shared.row id).map fun row => (id, outcome, row.status)
  | _ => none

theorem returned_of_toldAt {cfg : SystemConfig} {tid : Tid} {id : RequestID}
    {outcome : WaitOutcome} {status : Status} (isOver : toldAt tid cfg = some (id, outcome, status)) :
    cfg.Returned tid (.wait id) (.waited (.ok outcome)) ∧
      ∃ row, cfg.shared.row id = some row ∧ row.status = status := by
  unfold toldAt at isOver
  split at isOver
  · rename_i present
    obtain ⟨row, found, same⟩ := map_eq_some_iff.mp isOver
    obtain ⟨rfl, rest⟩ := Prod.mk.inj same
    obtain ⟨rfl, status⟩ := Prod.mk.inj rest
    exact ⟨⟨_, present, rfl, rfl⟩, row, found, status⟩
  · cases isOver

/-- Run a schedule, as long as replies are taken up in time and spared. -/
def runPrompt (taken : List SignedReply) (cfg : SystemConfig) : List SystemLabel → Option SystemConfig
  | [] => some cfg
  | .spawn tid call :: labels =>
    if call.external = true ∧ ∀ reply ∈ call.reply?, InTime cfg.shared taken reply then
      ((system server).step cfg (.spawn tid call)).bind fun next =>
        runPrompt (call.reply?.toList ++ taken) next labels
    else none
  | .run tid choice :: labels =>
    if ∀ action ∈ cfg.heads tid, ∀ reply ∈ taken, Spares cfg.shared reply action then
      ((system server).step cfg (.run tid choice)).bind fun next => runPrompt taken next labels
    else none

theorem promptRun_of_runPrompt {taken : List SignedReply} {cfg last : SystemConfig}
    (labels : List SystemLabel) (before : PromptRun server taken cfg)
    (runs : runPrompt taken cfg labels = some last) : ∃ taken, PromptRun server taken last := by
  induction labels generalizing taken cfg with
  | nil => exact some.inj runs ▸ ⟨taken, before⟩
  | cons label labels ih =>
    cases label with
    | spawn =>
      obtain ⟨⟨external, inTime⟩, runs⟩ := ite_none_right_eq_some.mp runs
      obtain ⟨next, stepped, runs⟩ := bind_eq_some_iff.mp runs
      exact ih (.call before external inTime stepped) runs
    | run =>
      obtain ⟨spares, runs⟩ := ite_none_right_eq_some.mp runs
      obtain ⟨next, stepped, runs⟩ := bind_eq_some_iff.mp runs
      exact ih (.run before spares stepped) runs

end Sample

/-- **All who wait are told the same**, where replies are taken up in time and spared from
then on: any two outcomes that are returned for a request have one status, which is that of
the row as soon as it is no longer being signed, and a certificate is returned only while
the row is being signed or once it is approved. -/
theorem outcomes_agree {server : Server} {taken : List SignedReply} {cfg : SystemConfig}
    (run : PromptRun server taken cfg) {tid : Tid} {id : RequestID} {outcome : WaitOutcome}
    (returned : cfg.Returned tid (.wait id) (.waited (.ok outcome))) :
    outcome.status.terminal = true ∧
    (∀ tid' outcome', cfg.Returned tid' (.wait id) (.waited (.ok outcome')) →
      outcome'.status = outcome.status) ∧
    (∀ row, cfg.shared.row id = some row →
      row.status = .signing ∨ row.status = outcome.status) ∧
    (outcome.certificate ≠ "" → ∀ row, cfg.shared.row id = some row →
      row.status = .signing ∨ row.status = .approved) := by
  have held := lifecycle_reaches run.reaches
  have agreed := run.agreed
  have told := told_of_post (held.post returned)
  have honest := held.inv.told _ told
  refine ⟨honest.1, ?_, fun row found => agreed.row told found, ?_⟩
  · intro tid' outcome' returned'
    exact agreed.one told (told_of_post (held.post returned')) rfl
  · intro certified row found
    rw [← honest.2 certified]
    exact agreed.row told found

/-- A sweep that a reply has overtaken gives up nothing, and the client gets the
certificate of an approved request. -/
theorem outcomes_agree_replied : ∃ taken cfg outcome, PromptRun Sample.server taken cfg ∧
      cfg.Returned ⟨0, 6⟩ (.wait "request") (.waited (.ok outcome)) ∧
      outcome.certificate = "signed" ∧ ∀ row, cfg.shared.row "request" = some row →
        row.status = .signing ∨ row.status = .approved := by
  have ran : (Sample.runPrompt [] start Sample.overtaken).map
      (Sample.toldAt ⟨0, 6⟩) = some (some ("request",
        { status := .approved, certificate := "signed", resolvedAt := 1000000000000001 },
        .approved)) := by
    decide +kernel
  obtain ⟨cfg, runs, seen⟩ := map_eq_some_iff.mp ran
  obtain ⟨taken, run⟩ := Sample.promptRun_of_runPrompt _ .idle runs
  obtain ⟨returned, -⟩ := Sample.returned_of_toldAt seen
  refine ⟨taken, cfg, _, run, returned, rfl, ?_⟩
  exact (outcomes_agree run returned).2.2.2 (by decide)

/-- After a sweep that gave up too early, one client is told that the request failed and
the next one gets a certificate for it. -/
theorem outcomes_differ_late_reply : ∃ cfg outcome outcome',
    Reaches (system Sample.server) (Steps Sample.server) start cfg ∧
      cfg.Returned ⟨0, 4⟩ (.wait "request") (.waited (.ok outcome)) ∧
      cfg.Returned ⟨0, 6⟩ (.wait "request") (.waited (.ok outcome')) ∧
      outcome'.status ≠ outcome.status ∧ outcome'.certificate ≠ "" ∧
      ∃ row, cfg.shared.row "request" = some row ∧ row.status = .failed := by
  have ran : (Sample.after (Sample.givenUp ++ Sample.replied)).map
      (fun cfg => (Sample.toldAt ⟨0, 4⟩ cfg, Sample.toldAt ⟨0, 6⟩ cfg)) =
      some (some ("request", { status := .failed, resolvedAt := 1000000000000000 }, .failed),
        some ("request",
          { status := .approved, certificate := "signed", resolvedAt := 1000000000000001 },
          .failed)) := by
    decide +kernel
  obtain ⟨cfg, runs, seen⟩ := map_eq_some_iff.mp ran
  obtain ⟨first, second⟩ := Prod.mk.inj seen
  obtain ⟨returned, failed⟩ := Sample.returned_of_toldAt first
  obtain ⟨returned', -⟩ := Sample.returned_of_toldAt second
  exact ⟨cfg, _, _, Sample.reaches_after runs (by decide), returned, returned', by decide,
    by decide, failed⟩

end Ssoossh
