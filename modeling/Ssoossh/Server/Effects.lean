import Ssoossh.Server.Consistency
import Ssoossh.Server.Discipline

/-!
# What an action does to the shared state

`Effect` says once what each action can do and be answered, so that no later proof
unfolds `exec`.  From it come the two directions in which the server's calls are
reasoned about: how the state evolves (`Shared.Evolves`), which is what a call has to
expect of the others, and what an answer stands for from then on (`Learned`), which
is what a call knows.
-/

namespace Ssoossh

open Interleaving Relational

/-! ## Effects -/

/-- Answers that leave the state alone and say nothing about it. -/
def Quiet : (action : Act) → action.Resp → Prop
  | .read _, .ok _ => False
  | .write _, .ok _ => False
  | .cacheGet _, _ => False
  | .cachePut _ _ _, _ => False
  | .evict _, _ => False
  | .subscribe _, .ok _ => False
  | .publishWake _ _, .ok _ => False
  | .publishJob _, .ok _ => False
  | .receive _, .message _ => False
  | .random n, .ok bytes => bytes.length = n
  | _, _ => True

/-- What an action can do: its answer, and the state after it. -/
inductive Effect (tid : Tid) (s : Shared) : (action : Act) → action.Resp → Shared → Prop
  | read {query : Query} : Effect tid s (.read query) (.ok (query.answer s.db)) s
  | write {statement : Statement} {db : Database} {result : statement.Result}
      (done : statement.run s.db = .ok (db, result)) :
      Effect tid s (.write statement) (.ok result) (({ s with db } : Shared).note tid statement result)
  | cacheGet {id : RequestID} : Effect tid s (.cacheGet id) (s.resolved tid.process id) s
  | cachePut {site : PutSite} {id : RequestID} {outcome : WaitOutcome} :
      Effect tid s (.cachePut site id outcome) () (s.cachePut tid.process id outcome)
  | evict {cutoff : Int} : Effect tid s (.evict cutoff) () (s.evict tid.process cutoff)
  | subscribe {topic : String} (free : s.channels tid = none) :
      Effect tid s (.subscribe topic) (.ok ())
        { s with channels := Function.update s.channels tid (some { topic }) }
  | publishWake {topic : String} {payload : Option OutcomeMessage} :
      Effect tid s (.publishWake topic payload) (.ok ()) (s.publishWake topic payload)
  | publishJob {job : SigningJob} :
      Effect tid s (.publishJob job) (.ok ()) { s with jobs := job :: s.jobs }
  | receive {armed : Bool} {topic : String} {payload : Option OutcomeMessage}
      {queue delivered : List (Option OutcomeMessage)}
      (there : s.channels tid = some ⟨topic, payload :: queue, delivered⟩) :
      Effect tid s (.receive armed) (.message payload)
        { s with channels := Function.update s.channels tid (some ⟨topic, queue, delivered⟩) }
  | quiet {action : Act} {answer : action.Resp} (nothing : Quiet action answer) :
      Effect tid s action answer s

variable {tid : Tid} {s s' : Shared} {action : Act}

/-- **`exec` has no other effects.** -/
theorem effect_of_exec {choice : Choice} {answer : action.Resp}
    (h : exec tid s action choice = some (s', answer)) : Effect tid s action answer s' := by
  cases action with
  | read =>
    cases choice <;> cases h
    · exact .read
    · exact .quiet trivial
  | write =>
    cases choice with
    | done =>
      simp only [exec] at h
      split at h
      · cases h
        exact .write (by assumption)
      · cases h
        exact .quiet trivial
    | fail =>
      cases h
      exact .quiet trivial
    | _ => cases h
  | cacheGet =>
    cases choice <;> cases h
    exact .cacheGet
  | cachePut =>
    cases choice <;> cases h
    exact .cachePut
  | evict =>
    cases choice <;> cases h
    exact .evict
  | subscribe =>
    cases choice with
    | done =>
      simp only [exec, Shared.subscribe] at h
      split at h
      · cases h
        exact .subscribe (by assumption)
      · cases h
    | fail =>
      cases h
      exact .quiet trivial
    | _ => cases h
  | publishWake =>
    cases choice <;> cases h
    · exact .publishWake
    · exact .quiet trivial
  | publishJob =>
    cases choice <;> cases h
    · exact .publishJob
    · exact .quiet trivial
  | receive =>
    cases choice with
    | message =>
      simp only [exec, Shared.receive] at h
      split at h
      · cases h
        exact .receive (by assumption)
      · cases h
    | timer =>
      simp only [exec] at h
      split_ifs at h
      cases h
      exact .quiet trivial
    | closed | canceled =>
      cases h
      exact .quiet trivial
    | _ => cases h
  | random =>
    cases choice with
    | bytes =>
      simp only [exec] at h
      split_ifs at h with length
      cases h
      exact .quiet length
    | fail =>
      cases h
      exact .quiet trivial
    | _ => cases h
  | now | withinWindow | pollPause | newUUID =>
    cases choice <;> cases h <;> exact .quiet trivial

variable {id : RequestID}

/-- A look into the cache. -/
theorem Effect.of_cacheGet {answer : Option WaitOutcome}
    (effect : Effect tid s (.cacheGet id) answer s') :
    s' = s ∧ s.resolved tid.process id = answer := by
  cases effect with
  | cacheGet => exact ⟨rfl, rfl⟩
  | quiet nothing => exact nothing.elim

/-- A read. -/
theorem Effect.of_read {query : Query} {answer : Except DBError query.Row}
    (effect : Effect tid s (.read query) answer s') :
    s' = s ∧ ∀ row, answer = .ok row → row = query.answer s.db := by
  cases effect with
  | read =>
    refine ⟨rfl, fun row same => ?_⟩
    cases same
    rfl
  | quiet nothing =>
    refine ⟨rfl, fun row same => ?_⟩
    subst same
    exact nothing.elim

/-- A message that is taken was next in the channel. -/
theorem Effect.of_receive {armed : Bool} {payload : Option OutcomeMessage}
    (effect : Effect tid s (.receive armed) (.message payload) s') :
    ∃ topic queue delivered, s.channels tid = some ⟨topic, payload :: queue, delivered⟩ := by
  cases effect with
  | receive there => exact ⟨_, _, _, there⟩
  | quiet nothing => exact nothing.elim

/-- A call that subscribes had not done so. -/
theorem Effect.of_subscribe {topic : String} {opened : Unit}
    (effect : Effect tid s (.subscribe topic) (.ok opened) s') : s.channels tid = none := by
  cases effect with
  | subscribe free => exact free
  | quiet nothing => exact nothing.elim

/-! ## Evolution -/

namespace Shared

section Note

variable (s : Shared) (tid : Tid) (statement : Statement) (result : statement.Result)

@[simp] theorem db_note : (s.note tid statement result).db = s.db := by
  unfold note
  split <;> rfl

@[simp] theorem resolved_note : (s.note tid statement result).resolved = s.resolved := by
  unfold note
  split <;> rfl

@[simp] theorem channels_note : (s.note tid statement result).channels = s.channels := by
  unfold note
  split <;> rfl

@[simp] theorem jobs_note : (s.note tid statement result).jobs = s.jobs := by
  unfold note
  split <;> rfl

@[simp] theorem told_note : (s.note tid statement result).told = s.told := by
  unfold note
  split <;> rfl

theorem grants_subset_note : s.grants ⊆ (s.note tid statement result).grants := by
  unfold note
  split
  · exact List.subset_cons_self _ _
  · exact List.Subset.refl _
  · exact List.Subset.refl _

theorem claims_subset_note : s.claims ⊆ (s.note tid statement result).claims := by
  unfold note
  split
  · exact List.Subset.refl _
  · exact List.subset_cons_self _ _
  · exact List.Subset.refl _

end Note

/-- A channel stays open on its topic, and what was delivered stays delivered. -/
def ChannelsEvolve (channels channels' : Tid → Option Channel) : Prop :=
  ∀ tid channel, channels tid = some channel → ∃ channel', channels' tid = some channel' ∧
    channel'.topic = channel.topic ∧ channel.delivered ⊆ channel'.delivered

theorem ChannelsEvolve.refl (channels : Tid → Option Channel) : ChannelsEvolve channels channels :=
  fun _ channel found => ⟨channel, found, rfl, List.Subset.refl _⟩

/-- A channel is replaced by one on the same topic, or opened. -/
theorem ChannelsEvolve.update {channels : Tid → Option Channel} {tid : Tid} {channel' : Channel}
    (grows : ∀ channel, channels tid = some channel →
      channel'.topic = channel.topic ∧ channel.delivered ⊆ channel'.delivered) :
    ChannelsEvolve channels (Function.update channels tid (some channel')) := by
  intro other channel found
  by_cases same : other = tid
  · subst same
    exact ⟨channel', Function.update_self _ _ _, grows channel found⟩
  · exact ⟨channel, by rw [Function.update_of_ne same, found], rfl, List.Subset.refl _⟩

/-- How the shared state evolves over any number of actions. -/
structure Evolves (s s' : Shared) : Prop where
  db : s.db.Evolves s'.db
  channels : ChannelsEvolve s.channels s'.channels
  jobs : s.jobs ⊆ s'.jobs
  told : s.told ⊆ s'.told
  grants : s.grants ⊆ s'.grants
  claims : s.claims ⊆ s'.claims

theorem Evolves.refl (s : Shared) : s.Evolves s :=
  ⟨.refl s.db, .refl s.channels, List.Subset.refl _, List.Subset.refl _, List.Subset.refl _,
    List.Subset.refl _⟩

theorem Evolves.trans {a b c : Shared} (h : a.Evolves b) (h' : b.Evolves c) : a.Evolves c where
  db := Database.Evolves.trans h.db h'.db
  channels tid channel found := by
    obtain ⟨mid, found₁, topic₁, delivered₁⟩ := h.channels tid channel found
    obtain ⟨last, found₂, topic₂, delivered₂⟩ := h'.channels tid mid found₁
    exact ⟨last, found₂, topic₂.trans topic₁, List.Subset.trans delivered₁ delivered₂⟩
  jobs := List.Subset.trans h.jobs h'.jobs
  told := List.Subset.trans h.told h'.told
  grants := List.Subset.trans h.grants h'.grants
  claims := List.Subset.trans h.claims h'.claims

end Shared

/-- **One lawful action lets the state evolve.** -/
theorem Effect.evolves {answer : action.Resp} (effect : Effect tid s action answer s')
    (lawful : ∀ statement, action = .write statement → statement.Lawful) : s.Evolves s' := by
  have same := Shared.Evolves.refl s
  cases effect with
  | read | cacheGet | quiet => exact same
  | @write statement db result done =>
    refine ⟨?_, ?_, ?_, ?_, Shared.grants_subset_note { s with db } tid statement result,
      Shared.claims_subset_note { s with db } tid statement result⟩
    · rw [Shared.db_note]
      exact Statement.evolves (lawful statement rfl) done
    · rw [Shared.channels_note]
      exact same.channels
    · rw [Shared.jobs_note]
      exact same.jobs
    · rw [Shared.told_note]
      exact same.told
  | cachePut => exact { same with told := List.subset_cons_self _ _ }
  | evict => exact { same with }
  | subscribe free =>
    refine { same with channels := .update fun channel found => ?_ }
    rw [free] at found
    cases found
  | @publishWake topic payload =>
    refine { same with channels := fun other channel found => ?_ }
    refine ⟨if channel.topic = topic then channel.push payload else channel,
      by simp only [Shared.publishWake, found, Option.map_some], ?_⟩
    split_ifs
    · exact ⟨rfl, List.subset_cons_self _ _⟩
    · exact ⟨rfl, List.Subset.refl _⟩
  | publishJob => exact { same with jobs := List.subset_cons_self _ _ }
  | receive there =>
    refine { same with channels := .update fun channel found => ?_ }
    rw [there] at found
    cases found
    exact ⟨rfl, List.Subset.refl _⟩

/-! ## What an answer stands for -/

/-- What the answer to a read stands for from then on. -/
def Query.Learned (s : Shared) : (query : Query) → query.Row → Prop
  | .request _ id, some row => ∃ row', s.row id = some row' ∧ row.Evolves row'
  | .user subject, some row => ∃ row', s.db.users.find? row.id = some row' ∧
    row'.subject = subject
  | .enrollmentByCode _, some row => ∃ row', s.db.enrollments.find? row.id = some row' ∧
    row.SameGrant row'
  | _, _ => True

/-- A request has ended with a status. -/
def Shared.Ended (s : Shared) (id : RequestID) (status : Status) : Prop :=
  ∃ row, s.row id = some row ∧ row.status = status ∧ status.terminal = true

/-- What the result of a write stands for from then on. -/
def Statement.Learned (tid : Tid) (s : Shared) : (statement : Statement) → statement.Result → Prop
  | .bindRequester id userID, true => ∃ row, s.row id = some row ∧ row.userID = some userID
  | .approveForSigning id serial _ decision, .committed =>
    s.db.decisions.find? decision.certificateRequestID = some decision ∧
      ∃ row, s.row id = some row ∧ row.status ≠ .pending ∧ row.serialNumber = some serial
  | .approveServiceEnrollment grant _, .committed => s.Ended grant.requestID .enrolled
  | .deny id _ _ _, .committed => s.Ended id .denied
  | .expire id _, true => s.Ended id .expired
  | .failStranded _ _ _, (rows : List CertificateRequest) => ∀ row ∈ rows, s.Ended row.id .failed
  | .insertRetrieval row, _ => ∃ row', s.db.retrievals.find? row.id = some row' ∧ row.Same row'
  | .claimPage id hash _ _, true => ⟨tid, id, hash⟩ ∈ s.claims
  | _, _ => True

/-- What an answer stands for from then on. -/
def Learned (tid : Tid) (s : Shared) : (action : Act) → action.Resp → Prop
  | .read query, .ok row => query.Learned s row
  | .write statement, .ok result => statement.Learned tid s result
  | .cacheGet id, some outcome => ⟨tid.process, id, outcome⟩ ∈ s.told
  | .cachePut _ id outcome, _ => ⟨tid.process, id, outcome⟩ ∈ s.told
  | .subscribe topic, .ok _ => ∃ channel, s.channels tid = some channel ∧ channel.topic = topic
  | .receive _, .message (some message) => ∃ channel, s.channels tid = some channel ∧
    ∃ told ∈ s.told, told.requestID = channel.topic ∧ told.outcome.toMessage = message
  | _, _ => True

section Stable

variable {tid : Tid} {s s' : Shared}

variable (h : s.Evolves s')
include h

theorem Shared.Evolves.row {row : CertificateRequest}
    (found : s.row id = some row) : ∃ row', s'.row id = some row' ∧ row.Evolves row' :=
  h.db.requests id row found

theorem Shared.Ended.mono {status : Status} : s.Ended id status → s'.Ended id status := by
  rintro ⟨row, found, rfl, isOver⟩
  obtain ⟨row', found', evolved⟩ := h.row found
  exact ⟨row', found', evolved.status.eq_of_terminal isOver, isOver⟩

theorem Query.Learned.mono {query : Query} {row : query.Row}
    (known : query.Learned s row) : query.Learned s' row := by
  unfold Learned at known ⊢
  split at known
  · obtain ⟨row', found, evolved⟩ := known
    obtain ⟨row'', found', evolved'⟩ := h.row found
    exact ⟨row'', found', CertificateRequest.Evolves.trans evolved evolved'⟩
  · obtain ⟨user', found, same⟩ := known
    obtain ⟨user'', found', same'⟩ := h.db.users _ _ found
    exact ⟨user'', found', same'.trans same⟩
  · obtain ⟨enrollment', found, same⟩ := known
    obtain ⟨enrollment'', found', same'⟩ := h.db.enrollments _ _ found
    exact ⟨enrollment'', found', same.trans same'⟩
  · trivial

theorem Statement.Learned.mono {statement : Statement}
    {result : statement.Result} (known : statement.Learned tid s result) :
    statement.Learned tid s' result := by
  unfold Learned at known ⊢
  split at known
  · obtain ⟨row, found, owner⟩ := known
    obtain ⟨row', found', evolved⟩ := h.row found
    exact ⟨row', found', evolved.owner _ owner⟩
  · obtain ⟨recorded, row, found, left, serial⟩ := known
    obtain ⟨row', found', evolved⟩ := h.row found
    exact ⟨h.db.decisions _ _ recorded, row', found', evolved.status.ne_pending left,
      (evolved.serial left).trans serial⟩
  · exact known.mono h
  · exact known.mono h
  · exact known.mono h
  · exact fun row member => (known row member).mono h
  · obtain ⟨retrieval', found, same⟩ := known
    obtain ⟨retrieval'', found', same'⟩ := h.db.retrievals _ _ found
    exact ⟨retrieval'', found', same.trans same'⟩
  · exact h.claims known
  · trivial

/-- **What an answer stands for is not undone.** -/
theorem Learned.mono {answer : action.Resp}
    (known : Learned tid s action answer) : Learned tid s' action answer := by
  unfold Learned at known ⊢
  split at known
  · exact known.mono h
  · exact known.mono h
  · exact h.told known
  · exact h.told known
  · obtain ⟨channel, found, topic⟩ := known
    obtain ⟨channel', found', topic', -⟩ := h.channels tid channel found
    exact ⟨channel', found', topic'.trans topic⟩
  · obtain ⟨channel, found, told, member, topic, message⟩ := known
    obtain ⟨channel', found', topic', -⟩ := h.channels tid channel found
    exact ⟨channel', found', told, h.told member, topic.trans topic'.symm, message⟩
  · trivial

end Stable

end Ssoossh
