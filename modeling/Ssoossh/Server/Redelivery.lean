import Ssoossh.Server.Effects

/-!
# Redelivery of a signed reply

A reply is delivered at least once: the handler's error has it delivered again, and a
process that stops has it delivered to another.  An attempt may therefore end anywhere, and
the next one starts from the beginning.

**What one attempt does** is read off the handler's own history (`Delivers`): it records a
certificate under the id it drew, and it resolves the request.  The first is harmless to
repeat because of the serial, the second because of the status it asks for.  A reply that
reports a failure records no certificate at all.

## Main definitions

* `Attempt`, `tryOnce`, `redeliver`: attempts at one reply, each stopped where its choices end.
* `Recording`: what one attempt, and `Recorded`: what several have done to the certificates.
* `SignedReply.settle`: what a complete delivery makes of a status.
-/

namespace Ssoossh

open Interleaving Relational Prog List Option

/-! ## Attempts -/

/-- One attempt: where it runs, and what the environment decides until it stops. -/
structure Attempt where
  tid : Tid
  choices : List Choice

/-- What came of an attempt: its history, and whether the handler returned without an
error. -/
structure Tried where
  events : History
  completed : Bool

/-- One attempt at a reply. -/
def tryOnce (reply : SignedReply) (s : Shared) (attempt : Attempt) : Option (Shared × Tried) :=
  match (handle reply).run.drive (exec attempt.tid) s [] attempt.choices with
  | some (.ret (.ok _), s', events) => some (s', ⟨events, true⟩)
  | some (_, s', events) => some (s', ⟨events, false⟩)
  | none => none

/-- Attempts one after another. -/
def redeliver (reply : SignedReply) : Shared → List Attempt → Option (Shared × List Tried)
  | s, [] => some (s, [])
  | s, attempt :: attempts =>
    match tryOnce reply s attempt with
    | none => none
    | some (s', tried) => (redeliver reply s' attempts).map fun rest => (rest.1, tried :: rest.2)

/-! ## The handler's history -/

/-- The table `certificates`. -/
abbrev Certificates := Table Certificate.id (fun certificate => some certificate.serialNumber)

/-- A row has the serial. -/
def HasSerial (table : Certificates) (serial : Nat) : Prop :=
  ∃ row ∈ table.rows, row.serialNumber = serial

/-- The row of an insert that went through, whether or not the serial was there already. -/
def recordedRow : Event Act.Resp → Option Certificate
  | ⟨.write (.recordCertificate row), .ok _⟩ => some row
  | _ => none

/-- An update of the request that went through, whether or not it was still being signed. -/
def marksRequest : Event Act.Resp → Bool
  | ⟨.write (.markResolved _ _ _ _), .ok _⟩ => true
  | _ => false

/-- The insert of an attempt went through. -/
def Records (events : History) : Prop := ∃ event ∈ events, (recordedRow event).isSome = true

/-- The update of an attempt went through. -/
def Marks (events : History) : Prop := ∃ event ∈ events, marksRequest event = true

namespace SignedReply

variable (reply : SignedReply)

/-- The status a reply gives its request. -/
def outcome : Status := if reply.failed then .failed else .approved

/-- What a complete delivery makes of a status. -/
def settle (status : Status) : Status :=
  if resolvesRequestRow reply = true ∧ status = .signing then reply.outcome else status

theorem outcome_ne_signing : reply.outcome ≠ .signing := by
  unfold outcome
  split_ifs <;> decide

/-- Settled once is settled. -/
theorem settle_settle (status : Status) : reply.settle (reply.settle status) = reply.settle status := by
  unfold settle
  by_cases settles : resolvesRequestRow reply = true ∧ status = .signing
  · rw [if_pos settles, if_neg fun again => reply.outcome_ne_signing again.2]
  · rw [if_neg settles, if_neg settles]

end SignedReply

/-- The actions of the handler: of the writes, only the two it makes. -/
def Delivers (reply : SignedReply) (past : History) : Act → Prop
  | .write (.recordCertificate row) =>
    reply.failed = false ∧ row.serialNumber = reply.serial ∧
      (⟨.newUUID, row.id⟩ : Event Act.Resp) ∈ past
  | .write (.markResolved id status _ _) =>
    id = reply.requestID ∧ status = reply.outcome ∧ resolvesRequestRow reply = true
  | .write _ => False
  | _ => True

section Walk

variable {reply : SignedReply} {past : History}

/-- The insert is of a row under the id drawn. -/
theorem recordFor_delivers (signed : reply.failed = false)
    (owner : Option UserID × Option RequestID) :
    Yields (fun _ _ => True) (Delivers reply) (fun now _ => Records now)
      (recordFor reply owner) past := by
  refine yields_step trivial fun now certificateID _ drawn => ?_
  have may : Delivers reply now (.write (.recordCertificate
      { id := certificateID
        type := reply.type
        userID := owner.1
        certificateRequestID := owner.2
        publicKeyFingerprint := reply.publicKeyFingerprint
        serialNumber := reply.serial
        keyID := reply.keyID
        principals := reply.principals
        criticalOptions := reply.criticalOptions
        extensions := reply.extensions
        issuedAt := reply.validAfter
        expiresAt := reply.validBefore })) := ⟨signed, rfl, drawn.1⟩
  refine (yields_write may).bind fun now _ _ written => ?_
  exact yields_pure ⟨_, written, rfl⟩

theorem recordCertificate_delivers (signed : reply.failed = false) :
    Yields (fun _ _ => True) (Delivers reply) (fun now _ => Records now)
      (recordCertificate reply) past := by
  unfold recordCertificate
  split_ifs
  · refine Yields.bind (Q := fun _ _ => True) ?_ fun now owner _ _ => recordFor_delivers signed owner
    refine yields_step trivial fun now answer _ _ => ?_
    split
    · refine yields_step trivial fun now answer _ _ => ?_
      split <;> exact yields_pure trivial
    · exact yields_pure trivial
  · refine Yields.bind (Q := fun _ _ => True) ?_ fun now owner _ _ => recordFor_delivers signed owner
    refine yields_step trivial fun now answer _ _ => ?_
    split <;> exact yields_pure trivial

/-- The rest of a delivery, which both kinds of reply share. -/
theorem resolve_delivers {outcome : WaitOutcome} {failureReason : String}
    (status : outcome.status = reply.outcome) :
    Yields (fun _ _ => True) (Delivers reply)
      (fun now _ => past ⊆ now ∧ (resolvesRequestRow reply = true → Marks now))
      (do notifyWaiter reply.requestID outcome
          if resolvesRequestRow reply then markResolved reply.requestID outcome.status failureReason
          else pure ()) past := by
  have told : Yields (fun _ _ => True) (Delivers reply) (fun now _ => past ⊆ now)
      (notifyWaiter reply.requestID outcome) past := by
    refine yields_step trivial fun now time grown _ => ?_
    refine yields_step trivial fun later _ grown' _ => ?_
    refine yields_step trivial fun latest _ grown'' _ => yields_pure ?_
    exact List.Subset.trans grown (List.Subset.trans grown' grown'')
  refine told.bind fun now _ _ grown => ?_
  split_ifs with resolves
  · refine yields_step trivial fun later time grown' _ => ?_
    have may : Delivers reply later
        (.write (.markResolved reply.requestID outcome.status failureReason time)) :=
      ⟨rfl, status, resolves⟩
    refine (yields_write may).bind fun latest _ grown'' written => yields_pure ⟨?_, ?_⟩
    · exact List.Subset.trans grown (List.Subset.trans grown' grown'')
    · exact fun _ => ⟨_, written, rfl⟩
  · exact yields_pure ⟨grown, fun impossible => absurd impossible resolves⟩

/-- **The handler, whatever it is answered.**  It returns without an error only after its
writes went through. -/
theorem handle_delivers : Yields (fun _ _ => True) (Delivers reply)
      (fun now _ => (reply.failed = false → Records now) ∧
        (resolvesRequestRow reply = true → Marks now)) (handle reply) past := by
  unfold handle
  cases failed : reply.failed with
  | true =>
    have status : ({ status := .failed } : WaitOutcome).status = reply.outcome := by
      rw [SignedReply.outcome, failed]
      rfl
    refine (resolve_delivers status).mono fun now _ _ known => ⟨?_, known.2⟩
    exact nofun
  | false =>
    have status : ({ status := .approved, certificate := reply.certificate } : WaitOutcome).status =
        reply.outcome := by
      rw [SignedReply.outcome, failed]
      rfl
    refine (recordCertificate_delivers failed).bind fun now _ _ recorded => ?_
    refine (resolve_delivers status).mono fun later _ _ known => ⟨fun _ => ?_, known.2⟩
    obtain ⟨event, member, row⟩ := recorded
    exact ⟨event, known.1 member, row⟩

end Walk

/-! ## What an attempt does to the certificates -/

/-- What an attempt with a history has made of a table. -/
inductive Recording (reply : SignedReply) (events : History) (table : Certificates) :
    Certificates → Prop
  | untouched (silent : ¬ Records events) : Recording reply events table table
  | known (signed : reply.failed = false) (recorded : Records events)
      (there : HasSerial table reply.serial) : Recording reply events table table
  | added {row : Certificate} {next : Certificates} (signed : reply.failed = false)
      (recorded : Records events) (unknown : ¬ HasSerial table reply.serial)
      (inserted : table.insert row = some next) (serial : row.serialNumber = reply.serial)
      (drawn : (⟨.newUUID, row.id⟩ : Event Act.Resp) ∈ events) : Recording reply events table next

section Recording

variable {reply : SignedReply} {events : History} {table next : Certificates}

variable {row : Certificate}

theorem hasSerial_insert (inserted : table.insert row = some next) {serial : Nat} :
    HasSerial next serial ↔ row.serialNumber = serial ∨ HasSerial table serial := by
  unfold HasSerial
  rw [Table.rows_insert inserted, or_comm]
  simp

variable {db db' : Database} {result : Bool}

/-- An insert where the serial is there. -/
theorem recordCertificate_of_hasSerial (there : HasSerial db.certificates row.serialNumber)
    (done : db.recordCertificate row = .ok (db', result)) : db' = db := by
  obtain ⟨old, member, same⟩ := there
  unfold Database.recordCertificate at done
  split at done
  · cases done
    rfl
  · rename_i absent
    have different := find?_eq_none.mp absent old member
    exact absurd same (by simpa using different)

/-- ... and where it is not. -/
theorem recordCertificate_of_not_hasSerial (unknown : ¬ HasSerial db.certificates row.serialNumber)
    (done : db.recordCertificate row = .ok (db', result)) :
    db.certificates.insert row = some db'.certificates ∧ db'.requests = db.requests := by
  unfold Database.recordCertificate at done
  split at done
  · rename_i old found
    have same : old.serialNumber = row.serialNumber := by simpa using find?_some found
    exact absurd ⟨old, (Table.mem_of_findWhere found).1, same⟩ unknown
  · split at done
    · rename_i inserted
      cases done
      exact ⟨inserted, rfl⟩
    · cases done

/-- After an insert the serial is there. -/
theorem Recording.hasSerial (h : Recording reply events table next) (recorded : Records events) :
    HasSerial next reply.serial := by
  cases h with
  | untouched silent => exact absurd recorded silent
  | known _ _ there => exact there
  | added _ _ _ inserted serial => exact (hasSerial_insert inserted).mpr (.inl serial)

/-- An event that is not an insert. -/
theorem Recording.skip {event : Event Act.Resp} (h : Recording reply events table next)
    (other : recordedRow event = none) : Recording reply (event :: events) table next := by
  have same : Records (event :: events) ↔ Records events := by
    unfold Records
    rw [exists_mem_cons_iff, other]
    simp
  cases h with
  | untouched silent => exact .untouched (fun recorded => silent (same.mp recorded))
  | known signed recorded there => exact .known signed (same.mpr recorded) there
  | added signed recorded unknown inserted serial drawn =>
    exact .added signed (same.mpr recorded) unknown inserted serial (mem_cons_of_mem _ drawn)

/-- An insert. -/
theorem Recording.record (h : Recording reply events table db.certificates)
    (signed : reply.failed = false) (serial : row.serialNumber = reply.serial)
    (drawn : (⟨.newUUID, row.id⟩ : Event Act.Resp) ∈ events)
    (done : db.recordCertificate row = .ok (db', result)) :
    Recording reply (⟨.write (.recordCertificate row), .ok result⟩ :: events) table
      db'.certificates := by
  have recorded : Records (⟨.write (.recordCertificate row), .ok result⟩ :: events) :=
    ⟨_, mem_cons_self, rfl⟩
  have again (there : HasSerial db.certificates reply.serial) : db' = db :=
    recordCertificate_of_hasSerial (serial ▸ there) done
  generalize before : db.certificates = current at h
  cases h with
  | untouched =>
    by_cases there : HasSerial table reply.serial
    · rw [again (before ▸ there), before]
      exact .known signed recorded there
    · have unknown : ¬ HasSerial db.certificates row.serialNumber := by rw [before, serial]; exact there
      obtain ⟨inserted, -⟩ := recordCertificate_of_not_hasSerial unknown done
      rw [before] at inserted
      exact .added signed recorded there inserted serial (mem_cons_of_mem _ drawn)
  | known signed _ there =>
    rw [again (before ▸ there), before]
    exact .known signed recorded there
  | added signed _ unknown inserted serial' drawn' =>
    have there : HasSerial db.certificates reply.serial := by
      rw [before, hasSerial_insert inserted]
      exact .inl serial'
    rw [again there, before]
    exact .added signed recorded unknown inserted serial' (mem_cons_of_mem _ drawn')

end Recording

/-! ## What an attempt does to the request -/

/-- The status of a request. -/
def Shared.statusOf (s : Shared) (id : RequestID) : Option Status := (s.row id).map (·.status)

variable {reply : SignedReply}

/-- `markResolved` settles the status of its request. -/
theorem statusOf_markResolved (resolves : resolvesRequestRow reply = true) (db : Database)
    (failureReason : String) (now : Int) :
    ((db.updateRequest reply.requestID
      (.resolved reply.outcome failureReason now)).requests.find? reply.requestID).map (·.status) =
      ((db.requests.find? reply.requestID).map (·.status)).map reply.settle := by
  rw [Database.updateRequest, Database.find?_updateRequests, Option.map_map, Option.map_map]
  refine map_congr fun row found => ?_
  have key := Table.find?_key found
  simp only [Function.comp_apply, SignedReply.settle, resolves, true_and, key, decide_true,
    Bool.true_and, RequestUpdate.resolved, RequestUpdate.ofStatus, Bool.and_true, beq_iff_eq]
  split_ifs <;> rfl

/-- How far an attempt has come. -/
structure Delivering (reply : SignedReply) (first : Shared) (events : History) (s : Shared) :
    Prop where
  certificates : Recording reply events first.db.certificates s.db.certificates
  unmarked : ¬ Marks events → s.statusOf reply.requestID = first.statusOf reply.requestID
  marked : Marks events →
    s.statusOf reply.requestID = (first.statusOf reply.requestID).map reply.settle

namespace Delivering

variable {reply : SignedReply} {first s s' : Shared} {events : History}

theorem start (reply : SignedReply) (first : Shared) : Delivering reply first [] first where
  certificates := .untouched fun recorded => by simp [Records] at recorded
  unmarked := fun _ => rfl
  marked := fun marked => by simp [Marks] at marked

/-- An event that does not mark the request. -/
theorem unmarking {event : Event Act.Resp} (h : Delivering reply first events s)
    (same : marksRequest event = false) (requests : s'.db.requests = s.db.requests)
    (certificates : Recording reply (event :: events) first.db.certificates s'.db.certificates) :
    Delivering reply first (event :: events) s' := by
  have marks : Marks (event :: events) ↔ Marks events := by
    unfold Marks
    rw [exists_mem_cons_iff, same]
    simp
  have status : s'.statusOf reply.requestID = s.statusOf reply.requestID := by
    rw [Shared.statusOf, Shared.statusOf, Shared.row, Shared.row, requests]
  refine ⟨certificates, fun unmarked => ?_, fun marked => ?_⟩
  · rw [status, h.unmarked fun marked => unmarked (marks.mpr marked)]
  · rw [status, h.marked (marks.mp marked)]

/-- An event that changes neither table. -/
theorem skip {event : Event Act.Resp} (h : Delivering reply first events s)
    (other : recordedRow event = none) (same : marksRequest event = false) (db : s'.db = s.db) :
    Delivering reply first (event :: events) s' :=
  h.unmarking same (by rw [db]) (by rw [db]; exact h.certificates.skip other)

/-- **One action of the handler.** -/
theorem step {tid : Tid} {action : Act} {choice : Choice} {answer : action.Resp}
    (h : Delivering reply first events s) (may : Delivers reply events action)
    (done : exec tid s action choice = some (s', answer)) :
    Delivering reply first (⟨action, answer⟩ :: events) s' := by
  have effect := effect_of_exec done
  cases effect with
  | @write statement db result ran =>
    cases statement with
    | recordCertificate row =>
      obtain ⟨signed, serial, drawn⟩ := may
      have requests : db.requests = s.db.requests := by
        by_cases there : HasSerial s.db.certificates row.serialNumber
        · rw [recordCertificate_of_hasSerial there ran]
        · exact (recordCertificate_of_not_hasSerial there ran).2
      exact h.unmarking rfl requests (h.certificates.record signed serial drawn ran)
    | markResolved id status failureReason now =>
      obtain ⟨rfl, rfl, resolves⟩ := may
      have updated : db = s.db.updateRequest reply.requestID
          (.resolved reply.outcome failureReason now) :=
        (Prod.mk.inj (Except.ok.inj ran)).1.symm
      refine ⟨?_, fun silent => ?_, fun _ => ?_⟩
      · rw [Shared.db_note, updated]
        exact h.certificates.skip rfl
      · exact absurd ⟨_, mem_cons_self, rfl⟩ silent
      · have settled : (({ s with db } : Shared).note tid
            (.markResolved reply.requestID reply.outcome failureReason now) result).statusOf
            reply.requestID = (s.statusOf reply.requestID).map reply.settle := by
          rw [Shared.statusOf, Shared.row, Shared.db_note, updated]
          exact statusOf_markResolved resolves s.db failureReason now
        rw [settled]
        by_cases marked : Marks events
        · rw [h.marked marked, Option.map_map]
          exact congrArg (Option.map · _) (funext reply.settle_settle)
        · rw [h.unmarked marked]
    | _ => exact may.elim
  | quiet nothing =>
    refine h.skip ?_ ?_ rfl
    · unfold recordedRow
      split
      · rename_i same
        cases same
        exact nothing.elim
      · rfl
    · unfold marksRequest
      split
      · rename_i same
        cases same
        exact nothing.elim
      · rfl
  | _ => exact h.skip rfl rfl rfl

end Delivering

/-! ## One attempt -/

/-- What one attempt comes to. -/
structure TriedOnce (reply : SignedReply) (first : Shared) (tried : Tried) (last : Shared) :
    Prop where
  certificates : Recording reply tried.events first.db.certificates last.db.certificates
  status : last.statusOf reply.requestID = first.statusOf reply.requestID ∨
    last.statusOf reply.requestID = (first.statusOf reply.requestID).map reply.settle
  recorded : tried.completed = true → reply.failed = false → Records tried.events
  settled : tried.completed = true →
    last.statusOf reply.requestID = (first.statusOf reply.requestID).map reply.settle

theorem triedOnce_of_tryOnce {first last : Shared} {attempt : Attempt} {tried : Tried}
    (h : tryOnce reply first attempt = some (last, tried)) : TriedOnce reply first tried last := by
  obtain ⟨rest, driven, finished⟩ : ∃ rest, (handle reply).run.drive (exec attempt.tid) first []
      attempt.choices = some (rest, last, tried.events) ∧
      (tried.completed = true → ∃ value, rest = .ret (.ok value)) := by
    unfold tryOnce at h
    split at h
    · cases h
      exact ⟨_, by assumption, fun _ => ⟨_, rfl⟩⟩
    · cases h
      exact ⟨_, by assumption, nofun⟩
    · cases h
  obtain ⟨delivering, result⟩ := Follows.drive (fun inv may done => inv.step may done)
    handle_delivers (Delivering.start reply first) driven
  have ends (completed : tried.completed = true) :
      (reply.failed = false → Records tried.events) ∧
        (resolvesRequestRow reply = true → Marks tried.events) := by
    obtain ⟨value, returned⟩ := finished completed
    exact result _ returned value rfl
  refine ⟨delivering.certificates, ?_, fun completed => (ends completed).1, fun completed => ?_⟩
  · by_cases marked : Marks tried.events
    · exact .inr (delivering.marked marked)
    · exact .inl (delivering.unmarked marked)
  · by_cases marked : Marks tried.events
    · exact delivering.marked marked
    · -- A reply without a request row of its own settles nothing.
      have none : ¬ resolvesRequestRow reply = true := fun resolves =>
        marked ((ends completed).2 resolves)
      have same : reply.settle = id := funext fun status => if_neg fun both => none both.1
      rw [delivering.unmarked marked, same, Option.map_id, id_eq]

/-! ## Any number of attempts -/

/-- What attempts one after another have made of the certificates: the first whose insert
went through decides. -/
inductive Recorded (reply : SignedReply) (tried : List Tried) (table : Certificates) :
    Certificates → Prop
  | untouched (silent : ∀ t ∈ tried, ¬ Records t.events) : Recorded reply tried table table
  | known (signed : reply.failed = false) (there : HasSerial table reply.serial) :
      Recorded reply tried table table
  | added {row : Certificate} {next : Certificates} {later : List Tried} {winner : Tried}
      (earlier : List Tried) (signed : reply.failed = false) (unknown : ¬ HasSerial table reply.serial)
      (split : tried = earlier ++ winner :: later) (silent : ∀ t ∈ earlier, ¬ Records t.events)
      (recorded : Records winner.events) (inserted : table.insert row = some next)
      (serial : row.serialNumber = reply.serial)
      (drawn : (⟨.newUUID, row.id⟩ : Event Act.Resp) ∈ winner.events) :
      Recorded reply tried table next

/-- Where the serial is there, nothing is recorded. -/
theorem Recorded.eq_of_hasSerial {tried : List Tried} {table next : Certificates}
    (h : Recorded reply tried table next) (there : HasSerial table reply.serial) :
    next = table := by
  cases h with
  | untouched | known => rfl
  | added _ _ unknown => exact absurd there unknown

/-- One attempt more, before the others. -/
theorem Recorded.cons {tried : List Tried} {t : Tried} {table mid next : Certificates}
    (once : Recording reply t.events table mid) (h : Recorded reply tried mid next) :
    Recorded reply (t :: tried) table next := by
  cases once with
  | untouched silent =>
    cases h with
    | untouched silent' =>
      exact .untouched (forall_mem_cons.mpr ⟨silent, silent'⟩)
    | known signed there => exact .known signed there
    | added earlier signed unknown split silent' recorded inserted serial drawn =>
      exact .added (t :: earlier) signed unknown (by rw [split]; rfl)
        (forall_mem_cons.mpr ⟨silent, silent'⟩) recorded inserted serial drawn
  | known signed _ there =>
    rw [h.eq_of_hasSerial there]
    exact .known signed there
  | added signed recorded unknown inserted serial drawn =>
    rw [h.eq_of_hasSerial ((hasSerial_insert inserted).mpr (.inl serial))]
    exact .added [] signed unknown rfl (nofun) recorded
      inserted serial drawn

/-- **Redelivery is harmless**: what any attempts at a reply come to. -/
structure Harmless (reply : SignedReply) (first : Shared) (tried : List Tried) (last : Shared) :
    Prop where
  /-- No row that was there has changed. -/
  kept : ∀ row ∈ first.db.certificates.rows, row ∈ last.db.certificates.rows
  /-- A failure records no certificate. -/
  failed : reply.failed = true → last.db.certificates = first.db.certificates
  /-- Nor does a reply whose serial is taken. -/
  taken : HasSerial first.db.certificates reply.serial → last.db.certificates = first.db.certificates
  /-- Otherwise the row is that of the first attempt whose insert went through. -/
  added : reply.failed = false → ¬ HasSerial first.db.certificates reply.serial →
    ∀ earlier winner later, tried = earlier ++ winner :: later →
      (∀ t ∈ earlier, ¬ Records t.events) → Records winner.events →
      ∃ row, first.db.certificates.insert row = some last.db.certificates ∧
        row.serialNumber = reply.serial ∧ (⟨.newUUID, row.id⟩ : Event Act.Resp) ∈ winner.events
  /-- Once an attempt was complete there is exactly one row. -/
  single : reply.failed = false → (∃ t ∈ tried, t.completed = true) →
    ∃! row, row ∈ last.db.certificates.rows ∧ row.serialNumber = reply.serial
  /-- Once an attempt was complete the request is as after one complete delivery. -/
  settled : (∃ t ∈ tried, t.completed = true) →
    ∀ attempt once t, tryOnce reply first attempt = some (once, t) → t.completed = true →
      last.statusOf reply.requestID = once.statusOf reply.requestID

section Harmless

variable {reply : SignedReply} {first last : Shared} {tried : List Tried}

/-- The certificates and the request, over all attempts. -/
theorem recorded_of_redeliver {attempts : List Attempt}
    (h : redeliver reply first attempts = some (last, tried)) :
    Recorded reply tried first.db.certificates last.db.certificates ∧
      (last.statusOf reply.requestID = first.statusOf reply.requestID ∨
        last.statusOf reply.requestID = (first.statusOf reply.requestID).map reply.settle) ∧
      ((∃ t ∈ tried, t.completed = true) →
        (reply.failed = false → HasSerial last.db.certificates reply.serial) ∧
          last.statusOf reply.requestID = (first.statusOf reply.requestID).map reply.settle) := by
  induction attempts generalizing first tried with
  | nil =>
    cases h
    exact ⟨.untouched nofun, .inl rfl, fun ⟨_, member, _⟩ => nomatch member⟩
  | cons attempt attempts ih =>
    unfold redeliver at h
    split at h
    · cases h
    · rename_i mid t once
      obtain ⟨⟨last', ts⟩, rest, same⟩ := map_eq_some_iff.mp h
      cases same
      obtain ⟨recorded, either, complete⟩ := ih rest
      have tried := triedOnce_of_tryOnce once
      have twice : ((first.statusOf reply.requestID).map reply.settle).map reply.settle =
          (first.statusOf reply.requestID).map reply.settle := by
        rw [Option.map_map]
        exact congrArg (Option.map · _) (funext reply.settle_settle)
      refine ⟨recorded.cons tried.certificates, ?_, ?_⟩
      · rcases tried.status with kept | moved
        · rw [kept] at either
          exact either
        · rw [moved, twice] at either
          exact .inr (either.elim id id)
      · rintro ⟨t', member, completed⟩
        rcases mem_cons.mp member with rfl | member
        · refine ⟨fun signed => ?_, ?_⟩
          · -- The serial is there after this attempt, and stays.
            have there := tried.certificates.hasSerial (tried.recorded completed signed)
            rw [recorded.eq_of_hasSerial there]
            exact there
          · rw [tried.settled completed, twice] at either
            exact either.elim id id
        · obtain ⟨serial, settled⟩ := complete ⟨t', member, completed⟩
          refine ⟨serial, settled.trans ?_⟩
          rcases tried.status with kept | moved
          · rw [kept]
          · rw [moved, twice]

/-- **Redelivery is harmless**, for any reply, any state and any attempts, however each of
them ended. -/
theorem redelivery_harmless {attempts : List Attempt}
    (delivered : redeliver reply first attempts = some (last, tried)) :
    Harmless reply first tried last := by
  obtain ⟨recorded, -, complete⟩ := recorded_of_redeliver delivered
  generalize certificates : last.db.certificates = table at recorded complete
  refine ⟨?_, ?_, ?_, ?_, ?_, ?_⟩
  · rw [certificates]
    cases recorded with
    | untouched | known => exact fun row member => member
    | added _ _ _ _ _ _ inserted =>
      intro row member
      rw [Table.rows_insert inserted]
      simp [member]
  · rw [certificates]
    intro failed
    cases recorded with
    | untouched | known => rfl
    | added _ signed => exact absurd failed (by rw [signed]; decide)
  · rw [certificates]
    exact recorded.eq_of_hasSerial
  · rw [certificates]
    intro signed unknown earlier winner later split silent records
    cases recorded with
    | untouched silent' => exact absurd records (silent' winner (by rw [split]; simp))
    | known _ there => exact absurd there unknown
    | @added row _ later' winner' earlier' _ _ split' silent' records' inserted serial drawn =>
      classical
      have found {earlier later : List Tried} {winner : Tried}
          (split : tried = earlier ++ winner :: later) (silent : ∀ t ∈ earlier, ¬ Records t.events)
          (records : Records winner.events) : tried.find? (Records ·.events) = some winner :=
        find?_eq_some_iff_append.mpr
          ⟨decide_eq_true records, earlier, later, split, by simpa using silent⟩
      have same : winner' = winner := some.inj
        ((found split' silent' records').symm.trans (found split silent records))
      exact ⟨row, inserted, serial, same ▸ drawn⟩
  · rw [certificates]
    intro signed completed
    obtain ⟨row, member, serial⟩ := (complete completed).1 signed
    refine ⟨row, ⟨member, serial⟩, fun other ⟨member', serial'⟩ => ?_⟩
    exact Table.eq_of_index member' member (congrArg some serial') (congrArg some serial)
  · intro completed attempt once t tried' completed'
    rw [(complete completed).2, (triedOnce_of_tryOnce tried').settled completed']

end Harmless

namespace Sample

/-- A server with one request that is being signed. -/
def signingServer : Shared where
  db := { Database.empty with
    requests := (Table.empty.insert
      { id := "request"
        type := .user
        publicKey := "key"
        requestedOptions := ""
        sourceIP := "192.0.2.1"
        status := .signing
        createdAt := 0 }).getD Table.empty }

/-- The reply with its certificate. -/
def signedReply : SignedReply where
  requestID := "request"
  type := .user
  certificate := "certificate"
  serial := 7

/-- The reply that there is none. -/
def failedReply : SignedReply where
  requestID := "request"
  type := .user
  serial := 7
  errorCode := "sign_failed"

/-- An attempt that draws an id and cannot insert. -/
def lockedAttempt (id : String) : Attempt :=
  ⟨⟨0, 0⟩, [.done, .text id, .fail 0 "database is locked"]⟩

/-- An attempt that draws an id and cannot resolve the request. -/
def unmarkedAttempt (id : String) : Attempt :=
  ⟨⟨0, 0⟩, [.done, .text id, .done, .time 1, .done, .done, .time 1, .fail 0 "database is locked"]⟩

/-- An attempt that draws an id and gets through. -/
def completeAttempt (id : String) : Attempt :=
  ⟨⟨0, 0⟩, [.done, .text id, .done, .time 2, .done, .done, .time 2, .done]⟩

/-- A failure that gets through. -/
def completeFailure : Attempt := ⟨⟨0, 0⟩, [.time 2, .done, .done, .time 2, .done]⟩

end Sample

open Sample in
/-- The certificate recorded by an attempt that could not resolve the request keeps its id
through two more attempts. -/
theorem redelivery_harmless_unmarked : ∃ last tried, redeliver signedReply signingServer
      [lockedAttempt "a", unmarkedAttempt "b", completeAttempt "c", completeAttempt "d"] =
        some (last, tried) ∧
      last.db.certificates.rows.map (·.id) = ["b"] ∧
      last.statusOf "request" = some .approved ∧
      Harmless signedReply signingServer tried last := by
  have ran : (redeliver signedReply signingServer
      [lockedAttempt "a", unmarkedAttempt "b", completeAttempt "c", completeAttempt "d"]).map
        (fun pair => (pair.1.db.certificates.rows.map (·.id), pair.1.statusOf "request")) =
          some (["b"], some .approved) := by decide +kernel
  obtain ⟨⟨last, tried⟩, delivered, ends⟩ := map_eq_some_iff.mp ran
  obtain ⟨ids, status⟩ := Prod.mk.inj ends
  exact ⟨last, tried, delivered, ids, status, redelivery_harmless delivered⟩

open Sample in
/-- A failure that was delivered completely has recorded no row for its serial, and where
the first attempt could not insert the row has the id of the second. -/
theorem redelivery_records_otherwise :
    (redeliver failedReply signingServer [completeFailure]).map (fun pair =>
        (pair.1.db.certificates.rows.length, pair.2.map (·.completed))) = some (0, [true]) ∧
      (redeliver signedReply signingServer [lockedAttempt "a", completeAttempt "b"]).map
        (fun pair => (pair.1.db.certificates.rows.map fun row => (row.serialNumber, row.id),
          pair.2.map (·.completed))) = some ([(7, "b")], [false, true]) := by
  constructor <;> decide +kernel

end Ssoossh
