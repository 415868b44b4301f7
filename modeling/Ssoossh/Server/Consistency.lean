import Ssoossh.Server.Evolution

/-!
# The tables agree

What the tables say about one request fits together: a request has a decision exactly
when it has left `pending` other than by expiry, the decision is in the name of the
user the row belongs to, and there is an enrollment exactly when the row says so
(`Database.Consistent`).

Three transactions decide a request, and one statement creates it; they are specified
one by one.  Every other statement leaves the decisions alone and moves no row out of
`pending` but into `expired` (`Database.Keeps`), and that is all the invariant needs.
-/

namespace Ssoossh

open Relational

/-! ## The invariant -/

/-- Whether a status is one a decision leads to. -/
def Status.decided (status : Status) : Prop := status ≠ .pending ∧ status ≠ .expired

namespace Database

/-- A request has an enrollment. -/
def Enrolls (db : Database) (id : RequestID) : Prop :=
  ∃ key enrollment, db.enrollments.find? key = some enrollment ∧
    enrollment.certificateRequestID = some id

/-- The row of a request belongs to the user with a subject. -/
def OwnedBy (db : Database) (row : CertificateRequest) (subject : String) : Prop :=
  ∃ userID user, row.userID = some userID ∧ db.users.find? userID = some user ∧
    user.subject = subject

/-- What the tables say about a request fits together. -/
structure Consistent (db : Database) : Prop where
  decided : ∀ id, (∃ decision, db.decisions.find? id = some decision) ↔
    ∃ row, db.requests.find? id = some row ∧ row.status.decided
  decider : ∀ id row decision, db.requests.find? id = some row →
    db.decisions.find? id = some decision →
      db.OwnedBy row decision.subject ∧ (decision.outcome = .denied ↔ row.status = .denied)
  enrolled : ∀ id, db.Enrolls id ↔ ∃ row, db.requests.find? id = some row ∧ row.status = .enrolled

theorem consistent_empty : empty.Consistent where
  decided id := by simp [empty]
  decider id row decision found := by simp [empty] at found
  enrolled id := by simp [empty, Enrolls]

/-- What most statements leave alone: no row is new, none is decided, and no decision
and no enrollment is made. -/
structure Keeps (db db' : Database) : Prop where
  requests : ∀ id row', db'.requests.find? id = some row' → ∃ row,
    db.requests.find? id = some row ∧ row.Related Status.Moves row' ∧
      (row.status = .pending → row'.status = .pending ∨ row'.status = .expired)
  decisions : ∀ id, db'.decisions.find? id = db.decisions.find? id
  enrollments : ∀ key row', db'.enrollments.find? key = some row' → ∃ row,
    db.enrollments.find? key = some row ∧ row.SameGrant row'

end Database

namespace Status

variable {a b : Status}

/-- A status a decision led to stays one. -/
theorem decided.moves (h : a.decided) (moved : a.Moves b) : b.decided := by
  revert h moved
  cases a <;> cases b <;> simp [decided, Moves, Status.moves]

/-- A move that decides nothing comes from a decided status or leads to none. -/
theorem decided.of_moves (h : b.decided) (moved : a.Moves b)
    (undecided : a = .pending → b = .pending ∨ b = .expired) : a.decided := by
  revert h moved undecided
  cases a <;> cases b <;> simp [decided, Moves, Status.moves]

/-- Nothing becomes denied or enrolled, or ceases to be, once it is decided. -/
theorem decided.moves_iff (h : a.decided) (moved : a.Moves b) :
    (b = .denied ↔ a = .denied) ∧ (b = .enrolled ↔ a = .enrolled) := by
  revert h moved
  cases a <;> cases b <;> simp [decided, Moves, Status.moves]

theorem decided_signing : Status.signing.decided := ⟨by decide, by decide⟩

theorem decided_enrolled : Status.enrolled.decided := ⟨by decide, by decide⟩

theorem decided_denied : Status.denied.decided := ⟨by decide, by decide⟩

end Status

namespace Database

variable {db db' : Database} {row' : CertificateRequest}

theorem OwnedBy.of_related {row : CertificateRequest} {subject : String}
    {R : Status → Status → Prop} (owned : db.OwnedBy row subject) (related : db.Related R db')
    (rows : row.Related R row') : db'.OwnedBy row' subject := by
  obtain ⟨userID, user, owner, found, same⟩ := owned
  obtain ⟨user', found', same'⟩ := related.users userID user found
  exact ⟨userID, user', rows.owner userID owner, found', same'.trans same⟩

variable {id : RequestID}

theorem Enrolls.of_related {R : Status → Status → Prop} (h : db.Enrolls id)
    (related : db.Related R db') : db'.Enrolls id := by
  obtain ⟨key, enrollment, found, about⟩ := h
  obtain ⟨enrollment', found', same⟩ := related.enrollments key enrollment found
  exact ⟨key, enrollment', found', by rw [same]; exact about⟩

/-- **A statement that keeps the decisions keeps the tables consistent.** -/
theorem Consistent.keep (consistent : db.Consistent) (related : db.Related Status.Moves db')
    (keeps : db.Keeps db') : db'.Consistent where
  decided id := by
    rw [keeps.decisions, consistent.decided]
    constructor
    · rintro ⟨row, found, decided⟩
      obtain ⟨row', found', moved⟩ := related.requests id row found
      exact ⟨row', found', decided.moves moved.status⟩
    · rintro ⟨row', found', decided⟩
      obtain ⟨row, found, moved, undecided⟩ := keeps.requests id row' found'
      exact ⟨row, found, decided.of_moves moved.status undecided⟩
  decider id row' decision found' recorded := by
    rw [keeps.decisions] at recorded
    obtain ⟨row, found, moved, -⟩ := keeps.requests id row' found'
    obtain ⟨owned, outcome⟩ := consistent.decider id row decision found recorded
    obtain ⟨row₀, found₀, decided⟩ := (consistent.decided id).mp ⟨decision, recorded⟩
    cases found.symm.trans found₀
    exact ⟨owned.of_related related moved, outcome.trans (decided.moves_iff moved.status).1.symm⟩
  enrolled id := by
    constructor
    · rintro ⟨key, enrollment', found', about⟩
      obtain ⟨enrollment, found, same⟩ := keeps.enrollments key enrollment' found'
      have enrolls : db.Enrolls id := ⟨key, enrollment, found, by rw [same] at about; exact about⟩
      obtain ⟨row, foundRow, enrolled⟩ := (consistent.enrolled id).mp enrolls
      obtain ⟨row', foundRow', moved⟩ := related.requests id row foundRow
      have decided : row.status.decided := enrolled ▸ Status.decided_enrolled
      exact ⟨row', foundRow', (decided.moves_iff moved.status).2.mpr enrolled⟩
    · rintro ⟨row', found', enrolled⟩
      obtain ⟨row, found, moved, undecided⟩ := keeps.requests id row' found'
      have decided' : row'.status.decided := enrolled ▸ Status.decided_enrolled
      have decided := decided'.of_moves moved.status undecided
      have before := (decided.moves_iff moved.status).2.mp enrolled
      exact ((consistent.enrolled id).mpr ⟨row, found, before⟩).of_related related

/-- **A transaction that decides a pending request keeps the tables consistent.** -/
theorem Consistent.decide {row : CertificateRequest} {decision : Decision}
    (consistent : db.Consistent) (found : db.requests.find? id = some row)
    (pending : row.status = .pending) (decided : row'.status.decided)
    (requests : ∀ k, db'.requests.find? k = if k = id then some row' else db.requests.find? k)
    (decisions : ∀ k, db'.decisions.find? k =
      if k = id then some decision else db.decisions.find? k) (users : db'.users = db.users)
    (owner : row'.userID = row.userID) (owned : db.OwnedBy row decision.subject)
    (outcome : decision.outcome = .denied ↔ row'.status = .denied)
    (enrollments : ∀ k, db'.Enrolls k ↔ db.Enrolls k ∨ k = id ∧ row'.status = .enrolled) :
    db'.Consistent where
  decided k := by
    rw [decisions, requests]
    split_ifs
    · exact iff_of_true ⟨decision, rfl⟩ ⟨row', rfl, decided⟩
    · exact consistent.decided k
  decider k other decision' foundOther recorded := by
    rw [requests] at foundOther
    rw [decisions] at recorded
    have users' {row : CertificateRequest} {subject : String} (h : db.OwnedBy row subject) :
        db'.OwnedBy row subject := by simpa only [OwnedBy, users] using h
    split_ifs at foundOther recorded
    · cases foundOther
      cases recorded
      have owned' : db.OwnedBy row' decision.subject := by simpa only [OwnedBy, owner] using owned
      exact ⟨users' owned', outcome⟩
    · obtain ⟨owned', outcome'⟩ := consistent.decider k other decision' foundOther recorded
      exact ⟨users' owned', outcome'⟩
  enrolled k := by
    rw [enrollments, requests, consistent.enrolled]
    split_ifs with same
    · subst same
      simp only [found, Option.some.injEq, exists_eq_left', pending, true_and, reduceCtorEq,
        false_or]
    · simp [same]

/-! ## The statements -/

theorem updateRequests_origin {chosen : RequestID → Bool} {update : RequestUpdate}
    (found' : (db.updateRequests chosen update).requests.find? id = some row') :
    ∃ row, db.requests.find? id = some row ∧
      (row' = row ∨ chosen row.id = true ∧ update.guard row = true ∧ row' = update.set row) := by
  rw [find?_updateRequests] at found'
  obtain ⟨row, found, rfl⟩ := Option.map_eq_some_iff.mp found'
  refine ⟨row, found, ?_⟩
  split_ifs with accepted
  · rw [Bool.and_eq_true] at accepted
    exact .inr ⟨accepted.1, accepted.2, rfl⟩
  · exact .inl rfl

end Database

variable {db db' : Database} {statement : Statement}

/-- Every statement that neither creates nor decides a request keeps the decisions. -/
theorem Statement.keeps {result : statement.Result} (lawful : statement.Lawful)
    (plain : statement.decisive = false) (done : statement.run db = .ok (db', result)) :
    db.Keeps db' := by
  cases Statement.change plain done with
  | amend amends =>
    refine ⟨fun id row' found' => ?_, fun _ => rfl, fun _ row found => ⟨row, found, rfl⟩⟩
    obtain ⟨row, found, rfl | ⟨-, accepted, rfl⟩⟩ := Database.updateRequests_origin found'
    · exact ⟨row', found, .refl Status.Moves.refl row', .inl⟩
    · exact ⟨row, found, amends_steps lawful amends accepted⟩
  | elsewhere requests decisions _ enrollments =>
    exact ⟨fun _ row found => ⟨row, requests ▸ found, .refl Status.Moves.refl row, .inl⟩,
      fun _ => decisions ▸ rfl, enrollments⟩

/-! ## Deciding a request -/

namespace Database

variable {db db' : Database} {id : RequestID} {decision : Decision} {settled : Settled}

/-- What a transaction that decides a request needs to know to keep the tables
consistent. -/
theorem Consistent.settle {update : RequestUpdate} (consistent : db.Consistent)
    (settles : db.Settles db' id update decision settled)
    (pending : ∀ row, update.guard row = true → row.status = .pending)
    (decided : ∀ row, (update.set row).status.decided)
    (owner : ∀ row, (update.set row).userID = row.userID)
    (about : decision.certificateRequestID = id)
    (owned : ∀ row, db.requests.find? id = some row → db.OwnedBy row decision.subject)
    (outcome : ∀ row, decision.outcome = .denied ↔ (update.set row).status = .denied)
    (enrollments : settled = .committed → ∀ row k, db'.Enrolls k ↔
      db.Enrolls k ∨ k = id ∧ (update.set row).status = .enrolled) : db'.Consistent := by
  rcases settles with ⟨committed, row, h⟩ | ⟨-, rfl⟩
  · refine consistent.decide h.found (pending row h.accepted) (decided row) h.requests (fun k => ?_)
      h.users (owner row) (owned row h.found) (outcome row) (enrollments committed row)
    rw [h.decisions, about]
    simp only [eq_comm]
  · exact consistent

/-- An enrollment is added for one request. -/
theorem enrolls_insert {grant : ServiceGrant}
    (inserted : db.enrollments.insert grant.enrollment = some db'.enrollments) (k : RequestID) :
    db'.Enrolls k ↔ db.Enrolls k ∨ k = grant.requestID := by
  constructor
  · rintro ⟨key, enrollment, found, about⟩
    rw [Table.find?_insert inserted] at found
    split_ifs at found
    · cases found
      exact .inr (Option.some.inj about).symm
    · exact .inl ⟨key, enrollment, found, about⟩
  · rintro (⟨key, enrollment, found, about⟩ | rfl)
    · exact ⟨key, enrollment, Table.find?_insert_of_some inserted found, about⟩
    · refine ⟨grant.enrollmentID, grant.enrollment, ?_, rfl⟩
      rw [Table.find?_insert inserted]
      exact if_pos rfl

/-- A new request is undecided. -/
theorem Consistent.create {row : CertificateRequest} (consistent : db.Consistent)
    (pending : row.status = .pending)
    (requests : db.requests.insert row = some db'.requests)
    (decisions : db'.decisions = db.decisions) (users : db'.users = db.users)
    (enrollments : db'.enrollments = db.enrollments) : db'.Consistent := by
  have fresh : db.requests.find? row.id = none := Table.find?_of_insert requests
  have rows {k : RequestID} {P : CertificateRequest → Prop} (notPending : ∀ row, P row →
      row.status ≠ .pending) : (∃ row, db'.requests.find? k = some row ∧ P row) ↔
      ∃ row, db.requests.find? k = some row ∧ P row := by
    rw [Table.find?_insert requests]
    split_ifs with same
    · subst same
      simp only [fresh, Option.some.injEq, exists_eq_left', reduceCtorEq, false_and, exists_false,
        iff_false]
      exact fun holds => notPending row holds pending
    · rfl
  refine ⟨fun k => ?_, fun k other decision found recorded => ?_, fun k => ?_⟩
  · rw [decisions, consistent.decided, rows fun _ decided => decided.1]
  · rw [decisions] at recorded
    rw [Table.find?_insert requests] at found
    split_ifs at found with same
    · obtain ⟨_, found', -⟩ := (consistent.decided k).mp ⟨decision, recorded⟩
      rw [← same, fresh] at found'
      cases found'
    · simpa only [OwnedBy, users] using consistent.decider k other decision found recorded
  · have same : db'.Enrolls k ↔ db.Enrolls k := by simp only [Enrolls, enrollments]
    rw [same, consistent.enrolled, rows fun _ enrolled => by rw [enrolled]; decide]

end Database

/-! ## Where a row comes from -/

/-- A statement ends the signing of a request with a status. -/
def Statement.Resolves (id : RequestID) (status : Status) : Statement → Prop
  | .markResolved id' status' _ _ => id' = id ∧ status' = status
  | .failStranded ids _ _ => id ∈ ids ∧ status = .failed
  | _ => False

/-- What a row was before a statement: as it is now, pending, or being signed until
this statement. -/
def Statement.Moves (statement : Statement) (row row' : CertificateRequest) : Prop :=
  row'.status = row.status ∨ row.status = .pending ∨
    row.status = .signing ∧ statement.Resolves row.id row'.status

variable {id : RequestID} {row' : CertificateRequest}

theorem Database.Settles.origin {k : RequestID} {update : RequestUpdate} {decision : Decision}
    {settled : Settled} (settles : db.Settles db' id update decision settled)
    (pending : ∀ row, update.guard row = true → row.status = .pending)
    (found' : db'.requests.find? k = some row') :
    ∃ row, db.requests.find? k = some row ∧ (row' = row ∨ row.status = .pending) := by
  rcases settles with ⟨-, row, h⟩ | ⟨-, rfl⟩
  · rw [h.requests] at found'
    split_ifs at found' with same
    · subst same
      exact ⟨row, h.found, .inr (pending row h.accepted)⟩
    · exact ⟨row', found', .inl rfl⟩
  · exact ⟨row', found', .inl rfl⟩

/-- **Where a row comes from**: it was inserted by this statement, or it was there. -/
theorem Statement.row_origin {result : statement.Result}
    (done : statement.run db = .ok (db', result)) (found' : db'.requests.find? id = some row') :
    statement = .insertRequest row' ∨
      ∃ row, db.requests.find? id = some row ∧ statement.Moves row row' := by
  have decided (h : ∃ row, db.requests.find? id = some row ∧
      (row' = row ∨ row.status = .pending)) :
      ∃ row, db.requests.find? id = some row ∧ statement.Moves row row' := by
    obtain ⟨row, found, rfl | pending⟩ := h
    · exact ⟨row', found, .inl rfl⟩
    · exact ⟨row, found, .inr (.inl pending)⟩
  by_cases plain : statement.decisive = false
  · refine .inr ?_
    cases Statement.change plain done with
    | elsewhere requests => exact ⟨row', requests ▸ found', .inl rfl⟩
    | amend amends =>
      obtain ⟨row, found, rfl | ⟨chosen, accepted, rfl⟩⟩ := Database.updateRequests_origin found'
      · exact ⟨row', found, .inl rfl⟩
      refine ⟨row, found, ?_⟩
      cases statement with
      | bindRequester | claimPage =>
        cases amends
        exact .inl rfl
      | expire =>
        cases amends
        exact .inr (.inl (by simpa [RequestUpdate.expired, RequestUpdate.ofStatus] using accepted))
      | markResolved =>
        cases amends
        refine .inr (.inr ⟨?_, (of_decide_eq_true chosen).symm, rfl⟩)
        simpa [RequestUpdate.resolved, RequestUpdate.ofStatus] using accepted
      | failStranded =>
        cases amends
        refine .inr (.inr ⟨?_, List.contains_iff_mem.mp chosen, rfl⟩)
        simpa [RequestUpdate.resolved, RequestUpdate.ofStatus] using accepted
      | _ => cases amends
  cases statement with
  | insertRequest =>
    simp only [run] at done
    split at done
    · rename_i requests inserted
      cases done
      rw [Table.find?_insert inserted] at found'
      split_ifs at found' with same
      · exact .inl (by rw [Option.some.inj found'])
      · exact .inr ⟨row', found', .inl rfl⟩
    · cases done
  | approveForSigning =>
    have settles := (Database.settles_approveForSigning done).1
    exact .inr (decided (settles.origin RequestUpdate.pending_of_signing found'))
  | approveServiceEnrollment =>
    have settles := (Database.settles_approveServiceEnrollment done).1
    exact .inr (decided (settles.origin RequestUpdate.pending_of_enrolled found'))
  | deny =>
    have settles := (Database.settles_deny done).1
    exact .inr (decided (settles.origin RequestUpdate.pending_of_denied found'))
  | _ => exact absurd rfl plain

end Ssoossh
