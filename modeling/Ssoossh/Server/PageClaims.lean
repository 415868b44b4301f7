import Ssoossh.Server.Lifecycle

/-!
# Claiming the approval page

The first fetch of an approval page claims it.  Every order of reads and updates
among any number of browsers and scanners leaves one winner, its claim is never
overwritten, and whoever comes later is judged against it.

Coming later is a matter of time, so a second contract is set up that starts from a
configuration in the middle of a run (`laterCalls`).  A call that starts from there on
cannot read a row in a state older than the one it had then (`Dated`).
-/

namespace Ssoossh

open Interleaving

/-! ## Calls that start later -/

/-- What an answer says about a state its call started after: a request that was there
is found, as it was or further on. -/
def Dated (base : Shared) : (action : Act) → action.Resp → Prop
  | .read (.request _ id), .ok answer => ∀ row, base.row id = some row →
    ∃ row', answer = some row' ∧ row.Evolves row'
  | _, _ => True

theorem Effect.dated {tid : Tid} {base s s' : Shared} {action : Act} {answer : action.Resp}
    (effect : Effect tid s action answer s') (since : base.Evolves s) : Dated base action answer := by
  cases effect with
  | @read query =>
    cases query with
    | request => exact fun row found => since.row found
    | _ => trivial
  | @quiet _ _ nothing =>
    unfold Dated
    split
    · exact nothing.elim
    · trivial
  | _ => trivial

section Later

variable {server : Server}

/-- What the calls know, once a configuration has been reached. -/
def laterFacts (server : Server) (base : SystemConfig) :
    Facts ((lifecycle server).refine (.since _ base.shared)) where
  Fact tid event s := Learned tid s event.1 event.2 ∧
    (base.threads tid = none → Dated base.shared event.1 event.2)
  stable evolved fact := ⟨fact.1.mono evolved.1, fact.2⟩
  learn inv _ _ done := by
    have effect := effect_of_exec done
    obtain ⟨can, learned⟩ := effect.learn inv.1
    exact ⟨can, learned, fun _ => effect.dated inv.2⟩
  owed inv known may := owes_of_may inv.1 (fun event member => (known event member).1) may

/-- The calls of the server, once a configuration has been reached. -/
def laterCalls (server : Server) (base : SystemConfig) :
    ((lifecycle server).refine (.since _ base.shared)).Calls :=
  (laterFacts server base).calls

/-- **What holds after a configuration that was reached.** -/
theorem later_reaches {mid last : SystemConfig}
    (run : Reaches (system server) (Steps server) start mid)
    (later : Reaches (system server) (Steps server) mid last) :
    (laterCalls server mid).Holds mid.shared last := by
  have held := lifecycle_reaches run
  have begun : (laterCalls server mid).Holds mid.shared mid := by
    refine ⟨⟨held.inv, .refl _⟩, ⟨.refl _, trivial⟩, fun tid thread present => ?_⟩
    -- a call that is running already knows what it knew
    have busy {P : Prop} (idle : mid.threads tid = none) : P := by
      rw [present] at idle
      cases idle
    refine ((held.threads tid thread present).refine).weaken fun outcome s _ ends => ?_
    cases outcome with
    | inl =>
      obtain ⟨serves, past, known, evidence⟩ := ends
      exact ⟨serves, past, fun event member => ⟨known event member, busy⟩, evidence⟩
    | inr =>
      obtain ⟨past, known, answers⟩ := ends
      exact ⟨past, fun event member => ⟨known event member, busy⟩, answers⟩
  refine (laterCalls server mid).reaches (later.mono fun cfg label allowed => ?_) begun
  cases label with
  | spawn => exact allowed
  | run => exact fun action _ => ⟨trivial, trivial⟩

end Later

/-! ## Claims -/

section Claims

variable {server : Server} {base : Shared} {cfg mid last : SystemConfig}
variable {id : RequestID} {tid tid' : Tid} {presentedToken token : String} {userAgent : Bytes}

/-- A call that returns a claim has won it. -/
theorem claim_of_returned (held : (lifecycleCalls server).Holds base cfg)
    (returned : cfg.Returned tid (.claimPage id presentedToken userAgent)
      (.claimed (.ok (.claimed token)))) :
    token ≠ "" ∧ ⟨tid, id, hashClaimToken server.ext token⟩ ∈ cfg.shared.claims := by
  obtain ⟨past, known, id', presentedToken', userAgent', same, grounds⟩ := held.post returned
  cases same
  obtain ⟨nonempty, now, agent, won⟩ := grounds
  exact ⟨nonempty, known _ won⟩

/-- **A later caller is judged by the claim**: it matches exactly if it presents the
token, it never claims, and only a failed lookup keeps it from an answer. -/
theorem later_claim {presentedToken' : String} {userAgent' : Bytes}
    {outcome : Except ServiceError ClaimPageResult}
    (run : Reaches (system server) (Steps server) start mid)
    (later : Reaches (system server) (Steps server) mid last)
    (won : mid.Returned tid (.claimPage id presentedToken userAgent)
      (.claimed (.ok (.claimed token))))
    (fresh : mid.threads tid' = none)
    (returned : last.Returned tid' (.claimPage id presentedToken' userAgent') (.claimed outcome))
    (injective : hashClaimToken server.ext presentedToken' = hashClaimToken server.ext token →
      presentedToken' = token) :
    (∃ message, outcome = .error (.internal
      ("failed to look up certificate request for claiming: " ++ message))) ∨
    ∃ result, outcome = .ok result ∧ (result = .matched ↔ presentedToken' = token) ∧
      ∀ token', result ≠ .claimed token' := by
  have heldMid := lifecycle_reaches run
  have held := later_reaches run later
  obtain ⟨nonempty, claim⟩ := claim_of_returned heldMid won
  obtain ⟨baseRow, inBase, baseHash⟩ := heldMid.inv.claimed _ claim
  obtain ⟨past, known, id', presented, agent, same, grounds⟩ := held.post returned
  cases same
  -- every row this call has read says what the winner wrote
  have reads {row : CertificateRequest} (seen : Saw past id row) :
      row.claimTokenHash = some (hashClaimToken server.ext token) := by
    obtain ⟨site, member⟩ := seen
    obtain ⟨row', same, evolved⟩ := (known _ member).2 fresh baseRow inBase
    cases same
    exact (evolved.claim _ baseHash).1
  cases outcome with
  | error =>
    rcases grounds with ⟨message, rfl⟩ | ⟨row, seen, unclaimed⟩
    · exact .inl ⟨message, rfl⟩
    · rw [reads seen] at unclaimed
      cases unclaimed
  | ok result =>
    refine .inr ⟨result, rfl, ?_⟩
    have differs {row : CertificateRequest} {stored : String} (seen : Saw past id row)
        (held : row.claimTokenHash = some stored)
        (other : ¬ (presentedToken' ≠ "" ∧ hashClaimToken server.ext presentedToken' = stored)) :
        presentedToken' ≠ token := by
      rw [reads seen, Option.some.injEq] at held
      rintro rfl
      exact other ⟨nonempty, held⟩
    cases result with
    | claimed =>
      -- the winner was there before this call was
      obtain ⟨-, now, agent, done⟩ := grounds
      have one := held.inv.1.claimedOnce _ (known _ done).1 _ (held.evolved.1.claims claim) rfl
      obtain ⟨thread, present, -⟩ := won
      obtain rfl : tid' = tid := congrArg PageClaim.tid one
      rw [fresh] at present
      cases present
    | matched =>
      obtain ⟨-, row, seen, held⟩ := grounds
      rw [reads seen, Option.some.injEq] at held
      exact ⟨iff_of_true rfl (injective held.symm), fun _ => by simp⟩
    | unknownRequest =>
      obtain ⟨site, absent⟩ := grounds
      obtain ⟨row', impossible, -⟩ := (known _ absent).2 fresh baseRow inBase
      cases impossible
    | rejected | cookieBlocked =>
      obtain ⟨row, stored, seen, held, other⟩ := grounds
      exact ⟨iff_of_false (by simp) (differs seen held other), fun _ => by simp⟩

end Claims

/-! ## Claimed once -/

namespace Sample

/-- A request is made, and its page is fetched for the first time. -/
def claiming : List SystemLabel :=
  uninterrupted ⟨0, 0⟩ (.createRequest { type := .user, publicKey := "key" })
    [.text "request", .time 0, .done] ++
  uninterrupted ⟨0, 1⟩ (.claimPage "request" "" [])
    [.done, .bytes (List.replicate 32 0), .time 1, .done]

/-- The token that this fetch is given. -/
def claimToken : String := String.ofList (GoText.rawURLEncode (List.replicate 32 0))

/-- The page is fetched again, with the token and without. -/
def returning : List SystemLabel :=
  uninterrupted ⟨1, 0⟩ (.claimPage "request" claimToken []) [.done] ++
  uninterrupted ⟨1, 1⟩ (.claimPage "request" "" []) [.done]

/-- A fetch of a page that is over, with its answer. -/
def fetched (cfg : SystemConfig) (tid : Tid) :
    Option (RequestID × String × Bytes × ClaimPageResult) :=
  match cfg.threads tid with
  | some ⟨.claimPage id presentedToken userAgent, _, .ret (.inr (.claimed (.ok result)))⟩ =>
    some (id, presentedToken, userAgent, result)
  | _ => none

theorem returned_of_fetched {cfg : SystemConfig} {tid : Tid} {id : RequestID}
    {presentedToken : String} {userAgent : Bytes} {result : ClaimPageResult}
    (isOver : fetched cfg tid = some (id, presentedToken, userAgent, result)) :
    cfg.Returned tid (.claimPage id presentedToken userAgent) (.claimed (.ok result)) := by
  unfold fetched at isOver
  split at isOver
  · rename_i present
    cases isOver
    exact ⟨_, present, rfl, rfl⟩
  · cases isOver

end Sample

/-- **The approval page is claimed exactly once.**  Of all the calls for one request at
most one returns a claim.  Once one has, the columns of the claim stay as it wrote
them, and a call made from then on returns a match exactly if it presents the token
that was returned, never a claim, and nothing else but a failed lookup. -/
theorem claimed_once {server : Server} {mid last : SystemConfig}
    (run : Reaches (system server) (Steps server) start mid)
    (later : Reaches (system server) (Steps server) mid last) :
    (∀ tid tid' id presentedToken presentedToken' userAgent userAgent' token token',
      last.Returned tid (.claimPage id presentedToken userAgent) (.claimed (.ok (.claimed token))) →
      last.Returned tid' (.claimPage id presentedToken' userAgent')
        (.claimed (.ok (.claimed token'))) → tid = tid') ∧
    ∀ tid id presentedToken userAgent token,
      mid.Returned tid (.claimPage id presentedToken userAgent) (.claimed (.ok (.claimed token))) →
      (∃ row row', mid.shared.row id = some row ∧ last.shared.row id = some row' ∧
        row.claimTokenHash = some (hashClaimToken server.ext token) ∧
        row'.claimTokenHash = row.claimTokenHash ∧ row'.claimedAt = row.claimedAt ∧
        row'.claimUserAgent = row.claimUserAgent) ∧
      ∀ tid' presentedToken' userAgent' outcome, mid.threads tid' = none →
        last.Returned tid' (.claimPage id presentedToken' userAgent') (.claimed outcome) →
        (hashClaimToken server.ext presentedToken' = hashClaimToken server.ext token →
          presentedToken' = token) →
        (∃ message, outcome = .error (.internal
          ("failed to look up certificate request for claiming: " ++ message))) ∨
        ∃ result, outcome = .ok result ∧ (result = .matched ↔ presentedToken' = token) ∧
          ∀ token', result ≠ .claimed token' := by
  have held := lifecycle_reaches (run.trans later)
  constructor
  · intro tid tid' id presentedToken presentedToken' userAgent userAgent' token token' won won'
    obtain ⟨-, claim⟩ := claim_of_returned held won
    obtain ⟨-, claim'⟩ := claim_of_returned held won'
    exact congrArg PageClaim.tid (held.inv.claimedOnce _ claim _ claim' rfl)
  · intro tid id presentedToken userAgent token won
    have heldMid := lifecycle_reaches run
    obtain ⟨-, claim⟩ := claim_of_returned heldMid won
    obtain ⟨row, found, hash⟩ := heldMid.inv.claimed _ claim
    obtain ⟨row', found', evolved⟩ := (later_reaches run later).evolved.1.row found
    obtain ⟨hash', claimedAt, agent⟩ := evolved.claim _ hash
    refine ⟨⟨row, row', found, found', hash, hash'.trans hash.symm, claimedAt, agent⟩, ?_⟩
    intro tid' presentedToken' userAgent' outcome fresh returned injective
    exact later_claim run later won fresh returned injective

/-- In the sample the page is claimed, then the token is recognised, and a fetch without
it is not taken for the same. -/
theorem claimed_once_returning : ∃ mid last, Sample.after Sample.claiming = some mid ∧
    (system Sample.server).runLabels mid Sample.returning = some last ∧
    mid.Returned ⟨0, 1⟩ (.claimPage "request" "" []) (.claimed (.ok (.claimed Sample.claimToken))) ∧
    last.Returned ⟨1, 0⟩ (.claimPage "request" Sample.claimToken []) (.claimed (.ok .matched)) ∧
    ∀ result, last.Returned ⟨1, 1⟩ (.claimPage "request" "" []) (.claimed (.ok result)) →
      result ≠ .matched := by
  have ran : ((Sample.after Sample.claiming).bind fun mid =>
      ((system Sample.server).runLabels mid Sample.returning).map fun last =>
        (Sample.fetched mid ⟨0, 1⟩, Sample.fetched last ⟨1, 0⟩, (mid.threads ⟨1, 1⟩).isNone)) =
      some (some ("request", "", [], .claimed Sample.claimToken),
        some ("request", Sample.claimToken, [], .matched), true) := by rfl
  obtain ⟨mid, claimed, rest⟩ := Option.bind_eq_some_iff.mp ran
  obtain ⟨last, returned, seen⟩ := Option.map_eq_some_iff.mp rest
  obtain ⟨first, seen⟩ := Prod.mk.inj seen
  obtain ⟨second, idle⟩ := Prod.mk.inj seen
  have won := Sample.returned_of_fetched first
  have run := Sample.reaches_after claimed (by decide)
  have later := Sample.reaches_from returned (by decide)
  refine ⟨mid, last, claimed, returned, won, Sample.returned_of_fetched second, ?_⟩
  intro result answered
  have judged := ((claimed_once run later).2 _ _ _ _ _ won).2 _ _ _ _
    (Option.isNone_iff_eq_none.mp idle) answered (fun same => same)
  rcases judged with ⟨message, failed⟩ | ⟨result', same, judged, -⟩
  · cases failed
  · cases same
    intro matched
    exact absurd (judged.mp matched) (by decide)

end Ssoossh
