import Ssoossh.Nssd.Provenance

/-!
# Outages are not absences

A directory that cannot be reached is never answered as "no such user".  In every run of the
daemon, a lookup that answers so was refused by the host policy, waited for a fetch that the
server denied, or met a denial that was remembered less than `entry_negative_timeout` before
(`Denied`).  A lookup that answers a record read it from the cache, while nothing said that
it was gone, or waited for a fetch that brought it (`Granted`).  While every call fails, what
is cached is answered as long as it may be served offline.

One denial is not remembered: an answer that the name is not valid.  The lookup that waited
for it answers "no such user", and the entry stays.
-/

namespace Ssoossh.Nssd.Userdb

open Interleaving GoTime GoBytes List Option

/-! ## What a fetch does -/

/-- A miss was remembered, and what was cached under its key was looked for and dropped. -/
def Past.Forgot (past : Past) (kind : Kind) (key : Key) : Prop :=
  ∃ stamp, (⟨.addMiss kind key, stamp⟩ : Event Resp) ∈ past ∧
    ((⟨.cached (.forget stamp) kind key, none⟩ : Event Resp) ∈ past ∨
      ∃ e : Entry kind, (⟨.cached (.forget stamp) kind key, some e⟩ : Event Resp) ∈ past ∧
        (⟨.delete kind key stamp e.name, ()⟩ : Event Resp) ∈ past)

section Fetches

variable {cfg : Config} {α : Type} {kind : Kind} {key : Key} {past : Past}

/-- A program follows the discipline, whatever it is answered. -/
abbrev Walk (cfg : Config) (Q : Past → α → Prop) (p : Program α) (past : Past) : Prop :=
  p.Follows (fun _ _ => True) (May cfg) Q past

/-- One step of a walk. -/
theorem walk_take {Q : Past → α → Prop} {action : Act} {next : Resp action → Program α}
    (may : May cfg past action) (rest : ∀ answer, Walk cfg Q (next answer) (⟨action, answer⟩ :: past)) :
    Walk cfg Q (take action >>= next) past :=
  .act may fun answer _ => rest answer

/-- A denied key is forgotten. -/
theorem walk_forget {f : Nat} {reply : Reply kind} (heard : past.Heard key f reply)
    (denies : reply.Denies cfg past.InForce key) :
    Walk cfg (fun now _ => now.Forgot kind key) (forget kind key) past := by
  refine walk_take ⟨f, reply, heard, denies⟩ fun stamp => ?_
  refine walk_take mem_cons_self fun found => ?_
  cases found with
  | none => exact .ret ⟨stamp, .tail _ (.head _), .inl (.head _)⟩
  | some e =>
    refine walk_take ⟨.tail _ (.head _), e, .head _, rfl⟩ fun _ => ?_
    cases kind with
    | user =>
      refine walk_take trivial fun _ => .ret ?_
      exact ⟨stamp, .tail _ (.tail _ (.tail _ (.head _))),
        .inr ⟨e, .tail _ (.tail _ (.head _)), .tail _ (.head _)⟩⟩
    | group =>
      exact .ret ⟨stamp, .tail _ (.tail _ (.head _)), .inr ⟨e, .tail _ (.head _), .head _⟩⟩

theorem walk_putEntry {e : Entry kind} : Walk cfg (fun _ _ => True) (putEntry e) past :=
  walk_take trivial fun _ => walk_take trivial fun _ => .act trivial fun _ _ => .ret trivial

theorem walk_storeMemberships {now : Int} {memberships : List NSSMembership} :
    Walk cfg (fun _ _ => True) (storeMemberships cfg now memberships) past := by
  induction memberships generalizing past with
  | nil => exact .ret trivial
  | cons m rest ih =>
    refine Prog.Follows.bind (Q := fun _ _ => True) ?_ fun _ _ _ _ => ih
    refine walk_take trivial fun host => ?_
    split
    · refine walk_take trivial fun old => ?_
      split
      · exact .ret trivial
      · exact walk_putEntry
    · exact .ret trivial

theorem walk_store {resp : Response kind} : Walk cfg (fun _ _ => True) (store cfg resp) past := by
  cases kind with
  | user =>
    refine walk_take trivial fun now => ?_
    refine Prog.Follows.bind walk_putEntry fun _ _ _ _ => ?_
    refine Prog.Follows.bind walk_storeMemberships fun _ _ _ _ => ?_
    exact .act trivial fun _ _ => .ret trivial
  | group =>
    refine walk_take trivial fun now => ?_
    refine Prog.Follows.bind walk_putEntry fun _ _ _ _ => ?_
    exact .act trivial fun _ _ => .ret trivial

/-- What a fetch has done when it ends: it learnt its outcome, and a denial was remembered
unless it was about the name. -/
structure Past.Fetched (cfg : Config) (past : Past) {kind : Kind} (key : Key) (f : Nat)
    (outcome : Outcome kind) : Prop where
  learnt : past.Learnt cfg key f outcome
  forgot : outcome = .error .noRecord → past.Heard key f (.invalid : Reply kind) ∨ past.Forgot kind key

/-- A fetch that is denied. -/
theorem walk_denied {f : Nat} {reply : Reply kind} (heard : past.Heard key f reply)
    (denies : reply.Denies cfg past.InForce key) :
    Walk cfg (fun now outcome => now.Fetched cfg key f outcome)
      (forget kind key >>= fun _ => pure (.error .noRecord : Outcome kind)) past := by
  refine Prog.Follows.bind (walk_forget heard denies) fun now _ grown forgot => .ret ⟨?_, ?_⟩
  · exact .denied (grown heard) (denies.mono fun _ inForce => grown inForce)
  · exact fun _ => .inr forgot

theorem walk_load {f : Nat} :
    Walk cfg (fun now outcome => now.Fetched cfg key f outcome) (load cfg kind key f) past := by
  refine walk_take trivial fun reply => ?_
  have heard : Past.Heard (⟨.call kind key f, reply⟩ :: past) key f reply := mem_cons_self
  match reply, heard with
  | .notFound, heard => exact walk_denied heard trivial
  | .invalid, heard => exact .ret ⟨.denied heard trivial, fun _ => .inl heard⟩
  | .unavailable, heard => exact .ret ⟨.unreachable heard, nofun⟩
  | .found none, heard => exact walk_denied heard trivial
  | .found (some resp), heard =>
    show Walk cfg _ (if ¬key.Picks resp.name resp.id then _ else _) _
    split
    · rename_i other
      exact walk_denied heard (.inl other)
    · rename_i same
      refine walk_take trivial fun host => ?_
      have inForce : Past.InForce (⟨.host, host⟩ :: ⟨.call kind key f, .found (some resp)⟩ :: past)
          host := mem_cons_self
      have heard' : Past.Heard (⟨.host, host⟩ :: ⟨.call kind key f, .found (some resp)⟩ :: past)
          key f (.found (some resp)) := .tail _ heard
      cases judged : served cfg host resp with
      | error refusal => exact walk_denied heard' (.inr ⟨host, inForce, refusal, judged⟩)
      | ok =>
        refine Prog.Follows.bind walk_store fun now _ grown _ => .ret ⟨?_, ?_⟩
        · exact .granted (grown heard') (not_not.mp same) (grown inForce) judged
        · exact nofun

end Fetches

/-! ## What a lookup sees -/

/-- What a lookup saw when it answers. -/
inductive Seen (cfg : Config) (past : Past) {kind : Kind} (lookup : Lookup kind) : Outcome kind → Prop
  | refused {host : Host} {refusal : Refusal} (met : past.Met lookup.since host)
      (refused : checkKey cfg host kind lookup.key = .error refusal) :
      Seen cfg past lookup (.error .noRecord)
  | missed (hit : (⟨.missed lookup.since kind lookup.key, true⟩ : Event Resp) ∈ past) :
      Seen cfg past lookup (.error .noRecord)
  | entry {e : Entry kind} {host : Host}
      (read : (⟨.cached (.lookup lookup.since) kind lookup.key, some e⟩ : Event Resp) ∈ past)
      (met : past.Met lookup.since host) : Seen cfg past lookup (fromEntry cfg host e)
  | fetched {f : Nat} {outcome : Outcome kind}
      (joined : (⟨.join lookup.since kind lookup.key, f⟩ : Event Resp) ∈ past)
      (ended : (⟨.await kind f, some outcome⟩ : Event Resp) ∈ past)
      (settled : outcome ≠ .error .unavailable) : Seen cfg past lookup outcome
  | absent {found : Option (Entry kind)}
      (read : (⟨.cached (.lookup lookup.since) kind lookup.key, found⟩ : Event Resp) ∈ past)
      (nothing : (found.filter fun e => !lookup.needMembers || e.members) = none) :
      Seen cfg past lookup (.error .unavailable)
  | old {e : Entry kind} {now : Int}
      (read : (⟨.cached (.lookup lookup.since) kind lookup.key, some e⟩ : Event Resp) ∈ past)
      (clock : (⟨.clock, now⟩ : Event Resp) ∈ past) (expired : freshness cfg e now = .expired)
      (unservable : servableOffline cfg e now = false) : Seen cfg past lookup (.error .unavailable)

section Lookups

variable {cfg : Config} {kind : Kind} {lookup : Lookup kind} {past : Past}

/-- What waiting for a fetch brought. -/
def Past.Awaited (past : Past) (lookup : Lookup kind) (outcome : Outcome kind) : Prop :=
  outcome = .error .unavailable ∨
    ∃ f, (⟨.join lookup.since kind lookup.key, f⟩ : Event Resp) ∈ past ∧
      (⟨.await kind f, some outcome⟩ : Event Resp) ∈ past

theorem walk_fetch (lookup : Lookup kind) (arrived : (⟨.arrive, lookup.since⟩ : Event Resp) ∈ past) :
    Walk cfg (fun now outcome => now.Awaited lookup outcome)
      (fetch lookup.since kind lookup.key) past := by
  refine walk_take arrived fun f => ?_
  refine walk_take trivial fun found => ?_
  cases found with
  | none => exact .ret (.inl rfl)
  | some => exact .ret (.inr ⟨f, .tail _ (.head _), .head _⟩)

theorem seen_of_awaited {outcome : Outcome kind} (awaited : past.Awaited lookup outcome)
    (settled : outcome ≠ .error .unavailable) : Seen cfg past lookup outcome := by
  rcases awaited with rfl | ⟨f, joined, ended⟩
  · exact absurd rfl settled
  · exact .fetched joined ended settled

theorem walk_answerFrom {e : Entry kind}
    (arrived : (⟨.arrive, lookup.since⟩ : Event Resp) ∈ past)
    (read : (⟨.cached (.lookup lookup.since) kind lookup.key, some e⟩ : Event Resp) ∈ past) :
    Walk cfg (fun now outcome => Seen cfg now lookup outcome) (answerFrom cfg lookup e) past :=
  walk_take arrived fun _ => .ret (.entry (.tail _ read) (.head _))

section

variable (arrived : (⟨.arrive, lookup.since⟩ : Event Resp) ∈ past)
include arrived

theorem walk_loginRefresh :
    Walk cfg (fun now refreshed => ∀ outcome, refreshed = some outcome → Seen cfg now lookup outcome)
      (loginRefresh (fetch lookup.since kind lookup.key)) past := by
  refine Prog.Follows.bind (walk_fetch lookup arrived) fun now outcome _ awaited => ?_
  match outcome, awaited with
  | .ok record, awaited =>
    refine .ret fun outcome same => ?_
    obtain rfl := some.inj same
    exact seen_of_awaited awaited nofun
  | .error .noRecord, awaited =>
    refine .ret fun outcome same => ?_
    obtain rfl := some.inj same
    exact seen_of_awaited awaited nofun
  | .error .unavailable, _ => exact .ret nofun

theorem walk_answerCurrent {e : Entry kind} {now : Int}
    (read : (⟨.cached (.lookup lookup.since) kind lookup.key, some e⟩ : Event Resp) ∈ past) :
    Walk cfg (fun now outcome => Seen cfg now lookup outcome)
      (answerCurrent cfg (fetch lookup.since kind lookup.key) lookup e now) past := by
  refine Prog.Follows.bind (Q := fun now refreshed => ∀ outcome, refreshed = some outcome →
    Seen cfg now lookup outcome) ?_ fun later refreshed grown seen => ?_
  · unfold refreshFor
    split
    · exact walk_loginRefresh arrived
    · exact .ret nofun
  · cases refreshed with
    | some outcome => exact .ret (seen outcome rfl)
    | none =>
      dsimp only
      split
      · exact walk_take trivial fun _ =>
          walk_answerFrom (.tail _ (grown arrived)) (.tail _ (grown read))
      · exact walk_answerFrom (grown arrived) (grown read)

theorem walk_answerFetched {found : Option (Entry kind)} {now : Int}
    (read : (⟨.cached (.lookup lookup.since) kind lookup.key, found⟩ : Event Resp) ∈ past)
    (clock : (⟨.clock, now⟩ : Event Resp) ∈ past)
    (expired : ((found.filter fun e => !lookup.needMembers || e.members).filter fun e =>
      decide (freshness cfg e now ≠ .expired)) = none) :
    Walk cfg (fun now outcome => Seen cfg now lookup outcome)
      (answerFetched cfg (fetch lookup.since kind lookup.key) lookup
        (found.filter fun e => !lookup.needMembers || e.members) now) past := by
  refine Prog.Follows.bind (walk_fetch lookup arrived) fun later outcome grown awaited => ?_
  match outcome, awaited with
  | .ok record, awaited =>
    exact .ret (seen_of_awaited awaited nofun)
  | .error .noRecord, awaited =>
    exact .ret (seen_of_awaited awaited nofun)
  | .error .unavailable, _ =>
    cases kept : found.filter fun e => !lookup.needMembers || e.members with
    | none => exact .ret (.absent (grown read) kept)
    | some e =>
      obtain ⟨rfl, -⟩ := filter_eq_some_iff.mp kept
      rw [kept] at expired
      dsimp only
      by_cases servable : servableOffline cfg e now = true
      · rw [filter_some, if_pos servable]
        exact walk_answerFrom (grown arrived) (grown read)
      · rw [filter_some, if_neg servable]
        refine .ret (.old (grown read) (grown clock) ?_ (Bool.eq_false_iff.mpr servable))
        simpa using expired

end

/-- **What a lookup answers follows from what it saw.** -/
theorem walk_resolve (lookup : Lookup kind) (arrived : (⟨.arrive, lookup.since⟩ : Event Resp) ∈ past) :
    Walk cfg (fun now outcome => Seen cfg now lookup outcome)
      (resolve cfg (fetch lookup.since kind lookup.key) lookup) past := by
  refine walk_take arrived fun host => ?_
  cases checked : checkKey cfg host kind lookup.key with
  | error => exact .ret (.refused (.head _) checked)
  | ok =>
    refine walk_take (.tail _ arrived) fun hit => ?_
    cases hit with
    | true => exact .ret (.missed (.head _))
    | false =>
      refine walk_take (.tail _ (.tail _ arrived)) fun found => ?_
      refine walk_take trivial fun now => ?_
      have arrived' := mem_cons_of_mem ⟨.clock, now⟩
        (mem_cons_of_mem ⟨.cached (.lookup lookup.since) kind lookup.key, found⟩
          (mem_cons_of_mem ⟨.missed lookup.since kind lookup.key, false⟩
            (mem_cons_of_mem ⟨.policy lookup.since, host⟩ arrived)))
      cases current : (found.filter fun e => !lookup.needMembers || e.members).filter
          fun e => decide (freshness cfg e now ≠ .expired) with
      | some e =>
        obtain ⟨kept, -⟩ := filter_eq_some_iff.mp current
        obtain ⟨rfl, -⟩ := filter_eq_some_iff.mp kept
        exact walk_answerCurrent arrived' (.tail _ (.head _))
      | none => exact walk_answerFetched arrived' (.tail _ (.head _)) (.head _) current

end Lookups

/-! ## In every run -/

section Runs

variable (cfg : Config) (s : State)

/-- Why a key is answered with "no such record": the policy refuses the key, or the record
that was read from the cache; a denial was remembered; or a fetch that had not ended when the
lookup arrived was denied. -/
inductive Denied (since : Moment) (kind : Kind) (key : Key) : Prop
  | keyRefused {host : Host} {refusal : Refusal} (inForce : s.InForce since host)
      (refused : checkKey cfg host kind key = .error refusal) : Denied since kind key
  | recordRefused {e : Entry kind} {host : Host} (read : s.Read since key e)
      (inForce : s.InForce since host) (refused : fromEntry cfg host e = .error .noRecord) :
      Denied since kind key
  | remembered (remembered : s.Remembered cfg since kind key) : Denied since kind key
  | answered {f : Nat} {reply : Reply kind} (running : .finished kind f ∉ since.log)
      (heard : s.Heard key f reply) (denies : reply.Denies cfg (· ∈ s.hosts) key) :
      Denied since kind key

/-- Where a record that is answered comes from: the cache, while nothing said that it was
gone, or a fetch that had not ended when the lookup arrived. -/
inductive Granted (since : Moment) {kind : Kind} (key : Key) (record : Record kind) : Prop
  | cached {e : Entry kind} {host : Host} (read : s.Read since key e)
      (inForce : s.InForce since host) (accepted : fromEntry cfg host e = .ok record) : Granted since key record
  | fetched {f : Nat} {resp : Response kind} {host : Host} (running : .finished kind f ∉ since.log)
      (heard : s.Heard key f (.found (some resp))) (picks : key.Picks resp.name resp.id)
      (inForce : host ∈ s.hosts) (accepted : served cfg host resp = .ok record) :
      Granted since key record

/-- What a lookup answers is denied or granted, unless the directory was not there. -/
structure Answered (since : Moment) {kind : Kind} (key : Key) (outcome : Outcome kind) : Prop where
  denied : outcome = .error .noRecord → Denied cfg s since kind key
  granted : ∀ record, outcome = .ok record → Granted cfg s since key record

end Runs

section Contract

variable {cfg : Config} {s : State} {past : Past}

/-- What a lookup saw stands for what it answers. -/
theorem answered_of_seen {kind : Kind} {lookup : Lookup kind} {outcome : Outcome kind}
    (seen : Seen cfg past lookup outcome) (facts : ∀ event ∈ past, Fact cfg event s) :
    Answered cfg s lookup.since lookup.key outcome := by
  cases seen with
  | refused inForce refused =>
    exact ⟨fun _ => .keyRefused (facts _ inForce) refused, nofun⟩
  | missed hit =>
    exact ⟨fun _ => .remembered (facts _ hit rfl), nofun⟩
  | entry read inForce =>
    have read' := facts _ read _ rfl
    exact ⟨fun refused => .recordRefused read' (facts _ inForce) refused,
      fun record accepted => .cached read' (facts _ inForce) accepted⟩
  | @fetched f outcome joined ended settled =>
    obtain ⟨running, flight, there, same⟩ := facts _ joined
    obtain ⟨flight', there', learnt⟩ := facts _ ended outcome rfl
    obtain rfl : flight = flight' := some.inj (there.symm.trans there')
    rw [same] at learnt
    cases learnt with
    | denied heard denies =>
      exact ⟨fun _ => .answered running heard denies, nofun⟩
    | granted heard picks inForce accepted =>
      refine ⟨nofun, fun record returned => ?_⟩
      obtain rfl := Except.ok.inj returned
      exact .fetched running heard picks inForce accepted
    | unreachable => exact absurd rfl settled
  | absent | old =>
    exact ⟨nofun, nofun⟩

/-- The rules of the daemon. -/
def provenance (cfg : Config) : Contract (machine cfg) where
  ok _ _ _ _ _ := True
  Inv := Sound cfg
  Rel := Later
  Stay _ _ _ _ := True
  Pre _ action s := Owes cfg s action
  refl _ := .refl
  trans := .trans
  stay_refl _ _ _ := trivial
  stay_trans _ _ := trivial
  sound {_ _ s _ choice _ _} sound _ owes done := by
    have passed := s.later_pass choice
    have owes' := owes_later sound owes passed
    exact ⟨sound_execute (sound.pass choice) owes' done, passed.trans (later_execute done),
      fun _ _ => trivial⟩

/-- What a call promises. -/
def Promised (cfg : Config) (s : State) : Call → Result → Prop
  | .resolve kind key _ _, .resolved kind' since outcome =>
    ∃ same : kind' = kind, Answered cfg s since key (same ▸ outcome)
  | _, _ => True

theorem walk_invalidate {sel : Selector} : Walk cfg (fun _ _ => True) (invalidate sel) past := by
  have marked : ∀ {selected kind selection past},
      Walk cfg (fun _ _ => True) (markSelected selected kind selection) past := by
    intro selected kind selection past
    cases selected
    · exact .ret trivial
    · exact .act trivial fun _ _ => .ret trivial
  have unmissed : ∀ {selected kind name past},
      Walk cfg (fun _ _ => True) (unmissSelected selected kind name) past := by
    intro selected kind name past
    cases selected
    · exact .ret trivial
    · exact .act trivial fun _ _ => .ret trivial
  refine Prog.Follows.bind marked fun _ users _ _ => ?_
  refine Prog.Follows.bind marked fun _ groups _ _ => ?_
  split
  · exact .ret trivial
  · split
    · exact .act trivial fun _ _ => .ret trivial
    · exact Prog.Follows.bind unmissed fun _ _ _ _ => unmissed

/-- What a call has seen when it is over. -/
def Ending (cfg : Config) (call : Call) (past : Past) : Call ⊕ Result → Prop
  | .inl _ => False
  | .inr result => ∀ s, (∀ event ∈ past, Fact cfg event s) → Promised cfg s call result

theorem walk_body (call : Call) : Walk cfg (Ending cfg call) (body cfg call) [] := by
  cases call with
  | resolve kind key sshd needMembers =>
    refine walk_take trivial fun since => ?_
    let lookup : Lookup kind := { key, sshd, needMembers, since }
    refine Prog.Follows.bind (walk_resolve lookup (.head _)) fun now outcome _ seen => ?_
    exact .ret fun s facts => ⟨rfl, answered_of_seen seen facts⟩
  | flight =>
    refine walk_take trivial fun key => ?_
    refine Prog.Follows.bind walk_load fun now outcome grown fetched => ?_
    refine walk_take ⟨key, grown (.head _), fetched.learnt⟩ fun _ => ?_
    exact .ret fun s facts => trivial
  | refresh kind key =>
    refine walk_take trivial fun since => ?_
    let lookup : Lookup kind := { key, since }
    refine Prog.Follows.bind (walk_fetch lookup (.head _)) fun now outcome _ _ => ?_
    exact .ret fun s facts => trivial
  | invalidate =>
    refine Prog.Follows.bind walk_invalidate fun _ _ _ _ => ?_
    exact .ret fun s facts => trivial

/-- Every call keeps its promise. -/
def provenanceCalls (cfg : Config) : (provenance cfg).Calls where
  Made _ _ := True
  Ready _ origin current _ := current = origin
  Post _ origin result s := Promised cfg s origin result
  start _ _ := rfl
  body {tid origin current s} same sound := by
    subst same
    refine Contract.Obeys.of_follows (Fact cfg) (fun later fact => fact_later fact later)
      ?_ (fun _ facts may => owes_of_may facts may) ?_ (walk_body current) (by simp)
    · intro heads s action choice s' answer sound owes _ done
      have passed := s.later_pass choice
      exact ⟨trivial, fact_execute (sound.pass choice) (owes_later sound owes passed) done⟩
    · intro past outcome s _ facts ending
      cases outcome with
      | inl => exact ending.elim
      | inr => exact ending s facts

/-- A daemon that has just started keeps the invariant. -/
theorem sound_started (cfg : Config) (host : Host) (store : (kind : Kind) → Store kind) (clock : Int) :
    Sound cfg (started host store clock).shared where
  host := ⟨[], rfl⟩
  negative _ impossible := nomatch impossible
  marks _ impossible := nomatch impossible
  outcomes _ _ _ _ impossible := nomatch impossible

/-- In every run of the daemon, what a lookup answers is denied or granted. -/
theorem answered_of_returned {host : Host} {store : (kind : Kind) → Store kind} {clock : Int}
    {daemon : Daemon}
    (run : Reaches (machine cfg) (fun _ _ => True) (started host store clock) daemon) {tid : Nat}
    {kind : Kind} {key : Key} {sshd needMembers : Bool} {since : Moment} {outcome : Outcome kind}
    (returned : daemon.Returned tid (.resolve kind key sshd needMembers) (.resolved kind since outcome)) :
    Answered cfg daemon.shared since key outcome := by
  have permitted : Reaches (machine cfg) (provenanceCalls cfg).Allowed (started host store clock)
      daemon := by
    refine run.mono fun daemon label _ => ?_
    cases label with
    | spawn => trivial
    | run => exact fun _ _ => trivial
  have held := (provenanceCalls cfg).reaches permitted
    ((provenanceCalls cfg).holds_idle (sound_started cfg host store clock) fun _ => rfl)
  obtain ⟨_, answered⟩ := held.post returned
  exact answered

end Contract

/-! ## The outage -/

/-- What a lookup meets while every call of the upstream client fails and an entry is cached
that the policy accepts and that is not too old. -/
structure Outage (cfg : Config) (past : Past) {kind : Kind} (lookup : Lookup kind) (e : Entry kind) :
    Prop where
  key : ∀ host, past.Met lookup.since host → checkKey cfg host kind lookup.key = .ok ()
  record : ∀ host, past.Met lookup.since host → ∃ record, fromEntry cfg host e = .ok record
  unmissed : ∀ hit, (⟨.missed lookup.since kind lookup.key, hit⟩ : Event Resp) ∈ past → hit = false
  cached : ∀ found, (⟨.cached (.lookup lookup.since) kind lookup.key, found⟩ : Event Resp) ∈ past →
    found = some e
  members : lookup.needMembers = true → e.members = true
  unreachable : ∀ f outcome, (⟨.await kind f, some outcome⟩ : Event Resp) ∈ past →
    outcome = .error .unavailable
  servable : ∀ now, (⟨.clock, now⟩ : Event Resp) ∈ past →
    freshness cfg e now ≠ .expired ∨ servableOffline cfg e now = true

/-- During an outage the entry is answered. -/
theorem Outage.answered {cfg : Config} {past : Past} {kind : Kind} {lookup : Lookup kind}
    {e : Entry kind} {outcome : Outcome kind} (outage : Outage cfg past lookup e)
    (seen : Seen cfg past lookup outcome) :
    ∃ host record, past.Met lookup.since host ∧ fromEntry cfg host e = .ok record ∧ outcome = .ok record := by
  cases seen with
  | refused inForce refused =>
    rw [outage.key _ inForce] at refused
    cases refused
  | missed hit => exact nomatch outage.unmissed _ hit
  | @entry e' host read inForce =>
    obtain rfl := some.inj (outage.cached _ read)
    obtain ⟨record, accepted⟩ := outage.record host inForce
    exact ⟨host, record, inForce, accepted, accepted⟩
  | fetched joined ended settled => exact absurd (outage.unreachable _ _ ended) settled
  | absent read nothing =>
    obtain rfl := outage.cached _ read
    rw [filter_some] at nothing
    cases needed : lookup.needMembers with
    | false => simp [needed] at nothing
    | true => simp [needed, outage.members needed] at nothing
  | old read clock expired unservable =>
    obtain rfl := some.inj (outage.cached _ read)
    rcases outage.servable _ clock with current | servable
    · exact absurd expired current
    · rw [servable] at unservable
      cases unservable

/-- **An outage is not an absence.**  In every run, a lookup answers "no such record" only if the
policy refused it, a denial was remembered, or a fetch was denied, and it answers a record only
if it was cached, while nothing said that it was gone, or if a fetch brought it.  While every
call fails it answers what is cached.  A fetch all of whose calls fail does not end with "no such
record", and one that does has forgotten the key, unless the server did not accept the name. -/
theorem outage_is_not_absence (cfg : Config) :
    (∀ host store clock daemon tid kind key sshd needMembers since outcome,
      Reaches (machine cfg) (fun _ _ => True) (started host store clock) daemon →
      daemon.Returned tid (.resolve kind key sshd needMembers) (.resolved kind since outcome) →
      Answered cfg daemon.shared since key outcome) ∧
    (∀ kind (lookup : Lookup kind) e (past : Past) outcome,
      Prog.Runs (fun _ _ => True) (resolve cfg (fetch lookup.since kind lookup.key) lookup)
        [⟨.arrive, lookup.since⟩] past outcome →
      Outage cfg past lookup e →
      ∃ host record, past.Met lookup.since host ∧ fromEntry cfg host e = .ok record ∧
        outcome = .ok record) ∧
    ∀ kind key f (past : Past) (outcome : Outcome kind),
      Prog.Runs (fun _ _ => True) (load cfg kind key f) [] past outcome →
      ((∀ reply : Reply kind, past.Heard key f reply → reply = .unavailable) →
        outcome = .error .unavailable) ∧
      (outcome = .error .noRecord →
        past.Heard key f (.invalid : Reply kind) ∨ past.Forgot kind key) := by
  refine ⟨?_, ?_, ?_⟩
  · intro host store clock daemon tid kind key sshd needMembers since outcome run returned
    exact answered_of_returned run returned
  · intro kind lookup e past outcome run outage
    exact outage.answered ((walk_resolve lookup (.head _)).runs run).1
  · intro kind key f past outcome run
    obtain ⟨learnt, forgot⟩ := (walk_load.runs run).1
    refine ⟨fun failing => ?_, forgot⟩
    cases learnt with
    | denied heard denies =>
      rw [failing _ heard] at denies
      exact denies.elim
    | granted heard => exact nomatch failing _ heard
    | unreachable => rfl

namespace Sample

/-- A user. -/
def ada : Bytes := ofString "ada"

/-- What the server answers about it. -/
def adaAnswer : NSSUserResponse := { name := ada, uid := 1001, gid := 1001, status := active }

/-- The entry of that answer. -/
def adaEntry : Entry .user := newEntry .user adaAnswer 0 Duration.second

/-- A daemon that has just started, long after the entry was fetched. -/
def awake : Daemon :=
  started {} (fun
    | .user => ⟨[adaEntry], pairwise_singleton _ _⟩
    | .group => .empty) Duration.minute

/-- Nothing happens but the step. -/
def quiet : Choice := {}

/-- The server does not accept the name. -/
def invalid : Choice := { reply := fun _ => .invalid }

/-- A lookup, and the fetch it waits for. -/
def looked (tid flight : Nat) (reply : Choice) (rest : List Choice) : List (Label Nat Choice Call) :=
  .spawn tid (.resolve .user (.name ada) false false) ::
    ([quiet, quiet, quiet, quiet, quiet, quiet].map (.run tid) ++
      .spawn (tid + 1) (.flight .user flight) :: [quiet, reply, quiet].map (.run (tid + 1)) ++
        rest.map (.run tid))

/-- How a lookup of a user ended. -/
def ended (daemon : Daemon) (tid : Nat) : Option (Moment × Outcome .user) :=
  match (daemon.threads tid).map Thread.rest with
  | some (.ret (.inr (.resolved .user since outcome))) => some (since, outcome)
  | _ => none

/-- The server did not accept the name. -/
def heardInvalid : Mark → Bool
  | .heard .user key _ .invalid _ => key == .name ada
  | _ => false

/-- The server knew the user, or a positive answer was stored. -/
def positive : Mark → Bool
  | .heard .user key _ (.found _) _ => key == .name ada
  | .stored .user name _ => name == ada
  | _ => false

/-- A lookup of the user answered that there is no such user. -/
def denied (daemon : Daemon) (tid : Nat) : Bool :=
  match daemon.threads tid with
  | some ⟨.resolve .user (.name name) false false, _,
      .ret (.inr (.resolved .user _ (.error .noRecord)))⟩ => name == ada
  | _ => false

theorem returned_of_denied {daemon : Daemon} {tid : Nat} (h : denied daemon tid = true) :
    ∃ since, daemon.Returned tid (.resolve .user (.name ada) false false)
      (.resolved .user since (.error .noRecord)) := by
  unfold denied at h
  split at h
  · rename_i name current since present
    obtain rfl : name = ada := eq_of_beq h
    exact ⟨since, _, present, rfl, rfl⟩
  · cases h

/-- A lookup of the user long after the entry was fetched. -/
def lookup : Lookup .user := { key := .name ada, since := ⟨Duration.minute, [], [{}]⟩ }

/-- Every call fails. -/
def failing : (action : Act) → Resp action
  | .arrive => lookup.since
  | .host => {}
  | .policy _ => {}
  | .missed _ _ _ => false
  | .cached _ .user _ => some adaEntry
  | .cached _ .group _ => none
  | .clock => Duration.minute
  | .enqueue _ _ => ()
  | .join _ _ _ => 0
  | .await _ _ => some (.error .unavailable)
  | .begin _ _ => .name ada
  | .call _ _ _ => .unavailable
  | .addMiss _ _ => 0
  | .delete _ _ _ _ => ()
  | .put _ _ => ()
  | .unmiss _ _ => ()
  | .markStale _ _ => false
  | .clearMisses => ()
  | .finish _ _ _ => ()

/-- What the lookup is answered then. -/
def failed : Past × Outcome .user :=
  (resolve {} (fetch lookup.since .user lookup.key) lookup).answered (fun _ => failing)
    [⟨.arrive, lookup.since⟩]

/-- What a fetch is answered then. -/
def fetched : Past × Outcome .user :=
  (load {} .user (.name ada) 0).answered (fun _ => failing) []

theorem outage_failed : Outage {} failed.1 lookup adaEntry := by
  have all : ∀ event ∈ failed.1, event.2 = failing event.1 := by
    intro event member
    rcases Prog.of_mem_answered member with start | same
    · obtain rfl := mem_singleton.mp start
      rfl
    · exact same
  refine ⟨fun host inForce => ?_, fun host inForce => ?_, fun hit member => all _ member,
    fun found member => all _ member, nofun,
    fun f outcome member => some.inj (all _ member), fun now member => .inr ?_⟩
  · obtain rfl : host = {} := all _ inForce
    decide +kernel
  · obtain rfl : host = {} := all _ inForce
    have accepted : (fromEntry {} {} adaEntry).toOption.isSome = true := by decide +kernel
    cases judged : fromEntry {} {} adaEntry with
    | ok record => exact ⟨record, rfl⟩
    | error =>
      rw [judged] at accepted
      cases accepted
  · rfl

end Sample

open Userdb.Sample in
/-- An outage, and an answer that the name is not valid, of which the theorem speaks. -/
theorem outage_is_not_absence_ada :
    (∃ daemon since, Reaches (machine {}) (fun _ _ => True) awake daemon ∧
      daemon.Returned 0 (.resolve .user (.name ada) false false)
        (.resolved .user since (.error .noRecord)) ∧
      Denied {} daemon.shared since .user (.name ada)) ∧
    (Outage {} failed.1 lookup adaEntry ∧ ∃ host record, Past.Met failed.1 lookup.since host ∧
      fromEntry {} host adaEntry = .ok record ∧ failed.2 = .ok record) ∧
    Prog.Runs (fun _ _ => True) (load {} .user (.name ada) 0) [] fetched.1 fetched.2 ∧
      fetched.2 = .error .unavailable := by
  obtain ⟨runs, outages, fetches⟩ := outage_is_not_absence {}
  refine ⟨?_, ?_, ?_⟩
  · have ran : ((machine {}).runLabels awake (looked 0 0 invalid [quiet])).map
        (fun daemon => denied daemon 0) = some true := by decide +kernel
    obtain ⟨daemon, run, answered⟩ := map_eq_some_iff.mp ran
    obtain ⟨since, returned⟩ := returned_of_denied answered
    have reached : Reaches (machine {}) (fun _ _ => True) awake daemon :=
      .of_runLabels _ (fun _ _ _ => trivial) run
    refine ⟨daemon, since, reached, returned, ?_⟩
    exact (runs _ _ _ daemon 0 .user (.name ada) false false since _ reached returned).denied rfl
  · refine ⟨outage_failed, outages .user lookup adaEntry failed.1 failed.2 ?_ outage_failed⟩
    exact Prog.runs_answered (fun _ _ => trivial) _ _
  · have run : Prog.Runs (fun _ _ => True) (load {} .user (.name ada) 0) [] fetched.1 fetched.2 :=
      Prog.runs_answered (fun _ _ => trivial) _ _
    refine ⟨run, (fetches .user (.name ada) 0 _ _ run).1 fun reply heard => ?_⟩
    rcases Prog.of_mem_answered heard with start | same
    · cases start
    · exact same

open Userdb.Sample in
/-- The server does not accept the name, and the lookup answers that there is no such user.  Then
the server cannot be reached, and the next lookup answers the entry that was kept, although the
last that was heard about the user was a denial and nothing has been stored. -/
theorem invalid_keeps_entry : ((machine {}).runLabels awake
      (looked 0 0 invalid [quiet] ++ looked 2 1 quiet [quiet, quiet])).map (fun daemon =>
        (denied daemon 0, daemon.shared.log.any positive,
          (ended daemon 2).map fun (since, outcome) =>
            (since.log.any heardInvalid, outcome.toOption.map User.uid))) =
      some (true, false, some (true, some 1001)) := by
  decide +kernel

end Ssoossh.Nssd.Userdb
