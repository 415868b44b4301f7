import Ssoossh.Nssd.Userdb
import Ssoossh.Nssd.LocalAccounts

/-!
# Lookups by name and by uid

Programs look a user up by name and then its files' owner up by uid, and expect to get back
where they started.  The daemon finds and caches records by the server's uid, and a host
override changes the uid afterwards, so the round trip fails for a user whose uid is
overridden: the lookup by the new uid asks for whoever has it at the server.

Here the directory can always be reached and knows each user by name and by uid
(`Directory`), and both lookups are made in one state of the daemon.  `Aligned` says exactly
when they agree: no override moves the uid of a record that is served, no remembered miss
hides the other key, and what is cached does not contradict the directory.
-/

namespace Ssoossh.Nssd.Userdb

open Interleaving GoTime GoBytes Option Fallible

/-! ## The directory -/

/-- A directory that can always be reached.  Its users are found under their names and under
their uids. -/
structure Directory where
  find : Key → Option NSSUserResponse
  picks : ∀ key resp, find key = some resp → key.Picks resp.name resp.uid
  both : ∀ key key' resp, find key = some resp → key'.Picks resp.name resp.uid →
    find key' = some resp

/-- What the directory answers. -/
def Directory.reply (D : Directory) (key : Key) : Reply .user :=
  match D.find key with
  | some resp => .found (some resp)
  | none => .notFound

/-- Nothing fails, and the directory answers the fetches of users. -/
def Directory.choice (D : Directory) : Act → Choice
  | .call .user key _ =>
    { reply := fun
        | .user => D.reply key
        | .group => .unavailable }
  | _ => {}

section Lookups

variable (cfg : Config) (D : Directory) (s : State) (sshd : Bool)

/-- One step in such a directory, at one point in time. -/
def settled (s : State) (action : Act) : Option (State × Resp action) :=
  execute cfg s (D.choice action) action

/-- The record a call is answered with, if it is. -/
def answerOf (p : UserParams) : Option User :=
  ((getUserRecord cfg (fun _ key => load cfg .user key 0) p sshd).eval (settled cfg D) s).bind
    fun after => after.2.toOption

/-- The answer by name. -/
def byName (name : Bytes) : Option User :=
  answerOf cfg D s sshd { userName := some name, service := some serviceName }

/-- The answer by uid. -/
def byUID (uid : UInt32) : Option User :=
  answerOf cfg D s sshd { uid := some uid.toNat, service := some serviceName }

/-- **The round trip.** -/
structure RoundTrip : Prop where
  name : ∀ name u, byName cfg D s sshd name = some u →
    ∃ u', byUID cfg D s sshd u.uid = some u' ∧ u'.name = name
  uid : ∀ uid u, byUID cfg D s sshd uid = some u → u.uid = uid ∧
    ∃ u', byName cfg D s sshd u.name = some u' ∧ u'.uid = uid
  unique : ∀ name name' u u', byName cfg D s sshd name = some u → byName cfg D s sshd name' = some u' →
    u.uid = u'.uid → name = name'

/-! ## The record in force -/

/-- A miss is remembered under a key. -/
def missed (key : Key) : Bool := (s.negative.has s.clock (.user, key)).2

/-- The entry under a key, if it is answered without asking the server. -/
def current (key : Key) : Option (Entry .user) :=
  (s.find .user key).filter fun e =>
    decide (freshness cfg e s.clock ≠ .expired) && !(sshd && softExpired cfg e s.clock)

/-- What an entry of a user holds. -/
def Entry.response (e : Entry .user) : Option NSSUserResponse :=
  match e.content with
  | .data decoded => decoded

/-- The record that a lookup of a key is answered from. -/
def inForce (key : Key) : Option NSSUserResponse :=
  match current cfg s sshd key with
  | some e => e.response
  | none => D.find key

/-- **When the lookups agree.** -/
structure Aligned : Prop where
  /-- A user that is served is served with the uid of its record, which no other current entry
  has, or with the uid that the directory now has for it. -/
  name : ∀ name resp u, missed s (.name name) = false →
    inForce cfg D s sshd (.name name) = some resp → servedUser cfg s.host resp = .ok u →
    u.uid.toNat ≤ maxValidID ∧ missed s (.number u.uid) = false ∧
      (u.uid = resp.uid ∧ (current cfg s sshd (.name name) = none →
          current cfg s sshd (.number u.uid) = none) ∨
        u.uid ≠ resp.uid ∧ current cfg s sshd (.name name) ≠ none ∧
          current cfg s sshd (.number u.uid) = none ∧
          ∃ resp', D.find (.number u.uid) = some resp' ∧ resp'.name = name ∧
            ∃ u', servedUser cfg s.host resp' = .ok u')
  /-- A user that is served under its uid is not hidden under its name, and a current entry of
  its name is served with the same uid. -/
  uid : ∀ uid resp u, (uid.toNat : Int) ≤ maxValidID → missed s (.number uid) = false →
    inForce cfg D s sshd (.number uid) = some resp → servedUser cfg s.host resp = .ok u →
    u.uid = uid → missed s (.name resp.name) = false ∧
      (current cfg s sshd (.number uid) = none → ∀ e, current cfg s sshd (.name resp.name) = some e →
        ∃ resp' u', e.response = some resp' ∧ servedUser cfg s.host resp' = .ok u' ∧ u'.uid = uid)

end Lookups

/-! ## What the policy serves -/

section Policy

variable {cfg : Config} {host : Host} {resp : NSSUserResponse} {u : User}

/-- What a served user tells about its record. -/
structure Served (cfg : Config) (host : Host) (resp : NSSUserResponse) (u : User) : Prop where
  name : u.name = resp.name
  uid : u.uid = (host.override resp.name).uid.getD resp.uid
  nameChecked : checkUserName cfg host u.name = .ok ()
  uidChecked : checkUID cfg host u.uid = .ok ()

theorem served_of_ok (ok : servedUser cfg host resp = .ok u) : Served cfg host resp u := by
  obtain ⟨nameChecked, uidChecked, -⟩ := checks_of_servedUser ok
  simp only [servedUser, bind_eq_ok] at ok
  obtain ⟨_, -, _, -, ⟨_, _⟩, -, _, -, _, -, returned⟩ := ok
  obtain rfl := Except.ok.inj returned
  exact ⟨rfl, rfl, nameChecked, uidChecked⟩

end Policy

/-! ## What a lookup comes to -/

/-- A step that waits for nothing. -/
def Act.Immediate : Act → Prop
  | .join _ _ _ | .await _ _ | .begin _ _ | .finish _ _ _ => False
  | _ => True

section Evaluation

variable {cfg : Config} {D : Directory} {key : Key}

theorem settled_ne_none (cfg : Config) (D : Directory) (s : State) (action : Act)
    (immediate : action.Immediate) : settled cfg D s action ≠ none := by
  cases action with
  | join | await | begin | finish => exact immediate.elim
  | _ => exact some_ne_none _

theorem confined_take {α : Type} {action : Act} {next : Resp action → Program α}
    (immediate : action.Immediate)
    (rest : ∀ answer, (next answer).Confined Act.Immediate fun _ => True) :
    (take action >>= next).Confined Act.Immediate fun _ => True :=
  .act immediate rest

theorem confined_forget (kind : Kind) (key : Key) : (forget kind key).Confined Act.Immediate fun _ => True := by
  refine confined_take trivial fun stamp => confined_take trivial fun found => ?_
  cases found with
  | none => exact .ret trivial
  | some =>
    refine confined_take trivial fun _ => ?_
    cases kind with
    | user => exact confined_take trivial fun _ => .ret trivial
    | group => exact .ret trivial

theorem confined_putEntry {kind : Kind} {e : Entry kind} :
    (putEntry e).Confined Act.Immediate fun _ => True :=
  confined_take trivial fun _ => confined_take trivial fun _ => .act trivial fun _ => .ret trivial

theorem confined_storeMemberships {now : Int} {memberships : List NSSMembership} :
    (storeMemberships cfg now memberships).Confined Act.Immediate fun _ => True := by
  induction memberships with
  | nil => exact .ret trivial
  | cons m rest ih =>
    refine Prog.Confined.bind (L := fun _ => True) ?_ fun _ _ => ih
    refine confined_take trivial fun host => ?_
    split
    · refine confined_take trivial fun old => ?_
      split
      · exact .ret trivial
      · exact confined_putEntry
    · exact .ret trivial

theorem confined_storeUser (cfg : Config) (resp : NSSUserResponse) :
    (storeUser cfg resp).Confined Act.Immediate fun _ => True := by
  refine confined_take trivial fun now => ?_
  refine Prog.Confined.bind confined_putEntry fun _ _ => ?_
  refine Prog.Confined.bind confined_storeMemberships fun _ _ => ?_
  exact .act trivial fun _ => .ret trivial

/-- What a fetch of a user ends with. -/
def fetchedOutcome (cfg : Config) (D : Directory) (host : Host) (key : Key) : Outcome .user :=
  match D.find key with
  | none => .error .noRecord
  | some resp => (servedUser cfg host resp).mapError fun _ => .noRecord

theorem fetchedOutcome_ne {host : Host} : fetchedOutcome cfg D host key ≠ .error .unavailable := by
  unfold fetchedOutcome
  split
  · nofun
  · rename_i resp found
    cases servedUser cfg host resp <;> nofun

/-- A fetch in a directory that can be reached. -/
theorem eval_load (cfg : Config) (D : Directory) (s : State) (key : Key) :
    ∃ s', (load cfg .user key 0).eval (settled cfg D) s =
      some (s', fetchedOutcome cfg D s.host key) := by
  have denied : ∀ s : State, ∃ s', (forget .user key >>= fun _ =>
      pure (.error .noRecord : Outcome .user)).eval (settled cfg D) s =
        some (s', .error .noRecord) := by
    intro s
    obtain ⟨s', ⟨⟩, forgot⟩ := (confined_forget .user key).eval (settled_ne_none cfg D) s
    exact ⟨s', Prog.eval_bind forgot⟩
  have called : settled cfg D s (.call .user key 0) =
      some (s.note [.heard .user key 0 (D.reply key) s.clock], D.reply key) := rfl
  unfold load
  rw [take, Prog.eval_bind (Prog.eval_perform called)]
  cases found : D.find key with
  | none =>
    simp only [fetchedOutcome, Directory.reply, found]
    exact denied _
  | some resp =>
    have same : ¬¬key.Picks resp.name resp.uid := not_not.mpr (D.picks key resp found)
    have read : settled cfg D (s.note [.heard .user key 0 (.found (some resp)) s.clock]) .host =
        some (_, s.host) := rfl
    simp only [fetchedOutcome, Directory.reply, found]
    show ∃ s', (if ¬key.Picks resp.name resp.uid then _ else
      Prog.perform .host >>= _ : Program (Outcome .user)).eval _ _ = _
    rw [if_neg same, Prog.eval_bind (Prog.eval_perform read)]
    cases judged : servedUser cfg s.host resp with
    | error =>
      simp only [served, judged]
      exact denied _
    | ok =>
      obtain ⟨s', ⟨⟩, stored⟩ := (confined_storeUser cfg resp).eval (settled_ne_none cfg D)
        (s.note [.heard .user key 0 (.found (some resp)) s.clock])
      simp only [served, judged]
      exact ⟨s', Prog.eval_bind stored⟩

/-- Falling back is never necessary. -/
theorem eval_answerFetched (cfg : Config) (D : Directory) (s : State) (lookup : Lookup .user)
    (entry : Option (Entry .user)) (now : Int) :
    ∃ s', (answerFetched cfg (load cfg .user lookup.key 0) lookup entry now).eval (settled cfg D) s =
      some (s', fetchedOutcome cfg D s.host lookup.key) := by
  obtain ⟨s', loaded⟩ := eval_load cfg D s lookup.key
  refine ⟨s', ?_⟩
  rw [answerFetched, Prog.eval_bind loaded]
  match outcome : fetchedOutcome cfg D s.host lookup.key with
  | .ok record => rfl
  | .error .noRecord => rfl
  | .error .unavailable => exact absurd outcome fetchedOutcome_ne

/-- ... and a refresh settles the answer. -/
theorem eval_loginRefresh (cfg : Config) (D : Directory) (s : State) (key : Key) :
    ∃ s', (loginRefresh (load cfg .user key 0)).eval (settled cfg D) s =
      some (s', some (fetchedOutcome cfg D s.host key)) := by
  obtain ⟨s', loaded⟩ := eval_load cfg D s key
  refine ⟨s', ?_⟩
  rw [loginRefresh, Prog.eval_bind loaded]
  match outcome : fetchedOutcome cfg D s.host key with
  | .ok record => rfl
  | .error .noRecord => rfl
  | .error .unavailable => exact absurd outcome fetchedOutcome_ne

/-- The outcome of a lookup. -/
def resolvedOutcome (cfg : Config) (D : Directory) (s : State) (sshd : Bool) (key : Key) :
    Outcome .user :=
  match checkKey cfg s.host .user key with
  | .error _ => .error .noRecord
  | .ok _ =>
    if missed s key then .error .noRecord
    else
      match current cfg s sshd key with
      | some e => fromEntry cfg s.host e
      | none => fetchedOutcome cfg D s.host key

/-- An entry that is not expired. -/
theorem eval_answerCurrent (cfg : Config) (D : Directory) (s : State) (lookup : Lookup .user)
    (e : Entry .user) (now : Int) :
    ∃ s', (answerCurrent cfg (load cfg .user lookup.key 0) lookup e now).eval (settled cfg D) s =
      some (s', if lookup.sshd && softExpired cfg e now then fetchedOutcome cfg D s.host lookup.key
        else fromEntry cfg s.host e) := by
  have answered : ∀ s : State, (answerFrom cfg lookup e).eval (settled cfg D) s =
      some (s, fromEntry cfg s.host e) := fun s => rfl
  unfold answerCurrent refreshFor
  by_cases soft : (lookup.sshd && softExpired cfg e now) = true
  · obtain ⟨s', refreshed⟩ := eval_loginRefresh cfg D s lookup.key
    refine ⟨s', ?_⟩
    rw [if_pos soft, if_pos soft, Prog.eval_bind refreshed]
    rfl
  · rw [if_neg soft, if_neg soft]
    refine ⟨s, ?_⟩
    show (if (decide (freshness cfg e now = .refresh) && e.members) = true then
      take (.enqueue .user lookup.key) >>= fun _ => answerFrom cfg lookup e
      else answerFrom cfg lookup e).eval _ _ = _
    split
    · exact answered s
    · exact answered s

/-- **What a lookup comes to.** -/
theorem eval_resolve (cfg : Config) (D : Directory) (s : State) (lookup : Lookup .user)
    (any : lookup.needMembers = false) :
    ∃ s', (resolve cfg (load cfg .user lookup.key 0) lookup).eval (settled cfg D) s =
      some (s', resolvedOutcome cfg D s lookup.sshd lookup.key) := by
  have host : settled cfg D s (.policy lookup.since) = some (s, s.host) := rfl
  unfold resolve resolvedOutcome
  rw [take, Prog.eval_bind (Prog.eval_perform host)]
  cases checkKey cfg s.host .user lookup.key with
  | error => exact ⟨s, rfl⟩
  | ok =>
    let looked : State := { s with negative := (s.negative.has s.clock (.user, lookup.key)).1 }
    have remembered : settled cfg D s (.missed lookup.since .user lookup.key) =
        some (looked, missed s lookup.key) := rfl
    rw [take, Prog.eval_bind (Prog.eval_perform remembered)]
    cases missed s lookup.key with
    | true => exact ⟨looked, rfl⟩
    | false =>
      let read := looked.note (Site.marks lookup.key (.lookup lookup.since) (s.find .user lookup.key))
      have cached : settled cfg D looked (.cached (.lookup lookup.since) .user lookup.key) =
          some (read, s.find .user lookup.key) := rfl
      have clock : settled cfg D read .clock = some (read, s.clock) := rfl
      show ∃ s', (take (.cached (.lookup lookup.since) .user lookup.key) >>= _).eval _ looked = _
      rw [take, Prog.eval_bind (Prog.eval_perform cached)]
      rw [take, Prog.eval_bind (Prog.eval_perform clock)]
      have kept : (s.find .user lookup.key).filter (fun e => !lookup.needMembers || e.members) =
          s.find .user lookup.key := by
        rw [any]
        cases s.find .user lookup.key <;> rfl
      have standing : current cfg s lookup.sshd lookup.key =
          ((s.find .user lookup.key).filter fun e => decide (freshness cfg e s.clock ≠ .expired)).filter
            fun e => !(lookup.sshd && softExpired cfg e s.clock) := filter_filter.symm
      rw [kept, standing]
      cases (s.find .user lookup.key).filter fun e => decide (freshness cfg e s.clock ≠ .expired) with
      | none => exact eval_answerFetched cfg D read lookup _ s.clock
      | some e =>
        obtain ⟨s', done⟩ := eval_answerCurrent cfg D read lookup e s.clock
        refine ⟨s', done.trans ?_⟩
        rw [filter_some]
        cases lookup.sshd && softExpired cfg e s.clock <;> rfl

end Evaluation

/-! ## What the calls answer -/

section Answers

variable {cfg : Config} {D : Directory} {s : State} {sshd : Bool} {key key' : Key} {e : Entry .user}

variable {u : User}

theorem fromEntry_eq_ok {host : Host} : fromEntry cfg host e = .ok u ↔
      ∃ resp, e.response = some resp ∧ servedUser cfg host resp = .ok u := by
  obtain ⟨name, id, content, fetchedAt, expiresAt, stale, named⟩ := e
  cases content with
  | data decoded =>
    cases decoded with
    | none => simp [fromEntry, fromContent, Entry.response]
    | some => simp [fromEntry, fromContent, Entry.response, served]

theorem fetchedOutcome_eq_ok {host : Host} : fetchedOutcome cfg D host key = .ok u ↔
    ∃ resp, D.find key = some resp ∧ servedUser cfg host resp = .ok u := by
  unfold fetchedOutcome
  cases D.find key <;> simp

theorem resolvedOutcome_eq_ok : resolvedOutcome cfg D s sshd key = .ok u ↔
    checkKey cfg s.host .user key = .ok () ∧ missed s key = false ∧
      ∃ resp, inForce cfg D s sshd key = some resp ∧ servedUser cfg s.host resp = .ok u := by
  unfold resolvedOutcome inForce
  cases checkKey cfg s.host .user key with
  | error => simp
  | ok =>
    cases missed s key with
    | true => simp
    | false =>
      cases current cfg s sshd key with
      | some => simpa using fromEntry_eq_ok
      | none => simpa using fetchedOutcome_eq_ok

/-- The answer to a call for a key. -/
theorem answerOf_eq {p : UserParams} {uid : Option UInt32} (request : userRequest p = .ok (uid, key)) :
    answerOf cfg D s sshd p = (resolvedOutcome cfg D s sshd key).toOption.bind fun u =>
      (answerUser p uid u).toOption := by
  have arrived : settled cfg D s .arrive = some (s, ⟨s.clock, s.log, s.hosts⟩) := rfl
  obtain ⟨s', resolved⟩ := eval_resolve cfg D s { key, sshd, since := ⟨s.clock, s.log, s.hosts⟩ } rfl
  unfold answerOf getUserRecord
  rw [request]
  rw [take, Prog.eval_bind (Prog.eval_perform arrived), Prog.eval_bind resolved]
  cases resolvedOutcome cfg D s sshd key <;> rfl

/-- A record in force is the one of the key. -/
theorem response_named {resp : NSSUserResponse} (holds : e.response = some resp) :
    resp.name = e.name ∧ resp.uid = e.id := by
  obtain ⟨name, id, content, fetchedAt, expiresAt, stale, named⟩ := e
  cases content with
  | data decoded =>
    obtain rfl : decoded = some resp := holds
    exact named

section

variable (standing : current cfg s sshd key = some e)
include standing

theorem find_of_current : s.find .user key = some e :=
  (filter_eq_some_iff.mp standing).1

/-- A current entry is current under both of its keys. -/
theorem current_of_picks (picks : key'.Picks e.name e.id) : current cfg s sshd key' = some e := by
  obtain ⟨found, fresh⟩ := filter_eq_some_iff.mp standing
  exact filter_eq_some_iff.mpr ⟨TwoKey.Shelf.find_of_picks found picks, fresh⟩

theorem inForce_of_current : inForce cfg D s sshd key = e.response := by
  rw [inForce, standing]

end

theorem inForce_of_none (nothing : current cfg s sshd key = none) :
    inForce cfg D s sshd key = D.find key := by
  rw [inForce, nothing]

theorem picks_of_inForce {resp : NSSUserResponse} (known : inForce cfg D s sshd key = some resp) :
    key.Picks resp.name resp.uid := by
  cases standing : current cfg s sshd key with
  | none =>
    rw [inForce_of_none standing] at known
    exact D.picks key resp known
  | some =>
    rw [inForce_of_current standing] at known
    obtain ⟨name, uid⟩ := response_named known
    rw [name, uid]
    exact TwoKey.Shelf.picks_of_find (find_of_current standing)

/-- The record in force under one of its keys is in force under the other, unless an entry there
hides what the directory has. -/
theorem inForce_of_picks {resp : NSSUserResponse} (known : inForce cfg D s sshd key = some resp)
    (picks : key'.Picks resp.name resp.uid)
    (alone : current cfg s sshd key = none → current cfg s sshd key' = none) :
    inForce cfg D s sshd key' = some resp := by
  cases standing : current cfg s sshd key with
  | none =>
    rw [inForce_of_none standing] at known
    rw [inForce_of_none (alone standing)]
    exact D.both _ _ resp known picks
  | some =>
    rw [inForce_of_current standing] at known
    obtain ⟨name, uid⟩ := response_named known
    rw [name, uid] at picks
    rw [inForce_of_current (current_of_picks standing picks)]
    exact known

/-- A call without filters is answered with the user, unless it asked for another. -/
theorem answerUser_eq_ok {p : UserParams} {uid : Option UInt32} {u' : User}
    (unfiltered : matchesFilters p.dispositionMask p.uidMin p.uidMax u.uid = true) :
    answerUser p uid u = .ok u' ↔ u = u' ∧ (∀ wanted, uid = some wanted → u.uid = wanted) ∧
      ∀ name, p.userName = some name → u.name = name := by
  have agrees : ¬(uid.any (fun uid => u.uid ≠ uid) = true ∨
      p.userName.any (fun name => u.name ≠ name) = true) ↔
      (∀ wanted, uid = some wanted → u.uid = wanted) ∧
        ∀ name, p.userName = some name → u.name = name := by
    rw [not_or]
    cases uid <;> cases p.userName <;> simp
  unfold answerUser
  rw [unfiltered, ← agrees]
  split
  · rename_i conflict
    exact ⟨nofun, fun asked => absurd conflict asked.2⟩
  · rename_i same
    exact ⟨fun answered => ⟨Except.ok.inj answered, same⟩, fun asked => congrArg Except.ok asked.1⟩

/-- What a call without filters is answered. -/
theorem answerOf_eq_some {p : UserParams} {uid : Option UInt32}
    (request : userRequest p = .ok (uid, key))
    (unfiltered : ∀ u : User, matchesFilters p.dispositionMask p.uidMin p.uidMax u.uid = true) :
    answerOf cfg D s sshd p = some u ↔
      (checkKey cfg s.host .user key = .ok () ∧ missed s key = false ∧
        ∃ resp, inForce cfg D s sshd key = some resp ∧ servedUser cfg s.host resp = .ok u) ∧
      (∀ wanted, uid = some wanted → u.uid = wanted) ∧ ∀ name, p.userName = some name → u.name = name := by
  rw [answerOf_eq request, bind_eq_some_iff]
  constructor
  · rintro ⟨u', resolved, answered⟩
    obtain ⟨rfl, asked⟩ := (answerUser_eq_ok (unfiltered u')).mp (toOption_eq_some.mp answered)
    exact ⟨resolvedOutcome_eq_ok.mp (toOption_eq_some.mp resolved), asked⟩
  · rintro ⟨known, asked⟩
    refine ⟨u, toOption_eq_some.mpr (resolvedOutcome_eq_ok.mpr known), ?_⟩
    exact toOption_eq_some.mpr ((answerUser_eq_ok (unfiltered u)).mpr ⟨rfl, asked⟩)

/-- **The answer by name.** -/
theorem byName_eq_some {name : Bytes} : byName cfg D s sshd name = some u ↔
    missed s (.name name) = false ∧
      ∃ resp, inForce cfg D s sshd (.name name) = some resp ∧ servedUser cfg s.host resp = .ok u := by
  have request : userRequest { userName := some name, service := some serviceName } =
      .ok (none, .name name) := by simp [userRequest, checkID]
  rw [byName, answerOf_eq_some request fun _ => rfl]
  constructor
  · rintro ⟨⟨-, unmissed, known⟩, -, -⟩
    exact ⟨unmissed, known⟩
  · rintro ⟨unmissed, resp, known, ok⟩
    obtain ⟨same, -, checked, -⟩ := served_of_ok ok
    have named : u.name = name := same.trans (picks_of_inForce known)
    rw [named] at checked
    refine ⟨⟨checked, unmissed, resp, known, ok⟩, nofun, ?_⟩
    rintro _ ⟨⟩
    exact named

/-- **The answer by uid.** -/
theorem byUID_eq_some {uid : UInt32} : byUID cfg D s sshd uid = some u ↔
    (uid.toNat : Int) ≤ maxValidID ∧ missed s (.number uid) = false ∧
      (∃ resp, inForce cfg D s sshd (.number uid) = some resp ∧ servedUser cfg s.host resp = .ok u) ∧
      u.uid = uid := by
  by_cases valid : (uid.toNat : Int) ≤ maxValidID
  · have inside : ¬((uid.toNat : Int) < 0 ∨ (uid.toNat : Int) > maxValidID) := by omega
    have request : userRequest { uid := some uid.toNat, service := some serviceName } =
        .ok (some uid, .number uid) := by
      simp [userRequest, checkID, if_neg inside]
    rw [byUID, answerOf_eq_some request fun _ => rfl]
    constructor
    · rintro ⟨⟨-, unmissed, known⟩, same, -⟩
      exact ⟨valid, unmissed, known, same uid rfl⟩
    · rintro ⟨-, unmissed, ⟨resp, known, ok⟩, same⟩
      obtain ⟨-, -, -, checked⟩ := served_of_ok ok
      rw [same] at checked
      refine ⟨⟨checked, unmissed, resp, known, ok⟩, ?_, nofun⟩
      rintro _ ⟨⟩
      exact same
  · have outside : (uid.toNat : Int) < 0 ∨ (uid.toNat : Int) > maxValidID := by omega
    have request : userRequest { uid := some uid.toNat, service := some serviceName } =
        .error (.invalidParameter "uid") := by
      simp only [userRequest, checkID, if_pos outside]
      rfl
    have refused : byUID cfg D s sshd uid = none := by
      unfold byUID answerOf getUserRecord
      rw [request]
      rfl
    rw [refused]
    exact ⟨nofun, fun known => absurd known.1 valid⟩

end Answers

/-! ## The round trip -/

section RoundTrip

variable {cfg : Config} {D : Directory} {s : State} {sshd : Bool}

/-- By name and back: the user that is served from a record is found again under its uid. -/
theorem byUID_iff {name : Bytes} {resp : NSSUserResponse} {u : User}
    (known : inForce cfg D s sshd (.name name) = some resp)
    (ok : servedUser cfg s.host resp = .ok u) :
    (∃ u', byUID cfg D s sshd u.uid = some u' ∧ u'.name = name) ↔
      u.uid.toNat ≤ maxValidID ∧ missed s (.number u.uid) = false ∧
        (u.uid = resp.uid ∧ (current cfg s sshd (.name name) = none →
            current cfg s sshd (.number u.uid) = none) ∨
          u.uid ≠ resp.uid ∧ current cfg s sshd (.name name) ≠ none ∧
            current cfg s sshd (.number u.uid) = none ∧
            ∃ resp', D.find (.number u.uid) = some resp' ∧ resp'.name = name ∧
              ∃ u', servedUser cfg s.host resp' = .ok u') := by
  have named : resp.name = name := picks_of_inForce known
  have judged := served_of_ok ok
  constructor
  · rintro ⟨u', answered, same⟩
    obtain ⟨valid, unmissed, ⟨resp', known', ok'⟩, uid⟩ := byUID_eq_some.mp answered
    have named' : resp'.name = name := (served_of_ok ok').name.symm.trans same
    refine ⟨valid, unmissed, ?_⟩
    cases standing : current cfg s sshd (.number u.uid) with
    | some e =>
      -- the entry under the uid is the one under the name
      rw [inForce_of_current standing] at known'
      have both : current cfg s sshd (.name name) = some e :=
        current_of_picks standing ((response_named known').1.symm.trans named')
      rw [inForce_of_current both, known'] at known
      obtain rfl := Option.some.inj known
      have own : resp'.uid = e.id := (response_named known').2
      have filed : e.id = u.uid := TwoKey.Shelf.picks_of_find (find_of_current standing)
      refine .inl ⟨(own.trans filed).symm, fun nothing => ?_⟩
      rw [both] at nothing
      cases nothing
    | none =>
      rw [inForce_of_none standing] at known'
      by_cases moved : u.uid = resp.uid
      · exact .inl ⟨moved, fun _ => rfl⟩
      · refine .inr ⟨moved, fun nothing => moved ?_, rfl, resp', known', named', u', ok'⟩
        -- the directory has one record of the name
        rw [inForce_of_none nothing, D.both _ (.name name) resp' known' named'] at known
        obtain rfl := Option.some.inj known
        exact (D.picks _ _ known').symm
  · rintro ⟨valid, unmissed, ⟨own, alone⟩ | ⟨moved, -, nothing, resp', known', named', u', ok'⟩⟩
    · refine ⟨u, byUID_eq_some.mpr ⟨valid, unmissed, ⟨resp, ?_, ok⟩, rfl⟩, judged.name.trans named⟩
      exact inForce_of_picks known own.symm alone
    · have overridden : (s.host.override name).uid = some u.uid := by
        have uid := judged.uid
        rw [named] at uid
        cases forced : (s.host.override name).uid with
        | none =>
          rw [forced] at uid
          exact absurd uid moved
        | some =>
          rw [uid, forced]
          rfl
      have judged' := served_of_ok ok'
      have uid' : u'.uid = u.uid := by
        rw [judged'.uid, named', overridden]
        rfl
      refine ⟨u', byUID_eq_some.mpr ⟨valid, unmissed, ⟨resp', ?_, ok'⟩, uid'⟩, judged'.name.trans named'⟩
      rw [inForce_of_none nothing]
      exact known'

/-- By uid and back. -/
theorem byName_iff {uid : UInt32} {resp : NSSUserResponse} {u : User}
    (known : inForce cfg D s sshd (.number uid) = some resp)
    (ok : servedUser cfg s.host resp = .ok u) (same : u.uid = uid) :
    (∃ u', byName cfg D s sshd u.name = some u' ∧ u'.uid = uid) ↔
      missed s (.name resp.name) = false ∧
        (current cfg s sshd (.number uid) = none → ∀ e, current cfg s sshd (.name resp.name) = some e →
          ∃ resp' u', e.response = some resp' ∧ servedUser cfg s.host resp' = .ok u' ∧ u'.uid = uid) := by
  rw [(served_of_ok ok).name]
  constructor
  · rintro ⟨u', answered, same'⟩
    obtain ⟨unmissed, resp', known', ok'⟩ := byName_eq_some.mp answered
    refine ⟨unmissed, fun _ e standing => ⟨resp', u', ?_, ok', same'⟩⟩
    rw [inForce_of_current standing] at known'
    exact known'
  · rintro ⟨unmissed, agree⟩
    by_cases hidden : current cfg s sshd (.number uid) = none ∧
        ∃ e, current cfg s sshd (.name resp.name) = some e
    · obtain ⟨filed, e, standing⟩ := hidden
      obtain ⟨resp', u', holds, ok', same'⟩ := agree filed e standing
      refine ⟨u', byName_eq_some.mpr ⟨unmissed, resp', ?_, ok'⟩, same'⟩
      rw [inForce_of_current standing]
      exact holds
    · refine ⟨u, byName_eq_some.mpr ⟨unmissed, resp, ?_, ok⟩, same⟩
      refine inForce_of_picks known rfl fun filed => eq_none_iff_forall_ne_some.mpr fun e standing => ?_
      exact hidden ⟨filed, e, standing⟩

end RoundTrip

/-- **When lookups by name and by uid agree.**  For every configuration, host, cache and
directory they do exactly if no override moves the uid of a record that is served, no remembered
miss hides the other key and the cache does not contradict the directory. -/
theorem roundTrip_iff (cfg : Config) (D : Directory) (s : State) (sshd : Bool) :
    RoundTrip cfg D s sshd ↔ Aligned cfg D s sshd := by
  constructor
  · intro trip
    refine ⟨?_, ?_⟩
    · intro name resp u unmissed known ok
      have answered := byName_eq_some.mpr ⟨unmissed, resp, known, ok⟩
      exact (byUID_iff known ok).mp (trip.name name u answered)
    · intro uid resp u valid unmissed known ok same
      have answered := byUID_eq_some.mpr ⟨valid, unmissed, ⟨resp, known, ok⟩, same⟩
      exact (byName_iff known ok same).mp (trip.uid uid u answered).2
  · intro aligned
    have back : ∀ name u, byName cfg D s sshd name = some u →
        ∃ u', byUID cfg D s sshd u.uid = some u' ∧ u'.name = name := by
      intro name u answered
      obtain ⟨unmissed, resp, known, ok⟩ := byName_eq_some.mp answered
      exact (byUID_iff known ok).mpr (aligned.name name resp u unmissed known ok)
    refine ⟨back, ?_, ?_⟩
    · intro uid u answered
      obtain ⟨valid, unmissed, ⟨resp, known, ok⟩, same⟩ := byUID_eq_some.mp answered
      exact ⟨same, (byName_iff known ok same).mpr (aligned.uid uid resp u valid unmissed known ok same)⟩
    · intro name name' u u' answered answered' same
      obtain ⟨v, there, named⟩ := back name u answered
      obtain ⟨v', there', named'⟩ := back name' u' answered'
      rw [← same, there] at there'
      obtain rfl := Option.some.inj there'
      exact named.symm.trans named'

/-- The directory of a store of records. -/
def Directory.of (shelf : TwoKey.Shelf NSSUserResponse.name NSSUserResponse.uid) : Directory where
  find := shelf.find
  picks _ _ found := TwoKey.Shelf.picks_of_find found
  both _ _ _ found picks := TwoKey.Shelf.find_of_picks found picks

namespace Sample

/-- Two users. -/
def grace : NSSUserResponse := { name := ofString "grace", uid := 1001, gid := 1001, status := active }

def linus : NSSUserResponse := { name := ofString "linus", uid := 2001, gid := 2001, status := active }

/-- The directory that has them. -/
def staff : Directory := .of ⟨[grace, linus], by
  simp only [List.pairwise_pair, TwoKey.Apart, grace, linus]
  decide +kernel⟩

/-- The first has the uid of the second on this host. -/
def moved : Overrides := ⟨[(ofString "grace", { uid := some 2001 })], by simp⟩

/-- A daemon with nothing in its cache. -/
def emptyState : State :=
  { host := { overrides := moved }, store := fun _ => .empty, clock := 0 }

end Sample

open Userdb.Sample in
/-- An override gives a user the uid of another.  Both names are then served with it, and by uid
the other one is answered. -/
theorem override_breaks_roundTrip :
    (parseOverrides moved).toOption.map Overrides.entries = some moved.entries ∧
      (byName {} staff emptyState false (ofString "grace")).map User.uid = some 2001 ∧
      (byName {} staff emptyState false (ofString "linus")).map User.uid = some 2001 ∧
      (byUID {} staff emptyState false 2001).map User.name = some (ofString "linus") ∧
      ¬RoundTrip {} staff emptyState false := by
  have first : (byName {} staff emptyState false (ofString "grace")).map User.uid = some 2001 := by
    decide +kernel
  have second : (byName {} staff emptyState false (ofString "linus")).map User.uid = some 2001 := by
    decide +kernel
  refine ⟨by decide +kernel, first, second, by decide +kernel, fun trip => ?_⟩
  obtain ⟨u, answered, uid⟩ := map_eq_some_iff.mp first
  obtain ⟨u', answered', uid'⟩ := map_eq_some_iff.mp second
  have same := trip.unique _ _ u u' answered answered' (uid.trans uid'.symm)
  exact absurd same (by decide +kernel)

end Ssoossh.Nssd.Userdb
