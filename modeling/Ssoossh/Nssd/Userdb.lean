import Ssoossh.Lib.Histories
import Ssoossh.Lib.TwoKey
import Ssoossh.Nssd.Policy

/-!
# The lookups of the host daemon

How the daemon answers a lookup of a user or a group (`nssd/userdb/users.go`, `groups.go`):
the host policy, the cache of misses (`nssd/cache/negative.go`), the cache of records with
its freshness rules (`cache.go`), and a fetch that all lookups of one key share
(`flight.go`).

Lookups, fetches, background refreshes and invalidations run at the same time.  The host's
files may change and time passes before any step.  What the server answers, whether the
cache's store fails and when a lookup stops waiting are the environment's choice.

Users and groups are treated alike but for what their names say, so each function is written
once for both kinds.  Texts that are only logged are left out.

`State.hosts` and `State.log` are history variables: the host's files so far, and what was
heard, remembered, dropped, stored and read, newest first.  A lookup carries the `Moment` at
which it arrived, and a miss its place in the log, for the proofs alone.
-/

namespace Ssoossh.Nssd.Userdb

open Interleaving GoTime GoBytes

/-! ## Records -/

/-- What is looked up. -/
inductive Kind where
  | user
  | group
deriving DecidableEq, Repr

/-- `userKey` or `groupKey`.  The texts they are written as are different for different
keys, so the keys themselves stand for them. -/
abbrev Key := TwoKey.Key Bytes UInt32

/-- What the server answers. -/
abbrev Response : Kind → Type
  | .user => NSSUserResponse
  | .group => NSSGroupResponse

/-- The name of an answer. -/
def Response.name : {kind : Kind} → Response kind → Bytes
  | .user, resp => NSSUserResponse.name resp
  | .group, resp => NSSGroupResponse.name resp

/-- The uid or gid of an answer. -/
def Response.id : {kind : Kind} → Response kind → UInt32
  | .user, resp => NSSUserResponse.uid resp
  | .group, resp => NSSGroupResponse.gid resp

/-- What the daemon serves. -/
abbrev Record : Kind → Type
  | .user => User
  | .group => Group

/-- `errNoRecord` and `errUnavailable`. -/
inductive Failure where
  | noRecord
  | unavailable
deriving DecidableEq, Repr

/-- How a lookup or a fetch ends. -/
abbrev Outcome (kind : Kind) := Except Failure (Record kind)

/-- What a call of the upstream client brings.  The server may answer with nothing. -/
inductive Reply (kind : Kind) where
  | found (resp : Option (Response kind))
  | notFound
  | invalid
  | unavailable

section Policy

variable (cfg : Config) (host : Host)

/-- `checkUserKey` and `checkGroupKey`. -/
def checkKey : Kind → Key → Policy Unit
  | .user, .name name => checkUserName cfg host name
  | .user, .number uid => checkUID cfg host uid
  | .group, .name name => checkGroupName cfg host name
  | .group, .number gid => checkGID cfg host gid

/-- What the policy makes of an answer. -/
def served : {kind : Kind} → Response kind → Policy (Record kind)
  | .user, resp => servedUser cfg host resp
  | .group, resp => servedGroup cfg host resp

end Policy

/-! ## Entries -/

/-- What an entry holds: an answer, which may not decode, or nothing but a group's name and
gid. -/
inductive Content : Kind → Type where
  | data {kind : Kind} (decoded : Option (Response kind)) : Content kind
  | stub : Content .group

/-- An answer is kept under its own name and id. -/
def Content.Names : {kind : Kind} → Content kind → Bytes → UInt32 → Prop
  | _, .data (some resp), name, id => resp.name = name ∧ resp.id = id
  | _, .data none, _, _ => True
  | .group, .stub, _, _ => True

/-- `UserEntry` and `GroupEntry`. -/
structure Entry (kind : Kind) where
  name : Bytes
  id : UInt32
  content : Content kind
  fetchedAt : Int
  expiresAt : Int
  stale : Bool := false
  named : content.Names name id

/-- `Members`: the entry holds an answer. -/
def Entry.members {kind : Kind} (e : Entry kind) : Bool :=
  match e.content with
  | .data _ => true
  | .stub => false

/-- Mark an entry stale. -/
def Entry.markStale {kind : Kind} (e : Entry kind) (marked : Bool) : Entry kind :=
  { e with stale := e.stale || marked }

/-- `Freshness`. -/
inductive Freshness where
  | fresh
  | refresh
  | expired
deriving DecidableEq, Repr

section Times

variable (cfg : Config) {kind : Kind} (e : Entry kind) (now : Int)

/-- `TTL.Freshness`: from a share of its lifetime on an entry is served and fetched again. -/
def freshness : Freshness :=
  if e.stale || !Time.before now e.expiresAt then .expired
  else if cfg.entryCacheNowaitPercentage ≤ 0 then .fresh
  else
    let lifetime := wrapInt64 (Time.sub e.expiresAt e.fetchedAt * cfg.entryCacheNowaitPercentage)
    if Time.before now (Time.add e.fetchedAt (Duration.quot lifetime 100)) then .fresh else .refresh

/-- `TTL.ServableOffline`: how long an entry is served while the server is away. -/
def servableOffline : Bool :=
  cfg.cacheExpireOffline ≤ 0 || Time.sub now e.fetchedAt < cfg.cacheExpireOffline

/-- The login rule asks for a refresh before sshd is answered. -/
def softExpired : Bool := Time.sub now e.fetchedAt > cfg.loginSoftTTL

end Times

/-- What the policy makes of the content of an entry. -/
def fromContent (cfg : Config) (host : Host) (name : Bytes) (id : UInt32) :
    {kind : Kind} → Content kind → Outcome kind
  | _, .data none => .error .unavailable
  | _, .data (some resp) => (served cfg host resp).mapError fun _ => .noRecord
  | .group, .stub =>
    ((checkGroupStub cfg host ⟨id, name⟩).map fun _ => ({ name, gid := id } : Group)).mapError
      fun _ => .noRecord

/-- `userFromEntry` and `groupFromEntry`. -/
def fromEntry (cfg : Config) (host : Host) {kind : Kind} (e : Entry kind) : Outcome kind :=
  fromContent cfg host e.name e.id e.content

/-- The entries of one kind, found by name and by id. -/
abbrev Store (kind : Kind) := TwoKey.Shelf (@Entry.name kind) (@Entry.id kind)

/-! ## Misses -/

/-- `Negative`: the misses, each with the time until which it counts. -/
structure Negative where
  entries : List ((Kind × Key) × Int) := []

/-- `maxNegative`. -/
def maxNegative : Nat := 10000

namespace Negative

variable (misses : Negative)

/-- `Delete`. -/
def delete (key : Kind × Key) : Negative := ⟨misses.entries.filter fun miss => miss.1 ≠ key⟩

/-- `Has`, which drops a miss that no longer counts. -/
def has (now : Int) (key : Kind × Key) : Negative × Bool :=
  match misses.entries.find? fun miss => miss.1 = key with
  | none => (misses, false)
  | some miss => if Time.before now miss.2 then (misses, true) else (misses.delete key, false)

/-- Make room: drop what no longer counts, and everything if that is not enough. -/
def room (now : Int) : Negative :=
  if misses.entries.length < maxNegative then misses
  else
    let live := misses.entries.filter fun miss => Time.before now miss.2
    if live.length < maxNegative then ⟨live⟩ else {}

/-- `Add`: a miss is remembered with its expiry, once there is room for it. -/
def add (ttl now : Int) (key : Kind × Key) : Negative :=
  ⟨(key, Time.add now ttl) :: ((misses.room now).delete key).entries⟩

end Negative

/-! ## State -/

/-- What happened: the server answered a fetch, a miss was remembered, what was cached under
its key was dropped, a positive answer was stored, a lookup read an entry, a fetch ended. -/
inductive Mark where
  | heard (kind : Kind) (key : Key) (flight : Nat) (reply : Reply kind) (time : Int)
  | missed (kind : Kind) (key : Key) (stamp : Nat) (time : Int)
  | dropped (kind : Kind) (key : Key) (stamp : Nat)
  | stored (kind : Kind) (name : Bytes) (id : UInt32)
  | read (kind : Kind) (key : Key) (entry : Entry kind)
  | finished (kind : Kind) (flight : Nat)

/-- A time, and what had happened by then. -/
structure Moment where
  clock : Int
  log : List Mark
  hosts : List Host

/-- A fetch: whether it runs, and how it ended. -/
structure Flight (kind : Kind) where
  key : Key
  begun : Bool := false
  outcome : Option (Outcome kind) := none

/-- What the daemon's lookups share. -/
structure State where
  host : Host
  store : (kind : Kind) → Store kind
  negative : Negative := {}
  flights : (kind : Kind) → List (Flight kind) := fun _ => []
  clock : Int
  hosts : List Host := [host]
  log : List Mark := []

/-- The entry under a key. -/
def State.find (s : State) (kind : Kind) (key : Key) : Option (Entry kind) := (s.store kind).find key

/-- Note what happened. -/
def State.note (s : State) (marks : List Mark) : State := { s with log := marks ++ s.log }

/-- What the environment decides: how far the clock moves, what the host's files have become,
what the server answers, which entries contradict a new answer, and whether something fails
or is given up. -/
structure Choice where
  elapsed : Nat := 0
  host : Option Host := none
  reply : (kind : Kind) → Reply kind := fun _ => .unavailable
  stale : List Bytes := []
  fails : Bool := false

/-- Let time pass. -/
def State.pass (s : State) (choice : Choice) : State :=
  { s with
    clock := s.clock + choice.elapsed
    host := choice.host.getD s.host
    hosts := choice.host.toList ++ s.hosts }

/-! ## Steps -/

/-- Why the cache is read. -/
inductive Site where
  | lookup (since : Moment)
  | forget (stamp : Nat)
  | stub

/-- What is noted of a read of the cache. -/
def Site.marks {kind : Kind} (key : Key) : Site → Option (Entry kind) → List Mark
  | .lookup _, some entry => [.read kind key entry]
  | .forget stamp, none => [.dropped kind key stamp]
  | _, _ => []

/-- Which entries are marked stale. -/
inductive Selection where
  | all
  | named (name : Bytes)
  | contradicted

/-- Whether a name is selected. -/
def Selection.picks (choice : Choice) (name : Bytes) : Selection → Bool
  | .all => true
  | .named wanted => name == wanted
  | .contradicted => choice.stale.contains name

/-- One step. -/
inductive Act where
  | arrive
  | host
  | policy (since : Moment)
  | missed (since : Moment) (kind : Kind) (key : Key)
  | cached (site : Site) (kind : Kind) (key : Key)
  | clock
  | enqueue (kind : Kind) (key : Key)
  | join (since : Moment) (kind : Kind) (key : Key)
  | await (kind : Kind) (flight : Nat)
  | begin (kind : Kind) (flight : Nat)
  | call (kind : Kind) (key : Key) (flight : Nat)
  | addMiss (kind : Kind) (key : Key)
  | delete (kind : Kind) (key : Key) (stamp : Nat) (name : Bytes)
  | put (kind : Kind) (entry : Entry kind)
  | unmiss (kind : Kind) (key : Key)
  | markStale (kind : Kind) (selection : Selection)
  | clearMisses
  | finish (kind : Kind) (flight : Nat) (outcome : Outcome kind)

/-- What a step is answered. -/
abbrev Resp : Act → Type
  | .arrive => Moment
  | .host => Host
  | .policy _ => Host
  | .missed _ _ _ => Bool
  | .cached _ kind _ => Option (Entry kind)
  | .clock => Int
  | .enqueue _ _ => Unit
  | .join _ _ _ => Nat
  | .await kind _ => Option (Outcome kind)
  | .begin _ _ => Key
  | .call kind _ _ => Reply kind
  | .addMiss _ _ => Nat
  | .delete _ _ _ _ => Unit
  | .put _ _ => Unit
  | .unmiss _ _ => Unit
  | .markStale _ _ => Bool
  | .clearMisses => Unit
  | .finish _ _ _ => Unit

section Changes

variable (s : State)

/-- Change the entries of one kind. -/
def State.setStore (kind : Kind) (store : Store kind) : State :=
  { s with store := Function.update s.store kind store }

/-- Change the fetches of one kind. -/
def State.setFlights (kind : Kind) (flights : List (Flight kind)) : State :=
  { s with flights := Function.update s.flights kind flights }

/-- `MarkStale`: the entries selected are fetched before they are served again. -/
def State.markStale (choice : Choice) (kind : Kind) (selection : Selection) : State :=
  s.setStore kind ((s.store kind).change
    (fun e => e.markStale (selection.picks choice e.name)) (fun _ => rfl) (fun _ => rfl))

/-- The fetch that runs for a key. -/
def State.running (kind : Kind) (key : Key) : Option Nat :=
  (s.flights kind).findIdx? fun flight => decide (flight.key = key) && flight.outcome.isNone

end Changes

/-- What one step does. -/
def execute (cfg : Config) (s : State) (choice : Choice) :
    (action : Act) → Option (State × Resp action)
  | .arrive => some (s, ⟨s.clock, s.log, s.hosts⟩)
  | .host => some (s, s.host)
  | .policy _ => some (s, s.host)
  | .missed _ kind key =>
    let (negative, found) := s.negative.has s.clock (kind, key)
    some ({ s with negative }, found)
  | .cached site kind key =>
    if choice.fails then some (s, none)
    else some (s.note (site.marks key (s.find kind key)), s.find kind key)
  | .clock => some (s, s.clock)
  | .enqueue _ _ => some (s, ())
  | .join _ kind key =>
    match s.running kind key with
    | some flight => some (s, flight)
    | none => some (s.setFlights kind (s.flights kind ++ [{ key }]), (s.flights kind).length)
  | .await kind f =>
    if choice.fails then some (s, none)
    else
      match (s.flights kind)[f]?.bind Flight.outcome with
      | some outcome => some (s, some outcome)
      | none => none
  | .begin kind f =>
    match (s.flights kind)[f]? with
    | some flight =>
      if flight.begun then none
      else some (s.setFlights kind ((s.flights kind).set f { flight with begun := true }), flight.key)
    | none => none
  | .call kind key f => some (s.note [.heard kind key f (choice.reply kind) s.clock], choice.reply kind)
  | .addMiss kind key =>
    some ({ s with negative := s.negative.add cfg.entryNegativeTimeout s.clock (kind, key) }.note
      [.missed kind key s.log.length s.clock], s.log.length)
  | .delete kind key stamp name =>
    if choice.fails then some (s, ())
    else some ((s.setStore kind ((s.store kind).drop name)).note [.dropped kind key stamp], ())
  | .put kind entry =>
    some ((if choice.fails then s else s.setStore kind ((s.store kind).put entry)).note
      [.stored kind entry.name entry.id], ())
  | .unmiss kind key => some ({ s with negative := s.negative.delete (kind, key) }, ())
  | .markStale kind selection =>
    if choice.fails then some (s, false) else some (s.markStale choice kind selection, true)
  | .clearMisses => some ({ s with negative := {} }, ())
  | .finish kind f outcome =>
    match (s.flights kind)[f]? with
    | some flight =>
      some ((s.setFlights kind
        ((s.flights kind).set f { flight with outcome := some outcome })).note [.finished kind f], ())
    | none => none

/-! ## Fetches -/

/-- A program of steps. -/
abbrev Program (α : Type) := Prog Act Resp α

/-- One step. -/
def take (action : Act) : Program (Resp action) := Prog.perform action

/-- `forgetUser` and `forgetGroup`.  Only a user leaves groups behind that may name it. -/
def forget (kind : Kind) (key : Key) : Program Unit := do
  let stamp ← take (.addMiss kind key)
  match ← take (.cached (.forget stamp) kind key) with
  | none => pure ()
  | some entry => do
    take (.delete kind key stamp entry.name)
    match kind with
    | .user => do
      let _ ← take (.markStale .group .contradicted)
      pure ()
    | .group => pure ()

/-- The entry of an answer. -/
def newEntry (kind : Kind) (resp : Response kind) (now ttl : Int) : Entry kind where
  name := resp.name
  id := resp.id
  content := .data (some resp)
  fetchedAt := now
  expiresAt := Time.add now ttl
  named := ⟨rfl, rfl⟩

/-- The entry of a group that is only known as a membership. -/
def newStub (m : NSSMembership) (now ttl : Int) : Entry .group where
  name := m.name
  id := m.gid
  content := .stub
  fetchedAt := now
  expiresAt := Time.add now ttl
  named := trivial

/-- Store an entry, and forget the misses under its keys. -/
def putEntry {kind : Kind} (entry : Entry kind) : Program Unit := do
  take (.put kind entry)
  take (.unmiss kind (.name entry.name))
  take (.unmiss kind (.number entry.id))

section Fetches

variable (cfg : Config)

/-- `storeGroupStub`.  An entry that also knows the members is kept. -/
def storeGroupStub (now : Int) (m : NSSMembership) : Program Unit := do
  let old ← take (.cached .stub .group (.name m.name))
  if old.any fun e => e.members && e.id == m.gid then pure ()
  else putEntry (newStub m now cfg.ttlGroup)

/-- Store a membership that passes the policy. -/
def storeMembership (now : Int) (m : NSSMembership) : Program Unit := do
  let host ← take .host
  match checkGroupStub cfg host m with
  | .ok _ => storeGroupStub cfg now m
  | .error _ => pure ()

/-- The memberships of a user that is stored. -/
def storeMemberships (now : Int) : List NSSMembership → Program Unit
  | [] => pure ()
  | m :: rest => do
    storeMembership cfg now m
    storeMemberships now rest

/-- `storeUser`: the entry and a stub for each group it names; groups that contradict it are
stale. -/
def storeUser (resp : NSSUserResponse) : Program Unit := do
  let now ← take .clock
  putEntry (newEntry .user resp now cfg.ttlUser)
  storeMemberships cfg now resp.groups
  let _ ← take (.markStale .group .contradicted)

/-- `storeGroup`: the entry; users that contradict it are stale. -/
def storeGroup (resp : NSSGroupResponse) : Program Unit := do
  let now ← take .clock
  putEntry (newEntry .group resp now cfg.ttlGroup)
  let _ ← take (.markStale .user .contradicted)

/-- Store an answer. -/
def store : {kind : Kind} → Response kind → Program Unit
  | .user, resp => storeUser cfg resp
  | .group, resp => storeGroup cfg resp

/-- `loadUser` and `loadGroup`. -/
def load (kind : Kind) (key : Key) (flight : Nat) : Program (Outcome kind) := do
  match ← take (.call kind key flight) with
  | .notFound => do
    forget kind key
    pure (.error .noRecord)
  | .invalid => pure (.error .noRecord)
  | .unavailable => pure (.error .unavailable)
  | .found none => do
    forget kind key
    pure (.error .noRecord)
  | .found (some resp) =>
    if ¬key.Picks resp.name resp.id then do
      forget kind key
      pure (.error .noRecord)
    else do
      let host ← take .host
      match served cfg host resp with
      | .error _ => do
        forget kind key
        pure (.error .noRecord)
      | .ok record => do
        store cfg resp
        pure (.ok record)

end Fetches

/-- `fetchUser` and `fetchGroup`: join the fetch of the key, and wait for it. -/
def fetch (since : Moment) (kind : Kind) (key : Key) : Program (Outcome kind) := do
  let flight ← take (.join since kind key)
  match ← take (.await kind flight) with
  | some outcome => pure outcome
  | none => pure (.error .unavailable)

/-! ## Lookups -/

/-- What a lookup asks for.  Only users are looked up for sshd, and only groups for their
members. -/
structure Lookup (kind : Kind) where
  key : Key
  sshd : Bool := false
  needMembers : Bool := false
  since : Moment

section Lookups

variable (cfg : Config) {kind : Kind} (fetch : Program (Outcome kind))

/-- Answer from an entry. -/
def answerFrom (lookup : Lookup kind) (e : Entry kind) : Program (Outcome kind) := do
  let host ← take (.policy lookup.since)
  pure (fromEntry cfg host e)

/-- `loginRefresh`: no outcome if the refresh did not settle the answer. -/
def loginRefresh : Program (Option (Outcome kind)) := do
  match ← fetch with
  | .ok record => pure (some (.ok record))
  | .error .noRecord => pure (some (.error .noRecord))
  | .error .unavailable => pure none

/-- Refresh an entry first, if the login rule asks for it. -/
def refreshFor (lookup : Lookup kind) (e : Entry kind) (now : Int) : Program (Option (Outcome kind)) :=
  if lookup.sshd && softExpired cfg e now then loginRefresh fetch else pure none

/-- An entry that is not expired. -/
def answerCurrent (lookup : Lookup kind) (e : Entry kind) (now : Int) : Program (Outcome kind) := do
  match ← refreshFor cfg fetch lookup e now with
  | some outcome => pure outcome
  | none =>
    if freshness cfg e now = .refresh && e.members then do
      take (.enqueue kind lookup.key)
      answerFrom cfg lookup e
    else answerFrom cfg lookup e

/-- Fetch, and fall back on an entry that may be served offline. -/
def answerFetched (lookup : Lookup kind) (entry : Option (Entry kind)) (now : Int) :
    Program (Outcome kind) := do
  match ← fetch with
  | .ok record => pure (.ok record)
  | .error .noRecord => pure (.error .noRecord)
  | .error .unavailable =>
    match entry.filter fun e => servableOffline cfg e now with
    | some e => answerFrom cfg lookup e
    | none => pure (.error .unavailable)

/-- `resolveUser` and `resolveGroup`. -/
def resolve (lookup : Lookup kind) : Program (Outcome kind) := do
  let host ← take (.policy lookup.since)
  match checkKey cfg host kind lookup.key with
  | .error _ => pure (.error .noRecord)
  | .ok _ => do
    if ← take (.missed lookup.since kind lookup.key) then pure (.error .noRecord)
    else do
      let found ← take (.cached (.lookup lookup.since) kind lookup.key)
      let entry := found.filter fun e => !lookup.needMembers || e.members
      let now ← take .clock
      match entry.filter fun e => decide (freshness cfg e now ≠ .expired) with
      | some e => answerCurrent cfg fetch lookup e now
      | none => answerFetched cfg fetch lookup entry now

end Lookups

/-! ## GetUserRecord -/

/-- `userParams`, decoded.  Of `fuzzyNames` and `uuid` only counts whether they are there. -/
structure UserParams where
  uid : Option Int := none
  userName : Option Bytes := none
  fuzzyNames : Bool := false
  dispositionMask : List String := []
  uidMin : Option Int := none
  uidMax : Option Int := none
  uuid : Bool := false
  service : Option String := none

/-- The errors of the interface. -/
inductive Fault where
  | badService
  | invalidParameter (field : String)
  | enumerationNotSupported
  | noRecordFound
  | serviceNotAvailable
  | conflictingRecordFound
  | nonMatchingRecordFound
deriving DecidableEq, Repr

/-- `ServiceName`. -/
def serviceName : String := "com.github.mnestor.ssoossh"

/-- `maxValidID`. -/
def maxValidID : Int := 4294967294

/-- `id`. -/
def checkID (field : String) : Option Int → Except Fault (Option UInt32)
  | none => .ok none
  | some v =>
    if v < 0 ∨ v > maxValidID then .error (.invalidParameter field)
    else .ok (some (UInt32.ofNat v.toNat))

/-- `matchesFilters`: the kind and the ids asked for. -/
def matchesFilters (mask : List String) (lo hi : Option Int) (recordID : UInt32) : Bool :=
  (mask.isEmpty || mask.contains "regular") && lo.all (fun lo : Int => decide (lo ≤ recordID.toNat)) &&
    hi.all fun hi : Int => decide (recordID.toNat ≤ hi)

/-- `resolutionFailure`. -/
def resolutionFailure : Failure → Fault
  | .noRecord => .noRecordFound
  | .unavailable => .serviceNotAvailable

/-- What a call asks for: the uid, if there is one, and the key. -/
def userRequest (p : UserParams) : Except Fault (Option UInt32 × Key) := do
  if p.service ≠ some serviceName then
    throw .badService
  if p.fuzzyNames then
    throw (.invalidParameter "fuzzyNames")
  if p.uuid then
    throw (.invalidParameter "uuid")
  match ← checkID "uid" p.uid, p.userName with
  | some uid, _ => return (some uid, .number uid)
  | none, some name => return (none, .name name)
  | none, none => throw .enumerationNotSupported

/-- What a call is answered once its key has led to a user. -/
def answerUser (p : UserParams) (uid : Option UInt32) (u : User) : Except Fault User :=
  if uid.any (fun uid => u.uid ≠ uid) ∨ p.userName.any (fun name => u.name ≠ name) then
    .error .conflictingRecordFound
  else if !matchesFilters p.dispositionMask p.uidMin p.uidMax u.uid then .error .nonMatchingRecordFound
  else .ok u

/-- `getUserRecord`, up to the encoding of the record. -/
def getUserRecord (cfg : Config) (fetch : Moment → Key → Program (Outcome .user)) (p : UserParams)
    (sshd : Bool) : Program (Except Fault User) :=
  match userRequest p with
  | .error fault => pure (.error fault)
  | .ok (uid, key) => do
    let since ← take .arrive
    match ← resolve cfg (fetch since key) { key, sshd, since } with
    | .error failure => pure (.error (resolutionFailure failure))
    | .ok u => pure (answerUser p uid u)

/-! ## The daemon -/

/-- `cache.Selector`. -/
structure Selector where
  users : Bool
  groups : Bool
  name : Bytes

/-- Mark the entries of a kind, if it is selected. -/
def markSelected (selected : Bool) (kind : Kind) (selection : Selection) : Program Bool :=
  if selected then take (.markStale kind selection) else pure true

/-- Forget the miss of a name, if its kind is selected. -/
def unmissSelected (selected : Bool) (kind : Kind) (name : Bytes) : Program Unit :=
  if selected then take (.unmiss kind (.name name)) else pure ()

/-- `Invalidate`: what an administrator selects is stale, and its misses are forgotten. -/
def invalidate (sel : Selector) : Program Unit := do
  let selection := if sel.name = [] then Selection.all else .named sel.name
  let users ← markSelected sel.users .user selection
  let groups ← markSelected sel.groups .group selection
  if !(users && groups) then pure ()
  else if sel.name = [] then take .clearMisses
  else do
    unmissSelected sel.users .user sel.name
    unmissSelected sel.groups .group sel.name

/-- What is run. -/
inductive Call where
  | resolve (kind : Kind) (key : Key) (sshd needMembers : Bool)
  | flight (kind : Kind) (flight : Nat)
  | refresh (kind : Kind) (key : Key)
  | invalidate (sel : Selector)

/-- How a call ends. -/
inductive Result where
  | resolved (kind : Kind) (since : Moment) (outcome : Outcome kind)
  | done

section Machine

variable (cfg : Config)

/-- The program of a call.  A fetch runs on its own, whoever waits for it. -/
def body : Call → Program (Call ⊕ Result)
  | .resolve kind key sshd needMembers => do
    let since ← take .arrive
    let outcome ← resolve cfg (fetch since kind key) { key, sshd, needMembers, since }
    pure (.inr (.resolved kind since outcome))
  | .flight kind f => do
    let key ← take (.begin kind f)
    let outcome ← load cfg kind key f
    take (.finish kind f outcome)
    pure (.inr .done)
  | .refresh kind key => do
    let since ← take .arrive
    let _ ← fetch since kind key
    pure (.inr .done)
  | .invalidate sel => do
    invalidate sel
    pure (.inr .done)

/-- The daemon. -/
def machine : Machine Act Resp State Nat Choice Call Result where
  exec := fun _ s action choice => execute cfg (s.pass choice) choice action
  body := body cfg

end Machine

/-- The daemon's calls, as they stand. -/
abbrev Daemon := Interleaving.Config Act Resp State Nat Call Result

/-- A daemon that has just started over what its store holds. -/
def started (host : Host) (store : (kind : Kind) → Store kind) (clock : Int) : Daemon :=
  ⟨{ host, store, clock }, fun _ => none⟩

end Ssoossh.Nssd.Userdb
