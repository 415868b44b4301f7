import Ssoossh.Lib.Histories
import Ssoossh.Policy.CertType
import Ssoossh.Server.Database

/-!
# Processes, broker and database

The state that the server's calls share, and the atomic actions they take on it.
Any number of processes run against one database and one broker; each process keeps
its own cache of resolved outcomes.  A call runs on one process, and a call that
subscribes gets a channel of its own.

What the environment decides is the `Choice` an action is answered with: the time,
the random bytes, which of the ready cases a `select` takes, and whether a statement
or a publication fails.  A statement that fails has changed nothing.

## History variables

Three fields of `Shared` are written by `exec` and read by nothing: `told`, every
outcome any process ever put in its cache; `grants`, what the committed service
approvals fixed; and `claims`, the page claims that were won.  They are what the
theorems about whole runs are stated with.  `Channel.delivered` is the same for one
channel.
-/

namespace Ssoossh

open Interleaving GoTime

/-! ## Shared state -/

/-- A running call: the process it runs on, and a number that tells it apart. -/
structure Tid where
  process : Nat
  call : Nat
  deriving DecidableEq, Repr

/-- A subscription: what is waiting in it, and all that was ever delivered to it.  A
payload that does not decode is `none`. -/
structure Channel where
  topic : String
  queue : List (Option OutcomeMessage) := []
  delivered : List (Option OutcomeMessage) := []

/-- A message arrives. -/
def Channel.push (channel : Channel) (payload : Option OutcomeMessage) : Channel :=
  { channel with
    queue := channel.queue ++ [payload]
    delivered := payload :: channel.delivered }

/-- An outcome some process has cached. -/
structure Told where
  process : Nat
  requestID : RequestID
  outcome : WaitOutcome
  deriving DecidableEq

/-- A page claim that was won. -/
structure PageClaim where
  tid : Tid
  requestID : RequestID
  hash : String
  deriving DecidableEq

/-- What all calls share. -/
structure Shared where
  db : Database
  resolved : Nat → RequestID → Option WaitOutcome := fun _ _ => none
  channels : Tid → Option Channel := fun _ => none
  jobs : List SigningJob := []
  told : List Told := []
  grants : List ServiceGrant := []
  claims : List PageClaim := []

/-! ## Actions -/

/-- A statement that failed: at which of its parts, and whether it was refused by a
unique constraint. -/
structure DBError where
  message : String
  stage : Nat
  unique : Bool
  deriving DecidableEq

/-- What a `select` on a channel, the context and a timer came back with. -/
inductive Received
  | message (payload : Option OutcomeMessage)
  | closed
  | canceled
  | timer

/-- Which write to the cache this is: `notifyWaiter`'s, or that of a `Wait` that
accepts a wake message.  Like `ReadSite`, it only says where a call stands. -/
inductive PutSite
  | notify
  | accept
  deriving DecidableEq, Repr

/-- The atomic actions. -/
inductive Act
  | read (query : Query)
  | write (statement : Statement)
  | cacheGet (id : RequestID)
  | cachePut (site : PutSite) (id : RequestID) (outcome : WaitOutcome)
  | evict (cutoff : Int)
  | subscribe (topic : String)
  | publishWake (topic : String) (payload : Option OutcomeMessage)
  | publishJob (job : SigningJob)
  | receive (armed : Bool)
  | now
  | withinWindow (id : RequestID) (want : Status) (deadline : Int)
  | pollPause (id : RequestID) (want : Status)
  | newUUID
  | random (bytes : Nat)

/-- The answers. -/
def Act.Resp : Act → Type
  | .read query => Except DBError query.Row
  | .write statement => Except DBError statement.Result
  | .cacheGet _ => Option WaitOutcome
  | .cachePut _ _ _ => Unit
  | .evict _ => Unit
  | .subscribe _ => Except String Unit
  | .publishWake _ _ => Except String Unit
  | .publishJob _ => Except String Unit
  | .receive _ => Received
  | .now => Int
  | .withinWindow _ _ _ => Bool
  | .pollPause _ _ => Bool
  | .newUUID => String
  | .random _ => Except String (List UInt8)

/-- What the environment decides. -/
inductive Choice
  | done
  | fail (stage : Nat) (message : String)
  | time (t : Int)
  | text (s : String)
  | bytes (l : List UInt8)
  | message
  | closed
  | canceled
  | timer
  deriving DecidableEq, Repr

namespace Shared

/-- The row of a request. -/
def row (s : Shared) (id : RequestID) : Option CertificateRequest := s.db.requests.find? id

/-- What a committed statement adds to the history. -/
def note (s : Shared) (tid : Tid) : (statement : Statement) → statement.Result → Shared
  | .approveServiceEnrollment grant _, .committed => { s with grants := grant :: s.grants }
  | .claimPage id hash _ _, true => { s with claims := ⟨tid, id, hash⟩ :: s.claims }
  | _, _ => s

/-- Cache an outcome. -/
def cachePut (s : Shared) (process : Nat) (id : RequestID) (outcome : WaitOutcome) : Shared :=
  { s with
    resolved := fun p k => if p = process ∧ k = id then some outcome else s.resolved p k
    told := ⟨process, id, outcome⟩ :: s.told }

/-- Drop the cached outcomes of a process that are older than a cutoff. -/
def evict (s : Shared) (process : Nat) (cutoff : Int) : Shared :=
  { s with
    resolved := fun p k =>
      if p = process then (s.resolved p k).filter fun o => !Time.before o.resolvedAt cutoff
      else s.resolved p k }

/-- Open a channel.  A call has one at most: those that subscribe do so once. -/
def subscribe (s : Shared) (tid : Tid) (topic : String) : Option Shared :=
  match s.channels tid with
  | none => some { s with channels := Function.update s.channels tid (some { topic }) }
  | some _ => none

/-- Deliver a message to every channel that is subscribed. -/
def publishWake (s : Shared) (topic : String) (payload : Option OutcomeMessage) : Shared :=
  { s with
    channels := fun tid => (s.channels tid).map fun channel =>
      if channel.topic = topic then channel.push payload else channel }

/-- Take the next message. -/
def receive (s : Shared) (tid : Tid) : Option (Shared × Option OutcomeMessage) :=
  match s.channels tid with
  | some ⟨topic, payload :: queue, delivered⟩ =>
    some ({ s with
      channels := Function.update s.channels tid (some ⟨topic, queue, delivered⟩) }, payload)
  | _ => none

end Shared

/-- What an action does, given what the environment decides; `none` where it cannot
decide that. -/
def exec (tid : Tid) (s : Shared) : (action : Act) → Choice → Option (Shared × action.Resp)
  | .read query, .done => some (s, .ok (query.answer s.db))
  | .read _, .fail stage message => some (s, .error ⟨message, stage, false⟩)
  | .write statement, .done =>
    match statement.run s.db with
    | .ok (db, result) => some (({ s with db } : Shared).note tid statement result, .ok result)
    | .error stage => some (s, .error ⟨"UNIQUE constraint failed", stage, true⟩)
  | .write _, .fail stage message => some (s, .error ⟨message, stage, false⟩)
  | .cacheGet id, .done => some (s, s.resolved tid.process id)
  | .cachePut _ id outcome, .done => some (s.cachePut tid.process id outcome, ())
  | .evict cutoff, .done => some (s.evict tid.process cutoff, ())
  | .subscribe topic, .done => (s.subscribe tid topic).map fun next => (next, .ok ())
  | .subscribe _, .fail _ message => some (s, .error message)
  | .publishWake topic payload, .done => some (s.publishWake topic payload, .ok ())
  | .publishWake _ _, .fail _ message => some (s, .error message)
  | .publishJob job, .done => some ({ s with jobs := job :: s.jobs }, .ok ())
  | .publishJob _, .fail _ message => some (s, .error message)
  | .receive _, .message => (s.receive tid).map fun next => (next.1, .message next.2)
  | .receive _, .closed => some (s, .closed)
  | .receive _, .canceled => some (s, .canceled)
  | .receive armed, .timer => if armed then some (s, .timer) else none
  | .now, .time t => some (s, t)
  | .withinWindow _ _ deadline, .time t => some (s, Time.before t deadline)
  | .pollPause _ _, .done => some (s, true)
  | .pollPause _ _, .canceled => some (s, false)
  | .newUUID, .text id => some (s, id)
  | .random n, .bytes l => if l.length = n then some (s, .ok l) else none
  | .random _, .fail _ message => some (s, .error message)
  | _, _ => none

/-! ## Programs -/

/-- A program of a service: it may end in an error of the service. -/
abbrev Service (α : Type) := ExceptT ServiceError (Prog Act Act.Resp) α

/-- One action. -/
def perform (action : Act) : Service action.Resp := ExceptT.lift (Prog.perform action)

/-- Go on only if a condition holds. -/
def ensure (p : Prop) [Decidable p] (error : ServiceError) : Service Unit :=
  if p then pure () else throw error

/-- A computation without actions. -/
def lift {α : Type} (outcome : Except ServiceError α) : Service α := ExceptT.mk (.ret outcome)

/-- A read, with the words its failure is reported in. -/
def read (query : Query) (failure : String) : Service query.Row := do
  match ← perform (.read query) with
  | .ok row => pure row
  | .error e => throw (.internal (failure ++ ": " ++ e.message))

/-- A statement, with the words its failure is reported in. -/
def write (statement : Statement) (failure : String) : Service statement.Result := do
  match ← perform (.write statement) with
  | .ok result => pure result
  | .error e => throw (.internal (failure ++ ": " ++ e.message))

/-- A transaction: each part has its own words, and a failure to begin or to commit
is passed on as it is. -/
def transaction (statement : Statement) (failures : List String) : Service statement.Result := do
  match ← perform (.write statement) with
  | .ok result => pure result
  | .error e =>
    match failures[e.stage]? with
    | some failure => throw (.internal (failure ++ ": " ++ e.message))
    | none => throw (.internal e.message)

/-- What a service is configured with.  The compiled options are those of the
configured ones, which a service is not built without, and a configured duration is
one Go can represent. -/
structure Server where
  ext : Externals
  certOptions : CertificateOptions
  declaredClaims : List String
  compiled : CompiledOptions
  accepted : compileCertOptions ext certOptions declaredClaims = .ok compiled
  representable : ∀ certType, Duration.Fits (certOptions.validDurationFor certType)
  fipsEnabled : Bool := false
  expiredAttemptWindow : Int := 0
  adminRequireGroup : String := ""
  adminSOCGroup : String := ""

namespace Server

/-- A server from options that compile, for evaluating the model. -/
def ofOptions (ext : Externals) (options : CertificateOptions)
    (accepted : (compileCertOptions ext options []).toOption.isSome = true)
    (representable : ∀ certType, Duration.Fits (options.validDurationFor certType)) : Server where
  ext := ext
  certOptions := options
  declaredClaims := []
  compiled := (compileCertOptions ext options []).toOption.get accepted
  accepted := Fallible.eq_ok_get accepted
  representable := representable

/-- `CertRequestService.policyFor`. -/
def policyFor (server : Server) (certType : CertificateType) : Except ServiceError CertTypePolicy :=
  match server.compiled.policies.get? certType with
  | some policy => .ok policy
  | none => .error (.internal ("unsupported certificate type " ++ server.ext.quote certType.name))

/-- `approvalTTLFor`: an unknown type has the global budget. -/
def approvalTTLFor (server : Server) (certType : CertificateType) : Int :=
  match server.compiled.policies.get? certType with
  | some policy => policy.approvalTTL
  | none => server.certOptions.approvalTTL

/-- `ttlCutoffFor`: the zero time where there is no budget. -/
def ttlCutoffFor (server : Server) (certType : CertificateType) : Service Int :=
  if server.approvalTTLFor certType ≤ 0 then pure Time.zero
  else do
    let now ← perform .now
    pure (Time.add now (-server.approvalTTLFor certType))

/-- `AdminConfig.GrantsSOC`, by the admin group or the SOC group. -/
def grantsSOC (server : Server) (groups : List String) : Bool :=
  (server.adminRequireGroup != "" && groups.contains server.adminRequireGroup) ||
    (server.adminSOCGroup != "" && groups.contains server.adminSOCGroup)

end Server

end Ssoossh
