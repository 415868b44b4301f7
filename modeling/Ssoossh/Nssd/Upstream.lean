import Ssoossh.Lib.Interleaving
import Ssoossh.Nssd.Config

/-!
# The upstream client

The host daemon's side of the lookups (`nssd/upstream/upstream.go`).  All lookups share one
client: its fleet key, its HTTPS client, and one word of state that says whether to send the
next lookup at all.  `gate` reads that word, and each lookup that was let through ends by
overwriting it, with exactly one of `online`, `latch`, `rateLimited` and `fail`.

Up to `maxInFlight` lookups run at the same time, `Reset` among them, and the key file may
change before any step.  What the server answers, when a deadline passes and when a caller
gives up is the environment's choice.

`State.latched` is a history variable: a 401 was recorded, and since then neither a reset
nor a successful reload of the key file happened.
-/

namespace Ssoossh.Nssd.Upstream

open Interleaving GoTime

/-! ## The client -/

/-- The states that `Status` reports. -/
inductive ConnState where
  | unknown
  | online
  | offline
  | unauthorized
  | rateLimited
deriving DecidableEq, Repr

/-- `config.Key`. -/
structure Key where
  id : String
  secret : String
deriving DecidableEq

/-- `config.Stamp`, whose zero value is a missing file's. -/
structure Stamp where
  dev : Nat := 0
  ino : Nat := 0
  size : Int := 0
  mtime : Int := Time.zero
  present : Bool := false
deriving DecidableEq

/-- What `StampOf` and `ReadKeyFile` answer about the key file. -/
structure KeyFile where
  stamp : Except String Stamp
  key : Except String Key

/-- The fields of `Client` that its mutex guards.  HTTPS clients are numbered. -/
structure Client where
  key : Key
  keyStamp : Stamp
  keyErr : String := ""
  client : Option Nat := none
  state : ConnState := .unknown
  backoff : Int := 0
  retryAt : Int := Time.zero
  lastErr : String := ""
  lastErrAt : Int := Time.zero
  lastLatchAt : Int := Time.zero

/-- Why a lookup brought no record. -/
inductive Failure where
  | notFound
  | invalid (code : String)
  | offline (error : String)
  | unauthorized
  | rateLimited
  | busy
  | cancelled
deriving DecidableEq

/-- The error's text, where it is stored. -/
def Failure.text : Failure → String
  | .unauthorized => "the directory is unavailable: the server refused the fleet key"
  | .rateLimited => "the directory is unavailable: rate limited by the server"
  | _ => ""

/-- `latchLogInterval`: a latched key is logged at most this often. -/
def latchLogInterval : Int := Duration.minute

/-- `maxOfflineBackoff`: where the doubling of the wait ends. -/
def maxOfflineBackoff : Int := 60 * Duration.minute

namespace Client

variable (c : Client)

/-- `reloadKeyLocked`, and whether a new key was taken. -/
def reloadKey (file : KeyFile) (force : Bool) : Client × Bool :=
  if file.stamp.toOption = some c.keyStamp ∧ force = false then (c, false)
  else
    let c := { c with keyStamp := file.stamp.toOption.getD {} }
    match file.key with
    | .error msg => ({ c with keyErr := msg }, false)
    | .ok key => ({ c with keyErr := "", key, client := none }, true)

/-- The first half of `gate`: a new key clears the latch. -/
def noticeKey (file : KeyFile) : Client × Bool :=
  let (c, reloaded) := c.reloadKey file false
  if reloaded = true ∧ c.state = .unauthorized then
    ({ c with state := .unknown, retryAt := Time.zero }, reloaded)
  else (c, reloaded)

/-- The second half of `gate`: what the state says. -/
def judge (now : Int) : Client × Option Failure :=
  if c.state = .unauthorized then
    (if Time.sub now c.lastLatchAt ≥ latchLogInterval then { c with lastLatchAt := now } else c,
      some .unauthorized)
  else if Time.before now c.retryAt ∧ c.state = .rateLimited then (c, some .rateLimited)
  else if Time.before now c.retryAt then (c, some (.offline ""))
  else (c, none)

/-- `gate`: the client after it, the refusal if there is one, and whether the key was
reloaded. -/
def gate (file : KeyFile) (now : Int) : Client × Option Failure × Bool :=
  let (c, reloaded) := c.noticeKey file
  let (c, refusal) := c.judge now
  (c, refusal, reloaded)

/-- `online`: an answer from the server ends the backoff, whatever the state was before it. -/
def online : Client := { c with state := .online, backoff := 0, retryAt := Time.zero }

/-- `latch`: a 401 stops the lookups until the key changes. -/
def latch (now : Int) : Client :=
  { c with state := .unauthorized, lastErr := Failure.text .unauthorized, lastErrAt := now,
           lastLatchAt := now }

/-- `rateLimited`: no lookup before the server's `Retry-After`, or `offline_timeout` where it
names none. -/
def rateLimited (cfg : Config) (retryAfter now : Int) : Client :=
  let retryAfter := if retryAfter ≤ 0 then cfg.offlineTimeout else retryAfter
  { c with state := .rateLimited, retryAt := Time.add now retryAfter,
           lastErr := Failure.text .rateLimited, lastErrAt := now }

/-- `fail`, for a lookup whose caller has not given up. -/
def fail (cfg : Config) (error : String) (now : Int) : Client :=
  let backoff := if c.state = .offline then min (wrapInt64 (2 * c.backoff)) maxOfflineBackoff
    else cfg.offlineTimeout
  { c with state := .offline, backoff, retryAt := Time.add now backoff, lastErr := error,
           lastErrAt := now }

/-- `Reset`: on SIGHUP the key is read again and everything learnt about the server is
forgotten. -/
def reset (file : KeyFile) : Client :=
  { (c.reloadKey file true).1 with state := .unknown, backoff := 0, retryAt := Time.zero, client := none }

/-- `retire`: a client that failed is given up, unless another took its place. -/
def retire (client : Nat) : Client :=
  if c.client = some client then { c with client := none } else c

end Client

/-! ## Steps -/

/-- What the server answers one attempt. -/
inductive Reply where
  | found
  | notFound
  | badRequest (code : String)
  | unauthorized
  | tooManyRequests (retryAfter : Int)
  | status (error : String)
  | noAnswer (error : String)
deriving DecidableEq

/-- One step of a lookup, or a reset. -/
inductive Act where
  | gate
  | acquire
  | clientFor
  | call (client : Nat)
  | retire (client : Nat)
  | expired
  | sleep
  | callerGone
  | online
  | latch
  | rateLimited (retryAfter : Int)
  | fail (error : String)
  | release
  | reset
deriving DecidableEq

/-- What a step is answered. -/
abbrev Resp : Act → Type
  | .gate => Option Failure
  | .acquire => Bool
  | .clientFor => Except String Nat
  | .call _ => Reply
  | .retire _ => Unit
  | .expired => Bool
  | .sleep => Bool
  | .callerGone => Bool
  | .online => Unit
  | .latch => Unit
  | .rateLimited _ => Unit
  | .fail _ => Unit
  | .release => Unit
  | .reset => Unit

/-- What lookups share.  `clients` counts the HTTPS clients built, and `slots` the lookups in
flight. -/
structure State where
  client : Client
  clients : Nat := 0
  slots : Nat := 0
  file : KeyFile
  clock : Int
  latched : Bool := false

/-- What the environment decides: how far the clock moves, what the key file has become, what
the server answers, and whether something fails or ends. -/
structure Choice where
  elapsed : Nat := 0
  file : Option KeyFile := none
  reply : Reply := .found
  refused : Option String := none
  ended : Bool := false

/-- `MaxInFlight`. -/
def maxInFlight : Nat := 8

/-- Let time pass. -/
def State.pass (s : State) (choice : Choice) : State :=
  { s with clock := s.clock + choice.elapsed, file := choice.file.getD s.file }

/-- What one step does. -/
def execute (cfg : Config) (s : State) (choice : Choice) : (action : Act) → State × Resp action
  | .gate =>
    let (client, refusal, reloaded) := s.client.gate s.file s.clock
    ({ s with client, latched := s.latched && !reloaded }, refusal)
  | .acquire =>
    if s.slots < maxInFlight then ({ s with slots := s.slots + 1 }, true) else (s, false)
  | .clientFor =>
    match s.client.client with
    | some client => (s, .ok client)
    | none =>
      match choice.refused with
      | some error => (s, .error error)
      | none =>
        ({ s with client := { s.client with client := some s.clients }, clients := s.clients + 1 },
          .ok s.clients)
  | .call _ => (s, choice.reply)
  | .retire client => ({ s with client := s.client.retire client }, ())
  | .expired => (s, choice.ended)
  | .sleep => (s, !choice.ended)
  | .callerGone => (s, choice.ended)
  | .online => ({ s with client := s.client.online }, ())
  | .latch => ({ s with client := s.client.latch s.clock, latched := true }, ())
  | .rateLimited retryAfter => ({ s with client := s.client.rateLimited cfg retryAfter s.clock }, ())
  | .fail error => ({ s with client := s.client.fail cfg error s.clock }, ())
  | .release => ({ s with slots := s.slots - 1 }, ())
  | .reset => ({ s with client := s.client.reset s.file, latched := false }, ())

/-! ## Lookups -/

/-- A program of steps. -/
abbrev Program (α : Type) := Prog Act Resp α

/-- One step. -/
def take (action : Act) : Program (Resp action) := Prog.perform action

/-- `fail`: a lookup that its caller has given up on says nothing about the server. -/
def failed (error : String) : Program (Option Failure) := do
  if ← take .callerGone then pure (some .cancelled)
  else do
    take (.fail error)
    pure (some (.offline error))

/-- One attempt, with what is left to do if it brings no answer. -/
def attempt (retry : Option (Program (Option Failure))) : Program (Option Failure) := do
  match ← take .clientFor with
  | .error error => failed error
  | .ok client => do
    match ← take (.call client) with
    | .found => do
      take .online
      pure none
    | .notFound => do
      take .online
      pure (some .notFound)
    | .badRequest code => do
      take .online
      pure (some (.invalid code))
    | .unauthorized => do
      take .latch
      pure (some .unauthorized)
    | .tooManyRequests retryAfter => do
      take (.rateLimited retryAfter)
      pure (some .rateLimited)
    | .status error => failed error
    | .noAnswer error => do
      take (.retire client)
      let expired ← take .expired
      match retry with
      | none => failed error
      | some again =>
        if expired then failed error
        else if ← take .sleep then again
        else failed error

/-- The attempts of a lookup. -/
def attempts : Nat → Program (Option Failure)
  | 0 => attempt none
  | retries + 1 => attempt (some (attempts retries))

/-- `do`: past the gate, a lookup holds a slot while it makes its attempts. -/
def lookup (cfg : Config) : Program (Option Failure) := do
  match ← take .gate with
  | some refusal => pure (some refusal)
  | none => do
    if ← take .acquire then
      let outcome ← attempts cfg.reconnectionRetries
      take .release
      pure outcome
    else pure (some .busy)

/-- What is run. -/
inductive Call where
  | lookup
  | reset
deriving DecidableEq

/-- The program of a call. -/
def body (cfg : Config) : Call → Program (Call ⊕ Option Failure)
  | .lookup => do
    let outcome ← lookup cfg
    pure (.inr outcome)
  | .reset => do
    take .reset
    pure (.inr none)

/-- Any number of lookups and resets over one client. -/
def machine (cfg : Config) : Machine Act Resp State Nat Choice Call (Option Failure) where
  exec := fun _ s action choice => some (execute cfg (s.pass choice) choice action)
  body := body cfg

/-- A client as `New` makes it. -/
def newClient (key : Key) (stamp : Stamp) : Client := { key, keyStamp := stamp }

/-- A client that no lookup has used. -/
def idle (client : Client) (file : KeyFile) (clock : Int) :
    Interleaving.Config Act Resp State Nat Call (Option Failure) :=
  ⟨{ client, file, clock }, fun _ => none⟩

end Ssoossh.Nssd.Upstream
