import Ssoossh.Config.Admin
import Ssoossh.Lib.Fallible
import Ssoossh.Lib.GoText
import Ssoossh.Lib.GoTime
import Ssoossh.Lib.Table

/-!
# Fleet keys

The keys the hosts of a fleet present to the lookups (`server/service/nss_keys.go`,
`server/service/nss_keyauth.go`).  A key has a secret, of which only the hash is stored,
and after a rotation the secret before it, which is still accepted for a while.

The operations are atomic: what `mutate` reads before its transaction is what the
transaction reads.  The audit events and the mail are left out, and so is what a view
says about the use of a key.
-/

namespace Ssoossh.NSS

open Relational GoTime Fallible

/-! ## Keys -/

/-- `model.NSSKey`. -/
structure NSSKey where
  id : String
  currentGeneration : Nat
  secretHash : String
  previousSecretHash : Option String := none
  previousExpiresAt : Option Int := none
  name : String
  description : String
  createdBy : String
  groupName : String
  expiresAt : Option Int
  notificationEmail : String
  revokedAt : Option Int := none
  revokedBy : Option String := none
  rotatedAt : Option Int := none
  expiryReminderSentAt : Option Int := none
  rotationCleanupSentAt : Option Int := none
  createdAt : Int
  updatedAt : Int
deriving DecidableEq

/-- The table `nss_keys`. -/
abbrev NSSKeys := Table NSSKey.id (fun _ : NSSKey => (none : Option Unit))

/-- `model.NSSKeyStatus`. -/
inductive NSSKeyStatus
  | active
  | expired
  | revoked
deriving DecidableEq

/-- `nssKeyStatus`: revoked before expired before active. -/
def nssKeyStatus (key : NSSKey) (now : Int) : NSSKeyStatus :=
  if key.revokedAt.isSome then .revoked
  else if key.expiresAt.any fun expires => !Time.after expires now then .expired
  else .active

/-- `model.NSSKeyPermission`. -/
inductive NSSKeyPermission
  | view
  | rotate
  | revoke
  | edit
  | assignGroup
deriving DecidableEq

/-- The words a refusal uses. -/
def NSSKeyPermission.words : NSSKeyPermission → String
  | .view => "view"
  | .rotate => "rotate"
  | .revoke => "revoke"
  | .edit => "edit"
  | .assignGroup => "assign group"

/-- Why an operation was refused. -/
inductive KeyFailure
  | notFound (resource : String)
  | conflict (reason : String)
  | forbidden (reason : String)
  | invalidRequest (reason : String)
  | invalidAddress (address : String)
  | duplicatedKey
deriving DecidableEq

/-- The service: the configuration, SHA-256 in hex (`hashNSSSecret`), what the mail package
takes for an address, and the seed of the hash that nothing matches, which is written in
hex digits. -/
structure NSSKeyService where
  admin : AdminConfig
  keyMaxLifetime : Int
  keyRotationGrace : Int
  hashNSSSecret : String → String
  parseAddress : String → Bool
  seed : String
  seed_hex : ∀ c ∈ seed.toList, c ∈ "0123456789abcdef".toList

/-- The users row of a caller. -/
structure KeyUser where
  id : String
  email : String

/-- The caller: the groups and the address of the session, and the users row, which may be
gone. -/
structure Caller where
  groups : List String
  email : String
  user : Option KeyUser

/-- `resolveActor`: the caller needs a row of its own, to be written down as the actor. -/
def resolveActor (caller : Caller) : Except KeyFailure KeyUser :=
  match caller.user with
  | none => .error (.forbidden "no user record for the authenticated identity")
  | some user => .ok user

/-- `nssKeySecretPrefix`. -/
def nssKeySecretPrefix : String := "ssoossh_nss_"

/-- `newNSSKeySecret`, of the random part. -/
def newNSSKeySecret (token : String) : String := nssKeySecretPrefix ++ token

/-- `boundedText`: trimmed, present where it has to be, and within its limit in bytes. -/
def boundedText (field value : String) (limit : Nat) (required : Bool) : Except KeyFailure String :=
  let value := GoText.trimSpace value
  if required && value == "" then .error (.invalidRequest (field ++ " is required"))
  else if value.utf8ByteSize > limit then
    .error (.invalidRequest (field ++ " is " ++ toString value.utf8ByteSize ++
      " characters, over the " ++ toString limit ++ " limit"))
  else .ok value

namespace NSSKeyService

variable (s : NSSKeyService)

/-- The hash that nothing matches. -/
def dummyHash : String := s.hashNSSSecret s.seed

/-- `validateNotificationEmail`. -/
def validateNotificationEmail (address : String) : Except KeyFailure String :=
  let address := GoText.trimSpace address
  if address == "" then .ok ""
  else if address.utf8ByteSize > 320 then
    .error (.invalidRequest ("notification address is " ++ toString address.utf8ByteSize ++
      " characters, over the 320 limit"))
  else if !s.parseAddress address then .error (.invalidAddress address)
  else .ok address

/-- `permissions`: what the groups of a caller allow on a key; a revoked one can only be
viewed. -/
def permissions (groups : List String) (key : NSSKey) : List NSSKeyPermission :=
  let keyAdmin := s.admin.grantsNSSKeyAdmin groups
  let member := key.groupName != "" && groups.contains key.groupName
  let view := if keyAdmin || member || s.admin.grantsAuditor groups then [.view] else []
  if key.revokedAt.isSome then view
  else view ++ (if keyAdmin || member then [.rotate] else []) ++
    (if keyAdmin || member || s.admin.grantsSOC groups then [.revoke] else []) ++
    (if keyAdmin || member then [.edit] else []) ++ (if keyAdmin then [.assignGroup] else [])

/-! ## Creating a key -/

/-- `NSSKeyCreate`. -/
structure NSSKeyCreate where
  name : String
  description : String
  groupName : String
  expiresAt : Option Int
  notificationEmail : Option String

/-- `keyExpiry`: in the future, and under the configured lifetime where there is one. -/
def keyExpiry (asked : Option Int) (now : Int) : Except KeyFailure (Option Int) :=
  if asked.any fun at' => !Time.after at' now then
    .error (.invalidRequest "expires_at must be in the future")
  else if s.keyMaxLifetime ≤ 0 then .ok asked
  else
    let ceiling := Time.add now s.keyMaxLifetime
    match asked with
    | none => .ok (some ceiling)
    | some at' => .ok (some (if Time.after at' ceiling then ceiling else at'))

/-- `insertWithFreshID`, with the ids that are drawn. -/
def insertWithFreshID (keys : NSSKeys) (key : NSSKey) :
    List String → Except KeyFailure (NSSKeys × NSSKey)
  | [] => .error .duplicatedKey
  | id :: ids =>
    match keys.insert { key with id := id } with
    | some next => .ok (next, { key with id := id })
    | none => insertWithFreshID keys key ids

/-- `Create`.  An id is drawn at most three times. -/
def create (keys : NSSKeys) (now : Int) (caller : Caller) (input : NSSKeyCreate)
    (token : String) (ids : List String) : Except KeyFailure (NSSKeys × NSSKey) := do
  if !s.admin.grantsNSSKeyAdmin caller.groups then
    throw (.forbidden "creating a fleet key needs the fleet key admin role")
  let user ← resolveActor caller
  let name ← boundedText "name" input.name 100 true
  let description ← boundedText "description" input.description 1000 false
  let group ← boundedText "group_name" input.groupName 512 false
  let expiresAt ← s.keyExpiry input.expiresAt now
  let email ← s.validateNotificationEmail
    (input.notificationEmail.getD (if user.email == "" then caller.email else user.email))
  insertWithFreshID keys
    { id := ""
      currentGeneration := 1
      secretHash := s.hashNSSSecret (newNSSKeySecret token)
      name := name
      description := description
      createdBy := user.id
      groupName := group
      expiresAt := expiresAt
      notificationEmail := email
      createdAt := now
      updatedAt := now }
    (ids.take 3)

/-! ## Changing a key -/

/-- Write a row back, under its id. -/
def store (keys : NSSKeys) (id : String) (f : NSSKey → NSSKey) (keepID : ∀ key, (f key).id = key.id) :
    NSSKeys :=
  keys.update (fun key => decide (key.id = id)) f (fun key _ => keepID key) fun _ _ => .inl rfl

/-- `load`. -/
def load (keys : NSSKeys) (id : String) : Except KeyFailure NSSKey :=
  match keys.find? id with
  | none => .error (.notFound "fleet key")
  | some key => .ok key

/-- The permissions of a change, one after another. -/
def checkPermissions (granted : List NSSKeyPermission) :
    List NSSKeyPermission → Except KeyFailure Unit
  | [] => .ok ()
  | p :: rest =>
    if granted.contains p then checkPermissions granted rest
    else .error (.forbidden ("you may not " ++ p.words ++ " this fleet key"))

/-- The checks of `mutate`, and the key it is about to change. -/
def mutate (keys : NSSKeys) (caller : Caller) (id : String) (permissions : List NSSKeyPermission) :
    Except KeyFailure (NSSKey × KeyUser) := do
  let key ← load keys id
  if !(s.permissions caller.groups key).contains .view then throw (.notFound "fleet key")
  if key.revokedAt.isSome then throw (.conflict "the fleet key is revoked")
  checkPermissions (s.permissions caller.groups key) permissions
  let user ← resolveActor caller
  pure (key, user)

/-- `NSSKeyUpdate`. -/
structure NSSKeyUpdate where
  description : Option String
  notificationEmail : Option String
  groupName : Option String

/-- `updates`: the columns an update sets, for the fields that change. -/
def updates (key : NSSKey) (input : NSSKeyUpdate) : Except KeyFailure (NSSKey × Bool) := do
  let description ← match input.description with
    | some value => boundedText "description" value 1000 false
    | none => pure key.description
  let email ← match input.notificationEmail with
    | some value => s.validateNotificationEmail value
    | none => pure key.notificationEmail
  let group ← match input.groupName with
    | some value => boundedText "group_name" value 512 false
    | none => pure key.groupName
  pure ({ key with description := description, notificationEmail := email, groupName := group },
    description != key.description || email != key.notificationEmail || group != key.groupName)

/-- `Update`: each field asks for its own permission, and a call that sets none is refused. -/
def update (keys : NSSKeys) (now : Int) (caller : Caller) (id : String) (input : NSSKeyUpdate) :
    Except KeyFailure NSSKeys := do
  if input.description.isNone && input.notificationEmail.isNone && input.groupName.isNone then
    throw (.invalidRequest "nothing to change: send description, notification_email or group_name")
  let needed := (if input.description.isSome || input.notificationEmail.isSome then
      [NSSKeyPermission.edit] else []) ++
    (if input.groupName.isSome then [NSSKeyPermission.assignGroup] else [])
  let (key, _) ← s.mutate keys caller id needed
  let (changed, any) ← s.updates key input
  pure (if any then
      store keys id (fun old => { old with
        description := changed.description
        notificationEmail := changed.notificationEmail
        groupName := changed.groupName
        updatedAt := now }) fun _ => rfl
    else keys)

/-- `renewedExpiry`: a rotation renews a key for as long as it was last given, at most the
configured lifetime. -/
def renewedExpiry (key : NSSKey) (now : Int) : Option Int :=
  match key.expiresAt with
  | none => if s.keyMaxLifetime ≤ 0 then none else some (Time.add now s.keyMaxLifetime)
  | some expires =>
    let lifetime := Time.sub expires (key.rotatedAt.getD key.createdAt)
    let lifetime := if 0 < s.keyMaxLifetime ∧ (lifetime ≤ 0 ∨ s.keyMaxLifetime < lifetime) then
      s.keyMaxLifetime else lifetime
    if lifetime ≤ 0 then some expires else some (Time.add now lifetime)

/-- What a rotation makes of a key. -/
def rotated (now : Int) (token : String) (key : NSSKey) : NSSKey :=
  { key with
    secretHash := s.hashNSSSecret (newNSSKeySecret token)
    previousSecretHash := some key.secretHash
    previousExpiresAt := some (if nssKeyStatus key now = .expired then now
      else Time.add now s.keyRotationGrace)
    currentGeneration := key.currentGeneration + 1
    rotatedAt := some now
    expiresAt := s.renewedExpiry key now
    expiryReminderSentAt := none
    rotationCleanupSentAt := none
    updatedAt := now }

/-- `Rotate`: a new secret, with the old one kept for its grace. -/
def rotate (keys : NSSKeys) (now : Int) (caller : Caller) (id token : String) :
    Except KeyFailure NSSKeys := do
  let _ ← s.mutate keys caller id [.rotate]
  pure (store keys id (s.rotated now token) fun _ => rfl)

/-- `ClearPrevious`: that grace ends at once. -/
def clearPrevious (keys : NSSKeys) (now : Int) (caller : Caller) (id : String) :
    Except KeyFailure NSSKeys := do
  let (key, _) ← s.mutate keys caller id [.rotate]
  if key.previousSecretHash.isNone then throw (.conflict "the fleet key has no previous secret")
  pure (store keys id (fun old => { old with
    previousSecretHash := none
    previousExpiresAt := none
    updatedAt := now }) fun _ => rfl)

/-- `Revoke`: for good. -/
def revoke (keys : NSSKeys) (now : Int) (caller : Caller) (id : String) :
    Except KeyFailure NSSKeys := do
  let (_, user) ← s.mutate keys caller id [.revoke]
  pure (store keys id (fun old => { old with
    revokedAt := some now
    revokedBy := some user.id
    updatedAt := now }) fun _ => rfl)

/-! ## Verifying a key -/

/-- Why a key can no longer be used. -/
inductive DeadKey
  | revoked
  | expired
deriving DecidableEq

/-- `NSSKeyVerdict`. -/
structure NSSKeyVerdict where
  keyID : String
  ok : Bool := false
  generation : Nat := 0
  dead : Option DeadKey := none
  key : Option NSSKey := none
deriving DecidableEq

/-- The two hashes of a live key: the current one, and the previous one while its grace
lasts. -/
def liveHashes (key : NSSKey) (now : Int) : String × String :=
  (key.secretHash,
    match key.previousSecretHash, key.previousExpiresAt with
    | some previous, some expires => if Time.after expires now then previous else s.dummyHash
    | _, _ => s.dummyHash)

/-- `VerifyFleetKey`: the current secret, or the previous one within its grace, of a key that
is neither revoked nor expired. -/
def verifyFleetKey (keys : NSSKeys) (now : Int) (keyID secret : String) : NSSKeyVerdict :=
  let presented := s.hashNSSSecret secret
  match keys.find? keyID with
  | none => { keyID := keyID }
  | some key =>
    match nssKeyStatus key now with
    | .revoked => { keyID := keyID, dead := some .revoked, key := some key }
    | .expired => { keyID := keyID, dead := some .expired, key := some key }
    | .active =>
      let (current, previous) := s.liveHashes key now
      if presented == current then
        { keyID := keyID, ok := true, generation := key.currentGeneration, key := some key }
      else if presented == previous && previous != s.dummyHash then
        { keyID := keyID, ok := true, generation := key.currentGeneration - 1, key := some key }
      else { keyID := keyID, key := some key }

end NSSKeyService

end Ssoossh.NSS
