import Mathlib.Data.List.Sort
import Mathlib.Data.String.Basic
import Ssoossh.LDAP.Resolve

/-!
# Logins, sync passes and operators

Everything that reads or writes what the server keeps about one person and their
directory entry: logins (`Enrich`), directory sync passes (`SyncWithOptions`,
`syncUser`, `recordMiss`, `autoDisable`, `maybeReenable`), and the operators who
disable and enable an account (`server/controller/admin.go`).  Any number of them run at
the same time, and every read, write and search is a step of its own.

There is one clock.  Before each step it moves on by any amount, and a program reads it
where the source calls `time.Now`.

## History variables

The state also remembers what the properties speak about and the program does not store:
when the entry was found, when the account was disabled by a pass, whose disable stands,
what the last stored read listed, which passes are under way, and whether the entry was
found and not stored yet.
-/

namespace Ssoossh.LDAP

open Interleaving

/-! ## Rows -/

/-- `model.DisabledSource`. -/
inductive DisabledSource
  | admin
  | soc
  | ldapSync
deriving DecidableEq

/-- The columns of a users row that are used here. -/
structure User where
  subject : String
  username : String
  email : String
  extra : Extra
  disabledAt : Option Int
  disabledByUserID : Option String
  disabledSource : Option DisabledSource
  disabledReason : String
deriving DecidableEq

/-- The rows about one person: the account, the bookkeeping of the directory, and the
groups stored from it. -/
structure Rows where
  user : Option User
  ldap : Option UserLDAP
  groups : List String
deriving DecidableEq

/-- Whose disable stands. -/
inductive Owner
  | nobody
  | operator
  | sync
deriving DecidableEq

/-- An account was disabled by a pass: the time it wrote, and the time of the write. -/
structure Disable where
  now : Int
  committed : Int
deriving DecidableEq

/-- The rows, the clock, and the history. -/
structure State where
  rows : Rows
  clock : Int
  /-- When the entry was found. -/
  found : List Int
  /-- When the account was disabled by a pass. -/
  disables : List Disable
  owner : Owner
  /-- The groups that the last stored read listed. -/
  lastRead : Option (List String)
  /-- The passes that have listed the rows and not finished. -/
  passes : List Nat
  /-- The entry was found since it was last stored. -/
  unstored : Bool

/-! ## Actions -/

/-- Who reads the directory: a login, or a pass, which may be a dry run. -/
inductive Reader
  | login
  | pass (dryRun : Bool)
deriving DecidableEq

/-- Where the clock is read. -/
inductive ClockSite
  | persist
  | miss
  | reenable
  | operator
deriving DecidableEq

/-- One read, write or search. -/
inductive Act
  | storedRow
  | listRows (dryRun : Bool)
  | dial
  | firstUser
  | search (request : Search)
  | resolved (reader : Reader) (entry : LdapEntry)
  | now (site : ClockSite)
  | persist (entry : LdapEntry) (groups : List String) (now : Int)
  | recordMiss (misses : Int) (missingSince now : Int)
  | autoDisable (reason : String) (now : Int)
  | clearDisable
  | operatorDisable (actor : String) (source : DisabledSource) (reason : String) (now : Int)
  | operatorEnable
  | finishRun

/-- What a step is answered.  `none` is a database error. -/
abbrev Resp : Act → Type
  | .storedRow => Option (Option UserLDAP)
  | .listRows _ => Option (Option UserLDAP)
  | .dial => Bool
  | .firstUser => Option User
  | .search _ => Answer
  | .resolved _ _ => Unit
  | .now _ => Int
  | .persist _ _ _ => Bool
  | .recordMiss _ _ _ => Bool
  | .autoDisable _ _ => Bool
  | .clearDisable => Bool
  | .operatorDisable _ _ _ _ => Bool
  | .operatorEnable => Bool
  | .finishRun => Unit

/-- What the environment decides: how far the clock moves, whether the step fails, and
what the directory answers. -/
structure Choice where
  elapsed : Nat
  failed : Bool := false
  answer : Answer := .done []

/-- The row that `persist` writes.  An upsert keeps `created_at`. -/
def persistedRow (entry : LdapEntry) (now : Int) (old : Option UserLDAP) : UserLDAP where
  directoryID := entry.directoryID
  dn := entry.dn
  attributes := entry.values
  lastSeenAt := some now
  lastSyncedAt := some now
  consecutiveMisses := 0
  firstMissingAt := none
  createdAt := (old.map UserLDAP.createdAt).getD now
  updatedAt := now

/-- `entry.Values[config.LDAPFieldGroups]`. -/
def LdapEntry.groups (entry : LdapEntry) : List String := (entry.values.lookup "groups").getD []

/-- The update of `recordMiss`. -/
def Rows.miss (rows : Rows) (misses missingSince now : Int) : Rows :=
  { rows with ldap := rows.ldap.map fun row => { row with
      consecutiveMisses := misses
      firstMissingAt := some missingSince
      lastSyncedAt := some now
      updatedAt := now } }

/-- The update of `autoDisable` reaches an account that is not disabled. -/
def Rows.enabled (rows : Rows) : Bool := rows.user.any fun user => user.disabledAt.isNone

/-- The update of `maybeReenable` reaches a disable of the sync's own. -/
def Rows.syncDisabled (rows : Rows) : Bool :=
  rows.user.any fun user =>
    decide (user.disabledSource = some .ldapSync) && user.disabledByUserID.isNone

/-- Write the columns of a disable. -/
def Rows.disable (rows : Rows) (at' : Option Int) (by' : Option String)
    (source : Option DisabledSource) (reason : String) : Rows :=
  { rows with user := rows.user.map fun user => { user with
      disabledAt := at'
      disabledByUserID := by'
      disabledSource := source
      disabledReason := reason } }

/-- `maybeReenable` leaves `disabled_by_user_id`, which is NULL there. -/
def Rows.clearDisable (rows : Rows) : Rows :=
  { rows with user := rows.user.map fun user => { user with
      disabledAt := none
      disabledSource := none
      disabledReason := "" } }

/-- What one step does, after the clock has moved. -/
def execute (tid : Nat) (s : State) (choice : Choice) : (action : Act) → State × Resp action
  | .storedRow => (s, if choice.failed then none else some s.rows.ldap)
  | .listRows dryRun =>
    if choice.failed then (s, none)
    else if dryRun then (s, some s.rows.ldap)
    else ({ s with passes := tid :: s.passes }, some s.rows.ldap)
  | .dial => (s, !choice.failed)
  | .firstUser => (s, if choice.failed then none else s.rows.user)
  | .search _ => (s, choice.answer)
  | .resolved _ _ => ({ s with found := s.clock :: s.found, unstored := true }, ())
  | .now _ => (s, s.clock)
  | .persist entry groups now =>
    if choice.failed then (s, false)
    else
      ({ s with
          rows := { s.rows with
            ldap := some (persistedRow entry now s.rows.ldap)
            groups := groups }
          lastRead := some entry.groups
          unstored := false }, true)
  | .recordMiss misses missingSince now =>
    if choice.failed then (s, false)
    else ({ s with rows := s.rows.miss misses missingSince now }, true)
  | .autoDisable reason now =>
    if choice.failed || !s.rows.enabled then (s, false)
    else
      ({ s with
          rows := s.rows.disable (some now) none (some .ldapSync) reason
          disables := ⟨now, s.clock⟩ :: s.disables
          owner := .sync }, true)
  | .clearDisable =>
    if choice.failed || !s.rows.syncDisabled then (s, false)
    else ({ s with rows := s.rows.clearDisable, owner := .nobody }, true)
  | .operatorDisable actor source reason now =>
    if choice.failed || s.rows.user.isNone then (s, false)
    else
      ({ s with
          rows := s.rows.disable (some now) (some actor) (some source) reason
          owner := .operator }, true)
  | .operatorEnable =>
    if choice.failed || s.rows.user.isNone then (s, false)
    else ({ s with rows := s.rows.disable none none none "", owner := .nobody }, true)
  | .finishRun => ({ s with passes := s.passes.filter fun other => other != tid }, ())

/-- One step: the clock moves on, and the step is taken. -/
def exec (tid : Nat) (s : State) (action : Act) (choice : Choice) : Option (State × Resp action) :=
  some (execute tid { s with clock := s.clock + choice.elapsed } choice action)

/-! ## Programs -/

/-- A program of reads, writes and searches. -/
abbrev Program (α : Type) := Prog Act Resp α

/-- One read, write or search. -/
def take (action : Act) : Program (Resp action) := Prog.perform action

/-- The searches of a walk. -/
def searching {α : Type} : Walk α → Program α
  | .ret value => .ret value
  | .act request next => .act (.search request) fun answer => searching (next answer)

/-- What is run: a login, a pass over the rows of this person, and an operator who disables
or enables the account of someone else. -/
inductive Call
  | login (identity : Identity)
  | pass (dryRun : Bool)
  | disableUser (actor : String) (groups : List String) (reason : String)
  | enableUser

mutual

/-- `conditionGroups`. -/
def conditionGroups : PolicyCondition → List String
  | ⟨group, _, _, _, _, _, _, _, allOf, anyOf⟩ =>
    (if group = "" then [] else [group]) ++ conditionListGroups allOf ++ conditionListGroups anyOf

/-- `conditionGroups` of each. -/
def conditionListGroups : List PolicyCondition → List String
  | [] => []
  | cond :: conds => conditionGroups cond ++ conditionListGroups conds

end

/-- The identity that `resolveEntry` builds from the stored account. -/
def User.identity (user : User) : Identity where
  subject := user.subject
  username := user.username
  email := user.email
  extra := user.extra

namespace LDAPService

variable (s : LDAPService)

/-- `groupAllowlist`: of the groups in the directory only these are stored. -/
def groupAllowlist : List String :=
  let roles := [s.admin.requireGroup, s.admin.socGroup, s.admin.auditorGroup, s.admin.nssKeyGroup]
  let policy (require : Option PolicyCondition) (policy : LifetimePolicy) : List String :=
    require.toList.flatMap conditionGroups ++ policy.tiers.flatMap fun tier => conditionGroups tier.when
  (dedupe (roles ++ s.extraGroups ++
    policy s.certOptions.user.require s.certOptions.user.lifetimePolicy ++
    policy s.certOptions.service.require s.certOptions.service.lifetimePolicy ++
    policy s.certOptions.pam.require s.certOptions.pam.lifetimePolicy)).insertionSort (· ≤ ·)

/-- `allowed`: the names of the groups that the configuration refers to. -/
def allowed (values : List String) : List String :=
  dedupe ((values.map s.reduceGroupName).filter fun name => s.groupAllowlist.contains name)

/-- The attributes of an entry are over the cap. -/
def tooLarge (entry : LdapEntry) : Bool :=
  decide (0 < s.maxAttributesBytes ∧ s.maxAttributesBytes < s.encodedSize entry.values)

/-- `persist`, and whether it committed. -/
def persist (entry : LdapEntry) : Program Bool :=
  if s.tooLarge entry then pure false
  else do
    let now ← take (.now .persist)
    take (.persist entry (s.allowed entry.groups) now)

/-- `resolveAnchored`, and that it found the entry. -/
def resolve (reader : Reader) (identity : Identity) (row : Option UserLDAP) :
    Program (Option LdapEntry × SyncOutcome) := do
  let (entry, outcome) ← searching (s.resolveAnchored identity row)
  match entry with
  | none => pure (none, outcome)
  | some entry => do
    take (.resolved reader entry)
    pure (some entry, outcome)

/-- `Enrich`.  A failed read of the stored row leaves no anchors, and whatever fails after
it leaves the login as it is. -/
def enrich (identity : Identity) : Program Unit := do
  let anchors ← take .storedRow
  if ← take .dial then
    match ← s.resolve .login identity (anchors.getD none) with
    | (some entry, _) => do
      let _ ← s.persist entry
      pure ()
    | (none, _) => pure ()

/-- `autoDisable`, if the window has lasted. -/
def disableMissing (user : User) (missingSince now : Int) : Program Unit :=
  let missingFor := GoTime.Time.sub now missingSince
  if s.disableAfter ≤ 0 ∨ missingFor < s.disableAfter ∨ user.disabledAt.isSome then pure ()
  else do
    let _ ← take (.autoDisable
      ("directory entry not found for " ++ s.formatSeconds missingFor ++ " of successful searches")
      now)
    pure ()

/-- `recordMiss`.  A dry run only reports. -/
def recordMiss (user : User) (row : UserLDAP) (dryRun : Bool) : Program Unit := do
  let now ← take (.now .miss)
  let missingSince := row.firstMissingAt.getD now
  if dryRun then pure ()
  else do
    if ← take (.recordMiss (row.consecutiveMisses + 1) missingSince now) then
      s.disableMissing user missingSince now

/-- `maybeReenable`: only a disable the sync itself made is taken back. -/
def maybeReenable (user : User) (dryRun : Bool) : Program Unit :=
  if !s.reenable || user.disabledAt.isNone || user.disabledSource != some .ldapSync ||
      user.disabledByUserID.isSome || dryRun then pure ()
  else do
    let _ ← take (.now .reenable)
    let _ ← take .clearDisable
    pure ()

/-- What `syncUser` does with an entry it found. -/
def refresh (user : User) (entry : LdapEntry) (dryRun : Bool) : Program SyncOutcome :=
  if dryRun then do
    s.maybeReenable user dryRun
    pure .found
  else do
    if ← s.persist entry then
      s.maybeReenable user dryRun
      pure .found
    else pure .failed

/-- `syncUser`, for the account it has read. -/
def syncAccount (user : User) (row : UserLDAP) (dryRun : Bool) : Program SyncOutcome := do
  match ← s.resolve (.pass dryRun) user.identity (some row) with
  | (some entry, _) => s.refresh user entry dryRun
  | (none, .missing) => do
    s.recordMiss user row dryRun
    pure .missing
  | (none, _) => pure .failed

/-- `syncUser`. -/
def syncUser (row : UserLDAP) (dryRun : Bool) : Program SyncOutcome := do
  match ← take .firstUser with
  | none => pure .failed
  | some user => s.syncAccount user row dryRun

/-- `SyncWithOptions`, for one person. -/
def syncWithOptions (dryRun : Bool) : Program Unit := do
  match ← take (.listRows dryRun) with
  | none => take .finishRun
  | some none => take .finishRun
  | some (some row) => do
    if ← take .dial then
      let _ ← s.syncUser row dryRun
      take .finishRun
    else take .finishRun

/-- `disableUserHandler`. -/
def disableUser (actor : String) (groups : List String) (reason : String) : Program Unit := do
  let now ← take (.now .operator)
  let source : DisabledSource := if s.admin.grantsAdmin groups then .admin else .soc
  let _ ← take (.operatorDisable actor source reason now)
  pure ()

/-- `enableUserHandler`. -/
def enableUser : Program Unit := do
  let _ ← take .operatorEnable
  pure ()

/-- The program of a call. -/
def body : Call → Program (Call ⊕ Unit)
  | .login identity => do s.enrich identity; pure (.inr ())
  | .pass dryRun => do s.syncWithOptions dryRun; pure (.inr ())
  | .disableUser actor groups reason => do s.disableUser actor groups reason; pure (.inr ())
  | .enableUser => do enableUser; pure (.inr ())

/-- The system of one person: any number of calls, on any number of instances. -/
def machine : Machine Act Resp State Nat Choice Call Unit where
  exec := exec
  body := s.body

end LDAPService

end Ssoossh.LDAP
