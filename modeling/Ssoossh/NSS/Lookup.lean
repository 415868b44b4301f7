import Ssoossh.Lib.GoTime
import Ssoossh.NSS.Rows

/-!
# Lookups

What a host is served (`server/service/nss_lookup.go`), with the rules for names
(`internal/posixname`).  Everything is derived on read: which rows may be served at all,
the status, the primary group under `nss.auto_private_groups`, the memberships, the home
and the shell.

A lookup that finds nothing may have the directory read on demand.  That read is a call
of its own, during which anything may happen, so a lookup is given what it finds in the
database afterwards (`Refresh`).  The database itself does not fail here.
-/

namespace Ssoossh.NSS

open Relational GoTime

/-! ## Names -/

namespace PosixName

/-- `MaxNameBytes`. -/
def maxNameBytes : Nat := 32

/-- An error that wraps `ErrInvalid`. -/
def invalid (rule : String) : String := "invalid POSIX name: " ++ rule

/-- `hasASCIIControl`. -/
def hasASCIIControl (name : List Char) : Bool :=
  name.any fun c => decide (c.toNat < 0x20) || c.toNat == 0x7f

/-- `allDigits`. -/
def allDigits (name : List Char) : Bool := name.all Char.isDigit

/-- `Valid`.  Whether a name is UTF-8 is not a question here. -/
def valid (name : String) : Except String Unit :=
  let chars := name.toList
  if name = "" then .error (invalid "empty")
  else if name.utf8ByteSize > maxNameBytes then
    .error (invalid (toString name.utf8ByteSize ++ " bytes, more than " ++ toString maxNameBytes))
  else if chars.head? = some ' ' ∨ chars.getLast? = some ' ' then
    .error (invalid "leading or trailing space")
  else if hasASCIIControl chars then .error (invalid "contains a control character")
  else if chars.any fun c => c == ':' || c == '/' then .error (invalid "contains ':' or '/'")
  else if allDigits chars then .error (invalid "all digits, which reads as a uid")
  else if chars.head? = some '-' ∧ allDigits chars.tail then
    .error (invalid "a negative number, which reads as a uid")
  else if name = "." ∨ name = ".." then .error (invalid "'.' or '..'")
  else .ok ()

end PosixName

/-! ## What is answered -/

/-- The errors of the lookups, as they are rendered. -/
structure NSSError where
  status : Nat
  code : String
  message : String
deriving DecidableEq

/-- `NSSNotFound`: the authoritative miss. -/
def nssNotFound : NSSError := ⟨404, "nss_not_found", "no such user or group"⟩

/-- `NSSBadRequest`. -/
def nssBadRequest (reason : String) : NSSError := ⟨400, "nss_bad_request", reason⟩

/-- `UserStatusCheckError`. -/
def userStatusCheckError : NSSError := ⟨503, "unavailable", "Unable to verify account status"⟩

/-- `NSSStatusActive`, `NSSStatusDisabled` and `NSSStatusDeleted`. -/
inductive NSSStatus
  | active
  | disabled
  | deleted
deriving DecidableEq

/-- `NSSMembership`. -/
structure NSSMembership where
  gid : Nat
  name : String
deriving DecidableEq

/-- `NSSUserResponse`, before the caller adds the key that asked. -/
structure NSSUserResponse where
  name : String
  uid : Nat
  gid : Nat
  groups : List NSSMembership
  home : Option String
  shell : Option String
  gecos : String
  status : NSSStatus
deriving DecidableEq

/-- `NSSGroupResponse`, before the caller adds the key that asked. -/
structure NSSGroupResponse where
  name : String
  gid : Nat
  members : List String
  membersTruncated : Bool
deriving DecidableEq

/-! ## The service -/

/-- `NSSLookupService`: the settings it reads, and the time. -/
structure NSSLookupService where
  autoPrivateGroups : AutoPrivateGroupsMode
  tombstoneRetention : Int
  defaultHome : String
  defaultShell : String
  disabledShell : String
  maxGroupMembers : Nat
  now : Int

/-- What a lookup reads: the stored directory, and by the id of a person when they were
disabled. -/
structure LookupState where
  directory : Directory
  userDisabledAt : String → Option Int

namespace NSSLookupService

variable (s : NSSLookupService)

/-- `validNSSName`. -/
def validNSSName (name : String) : Except NSSError Unit :=
  (PosixName.valid name).mapError nssBadRequest

/-- `pastRetention`: `now.Sub` saturates, so that the longest retention keeps everything. -/
def pastRetention (deletedAt : Int) : Bool :=
  decide (Time.sub s.now deletedAt > s.tombstoneRetention)

/-- `servable`: not withheld, and not deleted for longer than tombstones are kept. -/
def servable (withheldAt deletedAt : Option Int) : Bool :=
  withheldAt.isNone && deletedAt.all fun deleted => !s.pastRetention deleted

/-- `retentionCutoff`: the same bound as an instant, for the queries of member lists. -/
def retentionCutoff : Int := Time.add s.now (-s.tombstoneRetention)

/-! ### Users -/

/-- `readUserRow`.  The condition selects one row at most. -/
def readUserRow (db : LookupState) (selects : PosixUser → Bool) : Option PosixUser :=
  (db.directory.accounts.rows.select selects).head?

/-- `readServableUser`. -/
def readServableUser (db : LookupState) (selects : PosixUser → Bool) : Option PosixUser :=
  (readUserRow db selects).filter fun row => s.servable row.withheldAt row.deletedAt

/-- `groupHolders`: the groups that hold an account's uid, its gid or its name. -/
def groupHolders (db : LookupState) (user : PosixUser) : List PosixGroup :=
  db.directory.groups.rows.select fun g =>
    (user.number :: user.own.gid.toList).contains g.number || g.name == user.name

/-- `byGID`. -/
def byGID (holders : List PosixGroup) (gid : Nat) : Option PosixGroup :=
  holders.find? fun g => g.number == gid

/-- `nameHeld`. -/
def nameHeld (holders : List PosixGroup) (name : String) : Bool := holders.any fun g => g.name == name

/-- `servableMembership`: a group that is withheld or deleted is not named to anybody. -/
def servableMembership (group : Option PosixGroup) : Option NSSMembership :=
  (group.filter fun g => g.withheldAt.isNone && g.deletedAt.isNone).map fun g => ⟨g.number, g.name⟩

/-- `nssPrimary`: the primary gid, the group that names it, and the group the entry's own gid
names where that is a supplementary one. -/
structure NSSPrimary where
  gid : Nat
  group : Option NSSMembership
  original : Option NSSMembership
deriving DecidableEq

/-- `errNSSPrivateGroupClash` and `errNSSNoGID`. -/
inductive PrimaryError
  | privateGroupClash
  | noGID
deriving DecidableEq

/-- The private group of an account. -/
def privateGroup (user : PosixUser) : NSSMembership := ⟨user.number, user.name⟩

/-- `primaryGroup`: the gid an account is served with and the group that is named for it, by
the mode of private groups; a private group never takes a number or a name that is held. -/
def primaryGroup (db : LookupState) (user : PosixUser) : Except PrimaryError NSSPrimary :=
  let holders := groupHolders db user
  let held := nameHeld holders user.name
  match s.autoPrivateGroups, user.own.gid with
  | .on, gid =>
    if (byGID holders user.number).isSome || held then .error .privateGroupClash
    else
      .ok
        { gid := user.number
          group := some (privateGroup user)
          original := match gid with
            | some gid =>
              if gid ≠ user.number ∧ gid ≠ 0 then servableMembership (byGID holders gid) else none
            | none => none }
  | _, none => .error .noGID
  | mode, some gid =>
    if mode = .hybrid ∧ gid = user.number ∧ byGID holders gid = none then
      if held then .ok ⟨gid, none, none⟩ else .ok ⟨gid, some (privateGroup user), none⟩
    else .ok ⟨gid, servableMembership (byGID holders gid), none⟩

/-- `memberships`: the live groups an account is a member of, in the order of their gids. -/
def memberships (db : LookupState) (uid primaryGID : Nat) : List NSSMembership :=
  ((db.directory.members.select fun m => m.uid == uid).flatMap fun m =>
    (db.directory.groups.rows.select fun g => g.number == m.gid && g.number != primaryGID &&
      g.withheldAt.isNone && g.deletedAt.isNone).map fun g => (⟨g.number, g.name⟩ : NSSMembership))
  |>.insertionSort fun a b => a.gid ≤ b.gid

/-- `withOriginalGroup`: `slices.BinarySearchFunc` and `slices.Insert`, on a sorted list. -/
def withOriginalGroup (memberships : List NSSMembership) (original : Option NSSMembership) :
    List NSSMembership :=
  match original with
  | none => memberships
  | some original =>
    if memberships.any fun m => m.gid == original.gid then memberships
    else memberships.orderedInsert (fun a b => a.gid ≤ b.gid) original

/-- The status of an account. -/
def status (db : LookupState) (row : PosixUser) : NSSStatus :=
  if row.deletedAt.isSome then .deleted
  else if (row.own.userID.bind db.userDisabledAt).isSome || row.own.dirDisabled then .disabled
  else .active

/-- `strings.ReplaceAll` of `%u`. -/
def expandName (name : List Char) : List Char → List Char
  | '%' :: 'u' :: rest => name ++ expandName name rest
  | c :: rest => c :: expandName name rest
  | [] => []

/-- `home`.  A path that is not absolute is not served. -/
def home (row : PosixUser) : Option String :=
  let home :=
    match row.own.home.filter (· != "") with
    | some home => some home
    | none =>
      if s.defaultHome = "" then none
      else some (String.ofList (expandName row.name.toList s.defaultHome.toList))
  home.filter fun home => home.toList.head? == some '/'

/-- `shell`: an account that is not active gets the shell that refuses logins. -/
def shell (row : PosixUser) (status : NSSStatus) : Option String :=
  if status ≠ .active then some s.disabledShell
  else
    match row.own.shell.filter (· != "") with
    | some shell => some shell
    | none => if s.defaultShell = "" then none else some s.defaultShell

/-- `buildUser`: the primary group comes first, the memberships follow. -/
def buildUser (db : LookupState) (row : PosixUser) : Except PrimaryError NSSUserResponse := do
  let primary ← s.primaryGroup db row
  pure
    { name := row.name
      uid := row.number
      gid := primary.gid
      groups := primary.group.toList ++
        withOriginalGroup (memberships db row.number primary.gid) primary.original
      home := s.home row
      shell := s.shell row (status db row)
      gecos := row.own.gecos
      status := status db row }

/-- What a lookup that missed finds after the directory was read: the database as it is then,
and whether the directory could not be asked. -/
structure Refresh where
  after : LookupState
  failed : Bool

/-- `missAfterRefresh`: a directory that could not be asked is no proof of absence. -/
def missAfterRefresh (failed : Bool) : NSSError := if failed then userStatusCheckError else nssNotFound

/-- The end of `lookupUser`: an account whose primary group is refused is not served. -/
def answerUser (db : LookupState) (row : PosixUser) : Except NSSError NSSUserResponse :=
  (s.buildUser db row).mapError fun _ => nssNotFound

/-- `lookupUser`: the store first, then one read on demand, and the store again. -/
def lookupUser (db : LookupState) (refresh : Option Refresh) (selects : PosixUser → Bool) :
    Except NSSError NSSUserResponse :=
  match s.readServableUser db selects, refresh with
  | some row, _ => s.answerUser db row
  | none, none => .error (missAfterRefresh false)
  | none, some refresh =>
    match s.readServableUser refresh.after selects with
    | some row => s.answerUser refresh.after row
    | none => .error (missAfterRefresh refresh.failed)

/-- `UserByName`: a name the protocol cannot carry is a bad request. -/
def userByName (db : LookupState) (refresh : Option Refresh) (name : String) :
    Except NSSError NSSUserResponse := do
  validNSSName name
  s.lookupUser db refresh fun row => row.name == name

/-- `UserByUID`. -/
def userByUID (db : LookupState) (refresh : Option Refresh) (uid : Nat) :
    Except NSSError NSSUserResponse :=
  s.lookupUser db refresh fun row => row.number == uid

/-! ### Groups -/

/-- The names of a group's members, however many there are, in the order of their uids. -/
def memberNames (db : LookupState) (gid : Nat) : List String :=
  (((db.directory.members.select fun m => m.gid == gid).flatMap fun m =>
    db.directory.accounts.rows.select fun a => a.number == m.uid && a.withheldAt.isNone &&
      a.deletedAt.all fun deleted => decide (s.retentionCutoff ≤ deleted))
  |>.insertionSort fun a b => a.number ≤ b.number).map (·.name)

/-- `buildGroup`: a deleted group has no members, and a long list is cut and marked so. -/
def buildGroup (db : LookupState) (group : PosixGroup) : NSSGroupResponse :=
  if group.deletedAt.isSome then ⟨group.name, group.number, [], false⟩
  else
    let names := (s.memberNames db group.number).take (s.maxGroupMembers + 1)
    ⟨group.name, group.number, names.take s.maxGroupMembers,
      decide (names.length > s.maxGroupMembers)⟩

/-- The private group that an account answers a group lookup with. -/
def privateAnswer (db : LookupState) (user : PosixUser) : Option NSSGroupResponse :=
  match s.primaryGroup db user with
  | .error _ => none
  | .ok primary =>
    if primary.group = some (privateGroup user) then some ⟨user.name, user.number, [], false⟩
    else none

/-- `readGroup`.  A row that holds the name or number and may not be served is not answered for
by a private group. -/
def readGroup (db : LookupState) (selects : PosixGroup → Bool) (owner : PosixUser → Bool) :
    Option NSSGroupResponse :=
  match (db.directory.groups.rows.select selects).head? with
  | some group =>
    if s.servable group.withheldAt group.deletedAt then some (s.buildGroup db group) else none
  | none =>
    if s.autoPrivateGroups = .off then none
    else (s.readServableUser db owner).bind (s.privateAnswer db)

/-- `lookupGroup`.  The directory is read for the group, and then for the account whose private
group it might be. -/
def lookupGroup (db : LookupState) (refresh : Option (Refresh × Refresh))
    (read : LookupState → Option NSSGroupResponse) : Except NSSError NSSGroupResponse :=
  match read db, refresh with
  | some group, _ => .ok group
  | none, none => .error nssNotFound
  | none, some (group, user) =>
    match read group.after with
    | some group => .ok group
    | none =>
      if s.autoPrivateGroups = .off then .error (missAfterRefresh group.failed)
      else
        match read user.after with
        | some group => .ok group
        | none => .error (missAfterRefresh (group.failed || user.failed))

/-- `GroupByName`: a stored group, or the private group of a user with that name. -/
def groupByName (db : LookupState) (refresh : Option (Refresh × Refresh)) (name : String) :
    Except NSSError NSSGroupResponse := do
  validNSSName name
  s.lookupGroup db refresh fun db =>
    s.readGroup db (fun g => g.name == name) fun user => user.name == name

/-- `GroupByGID`: the same by number. -/
def groupByGID (db : LookupState) (refresh : Option (Refresh × Refresh)) (gid : Nat) :
    Except NSSError NSSGroupResponse :=
  s.lookupGroup db refresh fun db =>
    s.readGroup db (fun g => g.number == gid) fun user => user.number == gid

end NSSLookupService

end Ssoossh.NSS
