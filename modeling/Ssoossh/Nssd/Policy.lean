import Ssoossh.Nssd.Config

/-!
# The host policy

What the host daemon serves of what the server answers (`nssd/policy`): the local accounts
and groups come first (`parseLocalDB`), every answer passes the sanity rules, the host
overrides apply before them, and a membership is only listed under a name that resolves to
its gid on this host (`memberships`).

The files are read again whenever they change (`watched`).  A `Host` is what they say at one
moment, and every lookup is given the one in force.  Warnings and the findings shown by
`status` are left out.
-/

namespace Ssoossh.Nssd

open GoBytes

/-! ## Local users and groups -/

/-- A line of `/etc/passwd` or `/etc/group`: the name in the first field and the id in the
third, if it is one. -/
structure LocalLine where
  name : Bytes
  id : Option UInt32
deriving DecidableEq, Repr

/-- Read a line, unless it is blank or a comment.  A compat-mode entry counts as its name. -/
def LocalLine.parse (line : Bytes) : Option LocalLine :=
  if line = [] || hasPrefix line [byte '#'] then none
  else
    let fields := line.splitOn (byte ':')
    let name := (fields.headD []).dropWhile fun b => b == byte '+' || b == byte '-'
    some ⟨name, (fields[2]?).bind fun field => (parseUint 32 field).map UInt32.ofNat⟩

/-- `localDB`: each name and each id with the first line that lists it. -/
structure LocalDB where
  names : List (Bytes × Option UInt32) := []
  ids : List (UInt32 × Bytes) := []

namespace LocalDB

variable (db : LocalDB)

/-- `hasName`. -/
def hasName (name : Bytes) : Bool := (db.names.lookup name).isSome

/-- `hasID`. -/
def hasID (id : UInt32) : Bool := (db.ids.lookup id).isSome

/-- `idOf`: the id of a listed name, which is none for a line without one. -/
def idOf (name : Bytes) : Option (Option UInt32) := db.names.lookup name

/-- `nameOf`. -/
def nameOf (id : UInt32) : Option Bytes := db.ids.lookup id

/-- Take a line in. -/
def add (line : LocalLine) : LocalDB where
  ids := match line.id with
    | some id => FirstWins.add db.ids id line.name
    | none => db.ids
  names := if line.name = [] then db.names else FirstWins.add db.names line.name line.id

end LocalDB

/-- The longest line that is read, and its newline. -/
def maxLine : Nat := 2 ^ 20

/-- The lines of a file that are read. -/
def readLines (data : Bytes) : List LocalLine := (scanLines maxLine data).filterMap LocalLine.parse

/-- `parseLocalDB`: every line read is added in turn, and the first of a name or an id counts. -/
def parseLocalDB (data : Bytes) : LocalDB := (readLines data).foldl LocalDB.add {}

/-! ## What the host says -/

/-- The host's files as they were last read.  A file that could not be read is an error. -/
structure Host where
  passwd : Except String LocalDB := .ok {}
  group : Except String LocalDB := .ok {}
  shells : Except String (List Bytes) := .ok []
  overrides : Overrides := .none

/-- `ErrRejected`, by its reason. -/
inductive Refusal where
  | invalidName (fault : NameFault)
  | filteredUser (name : Bytes)
  | filteredGroup (name : Bytes)
  | unreadable (error : String)
  | localUser (name : Bytes)
  | localGroup (name : Bytes)
  | uidRange (uid : UInt32)
  | gidRange (gid : UInt32)
  | localUID (uid : UInt32)
  | localGID (gid : UInt32)
  | noRequiredGroup (name : Bytes)
  | noHome (name : Bytes)
deriving DecidableEq

/-- What a refused check is. -/
abbrev Policy (α : Type) := Except Refusal α

/-- Refuse a name that breaks the rules. -/
def checkName (name : Bytes) : Policy Unit :=
  match nameFault name with
  | some fault => throw (.invalidName fault)
  | none => pure ()

/-- Read a local file, or refuse: a host that cannot tell what is local serves nothing. -/
def local? (file : Except String LocalDB) : Policy LocalDB :=
  file.mapError Refusal.unreadable

section Checks

variable (cfg : Config) (host : Host)

/-- `CheckUserName`: what can be refused of a name alone, before anybody is asked about it. -/
def checkUserName (name : Bytes) : Policy Unit := do
  checkName name
  if cfg.filterUsers.contains name then
    throw (.filteredUser name)
  let users ← local? host.passwd
  if users.hasName name then
    throw (.localUser name)

/-- `CheckUID`: an id out of range or of a local account is not asked about. -/
def checkUID (uid : UInt32) : Policy Unit := do
  if !cfg.inRange uid then
    throw (.uidRange uid)
  let users ← local? host.passwd
  if users.hasID uid then
    throw (.localUID uid)

/-- `CheckGroupName`: the same of a group. -/
def checkGroupName (name : Bytes) : Policy Unit := do
  checkName name
  if cfg.filterGroups.contains name then
    throw (.filteredGroup name)
  let groups ← local? host.group
  if groups.hasName name then
    throw (.localGroup name)

/-- `CheckGID`. -/
def checkGID (gid : UInt32) : Policy Unit := do
  if !cfg.inRange gid then
    throw (.gidRange gid)
  let groups ← local? host.group
  if groups.hasID gid then
    throw (.localGID gid)

end Checks

/-! ## Answers of the server -/

/-- `NSSMembership`. -/
structure NSSMembership where
  gid : UInt32
  name : Bytes
deriving DecidableEq

/-- `NSSUserResponse`, without the key's id. -/
structure NSSUserResponse where
  name : Bytes
  uid : UInt32
  gid : UInt32
  groups : List NSSMembership := []
  home : Option Bytes := none
  shell : Option Bytes := none
  gecos : Bytes := []
  status : Bytes
deriving DecidableEq

/-- `NSSGroupResponse`. -/
structure NSSGroupResponse where
  name : Bytes
  gid : UInt32
  members : List Bytes := []
  membersTruncated : Bool := false
deriving DecidableEq

/-! ## Memberships -/

section Memberships

variable (cfg : Config) (groups : LocalDB)

/-- `membership`: the name to list for one membership, if any. -/
def membership (m : NSSMembership) : Option Bytes :=
  if !cfg.inRange m.gid then none
  else
    match groups.nameOf m.gid with
    | some name => if !validName name || cfg.filterGroups.contains name then none else some name
    | none =>
      if (groups.idOf m.name).isSome then none
      else if !validName m.name || cfg.filterGroups.contains m.name then none
      else some m.name

/-- One turn of the loop of `memberships`: the names listed and the directory names kept. -/
def listMembership (lists : List Bytes × List Bytes) (m : NSSMembership) : List Bytes × List Bytes :=
  match membership cfg groups m with
  | none => lists
  | some name =>
    (if lists.1.contains name then lists.1 else lists.1 ++ [name], lists.2 ++ [m.name])

end Memberships

/-- `memberships`: the group names to list, and the directory names of the memberships
listed. -/
def memberships (cfg : Config) (host : Host) (answer : List NSSMembership) :
    Policy (List Bytes × List Bytes) := do
  let groups ← local? host.group
  return answer.foldl (listMembership cfg groups) ([], [])

/-! ## Users -/

/-- `policy.User`: the record a program on the host gets to see. -/
structure User where
  name : Bytes
  uid : UInt32
  gid : UInt32
  realName : Bytes
  home : Bytes
  shell : Bytes
  locked : Bool
  status : Bytes
  groups : List Bytes
deriving DecidableEq

/-- The texts of a homedir template with its sequences replaced. -/
def expandFrom (name : Bytes) (uid : UInt32) (serverHome : Bytes) : Bytes → Bytes
  | [] => []
  | [b] => [b]
  | b :: c :: rest =>
    if b ≠ byte '%' then b :: expandFrom name uid serverHome (c :: rest)
    else if c = byte 'u' then name ++ expandFrom name uid serverHome rest
    else if c = byte 'U' then formatUint uid.toNat ++ expandFrom name uid serverHome rest
    else if c = byte 'h' then serverHome ++ expandFrom name uid serverHome rest
    else if c = byte '%' then byte '%' :: expandFrom name uid serverHome rest
    else byte '%' :: c :: expandFrom name uid serverHome rest

/-- `strings.ReplaceAll` of a doubled percent sign by nothing. -/
def dropDoubled : Bytes → Bytes
  | [] => []
  | [b] => [b]
  | b :: c :: rest =>
    if b = byte '%' ∧ c = byte '%' then dropDoubled rest else b :: dropDoubled (c :: rest)

/-- Whether a template uses the server's home. -/
def usesHome (template : Bytes) : Bool :=
  (dropDoubled template).tails.any fun rest => hasPrefix rest (ofString "%h")

/-- `expand`: a template that needs the server's home has no value where there is none. -/
def expand (template name : Bytes) (uid : UInt32) (serverHome : Bytes) : Bytes :=
  if template = [] ∨ (serverHome = [] ∧ usesHome template) then []
  else expandFrom name uid serverHome template

section Answers

variable (cfg : Config) (host : Host)

/-- `home`: the first of the override, the account's own home and the fallback that is a
valid path. -/
def resolveHome (name : Bytes) (uid : UInt32) (serverHome home : Bytes) : Policy Bytes :=
  let candidates := [expand cfg.overrideHomedir name uid serverHome, home,
    expand cfg.fallbackHomedir name uid serverHome]
  match candidates.find? fun c => c ≠ [] && validPath c with
  | some c => pure c
  | none => throw (.noHome name)

/-- `acceptable`: a vetoed shell never is; otherwise `allowed_shells` decides if it is set,
and the host's `/etc/shells` if not. -/
def acceptable (shell : Bytes) (shells : List Bytes) : Bool :=
  if !validPath shell || cfg.vetoedShells.contains shell then false
  else if cfg.allowedShells ≠ [] then cfg.allowedShells.contains shell
  else shells.contains shell

/-- `shell`: the configured override before the account's own, each if it is acceptable, and
else `shell_fallback`.  A host without `/etc/shells` has no shells. -/
def resolveShell (shell : Bytes) : Bytes :=
  let shells := host.shells.toOption.getD []
  ([cfg.overrideShell, shell].find? fun c => c ≠ [] && acceptable cfg c shells).getD cfg.shellFallback

/-- `sanity`: whatever the server says, the name is not filtered, both ids are in range, and
neither the name nor the uid is a local account's. -/
def sanity (name : Bytes) (uid gid : UInt32) : Policy Unit := do
  if cfg.filterUsers.contains name then
    throw (.filteredUser name)
  if !cfg.inRange uid then
    throw (.uidRange uid)
  if !cfg.inRange gid then
    throw (.gidRange gid)
  let users ← local? host.passwd
  if users.hasName name then
    throw (.localUser name)
  if users.hasID uid then
    throw (.localUID uid)

/-- `require_groups`: one of the names that were kept has to be among them. -/
def checkRequired (name : Bytes) (kept : List Bytes) : Policy Unit :=
  if cfg.requireGroups ≠ [] ∧ !(kept.any cfg.requireGroups.contains) then
    throw (.noRequiredGroup name)
  else pure ()

/-- The override of a name, which sets nothing if there is none. -/
def Host.override (name : Bytes) : Override := (host.overrides.entries.lookup name).getD {}

/-- An account whose status is anything but active is locked. -/
def active : Bytes := ofString "active"

/-- `Engine.User`: the overrides of the host go before what the server says, and every check
is on the result. -/
def servedUser (resp : NSSUserResponse) : Policy User := do
  let name := resp.name
  checkName name
  let o := host.override name
  let uid := o.uid.getD resp.uid
  let gid := o.gid.getD resp.gid
  let serverHome := resp.home.getD []
  let home := if o.home ≠ [] then o.home else serverHome
  let shell := if o.shell ≠ [] then o.shell else resp.shell.getD []
  sanity cfg host name uid gid
  let (groups, kept) ← memberships cfg host resp.groups
  checkRequired cfg name kept
  let resolvedHome ← resolveHome cfg name uid serverHome home
  return {
    name, uid
    gid := if cfg.overrideGID ≠ 0 then cfg.overrideGID else gid
    realName := sanitizeGECOS resp.gecos name
    home := resolvedHome
    shell := if resp.status = active then resolveShell cfg host shell else cfg.disabledShell
    locked := resp.status ≠ active
    status := resp.status
    groups }

/-! ## Groups -/

/-- `policy.Group`. -/
structure Group where
  name : Bytes
  gid : UInt32
  members : List Bytes := []
deriving DecidableEq

/-- One turn of the loop over the members. -/
def listMember (users : LocalDB) (members : List Bytes) (m : Bytes) : List Bytes :=
  if !validName m || cfg.filterUsers.contains m || users.hasName m || members.contains m then members
  else members ++ [m]

/-- `Engine.Group`: a group of the directory must not meet one of the host's; members that
are local users are not listed. -/
def servedGroup (resp : NSSGroupResponse) : Policy Group := do
  checkGroupName cfg host resp.name
  checkGID cfg host resp.gid
  if cfg.ignoreGroupMembers then
    return { name := resp.name, gid := resp.gid }
  let users ← local? host.passwd
  return { name := resp.name, gid := resp.gid, members := resp.members.foldl (listMember cfg users) [] }

/-- `GroupStub`: a group only known from a membership. -/
def checkGroupStub (m : NSSMembership) : Policy Unit := do
  checkGroupName cfg host m.name
  checkGID cfg host m.gid

end Answers

end Ssoossh.Nssd
