import Ssoossh.Lib.Histories
import Ssoossh.NSS.Lifecycle

/-!
# The directory service

The calls that read and write the stored directory, as programs whose actions are
single transactions and single reads: a sync run (`server/service/nss_sync.go`), a
read on demand (`server/service/nss_directory.go`), the link of a login, the actions of
an administrator, the purge of old tombstones and the mail about pending numbers.  Any
number of calls run at once, on any number of instances.

What the LDAP directory answers is an argument of the call, so that every theorem is
about every answer.  So is the configuration of the instance, which may differ from
one call to the next.

## History variables

Three fields of `Shared` are written by `exec` and read by nothing.  `noted` has the
numbers a call has read, `awaiting` the rows a run has found due and not yet
tombstoned, and `told` what was pending when the mail about a row was claimed.
-/

namespace Ssoossh.NSS

open Interleaving Relational Transactional GoTime

/-! ## Shared state -/

/-- A running call. -/
abbrev Tid := Nat

/-- Which of the two tables. -/
inductive TableName
  | accounts
  | groups
deriving DecidableEq

/-- The numbers a call has read. -/
structure Notes where
  uids : List Nat := []
  gids : List Nat := []
deriving DecidableEq

/-- Take down the number of a row. -/
def Notes.add (notes : Notes) : TableName → Nat → Notes
  | .accounts, uid => { notes with uids := uid :: notes.uids }
  | .groups, gid => { notes with gids := gid :: notes.gids }

/-- A row a run has found due, with the bounds of the read that found it. -/
structure Awaited where
  table : TableName
  row : RowRef
  start : Int
  cutoff : Int
deriving DecidableEq

/-- What was pending when a mail was claimed: the number, and for an account its gid. -/
structure Told where
  number : Option Nat := none
  gid : Option Nat := none
deriving DecidableEq

/-- What all calls share. -/
structure Shared where
  directory : Directory
  noted : Tid → Notes := fun _ => {}
  awaiting : Tid → List Awaited := fun _ => []
  told : TableName → String → Told := fun _ _ => {}

namespace Shared

/-- A call takes something down. -/
def taking (s : Shared) (tid : Tid) (f : Notes → Notes) : Shared :=
  { s with noted := Function.update s.noted tid (f (s.noted tid)) }

/-- A run has more or fewer rows to tombstone. -/
def expecting (s : Shared) (tid : Tid) (f : List Awaited → List Awaited) : Shared :=
  { s with awaiting := Function.update s.awaiting tid (f (s.awaiting tid)) }

/-- The mail about a row is claimed. -/
def telling (s : Shared) (table : TableName) (id : String) (told : Told) : Shared :=
  { s with told := Function.update s.told table (Function.update (s.told table) id told) }

end Shared

/-! ## Reads -/

/-- The reads. -/
inductive Query
  | groupsEmpty
  | memberIndex (settings : Settings)
  | due (table : TableName) (start cutoff : Int)
  | expired (table : TableName) (cutoff : Int)
  | tombstoned (table : TableName) (number : Nat)
  | loginRow (directoryID dn : String)
  | linkedElsewhere (userID id : String)
  | unmailedAccounts
  | unmailedGroups

/-- What a read returns. -/
def Query.Row : Query → Type
  | .groupsEmpty => Bool
  | .memberIndex _ => NSSMemberIndex
  | .due _ _ _ => List RowRef
  | .expired _ _ => List RowRef
  | .tombstoned _ _ => Option RowRef
  | .loginRow _ _ => Option PosixUser
  | .linkedElsewhere _ _ => Option PosixUser
  | .unmailedAccounts => List PosixUser
  | .unmailedGroups => List PosixGroup

/-- The answer of a read. -/
def Query.answer (d : Directory) : (query : Query) → query.Row
  | .groupsEmpty => d.groups.rows.rows.isEmpty
  | .memberIndex settings => loadMemberIndex settings d
  | .due .accounts start cutoff => d.accounts.dueRows start cutoff
  | .due .groups start cutoff => d.groups.dueRows start cutoff
  | .expired .accounts cutoff => d.accounts.expired cutoff
  | .expired .groups cutoff => d.groups.expired cutoff
  | .tombstoned .accounts number => d.accounts.tombstoned number
  | .tombstoned .groups number => d.groups.tombstoned number
  | .loginRow directoryID dn => d.accounts.loginRow directoryID dn
  | .linkedElsewhere userID id => d.accounts.linkedElsewhere userID id
  | .unmailedAccounts => d.accounts.unmailed
  | .unmailedGroups => d.groups.unmailed

/-- What a call takes down of a read. -/
def Query.note (s : Shared) (tid : Tid) : (query : Query) → query.Row → Shared
  | .memberIndex _, (index : NSSMemberIndex) => s.taking tid fun notes =>
    { notes with uids := index.rows.map (·.uid) ++ notes.uids }
  | .due table start cutoff, (rows : List RowRef) => s.expecting tid fun waiting =>
    rows.map (fun row => ⟨table, row, start, cutoff⟩) ++ waiting
  | .expired table _, (rows : List RowRef) => s.taking tid fun notes =>
    rows.foldl (fun notes row => notes.add table row.number) notes
  | .tombstoned table _, (found : Option RowRef) => s.taking tid fun notes =>
    found.elim notes fun row => notes.add table row.number
  | _, _ => s

/-! ## Transactions -/

/-- The transactions. -/
inductive Statement
  | storeAccount (settings : Settings) (a : NSSAccount) (disabled : Bool)
      (contenders : List NSSAccount) (complete : NSSKinds) (now : Int)
  | storeGroup (settings : Settings) (g : NSSGroup) (contenders : List NSSGroup)
      (complete : NSSKinds) (index : Option NSSMemberIndex) (gone : Option (String → Bool))
      (importing : Bool) (now : Int)
  | replaceMembershipsOf (uid : Nat) (gids : List Nat) (now : Int)
  | acceptUser (uid : Nat) (now : Int)
  | acceptGroup (gid : Nat) (now : Int)
  | markMissing (table : TableName) (start now : Int)
  | tombstone (table : TableName) (row : RowRef) (now : Int)
  | sweepCollisions (table : TableName) (start now : Int)
  | purge (table : TableName) (row : RowRef) (now : Int)
  | link (id userID : String) (now : Int)
  | claimAccount (read : PosixUser) (now : Int)
  | claimGroup (read : PosixGroup) (now : Int)

/-- What a transaction returns. -/
def Statement.Result : Statement → Type
  | .storeAccount _ _ _ _ _ _ => Stored AccountColumns
  | .storeGroup _ _ _ _ _ _ _ _ => Stored Unit
  | .acceptUser _ _ => PosixUser
  | .acceptGroup _ _ => PosixGroup
  | .link _ _ _ => Bool
  | .claimAccount _ _ => Bool
  | .claimGroup _ _ => Bool
  | _ => PUnit

/-- What a transaction does.  `newID` is the identifier of the row it may insert. -/
def Statement.tx (newID : String) : (statement : Statement) → DirectoryTx statement.Result
  | .storeAccount settings a disabled contenders complete now =>
    onAccounts (NSS.storeAccount settings a disabled contenders complete now newID)
  | .storeGroup settings g contenders complete index gone importing now =>
    NSS.storeGroup settings g contenders complete index gone importing now newID
  | .replaceMembershipsOf uid gids now => NSS.replaceMembershipsOf uid gids (memberAddedAt false now)
  | .acceptUser uid now => NSS.acceptUser uid now
  | .acceptGroup gid now => NSS.acceptGroup gid now
  | .markMissing .accounts start now => onAccounts (NSS.markMissing start now)
  | .markMissing .groups start now => onGroups (NSS.markMissing start now)
  | .tombstone .accounts row now => tombstoneAccount row now
  | .tombstone .groups row now => tombstoneGroup row now
  | .sweepCollisions .accounts start now => onAccounts (NSS.sweepCollisions start now)
  | .sweepCollisions .groups start now => onGroups (NSS.sweepCollisions start now)
  | .purge .accounts row now => purgeAccount row now
  | .purge .groups row now => purgeGroup row now
  | .link id userID now => onAccounts (linkRow id userID now)
  | .claimAccount read now => onAccounts (NSS.claimAccount read now)
  | .claimGroup read now => onGroups (NSS.claimGroup read now)

/-- What a committed transaction adds to the history. -/
def Statement.note (s : Shared) (tid : Tid) : (statement : Statement) → statement.Result → Shared
  | .storeAccount _ _ _ _ _ _, (stored : Stored AccountColumns) => s.taking tid fun notes =>
    stored.row.elim notes fun row => notes.add .accounts row.number
  | .storeGroup _ _ _ _ _ _ _ _, (stored : Stored Unit) => s.taking tid fun notes =>
    stored.row.elim notes fun row => notes.add .groups row.number
  | .tombstone table row _, _ => s.expecting tid fun waiting =>
    waiting.filter fun other => decide ¬ (other.table = table ∧ other.row = row)
  | .claimAccount read _, (won : Bool) =>
    if won then s.telling .accounts read.id ⟨read.pendingNumber, read.own.pendingGID⟩ else s
  | .claimGroup read _, (won : Bool) =>
    if won then s.telling .groups read.id ⟨read.pendingNumber, none⟩ else s
  | _, _ => s

/-! ## Actions -/

/-- The atomic actions. -/
inductive Act
  | now
  | read (query : Query)
  | commit (statement : Statement)

/-- The answers. -/
def Act.Resp : Act → Type
  | .now => Int
  | .read query => Except Failure query.Row
  | .commit statement => Except Failure statement.Result

/-- What the environment decides: the time, whether the database fails, and the
identifier a new row gets. -/
inductive Choice
  | time (t : Int)
  | done (newID : String)
  | fail (reason : String)
deriving DecidableEq

/-- What an action does.  A transaction that fails changes nothing. -/
def exec (tid : Tid) (s : Shared) : (action : Act) → Choice → Option (Shared × action.Resp)
  | .now, .time t => some (s, t)
  | .read query, .done _ =>
    some (query.note s tid (query.answer s.directory), .ok (query.answer s.directory))
  | .read _, .fail reason => some (s, .error (.database reason))
  | .commit statement, .done newID =>
    match (statement.tx newID).run s.directory with
    | .ok (result, directory) =>
      some (statement.note { s with directory := directory } tid result, .ok result)
    | .error failure => some (s, .error failure)
  | .commit _, .fail reason => some (s, .error (.database reason))
  | _, _ => none

/-! ## Programs -/

/-- A program of the service. -/
abbrev Service (β : Type) := ExceptT Failure (Prog Act Act.Resp) β

/-- `s.now().UTC()`. -/
def clock : Service Int := ExceptT.lift (Prog.perform Act.now)

/-- A failure in the words it is reported in, or passed on as it is. -/
def Failure.reported (words : Option String) (failure : Failure) : Failure :=
  words.elim failure fun words => .wrapped words failure

/-- A read. -/
def read (query : Query) (words : Option String := none) : Service query.Row := do
  match ← ExceptT.lift (Prog.perform (Act.read query)) with
  | .ok row => pure row
  | .error failure => throw (failure.reported words)

/-- A transaction. -/
def commit (statement : Statement) (words : Option String := none) : Service statement.Result := do
  match ← ExceptT.lift (Prog.perform (Act.commit statement)) with
  | .ok result => pure result
  | .error failure => throw (failure.reported words)

/-- Whether a program fails.  The failure itself is only logged. -/
def failing {β : Type} (program : Service β) : Service Bool := ExceptT.mk do
  match ← program.run with
  | .ok _ => pure (.ok false)
  | .error _ => pure (.ok true)

/-- Run a program for each element, and count the failures. -/
def countFailed {β γ : Type} (program : β → Service γ) : List β → Service Nat
  | [] => pure 0
  | x :: rest => do
    let failed ← failing (program x)
    let more ← countFailed program rest
    pure (if failed then more + 1 else more)

/-! ## Storing entries -/

/-- `storeAccount`. -/
def storeAccountCall (settings : Settings) (a : NSSAccount) (disabled : Bool)
    (contenders : List NSSAccount) (complete : NSSKinds) : Service (Stored AccountColumns) := do
  let now ← clock
  commit (.storeAccount settings a disabled contenders complete now)
    ("store the directory account " ++ a.dn)

/-- `storeGroup`. -/
def storeGroupCall (settings : Settings) (g : NSSGroup) (contenders : List NSSGroup)
    (complete : NSSKinds) (index : Option NSSMemberIndex) (gone : Option (String → Bool))
    (importing : Bool) : Service (Stored Unit) := do
  let now ← clock
  commit (.storeGroup settings g contenders complete index gone importing now)
    ("store the directory group " ++ g.dn)

/-- `absentFrom`: what a full enumeration does not contain is gone. -/
def absentFrom (text : DNText) (enumerated : List String) : String → Bool := fun dn =>
  !(enumerated.map text.normalizeDN).contains (text.normalizeDN dn)

/-- `probeGroupsGone`: the names that were found gone. -/
def probedGone (text : DNText) (gone : List String) : String → Bool := fun dn =>
  (gone.map text.normalizeDN).contains (text.normalizeDN dn)

/-- `othersOf`, of the entry at position `i`: the others with its number, then the
others with its name. -/
def othersOf {β : Type} (ref : β → NSSEntryRef) (entries : List β) (i : Nat) (self : β) : List β :=
  let others := (entries.zipIdx.filter fun e => e.2 != i).map (·.1)
  (others.filter fun e => (ref e).number == (ref self).number) ++
    others.filter fun e => (ref e).number != (ref self).number && (ref e).name == (ref self).name

/-! ## Sync -/

/-- What a run knows about an account before it stores it. -/
structure AccountCheck where
  disabled : Bool
  contenders : List NSSAccount
  complete : NSSKinds

/-- What a run knows about a group before it stores it. -/
structure GroupCheck where
  contenders : List NSSGroup
  complete : NSSKinds
  gone : String → Bool

/-- What the searches of `syncAccounts` found: every account and the names of those the
disabled filter selects, or the modified ones, each with what its own searches found
unless they failed. -/
inductive AccountsRead
  | full (accounts : List NSSAccount) (disabledDNs : List String)
  | incremental (accounts : List (NSSAccount × Option AccountCheck))

/-- What the searches of `syncGroups` found.  A full enumeration includes entries that
could not be read. -/
inductive GroupsRead
  | full (groups : List NSSGroup) (skippedDNs : List String)
  | incremental (groups : List (NSSGroup × Option GroupCheck))

/-- Whether a run may draw conclusions from what it did not see. -/
def AccountsRead.isFull : AccountsRead → Bool
  | .full _ _ => true
  | .incremental _ => false

/-- Whether a run may draw conclusions from what it did not see. -/
def GroupsRead.isFull : GroupsRead → Bool
  | .full _ _ => true
  | .incremental _ => false

/-- Each account with what is known about it. -/
def AccountsRead.checks (text : DNText) : AccountsRead → List (NSSAccount × Option AccountCheck)
  | .full accounts disabledDNs => accounts.zipIdx.map fun a =>
    (a.1, some
      { disabled := (disabledDNs.map text.normalizeDN).contains (text.normalizeDN a.1.dn)
        contenders := othersOf NSSAccount.ref accounts a.2 a.1
        complete := nssAllKinds })
  | .incremental accounts => accounts

/-- Each group with what is known about it. -/
def GroupsRead.checks (text : DNText) : GroupsRead → List (NSSGroup × Option GroupCheck)
  | .full groups skippedDNs => groups.zipIdx.map fun g =>
    (g.1, some
      { contenders := othersOf NSSGroup.ref groups g.2 g.1
        complete := nssAllKinds
        gone := absentFrom text (groups.map (·.dn) ++ skippedDNs) })
  | .incremental groups => groups

/-- `syncAccount`.  An account that could not be checked is left as it was. -/
def syncAccount (settings : Settings) (read : NSSAccount × Option AccountCheck) : Service Unit :=
  match read.2 with
  | none => throw (.database "could not check a directory account")
  | some check => do
    let _ ← storeAccountCall settings read.1 check.disabled check.contenders check.complete
    pure ()

/-- The body of the loop of `syncGroups`. -/
def syncGroup (settings : Settings) (index : NSSMemberIndex) (importing : Bool)
    (read : NSSGroup × Option GroupCheck) : Service Unit :=
  match read.2 with
  | none => throw (.database "could not check a directory group")
  | some check => do
    let _ ← storeGroupCall settings read.1 check.contenders check.complete (some index)
      (some check.gone) importing
    pure ()

/-- What the messages call the rows of a table. -/
def TableName.label : TableName → String
  | .accounts => accountTable.label
  | .groups => groupTable.label

/-- The loop of `markMissing`. -/
def tombstoneEach (table : TableName) (now : Int) : List RowRef → Service Unit
  | [] => pure ()
  | row :: rows => do
    let _ ← commit (.tombstone table row now) ("tombstone the " ++ table.label ++ " " ++ row.dn)
    tombstoneEach table now rows

/-- `markMissing`: rows the run did not see, and tombstones for those missing long enough. -/
def markMissingCall (settings : Settings) (table : TableName) (start : Int) : Service Unit := do
  let now ← clock
  let _ ← commit (.markMissing table start now) ("mark missing " ++ table.label ++ " rows")
  let due : List RowRef ← read (.due table start (Time.add now (-settings.tombstoneAfter)))
    ("find " ++ table.label ++ " rows to tombstone")
  tombstoneEach table now due

/-- The end of a run over one table: `markMissing`, then `sweepCollisions`. -/
def finishTable (settings : Settings) (table : TableName) (start : Int) : Service Unit := do
  markMissingCall settings table start
  let now ← clock
  let _ ← commit (.sweepCollisions table start now)
  pure ()

/-- `syncAccounts`: rows are only found missing by a full run in which nothing failed. -/
def syncAccounts (settings : Settings) (start : Int) (found : AccountsRead) : Service Unit := do
  let failed ← countFailed (syncAccount settings) (found.checks settings.text)
  if found.isFull && failed == 0 then finishTable settings .accounts start else pure ()

/-- `syncGroups`. -/
def syncGroups (settings : Settings) (start : Int) (found : Except Failure GroupsRead) :
    Service Unit := do
  let importing : Bool ← read .groupsEmpty "count the group rows"
  match found with
  | .error failure => throw failure
  | .ok found =>
    let index : NSSMemberIndex ← read (.memberIndex settings)
      "read the stored accounts for group membership"
    let failed ← countFailed (syncGroup settings index importing) (found.checks settings.text)
    if found.isFull && failed == 0 then finishTable settings .groups start else pure ()

/-! ## Mail -/

/-- `claimPendingRows`, of the accounts. -/
def claimAccounts (now : Int) : List PosixUser → Service Unit
  | [] => pure ()
  | row :: rows => do
    let _ ← commit (.claimAccount row now)
      ("claim the id change mail for the NSS account " ++ row.name)
    claimAccounts now rows

/-- `claimPendingRows`, of the groups. -/
def claimGroups (now : Int) : List PosixGroup → Service Unit
  | [] => pure ()
  | row :: rows => do
    let _ ← commit (.claimGroup row now)
      ("claim the id change mail for the NSS group " ++ row.name)
    claimGroups now rows

/-- `mailPendingIDChanges`, up to the mail.  Nothing is claimed without an administrator to
tell. -/
def mailPendingIDChanges (admins : Except Failure Bool) : Service Unit := do
  let accounts : List PosixUser ← read .unmailedAccounts "read the pending NSS account id changes"
  let groups : List PosixGroup ← read .unmailedGroups "read the pending NSS group id changes"
  if accounts.isEmpty && groups.isEmpty then pure ()
  else
    match admins with
    | .error failure => throw failure
    | .ok false => pure ()
    | .ok true => do
      let now ← clock
      claimAccounts now accounts
      claimGroups now groups

/-- What a sync run meets: the searches for accounts and groups, and who there is to mail,
`none` where mail is off. -/
structure SyncRun where
  accounts : Except Failure AccountsRead
  groups : Except Failure GroupsRead
  admins : Option (Except Failure Bool)

/-- `sync`, once it has begun. -/
def syncFrom (settings : Settings) (run : SyncRun) (start : Int) : Service Unit :=
  match run.accounts with
  | .error failure => throw failure
  | .ok accounts => do
    syncAccounts settings start accounts
    syncGroups settings start run.groups
    match run.admins with
    | none => pure ()
    | some admins => do
      let _ ← failing (mailPendingIDChanges admins)
      pure ()

/-- `sync`. -/
def sync (settings : Settings) (run : SyncRun) : Service Unit := do
  let begun ← clock
  syncFrom settings run (Time.truncate begun Duration.microsecond)

/-! ## Reads on demand -/

/-- `nssOnDemandAccount`. -/
structure OnDemandAccount where
  account : NSSAccount
  disabled : Bool
  groups : List NSSGroup
  gone : List String

/-- The value a host or a login asked for. -/
inductive Asked
  | number (value : Nat)
  | name (value : String)
deriving DecidableEq

/-- Whether an entry is the one asked for. -/
def Asked.matches : Asked → NSSEntryRef → Bool
  | .number value, e => e.number == value
  | .name value, e => e.name == value

/-- The kind of the value asked for, of which a search that was not cut off saw every
entry. -/
def Asked.queried : Asked → NSSKinds
  | .number _ => ⟨true, false⟩
  | .name _ => ⟨false, true⟩

/-- `complete`, by whether a search was cut off. -/
def Asked.complete (asked : Asked) (cutOff : Bool) : NSSKinds :=
  if cutOff then ⟨false, false⟩ else asked.queried

/-- What an on-demand read reports. -/
structure Refreshed where
  found : Bool
  servable : Bool
deriving DecidableEq

/-- The loop of `storeMembershipsOf`: the gids of the groups that are stored. -/
def storeMembershipGroups (settings : Settings) (gone : String → Bool) :
    List NSSGroup → Service (List Nat)
  | [] => pure []
  | g :: rest => do
    let stored ← storeGroupCall settings g [] ⟨false, false⟩ none (some gone) false
    let gids ← storeMembershipGroups settings gone rest
    match stored.row with
    | some row => pure (if row.deletedAt.isNone then row.number :: gids else gids)
    | none => pure gids

/-- `storeMembershipsOf`: the groups an account was found in become all of its memberships. -/
def storeMembershipsOf (settings : Settings) (account : PosixUser) (groups : List NSSGroup)
    (gone : String → Bool) : Service Unit := do
  let gids ← storeMembershipGroups settings gone groups
  let now ← clock
  let _ ← commit (.replaceMembershipsOf account.number gids now)
  pure ()

/-- The loop of `readAccountsOnDemand`, over the entries with their positions. -/
def storeAccountsOnDemand (settings : Settings) (asked : Asked) (complete : NSSKinds)
    (all : List OnDemandAccount) : List (OnDemandAccount × Nat) → Refreshed → Service Refreshed
  | [], result => pure result
  | (found, i) :: rest, result => do
    let stored ← storeAccountCall settings found.account found.disabled
      ((all.eraseIdx i).map (·.account)) complete
    match stored.row with
    | some row => storeMembershipsOf settings row found.groups (probedGone settings.text found.gone)
    | none => pure ()
    let servable := stored.row.any fun row => row.withheldAt.isNone
    storeAccountsOnDemand settings asked complete all rest
      (if asked.matches found.account.ref then ⟨true, servable⟩ else result)

/-- The answer of the directory to a search on demand: the entries, and whether the search
was cut off. -/
structure Answer (β : Type) where
  entries : List β
  cutOff : Bool

/-- `readAccountsOnDemand`. -/
def readAccountsOnDemand (settings : Settings) (asked : Asked)
    (answer : Except Failure (Answer OnDemandAccount)) : Service Refreshed :=
  match answer with
  | .error failure => throw failure
  | .ok found => storeAccountsOnDemand settings asked (asked.complete found.cutOff) found.entries
    found.entries.zipIdx ⟨false, false⟩

/-- The loop of `readGroupsOnDemand`, over the entries with their positions. -/
def storeGroupsOnDemand (settings : Settings) (asked : Asked) (complete : NSSKinds)
    (index : NSSMemberIndex) (gone : String → Bool) (all : List NSSGroup) :
    List (NSSGroup × Nat) → Refreshed → Service Refreshed
  | [], result => pure result
  | (g, i) :: rest, result => do
    let stored ← storeGroupCall settings g (all.eraseIdx i) complete (some index) (some gone) false
    let servable := stored.row.any fun row => row.withheldAt.isNone
    storeGroupsOnDemand settings asked complete index gone all rest
      (if asked.matches g.ref then ⟨true, servable⟩ else result)

/-- `readGroupsOnDemand`.  `gone` is what the rename check found. -/
def readGroupsOnDemand (settings : Settings) (asked : Asked)
    (answer : Except Failure (Answer NSSGroup)) (gone : List String) : Service Refreshed :=
  match answer with
  | .error failure => throw failure
  | .ok found =>
    if found.entries.isEmpty then pure ⟨false, false⟩
    else do
      let index : NSSMemberIndex ← read (.memberIndex settings)
        "read the stored accounts for group membership"
      storeGroupsOnDemand settings asked (asked.complete found.cutOff) index
        (probedGone settings.text gone) found.entries found.entries.zipIdx ⟨false, false⟩

/-! ## Logins -/

/-- `link`: only a row without a person, and a person without a row, are linked. -/
def link (row : PosixUser) (userID : String) : Service Bool :=
  match row.own.userID with
  | some linked => pure (linked == userID)
  | none => do
    let other : Option PosixUser ← read (.linkedElsewhere userID row.id)
    if other.isSome then pure false
    else do
      let now ← clock
      commit (.link row.id userID now)

/-- `linkLogin`, of an entry that carries a uid.  `answer` is what the search for that uid
finds, if it is made. -/
def linkLogin (settings : Settings) (userID directoryID dn : String) (uid : Nat)
    (answer : Except Failure (Answer OnDemandAccount)) : Service Bool := do
  let row : Option PosixUser ← read (.loginRow directoryID dn)
  match row with
  | some row => link row userID
  | none => do
    let _ ← readAccountsOnDemand settings (.number uid) answer
    let row : Option PosixUser ← read (.loginRow directoryID dn)
    match row with
    | some row => link row userID
    | none => pure false

/-! ## Purging -/

/-- The words of a failed purge. -/
def purgeWords (table : TableName) (row : RowRef) : String :=
  "purge the NSS " ++ table.label ++ " " ++ row.dn

/-- `purgeAccount` and `purgeGroup`. -/
def purgeCall (table : TableName) (row : RowRef) : Service Unit := do
  let now ← clock
  let _ ← commit (.purge table row now) (purgeWords table row)
  pure ()

/-- `PurgeTombstones`: one transaction a row. -/
def purgeTombstones (settings : Settings) : Service Nat := do
  let now ← clock
  let cutoff := Time.add now (-settings.tombstoneRetention)
  let accounts : List RowRef ← read (.expired .accounts cutoff)
    "find NSS accounts past tombstone retention"
  let groups : List RowRef ← read (.expired .groups cutoff)
    "find NSS groups past tombstone retention"
  let failedAccounts ← countFailed (purgeCall .accounts) accounts
  let failedGroups ← countFailed (purgeCall .groups) groups
  pure (accounts.length + groups.length - failedAccounts - failedGroups)

/-- `PurgeUserTombstone` and `PurgeGroupTombstone`. -/
def purgeTombstone (table : TableName) (number : Nat) : Service Unit := do
  let found : Option RowRef ← read (.tombstoned table number)
    (match table with
      | .accounts => "read the NSS account with uid " ++ toString number
      | .groups => "read the NSS group with gid " ++ toString number)
  match found, table with
  | none, .accounts => throw (noTombstone accountTable number)
  | none, .groups => throw (noTombstone groupTable number)
  | some row, _ => purgeCall table row

/-! ## Administrators -/

/-- `AcceptUserIDChange`. -/
def acceptUserIDChange (uid : Nat) : Service PosixUser := do
  let now ← clock
  commit (.acceptUser uid now)

/-- `AcceptGroupIDChange`. -/
def acceptGroupIDChange (gid : Nat) : Service PosixGroup := do
  let now ← clock
  commit (.acceptGroup gid now)

/-! ## The machine -/

/-- The calls. -/
inductive Call
  | sync (settings : Settings) (run : SyncRun)
  | refreshUser (settings : Settings) (asked : Asked)
      (answer : Except Failure (Answer OnDemandAccount))
  | refreshGroup (settings : Settings) (asked : Asked) (answer : Except Failure (Answer NSSGroup))
      (gone : List String)
  | linkLogin (settings : Settings) (userID directoryID dn : String) (uid : Nat)
      (answer : Except Failure (Answer OnDemandAccount))
  | acceptUserIDChange (uid : Nat)
  | acceptGroupIDChange (gid : Nat)
  | purgeTombstones (settings : Settings)
  | purgeTombstone (table : TableName) (number : Nat)
  | sweepPendingIDChangeMail (admins : Except Failure Bool)

/-- What the calls return. -/
inductive Result
  | finished (outcome : Except Failure Unit)
  | refreshed (outcome : Except Failure Refreshed)
  | linked (outcome : Except Failure Bool)
  | acceptedUser (outcome : Except Failure PosixUser)
  | acceptedGroup (outcome : Except Failure PosixGroup)
  | purged (outcome : Except Failure Nat)

/-- A call ends in what its program returns. -/
def ending {β : Type} (program : Service β) (result : Except Failure β → Result) :
    Prog Act Act.Resp (Call ⊕ Result) := do
  let outcome ← program.run
  pure (.inr (result outcome))

/-- What each call runs. -/
def body : Call → Prog Act Act.Resp (Call ⊕ Result)
  | .sync settings run => ending (NSS.sync settings run) .finished
  | .refreshUser settings asked answer =>
    ending (readAccountsOnDemand settings asked answer) .refreshed
  | .refreshGroup settings asked answer gone =>
    ending (readGroupsOnDemand settings asked answer gone) .refreshed
  | .linkLogin settings userID directoryID dn uid answer =>
    ending (NSS.linkLogin settings userID directoryID dn uid answer) .linked
  | .acceptUserIDChange uid => ending (NSS.acceptUserIDChange uid) .acceptedUser
  | .acceptGroupIDChange gid => ending (NSS.acceptGroupIDChange gid) .acceptedGroup
  | .purgeTombstones settings => ending (NSS.purgeTombstones settings) .purged
  | .purgeTombstone table number => ending (NSS.purgeTombstone table number) .finished
  | .sweepPendingIDChangeMail admins => ending (mailPendingIDChanges admins) .finished

/-- The machine. -/
def service : Machine Act Act.Resp Shared Tid Choice Call Result where
  exec := exec
  body := body

/-- A configuration of the service. -/
abbrev ServiceConfig := Config Act Act.Resp Shared Tid Call Result

/-- A step of the scheduler. -/
abbrev ServiceLabel := Label Tid Choice Call

/-- Nothing is stored and no call is running. -/
def idle : ServiceConfig := ⟨{ directory := .empty }, fun _ => none⟩

/-! ## A service to evaluate -/

namespace Sample

/-- Names that are compared as they are. -/
def text : DNText where
  equalFold a b := a == b
  toLower := id
  normalizeDN := id
  memberDN := id
  equalFold_refl := beq_self_eq_true

/-- Entries have ids, members are names, and a row is tombstoned ten nanoseconds after it
was first missed. -/
def settings : Settings where
  text := text
  idConfigured := true
  autoPrivateGroups := .off
  membersAreDNs := false
  tombstoneAfter := 10
  tombstoneRetention := 100

/-- An account of the directory. -/
def account (dn directoryID name : String) (uid : Nat) : NSSAccount :=
  ⟨dn, directoryID, name, uid, some 100, none, none, ""⟩

/-- A host asks for the uid of an account, and the directory has this one. -/
def refreshUser (a : NSSAccount) : Call :=
  .refreshUser settings (.number a.uid) (.ok ⟨[⟨a, false, [], []⟩], false⟩)

/-- The schedule of one call that nothing interrupts. -/
def uninterrupted (tid : Tid) (call : Call) (choices : List Choice) : List ServiceLabel :=
  .spawn tid call :: choices.map (.run tid)

/-- An account that is in no group is read on demand; a new row gets this id. -/
def refreshing (tid : Tid) (a : NSSAccount) (newID : String) (now : Int) : List ServiceLabel :=
  uninterrupted tid (refreshUser a) [.time now, .done newID, .time now, .done ""]

/-- The service after a schedule. -/
def after (labels : List ServiceLabel) : Option ServiceConfig := service.runLabels idle labels

end Sample

end Ssoossh.NSS
