import Mathlib.Data.List.Dedup
import Ssoossh.NSS.Rows

/-!
# Storing what the directory says

The transactions that write an entry of the directory (`server/service/nss_store.go`):
matching it with a stored row, freezing its number, renaming, re-anchoring, recording
the collisions a read saw and withholding the rows they name.  The last step of an
on-demand read, which replaces the memberships of one account, is here too
(`storeMembershipsOf` in `server/service/nss_directory.go`).

The identifier a new row gets is an argument, since the database draws none.
-/

namespace Ssoossh.NSS

open Relational Transactional

variable {α : Type} {t : NSSTable α}

/-- `nssKinds`: the kinds of which a read saw every entry that carries the value. -/
structure NSSKinds where
  number : Bool
  name : Bool
deriving DecidableEq

/-- `nssAllKinds`. -/
def nssAllKinds : NSSKinds := ⟨true, true⟩

/-- `has`. -/
def NSSKinds.has (k : NSSKinds) : NSSCollisionKind → Bool
  | .number => k.number
  | .name => k.name

/-! ## Anchors -/

/-- `sameEntry`: whether a row and an entry at one DN are the same entry. -/
def sameEntry (rowID entryID : String) : Bool := rowID == "" || entryID == "" || rowID == entryID

/-- The row at the DN of an entry, if it is the same entry. -/
def Sheet.matchDN (s : Sheet t) (e : NSSEntryRef) : Option (PosixRow α) :=
  (s.first fun row => row.dn == e.dn).filter fun row => sameEntry row.directoryID e.directoryID

/-- `match`: the stored row of an entry, by its directory id, then by its DN. -/
def Sheet.matchRow (settings : Settings) (s : Sheet t) (e : NSSEntryRef) : Option (PosixRow α) :=
  if settings.idConfigured && e.directoryID != "" then
    match s.first fun row => row.directoryID == e.directoryID with
    | some row => some row
    | none => s.matchDN e
  else s.matchDN e

/-- `holderOf`: the row holding a value, other than `exceptID`. -/
def Sheet.holderOf (s : Sheet t) (holds : PosixRow α → Bool) (exceptID : String) :
    Option (PosixRow α) :=
  s.first fun row => holds row && row.id != exceptID

/-- `releaseDN`: no row but `exceptID` keeps `dn`. -/
def releaseDN (dn exceptID : String) (now : Int) : SheetTx t PUnit :=
  updateRows (fun row => row.dn == dn && row.id != exceptID)
    fun row => { row with dn := "", updatedAt := now }

/-! ## Pending numbers -/

/-- `nssPending`: the number waiting to be accepted after a read. -/
def nssPending (storedNumber incoming : Nat) (previous : Option Nat) : Option Nat :=
  if incoming = storedNumber then none
  else if previous = some incoming then previous
  else some incoming

/-- Whether a pair of a new and a previous pending number is a newly pending one. -/
def newlyPending (pair : Option Nat × Option Nat) : Bool :=
  pair.1.isSome && pair.1 != pair.2

/-- `nssPendingSince`. -/
def nssPendingSince (since : Option Int) (now : Int) (pairs : List (Option Nat × Option Nat)) :
    Option Int :=
  if !pairs.any (·.1.isSome) then none
  else if pairs.any newlyPending || since.isNone then some now
  else since

/-- `nssPendingRenewed`. -/
def nssPendingRenewed (pairs : List (Option Nat × Option Nat)) : Bool := pairs.any newlyPending

/-- `nssPendingUpdates`: the clock and the mail marker after a read. -/
def nssPendingUpdates (now : Int) (pairs : List (Option Nat × Option Nat)) (row : PosixRow α) :
    PosixRow α :=
  { row with
    pendingSince := nssPendingSince row.pendingSince now pairs
    pendingNotifiedAt :=
      if (nssPendingSince row.pendingSince now pairs).isNone || nssPendingRenewed pairs then none
      else row.pendingNotifiedAt }

/-- `accountGIDUpdate`: the stored gid and the pending gid of a matched account. -/
def accountGIDUpdate (settings : Settings) (row : PosixUser) (a : NSSAccount) :
    Option Nat × Option Nat :=
  if settings.autoPrivateGroups = .on then (a.gid, none)
  else
    match row.own.gid, a.gid with
    | none, _ => (a.gid, none)
    | some stored, none => (some stored, none)
    | some stored, some incoming => (some stored, nssPending stored incoming row.own.pendingGID)

/-- The columns of an account that a read of its entry sets, beside the anchors. -/
def followAccount (settings : Settings) (a : NSSAccount) (disabled : Bool) (now : Int)
    (row : PosixUser) : PosixUser :=
  let pendingUID := nssPending row.number a.uid row.pendingNumber
  let gid := accountGIDUpdate settings row a
  { nssPendingUpdates now [(pendingUID, row.pendingNumber), (gid.2, row.own.pendingGID)] row with
    pendingNumber := pendingUID
    own := { row.own with
      gid := gid.1
      pendingGID := gid.2
      home := a.home
      shell := a.shell
      gecos := a.gecos
      dirDisabled := disabled } }

/-- The columns of a group that a read of its entry sets, beside the anchors. -/
def followGroup (g : NSSGroup) (now : Int) (row : PosixGroup) : PosixGroup :=
  let pendingGID := nssPending row.number g.gid row.pendingNumber
  { nssPendingUpdates now [(pendingGID, row.pendingNumber)] row with pendingNumber := pendingGID }

/-! ## Writing a row -/

/-- A collision, as a read sees it. -/
def collisionOf (kind : NSSCollisionKind) (holderID : String) (other : NSSEntryRef)
    (value : String) (otherID : Option String) (now : Int) : NSSCollision :=
  { kind := kind
    holderID := holderID
    otherDN := other.dn
    value := value
    otherID := otherID
    otherName := other.name
    otherNumber := other.number
    firstSeenAt := now
    lastSeenAt := now }

/-- What the update of a matched row writes. -/
def refresh (e : NSSEntryRef) (follow : PosixRow α → PosixRow α) (name : String) (now : Int)
    (row : PosixRow α) : PosixRow α :=
  { follow row with
    name := name
    dn := e.dn
    directoryID := if e.directoryID != "" then e.directoryID else row.directoryID
    missingSince := none
    deletedAt := none
    lastSyncedAt := now
    updatedAt := now }

/-- The row that keeps an entry from taking its name. -/
def Sheet.nameHolder (s : Sheet t) (e : NSSEntryRef) (row : PosixRow α) : Option (PosixRow α) :=
  if e.name = row.name then none else s.holderOf (fun other => other.name == e.name) row.id

/-- An entry that has moved takes its DN from whatever row still has it. -/
def moveDN (e : NSSEntryRef) (row : PosixRow α) (now : Int) : SheetTx t PUnit :=
  if e.dn = row.dn then pure ⟨⟩ else releaseDN e.dn row.id now

/-- What `updateAccount` and `updateGroup` share.  A name another row holds is not taken,
and the two rows collide over it. -/
def updateMatched (id : String) (e : NSSEntryRef) (follow : PosixRow α → PosixRow α) (now : Int) :
    SheetTx t (PosixRow α × List NSSCollision) := do
  let row ← firstByID id
  let s ← get
  moveDN e row now
  match s.nameHolder e row with
  | some holder =>
    updateRows (fun other => other.id == row.id) (refresh e follow row.name now)
    let updated ← firstByID row.id
    pure (updated, [collisionOf .name holder.id e e.name (some row.id) now])
  | none =>
    updateRows (fun other => other.id == row.id) (refresh e follow e.name now)
    let updated ← firstByID row.id
    pure (updated, [])

/-- `updateAccount`. -/
def updateAccount (settings : Settings) (id : String) (a : NSSAccount) (disabled : Bool)
    (now : Int) : SheetTx accountTable (PosixUser × List NSSCollision) :=
  updateMatched id a.ref (followAccount settings a disabled now) now

/-- `updateGroup`. -/
def updateGroup (id : String) (g : NSSGroup) (now : Int) :
    SheetTx groupTable (PosixGroup × List NSSCollision) :=
  updateMatched id g.ref (followGroup g now) now

/-- A row that was just inserted. -/
def newRow (id : String) (e : NSSEntryRef) (now : Int) (own : α) : PosixRow α :=
  { id := id
    number := e.number
    name := e.name
    directoryID := e.directoryID
    dn := e.dn
    pendingNumber := none
    pendingSince := none
    pendingNotifiedAt := none
    missingSince := none
    deletedAt := none
    withheldAt := none
    withheldReason := ""
    createdAt := now
    updatedAt := now
    lastSyncedAt := now
    own := own }

/-- What `insertAccount` and `insertGroup` share. -/
def insertNew (row : PosixRow α) (now : Int) : SheetTx t (PosixRow α) := do
  releaseDN row.dn "" now
  insertRow row
  pure row

/-- The row of a new account. -/
def newAccount (id : String) (a : NSSAccount) (disabled : Bool) (now : Int) : PosixUser :=
  newRow id a.ref now
    { userID := none
      gid := a.gid
      pendingGID := none
      home := a.home
      shell := a.shell
      gecos := a.gecos
      dirDisabled := disabled }

/-- The row of a new group. -/
def newGroup (id : String) (g : NSSGroup) (now : Int) : PosixGroup := newRow id g.ref now ()

/-- `insertAccount`. -/
def insertAccount (id : String) (a : NSSAccount) (disabled : Bool) (now : Int) :
    SheetTx accountTable PosixUser :=
  insertNew (newAccount id a disabled now) now

/-- `insertGroup`. -/
def insertGroup (id : String) (g : NSSGroup) (now : Int) : SheetTx groupTable PosixGroup :=
  insertNew (newGroup id g now) now

/-- `heldValues`: the collisions a new entry runs into. -/
def Sheet.heldValues (s : Sheet t) (e : NSSEntryRef) (now : Int) : List NSSCollision :=
  ((s.holderOf (fun row => row.number == e.number) "").toList.map fun holder =>
      collisionOf .number holder.id e (toString e.number) none now) ++
    ((s.holderOf (fun row => row.name == e.name) "").toList.map fun holder =>
      collisionOf .name holder.id e e.name none now)

/-- What writing an entry did: the row, unless the entry was refused, the collisions that
refused it or blocked its rename, and those a re-anchoring resolved. -/
structure Written (α : Type) where
  stored : Option (PosixRow α)
  contended : List NSSCollision
  created : Bool
  resolved : Option (List NSSCollision)

/-- Insert an entry unless another row holds its number or name. -/
def writeNew (e : NSSEntryRef) (insert : SheetTx t (PosixRow α)) (now : Int) :
    SheetTx t (Written α) := do
  let s ← get
  if (s.heldValues e now).isEmpty then
    let row ← insert
    pure ⟨some row, [], true, none⟩
  else pure ⟨none, s.heldValues e now, false, none⟩

/-- `writeAccount`: the row the entry is matched to is updated, and else one is inserted. -/
def writeAccount (settings : Settings) (a : NSSAccount) (disabled : Bool) (now : Int)
    (newID : String) : SheetTx accountTable (Written AccountColumns) := do
  let s ← get
  match s.matchRow settings a.ref with
  | some row =>
    let updated ← updateAccount settings row.id a disabled now
    pure ⟨some updated.1, updated.2, false, none⟩
  | none => writeNew a.ref (insertAccount newID a disabled now) now

/-- `gidHolderElsewhere`: the row of another DN that may be this entry before a rename. -/
def gidHolderElsewhere (settings : Settings) (s : Sheet groupTable) (g : NSSGroup) :
    Option PosixGroup :=
  (s.holderOf (fun row => row.number == g.gid) "").filter fun holder =>
    !(holder.dn == "" || settings.text.normalizeDN holder.dn == settings.text.normalizeDN g.dn ||
      !sameEntry holder.directoryID g.directoryID)

/-- `renameTarget`: the stored group an entry no row anchors is a rename of.  `gone` is the
evidence of the read, if it gathered any. -/
def renameTarget (settings : Settings) (s : Sheet groupTable) (g : NSSGroup)
    (contenders : List NSSGroup) (gone : Option (String → Bool)) : Option PosixGroup :=
  match gone with
  | none => none
  | some gone =>
    if contenders.any (·.gid == g.gid) then none
    else (gidHolderElsewhere settings s g).filter fun holder => gone holder.dn

/-- `reanchorGroup`: a renamed entry keeps its row, and the collisions of the move end. -/
def reanchorGroup (target : PosixGroup) (g : NSSGroup) (now : Int) :
    SheetTx groupTable (Written Unit) := do
  let s ← get
  let resolved := s.collisions.select fun k =>
    (k.holderID == target.id && k.otherDN == g.dn) || k.otherDN == target.dn
  deleteCollisions resolved
  let updated ← updateGroup target.id g now
  pure ⟨some updated.1, updated.2, false, some resolved⟩

/-- `writeGroup`: as for accounts, and a renamed group is found by its gid. -/
def writeGroup (settings : Settings) (g : NSSGroup) (contenders : List NSSGroup)
    (gone : Option (String → Bool)) (now : Int) (newID : String) :
    SheetTx groupTable (Written Unit) := do
  let s ← get
  match s.matchRow settings g.ref with
  | some row =>
    let updated ← updateGroup row.id g now
    pure ⟨some updated.1, updated.2, false, none⟩
  | none =>
    match renameTarget settings s g contenders gone with
    | some target => reanchorGroup target g now
    | none => writeNew g.ref (insertGroup newID g now) now

/-! ## Collisions -/

/-- The rows some collisions name (`markAffected`). -/
def named (pairs : List NSSCollision) : List String :=
  pairs.flatMap fun p => p.holderID :: p.otherID.toList

/-- Whether a collision names a row. -/
def NSSCollision.names (k : NSSCollision) (id : String) : Bool :=
  k.holderID == id || k.otherID == some id

/-- The order of `ORDER BY kind, other_dn`. -/
def NSSCollision.before (a b : NSSCollision) : Bool :=
  match a.kind, b.kind with
  | .number, .name => true
  | .name, .number => false
  | _, _ => decide (a.otherDN ≤ b.otherDN)

/-- `withheldReason`, for a row its collisions name. -/
def withheldReason (s : Sheet t) (id : String) (pairs : List NSSCollision) : String :=
  match pairs with
  | [] => ""
  | p :: more =>
    let what := (if p.kind = .number then t.numberColumn else "name") ++ " " ++ p.value
    let reason :=
      if p.holderID = id then what ++ " is also carried by " ++ p.otherDN
      else
        let holderDN :=
          match s.first fun row => row.id == p.holderID with
          | some holder => if holder.dn = "" then "another " ++ t.label else holder.dn
          | none => "another " ++ t.label
        "the directory gives this entry " ++ what ++ ", which " ++ holderDN ++ " holds"
    if more.isEmpty then reason
    else reason ++ " (and " ++ toString more.length ++ " more)"

/-- `recomputeWithheld`, for one row: withheld while a collision names it. -/
def recomputeRow (now : Int) (id : String) : SheetTx t PUnit := do
  let s ← get
  let pairs := (s.collisions.select (·.names id)).insertionSort fun a b => a.before b = true
  if pairs.isEmpty then
    updateRows (fun row => row.id == id && row.withheldAt.isSome) fun row =>
      { row with withheldAt := none, withheldReason := "", updatedAt := now }
  else
    updateRows (fun row => row.id == id) fun row =>
      { row with
        withheldAt := some (row.withheldAt.getD now)
        withheldReason := withheldReason s id pairs }

/-- `recomputeWithheld`.  What it does to a row does not depend on the order of `ids`. -/
def recomputeWithheld (ids : List String) (now : Int) : SheetTx t PUnit :=
  ids.forM (recomputeRow now)

/-- `pruneStaleHolds`: delete the collisions a row holds over a value it no longer has. -/
def pruneStaleHolds (row : PosixRow α) : SheetTx t (List NSSCollision) := do
  let s ← get
  let stale := s.collisions.select fun k =>
    k.holderID == row.id &&
      match k.kind with
      | .number => k.value != toString row.number
      | .name => k.value != row.name
  deleteCollisions stale
  pure stale

/-- `pruneStaleHolds`, of the row of an entry that was not refused. -/
def pruneStored (stored : Option (PosixRow α)) : SheetTx t (List NSSCollision) :=
  match stored with
  | some row => pruneStaleHolds row
  | none => pure []

/-- The collision over one value that an entry `e`, stored as `stored`, shares with an entry
`c`, stored as `cRow`.  A third row that holds the value is no collision between the two. -/
def sharedPair (s : Sheet t) (e c : NSSEntryRef) (stored cRow : Option (PosixRow α)) (now : Int)
    (kind : NSSCollisionKind) (holds : PosixRow α → Bool) (value : String) : List NSSCollision :=
  match s.holderOf holds "" with
  | none => []
  | some holder =>
    if stored.map (·.id) = some holder.id then
      [collisionOf kind holder.id c value (cRow.map (·.id)) now]
    else if cRow.map (·.id) = some holder.id then
      [collisionOf kind holder.id e value (stored.map (·.id)) now]
    else []

/-- `contenderPairs`: the collisions between an entry and one other that carries its number
or its name. -/
def contenderPairs (settings : Settings) (s : Sheet t) (e : NSSEntryRef)
    (stored : Option (PosixRow α)) (now : Int) (c : NSSEntryRef) : List NSSCollision :=
  let cRow := s.matchRow settings c
  if cRow.isSome ∧ cRow.map (·.id) = stored.map (·.id) then []
  else
    (if c.number = e.number then
      sharedPair s e c stored cRow now .number (fun row => row.number == e.number) (toString e.number)
      else []) ++
    (if c.name = e.name then
      sharedPair s e c stored cRow now .name (fun row => row.name == e.name) e.name
      else [])

/-- `uniqueCollisions`: repeats of a primary key are dropped, the first is kept. -/
def uniqueCollisions : List NSSCollision → List NSSCollision
  | [] => []
  | p :: rest => p :: (uniqueCollisions rest).filter fun q => !decide (q.SameKey p)

/-- `staleCollisions`: the stored collisions a read shows to be over. -/
def staleCollisions (settings : Settings) (s : Sheet t) (e : NSSEntryRef)
    (pairs : List NSSCollision) (complete : NSSKinds) (seen : List String) : List NSSCollision :=
  s.collisions.select fun k =>
    (k.otherDN == e.dn || (k.kind == .number && k.value == toString e.number) ||
      (k.kind == .name && k.value == e.name)) &&
    !(pairs.any fun p => decide (k.SameKey p)) && complete.has k.kind &&
    (settings.text.equalFold k.otherDN e.dn || !seen.contains (settings.text.toLower k.otherDN))

/-- The collisions a read saw for an entry. -/
def observedPairs (settings : Settings) (s : Sheet t) (e : NSSEntryRef)
    (stored : Option (PosixRow α)) (contended : List NSSCollision) (contenders : List NSSEntryRef)
    (now : Int) : List NSSCollision :=
  uniqueCollisions <| contended ++
    (contenders.filter fun c => !settings.text.equalFold c.dn e.dn).flatMap
      (contenderPairs settings s e stored now)

/-- The row itself is recomputed if it was withheld. -/
def withheldBefore (stored : Option (PosixRow α)) : List String :=
  (stored.filter (·.withheldAt.isSome)).toList.map (·.id)

/-- `recordCollisions`: what the entry collides with now, and who is withheld for it. -/
def recordCollisions (settings : Settings) (e : NSSEntryRef) (stored : Option (PosixRow α))
    (contended : List NSSCollision) (contenders : List NSSEntryRef) (complete : NSSKinds)
    (now : Int) : SheetTx t (List NSSCollision) := do
  let s ← get
  let pairs := observedPairs settings s e stored contended contenders now
  let pruned ← pruneStored stored
  let s' ← get
  let seen := (e :: contenders).map fun c => settings.text.toLower c.dn
  let stale := staleCollisions settings s' e pairs complete seen
  deleteCollisions stale
  pairs.forM upsertCollision
  recomputeWithheld (withheldBefore stored ++ named pruned ++ named stale ++ named pairs) now
  pure pairs

/-! ## Accounts -/

/-- `nssStoredAccount` and `nssStoredGroup`: the row as stored, unless the entry was
refused, and the collisions the store saw. -/
structure Stored (α : Type) where
  row : Option (PosixRow α)
  created : Bool
  observed : List NSSCollision

/-- The row a write stored, as it is once the collisions are recorded. -/
def reread (stored : Option (PosixRow α)) : SheetTx t (Option (PosixRow α)) :=
  match stored with
  | none => pure none
  | some row => do
    let current ← firstByID row.id
    pure (some current)

/-- The transaction of `storeAccount`. -/
def storeAccount (settings : Settings) (a : NSSAccount) (disabled : Bool)
    (contenders : List NSSAccount) (complete : NSSKinds) (now : Int) (newID : String) :
    SheetTx accountTable (Stored AccountColumns) := do
  let written ← writeAccount settings a disabled now newID
  let observed ← recordCollisions settings a.ref written.stored written.contended
    (contenders.map (·.ref)) complete now
  let row ← reread written.stored
  pure ⟨row, written.created, observed⟩

/-! ## Members -/

/-- A stored account as the member index has it. -/
structure IndexRow where
  uid : Nat
  name : String
  dn : String
deriving DecidableEq

/-- `nssMemberIndex`.  Of two accounts under one key the later one counts. -/
structure NSSMemberIndex where
  dns : Bool
  rows : List IndexRow
deriving DecidableEq

/-- `loadMemberIndex`. -/
def loadMemberIndex (settings : Settings) (d : Directory) : NSSMemberIndex :=
  ⟨settings.membersAreDNs, d.accounts.rows.rows.map fun row => ⟨row.number, row.name, row.dn⟩⟩

/-- The account a member value stands for. -/
def NSSMemberIndex.lookup (text : DNText) (index : NSSMemberIndex) (member : String) : Option Nat :=
  let wanted (row : IndexRow) : Bool :=
    if index.dns then
      row.dn != "" && text.normalizeDN row.dn == text.normalizeDN (text.memberDN member)
    else row.name == member
  (index.rows.reverse.find? wanted).map (·.uid)

/-- `resolve`: the sorted, distinct uids of the members that are stored accounts. -/
def NSSMemberIndex.resolve (text : DNText) (index : NSSMemberIndex) (members : List String) :
    List Nat :=
  (members.filterMap (index.lookup text)).dedup.insertionSort (· ≤ ·)

/-- `memberAddedAt`. -/
def memberAddedAt (importing : Bool) (now : Int) : Option Int := if importing then none else some now

/-- `nssMemberDelta`: how the members of one group change, both lists sorted. -/
structure NSSMemberDelta where
  added : List Nat
  removed : List Nat

/-- The uids of a group in the first memberships and not in the second, sorted. -/
def onlyIn (gid : Nat) (these those : List (Nat × Nat)) : List Nat :=
  ((these.filter fun m => m.1 == gid && !those.contains m).map Prod.snd).dedup.insertionSort (· ≤ ·)

/-- `memberDeltas`: the change of each group whose members differ, sorted by gid. -/
def memberDeltas (before after : List (Nat × Nat)) : List (Nat × NSSMemberDelta) :=
  ((((before ++ after).map Prod.fst).dedup.insertionSort (· ≤ ·)).map fun gid =>
    (gid, ⟨onlyIn gid after before, onlyIn gid before after⟩)).filter fun delta =>
      !(delta.2.added.isEmpty && delta.2.removed.isEmpty)

/-- The memberships that come. -/
def addedIn (deltas : List (Nat × NSSMemberDelta)) : List (Nat × Nat) :=
  deltas.flatMap fun delta => delta.2.added.map fun uid => (delta.1, uid)

/-- `applyMemberDeltas`: the removed members go, group by group, and then the added ones come.  A
membership that stays is not touched.  Within one transaction a list is written in batches as it
is written at once. -/
def applyMemberDeltas (deltas : List (Nat × NSSMemberDelta)) (addedAt : Option Int) :
    DirectoryTx PUnit := do
  deltas.forM fun delta =>
    deleteMembers fun m => m.gid == delta.1 && delta.2.removed.contains m.uid
  (addedIn deltas).forM fun m => insertMember ⟨m.1, m.2, addedAt⟩

section Deltas

open List

theorem mem_onlyIn {gid uid : Nat} {these those : List (Nat × Nat)} :
    uid ∈ onlyIn gid these those ↔ (gid, uid) ∈ these ∧ (gid, uid) ∉ those := by
  simp [onlyIn]

theorem onlyIn_isEmpty {gid : Nat} {these those : List (Nat × Nat)} :
    (onlyIn gid these those).isEmpty = true ↔ ∀ uid, (gid, uid) ∈ these → (gid, uid) ∈ those := by
  simp only [List.isEmpty_iff, eq_nil_iff_forall_not_mem, mem_onlyIn, not_and, not_not]

variable {before after : List (Nat × Nat)}

/-- There is one delta for each group whose members differ. -/
theorem mem_memberDeltas {gid : Nat} {delta : NSSMemberDelta} :
    (gid, delta) ∈ memberDeltas before after ↔
      delta = ⟨onlyIn gid after before, onlyIn gid before after⟩ ∧
        ∃ uid, ¬((gid, uid) ∈ before ↔ (gid, uid) ∈ after) := by
  have unchanged : ((onlyIn gid after before).isEmpty && (onlyIn gid before after).isEmpty) = true ↔
      ∀ uid, (gid, uid) ∈ before ↔ (gid, uid) ∈ after := by
    rw [Bool.and_eq_true, onlyIn_isEmpty, onlyIn_isEmpty, ← forall_and]
    exact forall_congr' fun uid => and_comm.trans iff_def.symm
  rw [← not_forall, ← unchanged, memberDeltas, mem_filter, mem_map]
  constructor
  · rintro ⟨⟨_, -, same⟩, differs⟩
    obtain ⟨rfl, rfl⟩ := Prod.mk.inj same
    exact ⟨rfl, by rwa [Bool.not_eq_true', ← Bool.not_eq_true] at differs⟩
  · rintro ⟨rfl, differs⟩
    refine ⟨⟨gid, ?_, rfl⟩, by rwa [Bool.not_eq_true', ← Bool.not_eq_true]⟩
    rw [mem_insertionSort, mem_dedup]
    by_contra absent
    have absent : ∀ uid, (gid, uid) ∉ before ∧ (gid, uid) ∉ after := by
      simpa [not_or, forall_and] using absent
    exact differs (unchanged.mpr fun uid => iff_of_false (absent uid).1 (absent uid).2)

theorem mem_addedIn {k : Nat × Nat} :
    k ∈ addedIn (memberDeltas before after) ↔ k ∈ after ∧ k ∉ before := by
  rw [addedIn, mem_flatMap]
  constructor
  · rintro ⟨⟨gid, delta⟩, listed, member⟩
    obtain ⟨rfl, -⟩ := mem_memberDeltas.mp listed
    obtain ⟨uid, added, rfl⟩ := mem_map.mp member
    exact mem_onlyIn.mp added
  · rintro ⟨wanted, new⟩
    exact ⟨(k.1, _), mem_memberDeltas.mpr ⟨rfl, k.2, fun same => new (same.mpr wanted)⟩,
      mem_map.mpr ⟨k.2, mem_onlyIn.mpr ⟨wanted, new⟩, rfl⟩⟩

end Deltas

/-- `readMembers`. -/
def Directory.readMembers (d : Directory) (p : PosixGroupMember → Bool) : List (Nat × Nat) :=
  (d.members.select p).map fun m => (m.gid, m.uid)

/-- `replaceGroupMembers`: the memberships of a group are made exactly `uids`. -/
def replaceGroupMembers (gid : Nat) (uids : List Nat) (created : Bool) (addedAt : Option Int) :
    DirectoryTx PUnit := do
  let after := uids.dedup.map fun uid => (gid, uid)
  if created then
    -- rows under the gid of a new group are left over from an earlier holder
    deleteMembers fun m => m.gid == gid
    applyMemberDeltas (memberDeltas [] after) addedAt
  else
    let d ← get
    applyMemberDeltas (memberDeltas (d.readMembers fun m => m.gid == gid) after) addedAt

/-- The last transaction of `storeMembershipsOf`: the memberships of an account are made
exactly `gids`. -/
def replaceMembershipsOf (uid : Nat) (gids : List Nat) (addedAt : Option Int) :
    DirectoryTx PUnit := do
  let d ← get
  let after := gids.dedup.map fun gid => (gid, uid)
  applyMemberDeltas (memberDeltas (d.readMembers fun m => m.uid == uid) after) addedAt

/-! ## Groups -/

/-- `finishGroupRename`: the rows a re-anchoring released. -/
def finishGroupRename (resolved : Option (List NSSCollision)) (now : Int) :
    SheetTx groupTable PUnit :=
  match resolved with
  | some resolved => recomputeWithheld (named resolved) now
  | none => pure ⟨⟩

/-- `storeGroupTx` up to the members. -/
def storeGroupRow (settings : Settings) (g : NSSGroup) (contenders : List NSSGroup)
    (complete : NSSKinds) (gone : Option (String → Bool)) (now : Int) (newID : String) :
    SheetTx groupTable (Stored Unit) := do
  let written ← writeGroup settings g contenders gone now newID
  let observed ← recordCollisions settings g.ref written.stored written.contended
    (contenders.map (·.ref)) complete now
  let row ← reread written.stored
  finishGroupRename written.resolved now
  pure ⟨row, written.created, observed⟩

/-- The members of a stored group.  Without an index they are left as they are. -/
def storeMembers (settings : Settings) (g : NSSGroup) (index : Option NSSMemberIndex)
    (importing : Bool) (now : Int) (stored : Stored Unit) : DirectoryTx PUnit :=
  match stored.row, index with
  | some row, some index =>
    replaceGroupMembers row.number (index.resolve settings.text g.members) stored.created
      (memberAddedAt importing now)
  | _, _ => pure ⟨⟩

/-- `storeGroupTx`: the row, and its members where they are known. -/
def storeGroup (settings : Settings) (g : NSSGroup) (contenders : List NSSGroup)
    (complete : NSSKinds) (index : Option NSSMemberIndex) (gone : Option (String → Bool))
    (importing : Bool) (now : Int) (newID : String) : DirectoryTx (Stored Unit) := do
  let stored ← onGroups (storeGroupRow settings g contenders complete gone now newID)
  storeMembers settings g index importing now stored
  pure stored

end Ssoossh.NSS
