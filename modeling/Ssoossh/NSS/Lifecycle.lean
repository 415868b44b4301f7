import Ssoossh.Lib.GoTime
import Ssoossh.NSS.Store

/-!
# What happens to a stored row later

The transactions on rows that are already stored: an administrator accepts a number
(`server/service/nss_admin.go`), a full run marks and tombstones what it did not see
and forgets the collisions it did not see again (`server/service/nss_sync.go`), a
tombstone is purged (`server/service/nss_purge.go`), a login is linked
(`server/service/nss_link.go`), and the mail about a pending number is claimed
(`server/service/nss_pendingmail.go`).

Several of them are given a row that was read in an earlier transaction, and use no
more of it than its id and its number as they were then (`RowRef`).
-/

namespace Ssoossh.NSS

open Relational Transactional GoTime

variable {α : Type} {t : NSSTable α}

/-- A row as an earlier read had it. -/
structure RowRef where
  id : String
  number : Nat
  dn : String
deriving DecidableEq

/-- The row as it is now. -/
def PosixRow.rowRef (row : PosixRow α) : RowRef := ⟨row.id, row.number, row.dn⟩

/-! ## Accepting a number -/

/-- `releaseHolds`: collisions of numbers or names a row no longer has are over. -/
def releaseHolds (row : PosixRow α) (now : Int) : SheetTx t PUnit := do
  let pruned ← pruneStaleHolds row
  recomputeWithheld (row.id :: named pruned) now

/-- The refusal of a number another row holds. -/
def heldBy (t : NSSTable α) (number : Nat) (holder : PosixRow α) : Failure :=
  .conflict (t.numberColumn ++ " " ++ toString number ++ " is held by the NSS " ++ t.label ++ " " ++
    holder.name ++ " (" ++ holder.dn ++ "); a tombstone keeps its " ++ t.numberColumn ++
    " until it is purged")

/-- There is nothing to accept. -/
def nothingPending (t : NSSTable α) (number : Nat) : Failure :=
  .notFound ("pending id change for the NSS " ++ t.label ++ " with " ++ t.numberColumn ++ " " ++
    toString number)

/-- `rekeyAccount`. -/
def rekeyAccount (row : PosixUser) (newUID : Nat) : DirectoryTx PUnit := do
  let d ← get
  match d.accounts.holderOf (fun other => other.number == newUID) row.id with
  | some holder => throw (heldBy accountTable newUID holder)
  | none =>
    deleteMembers fun m => m.uid == newUID
    updateMembers (fun m => m.uid == row.number) fun m => { m with uid := newUID }

/-- The memberships of an account follow its number if it changes. -/
def moveMemberships (row : PosixUser) (newUID : Nat) : DirectoryTx PUnit :=
  if newUID = row.number then pure ⟨⟩ else rekeyAccount row newUID

/-- What accepting makes of an account. -/
def acceptedAccount (now : Int) (row : PosixUser) : PosixUser :=
  { row with
    number := row.pendingNumber.getD row.number
    pendingNumber := none
    pendingSince := none
    pendingNotifiedAt := none
    updatedAt := now
    own := { row.own with
      gid := row.own.pendingGID.or row.own.gid
      pendingGID := none } }

/-- `acceptUserTx`: the pending numbers become the account's, and its memberships follow. -/
def acceptUser (uid : Nat) (now : Int) : DirectoryTx PosixUser := do
  let d ← get
  match d.accounts.first fun row => row.number == uid with
  | none => throw (nothingPending accountTable uid)
  | some row =>
    if row.pendingNumber.isNone && row.own.pendingGID.isNone then
      throw (nothingPending accountTable uid)
    else
      moveMemberships row (row.pendingNumber.getD row.number)
      onAccounts (updateRows (fun other => other.id == row.id) (acceptedAccount now))
      let accepted ← onAccounts (firstByID row.id)
      onAccounts (releaseHolds accepted now)
      pure accepted

/-- `rekeyGroup`: memberships and primary groups follow the group to its new number. -/
def rekeyGroup (oldGID newGID : Nat) (now : Int) : DirectoryTx PUnit := do
  deleteMembers fun m => m.gid == newGID
  updateMembers (fun m => m.gid == oldGID) fun m => { m with gid := newGID }
  onAccounts (updateRows (fun row => row.own.gid == some oldGID) fun row =>
    { row with own := { row.own with gid := some newGID }, updatedAt := now })
  onAccounts (updateRows
    (fun row => row.own.gid == some newGID && row.own.pendingGID == some newGID) fun row =>
    { row with own := { row.own with pendingGID := none } })
  onAccounts (updateRows
    (fun row => row.pendingNumber.isNone && row.own.pendingGID.isNone && row.pendingSince.isSome)
    fun row => { row with pendingSince := none, pendingNotifiedAt := none })

/-- What accepting makes of a group. -/
def acceptedGroup (now : Int) (row : PosixGroup) : PosixGroup :=
  { row with
    number := row.pendingNumber.getD row.number
    pendingNumber := none
    pendingSince := none
    pendingNotifiedAt := none
    updatedAt := now }

/-- The transaction of `AcceptGroupIDChange`. -/
def acceptGroup (gid : Nat) (now : Int) : DirectoryTx PosixGroup := do
  let d ← get
  match d.groups.first fun row => row.number == gid with
  | none => throw (nothingPending groupTable gid)
  | some row =>
    match row.pendingNumber with
    | none => throw (nothingPending groupTable gid)
    | some newGID =>
      match d.groups.holderOf (fun other => other.number == newGID) row.id with
      | some holder => throw (heldBy groupTable newGID holder)
      | none =>
        rekeyGroup row.number newGID now
        onGroups (updateRows (fun other => other.id == row.id) (acceptedGroup now))
        let accepted ← onGroups (firstByID row.id)
        onGroups (releaseHolds accepted now)
        pure accepted

/-! ## Missing rows -/

/-- The rows of the first transaction of `markMissing`. -/
def Sheet.unseen (s : Sheet t) (start : Int) : List (PosixRow α) :=
  s.refs fun row => decide (row.lastSyncedAt < start) && row.missingSince.isNone

/-- The first transaction of `markMissing`. -/
def markMissing (start now : Int) : SheetTx t PUnit := do
  let s ← get
  let ids := (s.unseen start).map (·.id)
  updateRows (fun row => ids.contains row.id && row.missingSince.isNone) fun row =>
    { row with missingSince := some now, updatedAt := now }

/-- Whether a row is due to be tombstoned, for a run that began at `start`. -/
def PosixRow.due (start cutoff : Int) (row : PosixRow α) : Bool :=
  decide (row.lastSyncedAt < start) && row.deletedAt.isNone &&
    row.missingSince.any fun since => decide (since ≤ cutoff)

/-- The rows `markMissing` finds due. -/
def Sheet.dueRows (s : Sheet t) (start cutoff : Int) : List RowRef :=
  (s.refs fun row => row.due start cutoff).map (·.rowRef)

/-- The row of `tombstone`. -/
def tombstoneRow (id : String) (now : Int) : SheetTx t PUnit :=
  updateRows (fun row => row.id == id && row.deletedAt.isNone) fun row =>
    { row with deletedAt := some now, updatedAt := now }

/-- `tombstone`, of an account. -/
def tombstoneAccount (row : RowRef) (now : Int) : DirectoryTx PUnit :=
  onAccounts (tombstoneRow row.id now)

/-- `tombstone`, of a group: it loses the memberships under the number that was read. -/
def tombstoneGroup (row : RowRef) (now : Int) : DirectoryTx PUnit := do
  onGroups (tombstoneRow row.id now)
  deleteMembers fun m => m.gid == row.number

/-- `sweepCollisions`: a collision no run has seen since `start` is over. -/
def sweepCollisions (start now : Int) : SheetTx t PUnit := do
  let s ← get
  let stale := s.collisions.select fun k => decide (k.lastSeenAt < start)
  if stale.isEmpty then pure ⟨⟩
  else
    deleteCollisions stale
    recomputeWithheld (named stale) now

/-! ## Purging -/

/-- The tombstones `PurgeTombstones` finds. -/
def Sheet.expired (s : Sheet t) (cutoff : Int) : List RowRef :=
  (s.rows.select fun row => row.deletedAt.any fun deleted => decide (deleted ≤ cutoff)).map
    (·.rowRef)

/-- The tombstone `PurgeUserTombstone` and `PurgeGroupTombstone` find. -/
def Sheet.tombstoned (s : Sheet t) (number : Nat) : Option RowRef :=
  (s.first fun row => row.number == number && row.deletedAt.isSome).map (·.rowRef)

/-- There is no tombstone to purge. -/
def noTombstone (t : NSSTable α) (number : Nat) : Failure :=
  .notFound ("tombstoned NSS " ++ t.label ++ " with " ++ t.numberColumn ++ " " ++ toString number)

/-- `dropCollisionsOf`. -/
def dropCollisionsOf (id : String) (now : Int) : SheetTx t PUnit := do
  let s ← get
  let pairs := s.collisions.select (·.names id)
  deleteCollisions pairs
  recomputeWithheld ((named pairs).filter (· != id)) now

/-- The row of a purge. -/
def purgeRow (row : RowRef) : SheetTx t PUnit := do
  let affected ← deleteRows fun other => other.id == row.id && other.deletedAt.isSome
  if affected then pure ⟨⟩ else throw (noTombstone t row.number)

/-- `purgeAccount`. -/
def purgeAccount (row : RowRef) (now : Int) : DirectoryTx PUnit := do
  onAccounts (purgeRow row)
  deleteMembers fun m => m.uid == row.number
  onAccounts (dropCollisionsOf row.id now)

/-- `purgeGroup`. -/
def purgeGroup (row : RowRef) (now : Int) : DirectoryTx PUnit := do
  onGroups (purgeRow row)
  deleteMembers fun m => m.gid == row.number
  onGroups (dropCollisionsOf row.id now)

/-! ## Linking a login -/

/-- `loginRow`: the stored account of a person's entry. -/
def Sheet.loginRow (s : Sheet accountTable) (directoryID dn : String) : Option PosixUser :=
  let byID := if directoryID = "" then none else s.first fun row => row.directoryID == directoryID
  let byDN := if dn = "" then none else s.first fun row => row.dn == dn
  byID.or byDN

/-- The account another row has linked to a person. -/
def Sheet.linkedElsewhere (s : Sheet accountTable) (userID id : String) : Option PosixUser :=
  s.first fun row => row.own.userID == some userID && row.id != id

/-- The update of `link`, answering whether the row is now linked. -/
def linkRow (id userID : String) (now : Int) : SheetTx accountTable Bool := do
  let s ← get
  let free (row : PosixUser) : Bool := row.id == id && row.own.userID.isNone
  updateRows free fun row =>
    { row with own := { row.own with userID := some userID }, updatedAt := now }
  pure (s.rows.rows.any free)

/-! ## Mail about pending numbers -/

/-- `pendingRows`, of those not yet mailed. -/
def Sheet.unmailed (s : Sheet t) : List (PosixRow α) :=
  s.rows.select fun row => row.pendingSince.isSome && row.pendingNotifiedAt.isNone

/-- `claimPendingRows`, for one row whose pending numbers were `same` when it was read. -/
def claimRow (id : String) (same : PosixRow α → Bool) (now : Int) : SheetTx t Bool := do
  let s ← get
  let unclaimed (row : PosixRow α) : Bool := row.id == id && row.pendingNotifiedAt.isNone && same row
  updateRows unclaimed fun row => { row with pendingNotifiedAt := some now }
  pure (s.rows.rows.any unclaimed)

/-- `claimPendingRows`, for an account. -/
def claimAccount (read : PosixUser) (now : Int) : SheetTx accountTable Bool :=
  claimRow read.id (fun row => row.pendingNumber == read.pendingNumber &&
    row.own.pendingGID == read.own.pendingGID) now

/-- `claimPendingRows`, for a group. -/
def claimGroup (read : PosixGroup) (now : Int) : SheetTx groupTable Bool :=
  claimRow read.id (fun row => row.pendingNumber == read.pendingNumber) now

end Ssoossh.NSS
