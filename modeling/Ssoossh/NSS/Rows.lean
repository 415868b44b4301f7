import Ssoossh.Lib.Constrained
import Ssoossh.Lib.Transaction

/-!
# The tables of the NSS directory

The rows of `posix_users`, `posix_groups`, `posix_group_members` and `nss_collisions`
(`server/model/posix.go` and the migration `20261017120000_nss_directory`), with their
unique indexes as a part of the tables, and the statements the service runs on them.

Accounts and groups are two tables of one shape.  The columns they share are the
fields of a `PosixRow`, with the uid or the gid as its `number`, and the columns that
only accounts have are its `own` part.  The code that works on either table is given
an `NSSTable` that says which, as in the source.

Every statement on `nss_collisions` names the kinds of one of the two tables, so the
collisions are kept with the table their rows belong to, and a kind is only a number
or a name.
-/

namespace Ssoossh.NSS

open Relational Transactional

/-! ## Settings and entries -/

/-- `AutoPrivateGroupsMode`: `"hybrid"`, `"true"` and `"false"`. -/
inductive AutoPrivateGroupsMode
  | hybrid
  | on
  | off
deriving DecidableEq

/-- The text functions on distinguished names: `strings.EqualFold`, `strings.ToLower`,
`normalizeDN` and `memberDN`. -/
structure DNText where
  equalFold : String → String → Bool
  toLower : String → String
  normalizeDN : String → String
  memberDN : String → String
  equalFold_refl : ∀ text, equalFold text text = true

/-- The configuration of an instance, as far as the directory service reads it. -/
structure Settings where
  text : DNText
  /-- `ldap.id_attribute` is set. -/
  idConfigured : Bool
  autoPrivateGroups : AutoPrivateGroupsMode
  /-- `nssMembersAreDNs` of `nss.attributes.group_member`. -/
  membersAreDNs : Bool
  tombstoneAfter : Int
  tombstoneRetention : Int

/-- `nssEntryRef`: what the shared code needs of a parsed entry. -/
structure NSSEntryRef where
  dn : String
  directoryID : String
  name : String
  number : Nat
deriving DecidableEq

/-- `nssAccount`: an account entry read from the directory. -/
structure NSSAccount where
  dn : String
  directoryID : String
  name : String
  uid : Nat
  gid : Option Nat
  home : Option String
  shell : Option String
  gecos : String
deriving DecidableEq

/-- `nssGroup`: a group entry read from the directory. -/
structure NSSGroup where
  dn : String
  directoryID : String
  name : String
  gid : Nat
  members : List String
deriving DecidableEq

def NSSAccount.ref (a : NSSAccount) : NSSEntryRef := ⟨a.dn, a.directoryID, a.name, a.uid⟩

def NSSGroup.ref (g : NSSGroup) : NSSEntryRef := ⟨g.dn, g.directoryID, g.name, g.gid⟩

/-! ## Rows -/

/-- The columns `posix_users` and `posix_groups` share. -/
structure PosixRow (α : Type) where
  id : String
  /-- The uid of an account, the gid of a group. -/
  number : Nat
  name : String
  directoryID : String
  dn : String
  pendingNumber : Option Nat
  pendingSince : Option Int
  pendingNotifiedAt : Option Int
  missingSince : Option Int
  deletedAt : Option Int
  withheldAt : Option Int
  withheldReason : String
  createdAt : Int
  updatedAt : Int
  lastSyncedAt : Int
  own : α
deriving DecidableEq

/-- The columns only `posix_users` has. -/
structure AccountColumns where
  userID : Option String
  gid : Option Nat
  pendingGID : Option Nat
  home : Option String
  shell : Option String
  gecos : String
  dirDisabled : Bool
deriving DecidableEq

/-- `PosixUser`. -/
abbrev PosixUser := PosixRow AccountColumns

/-- `PosixGroup`. -/
abbrev PosixGroup := PosixRow Unit

/-- `PosixGroupMember`. -/
structure PosixGroupMember where
  gid : Nat
  uid : Nat
  addedAt : Option Int
deriving DecidableEq

/-- `NSSCollisionKind`, within the table of the rows it names: a uid or a gid, or a
user name or a group name. -/
inductive NSSCollisionKind
  | number
  | name
deriving DecidableEq

/-- `NSSCollision`. -/
structure NSSCollision where
  kind : NSSCollisionKind
  holderID : String
  otherDN : String
  value : String
  otherID : Option String
  otherName : String
  otherNumber : Nat
  firstSeenAt : Int
  lastSeenAt : Int
deriving DecidableEq

/-- The primary key of `nss_collisions`. -/
def NSSCollision.SameKey (a b : NSSCollision) : Prop :=
  a.kind = b.kind ∧ a.holderID = b.holderID ∧ a.otherDN = b.otherDN

instance : DecidableRel NSSCollision.SameKey := fun _ _ => inferInstanceAs (Decidable (_ ∧ _ ∧ _))

theorem NSSCollision.SameKey.symm {a b : NSSCollision} (h : a.SameKey b) : b.SameKey a :=
  ⟨h.1.symm, h.2.1.symm, h.2.2.symm⟩

theorem NSSCollision.SameKey.trans {a b c : NSSCollision} (h : a.SameKey b) (h' : b.SameKey c) :
    a.SameKey c :=
  ⟨h.1.trans h'.1, h.2.1.trans h'.2.1, h.2.2.trans h'.2.2⟩

/-- The primary key of `posix_group_members`. -/
def PosixGroupMember.SameKey (a b : PosixGroupMember) : Prop := a.gid = b.gid ∧ a.uid = b.uid

instance : DecidableRel PosixGroupMember.SameKey := fun _ _ => inferInstanceAs (Decidable (_ ∧ _))

/-! ## Tables -/

/-- `nssTable`, with the column of its own a unique index covers. -/
structure NSSTable (α : Type) where
  table : String
  numberColumn : String
  label : String
  linked : α → Option String

/-- `accountTable`. -/
def accountTable : NSSTable AccountColumns where
  table := "posix_users"
  numberColumn := "uid"
  label := "account"
  linked := (·.userID)

/-- `groupTable`. -/
def groupTable : NSSTable Unit where
  table := "posix_groups"
  numberColumn := "gid"
  label := "group"
  linked _ := none

variable {α : Type} {t : NSSTable α}

/-- What the unique indexes forbid: one id, number or name, one DN unless it was
released, one linked person. -/
def NSSTable.Clash (t : NSSTable α) (a b : PosixRow α) : Prop :=
  a.id = b.id ∨ a.number = b.number ∨ a.name = b.name ∨ (a.dn ≠ "" ∧ a.dn = b.dn) ∨
    (t.linked a.own ≠ none ∧ t.linked a.own = t.linked b.own)

instance (t : NSSTable α) : DecidableRel t.Clash := fun _ _ =>
  inferInstanceAs (Decidable (_ ∨ _ ∨ _ ∨ (_ ∧ _) ∨ (_ ∧ _)))

theorem NSSTable.Clash.symm {a b : PosixRow α} (h : t.Clash a b) : t.Clash b a := by
  rcases h with id | number | name | ⟨released, dn⟩ | ⟨linked, user⟩
  · exact .inl id.symm
  · exact .inr (.inl number.symm)
  · exact .inr (.inr (.inl name.symm))
  · exact .inr (.inr (.inr (.inl ⟨dn ▸ released, dn.symm⟩)))
  · exact .inr (.inr (.inr (.inr ⟨user ▸ linked, user.symm⟩)))

/-- One of the two tables, with its collisions. -/
structure Sheet (t : NSSTable α) where
  rows : Rel (PosixRow α) t.Clash
  collisions : Rel NSSCollision NSSCollision.SameKey

namespace Sheet

/-- The empty table. -/
def empty : Sheet t := ⟨.empty, .empty⟩

variable {s : Sheet t} {a b : PosixRow α}

section

variable (inA : a ∈ s.rows.rows) (inB : b ∈ s.rows.rows)
include inA inB

theorem eq_of_id (same : a.id = b.id) : a = b :=
  Rel.eq_of_clash NSSTable.Clash.symm inA inB (.inl same)

theorem eq_of_number (same : a.number = b.number) : a = b :=
  Rel.eq_of_clash NSSTable.Clash.symm inA inB (.inr (.inl same))

theorem eq_of_name (same : a.name = b.name) : a = b :=
  Rel.eq_of_clash NSSTable.Clash.symm inA inB (.inr (.inr (.inl same)))

theorem eq_of_dn (kept : a.dn ≠ "") (same : a.dn = b.dn) : a = b :=
  Rel.eq_of_clash NSSTable.Clash.symm inA inB (.inr (.inr (.inr (.inl ⟨kept, same⟩))))

end

/-- The rows in the order they were created. -/
def ordered (s : Sheet t) : List (PosixRow α) :=
  s.rows.rows.insertionSort fun a b => a.createdAt ≤ b.createdAt

variable {row : PosixRow α}

theorem mem_ordered : row ∈ s.ordered ↔ row ∈ s.rows.rows :=
  List.mem_insertionSort _

/-- `refs`: the rows matching a condition, in the order they were created. -/
def refs (s : Sheet t) (p : PosixRow α → Bool) : List (PosixRow α) := s.ordered.filter p

/-- The first of the rows matching a condition. -/
def first (s : Sheet t) (p : PosixRow α → Bool) : Option (PosixRow α) := (s.refs p).head?

theorem first_eq_find? (s : Sheet t) (p : PosixRow α → Bool) : s.first p = s.ordered.find? p := by
  rw [first, refs, List.head?_filter]

variable {p : PosixRow α → Bool}

theorem of_first (h : s.first p = some row) : row ∈ s.rows.rows ∧ p row = true := by
  rw [first_eq_find?] at h
  exact ⟨mem_ordered.mp (List.mem_of_find?_eq_some h), List.find?_some h⟩

theorem first_eq_none : s.first p = none ↔ ∀ row ∈ s.rows.rows, p row = false := by
  rw [first_eq_find?, List.find?_eq_none]
  simp only [mem_ordered, Bool.not_eq_true]

/-- The ids of the rows, in the order they were created. -/
def ids (s : Sheet t) : List String := s.ordered.map (·.id)

theorem nodup_ids (s : Sheet t) : s.ids.Nodup := by
  refine List.Nodup.map_on (fun a inA b inB same => ?_) ?_
  · exact eq_of_id (mem_ordered.mp inA) (mem_ordered.mp inB) same
  · refine (List.perm_insertionSort _ _).nodup_iff.mpr (s.rows.distinct.imp fun apart same => ?_)
    exact apart (.inl (congrArg PosixRow.id same))

/-- The first of the rows matching a condition was created before the others. -/
theorem sublist_ids_of_first {other : PosixRow α} (h : s.first p = some row)
    (stored : other ∈ s.rows.rows) (picked : p other = true) (apart : other.id ≠ row.id) :
    [row.id, other.id].Sublist s.ids := by
  rw [first_eq_find?, List.find?_eq_some_iff_append] at h
  obtain ⟨-, before, after, order, none⟩ := h
  have later : other ∈ after := by
    have member := mem_ordered.mpr stored
    rw [order, List.mem_append, List.mem_cons] at member
    rcases member with early | rfl | late
    · have skipped := none other early
      simp [picked] at skipped
    · exact (apart rfl).elim
    · exact late
  have pair : [row, other].Sublist s.ordered := by
    rw [order]
    exact ((List.singleton_sublist.mpr later).cons_cons row).trans (List.sublist_append_right _ _)
  exact pair.map PosixRow.id

end Sheet

/-- The stored directory. -/
structure Directory where
  accounts : Sheet accountTable
  groups : Sheet groupTable
  members : Rel PosixGroupMember PosixGroupMember.SameKey

/-- The directory before anything was stored. -/
def Directory.empty : Directory := ⟨.empty, .empty, .empty⟩

/-! ## Statements -/

/-- Why a transaction fails. -/
inductive Failure
  | notFound (resource : String)
  | conflict (reason : String)
  | database (reason : String)
  | wrapped (words : String) (cause : Failure)
deriving DecidableEq

/-- A transaction on one table and its collisions. -/
abbrev SheetTx (t : NSSTable α) (β : Type) := Tx (Sheet t) Failure β

/-- A transaction on the directory. -/
abbrev DirectoryTx (β : Type) := Tx Directory Failure β

def onAccounts {β : Type} (m : SheetTx accountTable β) : DirectoryTx β :=
  Tx.on (·.accounts) (fun accounts d => { d with accounts := accounts }) m

def onGroups {β : Type} (m : SheetTx groupTable β) : DirectoryTx β :=
  Tx.on (·.groups) (fun groups d => { d with groups := groups }) m

/-- A statement a unique index refuses fails the transaction. -/
def checked {σ β : Type} (result : Option β) : Tx σ Failure β :=
  match result with
  | some value => pure value
  | none => throw (.database "unique constraint failed")

/-- `UPDATE` of the rows of a table. -/
def updateRows (p : PosixRow α → Bool) (f : PosixRow α → PosixRow α) : SheetTx t PUnit := do
  let s ← get
  let rows ← checked (s.rows.update p f)
  set { s with rows := rows }

/-- `INSERT` of a row. -/
def insertRow (row : PosixRow α) : SheetTx t PUnit := do
  let s ← get
  let rows ← checked (s.rows.insert row)
  set { s with rows := rows }

/-- `DELETE` of rows, answering whether any was affected. -/
def deleteRows (p : PosixRow α → Bool) : SheetTx t Bool := do
  let s ← get
  set { s with rows := s.rows.delete p }
  pure (s.rows.rows.any p)

/-- `First` by primary key. -/
def firstByID (id : String) : SheetTx t (PosixRow α) := do
  let s ← get
  match s.first fun row => row.id == id with
  | some row => pure row
  | none => throw (.database "record not found")

/-- `deleteCollisions`. -/
def deleteCollisions (pairs : List NSSCollision) : SheetTx t PUnit := do
  let s ← get
  set { s with collisions := s.collisions.delete fun k => pairs.any fun p => decide (k.SameKey p) }

/-- What an upsert leaves of a collision that is already there. -/
def NSSCollision.seenAgain (p old : NSSCollision) : NSSCollision :=
  { old with
    value := p.value
    otherID := p.otherID
    otherName := p.otherName
    otherNumber := p.otherNumber
    lastSeenAt := p.lastSeenAt }

/-- `INSERT … ON CONFLICT (kind, holder_id, other_dn) DO UPDATE` of one collision. -/
def upsertCollision (p : NSSCollision) : SheetTx t PUnit := do
  let s ← get
  let collisions ← checked <|
    if s.collisions.rows.any fun k => decide (k.SameKey p) then
      s.collisions.update (fun k => decide (k.SameKey p)) p.seenAgain
    else s.collisions.insert p
  set { s with collisions := collisions }

/-- `DELETE` of memberships. -/
def deleteMembers (p : PosixGroupMember → Bool) : DirectoryTx PUnit :=
  modify fun d => { d with members := d.members.delete p }

/-- `UPDATE` of memberships. -/
def updateMembers (p : PosixGroupMember → Bool) (f : PosixGroupMember → PosixGroupMember) :
    DirectoryTx PUnit := do
  let d ← get
  let members ← checked (d.members.update p f)
  set { d with members := members }

/-- `INSERT` of a membership. -/
def insertMember (m : PosixGroupMember) : DirectoryTx PUnit := do
  let d ← get
  let members ← checked (d.members.insert m)
  set { d with members := members }

end Ssoossh.NSS
