import Ssoossh.Accounts.Holders
import Ssoossh.Config.Admin

/-!
# Refreshing a session

Every request of a session rebuilds what the person holds from the database
(`IdentityService.RefreshIdentity`, `server/service/identity.go`): the users row, then the
directory's say on the role groups, then the directory's values over the rest.  That takes
up to four reads, and each can fail.

A failure was meant to leave the session as it was.  The users row is written over the
session before the other reads are made, so this holds if the first read fails and, in
general, not if a later one does: `refresh_leaves_session_iff` says when it does all the
same.
-/

namespace Ssoossh.Accounts

/-! ## What is stored -/

/-- The session's view of a person. -/
structure Session where
  displayName : String := ""
  groups : List String := []
  otherAccounts : List String := []
  serviceAccounts : List String := []
  extra : Extra := []

/-- The columns of the users row that are read. -/
structure StoredUser where
  id : String
  displayName : String
  otherAccounts : String
  serviceAccounts : String
  extraFields : String
  disabled : Bool

/-- The columns of the directory row that are read. -/
structure StoredLDAP where
  dn : String
  directoryID : String
  attributes : String

/-- What the database holds about a person: the users row, the directory row, and the
groups the directory listed. -/
structure Stored where
  user : Option StoredUser
  ldap : Option StoredLDAP
  directory : List String

/-- The reads of a refresh. -/
inductive Read
  | user
  | narrowing
  | groups
  | overlay
deriving DecidableEq

/-- What a refresh reports: the account is disabled, or these reads failed. -/
inductive RefreshError
  | userDisabled
  | reads (failed : List Read)
deriving DecidableEq

/-- The directory service; it is absent where LDAP is off. -/
structure DirectoryService where
  authoritativeRoleGroups : Bool
  admin : AdminConfig

/-- `IdentityService`. -/
structure IdentityService where
  ext : Externals
  ldap : Option DirectoryService

/-! ## The directory's values -/

/-- One turn of the loop of `applyLDAPValues`. -/
def applyValue (ext : Externals) (field : String × List String) (session : Session) : Session :=
  if field.1 = "other_accounts" then { session with otherAccounts := field.2 }
  else if field.1 = "service_accounts" then { session with serviceAccounts := field.2 }
  else if field.1 = "name" then
    match field.2 with
    | [] => session
    | first :: _ => { session with displayName := first }
  else if field.1 = "groups" then session
  else
    match field.2 with
    | [only] => { session with extra := (field.1, scalarExtra ext only) :: session.extra }
    | values => { session with extra := (field.1, .list values) :: session.extra }

/-- `applyLDAPValues`.  The first value of a name is the one the map has. -/
def overlayValues (ext : Externals) (session : Session) (values : List (String × List String)) :
    Session :=
  values.foldr (applyValue ext) session

namespace IdentityService

variable (s : IdentityService) (db : Stored) (fails : Read → Bool)

/-- `authoritativeRoles`. -/
def authoritativeRoles : Bool := s.ldap.any (·.authoritativeRoleGroups)

/-- `dropRoleGroups`: where the directory decides on roles, none is left without it. -/
def dropRoleGroups (groups : List String) : List String :=
  match s.ldap with
  | none => groups
  | some ldap =>
    if ldap.authoritativeRoleGroups then ldap.admin.narrowRoleGroups groups [] else groups

/-- `NarrowRoleGroups`, and the read that failed. -/
def narrowRoleGroups (userID : String) (groups : List String) : List String × Option Read :=
  match s.ldap with
  | none => (groups, none)
  | some ldap =>
    if !ldap.authoritativeRoleGroups || userID == "" || !ldap.admin.holdsRoleGroup groups then
      (groups, none)
    else if fails .narrowing then (ldap.admin.narrowRoleGroups groups [], some .narrowing)
    else if !(db.ldap.any fun row => row.dn != "" || row.directoryID != "") then (groups, none)
    else if fails .groups then (ldap.admin.narrowRoleGroups groups [], some .groups)
    else (ldap.admin.narrowRoleGroups groups db.directory, none)

/-- `applyStored`, and the read that failed. -/
def applyStored (session : Session) (userID : String) : Session × Option Read :=
  if s.ldap.isNone || userID == "" then (session, none)
  else if fails .overlay then (session, some .overlay)
  else
    match db.ldap.bind fun row => decodeAttributes row.attributes with
    | none => (session, none)
    | some values => (overlayValues s.ext session values, none)

/-- What the users row says, over a session. -/
def ofUser (user : StoredUser) (session : Session) : Session :=
  { session with
    displayName := user.displayName
    otherAccounts := decodeStoredStringList user.otherAccounts
    serviceAccounts := decodeStoredStringList user.serviceAccounts
    extra := decodeExtraFields s.ext user.extraFields }

/-- `RefreshIdentity`: the row is written over the identity before the later reads. -/
def refreshIdentity (session : Session) : Session × Option RefreshError :=
  if fails .user then
    ({ session with groups := s.dropRoleGroups session.groups }, some (.reads [.user]))
  else
    match db.user with
    | none => (session, none)
    | some user =>
      if user.disabled then (session, some .userDisabled)
      else
        let narrowed := s.narrowRoleGroups db fails user.id session.groups
        let applied := s.applyStored db fails { s.ofUser user session with groups := narrowed.1 }
          user.id
        (applied.1,
          match narrowed.2.toList ++ applied.2.toList with
          | [] => none
          | failed => some (.reads failed))

/-! ## What a failure leaves -/

/-- Two sessions hold the same, their groups apart. -/
structure SameValues (before after : Session) : Prop where
  displayName : after.displayName = before.displayName
  otherAccounts : after.otherAccounts = before.otherAccounts
  serviceAccounts : after.serviceAccounts = before.serviceAccounts
  extra : ∀ name, after.extra.get? name = before.extra.get? name

/-- The groups are those of before, but for role groups where the directory is
authoritative for them. -/
structure KeepsGroups (before after : List String) : Prop where
  fewer : after.Sublist before
  roles : ∀ group ∈ before, group ∉ after →
    ∃ ldap ∈ s.ldap, ldap.authoritativeRoleGroups = true ∧ ldap.admin.isRoleGroup group = true

/-- One of the reads after the users row is made, and fails. -/
def LaterReadFails (user : StoredUser) (session : Session) : Prop :=
  user.id ≠ "" ∧ ∃ ldap ∈ s.ldap,
    (ldap.authoritativeRoleGroups = true ∧ ldap.admin.holdsRoleGroup session.groups = true ∧
      (fails .narrowing = true ∨
        (∃ row ∈ db.ldap, row.dn ≠ "" ∨ row.directoryID ≠ "") ∧ fails .groups = true)) ∨
    fails .overlay = true

/-- What the database says about the session, as far as it was read. -/
def readValues (user : StoredUser) (session : Session) : Session :=
  match if fails .overlay then none else db.ldap.bind fun row => decodeAttributes row.attributes with
  | none => s.ofUser user session
  | some values => overlayValues s.ext (s.ofUser user session) values

variable {s db fails}

theorem applyValue_groups (ext : Externals) (field : String × List String) (session : Session)
    (groups : List String) :
    applyValue ext field { session with groups } =
      { applyValue ext field session with groups } := by
  unfold applyValue
  split_ifs
  · rfl
  · rfl
  · cases field.2 <;> rfl
  · rfl
  · split <;> simp_all

/-- The overlay neither reads nor writes the groups. -/
theorem overlayValues_groups (ext : Externals) (session : Session) (groups : List String)
    (values : List (String × List String)) :
    overlayValues ext { session with groups } values =
      { overlayValues ext session values with groups } := by
  induction values with
  | nil => rfl
  | cons field values ih =>
    rw [overlayValues, List.foldr_cons]
    rw [overlayValues] at ih
    rw [ih, applyValue_groups]
    rfl

/-- Narrowing keeps the groups that are no role groups. -/
theorem keepsGroups_narrow {ldap : DirectoryService} (configured : s.ldap = some ldap)
    (on : ldap.authoritativeRoleGroups = true) (groups directory : List String) :
    s.KeepsGroups groups (ldap.admin.narrowRoleGroups groups directory) := by
  refine ⟨AdminConfig.narrowRoleGroups_sublist groups directory, ?_⟩
  intro group member gone
  refine ⟨ldap, configured, on, ?_⟩
  by_contra ordinary
  rw [Bool.not_eq_true] at ordinary
  refine gone (List.mem_filter.mpr ⟨member, ?_⟩)
  rw [ordinary]
  rfl

theorem keepsGroups_refl (groups : List String) : s.KeepsGroups groups groups :=
  ⟨List.Sublist.refl _, fun _ member gone => absurd member gone⟩

theorem keepsGroups_dropRoleGroups (groups : List String) :
    s.KeepsGroups groups (s.dropRoleGroups groups) := by
  unfold dropRoleGroups
  split
  · exact keepsGroups_refl groups
  · next ldap configured =>
    split_ifs with on
    · exact keepsGroups_narrow configured on groups []
    · exact keepsGroups_refl groups

theorem keepsGroups_narrowRoleGroups (userID : String) (groups : List String) :
    s.KeepsGroups groups (s.narrowRoleGroups db fails userID groups).1 := by
  unfold narrowRoleGroups
  split
  · exact keepsGroups_refl groups
  · next ldap configured =>
    split_ifs with skipped
    · exact keepsGroups_refl groups
    all_goals
      have on : ldap.authoritativeRoleGroups = true := by
        by_contra off
        simp [off] at skipped
      first
        | exact keepsGroups_narrow configured on groups _
        | exact keepsGroups_refl groups

/-- When a read of the narrowing fails. -/
theorem narrowing_fails_iff (userID : String) (groups : List String) :
    (s.narrowRoleGroups db fails userID groups).2 ≠ none ↔
      userID ≠ "" ∧ ∃ ldap ∈ s.ldap, ldap.authoritativeRoleGroups = true ∧
        ldap.admin.holdsRoleGroup groups = true ∧
        (fails .narrowing = true ∨
          (∃ row ∈ db.ldap, row.dn ≠ "" ∨ row.directoryID ≠ "") ∧ fails .groups = true) := by
  have linked : (db.ldap.any fun row => row.dn != "" || row.directoryID != "") = true ↔
      ∃ row ∈ db.ldap, row.dn ≠ "" ∨ row.directoryID ≠ "" := by
    simp [Option.any_eq_true]
  unfold narrowRoleGroups
  rw [← linked]
  cases s.ldap with
  | none => simp
  | some ldap =>
    by_cases unnamed : userID = ""
    · simp [unnamed]
    · cases on : ldap.authoritativeRoleGroups <;> cases holds : ldap.admin.holdsRoleGroup groups <;>
        cases fails .narrowing <;> cases fails .groups <;>
        cases (db.ldap.any fun row => row.dn != "" || row.directoryID != "") <;>
        simp [unnamed, on, holds]

/-- When the read of the overlay fails. -/
theorem overlay_fails_iff (session : Session) (userID : String) :
    (s.applyStored db fails session userID).2 ≠ none ↔
      userID ≠ "" ∧ ∃ ldap ∈ s.ldap, fails .overlay = true := by
  unfold applyStored
  cases s.ldap with
  | none => simp
  | some =>
    by_cases unnamed : userID = ""
    · simp [unnamed]
    · cases fails .overlay with
      | true => simp [unnamed]
      | false => cases db.ldap.bind fun row => decodeAttributes row.attributes <;> simp [unnamed]

/-- A refresh of an account that is found and enabled reports an error exactly if a later
read fails. -/
theorem reports_iff (db : Stored) (user : StoredUser) (session applied : Session) :
    (s.narrowRoleGroups db fails user.id session.groups).2.toList ++
        (s.applyStored db fails applied user.id).2.toList ≠ [] ↔
      s.LaterReadFails db fails user session := by
  have either {a b : Option Read} : a.toList ++ b.toList ≠ [] ↔ a ≠ none ∨ b ≠ none := by
    cases a <;> cases b <;> simp
  rw [either, narrowing_fails_iff, overlay_fails_iff, ← and_or_left, LaterReadFails]
  refine and_congr_right fun _ => ?_
  constructor
  · rintro (⟨ldap, configured, fails⟩ | ⟨ldap, configured, fails⟩)
    · exact ⟨ldap, configured, .inl fails⟩
    · exact ⟨ldap, configured, .inr fails⟩
  · rintro ⟨ldap, configured, fails | fails⟩
    · exact .inl ⟨ldap, configured, fails⟩
    · exact .inr ⟨ldap, configured, fails⟩

/-- What the last step makes of the session, where there is a directory service. -/
theorem applyStored_eq {ldap : DirectoryService} (configured : s.ldap = some ldap)
    {user : StoredUser} (named : user.id ≠ "") (session : Session) (groups : List String) :
    (s.applyStored db fails { s.ofUser user session with groups } user.id).1 =
      { s.readValues db fails user session with groups } := by
  have present : (s.ldap.isNone || user.id == "") = false := by simp [configured, named]
  rw [applyStored, present, readValues]
  cases fails .overlay with
  | true => rfl
  | false =>
    cases db.ldap.bind fun row => decodeAttributes row.attributes with
    | none => rfl
    | some values => exact overlayValues_groups s.ext _ groups values

/-- A refresh of an account that is found and enabled fails exactly if a later read does,
and then leaves what was read. -/
theorem refreshIdentity_of_enabled {user : StoredUser} (session : Session)
    (read : fails .user = false) (found : db.user = some user) (enabled : user.disabled = false) :
    ((s.refreshIdentity db fails session).2 ≠ none → s.LaterReadFails db fails user session) ∧
    (s.LaterReadFails db fails user session →
      (∃ failed, (s.refreshIdentity db fails session).2 = some (.reads failed)) ∧
      (s.refreshIdentity db fails session).1 = { s.readValues db fails user session with
        groups := (s.narrowRoleGroups db fails user.id session.groups).1 }) := by
  rw [IdentityService.refreshIdentity, read, if_neg Bool.false_ne_true, found]
  dsimp only
  rw [enabled, if_neg Bool.false_ne_true]
  generalize started : ({ s.ofUser user session with
    groups := (s.narrowRoleGroups db fails user.id session.groups).1 } : Session) = applied
  have reports : _ ≠ [] ↔ s.LaterReadFails db fails user session :=
    reports_iff db user session applied
  constructor
  · intro failed
    refine reports.mp fun none => failed ?_
    rw [none]
  · intro later
    constructor
    · obtain ⟨first, rest, failed⟩ := List.exists_cons_of_ne_nil (reports.mpr later)
      exact ⟨first :: rest, by rw [failed]⟩
    · obtain ⟨named, ldap, configured, -⟩ := later
      rw [← started]
      exact applyStored_eq configured named session _

end IdentityService

open IdentityService in
/-- **When a failed refresh leaves the session alone.**  Whatever reads fail, an error other
than that of a disabled account leaves the account lists, extra fields and display name as
they were, and takes away at most role groups, exactly if the values read before and after
the failure, where the users row was read, are those the session has. -/
theorem refresh_leaves_session_iff (s : IdentityService) (db : Stored) (fails : Read → Bool)
    (session : Session) :
    (∀ error, (s.refreshIdentity db fails session).2 = some error → error ≠ .userDisabled →
      SameValues session (s.refreshIdentity db fails session).1 ∧
        s.KeepsGroups session.groups (s.refreshIdentity db fails session).1.groups) ↔
    (∀ user, fails .user = false → db.user = some user → user.disabled = false →
      s.LaterReadFails db fails user session →
        SameValues session (s.readValues db fails user session)) := by
  by_cases unread : fails .user = true
  · -- the first read fails, and the session keeps everything but its role groups
    have outcome : s.refreshIdentity db fails session =
        ({ session with groups := s.dropRoleGroups session.groups }, some (.reads [.user])) := by
      rw [IdentityService.refreshIdentity, if_pos unread]
    rw [outcome]
    constructor
    · intro _ user read
      rw [unread] at read
      cases read
    · intro _ _ _ _
      exact ⟨⟨rfl, rfl, rfl, fun _ => rfl⟩, keepsGroups_dropRoleGroups session.groups⟩
  · rw [Bool.not_eq_true] at unread
    cases found : db.user with
    | none =>
      have outcome : s.refreshIdentity db fails session = (session, none) := by
        simp [IdentityService.refreshIdentity, unread, found]
      rw [outcome]
      constructor
      · rintro _ _ _ ⟨⟩
      · rintro _ _ ⟨⟩
    | some user =>
      cases disabled : user.disabled with
      | true =>
        have outcome : s.refreshIdentity db fails session = (session, some .userDisabled) := by
          simp [IdentityService.refreshIdentity, unread, found, disabled]
        rw [outcome]
        constructor
        · rintro _ _ _ ⟨⟩ enabled
          rw [disabled] at enabled
          cases enabled
        · rintro _ _ ⟨⟩ other
          exact absurd rfl other
      | false =>
        obtain ⟨onlyLater, atLater⟩ :=
          refreshIdentity_of_enabled (s := s) session unread found disabled
        constructor
        · rintro leaves _ _ ⟨⟩ _ later
          obtain ⟨⟨failed, reported⟩, left⟩ := atLater later
          have same := (leaves _ reported (by simp)).1
          rw [left] at same
          exact ⟨same.displayName, same.otherAccounts, same.serviceAccounts, same.extra⟩
        · intro same error reported _
          have later := onlyLater (by simp [reported])
          have kept := same user unread rfl disabled later
          rw [(atLater later).2]
          exact ⟨⟨kept.displayName, kept.otherAccounts, kept.serviceAccounts, kept.extra⟩,
            keepsGroups_narrowRoleGroups user.id session.groups⟩

namespace RefreshSample

/-- LDAP is on, and not authoritative for role groups. -/
def service : IdentityService := ⟨.plain, some ⟨false, {}⟩⟩

/-- A session whose account came from the directory at login. -/
def session : Session := { displayName := "Mika", otherAccounts := ["deploy"] }

/-- The users row has the name and no accounts; the directory's have not been read yet. -/
def stored : Stored where
  user := some ⟨"u-1", "Mika", "", "", "", false⟩
  ldap := some ⟨"uid=mika", "", "\x7b\"other_accounts\":[\"deploy\"]\x7d"⟩
  directory := []

end RefreshSample

open RefreshSample in
/-- The read of the overlay fails, and the session loses the account that a refresh without
failures leaves it. -/
theorem failed_overlay_empties_accounts :
    (service.refreshIdentity stored (fun _ => false) session).1.otherAccounts = ["deploy"] ∧
      (service.refreshIdentity stored (fun read => read == .overlay) session).2 =
        some (.reads [.overlay]) ∧
      (service.refreshIdentity stored (fun read => read == .overlay) session).1.otherAccounts =
        [] := by
  refine ⟨?_, ?_, ?_⟩ <;> decide +kernel

end Ssoossh.Accounts
