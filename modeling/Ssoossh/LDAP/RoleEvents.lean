import Ssoossh.LDAP.Roles

/-!
# The record of a narrowed role

When a read of the directory is stored, it may take a role group from someone who holds it
through the identity provider.  `persist` writes an audit event for that in the same
transaction (`server/service/ldap.go`, `server/service/ldaproles.go`).

The event names the role groups that the replaced directory rows held and the new ones do
not.  That is what a role loses on a second read, but not on the first: before it the
person is not linked and every role counts, and there are no rows to drop.
`narrowing_recorded_iff` says when event and loss agree.
-/

namespace Ssoossh.LDAP

open List

/-! ## The transaction -/

/-- An `ldapEntry` as it is stored, with any DN and id. -/
structure StoredEntry where
  dn : String
  directoryID : String
  values : List (String × List String)

/-- `entry.Values[config.LDAPFieldGroups]`. -/
def StoredEntry.groups (entry : StoredEntry) : List String := (entry.values.lookup "groups").getD []

/-- The row that the upsert of `persist` leaves. -/
def StoredEntry.row (entry : StoredEntry) (now : Int) (old : Option UserLDAP) : UserLDAP where
  directoryID := entry.directoryID
  dn := entry.dn
  attributes := entry.values
  lastSeenAt := some now
  lastSyncedAt := some now
  consecutiveMisses := 0
  firstMissingAt := none
  createdAt := (old.map UserLDAP.createdAt).getD now
  updatedAt := now

/-- An entry as the resolver finds it. -/
def LdapEntry.stored (entry : LdapEntry) : StoredEntry := ⟨entry.dn, entry.directoryID, entry.values⟩

/-- `replaceGroups`, and the names it dropped. -/
def replaceGroups (rows : Rows) (names : List String) : Rows × List String :=
  ({ rows with groups := names }, rows.groups.filter fun name => !names.contains name)

namespace LDAPService

variable (s : LDAPService)

/-- The role groups that were dropped and that the stored OIDC groups still hold. -/
def lostRoles (oidc removed : List String) : List String :=
  (removed.filter s.admin.isRoleGroup).filter oidc.contains

/-- `roleNarrowedEvent`: the groups of the event, if there is one.  `none` is the error of a
user that does not exist. -/
def roleNarrowedEvent (user : Option User) (oidc removed : List String) :
    Option (Option (List String)) :=
  if !s.authoritativeRoleGroups then some none
  else if (s.lostRoles oidc removed).isEmpty then some none
  else user.map fun _ => some (s.lostRoles oidc removed)

/-- The transaction of `persist` on the rows and the stored OIDC groups of a person, with the
groups of the events it wrote; `none` where it does not commit. -/
def persistTx (rows : Rows) (oidc : List String) (entry : StoredEntry) (now : Int) :
    Option (Rows × List (List String)) :=
  if 0 < s.maxAttributesBytes ∧ s.maxAttributesBytes < s.encodedSize entry.values then none
  else
    let linked := { rows with ldap := some (entry.row now rows.ldap) }
    let (replaced, removed) := replaceGroups linked (s.allowed entry.groups)
    (s.roleNarrowedEvent rows.user oidc removed).map fun event => (replaced, event.toList)

/-- A role group that counted before the transaction and does not after it. -/
structure Loses (before after : Rows) (oidc : List String) (group : String) : Prop where
  role : s.admin.isRoleGroup group = true
  held : group ∈ oidc
  kept : group ∈ s.narrowRoleGroups before oidc
  removed : group ∉ s.narrowRoleGroups after oidc

/-- **No role is narrowed without its record**, and nothing else is recorded. -/
structure RecordsLoss (before after : Rows) (oidc : List String) (events : List (List String)) :
    Prop where
  one : (∃ group, s.Loses before after oidc group) →
    ∃ groups, events = [groups] ∧ ∀ group, group ∈ groups ↔ s.Loses before after oidc group
  none : (¬ ∃ group, s.Loses before after oidc group) → events = []

variable {s}

section

variable (on : s.authoritativeRoleGroups = true)
include on

/-- A role group that is held counts unless the person is linked and the directory does not
list it. -/
theorem mem_narrowRoleGroups {rows : Rows}
    {groups : List String} {group : String} (role : s.admin.isRoleGroup group = true)
    (held : group ∈ groups) :
    group ∈ s.narrowRoleGroups rows groups ↔
      directoryLinked rows.ldap = false ∨ group ∈ rows.groups := by
  have holds : s.admin.holdsRoleGroup groups = true := any_eq_true.mpr ⟨group, held, role⟩
  have named := (mem_groupAllowlist_of_isRoleGroup role).1
  rw [narrowRoleGroups, on, holds]
  cases directoryLinked rows.ldap with
  | false => simpa using held
  | true =>
    simp [AdminConfig.narrowRoleGroups, held, role, containsGroup, named]

/-- What is lost, in terms of what is stored. -/
theorem loses_iff {before after : Rows} {oidc : List String} {group : String} :
    s.Loses before after oidc group ↔ s.admin.isRoleGroup group = true ∧ group ∈ oidc ∧
      (directoryLinked before.ldap = false ∨ group ∈ before.groups) ∧
      directoryLinked after.ldap = true ∧ group ∉ after.groups := by
  constructor
  · rintro ⟨role, held, kept, removed⟩
    rw [mem_narrowRoleGroups on role held] at kept removed
    rw [not_or, Bool.not_eq_false] at removed
    exact ⟨role, held, kept, removed⟩
  · rintro ⟨role, held, kept, link, gone⟩
    refine ⟨role, held, (mem_narrowRoleGroups on role held).mpr kept, ?_⟩
    rw [mem_narrowRoleGroups on role held, link]
    simpa using gone

theorem roleNarrowedEvent_eq_some {user : Option User}
    {oidc removed : List String} {event : Option (List String)}
    (built : s.roleNarrowedEvent user oidc removed = some event) :
    event.toList =
      if (s.lostRoles oidc removed).isEmpty then [] else [s.lostRoles oidc removed] := by
  rw [roleNarrowedEvent, on, Bool.not_true, if_neg Bool.false_ne_true] at built
  by_cases none : (s.lostRoles oidc removed).isEmpty = true
  · rw [if_pos none, Option.some.injEq] at built
    rw [if_pos none, ← built]
    rfl
  · rw [if_neg none] at built
    obtain ⟨_, -, rfl⟩ := Option.map_eq_some_iff.mp built
    rw [if_neg none]
    rfl

/-- The rows and the event a transaction leaves. -/
theorem persistTx_eq_some {rows next : Rows}
    {oidc : List String} {entry : StoredEntry} {now : Int} {events : List (List String)}
    (committed : s.persistTx rows oidc entry now = some (next, events)) :
    next.ldap = some (entry.row now rows.ldap) ∧ next.groups = s.allowed entry.groups ∧
    ∃ lost, (∀ group, group ∈ lost ↔ s.admin.isRoleGroup group = true ∧ group ∈ oidc ∧
        group ∈ rows.groups ∧ group ∉ s.allowed entry.groups) ∧
      events = if lost.isEmpty then [] else [lost] := by
  unfold persistTx at committed
  split_ifs at committed
  simp only [replaceGroups, Option.map_eq_some_iff, Prod.mk.injEq] at committed
  obtain ⟨event, built, rfl, rfl⟩ := committed
  refine ⟨rfl, rfl, _, fun group => ?_, roleNarrowedEvent_eq_some on built⟩
  simp only [lostRoles, mem_filter, contains_eq_mem, Bool.not_eq_true',
    decide_eq_false_iff_not, decide_eq_true_eq]
  exact ⟨fun ⟨⟨⟨there, gone⟩, role⟩, held⟩ => ⟨role, held, there, gone⟩,
    fun ⟨role, held, there, gone⟩ => ⟨⟨⟨there, gone⟩, role⟩, held⟩⟩

end

/-- A transaction that commits for an entry the resolver found leaves the rows that the step
`persist` of a login or a pass leaves, and the entry is not over the cap. -/
theorem persistTx_execute {st : State} {next : Rows} {oidc : List String} {entry : LdapEntry}
    {now : Int} {events : List (List String)}
    (committed : s.persistTx st.rows oidc entry.stored now = some (next, events)) (tid : Nat)
    {choice : Choice} (goes : choice.failed = false) :
    s.tooLarge entry = false ∧
      (execute tid st choice (.persist entry (s.allowed entry.groups) now)).1.rows = next := by
  unfold persistTx at committed
  split_ifs at committed with large
  obtain ⟨event, -, same⟩ := Option.map_eq_some_iff.mp committed
  refine ⟨decide_eq_false large, ?_⟩
  rw [execute, goes]
  exact congrArg Prod.fst same

/-- A role group is stored from a read exactly if the read listed it. -/
theorem mem_allowed_of_role {values : List String} {group : String}
    (role : s.admin.isRoleGroup group = true) :
    group ∈ s.allowed values ↔ group ∈ values.map s.reduceGroupName := by
  have same : containsGroup (s.allowed values) group = _ := containsGroup_allowed role
  have named := (mem_groupAllowlist_of_isRoleGroup role).1
  rw [containsGroup, bne_iff_ne.mpr named, Bool.true_and, contains_eq_mem,
    contains_eq_mem] at same
  exact decide_eq_decide.mp same

/-- An event that lists some set records the loss exactly if that set is what is lost. -/
theorem recordsLoss_iff {before after : Rows} {oidc lost : List String} :
    s.RecordsLoss before after oidc (if lost.isEmpty then [] else [lost]) ↔
      ∀ group, group ∈ lost ↔ s.Loses before after oidc group := by
  cases empty : lost with
  | nil =>
    constructor
    · rintro ⟨one, -⟩ group
      simp only [not_mem_nil, false_iff]
      intro loses
      obtain ⟨_, absurd, -⟩ := one ⟨group, loses⟩
      cases absurd
    · intro same
      refine ⟨?_, fun _ => rfl⟩
      rintro ⟨group, loses⟩
      exact absurd ((same group).mpr loses) not_mem_nil
  | cons first =>
    constructor
    · rintro ⟨one, none⟩ group
      by_cases loses : ∃ group, s.Loses before after oidc group
      · obtain ⟨groups, is, same⟩ := one loses
        cases singleton_inj.mp is
        exact same group
      · exact absurd (none loses) (cons_ne_nil _ _)
    · intro same
      refine ⟨fun _ => ⟨_, rfl, same⟩, fun none => ?_⟩
      exact absurd ⟨first, (same first).mp mem_cons_self⟩ none

/-- **When a narrowed role is recorded.**  A transaction that commits writes one event with
exactly the role groups it narrows, or none if it narrows none, if and only if every role
group the person holds and the read does not list was counted by an earlier read: the person
was linked before, or the group was among the rows replaced.  (An entry without DN and id
links nobody, and then the group must not have been among the rows.) -/
theorem narrowing_recorded_iff (s : LDAPService) (rows next : Rows) (oidc : List String)
    (entry : StoredEntry) (now : Int) (events : List (List String))
    (on : s.authoritativeRoleGroups = true)
    (committed : s.persistTx rows oidc entry now = some (next, events)) :
    s.RecordsLoss rows next oidc events ↔
      ∀ group ∈ oidc, s.admin.isRoleGroup group = true →
        group ∉ entry.groups.map s.reduceGroupName →
        if entry.dn ≠ "" ∨ entry.directoryID ≠ "" then
          directoryLinked rows.ldap = true ∨ group ∈ rows.groups
        else group ∉ rows.groups := by
  obtain ⟨row, groups, lost, mem, rfl⟩ := persistTx_eq_some on committed
  have linked : directoryLinked next.ldap = true ↔ entry.dn ≠ "" ∨ entry.directoryID ≠ "" := by
    rw [row]
    simp [directoryLinked, StoredEntry.row]
  rw [recordsLoss_iff]
  refine forall_congr' fun group => ?_
  rw [mem, loses_iff on, linked, groups]
  by_cases role : s.admin.isRoleGroup group = true
  · rw [mem_allowed_of_role role]
    by_cases link : entry.dn ≠ "" ∨ entry.directoryID ≠ ""
    · -- the event lists what was among the rows, and the person may not have been linked before
      rw [if_pos link]
      cases directoryLinked rows.ldap with
      | false => grind
      | true => simp [role, link]
    · rw [if_neg link]
      simp [role, link, imp_not_comm]
  · simp [role]

end LDAPService

namespace RoleSample

/-- What a read of someone in one group stores. -/
def entry (groups : List String) : StoredEntry := ⟨"uid=jane", "", [("groups", groups)]⟩

/-- Someone nothing is stored about yet. -/
def newcomer : Rows := ⟨some Sample.account, none, []⟩

/-- The same person after a read that listed the admins. -/
def listed : Rows := ⟨some Sample.account, some ((entry ["admins"]).row 0 none), ["admins"]⟩

end RoleSample

open RoleSample in
/-- The second read no longer lists the admins, and the event says so. -/
theorem narrowing_recorded_second_read :
    Sample.rolesService.persistTx listed ["admins"] (entry ["users"]) 1 =
        some (⟨some Sample.account, some ((entry ["users"]).row 1 listed.ldap), []⟩, [["admins"]]) ∧
      Sample.rolesService.RecordsLoss listed
        ⟨some Sample.account, some ((entry ["users"]).row 1 listed.ldap), []⟩ ["admins"]
        [["admins"]] := by
  have committed : Sample.rolesService.persistTx listed ["admins"] (entry ["users"]) 1 =
      some (⟨some Sample.account, some ((entry ["users"]).row 1 listed.ldap), []⟩,
        [["admins"]]) := by
    decide +kernel
  refine ⟨committed, ?_⟩
  rw [LDAPService.narrowing_recorded_iff Sample.rolesService _ _ _ _ _ _ rfl committed]
  decide +kernel

open RoleSample in
/-- The first read links the person and does not list the admins.  The role is gone, and
nothing is recorded. -/
theorem first_read_narrows_unrecorded :
    Sample.rolesService.persistTx newcomer ["admins"] (entry ["users"]) 1 =
        some (⟨some Sample.account, some ((entry ["users"]).row 1 none), []⟩, []) ∧
      Sample.rolesService.Loses newcomer
        ⟨some Sample.account, some ((entry ["users"]).row 1 none), []⟩ ["admins"] "admins" := by
  refine ⟨by decide +kernel, ⟨?_, ?_, ?_, ?_⟩⟩ <;> decide +kernel

end Ssoossh.LDAP
