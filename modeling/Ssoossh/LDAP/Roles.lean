import Ssoossh.LDAP.Window

/-!
# Directory-authoritative roles

With `ldap.authoritative_role_groups` on, a role group counts only while the directory
lists it (`server/service/ldaproles.go`).  What the check reads was written by the last
read of the directory that was stored: reduced to names, cut to those the configuration
refers to, and put in place of the rows before it.  `narrowed_by_last_read` says that
nothing is lost on the way: along every run, what is taken from a list of groups is
exactly the role groups that read did not list.
-/

namespace Ssoossh.LDAP

open Interleaving List

/-- `directoryLinked`. -/
def directoryLinked (row : Option UserLDAP) : Bool :=
  row.any fun row => row.dn != "" || row.directoryID != ""

namespace LDAPService

/-- `LDAPService.NarrowRoleGroups`, where the database answers. -/
def narrowRoleGroups (s : LDAPService) (rows : Rows) (groups : List String) : List String :=
  if !s.authoritativeRoleGroups || !s.admin.holdsRoleGroup groups then groups
  else if !directoryLinked rows.ldap then groups
  else s.admin.narrowRoleGroups groups rows.groups

/-! ## The allowlist -/

theorem mem_dedupe {x : String} (values : List String) : x ∈ dedupe values ↔ x ∈ values ∧ x ≠ "" := by
  have loop : ∀ (values out : List String),
      x ∈ values.foldl (fun out v => if v = "" ∨ v ∈ out then out else out ++ [v]) out ↔
        x ∈ out ∨ (x ∈ values ∧ x ≠ "") := by
    intro values
    induction values with
    | nil => simp
    | cons v values ih =>
      intro out
      rw [foldl_cons, ih]
      split_ifs with skipped
      · grind
      · grind
  rw [dedupe, loop]
  simp

variable {s : LDAPService} {name : String}

/-- A role group has a name, and is in the allowlist. -/
theorem mem_groupAllowlist_of_isRoleGroup (role : s.admin.isRoleGroup name = true) :
    name ≠ "" ∧ name ∈ s.groupAllowlist := by
  simp only [AdminConfig.isRoleGroup, containsGroup, Bool.and_eq_true, bne_iff_ne, ne_eq,
    contains_eq_mem, decide_eq_true_eq] at role
  refine ⟨role.1, (mem_insertionSort _).mpr ((mem_dedupe _).mpr ⟨?_, role.1⟩)⟩
  simp only [mem_append]
  exact .inl (.inl (.inl (.inl role.2)))

/-- The stored groups hold a role group exactly if the read listed it. -/
theorem containsGroup_allowed {values : List String} (role : s.admin.isRoleGroup name = true) :
    containsGroup (s.allowed values) name = (values.map s.reduceGroupName).contains name := by
  obtain ⟨named, known⟩ := mem_groupAllowlist_of_isRoleGroup role
  have member : name ∈ s.allowed values ↔ name ∈ values.map s.reduceGroupName := by
    rw [allowed, mem_dedupe, mem_filter, contains_iff_mem]
    exact ⟨fun h => h.1.1, fun h => ⟨⟨h, known⟩, named⟩⟩
  rw [containsGroup, bne_iff_ne.mpr named, Bool.true_and, contains_eq_mem, contains_eq_mem]
  exact decide_eq_decide.mpr member

/-! ## What a read leaves -/

/-- The rows are those of the last read that was stored, and before the first there is no
link. -/
def Reflects (s : LDAPService) (state : State) : Prop :=
  match state.lastRead with
  | none => directoryLinked state.rows.ldap = false
  | some values => directoryLinked state.rows.ldap = true ∧ state.rows.groups = s.allowed values

/-- The groups without the role groups that a read did not list. -/
def unlisted (s : LDAPService) (groups : List String) (values : List String) : List String :=
  groups.filter fun g => !(s.admin.isRoleGroup g && !(values.map s.reduceGroupName).contains g)

theorem narrowRoleGroups_of_reflects {state : State} (on : s.authoritativeRoleGroups = true)
    (reflects : s.Reflects state) (groups : List String) :
    s.narrowRoleGroups state.rows groups = match state.lastRead with
      | none => groups
      | some values => s.unlisted groups values := by
  unfold narrowRoleGroups
  unfold Reflects at reflects
  cases read : state.lastRead with
  | none =>
    rw [read] at reflects
    simp [reflects]
  | some values =>
    rw [read] at reflects
    obtain ⟨linked, stored⟩ := reflects
    have narrowed : s.admin.narrowRoleGroups groups (s.allowed values) = s.unlisted groups values := by
      refine filter_congr fun g _ => ?_
      cases role : s.admin.isRoleGroup g with
      | false => rfl
      | true => rw [containsGroup_allowed role]
    by_cases holds : s.admin.holdsRoleGroup groups = true
    · simp [on, holds, linked, stored, narrowed]
    · rw [Bool.not_eq_true] at holds
      simp only [holds, Bool.not_false, Bool.or_true, if_true]
      rw [← narrowed, AdminConfig.narrowRoleGroups_of_not_holds holds]

/-! ## Steps and runs -/

variable {tid : Nat} {state state' : State} {choice : Choice} {action : Act} {answer : Resp action}

/-- A miss leaves the link. -/
theorem directoryLinked_miss (rows : Rows) (misses since now : Int) :
    directoryLinked (rows.miss misses since now).ldap = directoryLinked rows.ldap := by
  cases present : rows.ldap <;> simp [directoryLinked, Rows.miss, present]

/-- Only a read that is stored is the last one. -/
theorem exec_lastRead (h : exec tid state action choice = some (state', answer)) :
    state'.lastRead = state.lastRead ∨ ∃ entry groups now, action = .persist entry groups now ∧
      choice.failed = false ∧ state'.lastRead = some entry.groups := by
  rw [exec_state h]
  cases action with
  | persist entry groups now =>
    simp only [execute]
    split
    · exact .inl rfl
    · rename_i committed
      rw [Bool.not_eq_true] at committed
      exact .inr ⟨entry, groups, now, rfl, committed, rfl⟩
  | _ =>
    refine .inl ?_
    simp only [execute]
    repeat' split
    all_goals rfl

/-- Every step keeps the rows those of the last read. -/
theorem Reflects.exec (reflects : s.Reflects state)
    (stored : ∀ entry groups now, action = .persist entry groups now → groups = s.allowed entry.groups)
    (h : exec tid state action choice = some (state', answer)) : s.Reflects state' := by
  rw [exec_state h]
  cases action with
  | persist entry groups now =>
    simp only [execute]
    split
    · exact reflects
    · refine ⟨?_, stored entry groups now rfl⟩
      simp [directoryLinked, persistedRow, entry.named]
  | recordMiss =>
    simp only [execute]
    split
    · exact reflects
    · unfold Reflects at reflects ⊢
      simp only [directoryLinked_miss]
      exact reflects
  | _ =>
    simp only [execute]
    repeat' split
    all_goals exact reflects

/-- What is stored in any run. -/
def rolesKnowledge (s : LDAPService) : Knowledge s.machine where
  ok _ _ _ _ _ := True
  Inv := s.Reflects
  Knows _ _ _ := True
  Can := Anything
  May := May s
  start _ := trivial
  follows := follows_body s
  own reflects _ may _ done := ⟨reflects.exec may.stored done, trivial, trivial⟩
  others _ _ _ _ _ _ _ _ := trivial

/-- Nothing is running, and the person was never read from the directory. -/
structure NeverRead (cfg : Config Act Resp State Nat Call Unit) : Prop where
  idle : ∀ tid, cfg.threads tid = none
  unread : cfg.shared.lastRead = none
  unlinked : directoryLinked cfg.shared.rows.ldap = false

/-- **Directory-authoritative roles.**  Along every run of logins and passes, what counts of
a list of groups is the list without the role groups that the last stored read did not
list, and all of it before the first.  Only a read that found the entry and was stored
changes that, nothing is added, and no role is gained. -/
theorem narrowed_by_last_read (s : LDAPService) (on : s.authoritativeRoleGroups = true)
    (first last : Config Act Resp State Nat Call Unit) (never : NeverRead first)
    (run : Reaches s.machine (fun _ _ => True) first last) (groups : List String) :
    (s.narrowRoleGroups last.shared.rows groups = match last.shared.lastRead with
      | none => groups
      | some values => s.unlisted groups values) ∧
    (∀ label next, s.machine.step last label = some next →
      s.narrowRoleGroups next.shared.rows groups ≠ s.narrowRoleGroups last.shared.rows groups →
        ∃ tid choice entry stored now, label = .run tid choice ∧
          last.heads tid = some (.persist entry stored now) ∧ choice.failed = false ∧
          next.shared.lastRead = some entry.groups) ∧
    (s.narrowRoleGroups last.shared.rows groups).Sublist groups ∧
    (s.admin.grantsAdmin (s.narrowRoleGroups last.shared.rows groups) = true →
      s.admin.grantsAdmin groups = true) ∧
    (s.admin.grantsSOC (s.narrowRoleGroups last.shared.rows groups) = true →
      s.admin.grantsSOC groups = true) ∧
    (s.admin.grantsAuditor (s.narrowRoleGroups last.shared.rows groups) = true →
      s.admin.grantsAuditor groups = true) ∧
    (s.admin.grantsNSSKeyAdmin (s.narrowRoleGroups last.shared.rows groups) = true →
      s.admin.grantsNSSKeyAdmin groups = true) := by
  have reflects {cfg : Config Act Resp State Nat Call Unit}
      (run : Reaches s.machine (fun _ _ => True) first cfg) : s.Reflects cfg.shared := by
    have start : s.Reflects first.shared := by
      unfold Reflects
      rw [never.unread]
      exact never.unlinked
    obtain ⟨_, holds⟩ := (rolesKnowledge s).reaches (run.mono fun _ label _ => by
      cases label with
      | spawn => trivial
      | run => exact fun _ _ => trivial) start never.idle
    exact holds.inv
  have narrowed := narrowRoleGroups_of_reflects on (reflects run) groups
  have fewer : (s.narrowRoleGroups last.shared.rows groups).Sublist groups := by
    rw [narrowed]
    cases last.shared.lastRead with
    | none => exact List.Sublist.refl _
    | some => exact filter_sublist
  refine ⟨narrowed, fun label next stepped changed => ?_, fewer,
    AdminConfig.grantsAdmin_mono fewer.subset, AdminConfig.grantsSOC_mono fewer.subset,
    AdminConfig.grantsAuditor_mono fewer.subset, AdminConfig.grantsNSSKeyAdmin_mono fewer.subset⟩
  have after := narrowRoleGroups_of_reflects on (reflects (run.tail trivial stepped)) groups
  have unchanged (same : next.shared.lastRead = last.shared.lastRead) : False := by
    rw [after, narrowed, same] at changed
    exact changed rfl
  rcases Machine.step_cases _ stepped with
    ⟨_, _, -, -, rfl⟩ | ⟨_, _, _, _, -, -, -, rfl⟩ |
    ⟨tid, choice, thread, action, rest, shared, answer, rfl, present, atAction, done, rfl⟩
  · exact (unchanged rfl).elim
  · exact (unchanged rfl).elim
  · rcases exec_lastRead done with same | ⟨entry, stored, now, rfl, committed, read⟩
    · exact (unchanged same).elim
    · refine ⟨tid, choice, entry, stored, now, rfl, ?_, committed, read⟩
      simp [Config.heads, present, atAction]

end LDAPService

namespace Sample

/-- The admins of the identity provider count only while the directory lists them. -/
def rolesService : LDAPService :=
  { ldapService with
    admin := { requireGroup := "admins" }
    authoritativeRoleGroups := true
    fields := [⟨"groups", "memberOf", []⟩] }

/-- Someone who has never logged in. -/
def newcomer : Config Act Resp State Nat Call Unit where
  shared := ⟨⟨some account, none, []⟩, 0, [], [], .nobody, none, [], false⟩
  threads := fun _ => none

/-- A login whose entry lists one group, and not the admins. -/
def firstLogin : List (Label Nat Choice Call) :=
  [.spawn 0 (.login account.identity), next 0, next 0,
    .run 0 ⟨0, false, .done [{ entryBack with attributes := [("memberOf", ["users"])] }]⟩,
    next 0, next 0, next 0]

end Sample

open Sample LDAPService in
/-- After a login the directory does not list as an admin, the admin group no longer counts. -/
theorem narrowed_by_last_read_login : ∃ last,
    NeverRead newcomer ∧ Reaches rolesService.machine (fun _ _ => True) newcomer last ∧
      rolesService.narrowRoleGroups last.shared.rows ["admins", "staff"] = ["staff"] := by
  have ran : (rolesService.machine.runLabels newcomer firstLogin).map (fun cfg => cfg.shared.lastRead) =
      some (some ["users"]) := by decide +kernel
  obtain ⟨last, reached, read⟩ := Option.map_eq_some_iff.mp ran
  have run : Reaches rolesService.machine (fun _ _ => True) newcomer last :=
    .of_runLabels firstLogin (fun _ _ _ => trivial) reached
  have never : NeverRead newcomer := ⟨fun _ => rfl, rfl, rfl⟩
  have law := narrowed_by_last_read rolesService rfl newcomer last never run
    ["admins", "staff"]
  refine ⟨last, never, run, law.1.trans ?_⟩
  rw [read]
  decide +kernel

end Ssoossh.LDAP
