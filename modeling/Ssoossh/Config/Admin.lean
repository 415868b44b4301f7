import Mathlib.Data.List.Basic

/-!
# `admin`

The role groups of a deployment (`server/config/types.go`): a role is held by whoever
has its group, exactly as the identity provider spells it, and an unconfigured role is
held by nobody.  Admin includes every other role, and SOC includes auditor.

`narrowRoleGroups` takes from a list of groups the role groups that the directory does
not list.  It only ever takes away, so no role is gained by it.
-/

namespace Ssoossh

open Bool

/-- `AdminConfig`, of which only the group names are used. -/
structure AdminConfig where
  requireGroup : String := ""
  socGroup : String := ""
  auditorGroup : String := ""
  nssKeyGroup : String := ""
deriving DecidableEq

/-- `containsGroup`.  An empty name is in no list. -/
def containsGroup (haystack : List String) (needle : String) : Bool :=
  needle != "" && haystack.contains needle

namespace AdminConfig

variable (a : AdminConfig)

/-- `GrantsAdmin`. -/
def grantsAdmin (groups : List String) : Bool :=
  a.requireGroup != "" && containsGroup groups a.requireGroup

/-- `GrantsSOC`. -/
def grantsSOC (groups : List String) : Bool :=
  a.grantsAdmin groups || (a.socGroup != "" && containsGroup groups a.socGroup)

/-- `GrantsNSSKeyAdmin`. -/
def grantsNSSKeyAdmin (groups : List String) : Bool :=
  a.grantsAdmin groups || (a.nssKeyGroup != "" && containsGroup groups a.nssKeyGroup)

/-- `GrantsAuditor`. -/
def grantsAuditor (groups : List String) : Bool :=
  a.grantsSOC groups || (a.auditorGroup != "" && containsGroup groups a.auditorGroup)

/-- `IsRoleGroup`. -/
def isRoleGroup (name : String) : Bool :=
  containsGroup [a.requireGroup, a.socGroup, a.auditorGroup, a.nssKeyGroup] name

/-- `HoldsRoleGroup`. -/
def holdsRoleGroup (groups : List String) : Bool := groups.any a.isRoleGroup

/-- `NarrowRoleGroups`: `groups` without the role groups that `directory` does not list. -/
def narrowRoleGroups (groups directory : List String) : List String :=
  groups.filter fun g => !(a.isRoleGroup g && !containsGroup directory g)

variable {a} {groups smaller : List String}

/-- Nothing is added, and the order is kept. -/
theorem narrowRoleGroups_sublist (groups directory : List String) :
    (a.narrowRoleGroups groups directory).Sublist groups := List.filter_sublist

/-- Without a role group there is nothing to take. -/
theorem narrowRoleGroups_of_not_holds {directory : List String}
    (none : a.holdsRoleGroup groups = false) : a.narrowRoleGroups groups directory = groups := by
  refine List.filter_eq_self.mpr fun g member => ?_
  have ordinary := List.any_eq_false.mp none g member
  rw [not_eq_true] at ordinary
  rw [ordinary]
  rfl

variable (fewer : smaller ⊆ groups)
include fewer

theorem containsGroup_mono {name : String}
    (h : containsGroup smaller name = true) : containsGroup groups name = true := by
  simp only [containsGroup, and_eq_true, List.contains_eq_mem, decide_eq_true_eq] at h ⊢
  exact ⟨h.1, fewer h.2⟩

theorem grantsAdmin_mono (h : a.grantsAdmin smaller = true) : a.grantsAdmin groups = true := by
  simp only [grantsAdmin, and_eq_true] at h ⊢
  exact ⟨h.1, containsGroup_mono fewer h.2⟩

theorem grantsSOC_mono (h : a.grantsSOC smaller = true) : a.grantsSOC groups = true := by
  simp only [grantsSOC, or_eq_true, and_eq_true] at h ⊢
  exact h.imp (grantsAdmin_mono fewer) (And.imp_right (containsGroup_mono fewer))

theorem grantsNSSKeyAdmin_mono (h : a.grantsNSSKeyAdmin smaller = true) :
    a.grantsNSSKeyAdmin groups = true := by
  simp only [grantsNSSKeyAdmin, or_eq_true, and_eq_true] at h ⊢
  exact h.imp (grantsAdmin_mono fewer) (And.imp_right (containsGroup_mono fewer))

theorem grantsAuditor_mono (h : a.grantsAuditor smaller = true) :
    a.grantsAuditor groups = true := by
  simp only [grantsAuditor, or_eq_true, and_eq_true] at h ⊢
  exact h.imp (grantsSOC_mono fewer) (And.imp_right (containsGroup_mono fewer))

end AdminConfig

end Ssoossh
