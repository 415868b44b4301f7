import Ssoossh.LDAP.Roles

/-!
# The groups the configuration refers to

What a login and a read of the directory store about a person's groups is cut to the
allowlist: the groups that a role, an extra or a certificate policy names
(`server/service/ldap.go`, `server/service/auth.go`).  A group that is named but not in
the list is silently never stored.

The list is put together type by type, and the console type is not among them.
`allowlist_covers_iff` says when that does no harm: every group the console's conditions
name is also named by something else.
-/

namespace Ssoossh

open List

/-! ## What a condition names -/

/-- A group is named by a condition, at any depth. -/
inductive PolicyCondition.Names (name : String) : PolicyCondition → Prop
  | group {cond : PolicyCondition} (named : name ≠ "") (is : cond.group = name) : Names name cond
  | allOf {cond child : PolicyCondition} (member : child ∈ cond.allOf) (named : child.Names name) :
      Names name cond
  | anyOf {cond child : PolicyCondition} (member : child ∈ cond.anyOf) (named : child.Names name) :
      Names name cond

theorem PolicyCondition.Names.ne_empty {name : String} {cond : PolicyCondition}
    (named : cond.Names name) : name ≠ "" := by
  induction named with
  | group named => exact named
  | allOf _ _ ih | anyOf _ _ ih => exact ih

/-- A group is named by the gate of a certificate type, or by a tier of its policy. -/
def NamedBy (require : Option PolicyCondition) (policy : LifetimePolicy) (name : String) : Prop :=
  (∃ cond ∈ require, cond.Names name) ∨ ∃ tier ∈ policy.tiers, tier.when.Names name

namespace LDAP

theorem conditionGroups_eq (cond : PolicyCondition) :
    conditionGroups cond = (if cond.group = "" then [] else [cond.group]) ++
      conditionListGroups cond.allOf ++ conditionListGroups cond.anyOf := by
  cases cond
  rw [conditionGroups]

mutual

/-- `conditionGroups` collects what is named. -/
theorem names_of_mem_conditionGroups {name : String} :
    ∀ cond : PolicyCondition, name ∈ conditionGroups cond → cond.Names name
  | ⟨group, claim, atLeast, atMost, exactly, equals, oneOf, contains, allOf, anyOf⟩, member => by
    simp only [conditionGroups, mem_append] at member
    rcases member with (own | every) | some
    · by_cases unset : group = ""
      · simp [unset] at own
      · rw [if_neg unset, mem_singleton] at own
        exact .group (own ▸ unset) own.symm
    · obtain ⟨child, is, named⟩ := names_of_mem_conditionListGroups allOf every
      exact .allOf is named
    · obtain ⟨child, is, named⟩ := names_of_mem_conditionListGroups anyOf some
      exact .anyOf is named

theorem names_of_mem_conditionListGroups {name : String} :
    ∀ conds : List PolicyCondition, name ∈ conditionListGroups conds →
      ∃ child ∈ conds, child.Names name
  | cond :: conds, member => by
    rw [conditionListGroups, mem_append] at member
    rcases member with first | rest
    · exact ⟨cond, mem_cons_self, names_of_mem_conditionGroups cond first⟩
    · obtain ⟨child, is, named⟩ := names_of_mem_conditionListGroups conds rest
      exact ⟨child, mem_cons_of_mem _ is, named⟩

end

theorem mem_conditionListGroups {name : String} {child : PolicyCondition}
    {conds : List PolicyCondition} (is : child ∈ conds) (named : name ∈ conditionGroups child) :
    name ∈ conditionListGroups conds := by
  induction conds with
  | nil => cases is
  | cons cond conds ih =>
    rw [conditionListGroups, mem_append]
    rcases mem_cons.mp is with rfl | later
    · exact .inl named
    · exact .inr (ih later)

theorem mem_conditionGroups {name : String} {cond : PolicyCondition} :
    name ∈ conditionGroups cond ↔ cond.Names name := by
  constructor
  · exact names_of_mem_conditionGroups cond
  · intro named
    induction named with
    | group named is =>
      subst is
      rw [conditionGroups_eq, if_neg named]
      simp
    | allOf member _ ih | anyOf member _ ih =>
      rw [conditionGroups_eq]
      simp [mem_conditionListGroups member ih]

/-! ## The list -/

namespace LDAPService

variable (s : LDAPService)

/-- A group is named by something else than the console type. -/
def NamedElsewhere (name : String) : Prop :=
  name = s.admin.requireGroup ∨ name = s.admin.socGroup ∨ name = s.admin.auditorGroup ∨
    name = s.admin.nssKeyGroup ∨ name ∈ s.extraGroups ∨
    NamedBy s.certOptions.user.require s.certOptions.user.lifetimePolicy name ∨
    NamedBy s.certOptions.service.require s.certOptions.service.lifetimePolicy name ∨
    NamedBy s.certOptions.pam.require s.certOptions.pam.lifetimePolicy name

/-- A group is named by the console type. -/
def NamedByConsole (name : String) : Prop :=
  NamedBy s.certOptions.console.require s.certOptions.console.lifetimePolicy name

/-- `captureOIDCGroups`: the names whose rows replace the stored ones, if any do. -/
def captureOIDCGroups (groups : List String) : Option (List String) :=
  if s.groupAllowlist.isEmpty then none
  else some (dedupe (groups.filter s.groupAllowlist.contains))

/-- **The allowlist covers the configuration**: it is sorted, without duplicates and empties,
holds exactly the groups that something names, and so neither a read of the directory nor a
login discards one of them. -/
structure Covers : Prop where
  sorted : s.groupAllowlist.Pairwise (· ≤ ·)
  nodup : s.groupAllowlist.Nodup
  named : "" ∉ s.groupAllowlist
  exact : ∀ name, name ∈ s.groupAllowlist ↔
    name ≠ "" ∧ (s.NamedElsewhere name ∨ s.NamedByConsole name)
  persisted : ∀ values, ∀ value ∈ values, s.reduceGroupName value ≠ "" →
    s.NamedElsewhere (s.reduceGroupName value) ∨ s.NamedByConsole (s.reduceGroupName value) →
    s.reduceGroupName value ∈ s.allowed values
  captured : ∀ groups, ∀ name ∈ groups, name ≠ "" →
    s.NamedElsewhere name ∨ s.NamedByConsole name →
    ∃ kept, s.captureOIDCGroups groups = some kept ∧ name ∈ kept

variable {s}

theorem nodup_dedupe (values : List String) : (dedupe values).Nodup := by
  have loop : ∀ (values out : List String), out.Nodup →
      (values.foldl (fun out v => if v = "" ∨ v ∈ out then out else out ++ [v]) out).Nodup := by
    intro values
    induction values with
    | nil => exact fun _ nodup => nodup
    | cons v values ih =>
      intro out nodup
      rw [foldl_cons]
      apply ih
      split_ifs with skipped
      · exact nodup
      · refine nodup_append.mpr ⟨nodup, nodup_singleton v, ?_⟩
        rintro a here b there rfl
        exact skipped (.inr (mem_singleton.mp there ▸ here))
  exact loop values [] nodup_nil

/-- What is in the list. -/
theorem mem_groupAllowlist {name : String} :
    name ∈ s.groupAllowlist ↔ name ≠ "" ∧ s.NamedElsewhere name := by
  rw [groupAllowlist, mem_insertionSort, mem_dedupe]
  simp only [mem_append, mem_flatMap, Option.mem_toList, mem_conditionGroups,
    mem_cons, not_mem_nil, or_false, NamedElsewhere, NamedBy, Option.mem_def, or_assoc]
  exact and_comm

theorem ne_empty_of_namedByConsole {name : String} (named : s.NamedByConsole name) : name ≠ "" := by
  rcases named with ⟨cond, -, named⟩ | ⟨tier, -, named⟩ <;>
    exact named.ne_empty

/-- **When the allowlist covers the configuration**: the console type names no group that
nothing else names. -/
theorem allowlist_covers_iff (s : LDAPService) :
    s.Covers ↔ ∀ name, s.NamedByConsole name → s.NamedElsewhere name := by
  constructor
  · intro covers name console
    exact (mem_groupAllowlist.mp ((covers.exact name).mpr
      ⟨ne_empty_of_namedByConsole console, .inr console⟩)).2
  · intro elsewhere
    have member {name : String} : name ∈ s.groupAllowlist ↔
        name ≠ "" ∧ (s.NamedElsewhere name ∨ s.NamedByConsole name) := by
      rw [mem_groupAllowlist]
      exact and_congr_right fun _ => ⟨.inl, fun named => named.elim id (elsewhere name)⟩
    refine ⟨pairwise_insertionSort _ _, ?_, ?_, fun _ => member, ?_, ?_⟩
    · exact (perm_insertionSort _ _).nodup_iff.mpr (nodup_dedupe _)
    · rw [mem_groupAllowlist]
      exact fun empty => empty.1 rfl
    · intro values value is named referenced
      rw [allowed, mem_dedupe, mem_filter, contains_iff_mem]
      exact ⟨⟨mem_map_of_mem is, member.mpr ⟨named, referenced⟩⟩, named⟩
    · intro groups name is named referenced
      have listed := member.mpr ⟨named, referenced⟩
      have some : s.groupAllowlist.isEmpty = false := by
        rw [isEmpty_eq_false_iff]
        exact ne_nil_of_mem listed
      refine ⟨dedupe (groups.filter s.groupAllowlist.contains), ?_, ?_⟩
      · rw [captureOIDCGroups, some]
        rfl
      · rw [mem_dedupe, mem_filter, contains_iff_mem]
        exact ⟨⟨is, listed⟩, named⟩

end LDAPService

namespace AllowlistSample

/-- The console is for the members of `console-admins`. -/
def service : LDAPService :=
  { Sample.ldapService with
    certOptions := { console := { require := some { group := "console-admins" } } } }

theorem namedByConsole : service.NamedByConsole "console-admins" :=
  .inl ⟨_, rfl, .group (by decide) rfl⟩

end AllowlistSample

open AllowlistSample in
/-- Membership in the group that the console requires is stored by nobody. -/
theorem console_group_discarded :
    service.NamedByConsole "console-admins" ∧ "console-admins" ∉ service.groupAllowlist ∧
      "console-admins" ∉ service.allowed ["console-admins"] ∧ ¬ service.Covers := by
  have absent : "console-admins" ∉ service.groupAllowlist := by decide
  refine ⟨namedByConsole, absent, by decide, ?_⟩
  intro covers
  exact absent ((covers.exact _).mpr ⟨by decide, .inr namedByConsole⟩)

end LDAP

end Ssoossh
