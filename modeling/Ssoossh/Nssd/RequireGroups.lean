import Ssoossh.Nssd.GidRule

/-!
# Required groups

With `require_groups` set, a user is served only if a membership that the gid rule keeps has
one of those names.  The rule drops a membership whose name is that of a local group with
another gid, so such a membership was meant not to count.

It is dropped only if no local group has its *gid*.  If one has, the membership is listed
under the name of that group, and what `require_groups` is compared with is still its own
name.  A membership may then satisfy the requirement by a name that is a different group's
on this host (`colliding_name_satisfies`), and `required_by_own_group_iff` says which files
and answers let it.
-/

namespace Ssoossh.Nssd

open GoBytes

/-! ## What is kept -/

/-- The loop keeps the directory names of the memberships it lists. -/
theorem mem_kept (cfg : Config) (groups : LocalDB) (answer : List NSSMembership)
    (lists : List Bytes × List Bytes) (name : Bytes) :
    name ∈ (answer.foldl (listMembership cfg groups) lists).2 ↔
      name ∈ lists.2 ∨ ∃ m ∈ answer, (membership cfg groups m).isSome = true ∧ m.name = name := by
  induction answer generalizing lists with
  | nil => simp
  | cons m answer ih =>
    rw [List.foldl_cons, ih, List.exists_mem_cons_iff, ← or_assoc]
    refine or_congr_left ?_
    unfold listMembership
    cases membership cfg groups m with
    | none => simp
    | some => simp [eq_comm]

/-- A membership that is listed: under the name of the first line with its gid, or under its
own name if no line read has its gid or its name. -/
def Listed (cfg : Config) (data : Bytes) (m : NSSMembership) : Prop :=
  cfg.inRange m.gid = true ∧
    ((∃ line, (readLines data).find? (fun line => line.id == some m.gid) = some line ∧
        validName line.name = true ∧ line.name ∉ cfg.filterGroups) ∨
      (∀ line ∈ readLines data, line.id ≠ some m.gid ∧ line.name ≠ m.name) ∧
        validName m.name = true ∧ m.name ∉ cfg.filterGroups)

theorem isSome_membership {cfg : Config} {data : Bytes} {m : NSSMembership} :
    (membership cfg (parseLocalDB data) m).isSome = true ↔ Listed cfg data m := by
  rw [Option.isSome_iff_exists]
  simp only [membership_eq_some]
  constructor
  · rintro ⟨name, ranged, valid, unfiltered, ⟨line, first, rfl⟩ | ⟨unread, rfl⟩⟩
    · exact ⟨ranged, .inl ⟨line, first, valid, unfiltered⟩⟩
    · exact ⟨ranged, .inr ⟨unread, valid, unfiltered⟩⟩
  · rintro ⟨ranged, ⟨line, first, valid, unfiltered⟩ | ⟨unread, valid, unfiltered⟩⟩
    · exact ⟨line.name, ranged, valid, unfiltered, .inl ⟨line, first, rfl⟩⟩
    · exact ⟨m.name, ranged, valid, unfiltered, .inr ⟨unread, rfl⟩⟩

/-! ## Who is served -/

section Served

variable {cfg : Config} {host : Host} {resp : NSSUserResponse}

/-- The rules a user has to pass, `require_groups` apart. -/
structure PassesOthers (cfg : Config) (host : Host) (resp : NSSUserResponse) : Prop where
  name : checkName resp.name = .ok ()
  sanity : sanity cfg host resp.name ((host.override resp.name).uid.getD resp.uid)
    ((host.override resp.name).gid.getD resp.gid) = .ok ()
  home : ∃ home, resolveHome cfg resp.name ((host.override resp.name).uid.getD resp.uid)
    (resp.home.getD []) (if (host.override resp.name).home ≠ [] then
      (host.override resp.name).home else resp.home.getD []) = .ok home

/-- A user is served if the other rules pass and a membership that is listed has a required
name. -/
theorem exists_served_iff {data : Bytes} (read : host.group = .ok (parseLocalDB data)) :
    (∃ user, servedUser cfg host resp = .ok user) ↔
      PassesOthers cfg host resp ∧ (cfg.requireGroups ≠ [] →
        ∃ m ∈ resp.groups, Listed cfg data m ∧ m.name ∈ cfg.requireGroups) := by
  have lists : memberships cfg host resp.groups =
      .ok (resp.groups.foldl (listMembership cfg (parseLocalDB data)) ([], [])) := by
    rw [memberships, read]
    rfl
  have required : checkRequired cfg resp.name
      (resp.groups.foldl (listMembership cfg (parseLocalDB data)) ([], [])).2 = .ok () ↔
      (cfg.requireGroups ≠ [] →
        ∃ m ∈ resp.groups, Listed cfg data m ∧ m.name ∈ cfg.requireGroups) := by
    have any : (resp.groups.foldl (listMembership cfg (parseLocalDB data)) ([], [])).2.any
        cfg.requireGroups.contains = true ↔
        ∃ m ∈ resp.groups, Listed cfg data m ∧ m.name ∈ cfg.requireGroups := by
      simp only [List.any_eq_true, mem_kept, List.not_mem_nil, false_or, isSome_membership,
        List.contains_iff_mem]
      constructor
      · rintro ⟨_, ⟨m, member, listed, rfl⟩, wanted⟩
        exact ⟨m, member, listed, wanted⟩
      · rintro ⟨m, member, listed, wanted⟩
        exact ⟨m.name, ⟨m, member, listed, rfl⟩, wanted⟩
    rw [checkRequired, ← any]
    by_cases none : cfg.requireGroups = []
    · simp [none]
    · simp [none]
  constructor
  · rintro ⟨user, served⟩
    simp only [servedUser, Fallible.bind_eq_ok, lists, Except.ok.injEq] at served
    obtain ⟨⟨⟩, name, ⟨⟩, sane, _, rfl, ⟨⟩, kept, home, resolved, -⟩ := served
    exact ⟨⟨name, sane, home, resolved⟩, required.mp kept⟩
  · rintro ⟨⟨name, sane, home, resolved⟩, wanted⟩
    simp only [servedUser, Fallible.bind_eq_ok, lists]
    exact ⟨_, (), name, (), sane, _, rfl, (), required.mpr wanted, home, resolved, rfl⟩

end Served

/-! ## Whose name it is -/

/-- The name of a membership is that of a local group, and not with its gid. -/
def Collides (data : Bytes) (m : NSSMembership) : Prop :=
  ∃ line, (fileEntries data).find? (fun line => line.name == m.name) = some line ∧
    line.id ≠ some m.gid

/-- A membership that satisfies the requirement as it is meant. -/
structure Satisfies (cfg : Config) (data : Bytes) (m : NSSMembership) : Prop where
  required : m.name ∈ cfg.requireGroups
  ranged : cfg.inRange m.gid = true
  own : ¬ Collides data m

/-- **When a required name is the group's own.**  An accepted user has a membership with a
required name, a gid in range and no local group of that name with another gid.  This fails
exactly where the other rules accept the user, a membership with a required name is listed, and
every membership with a required name and a gid in range collides. -/
theorem required_by_own_group_iff (cfg : Config) (host : Host) (data : Bytes)
    (resp : NSSUserResponse) (requires : cfg.requireGroups ≠ []) :
    ((∃ user, servedUser cfg { host with group := .ok (parseLocalDB data) } resp = .ok user) →
      ∃ m ∈ resp.groups, Satisfies cfg data m) ↔
    ¬ (PassesOthers cfg { host with group := .ok (parseLocalDB data) } resp ∧
      (∃ m ∈ resp.groups, m.name ∈ cfg.requireGroups ∧ Listed cfg data m) ∧
      ∀ m ∈ resp.groups, m.name ∈ cfg.requireGroups → cfg.inRange m.gid = true →
        Collides data m) := by
  rw [exists_served_iff rfl]
  constructor
  · rintro meant ⟨passes, ⟨m, member, required, listed⟩, collide⟩
    obtain ⟨own, member, satisfies⟩ := meant ⟨passes, fun _ => ⟨m, member, listed, required⟩⟩
    exact satisfies.own (collide own member satisfies.required satisfies.ranged)
  · rintro apart ⟨passes, some⟩
    obtain ⟨m, member, listed, required⟩ := some requires
    by_contra none
    refine apart ⟨passes, ⟨m, member, required, listed⟩, fun other there required ranged => ?_⟩
    by_contra own
    exact none ⟨other, there, required, ranged, own⟩

namespace Sample

/-- Two local groups. -/
def wheelAndWeb : Bytes := ofString "wheel:x:1100:\nweb:x:1200:\n"

/-- Members of `wheel` only. -/
def wheelOnly : Config := { requireGroups := [ofString "wheel"] }

/-- A user whose one membership has the name of the first group and the gid of the second. -/
def mika : NSSUserResponse where
  name := ofString "mika"
  uid := 5000
  gid := 5000
  gecos := ofString "Mika"
  home := some (ofString "/home/mika")
  shell := some (ofString "/bin/sh")
  status := active
  groups := [⟨1200, ofString "wheel"⟩]

/-- The host with the two groups and no local users. -/
def host : Host := { passwd := .ok {}, group := .ok (parseLocalDB wheelAndWeb) }

/-- The same user, in the group this host has. -/
def member : NSSUserResponse := { mika with groups := [⟨1100, ofString "wheel"⟩] }

theorem find?_wheel : (fileEntries wheelAndWeb).find? (fun line => line.name == ofString "wheel") =
    some ⟨ofString "wheel", some 1100⟩ := by
  decide +kernel

end Sample

/-- A member of the group itself is served by the name of the group. -/
theorem required_by_own_group_wheel : Sample.wheelOnly.requireGroups ≠ [] ∧
      (servedUser Sample.wheelOnly Sample.host Sample.member).toOption.isSome = true ∧
      ∃ m ∈ Sample.member.groups, Satisfies Sample.wheelOnly Sample.wheelAndWeb m := by
  have served : (servedUser Sample.wheelOnly Sample.host Sample.member).toOption.isSome = true := by
    decide +kernel
  refine ⟨by decide, served, ?_⟩
  refine (required_by_own_group_iff Sample.wheelOnly Sample.host Sample.wheelAndWeb Sample.member
    (by decide)).mpr ?_ ⟨_, Fallible.eq_ok_get served⟩
  rintro ⟨-, -, collide⟩
  obtain ⟨line, found, other⟩ := collide _ (.head _) (.head _) (by decide)
  cases Sample.find?_wheel.symm.trans found
  exact absurd rfl other

/-- Mika is in no group that this host calls `wheel`, and is served all the same. -/
theorem colliding_name_satisfies :
    (servedUser Sample.wheelOnly Sample.host Sample.mika).toOption.isSome = true ∧
      ¬ ∃ m ∈ Sample.mika.groups, Satisfies Sample.wheelOnly Sample.wheelAndWeb m := by
  refine ⟨by decide +kernel, ?_⟩
  rintro ⟨m, member, satisfies⟩
  cases List.mem_singleton.mp member
  exact satisfies.own ⟨_, Sample.find?_wheel, by decide⟩

end Ssoossh.Nssd
