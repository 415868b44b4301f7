import Ssoossh.Lib.Fallible
import Ssoossh.NSS.Lookup
import Ssoossh.NSS.Store

/-!
# Two views of one database

A host asks for users and groups by name and by number, and corrects what it has cached
about the ones from what it is told about the others.  Whatever is stored, the answers
agree, as long as every stored name is one that can be asked for.

The lemmas say for each lookup when it is answered and how.  What an account's primary
group is has three cases (`Primary`): a private group that no stored group stands in the
way of, a stored group, or a gid without a name.
-/

namespace Ssoossh.NSS

open Relational GoTime Fallible List Sheet

namespace NSSLookupService

variable {s : NSSLookupService} {db : LookupState}

/-! ## Accounts -/

/-- The row may be served. -/
def Serves {α : Type} (s : NSSLookupService) (row : PosixRow α) : Prop :=
  s.servable row.withheldAt row.deletedAt = true

theorem Serves.withheldAt {α : Type} {row : PosixRow α} (h : s.Serves row) :
    row.withheldAt = none := by
  simp only [Serves, servable, Bool.and_eq_true, Option.isNone_iff_eq_none] at h
  exact h.1

theorem Serves.retained {α : Type} {row : PosixRow α} (h : s.Serves row) {deleted : Int}
    (tombstone : row.deletedAt = some deleted) : s.pastRetention deleted = false := by
  simp only [Serves, servable, tombstone, Bool.and_eq_true, Option.all_some,
    Bool.not_eq_true'] at h
  exact h.2

/-- A row that is neither withheld nor a tombstone may be served. -/
theorem Serves.of_live {α : Type} {row : PosixRow α} (held : row.withheldAt = none)
    (live : row.deletedAt = none) : s.Serves row := by
  simp [Serves, servable, held, live]

theorem readServableUser_eq_some {selects : PosixUser → Bool} {row : PosixUser}
    (one : db.directory.accounts.rows.One selects) :
    s.readServableUser db selects = some row ↔
      row ∈ db.directory.accounts.rows.rows ∧ selects row = true ∧ s.Serves row := by
  rw [readServableUser, Option.filter_eq_some_iff, readUserRow, Rel.head?_select_eq_some one,
    and_assoc]
  rfl

/-- At most one row has a name. -/
theorem one_of_name {α : Type} {t : NSSTable α} (sheet : Sheet t) (name : String) :
    sheet.rows.One fun row => row.name == name := by
  intro a inA b inB here there
  simp only [beq_iff_eq] at here there
  exact eq_of_name inA inB (here.trans there.symm)

/-- At most one row has a uid, or a gid. -/
theorem one_of_number {α : Type} {t : NSSTable α} (sheet : Sheet t) (number : Nat) :
    sheet.rows.One fun row => row.number == number := by
  intro a inA b inB here there
  simp only [beq_iff_eq] at here there
  exact eq_of_number inA inB (here.trans there.symm)

variable {user : NSSUserResponse}

theorem buildUser_eq_ok {row : PosixUser} :
    s.buildUser db row = .ok user ↔ ∃ primary, s.primaryGroup db row = .ok primary ∧
      user =
        { name := row.name
          uid := row.number
          gid := primary.gid
          groups := primary.group.toList ++
            withOriginalGroup (memberships db row.number primary.gid) primary.original
          home := s.home row
          shell := s.shell row (status db row)
          gecos := row.own.gecos
          status := status db row } := by
  simp only [buildUser, bind_eq_ok, pure_eq_ok]
  exact exists_congr fun primary => and_congr_right fun _ => eq_comm

theorem lookupUser_eq_ok {selects : PosixUser → Bool}
    (one : db.directory.accounts.rows.One selects) :
    s.lookupUser db none selects = .ok user ↔ ∃ row ∈ db.directory.accounts.rows.rows,
      selects row = true ∧ s.Serves row ∧ s.buildUser db row = .ok user := by
  unfold lookupUser
  cases found : s.readServableUser db selects with
  | none =>
    refine ⟨nofun, ?_⟩
    rintro ⟨row, stored, picked, served, -⟩
    rw [(readServableUser_eq_some one).mpr ⟨stored, picked, served⟩] at found
    cases found
  | some row =>
    obtain ⟨stored, picked, served⟩ := (readServableUser_eq_some one).mp found
    dsimp only
    rw [answerUser, mapError_eq_ok]
    refine ⟨fun built => ⟨row, stored, picked, served, built⟩, ?_⟩
    rintro ⟨other, stored', picked', -, built⟩
    rw [one row stored other stored' picked picked']
    exact built

/-- An account that is served is served under its name and under its number. -/
theorem userByUID_eq_ok {uid : Nat} :
    s.userByUID db none uid = .ok user ↔ ∃ row ∈ db.directory.accounts.rows.rows,
      row.number = uid ∧ s.Serves row ∧ s.buildUser db row = .ok user := by
  rw [userByUID, lookupUser_eq_ok (one_of_number _ uid)]
  simp only [beq_iff_eq]

theorem bind_validNSSName {α : Type} {name : String} {rest : Except NSSError α} {result : α} :
    (validNSSName name >>= fun _ => rest) = .ok result ↔
      PosixName.valid name = .ok () ∧ rest = .ok result := by
  simp only [validNSSName, bind_eq_ok, mapError_eq_ok]
  constructor
  · rintro ⟨⟨⟩, valid, found⟩
    exact ⟨valid, found⟩
  · rintro ⟨valid, found⟩
    exact ⟨(), valid, found⟩

theorem userByName_eq_ok {name : String} :
    s.userByName db none name = .ok user ↔ PosixName.valid name = .ok () ∧
      ∃ row ∈ db.directory.accounts.rows.rows,
        row.name = name ∧ s.Serves row ∧ s.buildUser db row = .ok user := by
  rw [userByName, bind_validNSSName, lookupUser_eq_ok (one_of_name _ name)]
  simp only [beq_iff_eq]

/-! ## Primary groups -/

/-- A live group of the directory. -/
def Listed (db : LookupState) (m : NSSMembership) : Prop :=
  ∃ g ∈ db.directory.groups.rows.rows, g.withheldAt = none ∧ g.deletedAt = none ∧
    m = ⟨g.number, g.name⟩

/-- No stored group, served or not, has the number or the name of an account. -/
def Free (db : LookupState) (user : PosixUser) : Prop :=
  ∀ g ∈ db.directory.groups.rows.rows, g.number ≠ user.number ∧ g.name ≠ user.name

/-- What an account's primary group can be. -/
inductive Primary (s : NSSLookupService) (db : LookupState) (user : PosixUser) : NSSPrimary → Prop
  | own {original : Option NSSMembership} (mode : s.autoPrivateGroups ≠ .off) (free : Free db user)
      (other : ∀ m, original = some m →
        Listed db m ∧ user.own.gid = some m.gid ∧ m.gid ≠ user.number) :
      Primary s db user ⟨user.number, some (privateGroup user), original⟩
  | named {gid : Nat} {m : NSSMembership} (stored : user.own.gid = some gid) (listed : Listed db m)
      (same : m.gid = gid) : Primary s db user ⟨gid, some m, none⟩
  | unnamed {gid : Nat} (stored : user.own.gid = some gid)
      (absent : ∀ g ∈ db.directory.groups.rows.rows, g.withheldAt = none → g.deletedAt = none →
        g.number ≠ gid) : Primary s db user ⟨gid, none, none⟩

variable {user : PosixUser}

theorem of_byGID {gid : Nat} {g : PosixGroup} (h : byGID (groupHolders db user) gid = some g) :
    g ∈ db.directory.groups.rows.rows ∧ g.number = gid := by
  have member := (Rel.mem_select.mp (mem_of_find?_eq_some h)).1
  exact ⟨member, by simpa using List.find?_some h⟩

/-- The groups that hold an account's uid or gid are among those that are read. -/
theorem of_byGID_none {gid : Nat} (asked : gid = user.number ∨ user.own.gid = some gid)
    (h : byGID (groupHolders db user) gid = none) :
    ∀ g ∈ db.directory.groups.rows.rows, g.number ≠ gid := by
  rintro g stored rfl
  have holder : g ∈ groupHolders db user := by
    refine Rel.mem_select.mpr ⟨stored, ?_⟩
    rcases asked with own | own
    · simp [own]
    · simp [own]
  exact List.find?_eq_none.mp h g holder (by simp)

theorem of_nameHeld_false (h : nameHeld (groupHolders db user) user.name = false) :
    ∀ g ∈ db.directory.groups.rows.rows, g.name ≠ user.name := by
  intro g stored same
  have holder : g ∈ groupHolders db user := Rel.mem_select.mpr ⟨stored, by simp [same]⟩
  exact any_eq_false.mp h g holder (by simp [same])

variable {m : NSSMembership}

theorem of_servableMembership {gid : Nat}
    (h : servableMembership (byGID (groupHolders db user) gid) = some m) :
    Listed db m ∧ m.gid = gid := by
  obtain ⟨g, found, rfl⟩ := Option.map_eq_some_iff.mp h
  obtain ⟨holder, live⟩ := Option.filter_eq_some_iff.mp found
  obtain ⟨stored, same⟩ := of_byGID holder
  simp only [Bool.and_eq_true, Option.isNone_iff_eq_none] at live
  exact ⟨⟨g, stored, live.1, live.2, rfl⟩, same⟩

theorem of_servableMembership_none {gid : Nat} (asked : user.own.gid = some gid)
    (h : servableMembership (byGID (groupHolders db user) gid) = none) :
    ∀ g ∈ db.directory.groups.rows.rows, g.withheldAt = none → g.deletedAt = none → g.number ≠ gid := by
  intro g there held live same
  cases found : byGID (groupHolders db user) gid with
  | none => exact of_byGID_none (.inr asked) found g there same
  | some g' =>
    obtain ⟨stored, same'⟩ := of_byGID found
    obtain rfl := eq_of_number stored there (same'.trans same.symm)
    simp [found, servableMembership, held, live] at h

theorem of_primaryGroup {primary : NSSPrimary}
    (h : s.primaryGroup db user = .ok primary) : Primary s db user primary := by
  have stored : ∀ {gid : Nat}, user.own.gid = some gid →
      Primary s db user ⟨gid, servableMembership (byGID (groupHolders db user) gid), none⟩ := by
    intro gid here
    cases listed : servableMembership (byGID (groupHolders db user) gid) with
    | none => exact .unnamed here (of_servableMembership_none here listed)
    | some => exact .named here (of_servableMembership listed).1 (of_servableMembership listed).2
  unfold primaryGroup at h
  cases mode : s.autoPrivateGroups with
  | on =>
    simp only [mode] at h
    split at h
    · cases h
    · rename_i clear
      simp only [Bool.or_eq_true, not_or, Bool.not_eq_true, Option.isSome_eq_false_iff,
        Option.isNone_iff_eq_none] at clear
      cases h
      refine .own (by simp [mode]) (fun g there => ⟨of_byGID_none (.inl rfl) clear.1 g there,
        of_nameHeld_false clear.2 g there⟩) fun m original => ?_
      cases here : user.own.gid with
      | none =>
        rw [here] at original
        cases original
      | some =>
        rw [here] at original
        dsimp only at original
        split at original
        · rename_i apart
          obtain ⟨listed, same⟩ := of_servableMembership original
          exact ⟨listed, by rw [same], by rw [same]; exact apart.1⟩
        · cases original
  | hybrid =>
    cases here : user.own.gid with
    | none =>
      simp only [mode, here] at h
      cases h
    | some =>
      simp only [mode, here, true_and] at h
      split at h
      · rename_i private'
        split at h
        · cases h
          exact .unnamed here fun g there _ _ => of_byGID_none (.inr here) private'.2 g there
        · rename_i unheld
          cases h
          obtain ⟨rfl, none⟩ := private'
          exact .own (by simp [mode]) (fun g there => ⟨of_byGID_none (.inl rfl) none g there,
            of_nameHeld_false (by simpa using unheld) g there⟩) nofun
      · cases h
        exact stored here
  | off =>
    cases here : user.own.gid with
    | none =>
      simp only [mode, here] at h
      cases h
    | some =>
      simp only [mode, here, reduceCtorEq, false_and, if_false] at h
      cases h
      exact stored here

/-! ## Groups -/

theorem buildGroup_name (group : PosixGroup) : (s.buildGroup db group).name = group.name := by
  unfold buildGroup
  split <;> rfl

theorem buildGroup_gid (group : PosixGroup) : (s.buildGroup db group).gid = group.number := by
  unfold buildGroup
  split <;> rfl

variable {group : NSSGroupResponse}

theorem privateAnswer_eq_some : s.privateAnswer db user = some group ↔
      (∃ primary, s.primaryGroup db user = .ok primary ∧ primary.group = some (privateGroup user)) ∧
        group = ⟨user.name, user.number, [], false⟩ := by
  unfold privateAnswer
  cases s.primaryGroup db user with
  | error => simp
  | ok primary =>
    by_cases own : primary.group = some (privateGroup user)
    · simp [own, eq_comm]
    · simp [own]

/-- A group that is answered is a stored group, or the private group of an account under a name
and number that no stored group has. -/
inductive Answers (s : NSSLookupService) (db : LookupState) : NSSGroupResponse → Prop
  | stored {g : PosixGroup} (there : g ∈ db.directory.groups.rows.rows) (serves : s.Serves g) :
      Answers s db (s.buildGroup db g)
  | own {user : PosixUser} (mode : s.autoPrivateGroups ≠ .off)
      (there : user ∈ db.directory.accounts.rows.rows) (serves : s.Serves user) (free : Free db user)
      (primary : ∃ primary, s.primaryGroup db user = .ok primary ∧
        primary.group = some (privateGroup user)) :
      Answers s db ⟨user.name, user.number, [], false⟩

/-- A private group is no stored group. -/
theorem free_of_primary (own : ∃ primary, s.primaryGroup db user = .ok primary ∧
      primary.group = some (privateGroup user))
    (absent : (∀ g ∈ db.directory.groups.rows.rows, g.number ≠ user.number) ∨
      ∀ g ∈ db.directory.groups.rows.rows, g.name ≠ user.name) : Free db user := by
  obtain ⟨primary, found, same⟩ := own
  cases of_primaryGroup found with
  | own mode free => exact free
  | named stored listed =>
    obtain rfl := Option.some.inj same
    obtain ⟨g, there, -, -, equal⟩ := listed
    rcases absent with absent | absent
    · exact (absent g there (congrArg NSSMembership.gid equal).symm).elim
    · exact (absent g there (congrArg NSSMembership.name equal).symm).elim
  | unnamed => cases same

theorem readGroup_eq_some {selects : PosixGroup → Bool} {owner : PosixUser → Bool}
    (oneGroup : db.directory.groups.rows.One selects)
    (oneUser : db.directory.accounts.rows.One owner) :
    s.readGroup db selects owner = some group ↔
      (∃ g ∈ db.directory.groups.rows.rows, selects g = true ∧ s.Serves g ∧
        s.buildGroup db g = group) ∨
      ((∀ g ∈ db.directory.groups.rows.rows, selects g = false) ∧ s.autoPrivateGroups ≠ .off ∧
        ∃ user ∈ db.directory.accounts.rows.rows, owner user = true ∧ s.Serves user ∧
          s.privateAnswer db user = some group) := by
  unfold readGroup
  cases found : (db.directory.groups.rows.select selects).head? with
  | some g =>
    obtain ⟨there, picked⟩ := (Rel.head?_select_eq_some oneGroup).mp found
    dsimp only
    constructor
    · intro answered
      split at answered
      · rename_i serves
        exact .inl ⟨g, there, picked, serves, Option.some.inj answered⟩
      · cases answered
    · rintro (⟨g', there', picked', serves, rfl⟩ | ⟨none, -⟩)
      · obtain rfl := oneGroup g there g' there' picked picked'
        exact if_pos serves
      · rw [none g there] at picked
        cases picked
  | none =>
    have absent := Rel.head?_select_eq_none.mp found
    dsimp only
    constructor
    · intro answered
      split at answered
      · cases answered
      · rename_i mode
        obtain ⟨user, read, answer⟩ := Option.bind_eq_some_iff.mp answered
        obtain ⟨there, picked, serves⟩ := (readServableUser_eq_some oneUser).mp read
        exact .inr ⟨absent, mode, user, there, picked, serves, answer⟩
    · rintro (⟨g, there, picked, -⟩ | ⟨-, mode, user, there, picked, serves, answer⟩)
      · rw [absent g there] at picked
        cases picked
      · rw [if_neg mode, (readServableUser_eq_some oneUser).mpr ⟨there, picked, serves⟩]
        exact answer

theorem lookupGroup_eq_ok {read : LookupState → Option NSSGroupResponse} :
    s.lookupGroup db none read = .ok group ↔ read db = some group := by
  unfold lookupGroup
  cases read db with
  | none | some => simp

/-- **Groups by gid.** -/
theorem groupByGID_eq_ok {gid : Nat} :
    s.groupByGID db none gid = .ok group ↔ group.gid = gid ∧ Answers s db group := by
  rw [groupByGID, lookupGroup_eq_ok, readGroup_eq_some (one_of_number _ gid) (one_of_number _ gid)]
  simp only [beq_iff_eq, beq_eq_false_iff_ne]
  constructor
  · rintro (⟨g, there, rfl, serves, rfl⟩ | ⟨absent, mode, user, there, rfl, serves, answer⟩)
    · exact ⟨buildGroup_gid g, .stored there serves⟩
    · obtain ⟨own, rfl⟩ := privateAnswer_eq_some.mp answer
      exact ⟨rfl, .own mode there serves (free_of_primary own (.inl absent)) own⟩
  · rintro ⟨rfl, answer⟩
    cases answer with
    | stored there serves => exact .inl ⟨_, there, (buildGroup_gid _).symm, serves, rfl⟩
    | own mode there serves free primary =>
      exact .inr ⟨fun g stored => (free g stored).1, mode, _, there, rfl, serves,
        privateAnswer_eq_some.mpr ⟨primary, rfl⟩⟩

/-- **Groups by name.** -/
theorem groupByName_eq_ok {name : String} : s.groupByName db none name = .ok group ↔
      PosixName.valid name = .ok () ∧ group.name = name ∧ Answers s db group := by
  rw [groupByName, bind_validNSSName, lookupGroup_eq_ok,
    readGroup_eq_some (one_of_name _ name) (one_of_name _ name)]
  simp only [beq_iff_eq, beq_eq_false_iff_ne]
  refine and_congr_right fun _ => ?_
  constructor
  · rintro (⟨g, there, rfl, serves, rfl⟩ | ⟨absent, mode, user, there, rfl, serves, answer⟩)
    · exact ⟨buildGroup_name g, .stored there serves⟩
    · obtain ⟨own, rfl⟩ := privateAnswer_eq_some.mp answer
      exact ⟨rfl, .own mode there serves (free_of_primary own (.inr absent)) own⟩
  · rintro ⟨rfl, answer⟩
    cases answer with
    | stored there serves => exact .inl ⟨_, there, (buildGroup_name _).symm, serves, rfl⟩
    | own mode there serves free primary =>
      exact .inr ⟨fun g stored => (free g stored).2, mode, _, there, rfl, serves,
        privateAnswer_eq_some.mpr ⟨primary, rfl⟩⟩

/-! ## Memberships -/

theorem mem_memberships {uid gid : Nat} :
    m ∈ memberships db uid gid ↔ ∃ g ∈ db.directory.groups.rows.rows,
      (∃ row ∈ db.directory.members.rows, row.uid = uid ∧ row.gid = g.number) ∧ g.number ≠ gid ∧
        g.withheldAt = none ∧ g.deletedAt = none ∧ m = ⟨g.number, g.name⟩ := by
  simp only [memberships, mem_insertionSort, mem_flatMap, Rel.mem_select, mem_map,
    Bool.and_eq_true, beq_iff_eq, bne_iff_ne, Option.isNone_iff_eq_none]
  constructor
  · rintro ⟨row, ⟨stored, rfl⟩, g, ⟨there, ⟨⟨number, other⟩, held⟩, live⟩, rfl⟩
    exact ⟨g, there, ⟨row, stored, rfl, number.symm⟩, other, held, live, rfl⟩
  · rintro ⟨g, there, ⟨row, stored, rfl, number⟩, other, held, live, rfl⟩
    exact ⟨row, ⟨stored, rfl⟩, g, ⟨there, ⟨⟨number.symm, other⟩, held⟩, live⟩, rfl⟩

variable {l : List NSSMembership}

/-- A list in the order of its gids, no gid twice. -/
theorem strict_of_sorted (sorted : l.Pairwise fun a b => a.gid ≤ b.gid)
    (nodup : (l.map (·.gid)).Nodup) : l.Pairwise fun a b => a.gid < b.gid :=
  (sorted.and (pairwise_map.mp nodup)).imp fun both => lt_of_le_of_ne both.1 both.2

theorem memberships_strict (uid gid : Nat) :
    (memberships db uid gid).Pairwise fun a b => a.gid < b.gid := by
  refine strict_of_sorted (pairwise_insertionSort _ _) ?_
  refine ((perm_insertionSort _ _).map _).nodup_iff.mpr (pairwise_map.mpr ?_)
  -- one membership joins one group, and two join groups of different gids
  refine pairwise_flatMap.mpr ⟨fun row _ => pairwise_map.mpr ?_, ?_⟩
  · refine (db.directory.groups.rows.distinct.filter _).imp_of_mem fun inA inB apart same => ?_
    exact apart (.inr (.inl same))
  · refine (db.directory.members.distinct.filter _).imp_of_mem ?_
    intro a b inA inB apart x joinsA y joinsB same
    simp only [mem_map, Rel.mem_select, Bool.and_eq_true, beq_iff_eq] at joinsA joinsB
    obtain ⟨g, ⟨-, ⟨⟨gidA, -⟩, -⟩, -⟩, rfl⟩ := joinsA
    obtain ⟨g', ⟨-, ⟨⟨gidB, -⟩, -⟩, -⟩, rfl⟩ := joinsB
    have uidA : a.uid = uid := by simpa using (mem_filter.mp inA).2
    have uidB : b.uid = uid := by simpa using (mem_filter.mp inB).2
    exact apart ⟨gidA.symm.trans (same.trans gidB), uidA.trans uidB.symm⟩

variable {original : Option NSSMembership}

theorem mem_withOriginalGroup
    (h : m ∈ withOriginalGroup l original) : m ∈ l ∨ original = some m := by
  unfold withOriginalGroup at h
  split at h
  · exact .inl h
  · split at h
    · exact .inl h
    · rcases (mem_orderedInsert _).mp h with rfl | member
      · exact .inr rfl
      · exact .inl member

theorem mem_withOriginalGroup_of_mem (h : m ∈ l) : m ∈ withOriginalGroup l original := by
  unfold withOriginalGroup
  split
  · exact h
  · split
    · exact h
    · exact (mem_orderedInsert _).mpr (.inr h)

theorem withOriginalGroup_strict (strict : l.Pairwise fun a b => a.gid < b.gid) :
    (withOriginalGroup l original).Pairwise fun a b => a.gid < b.gid := by
  unfold withOriginalGroup
  split
  · exact strict
  · rename_i m
    split
    · exact strict
    · rename_i absent
      refine strict_of_sorted ((strict.imp le_of_lt).orderedInsert m l) ?_
      refine ((perm_orderedInsert _ m l).map _).nodup_iff.mpr ?_
      refine nodup_cons.mpr ⟨fun member => absent ?_, pairwise_map.mpr (strict.imp ne_of_lt)⟩
      obtain ⟨other, there, same⟩ := mem_map.mp member
      exact any_eq_true.mpr ⟨other, there, by simpa using same⟩

/-- Live groups with different gids have different names. -/
theorem nodup_names (listed : ∀ m ∈ l, Listed db m)
    (nodup : (l.map (·.gid)).Nodup) : (l.map (·.name)).Nodup := by
  refine pairwise_map.mpr ((pairwise_map.mp nodup).imp_of_mem fun inA inB apart same => ?_)
  obtain ⟨g, there, -, -, rfl⟩ := listed _ inA
  obtain ⟨g', there', -, -, rfl⟩ := listed _ inB
  exact apart (by rw [eq_of_name there there' same])

theorem mem_memberNames {gid : Nat} {name : String} :
    name ∈ s.memberNames db gid ↔ ∃ a ∈ db.directory.accounts.rows.rows,
      (∃ row ∈ db.directory.members.rows, row.gid = gid ∧ row.uid = a.number) ∧
        a.withheldAt = none ∧ (∀ deleted, a.deletedAt = some deleted → s.retentionCutoff ≤ deleted) ∧
        a.name = name := by
  simp only [memberNames, mem_map, mem_insertionSort, mem_flatMap, Rel.mem_select,
    Bool.and_eq_true, beq_iff_eq, Option.isNone_iff_eq_none, Option.all_eq_true, decide_eq_true_eq]
  constructor
  · rintro ⟨a, ⟨row, ⟨stored, rfl⟩, there, ⟨number, held⟩, kept⟩, rfl⟩
    exact ⟨a, there, ⟨row, stored, rfl, number.symm⟩, held, kept, rfl⟩
  · rintro ⟨a, there, ⟨row, stored, rfl, number⟩, held, kept, rfl⟩
    exact ⟨a, ⟨row, ⟨stored, rfl⟩, there, ⟨number.symm, held⟩, kept⟩, rfl⟩

/-! ## The groups of a user -/

section Groups

variable {row : PosixUser} {primary : NSSPrimary}

/-- The groups of an account after its primary one. -/
def supplementary (db : LookupState) (row : PosixUser) (primary : NSSPrimary) : List NSSMembership :=
  withOriginalGroup (memberships db row.number primary.gid) primary.original

theorem supplementary_strict : (supplementary db row primary).Pairwise fun a b => a.gid < b.gid :=
  withOriginalGroup_strict (memberships_strict _ _)

section

variable (shape : Primary s db row primary)
include shape

theorem of_mem_supplementary {m : NSSMembership}
    (h : m ∈ supplementary db row primary) : Listed db m ∧ m.gid ≠ primary.gid := by
  rcases mem_withOriginalGroup h with member | original
  · obtain ⟨g, there, -, other, held, live, rfl⟩ := mem_memberships.mp member
    exact ⟨⟨g, there, held, live, rfl⟩, other⟩
  · cases shape with
    | own mode free other => exact ⟨(other m original).1, (other m original).2.2⟩
    | named | unnamed => cases original

theorem gid_of_primary {m : NSSMembership}
    (named : primary.group = some m) : m.gid = primary.gid := by
  cases shape with
  | own =>
    obtain rfl := Option.some.inj named
    rfl
  | named stored listed same =>
    obtain rfl := Option.some.inj named
    exact same
  | unnamed => cases named

theorem nodup_gids :
    ((primary.group.toList ++ supplementary db row primary).map (·.gid)).Nodup := by
  have rest : ((supplementary db row primary).map (·.gid)).Nodup :=
    pairwise_map.mpr (supplementary_strict.imp ne_of_lt)
  cases group : primary.group with
  | none => exact rest
  | some =>
    refine nodup_cons.mpr ⟨fun member => ?_, rest⟩
    obtain ⟨other, there, same⟩ := mem_map.mp member
    exact (of_mem_supplementary shape there).2 (same.trans (gid_of_primary shape group))

theorem nodup_groupNames :
    ((primary.group.toList ++ supplementary db row primary).map (·.name)).Nodup := by
  have gids := nodup_gids shape
  have listed : ∀ m ∈ supplementary db row primary, Listed db m := fun m member =>
    (of_mem_supplementary shape member).1
  cases shape with
  | own mode free =>
    refine nodup_cons.mpr ⟨fun member => ?_, nodup_names listed (nodup_cons.mp gids).2⟩
    obtain ⟨m, there, same⟩ := mem_map.mp member
    obtain ⟨g, stored, -, -, rfl⟩ := listed m there
    exact (free g stored).2 same
  | named stored group =>
    exact nodup_names (forall_mem_cons.mpr ⟨group, listed⟩) gids
  | unnamed => exact nodup_names listed gids

end

/-- Every group of a served account is answered, under its gid and its name. -/
theorem answers_of_group (there : row ∈ db.directory.accounts.rows.rows) (serves : s.Serves row)
    (found : s.primaryGroup db row = .ok primary) {m : NSSMembership}
    (h : m ∈ primary.group.toList ++ supplementary db row primary) :
    ∃ group, Answers s db group ∧ group.gid = m.gid ∧ group.name = m.name := by
  have stored : Listed db m → ∃ group, Answers s db group ∧ group.gid = m.gid ∧ group.name = m.name := by
    rintro ⟨g, here, held, live, rfl⟩
    exact ⟨s.buildGroup db g, .stored here (.of_live held live), buildGroup_gid g, buildGroup_name g⟩
  have shape := of_primaryGroup found
  rcases mem_append.mp h with member | member
  · cases shape with
    | own mode free =>
      obtain rfl := mem_singleton.mp member
      exact ⟨_, .own mode there serves free ⟨_, found, rfl⟩, rfl, rfl⟩
    | named gid listed =>
      obtain rfl := mem_singleton.mp member
      exact stored listed
    | unnamed => cases member
  · exact stored (of_mem_supplementary shape member).1

/-- A tombstone that is still served is still listed.  The one retention period for which the two
computations differ is the longest there is. -/
theorem cutoff_le_of_retained {deleted : Int} (low : minInt64 ≤ s.tombstoneRetention)
    (high : s.tombstoneRetention < maxInt64) (h : s.pastRetention deleted = false) :
    s.retentionCutoff ≤ deleted := by
  simp only [pastRetention, gt_iff_lt, decide_eq_false_iff_not, not_lt] at h
  unfold Time.sub at h
  unfold retentionCutoff Time.add
  omega

/-- Whether an account is listed with a group and whether the group is listed with the account. -/
theorem mem_groups_iff_mem_members (low : minInt64 ≤ s.tombstoneRetention)
    (high : s.tombstoneRetention < maxInt64) (there : row ∈ db.directory.accounts.rows.rows)
    (serves : s.Serves row) (shape : Primary s db row primary) {g : PosixGroup}
    (stored : g ∈ db.directory.groups.rows.rows) (held : g.withheldAt = none)
    (live : g.deletedAt = none) (other : g.number ≠ primary.gid)
    (original : row.own.gid ≠ some g.number) :
    ⟨g.number, g.name⟩ ∈ primary.group.toList ++ supplementary db row primary ↔
      row.name ∈ s.memberNames db g.number := by
  have listed : ⟨g.number, g.name⟩ ∈ primary.group.toList ++ supplementary db row primary ↔
      ⟨g.number, g.name⟩ ∈ memberships db row.number primary.gid := by
    refine ⟨fun member => ?_, fun member =>
      mem_append_right _ (mem_withOriginalGroup_of_mem member)⟩
    rcases mem_append.mp member with first | rest
    · exact (other (gid_of_primary shape (Option.mem_toList.mp first))).elim
    · refine (mem_withOriginalGroup rest).resolve_right fun own => ?_
      cases shape with
      | own mode free others => exact original (others _ own).2.1
      | named | unnamed => cases own
  rw [listed, mem_memberships, mem_memberNames]
  constructor
  · rintro ⟨g', stored', ⟨member, there', uid, gid⟩, -, -, -, same⟩
    have number : g.number = g'.number := congrArg NSSMembership.gid same
    exact ⟨row, there, ⟨member, there', gid.trans number.symm, uid⟩, serves.withheldAt,
      fun deleted tombstone => cutoff_le_of_retained low high (serves.retained tombstone), rfl⟩
  · rintro ⟨a, there', ⟨member, joined, gid, uid⟩, -, -, name⟩
    obtain rfl := eq_of_name there' there name
    exact ⟨g, stored, ⟨member, joined, uid, gid⟩, other, held, live, rfl⟩

/-- A live stored group with the primary gid comes first. -/
theorem head?_of_live (shape : Primary s db row primary) {g : PosixGroup}
    (stored : g ∈ db.directory.groups.rows.rows) (held : g.withheldAt = none)
    (live : g.deletedAt = none) (same : g.number = primary.gid) :
    (primary.group.toList ++ supplementary db row primary).head? = some ⟨g.number, g.name⟩ := by
  cases shape with
  | own mode free => exact ((free g stored).1 same).elim
  | named here listed gid =>
    obtain ⟨g', stored', -, -, rfl⟩ := listed
    obtain rfl := eq_of_number stored stored' (same.trans gid.symm)
    rfl
  | unnamed here absent => exact (absent g stored held live same).elim

end Groups

/-! ## What is served -/

/-- A user lookup answers with this. -/
def ServesUser (s : NSSLookupService) (db : LookupState) (user : NSSUserResponse) : Prop :=
  (∃ name, s.userByName db none name = .ok user) ∨ ∃ uid, s.userByUID db none uid = .ok user

/-- A group lookup answers with this. -/
def ServesGroup (s : NSSLookupService) (db : LookupState) (group : NSSGroupResponse) : Prop :=
  (∃ name, s.groupByName db none name = .ok group) ∨ ∃ gid, s.groupByGID db none gid = .ok group

theorem ServesUser.row {user : NSSUserResponse} (h : s.ServesUser db user) :
    ∃ row ∈ db.directory.accounts.rows.rows, s.Serves row ∧ s.buildUser db row = .ok user := by
  rcases h with ⟨name, found⟩ | ⟨uid, found⟩
  · obtain ⟨-, row, there, -, serves, built⟩ := userByName_eq_ok.mp found
    exact ⟨row, there, serves, built⟩
  · obtain ⟨row, there, -, serves, built⟩ := userByUID_eq_ok.mp found
    exact ⟨row, there, serves, built⟩

variable {group : NSSGroupResponse}

theorem ServesGroup.answers (h : s.ServesGroup db group) : Answers s db group := by
  rcases h with ⟨name, found⟩ | ⟨gid, found⟩
  · exact (groupByName_eq_ok.mp found).2.2
  · exact (groupByGID_eq_ok.mp found).2

/-- The members of a group are accounts that are not withheld. -/
theorem Answers.members (h : Answers s db group) {name : String} (member : name ∈ group.members) :
    ∃ a ∈ db.directory.accounts.rows.rows, a.withheldAt = none ∧ a.name = name := by
  cases h with
  | stored =>
    unfold buildGroup at member
    split at member
    · cases member
    · have listed := mem_of_mem_take (mem_of_mem_take member)
      obtain ⟨a, stored, -, held, -, same⟩ := mem_memberNames.mp listed
      exact ⟨a, stored, held, same⟩
  | own => cases member

/-- The name and the number of a group that is withheld are nobody's. -/
theorem Answers.apart (h : Answers s db group) {g : PosixGroup}
    (there : g ∈ db.directory.groups.rows.rows) (withheld : g.withheldAt ≠ none) :
    group.name ≠ g.name ∧ group.gid ≠ g.number := by
  cases h with
  | stored here serves =>
    rw [buildGroup_name, buildGroup_gid]
    refine ⟨fun same => withheld ?_, fun same => withheld ?_⟩
    · rw [← eq_of_name here there same]
      exact serves.withheldAt
    · rw [← eq_of_number here there same]
      exact serves.withheldAt
  | own mode here serves free =>
    exact ⟨fun same => (free g there).2 same.symm, fun same => (free g there).1 same.symm⟩

theorem answers_of_user {row : PosixUser} {user : NSSUserResponse}
    (there : row ∈ db.directory.accounts.rows.rows) (serves : s.Serves row)
    (built : s.buildUser db row = .ok user) {m : NSSMembership} (member : m ∈ user.groups) :
    ∃ group, Answers s db group ∧ group.gid = m.gid ∧ group.name = m.name := by
  obtain ⟨primary, own, rfl⟩ := buildUser_eq_ok.mp built
  exact answers_of_group there serves own member

/-! ## The two views -/

/-- Every stored name is one that can be asked for. -/
structure ValidNames (d : Directory) : Prop where
  accounts : ∀ row ∈ d.accounts.rows.rows, PosixName.valid row.name = .ok ()
  groups : ∀ row ∈ d.groups.rows.rows, PosixName.valid row.name = .ok ()

/-- A group that is answered can be asked for by name. -/
theorem Answers.valid (h : Answers s db group)
    (valid : ValidNames db.directory) : PosixName.valid group.name = .ok () := by
  cases h with
  | stored there =>
    rw [buildGroup_name]
    exact valid.groups _ there
  | own mode there => exact valid.accounts _ there

/-- **Lookups by name and by number are two views of one database.**  In every state whose stored
names can be asked for, under every mode and at every instant:
* a group found by name has that name and is found, the same, by its gid, and conversely;
* the same holds of users;
* a user's groups are what the lookups of their gids and of their names answer, no gid and no
  name occurs twice, and they are in the order of their gids after the primary group;
* that one comes first if it is named, by a live stored group or as the user's private group;
* apart from the primary gid and the gid of the user's own entry, a live stored group is
  among a user's groups exactly if the user is among its members, and no private group is
  another user's. -/
theorem lookups_agree (s : NSSLookupService) (db : LookupState) (valid : ValidNames db.directory)
    (low : minInt64 ≤ s.tombstoneRetention) (high : s.tombstoneRetention < maxInt64) :
    (∀ name group, s.groupByName db none name = .ok group →
      group.name = name ∧ s.groupByGID db none group.gid = .ok group) ∧
    (∀ gid group, s.groupByGID db none gid = .ok group →
      group.gid = gid ∧ s.groupByName db none group.name = .ok group) ∧
    (∀ name user, s.userByName db none name = .ok user →
      user.name = name ∧ s.userByUID db none user.uid = .ok user) ∧
    (∀ uid user, s.userByUID db none uid = .ok user →
      user.uid = uid ∧ s.userByName db none user.name = .ok user ∧
      (∀ m ∈ user.groups, ∃ group, s.groupByGID db none m.gid = .ok group ∧
        s.groupByName db none m.name = .ok group ∧ group.gid = m.gid ∧ group.name = m.name) ∧
      (user.groups.map (·.gid)).Nodup ∧ (user.groups.map (·.name)).Nodup ∧
      (∃ rest, rest.Pairwise (fun a b : NSSMembership => a.gid < b.gid) ∧
        ((∃ m, m.gid = user.gid ∧ user.groups = m :: rest) ∨
          user.groups = rest ∧ ∀ m ∈ rest, m.gid ≠ user.gid)) ∧
      (∀ g ∈ db.directory.groups.rows.rows, g.withheldAt = none → g.deletedAt = none →
        g.number = user.gid → user.groups.head? = some ⟨g.number, g.name⟩) ∧
      (∀ group, s.groupByGID db none user.gid = .ok group →
        (∀ g ∈ db.directory.groups.rows.rows, g.number ≠ user.gid) → user.gid = uid →
          user.groups.head? = some ⟨uid, user.name⟩) ∧
      (∀ g ∈ db.directory.groups.rows.rows, g.withheldAt = none → g.deletedAt = none →
        g.number ≠ user.gid →
        (∀ row ∈ db.directory.accounts.rows.rows, row.number = uid → row.own.gid ≠ some g.number) →
          (⟨g.number, g.name⟩ ∈ user.groups ↔ user.name ∈ s.memberNames db g.number)) ∧
      (∀ gid group, s.groupByGID db none gid = .ok group →
        (∀ g ∈ db.directory.groups.rows.rows, g.number ≠ gid) → gid ≠ user.gid →
          group.members = [] ∧ ∀ m ∈ user.groups, m.gid ≠ gid)) := by
  refine ⟨fun name group found => ?_, fun gid group found => ?_, fun name user found => ?_,
    fun uid user found => ?_⟩
  · obtain ⟨-, same, answer⟩ := groupByName_eq_ok.mp found
    exact ⟨same, groupByGID_eq_ok.mpr ⟨rfl, answer⟩⟩
  · obtain ⟨same, answer⟩ := groupByGID_eq_ok.mp found
    exact ⟨same, groupByName_eq_ok.mpr ⟨answer.valid valid, rfl, answer⟩⟩
  · obtain ⟨-, row, there, rfl, serves, built⟩ := userByName_eq_ok.mp found
    obtain ⟨primary, -, rfl⟩ := buildUser_eq_ok.mp built
    exact ⟨rfl, userByUID_eq_ok.mpr ⟨row, there, rfl, serves, built⟩⟩
  · obtain ⟨row, there, rfl, serves, built⟩ := userByUID_eq_ok.mp found
    obtain ⟨primary, own, rfl⟩ := buildUser_eq_ok.mp built
    have shape := of_primaryGroup own
    refine ⟨rfl, userByName_eq_ok.mpr ⟨valid.accounts row there, row, there, rfl, serves, built⟩,
      fun m member => ?_, nodup_gids shape, nodup_groupNames shape, ?_,
      fun g stored held live same => head?_of_live shape stored held live same,
      fun group answered absent same => ?_, fun g stored held live other original => ?_, fun gid group answered absent other => ?_⟩
    · obtain ⟨group, answer, gid, name⟩ := answers_of_user there serves built member
      refine ⟨group, groupByGID_eq_ok.mpr ⟨gid, answer⟩,
        groupByName_eq_ok.mpr ⟨?_, name, answer⟩, gid, name⟩
      rw [← name]
      exact answer.valid valid
    · refine ⟨supplementary db row primary, supplementary_strict, ?_⟩
      cases group : primary.group with
      | none => exact .inr ⟨rfl, fun m member => (of_mem_supplementary shape member).2⟩
      | some m => exact .inl ⟨m, gid_of_primary shape group, rfl⟩
    · obtain ⟨gid, answer⟩ := groupByGID_eq_ok.mp answered
      cases answer with
      | stored here => exact (absent _ here ((buildGroup_gid _).symm.trans gid)).elim
      | own mode here serves free private' =>
        obtain rfl := eq_of_number here there (gid.trans same)
        obtain ⟨primary', own', named⟩ := private'
        cases own.symm.trans own'
        rw [named]
        rfl
    · exact mem_groups_iff_mem_members low high there serves shape stored held live other
        (original row there rfl)
    · obtain ⟨rfl, answer⟩ := groupByGID_eq_ok.mp answered
      cases answer with
      | stored here => exact (absent _ here (buildGroup_gid _).symm).elim
      | own =>
        refine ⟨rfl, fun m member same => ?_⟩
        rcases mem_append.mp member with first | rest
        · exact other (same.symm.trans (gid_of_primary shape (Option.mem_toList.mp first)))
        · obtain ⟨g, stored, -, -, rfl⟩ := (of_mem_supplementary shape rest).1
          exact absent g stored same

end NSSLookupService

namespace Sample

/-- A lookup service with private groups where the directory has none. -/
def lookups : NSSLookupService where
  autoPrivateGroups := .hybrid
  tombstoneRetention := 100
  defaultHome := "/home/%u"
  defaultShell := ""
  disabledShell := "/usr/sbin/nologin"
  maxGroupMembers := 2000
  now := 0

/-- A directory of one account, which is in one group. -/
def oneGroup (group : String) (deletedAt : Option Int := none) : Directory where
  accounts := ⟨⟨[{ newAccount "a" ⟨"uid=ann", "", "ann", 1000, some 1000, none, none, ""⟩ false 0 with deletedAt }],
    pairwise_singleton _ _⟩, .empty⟩
  groups := ⟨⟨[newGroup "g" ⟨"cn=staff", "", group, 100, []⟩ 0], pairwise_singleton _ _⟩, .empty⟩
  members := ⟨[⟨100, 1000, none⟩], pairwise_singleton _ _⟩

/-- A service that keeps tombstones for the longest `time.Duration`. -/
def longest : NSSLookupService := { lookups with tombstoneRetention := maxInt64 }

/-- An instant before all those. -/
def longAgo : Option Int := some (-maxInt64 - 1)

end Sample

/-- A stored name that breaks the rules is served by number and refused by name.  And under the
longest retention a tombstone older than it is served with its groups, none of which lists it. -/
theorem groupByName_refuses_stored_name : (∃ group reason,
    Sample.lookups.groupByGID ⟨Sample.oneGroup "a:b", fun _ => none⟩ none 100 = .ok group ∧
      Sample.lookups.groupByName ⟨Sample.oneGroup "a:b", fun _ => none⟩ none group.name =
        .error (nssBadRequest reason)) ∧
    ∃ user, Sample.longest.userByUID ⟨Sample.oneGroup "staff" Sample.longAgo, fun _ => none⟩ none 1000 =
        .ok user ∧ user.name = "ann" ∧ ⟨100, "staff"⟩ ∈ user.groups ∧
      "ann" ∉ Sample.longest.memberNames ⟨Sample.oneGroup "staff" Sample.longAgo, fun _ => none⟩ 100 :=
  ⟨⟨⟨"a:b", 100, ["ann"], false⟩, "invalid POSIX name: contains ':' or '/'",
    by decide +kernel, by decide +kernel⟩,
    ⟨⟨"ann", 1000, 1000, [⟨1000, "ann"⟩, ⟨100, "staff"⟩], some "/home/ann", some "/usr/sbin/nologin", "", .deleted⟩,
      by decide +kernel, rfl, by decide +kernel, by decide +kernel⟩⟩

theorem lookups_agree_ann : ∃ user,
    Sample.lookups.userByUID ⟨Sample.oneGroup "staff", fun _ => none⟩ none 1000 = .ok user ∧
      user.groups = [⟨1000, "ann"⟩, ⟨100, "staff"⟩] ∧
      Sample.lookups.userByName ⟨Sample.oneGroup "staff", fun _ => none⟩ none user.name = .ok user ∧
      ∀ m ∈ user.groups, ∃ group,
        Sample.lookups.groupByGID ⟨Sample.oneGroup "staff", fun _ => none⟩ none m.gid = .ok group ∧
        group.name = m.name := by
  have valid : NSSLookupService.ValidNames (Sample.oneGroup "staff") := by
    refine ⟨fun row stored => ?_, fun row stored => ?_⟩
    · obtain rfl := mem_singleton.mp stored
      decide +kernel
    · obtain rfl := mem_singleton.mp stored
      decide +kernel
  have served : Sample.lookups.userByUID ⟨Sample.oneGroup "staff", fun _ => none⟩ none 1000 =
      .ok ⟨"ann", 1000, 1000, [⟨1000, "ann"⟩, ⟨100, "staff"⟩], some "/home/ann", none, "", .active⟩ := by
    decide +kernel
  obtain ⟨-, named, groups, -⟩ := (NSSLookupService.lookups_agree Sample.lookups
    ⟨Sample.oneGroup "staff", fun _ => none⟩ valid (by decide) (by decide)).2.2.2 1000 _ served
  refine ⟨_, served, rfl, named, fun m member => ?_⟩
  obtain ⟨group, byGID, -, -, name⟩ := groups m member
  exact ⟨group, byGID, name⟩

end Ssoossh.NSS
