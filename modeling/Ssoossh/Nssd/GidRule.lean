import Mathlib.Data.List.Nodup
import Ssoossh.Nssd.Policy

/-!
# The gid rule

A membership reaches a process as a group name, which the C library resolves through
`/etc/group` before it asks anybody else.  So `memberships` lists a membership under a name
that this host resolves to its gid: the local name of the gid if there is one, and the
directory's name only if no local group has it.

The local name of a gid is that of the first line with the gid, while a name resolves to the
gid of the first line with the name.  The two agree unless a name stands on two lines, and
`listed_names_resolve_iff` says exactly which files and answers break the rule.  It also
speaks about lines that the daemon does not read, which are those from an overlong one on.
-/

namespace Ssoossh.Nssd

open GoBytes List

/-! ## The database of a file -/

/-- The lines of a file, read or not. -/
def fileEntries (data : Bytes) : List LocalLine := (fileLines data).filterMap LocalLine.parse

/-- The lines that are read come first. -/
theorem fileEntries_eq (data : Bytes) : ∃ rest, fileEntries data = readLines data ++ rest := by
  obtain ⟨rest, split⟩ := scanLines_isPrefix maxLine data
  refine ⟨rest.filterMap LocalLine.parse, ?_⟩
  rw [fileEntries, split, filterMap_append, readLines]

/-- The pair a line gives for its id. -/
def LocalLine.idPair? (line : LocalLine) : Option (UInt32 × Bytes) := line.id.map fun id => (id, line.name)

/-- The pair a line gives for its name. -/
def LocalLine.namePair? (line : LocalLine) : Option (Bytes × Option UInt32) :=
  if line.name = [] then none else some (line.name, line.id)

/-- The two maps are collected line by line. -/
theorem foldl_add (lines : List LocalLine) (db : LocalDB) : lines.foldl LocalDB.add db =
      ⟨FirstWins.collect LocalLine.namePair? db.names lines,
        FirstWins.collect LocalLine.idPair? db.ids lines⟩ := by
  induction lines generalizing db with
  | nil => rfl
  | cons line lines ih =>
    rw [foldl_cons, ih]
    obtain ⟨name, id⟩ := line
    cases id <;> by_cases blank : name = [] <;>
      simp [LocalDB.add, FirstWins.collect, LocalLine.namePair?, LocalLine.idPair?, blank]

/-- The name of an id is that of the first line with the id. -/
theorem nameOf_parseLocalDB (data : Bytes) (id : UInt32) : (parseLocalDB data).nameOf id =
      ((readLines data).find? fun line => line.id == some id).map LocalLine.name := by
  have gives (line : LocalLine) :
      (line.idPair?.any fun pair => id == pair.1) = (line.id == some id) := by
    obtain ⟨name, _ | carried⟩ := line
    · rfl
    · exact Bool.beq_comm
  rw [parseLocalDB, foldl_add, LocalDB.nameOf, FirstWins.lookup_collect]
  simp only [gives, lookup_nil, Option.none_or]
  cases found : (readLines data).find? fun line => line.id == some id with
  | none => rfl
  | some line =>
    have carries : line.id = some id := by simpa using List.find?_some found
    simp [LocalLine.idPair?, carries]

variable {name : Bytes}

/-- The id of a name is that of the first line with the name. -/
theorem idOf_parseLocalDB (data : Bytes) (named : name ≠ []) : (parseLocalDB data).idOf name =
      ((readLines data).find? fun line => line.name == name).map LocalLine.id := by
  have gives (line : LocalLine) :
      (line.namePair?.any fun pair => name == pair.1) = (line.name == name) := by
    unfold LocalLine.namePair?
    by_cases blank : line.name = []
    · simp [blank, named]
    · simp [blank, Bool.beq_comm]
  rw [parseLocalDB, foldl_add, LocalDB.idOf, FirstWins.lookup_collect]
  simp only [gives, lookup_nil, Option.none_or]
  cases found : (readLines data).find? fun line => line.name == name with
  | none => rfl
  | some line =>
    have carries : line.name = name := by simpa using List.find?_some found
    simp [LocalLine.namePair?, carries, named]

/-! ## The names that are listed -/

variable {m : NSSMembership}

section Listed

variable {cfg : Config} {groups : LocalDB}

/-- One turn adds the name of the membership, once. -/
theorem mem_listMembership {lists : List Bytes × List Bytes} :
    name ∈ (listMembership cfg groups lists m).1 ↔
      name ∈ lists.1 ∨ membership cfg groups m = some name := by
  unfold listMembership
  cases membership cfg groups m with
  | none => simp
  | some listed =>
    by_cases known : listed ∈ lists.1
    · simp only [contains_eq_mem, known, decide_true, if_true, Option.some.injEq]
      exact ⟨Or.inl, fun h => h.elim id fun same => same ▸ known⟩
    · simp [known, eq_comm]

theorem nodup_listMembership {lists : List Bytes × List Bytes} (nodup : lists.1.Nodup) :
    (listMembership cfg groups lists m).1.Nodup := by
  unfold listMembership
  cases membership cfg groups m with
  | none => exact nodup
  | some listed =>
    by_cases known : listed ∈ lists.1
    · simpa [known] using nodup
    · simp only [contains_eq_mem, known, decide_false, Bool.false_eq_true, if_false]
      exact nodup_append.mpr ⟨nodup, nodup_singleton _, by
        rintro a here b there rfl
        exact known (mem_singleton.mp there ▸ here)⟩

/-- The loop lists the names of the memberships, each once. -/
theorem foldl_listMembership (cfg : Config) (groups : LocalDB) (answer : List NSSMembership)
    (lists : List Bytes × List Bytes) (nodup : lists.1.Nodup) :
    (answer.foldl (listMembership cfg groups) lists).1.Nodup ∧
    ∀ name, name ∈ (answer.foldl (listMembership cfg groups) lists).1 ↔
      name ∈ lists.1 ∨ ∃ m ∈ answer, membership cfg groups m = some name := by
  induction answer generalizing lists with
  | nil => simp [nodup]
  | cons m answer ih =>
    obtain ⟨distinct, listed⟩ := ih (listMembership cfg groups lists m) (nodup_listMembership nodup)
    refine ⟨distinct, fun name => ?_⟩
    rw [foldl_cons, listed, mem_listMembership, exists_mem_cons_iff, or_assoc]

end Listed

/-- A name is local exactly if a line that is read has it. -/
theorem isSome_idOf {data : Bytes} (named : name ≠ []) :
    ((parseLocalDB data).idOf name).isSome = true ↔ ∃ line ∈ readLines data, line.name = name := by
  rw [idOf_parseLocalDB data named, Option.isSome_map, List.find?_isSome]
  simp

theorem ne_nil_of_validName (valid : validName name = true) : name ≠ [] := by
  rintro rfl
  cases valid

/-- A name is listed unless the rules for names or the filter refuse it. -/
theorem listable_iff {cfg : Config} {candidate : Bytes} :
    (if (!validName candidate || cfg.filterGroups.contains candidate) = true then none
      else some candidate) = some name ↔
    validName name = true ∧ name ∉ cfg.filterGroups ∧ candidate = name := by
  by_cases same : candidate = name
  · subst same
    simp
  · simp [same]

/-- **What a membership is listed under**: the name of the first line with its gid, or its
own if no line that is read has its gid or its name. -/
theorem membership_eq_some {cfg : Config} {data : Bytes} :
    membership cfg (parseLocalDB data) m = some name ↔
      cfg.inRange m.gid = true ∧ validName name = true ∧ name ∉ cfg.filterGroups ∧
      ((∃ line, (readLines data).find? (fun line => line.id == some m.gid) = some line ∧
          line.name = name) ∨
        (∀ line ∈ readLines data, line.id ≠ some m.gid ∧ line.name ≠ m.name) ∧ m.name = name) := by
  unfold membership
  by_cases ranged : cfg.inRange m.gid = true
  · rw [if_neg (by simp [ranged]), nameOf_parseLocalDB]
    cases first : (readLines data).find? fun line => line.id == some m.gid with
    | some line =>
      have carries : line.id = some m.gid := by simpa using List.find?_some first
      have read : ¬ ∀ line ∈ readLines data, line.id ≠ some m.gid ∧ line.name ≠ m.name :=
        fun unread => (unread line (mem_of_find?_eq_some first)).1 carries
      simp only [Option.map_some, listable_iff, ranged, read, true_and, false_and, or_false,
        Option.some.injEq, exists_eq_left']
    | none =>
      have noID : ∀ line ∈ readLines data, line.id ≠ some m.gid := by
        simpa using List.find?_eq_none.mp first
      simp only [Option.map_none, ranged, true_and, reduceCtorEq, false_and, exists_false, false_or]
      constructor
      · intro given
        split at given
        · cases given
        · rename_i free
          obtain ⟨valid, unfiltered, rfl⟩ := listable_iff.mp given
          have named := ne_nil_of_validName valid
          refine ⟨valid, unfiltered, fun line there => ⟨noID line there, fun has => ?_⟩, rfl⟩
          exact free ((isSome_idOf named).mpr ⟨line, there, has⟩)
      · rintro ⟨valid, unfiltered, unread, rfl⟩
        have free : ¬ ((parseLocalDB data).idOf m.name).isSome = true := by
          rw [isSome_idOf (ne_nil_of_validName valid)]
          rintro ⟨line, there, has⟩
          exact (unread line there).2 has
        rw [if_neg free]
        exact listable_iff.mpr ⟨valid, unfiltered, rfl⟩
  · rw [if_pos (by simpa using ranged)]
    simp [ranged]

/-! ## What a name resolves to -/

/-- `getgrnam` through the file: the first line with the name carries the gid. -/
def Carries (data name : Bytes) (gid : UInt32) : Prop :=
  ∃ line, (fileEntries data).find? (fun line => line.name == name) = some line ∧ line.id = some gid

/-- No line of the file has the name. -/
def Unlisted (data name : Bytes) : Prop := ∀ line ∈ fileEntries data, line.name ≠ name

/-- A listed name resolves to the gid of a membership: through the file, or through the
membership itself if the file does not have the name. -/
def Resolves (data : Bytes) (m : NSSMembership) (name : Bytes) : Prop :=
  Carries data name m.gid ∨ Unlisted data name ∧ m.name = name

/-- **The gid rule**, for an answer: every name that is listed is valid and not filtered, and
resolves to the gid of a membership that is in range; no name is listed twice. -/
def ObeysGidRule (cfg : Config) (data : Bytes) (answer : List NSSMembership) (listed : List Bytes) : Prop :=
  listed.Nodup ∧ ∀ name ∈ listed, validName name = true ∧ name ∉ cfg.filterGroups ∧
    ∃ m ∈ answer, cfg.inRange m.gid = true ∧ Resolves data m name

/-- **Exactly when the rule is kept.**  If the first line with the gid of a membership has a
name that may be listed, the first line with that name carries the gid of a membership too;
and a directory name that no line read so far has is on no later line either, or on one with
the gid of a membership. -/
theorem listed_names_resolve_iff (cfg : Config) (host : Host) (data : Bytes)
    (answer : List NSSMembership) :
    (∃ listed kept, memberships cfg { host with group := .ok (parseLocalDB data) } answer =
        .ok (listed, kept) ∧ ObeysGidRule cfg data answer listed) ↔
    (∀ m ∈ answer, cfg.inRange m.gid = true → ∀ line,
      (readLines data).find? (fun line => line.id == some m.gid) = some line →
      validName line.name = true → line.name ∉ cfg.filterGroups →
        ∃ other ∈ answer, cfg.inRange other.gid = true ∧ Carries data line.name other.gid) ∧
    (∀ m ∈ answer, cfg.inRange m.gid = true →
      (∀ line ∈ readLines data, line.id ≠ some m.gid ∧ line.name ≠ m.name) →
      validName m.name = true → m.name ∉ cfg.filterGroups →
        Unlisted data m.name ∨
          ∃ other ∈ answer, cfg.inRange other.gid = true ∧ Carries data m.name other.gid) := by
  obtain ⟨nodup, listed⟩ := foldl_listMembership cfg (parseLocalDB data) answer ([], [])
    nodup_nil
  have ran : memberships cfg { host with group := .ok (parseLocalDB data) } answer =
      .ok (answer.foldl (listMembership cfg (parseLocalDB data)) ([], [])) := rfl
  constructor
  · rintro ⟨names, kept, same, -, rule⟩
    rw [ran, Except.ok.injEq] at same
    rw [same] at listed
    refine ⟨fun m member ranged line first valid unfiltered => ?_,
      fun m member ranged unread valid unfiltered => ?_⟩
    · have shown : line.name ∈ names := (listed line.name).mpr (.inr ⟨m, member,
        membership_eq_some.mpr ⟨ranged, valid, unfiltered, .inl ⟨line, first, rfl⟩⟩⟩)
      obtain ⟨-, -, other, there, within, carries | ⟨unlisted, -⟩⟩ := rule line.name shown
      · exact ⟨other, there, within, carries⟩
      · obtain ⟨rest, split⟩ := fileEntries_eq data
        refine absurd rfl (unlisted line ?_)
        rw [split]
        exact mem_append_left _ (mem_of_find?_eq_some first)
    · have shown : m.name ∈ names := (listed m.name).mpr (.inr ⟨m, member,
        membership_eq_some.mpr ⟨ranged, valid, unfiltered, .inr ⟨unread, rfl⟩⟩⟩)
      obtain ⟨-, -, other, there, within, carries | ⟨unlisted, -⟩⟩ := rule m.name shown
      · exact .inr ⟨other, there, within, carries⟩
      · exact .inl unlisted
  · rintro ⟨byGID, byName⟩
    refine ⟨_, _, ran, nodup, fun name shown => ?_⟩
    obtain ⟨m, member, given⟩ := ((listed name).mp shown).resolve_left not_mem_nil
    obtain ⟨ranged, valid, unfiltered, source⟩ := membership_eq_some.mp given
    refine ⟨valid, unfiltered, ?_⟩
    rcases source with ⟨line, first, rfl⟩ | ⟨unread, rfl⟩
    · obtain ⟨other, there, within, carries⟩ := byGID m member ranged line first valid unfiltered
      exact ⟨other, there, within, .inl carries⟩
    · rcases byName m member ranged unread valid unfiltered with unlisted | ⟨other, there, within, carries⟩
      · exact ⟨m, member, ranged, .inr ⟨unlisted, rfl⟩⟩
      · exact ⟨other, there, within, .inl carries⟩

namespace Sample

/-- A group that was entered twice, with two gids. -/
def doubled : Bytes := ofString "web:x:1100:\nweb:x:1200:mika\n"

/-- The directory's group with the second of the two gids. -/
def ops : NSSMembership := ⟨1200, ofString "ops"⟩

end Sample

/-- A member of the directory's group with gid 1200 is listed as a member of `web`, which
this host resolves to gid 1100. -/
theorem doubled_name_lists_another_gid :
    memberships {} { group := .ok (parseLocalDB Sample.doubled) } [Sample.ops] =
        .ok ([ofString "web"], [ofString "ops"]) ∧
      Carries Sample.doubled (ofString "web") 1100 ∧
      ∀ m ∈ [Sample.ops], ¬ Resolves Sample.doubled m (ofString "web") := by
  have lines : fileEntries Sample.doubled = [⟨ofString "web", some 1100⟩, ⟨ofString "web", some 1200⟩] := by
    decide +kernel
  have first : (fileEntries Sample.doubled).find? (fun line => line.name == ofString "web") =
      some ⟨ofString "web", some 1100⟩ := by
    rw [lines]
    decide +kernel
  refine ⟨by decide +kernel, ⟨_, first, rfl⟩, ?_⟩
  rintro m member (⟨line, found, carries⟩ | ⟨unlisted, -⟩)
  · cases mem_singleton.mp member
    rw [first, Option.some.injEq] at found
    subst found
    exact absurd carries (by decide)
  · refine unlisted ⟨ofString "web", some 1100⟩ ?_ rfl
    rw [lines]
    exact mem_cons_self

end Ssoossh.Nssd
