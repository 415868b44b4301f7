import Ssoossh.Nssd.GidRule

/-!
# Local accounts come first

A directory user or group is refused if a line of `/etc/passwd` or `/etc/group` has its name
or its id (`nssd/policy`).  The two files are read with `readLocalDB`: a file that is missing
lists nothing, one that cannot be read refuses everything, and every line of a file that is
read is listed, as far as the scanner gets.

`parseLocalDB` scans with a limit on the length of a line and does not ask for the scanner's
error.  From a line over the limit on nothing is read, and what stands there shadows the
directory only if its name and its id stand on a line before as well.
`local_accounts_shadow` says that the rule holds for exactly those files.
-/

namespace Ssoossh.Nssd

open GoBytes Fallible List

/-! ## Reading a file -/

/-- What reading a file comes to. -/
inductive FileRead where
  | missing
  | unreadable (error : String)
  | content (data : Bytes)

/-- `readLocalDB`. -/
def readLocalDB : FileRead → Except String LocalDB
  | .missing => .ok {}
  | .unreadable error => .error error
  | .content data => .ok (parseLocalDB data)

/-- The entries of some lines. -/
def entriesOf (lines : List Bytes) : List LocalLine := (lines.map dropCR).filterMap LocalLine.parse

namespace FileRead

/-- The entries of the file. -/
def entries : FileRead → List LocalLine
  | .content data => fileEntries data
  | _ => []

/-- Every entry from the first line on that does not fit into the scanner's buffer, with its
newline, has its name and its id on lines before that one. -/
def Covered : FileRead → Prop
  | .content data =>
    let fits := fun line : Bytes => decide (line.length < maxLine)
    let before := entriesOf ((rawLines data).takeWhile fits)
    ∀ entry ∈ entriesOf ((rawLines data).dropWhile fits),
      (entry.name ≠ [] → ∃ line ∈ before, line.name = entry.name) ∧
      ∀ id, entry.id = some id → ∃ line ∈ before, line.id = some id
  | _ => True

end FileRead

/-- A line's name and its id are listed, as far as it has them. -/
def LocalDB.Lists (db : LocalDB) (line : LocalLine) : Prop :=
  (line.name ≠ [] → db.hasName line.name = true) ∧ ∀ id, line.id = some id → db.hasID id = true

variable {data : Bytes}

/-- An id is local exactly if a line that is read has it. -/
theorem hasID_parseLocalDB {id : UInt32} :
    (parseLocalDB data).hasID id = true ↔ ∃ line ∈ readLines data, line.id = some id := by
  change ((parseLocalDB data).nameOf id).isSome = true ↔ _
  rw [nameOf_parseLocalDB, Option.isSome_map, find?_isSome]
  simp

/-- An entry is listed exactly if lines that are read have its name and its id. -/
theorem lists_iff {entry : LocalLine} : (parseLocalDB data).Lists entry ↔
    (entry.name ≠ [] → ∃ line ∈ readLines data, line.name = entry.name) ∧
      ∀ id, entry.id = some id → ∃ line ∈ readLines data, line.id = some id := by
  unfold LocalDB.Lists
  refine and_congr (forall_congr' fun named => isSome_idOf named) ?_
  exact forall_congr' fun id => imp_congr_right fun _ => hasID_parseLocalDB

/-- The file is listed entry by entry or cannot be read, exactly if it is covered. -/
theorem lists_or_error_iff {file : FileRead} :
    ((∃ db, readLocalDB file = .ok db ∧ ∀ line ∈ file.entries, db.Lists line) ∨
      ∃ error, readLocalDB file = .error error) ↔ file.Covered := by
  cases file with
  | missing => exact iff_of_true (.inl ⟨{}, rfl, fun _ there => absurd there not_mem_nil⟩) trivial
  | unreadable error => exact iff_of_true (.inr ⟨error, rfl⟩) trivial
  | content data =>
    let fits := fun line : Bytes => decide (line.length < maxLine)
    have split : fileEntries data = readLines data ++ entriesOf ((rawLines data).dropWhile fits) := by
      change entriesOf _ = entriesOf ((rawLines data).takeWhile fits) ++ _
      simp only [entriesOf, ← filterMap_append, ← map_append,
        takeWhile_append_dropWhile]
    constructor
    · rintro (⟨db, read, lists⟩ | ⟨error, failed⟩)
      · cases read
        intro entry late
        have there : entry ∈ fileEntries data := split ▸ mem_append_right _ late
        exact lists_iff.mp (lists entry there)
      · cases failed
    · intro covered
      refine .inl ⟨parseLocalDB data, rfl, fun entry (there : entry ∈ fileEntries data) => ?_⟩
      rw [split] at there
      rcases mem_append.mp there with early | late
      · exact lists_iff.mpr ⟨fun _ => ⟨entry, early, rfl⟩, fun _ carried => ⟨entry, early, carried⟩⟩
      · exact lists_iff.mpr (covered entry late)

/-! ## What passes the checks -/

variable {name : Bytes}

section Checks

variable {cfg : Config} {host : Host}

theorem local?_eq_ok {file : Except String LocalDB} {db : LocalDB} :
    local? file = .ok db ↔ file = .ok db :=
  mapError_eq_ok

theorem validName_of_checkName (passes : checkName name = .ok ()) : validName name = true := by
  unfold checkName at passes
  unfold validName
  cases fault : nameFault name with
  | none => rfl
  | some =>
    rw [fault] at passes
    exact absurd passes throw_ne_ok

theorem of_checkUserName (passes : checkUserName cfg host name = .ok ()) :
    validName name = true ∧ ∃ db, host.passwd = .ok db ∧ db.hasName name = false := by
  simp only [checkUserName, bind_eq_ok, ite_throw_eq_ok,
    throw_bind, local?_eq_ok, Bool.not_eq_true] at passes
  obtain ⟨⟨⟩, named, -, db, read, other, -⟩ := passes
  exact ⟨validName_of_checkName named, db, read, other⟩

theorem of_checkUID {uid : UInt32} (passes : checkUID cfg host uid = .ok ()) :
    ∃ db, host.passwd = .ok db ∧ db.hasID uid = false := by
  simp only [checkUID, bind_eq_ok, ite_throw_eq_ok, throw_bind,
    local?_eq_ok, Bool.not_eq_true] at passes
  obtain ⟨-, db, read, other, -⟩ := passes
  exact ⟨db, read, other⟩

theorem of_checkGroupName (passes : checkGroupName cfg host name = .ok ()) :
    validName name = true ∧ ∃ db, host.group = .ok db ∧ db.hasName name = false := by
  simp only [checkGroupName, bind_eq_ok, ite_throw_eq_ok,
    throw_bind, local?_eq_ok, Bool.not_eq_true] at passes
  obtain ⟨⟨⟩, named, -, db, read, other, -⟩ := passes
  exact ⟨validName_of_checkName named, db, read, other⟩

theorem of_checkGID {gid : UInt32} (passes : checkGID cfg host gid = .ok ()) :
    ∃ db, host.group = .ok db ∧ db.hasID gid = false := by
  simp only [checkGID, bind_eq_ok, ite_throw_eq_ok, throw_bind,
    local?_eq_ok, Bool.not_eq_true] at passes
  obtain ⟨-, db, read, other, -⟩ := passes
  exact ⟨db, read, other⟩

/-- A user that is served passes the short-circuit checks, under the name and the uid it is
served with, and the local groups could be read. -/
theorem checks_of_servedUser {resp : NSSUserResponse} {u : User}
    (served : servedUser cfg host resp = .ok u) :
    checkUserName cfg host u.name = .ok () ∧ checkUID cfg host u.uid = .ok () ∧
      ∃ db, host.group = .ok db := by
  simp only [servedUser, bind_eq_ok] at served
  obtain ⟨⟨⟩, named, ⟨⟩, sane, ⟨groups, kept⟩, listed, ⟨⟩, -, home, -, returned⟩ := served
  obtain rfl := Except.ok.inj returned
  simp only [sanity, bind_eq_ok, ite_throw_eq_ok, throw_bind] at sane
  obtain ⟨unfiltered, ranged, -, users, read, otherName, otherUID, -⟩ := sane
  simp only [memberships, bind_eq_ok, local?_eq_ok] at listed
  obtain ⟨db, known, -⟩ := listed
  refine ⟨?_, ?_, db, known⟩
  · simp only [checkUserName, bind_eq_ok, ite_throw_eq_ok, throw_bind]
    exact ⟨(), named, unfiltered, users, read, otherName, rfl⟩
  · simp only [checkUID, bind_eq_ok, ite_throw_eq_ok, throw_bind]
    exact ⟨ranged, users, read, otherUID, rfl⟩

theorem checks_of_servedGroup {resp : NSSGroupResponse} {g : Group}
    (served : servedGroup cfg host resp = .ok g) :
    checkGroupName cfg host g.name = .ok () ∧ checkGID cfg host g.gid = .ok () := by
  simp only [servedGroup, bind_eq_ok] at served
  obtain ⟨⟨⟩, named, ⟨⟩, numbered, answer⟩ := served
  have same : g.name = resp.name ∧ g.gid = resp.gid := by
    by_cases bare : cfg.ignoreGroupMembers = true
    · simp only [bare, if_true, pure_eq_ok] at answer
      rw [← answer]
      exact ⟨rfl, rfl⟩
    · simp only [bare, Bool.false_eq_true, if_false, bind_eq_ok, pure_eq_ok]
        at answer
      obtain ⟨users, -, rfl⟩ := answer
      exact ⟨rfl, rfl⟩
  rw [same.1, same.2]
  exact ⟨named, numbered⟩

end Checks

/-! ## The rule -/

/-- A name and an id that pass the checks are on no line, where the file is listed or cannot
be read. -/
theorem ne_of_listed {file : Except String LocalDB} {entries : List LocalLine} {id : UInt32}
    (listed : (∃ db, file = .ok db ∧ ∀ line ∈ entries, db.Lists line) ∨ ∃ error, file = .error error)
    (valid : validName name = true) (byName : ∃ db, file = .ok db ∧ db.hasName name = false)
    (byID : ∃ db, file = .ok db ∧ db.hasID id = false) :
    ∀ line ∈ entries, line.name ≠ name ∧ line.id ≠ some id := by
  obtain ⟨db, rfl, freeName⟩ := byName
  obtain ⟨_, ⟨⟩, freeID⟩ := byID
  obtain ⟨_, ⟨⟩, lists⟩ | ⟨_, ⟨⟩⟩ := listed
  refine fun line there => ⟨?_, fun carried => ?_⟩
  · rintro rfl
    rw [(lists line there).1 (ne_nil_of_validName valid)] at freeName
    cases freeName
  · rw [(lists line there).2 id carried] at freeID
    cases freeID

/-- **Local accounts shadow the directory** exactly if both files are covered: each file is
listed entry by entry, or reading it fails and the calls that ask it refuse; and no user or
group that is served has the name or the id of a line. -/
theorem local_accounts_shadow (cfg : Config) (host : Host) (passwd group : FileRead)
    (users : host.passwd = readLocalDB passwd) (groups : host.group = readLocalDB group) :
    (((∃ db, host.passwd = .ok db ∧ ∀ line ∈ passwd.entries, db.Lists line) ∨
      (∃ error, host.passwd = .error error) ∧ (∀ name, checkUserName cfg host name ≠ .ok ()) ∧
        (∀ uid, checkUID cfg host uid ≠ .ok ()) ∧ ∀ resp u, servedUser cfg host resp ≠ .ok u) ∧
    ((∃ db, host.group = .ok db ∧ ∀ line ∈ group.entries, db.Lists line) ∨
      (∃ error, host.group = .error error) ∧ (∀ name, checkGroupName cfg host name ≠ .ok ()) ∧
        (∀ gid, checkGID cfg host gid ≠ .ok ()) ∧ (∀ resp g, servedGroup cfg host resp ≠ .ok g) ∧
        ∀ resp u, servedUser cfg host resp ≠ .ok u) ∧
    (∀ resp u, servedUser cfg host resp = .ok u →
      ∀ line ∈ passwd.entries, line.name ≠ u.name ∧ line.id ≠ some u.uid) ∧
    ∀ resp g, servedGroup cfg host resp = .ok g →
      ∀ line ∈ group.entries, line.name ≠ g.name ∧ line.id ≠ some g.gid) ↔
    passwd.Covered ∧ group.Covered := by
  rw [← lists_or_error_iff, ← lists_or_error_iff, ← users, ← groups]
  constructor
  · rintro ⟨ofUsers, ofGroups, -⟩
    exact ⟨ofUsers.imp_right And.left, ofGroups.imp_right And.left⟩
  rintro ⟨listedUsers, listedGroups⟩
  refine ⟨?_, ?_, ?_, ?_⟩
  · refine listedUsers.imp_right ?_
    rintro ⟨error, failed⟩
    refine ⟨⟨error, failed⟩, fun name passes => ?_, fun uid passes => ?_, fun resp u served => ?_⟩
    · obtain ⟨-, db, read, -⟩ := of_checkUserName passes
      cases failed.symm.trans read
    · obtain ⟨db, read, -⟩ := of_checkUID passes
      cases failed.symm.trans read
    · obtain ⟨db, read, -⟩ := of_checkUID (checks_of_servedUser served).2.1
      cases failed.symm.trans read
  · refine listedGroups.imp_right ?_
    rintro ⟨error, failed⟩
    refine ⟨⟨error, failed⟩, fun name passes => ?_, fun gid passes => ?_, fun resp g served => ?_,
      fun resp u served => ?_⟩
    · obtain ⟨-, db, read, -⟩ := of_checkGroupName passes
      cases failed.symm.trans read
    · obtain ⟨db, read, -⟩ := of_checkGID passes
      cases failed.symm.trans read
    · obtain ⟨db, read, -⟩ := of_checkGID (checks_of_servedGroup served).2
      cases failed.symm.trans read
    · obtain ⟨db, read⟩ := (checks_of_servedUser served).2.2
      cases failed.symm.trans read
  · intro resp u served
    obtain ⟨byName, byUID, -⟩ := checks_of_servedUser served
    obtain ⟨valid, free⟩ := of_checkUserName byName
    exact ne_of_listed listedUsers valid free (of_checkUID byUID)
  · intro resp g served
    obtain ⟨byName, byGID⟩ := checks_of_servedGroup served
    obtain ⟨valid, free⟩ := of_checkGroupName byName
    exact ne_of_listed listedGroups valid free (of_checkGID byGID)

namespace LocalSample

/-- A local account with a uid that the directory uses. -/
def ada : Bytes := ofString "ada:x:1000:1000::/home/ada:/bin/sh\n"

/-- The directory's user of that name and uid. -/
def answer : NSSUserResponse where
  name := ofString "ada"
  uid := 1000
  gid := 1000
  status := active

/-- A host with one local account, and no groups. -/
def host : Host := { passwd := readLocalDB (.content ada), group := readLocalDB .missing }

/-- The same account after a comment of a mebibyte. -/
def late : Bytes := replicate maxLine (byte '#') ++ byte '\n' :: ada

end LocalSample

open LocalSample in
/-- No user with the name or the uid of the local account is served. -/
theorem local_accounts_shadow_ada :
    (FileRead.content ada).Covered ∧ ∀ resp u, servedUser {} host resp = .ok u →
      u.name ≠ ofString "ada" ∧ u.uid ≠ 1000 := by
  have covered : (FileRead.content ada).Covered := by
    have whole : entriesOf ((rawLines ada).dropWhile fun line => decide (line.length < maxLine)) = [] := by
      decide +kernel
    rw [FileRead.Covered, whole]
    exact forall_mem_nil _
  have shadows := ((local_accounts_shadow {} host (.content ada) .missing rfl rfl).mpr
    ⟨covered, trivial⟩).2.2.1
  refine ⟨covered, fun resp u served => ?_⟩
  have apart := shadows resp u served ⟨ofString "ada", some 1000⟩ (by decide +kernel)
  exact ⟨apart.1.symm, fun same => apart.2 (congrArg some same.symm)⟩

open LocalSample in
/-- After a line that does not fit, the directory takes over a local account. -/
theorem overlong_line_unshadows :
    (⟨ofString "ada", some 1000⟩ : LocalLine) ∈ (FileRead.content late).entries ∧
      ∃ u, servedUser {} { passwd := readLocalDB (.content late), group := readLocalDB .missing }
          answer = .ok u ∧ u.name = ofString "ada" ∧ u.uid = 1000 := by
  have comment : byte '\n' ∉ replicate maxLine (byte '#') := by
    intro there
    exact absurd (eq_of_mem_replicate there) (by decide)
  constructor
  · change _ ∈ fileEntries late
    rw [fileEntries, fileLines, late, rawLines_line comment, map_cons]
    refine mem_filterMap.mpr ⟨ofString "ada:x:1000:1000::/home/ada:/bin/sh", ?_, by decide +kernel⟩
    exact mem_cons_of_mem _ (by decide +kernel)
  · have unread : parseLocalDB late = {} := by
      have none : scanLines maxLine late = [] := by
        rw [late, scanLines_line comment, length_replicate, if_neg (Nat.lt_irrefl _)]
      rw [parseLocalDB, readLines, none]
      rfl
    have read : readLocalDB (.content late) = .ok {} := congrArg Except.ok unread
    rw [read]
    have served : (servedUser {} { passwd := .ok {}, group := .ok {} } answer).toOption.map
        (fun u => (u.name, u.uid)) = some (ofString "ada", 1000) := by decide +kernel
    obtain ⟨u, found, same⟩ := Option.map_eq_some_iff.mp served
    exact ⟨u, toOption_eq_some.mp found, congrArg Prod.fst same, congrArg Prod.snd same⟩

end Ssoossh.Nssd
