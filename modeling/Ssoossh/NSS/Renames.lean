import Ssoossh.NSS.Transitions

/-!
# Renamed groups

A group entry that no stored row anchors may be a stored group under another name
(`writeGroup`, `renameTarget` and `reanchorGroup` in `server/service/nss_store.go`).
Its row is then re-anchored: it follows the entry from there on.  A row is re-anchored
onto an entry if it was not the row of that entry, was at another DN, and is at the DN of
the entry afterwards (`Reanchored`); this is said of the tables alone, before and after,
and not of the branch that was taken.

What the transaction then does to the memberships is what it does for every group that is
already stored: they are made those the entry lists, if the caller has an index of the
accounts, and are otherwise left alone.
-/

namespace Ssoossh.NSS

open Relational Transactional Tx List Sheet

variable {α : Type} {t : NSSTable α}

/-! ## Rows that move -/

variable {row : PosixRow α}

section Moving

variable {settings : Settings} {e : NSSEntryRef} {follow : PosixRow α → PosixRow α} {now : Int}
variable {target : Option String} {born : PosixRow α} {contenders : List NSSEntryRef}
variable {s s' : Sheet t} {out : Stored α}

variable {row' : PosixRow α}

variable (h : StoreSpec settings e follow now target born contenders s out s')
include h

/-- What a store does to a row, its DN included: recording the collisions moves no row. -/
theorem StoreSpec.wrote
    (before : row ∈ s.rows.rows) (after : row' ∈ s'.rows.rows) (same : row'.id = row.id) :
    ∃ mid, Wrote e follow now target row mid ∧ row'.dn = mid.dn := by
  obtain ⟨write, record, -, -⟩ := h
  have composed : Evolves (fun row row' => ∃ mid, Wrote e follow now target row mid ∧
      row'.dn = mid.dn) (fun _ => True) s s' :=
    write.evolves.comp record.rows (fun _ wrote judged => ⟨_, wrote, judged.dn⟩)
      (fun _ _ => trivial) fun no => no.elim
  exact composed.row before after same

/-- A row that comes to the DN of the entry is the one the entry is anchored to. -/
theorem StoreSpec.target_of_moved
    (before : row ∈ s.rows.rows) (after : row' ∈ s'.rows.rows) (same : row'.id = row.id)
    (elsewhere : row.dn ≠ e.dn) (here : row'.dn = e.dn) : target = some row.id := by
  obtain ⟨mid, wrote, dn⟩ := h.wrote before after same
  cases wrote with
  | kept => exact (elsewhere (dn.symm.trans here)).elim
  | released was => exact (elsewhere was).elim
  | refreshed name anchor => exact anchor

/-- A store that follows no other number keeps the number of every row. -/
theorem StoreSpec.number
    (keeps : ∀ row, (follow row).number = row.number) (before : row ∈ s.rows.rows)
    (after : row' ∈ s'.rows.rows) (same : row'.id = row.id) : row'.number = row.number := by
  rcases (h.evolves.row before after same).cases with unchanged | ⟨name, -, changed⟩
  · exact unchanged.number.symm
  · exact changed.number.symm.trans (keeps row)

end Moving

/-! ## The memberships of a stored group -/

section Members

variable {d d' : Directory} {u : PUnit}

variable {addedAt : Option Int}

/-- The memberships of other groups stay; of the group's own those of `uids` stay as they are,
and the rest of `uids` is new. -/
theorem mem_of_replaceGroupMembers {gid : Nat} {uids : List Nat}
    (h : (replaceGroupMembers gid uids false addedAt).run d = .ok (u, d')) (m : PosixGroupMember) :
    m ∈ d'.members.rows ↔
      m ∈ d.members.rows ∧ (m.gid = gid → m.uid ∈ uids) ∨
        m.gid = gid ∧ m.uid ∈ uids ∧ m.addedAt = addedAt ∧
          ∀ old ∈ d.members.rows, ¬ old.SameKey m := by
  have rest := run_get_bind_eq_ok.mp h
  have wanted : (m.gid, m.uid) ∈ (uids.dedup.map fun uid => (gid, uid)) ↔ m.gid = gid ∧ m.uid ∈ uids := by
    simp only [mem_map, mem_dedup, Prod.mk.injEq]
    constructor
    · rintro ⟨uid, member, rfl, rfl⟩
      exact ⟨rfl, member⟩
    · rintro ⟨rfl, member⟩
      exact ⟨m.uid, member, rfl, rfl⟩
  have stored : (m.gid, m.uid) ∈ d.readMembers (fun m => m.gid == gid) ↔
      m.gid = gid ∧ ∃ old ∈ d.members.rows, old.SameKey m := by
    simp only [Directory.readMembers, mem_map, Rel.mem_select, beq_iff_eq, Prod.mk.injEq]
    constructor
    · rintro ⟨old, ⟨there, rfl⟩, sameGID, sameUID⟩
      exact ⟨sameGID.symm, old, there, sameGID, sameUID⟩
    · rintro ⟨rfl, old, there, sameGID, sameUID⟩
      exact ⟨old, ⟨there, sameGID⟩, sameGID, sameUID⟩
  rw [(mem_of_applyMemberDeltas rest).2, wanted, stored]
  constructor
  · rintro (⟨there, keeps⟩ | ⟨⟨same, member⟩, free, added⟩)
    · exact .inl ⟨there, fun same => (keeps ⟨same, m, there, rfl, rfl⟩).2⟩
    · exact .inr ⟨same, member, added, fun old there key => free ⟨same, old, there, key⟩⟩
  · rintro (⟨there, keeps⟩ | ⟨same, member, added, free⟩)
    · exact .inl ⟨there, fun own => ⟨own.1, keeps own.1⟩⟩
    · exact .inr ⟨⟨same, member⟩, fun own => own.2.elim fun old key => free old key.1 key.2, added⟩

end Members

/-! ## Re-anchoring -/

/-- A row that was not the row of an entry, and was elsewhere, has come to the entry's DN. -/
structure Reanchored (settings : Settings) (s s' : Sheet groupTable) (g : NSSGroup)
    (row : PosixGroup) : Prop where
  stored : row ∈ s.rows.rows
  unmatched : s.matchRow settings g.ref ≠ some row
  elsewhere : row.dn ≠ g.dn
  follows : ∃ row' ∈ s'.rows.rows, row'.id = row.id ∧ row'.dn = g.dn

/-- What makes an entry a stored group under another name. -/
structure Renames (settings : Settings) (s : Sheet groupTable) (g : NSSGroup)
    (contenders : List NSSGroup) (gone : Option (String → Bool)) (row : PosixGroup) : Prop where
  unanchored : s.matchRow settings g.ref = none
  holds : row.number = g.gid
  elsewhere : row.dn ≠ "" ∧ settings.text.normalizeDN row.dn ≠ settings.text.normalizeDN g.dn
  entry : row.directoryID = "" ∨ g.directoryID = "" ∨ row.directoryID = g.directoryID
  evidence : ∃ evidence, gone = some evidence ∧ evidence row.dn = true
  alone : ∀ c ∈ contenders, c.gid ≠ g.gid

/-- What the transaction leaves of a re-anchored row and of its memberships. -/
structure Kept (settings : Settings) (g : NSSGroup) (index : Option NSSMemberIndex)
    (importing : Bool) (now : Int) (d d' : Directory) (out : Stored Unit) (row : PosixGroup) :
    Prop where
  created : out.created = false
  answered : ∃ current, out.row = some current ∧ current.id = row.id ∧ current.number = row.number
  stays : ∃ row' ∈ d'.groups.rows.rows, row'.id = row.id ∧ row'.number = row.number ∧ row'.dn = g.dn
  unlisted : index = none → d'.members = d.members
  listed : ∀ accounts, index = some accounts → ∀ m, m ∈ d'.members.rows ↔
    m ∈ d.members.rows ∧
        (m.gid = row.number → m.uid ∈ accounts.resolve settings.text g.members) ∨
      m.gid = row.number ∧ m.uid ∈ accounts.resolve settings.text g.members ∧
        m.addedAt = memberAddedAt importing now ∧ ∀ old ∈ d.members.rows, ¬ old.SameKey m

section Renaming

variable {settings : Settings} {g : NSSGroup} {contenders : List NSSGroup} {complete : NSSKinds}
variable {index : Option NSSMemberIndex} {gone : Option (String → Bool)} {importing : Bool}
variable {now : Int} {newID : String}

theorem sameEntry_iff {rowID entryID : String} :
    sameEntry rowID entryID = true ↔ rowID = "" ∨ entryID = "" ∨ rowID = entryID := by
  simp only [sameEntry, Bool.or_eq_true, beq_iff_eq, or_assoc]

variable {s : Sheet groupTable}

/-- The stored group that an entry renames. -/
theorem of_renameTarget {row : PosixGroup} (unanchored : s.matchRow settings g.ref = none)
    (h : renameTarget settings s g contenders gone = some row) :
    row ∈ s.rows.rows ∧ Renames settings s g contenders gone row := by
  unfold renameTarget at h
  cases gone with
  | none => cases h
  | some evidence =>
    dsimp only at h
    by_cases contended : (contenders.any fun c => c.gid == g.gid) = true
    · rw [if_pos contended] at h
      cases h
    · rw [if_neg contended] at h
      obtain ⟨holder, vanished⟩ := Option.filter_eq_some_iff.mp h
      obtain ⟨held, apart⟩ := Option.filter_eq_some_iff.mp holder
      obtain ⟨stored, number⟩ := of_first held
      simp only [Bool.not_eq_true', Bool.or_eq_false_iff, beq_eq_false_iff_ne,
        Bool.not_eq_false'] at apart
      obtain ⟨⟨kept, elsewhere⟩, entry⟩ := apart
      refine ⟨stored, unanchored, ?_, ⟨kept, elsewhere⟩, sameEntry_iff.mp entry,
        ⟨evidence, rfl, vanished⟩, ?_⟩
      · rw [Bool.and_eq_true, beq_iff_eq] at number
        exact number.1
      · intro c member same
        exact contended (any_eq_true.mpr ⟨c, member, beq_iff_eq.mpr same⟩)

variable {s' : Sheet groupTable} {out : Stored Unit}

/-- A row that is re-anchored is the one `renameTarget` found, where no row was matched. -/
theorem renameTarget_of_reanchored {row : PosixGroup}
    (spec : StoreSpec settings g.ref (followGroup g now) now
      (groupAnchor settings s g contenders gone) (newGroup newID g now) (contenders.map (·.ref))
      s out s') (h : Reanchored settings s s' g row) :
    s.matchRow settings g.ref = none ∧ renameTarget settings s g contenders gone = some row := by
  obtain ⟨row', after, same, here⟩ := h.follows
  have anchor := spec.target_of_moved h.stored after same h.elsewhere here
  unfold groupAnchor at anchor
  cases matched : s.matchRow settings g.ref with
  | some =>
    -- the matched row would have the id of the row, and so be the row
    rw [matched, Option.some_or, Option.map_some, Option.some.injEq] at anchor
    refine (h.unmatched ?_).elim
    rw [matched, eq_of_id (of_matchRow matched) h.stored anchor]
  | none =>
    rw [matched, Option.none_or] at anchor
    obtain ⟨target, found, id⟩ := Option.map_eq_some_iff.mp anchor
    obtain ⟨stored, -⟩ := of_renameTarget matched found
    rw [found, eq_of_id stored h.stored id]
    exact ⟨rfl, rfl⟩

/-- A re-anchored row is not a new one. -/
theorem created_of_reanchorGroup {target : PosixGroup} {out : Written Unit}
    (h : (reanchorGroup target g now).run s = .ok (out, s')) : out.created = false := by
  obtain ⟨_, _, first, h₁⟩ := run_bind_eq_ok.mp h
  obtain ⟨_, _, second, h₂⟩ := run_bind_eq_ok.mp h₁
  obtain ⟨_, _, third, h₃⟩ := run_bind_eq_ok.mp h₂
  obtain ⟨rfl, -⟩ := run_pure_eq_ok.mp h₃
  rfl

/-- What a store answers for a row it re-anchors. -/
theorem answer_of_renameTarget {target : PosixGroup} (unanchored : s.matchRow settings g.ref = none)
    (renamed : renameTarget settings s g contenders gone = some target)
    (h : (storeGroupRow settings g contenders complete gone now newID).run s = .ok (out, s')) :
    out.created = false ∧ ∃ current, out.row = some current ∧ current.id = target.id := by
  obtain ⟨written, m, first, h₁⟩ := run_bind_eq_ok.mp h
  obtain ⟨observed, m₁, second, h₂⟩ := run_bind_eq_ok.mp h₁
  obtain ⟨row, m₂, third, h₃⟩ := run_bind_eq_ok.mp h₂
  obtain ⟨_, m₃, fourth, h₄⟩ := run_bind_eq_ok.mp h₃
  obtain ⟨rfl, rfl⟩ := run_pure_eq_ok.mp h₄
  have write := run_get_bind_eq_ok.mp first
  rw [unanchored, renamed] at write
  have spec : WriteSpec g.ref (followGroup g now) now (some target.id) (newGroup newID g now) s
      written m := of_reanchorGroup write
  obtain ⟨updated, found, id⟩ := Option.map_eq_some_iff.mp (spec.anchored (Option.some_ne_none _))
  rw [found] at third
  obtain ⟨current, _, reread, answer⟩ := run_bind_eq_ok.mp third
  obtain ⟨rfl, rfl⟩ := run_pure_eq_ok.mp answer
  obtain ⟨-, -, same⟩ := of_firstByID reread
  exact ⟨created_of_reanchorGroup write, current, rfl, same.trans id⟩

/-- What a store leaves of a row it re-anchors. -/
theorem kept_of_reanchored {d d' : Directory} {row : PosixGroup}
    (h : (storeGroup settings g contenders complete index gone importing now newID).run d =
      .ok (out, d')) (moved : Reanchored settings d.groups d'.groups g row) :
    Kept settings g index importing now d d' out row := by
  obtain ⟨-, spec, -⟩ := of_storeGroup h
  obtain ⟨unanchored, renamed⟩ := renameTarget_of_reanchored spec moved
  obtain ⟨stored, d₁, first, rest⟩ := run_bind_eq_ok.mp h
  obtain ⟨groups, store, rfl⟩ := run_onGroups_eq_ok.mp first
  obtain ⟨_, d₂, second, last⟩ := run_bind_eq_ok.mp rest
  obtain ⟨rfl, rfl⟩ := run_pure_eq_ok.mp last
  obtain ⟨created, current, answered, id⟩ := answer_of_renameTarget unanchored renamed store
  have number : current.number = row.number := by
    obtain ⟨-, -, -, known⟩ := of_storeGroupRow store
    obtain ⟨row', after, same⟩ := known current answered
    rw [same.number]
    exact (of_storeGroupRow store).number (fun _ => rfl) moved.stored after (same.id.symm.trans id)
  obtain ⟨row', after, same, here⟩ := moved.follows
  refine ⟨created, ⟨current, answered, id, number⟩, ⟨row', after, same,
    spec.number (fun _ => rfl) moved.stored after same, here⟩, ?_, ?_⟩
  · rintro rfl
    unfold storeMembers at second
    rw [answered] at second
    obtain ⟨-, rfl⟩ := run_pure_eq_ok.mp second
    rfl
  · rintro accounts rfl m
    unfold storeMembers at second
    rw [answered, created] at second
    dsimp only at second
    rw [number] at second
    exact mem_of_replaceGroupMembers second m

end Renaming

/-- A row matched at another DN has the directory id of the entry. -/
theorem Sheet.directoryID_of_matchRow {settings : Settings} {s : Sheet t} {e : NSSEntryRef}
    (h : s.matchRow settings e = some row) (elsewhere : row.dn ≠ e.dn) :
    settings.idConfigured = true ∧ e.directoryID ≠ "" ∧ row.directoryID = e.directoryID := by
  have notByDN : s.matchDN e ≠ some row := by
    intro found
    obtain ⟨first, -⟩ := Option.filter_eq_some_iff.mp found
    exact elsewhere (by simpa using (of_first first).2)
  unfold Sheet.matchRow at h
  split_ifs at h with identified
  · rw [Bool.and_eq_true, bne_iff_ne] at identified
    split at h
    · rename_i first found
      obtain rfl := Option.some.inj h
      exact ⟨identified.1, identified.2, by simpa using (of_first found).2⟩
    · exact (notByDN h).elim
  · exact (notByDN h).elim

/-- **A rename never crosses entries.**  Whatever a store of a group re-anchors is a row that
holds its gid at another DN, says nothing of another entry, and has gone from its DN, while no
row anchored the entry and no other entry carries the gid.  It is one row at most; it keeps its
id and its gid, and its memberships become those the entry lists, where a membership that stays
is not touched.  An account moves to an entry of its own directory id only. -/
theorem rename_never_crosses (settings : Settings) :
    (∀ (g : NSSGroup) (contenders : List NSSGroup) (complete : NSSKinds)
        (index : Option NSSMemberIndex) (gone : Option (String → Bool)) (importing : Bool)
        (now : Int) (newID : String) (d d' : Directory) (out : Stored Unit),
      (storeGroup settings g contenders complete index gone importing now newID).run d =
        .ok (out, d') →
      d'.accounts = d.accounts ∧
        (∀ row, Reanchored settings d.groups d'.groups g row →
          Renames settings d.groups g contenders gone row ∧
            Kept settings g index importing now d d' out row) ∧
        ∀ a b, Reanchored settings d.groups d'.groups g a →
          Reanchored settings d.groups d'.groups g b → a = b) ∧
      ∀ (a : NSSAccount) (disabled : Bool) (contenders : List NSSAccount) (complete : NSSKinds)
        (now : Int) (newID : String) (s s' : Sheet accountTable) (out : Stored AccountColumns),
      (storeAccount settings a disabled contenders complete now newID).run s = .ok (out, s') →
      ∀ row ∈ s.rows.rows, ∀ row' ∈ s'.rows.rows, row'.id = row.id → row.dn ≠ a.dn →
        row'.dn = a.dn →
        settings.idConfigured = true ∧ a.directoryID ≠ "" ∧ row.directoryID = a.directoryID := by
  constructor
  · intro g contenders complete index gone importing now newID d d' out h
    obtain ⟨accounts, spec, -⟩ := of_storeGroup h
    refine ⟨accounts, fun row moved => ?_, fun a b movedA movedB => ?_⟩
    · obtain ⟨unanchored, renamed⟩ := renameTarget_of_reanchored spec moved
      exact ⟨(of_renameTarget unanchored renamed).2, kept_of_reanchored h moved⟩
    · have found := (renameTarget_of_reanchored spec movedA).2
      rw [(renameTarget_of_reanchored spec movedB).2] at found
      exact (Option.some.inj found).symm
  · intro a disabled contenders complete now newID s s' out h row before row' after same elsewhere here
    have anchor := (of_storeAccount h).target_of_moved before after same elsewhere here
    obtain ⟨other, matched, id⟩ := Option.map_eq_some_iff.mp anchor
    obtain rfl := eq_of_id (of_matchRow matched) before id
    exact directoryID_of_matchRow matched elsewhere

namespace Sample

/-- A group of the directory that no entry id is known of. -/
def renamedGroup (dn name : String) (members : List String) : NSSGroup := ⟨dn, "", name, 500, members⟩

/-- One stored account, as the index of the members has it. -/
def oneAccount : NSSMemberIndex := ⟨false, [⟨1000, "ada", "uid=ada"⟩]⟩

/-- A group with one member is stored. -/
def grouped : DirectoryTx (Stored Unit) :=
  storeGroup settings (renamedGroup "cn=old" "old" ["ada"]) [] nssAllKinds (some oneAccount) none false 1 "row"

/-- The group is found at another DN, and the old one has gone. -/
def regrouped (members : List String) : DirectoryTx (Stored Unit) :=
  storeGroup settings (renamedGroup "cn=new" "new" members) [] nssAllKinds (some oneAccount)
    (some fun dn => dn == "cn=old") false 2 "other"

/-- The groups, by id, gid and DN, and the memberships. -/
structure Summary where
  groups : List (String × Nat × String)
  members : List PosixGroupMember
deriving DecidableEq

/-- What is stored. -/
def summary (d : Directory) : Summary :=
  ⟨d.groups.rows.rows.map fun row => (row.id, row.number, row.dn), d.members.rows⟩

/-- The directory before and after a transaction, with one group stored, and its answer. -/
def change (tx : DirectoryTx (Stored Unit)) : Option (Directory × Stored Unit × Directory) := do
  let first ← (grouped.run Directory.empty).toOption
  let second ← (tx.run first.2).toOption
  pure (first.2, second)

end Sample

open Sample in
/-- A renamed group that still has its member is re-anchored. -/
theorem rename_never_crosses_regrouped : ∃ d d' out row,
    (regrouped ["ada"]).run d = .ok (out, d') ∧
      Reanchored settings d.groups d'.groups (renamedGroup "cn=new" "new" ["ada"]) row ∧
      Renames settings d.groups (renamedGroup "cn=new" "new" ["ada"]) []
        (some fun dn => dn == "cn=old") row ∧
      Kept settings (renamedGroup "cn=new" "new" ["ada"]) (some oneAccount) false 2 d d' out row := by
  have ran : (change (regrouped ["ada"])).map (fun run =>
      (summary run.1, summary run.2.2, (run.1.groups.matchRow settings
        (renamedGroup "cn=new" "new" ["ada"]).ref).isNone)) =
      some (⟨[("row", 500, "cn=old")], [⟨500, 1000, some 1⟩]⟩,
        ⟨[("row", 500, "cn=new")], [⟨500, 1000, some 1⟩]⟩, true) := by decide +kernel
  obtain ⟨⟨d, out, d'⟩, found, data⟩ := Option.map_eq_some_iff.mp ran
  simp only [Prod.mk.injEq, summary, Summary.mk.injEq] at data
  obtain ⟨⟨before, -⟩, ⟨after, -⟩, unmatched⟩ := data
  obtain ⟨row, rows, here⟩ := map_eq_singleton_iff.mp before
  obtain ⟨row', rows', there⟩ := map_eq_singleton_iff.mp after
  simp only [Prod.mk.injEq] at here there
  have ran' : (regrouped ["ada"]).run d = .ok (out, d') := by
    simp only [change, Option.bind_eq_bind, Option.bind_eq_some_iff, Option.pure_def,
      Option.some.injEq, Prod.mk.injEq] at found
    obtain ⟨first, -, second, ran, rfl, rfl⟩ := found
    cases answered : (regrouped ["ada"]).run first.2 with
    | error =>
      rw [answered] at ran
      cases ran
    | ok =>
      rw [answered] at ran
      obtain rfl := Option.some.inj ran
      rfl
  have moved : Reanchored settings d.groups d'.groups (renamedGroup "cn=new" "new" ["ada"]) row := by
    refine ⟨rows ▸ mem_singleton_self row, fun matched => ?_, ?_,
      ⟨row', rows' ▸ mem_singleton_self row', there.1.trans here.1.symm, there.2.2⟩⟩
    · rw [matched] at unmatched
      cases unmatched
    · rw [here.2.2]
      decide
  obtain ⟨-, renamed, -⟩ := (rename_never_crosses settings).1 _ _ _ _ _ _ _ _ _ _ _ ran'
  exact ⟨d, d', out, row, ran', moved, renamed row moved⟩

open Sample in
/-- A renamed group that lists its member no longer is re-anchored, and loses the
membership. -/
theorem rename_drops_members :
    (change (regrouped [])).map (fun run => (summary run.1, summary run.2.2)) =
      some (⟨[("row", 500, "cn=old")], [⟨500, 1000, some 1⟩]⟩, ⟨[("row", 500, "cn=new")], []⟩) := by
  decide +kernel

end Ssoossh.NSS
