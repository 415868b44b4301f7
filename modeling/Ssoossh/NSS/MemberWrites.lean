import Ssoossh.NSS.Renames

/-!
# Writing memberships

`replaceGroupMembers` and the last transaction of `storeMembershipsOf` write the difference
between the stored memberships of one group, or of one account, and the wanted ones, and record
it per group.  Both are one write with its own rows: those under the gid, or under the uid
(`WritesExactly`), and so is the write of a group that is new, once its left-over rows are gone.
-/

namespace Ssoossh.NSS

open Relational Transactional Tx List

/-- The detail of `nss.group_members_changed`, but for names and row ids. -/
structure GroupMembersChanged where
  gid : Nat
  added : List Nat
  removed : List Nat
  addedCount : Nat
  removedCount : Nat
deriving DecidableEq

def nssMemberListCap : Nat := 100

def recordMemberChanges (deltas : List (Nat × NSSMemberDelta)) : List GroupMembersChanged :=
  deltas.map fun delta => ⟨delta.1, delta.2.added.take nssMemberListCap,
    delta.2.removed.take nssMemberListCap, delta.2.added.length, delta.2.removed.length⟩

/-- What `replaceGroupMembers` records.  A new group has its members in `nss.group_created`. -/
def groupMembersChanged (d : Directory) (gid : Nat) (uids : List Nat) (created : Bool) :
    List GroupMembersChanged :=
  if created then []
  else recordMemberChanges (memberDeltas (d.readMembers fun m => m.gid == gid)
    (uids.dedup.map fun uid => (gid, uid)))

/-- What `storeMembershipsOf` records. -/
def membershipsChanged (d : Directory) (uid : Nat) (gids : List Nat) : List GroupMembersChanged :=
  recordMemberChanges (memberDeltas (d.readMembers fun m => m.uid == uid)
    (gids.dedup.map fun gid => (gid, uid)))

/-! ## What is recorded -/

section Recorded

variable {before after : List (Nat × Nat)} {gid uid : Nat}

/-- One event for each group whose members differ, and what it says. -/
structure Recorded (before after : List (Nat × Nat)) (events : List GroupMembersChanged) : Prop where
  once : (events.map (·.gid)).Nodup
  changed : ∀ gid, gid ∈ events.map (·.gid) ↔ ∃ uid, ¬((gid, uid) ∈ before ↔ (gid, uid) ∈ after)
  exact : ∀ event ∈ events, ∃ added removed : List Nat, added.Pairwise (· < ·) ∧
    removed.Pairwise (· < ·) ∧
    (∀ uid, uid ∈ added ↔ (event.gid, uid) ∈ after ∧ (event.gid, uid) ∉ before) ∧
    (∀ uid, uid ∈ removed ↔ (event.gid, uid) ∈ before ∧ (event.gid, uid) ∉ after) ∧
    event = ⟨event.gid, added.take nssMemberListCap, removed.take nssMemberListCap,
      added.length, removed.length⟩

/-- A list without repetitions, sorted. -/
theorem sorted_dedup (l : List Nat) : (l.dedup.insertionSort (· ≤ ·)).Pairwise (· < ·) :=
  (pairwise_insertionSort _ _).imp₂ (fun _ _ => Nat.lt_of_le_of_ne)
    ((perm_insertionSort _ _).nodup_iff.mpr (nodup_dedup l))

theorem nodup_memberDeltas : ((memberDeltas before after).map Prod.fst).Nodup := by
  refine List.Nodup.sublist (filter_sublist.map _) ?_
  rw [map_map]
  exact List.Nodup.map (fun _ _ same => same) ((sorted_dedup _).imp Nat.ne_of_lt)

theorem nodup_addedIn : (addedIn (memberDeltas before after)).Nodup := by
  refine nodup_flatMap.mpr ⟨fun ⟨gid, delta⟩ listed => ?_, ?_⟩
  · obtain ⟨rfl, -⟩ := mem_memberDeltas.mp listed
    exact List.Nodup.map (fun _ _ same => congrArg Prod.snd same)
      ((sorted_dedup _).imp Nat.ne_of_lt)
  · refine (pairwise_map.mp nodup_memberDeltas).imp fun apart k here there => ?_
    obtain ⟨_, -, rfl⟩ := mem_map.mp here
    obtain ⟨_, -, same⟩ := mem_map.mp there
    exact apart (congrArg Prod.fst same).symm

theorem recorded (before after : List (Nat × Nat)) :
    Recorded before after (recordMemberChanges (memberDeltas before after)) := by
  have gids : (recordMemberChanges (memberDeltas before after)).map (·.gid) =
      (memberDeltas before after).map Prod.fst := by
    rw [recordMemberChanges, map_map]
    rfl
  refine ⟨gids ▸ nodup_memberDeltas, fun gid => ?_, fun event there => ?_⟩
  · rw [gids, mem_map]
    constructor
    · rintro ⟨⟨gid, delta⟩, listed, rfl⟩
      exact (mem_memberDeltas.mp listed).2
    · exact fun differs => ⟨(gid, _), mem_memberDeltas.mpr ⟨rfl, differs⟩, rfl⟩
  · obtain ⟨⟨gid, delta⟩, listed, rfl⟩ := mem_map.mp there
    obtain ⟨rfl, -⟩ := mem_memberDeltas.mp listed
    exact ⟨_, _, sorted_dedup _, sorted_dedup _, fun _ => mem_onlyIn, fun _ => mem_onlyIn, rfl⟩

theorem Recorded.eq_nil {events : List GroupMembersChanged} (h : Recorded before after events)
    (same : ∀ m, m ∈ before ↔ m ∈ after) : events = [] := by
  refine eq_nil_iff_forall_not_mem.mpr fun event there => ?_
  obtain ⟨uid, differs⟩ := (h.changed event.gid).mp (mem_map_of_mem there)
  exact differs (same (event.gid, uid))

end Recorded

/-! ## What is written -/

section Rewritten

variable {d d' : Directory} {own : Nat × Nat → Bool} {before after : List (Nat × Nat)}
variable {addedAt : Option Int}

/-- The rows among `own` are made those of `after`.  A membership that was stored keeps its row. -/
structure Rewritten (own : Nat × Nat → Bool) (after : List (Nat × Nat)) (addedAt : Option Int)
    (d d' : Directory) : Prop where
  accounts : d'.accounts = d.accounts
  groups : d'.groups = d.groups
  others : ∀ m : PosixGroupMember, ¬own (m.gid, m.uid) → (m ∈ d'.members.rows ↔ m ∈ d.members.rows)
  wanted : ∀ k, own k → (k ∈ d'.members.rows.map (fun m => (m.gid, m.uid)) ↔ k ∈ after)
  kept : ∀ m ∈ d.members.rows, (m.gid, m.uid) ∈ after → m ∈ d'.members.rows
  new : ∀ m ∈ d'.members.rows, (∀ old ∈ d.members.rows, ¬old.SameKey m) → m.addedAt = addedAt

theorem mem_readMembers {k : Nat × Nat} : k ∈ d.readMembers (fun m => own (m.gid, m.uid)) ↔
    own k ∧ k ∈ d.members.rows.map fun m => (m.gid, m.uid) := by
  simp only [Directory.readMembers, mem_map, Rel.mem_select]
  constructor
  · rintro ⟨m, ⟨there, mine⟩, rfl⟩
    exact ⟨mine, m, there, rfl⟩
  · rintro ⟨mine, m, there, rfl⟩
    exact ⟨m, ⟨there, mine⟩, rfl⟩

/-- Memberships that are not stored can be inserted. -/
theorem insertMembers_run {news : List (Nat × Nat)} (distinct : news.Nodup)
    (free : ∀ k ∈ news, k ∉ d.members.rows.map fun m => (m.gid, m.uid)) :
    ∃ d', (news.forM fun m => insertMember ⟨m.1, m.2, addedAt⟩ : DirectoryTx PUnit).run d =
      .ok ((), d') := by
  induction news generalizing d with
  | nil => exact ⟨d, run_pure_eq_ok.mpr ⟨rfl, rfl⟩⟩
  | cons new news ih =>
    obtain ⟨other, distinct⟩ := nodup_cons.mp distinct
    have fits : ∀ old ∈ d.members.rows, ¬old.SameKey ⟨new.1, new.2, addedAt⟩ := fun old there same =>
      free new mem_cons_self (mem_map.mpr ⟨old, there, Prod.ext same.1 same.2⟩)
    have inserted : ∃ d₁, (insertMember ⟨new.1, new.2, addedAt⟩).run d = .ok ((), d₁) :=
      ⟨_, run_get_bind_eq_ok.mpr (run_checked_set_eq_ok.mpr ⟨_, dif_pos fits, rfl⟩)⟩
    obtain ⟨_, first⟩ := inserted
    obtain ⟨members, rfl, rows⟩ := of_insertMember first
    obtain ⟨d', rest⟩ := ih (d := { d with members := members }) distinct fun k there stored => by
      rw [rows, map_append, mem_append] at stored
      rcases stored with stored | stored
      · exact free k (mem_cons_of_mem _ there) stored
      · obtain rfl := mem_singleton.mp stored
        exact other there
    exact ⟨d', run_bind_eq_ok.mpr ⟨_, _, first, rest⟩⟩

variable (mine : ∀ k ∈ after, own k)

include mine

/-- The write of a difference always goes through, and is exact. -/
theorem rewritten_of_applyMemberDeltas (d : Directory) :
    ∃ d', (applyMemberDeltas (memberDeltas (d.readMembers fun m => own (m.gid, m.uid)) after)
      addedAt).run d = .ok ((), d') ∧ Rewritten own after addedAt d d' := by
  set before := d.readMembers fun m => own (m.gid, m.uid) with read
  have stored : ∀ m ∈ d.members.rows, own (m.gid, m.uid) → (m.gid, m.uid) ∈ before :=
    fun m there mine => mem_readMembers.mpr ⟨mine, mem_map.mpr ⟨m, there, rfl⟩⟩
  have run : ∃ d', (applyMemberDeltas (memberDeltas before after) addedAt).run d = .ok ((), d') := by
    rw [applyMemberDeltas, forM_deleteMembers]
    refine Exists.imp (fun d' inserted => run_bind_eq_ok.mpr ⟨_, _, rfl, inserted⟩)
      (insertMembers_run nodup_addedIn fun k added there => ?_)
    obtain ⟨m, left, rfl⟩ := mem_map.mp there
    obtain ⟨wanted, new⟩ := mem_addedIn.mp added
    exact new (stored m (Rel.mem_delete.mp left).1 (mine _ wanted))
  obtain ⟨d', run⟩ := run
  have adds := of_applyMemberDeltas run
  have rows := (mem_of_applyMemberDeltas run).2
  refine ⟨d', run, adds.accounts, adds.groups, fun m other => ?_, fun k own => ?_,
    fun m there wanted => ?_, fun m there new => ?_⟩
  · rw [rows]
    constructor
    · rintro (⟨there, -⟩ | ⟨wanted, -⟩)
      · exact there
      · exact absurd (mine _ wanted) other
    · exact fun there => .inl ⟨there, fun read => absurd (mem_readMembers.mp read).1 other⟩
  · rw [mem_map]
    constructor
    · rintro ⟨m, there, rfl⟩
      rcases (rows m).mp there with ⟨there, keeps⟩ | ⟨wanted, -⟩
      · exact keeps (stored m there own)
      · exact wanted
    · intro wanted
      by_cases was : k ∈ before
      · obtain ⟨m, there, rfl⟩ := mem_map.mp (mem_readMembers.mp was).2
        exact ⟨m, (rows m).mpr (.inl ⟨there, fun _ => wanted⟩), rfl⟩
      · exact ⟨⟨k.1, k.2, addedAt⟩, (rows _).mpr (.inr ⟨wanted, was, rfl⟩), rfl⟩
  · exact (rows m).mpr (.inl ⟨there, fun _ => wanted⟩)
  · rcases (rows m).mp there with ⟨there, -⟩ | ⟨-, -, added⟩
    · exact absurd ⟨rfl, rfl⟩ (new m there)
    · exact added

/-- Once the memberships are those of `after`, writing them again changes and records nothing. -/
theorem Rewritten.again (h : Rewritten own after addedAt d d') (addedAt : Option Int) :
    (applyMemberDeltas (memberDeltas (d'.readMembers fun m => own (m.gid, m.uid)) after)
      addedAt).run d' = .ok ((), d') ∧
    recordMemberChanges (memberDeltas (d'.readMembers fun m => own (m.gid, m.uid)) after) = [] := by
  have same : ∀ k, k ∈ d'.readMembers (fun m => own (m.gid, m.uid)) ↔ k ∈ after := fun k => by
    rw [mem_readMembers]
    exact ⟨fun read => (h.wanted k read.1).mp read.2,
      fun wanted => ⟨mine k wanted, (h.wanted k (mine k wanted)).mpr wanted⟩⟩
  have none := (recorded _ after).eq_nil same
  refine ⟨?_, none⟩
  rw [map_eq_nil_iff.mp none]
  rfl

end Rewritten

/-! ## The writes -/

/-- The wanted memberships of a group, and of an account. -/
def inGroup (gid : Nat) (uids : List Nat) : List (Nat × Nat) := uids.dedup.map fun uid => (gid, uid)

def ofAccount (uid : Nat) (gids : List Nat) : List (Nat × Nat) := gids.dedup.map fun gid => (gid, uid)

/-- A write that reads the memberships among `own` and writes the difference to `after`. -/
def writeDifference (own : Nat × Nat → Bool) (after : List (Nat × Nat)) (addedAt : Option Int) :
    DirectoryTx PUnit := do
  let d ← get
  applyMemberDeltas (memberDeltas (d.readMembers fun m => own (m.gid, m.uid)) after) addedAt

/-- A write goes through and makes the memberships among `own` of `start` those of `after`, and
writing the difference again, at whatever time, changes and records nothing. -/
def WritesExactly (own : Nat × Nat → Bool) (after : List (Nat × Nat)) (addedAt : Option Int)
    (write again : Option Int → DirectoryTx PUnit) (records : Directory → List GroupMembersChanged)
    (start d : Directory) : Prop :=
  ∃ d', (write addedAt).run d = .ok ((), d') ∧ Rewritten own after addedAt start d' ∧
    ∀ later, (again later).run d' = .ok ((), d') ∧ records d' = []

theorem writeDifference_exact {own : Nat × Nat → Bool} {after : List (Nat × Nat)}
    (mine : ∀ k ∈ after, own k) (addedAt : Option Int) (d : Directory) :
    WritesExactly own after addedAt (writeDifference own after) (writeDifference own after)
      (fun d => recordMemberChanges (memberDeltas (d.readMembers fun m => own (m.gid, m.uid)) after))
      d d := by
  obtain ⟨d', run, exact⟩ := rewritten_of_applyMemberDeltas mine d
  refine ⟨d', run_get_bind_eq_ok.mpr run, exact, fun later => ?_⟩
  obtain ⟨run, none⟩ := exact.again mine later
  exact ⟨run_get_bind_eq_ok.mpr run, none⟩

/-- Both membership writes are exact and minimal, and record the difference per group.  The write
of a new group starts without the rows left under its gid, and its members are in
`nss.group_created`; from then on it is the write of a stored group. -/
theorem membership_writes_exact (d : Directory) (id : Nat) (wanted : List Nat) (importing : Bool)
    (now : Int) :
    (WritesExactly (fun k => k.1 == id) (inGroup id wanted) (memberAddedAt importing now)
        (replaceGroupMembers id wanted false) (replaceGroupMembers id wanted false)
        (groupMembersChanged · id wanted false) d d ∧
      Recorded (d.readMembers fun m => m.gid == id) (inGroup id wanted)
        (groupMembersChanged d id wanted false)) ∧
    (WritesExactly (fun k => k.1 == id) (inGroup id wanted) (memberAddedAt importing now)
        (replaceGroupMembers id wanted true) (replaceGroupMembers id wanted false)
        (groupMembersChanged · id wanted false)
        { d with members := d.members.delete fun m => m.gid == id } d ∧
      groupMembersChanged d id wanted true = []) ∧
    WritesExactly (fun k => k.2 == id) (ofAccount id wanted) (memberAddedAt false now)
        (replaceMembershipsOf id wanted) (replaceMembershipsOf id wanted)
        (membershipsChanged · id wanted) d d ∧
      Recorded (d.readMembers fun m => m.uid == id) (ofAccount id wanted)
        (membershipsChanged d id wanted) := by
  have group : ∀ k ∈ inGroup id wanted, k.1 == id := by simp [inGroup]
  have account : ∀ k ∈ ofAccount id wanted, k.2 == id := by simp [ofAccount]
  refine ⟨⟨writeDifference_exact group _ d, recorded _ _⟩, ⟨?_, rfl⟩,
    writeDifference_exact account _ d, recorded _ _⟩
  obtain ⟨d', run, exact, again⟩ := writeDifference_exact group (memberAddedAt importing now)
    { d with members := d.members.delete fun m => m.gid == id }
  refine ⟨d', ?_, exact, again⟩
  replace run := run_get_bind_eq_ok.mp run
  have cleared : { d with members := d.members.delete fun m => m.gid == id }.readMembers
      (fun m => m.gid == id) = [] := by
    simp [Directory.readMembers, Rel.select, Rel.delete, filter_filter]
  rw [cleared] at run
  exact run_bind_eq_ok.mpr ⟨_, _, rfl, run⟩

/-- A group is created under a gid with a row left over: the membership that was there and still
is does not keep its time, and the one that is new is in no delta. -/
theorem created_group_rewrites : ∃ d d' : Directory, d.members.rows = [⟨7, 1, some 5⟩] ∧
    (replaceGroupMembers 7 [1, 2] true (memberAddedAt false 9)).run d = .ok ((), d') ∧
    d'.members.rows = [⟨7, 1, some 9⟩, ⟨7, 2, some 9⟩] ∧ groupMembersChanged d 7 [1, 2] true = [] :=
  ⟨{ Directory.empty with members := ⟨[⟨7, 1, some 5⟩], pairwise_singleton _ _⟩ }, _, rfl, rfl, rfl, rfl⟩

end Ssoossh.NSS
