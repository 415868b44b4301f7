import Ssoossh.NSS.Transitions

/-!
# What a call of the service may do

The discipline of the calls, in terms of what a call has itself read and written.  The
members of a group are resolved with an index the call has loaded; the memberships of an
account are written for a uid and for gids the call has stored; what is tombstoned was
found due, what is purged was found expired, each row at most once; and a number is only
ever accepted or purged by a call that does nothing else.

Each program is walked through once, whatever it is answered.  What the answers stand
for in the stored directory, and for how long, is the matter of the modules about whole
runs.
-/

namespace Ssoossh.NSS

open Interleaving Prog List

/-! ## Histories -/

/-- What a call has done and been answered, newest first. -/
abbrev History := List (Event Act.Resp)

/-- The answers a database can give at all: a selection has no row twice. -/
def Plausible : (action : Act) → action.Resp → Prop
  | .read (.due _ _ _), .ok (rows : List RowRef) => rows.Nodup
  | .read (.expired _ _), .ok (rows : List RowRef) => (rows.map RowRef.id).Nodup
  | _, _ => True

/-- The actions of the last part of a run over a table. -/
def Finishes (table : TableName) : Act → Prop
  | .read (.due t _ _) => t = table
  | .commit (.tombstone t _ _) => t = table
  | _ => False

/-- No row of these tables has been found due or tombstoned yet. -/
def Early (tables : List TableName) (past : History) : Prop :=
  ∀ event ∈ past, ∀ table ∈ tables, ¬ Finishes table event.1

/-- The actions of the calls that purge. -/
def Purging : Act → Prop
  | .now => True
  | .read (.expired _ _) => True
  | .read (.tombstoned _ _) => True
  | .commit (.purge _ _ _) => True
  | _ => False

/-- The call has read this index. -/
def Loaded (past : History) (index : NSSMemberIndex) : Prop :=
  ∃ settings, ⟨.read (.memberIndex settings), .ok index⟩ ∈ past

/-- The call has stored an account with this uid. -/
def StoredUID (past : History) (uid : Nat) : Prop :=
  ∃ settings a disabled contenders complete now, ∃ stored : Stored AccountColumns,
    ⟨.commit (.storeAccount settings a disabled contenders complete now), .ok stored⟩ ∈ past ∧
      ∃ row, stored.row = some row ∧ row.number = uid

/-- The call has stored a group with this gid. -/
def StoredGID (past : History) (gid : Nat) : Prop :=
  ∃ settings g contenders complete index gone importing now, ∃ stored : Stored Unit,
    ⟨.commit (.storeGroup settings g contenders complete index gone importing now), .ok stored⟩ ∈
      past ∧ ∃ row, stored.row = some row ∧ row.number = gid

/-- The call has found the row due, with these bounds. -/
def FoundDue (past : History) (table : TableName) (row : RowRef) (start cutoff : Int) : Prop :=
  ∃ rows : List RowRef, ⟨.read (.due table start cutoff), .ok rows⟩ ∈ past ∧ row ∈ rows

/-- The call has tombstoned the row, or tried to. -/
def Tombstoned (past : History) (table : TableName) (row : RowRef) : Prop :=
  ∃ now answer, ⟨.commit (.tombstone table row now), answer⟩ ∈ past

/-- The call has found the row to be a tombstone. -/
def FoundDead (past : History) (table : TableName) (row : RowRef) : Prop :=
  (∃ cutoff, ∃ rows : List RowRef, ⟨.read (.expired table cutoff), .ok rows⟩ ∈ past ∧ row ∈ rows) ∨
    ∃ number, ⟨.read (.tombstoned table number), .ok (some row)⟩ ∈ past

/-- The call has purged the row with this id, or tried to. -/
def Purged (past : History) (table : TableName) (id : String) : Prop :=
  ∃ row now answer, ⟨.commit (.purge table row now), answer⟩ ∈ past ∧ row.id = id

/-- How long a row has to have been missing for a call to tombstone it. -/
def Call.tombstoneAfter : Call → Int
  | .sync settings _ => settings.tombstoneAfter
  | _ => 0

/-- **The discipline**: what a call may do next, after what it has seen.  `missing` is how
long the rows it tombstones have to have been missing, and `begun` the start they were not
seen since, for a run. -/
def May (missing : Int) (begun : Option Int) (past : History) : Act → Prop
  | .read (.due _ start _) => begun = some start
  | .commit (.storeAccount _ _ _ _ _ _) => Early [.accounts] past
  | .commit (.storeGroup _ _ _ _ index _ _ _) =>
    Early [.groups] past ∧ ∀ members, index = some members → Loaded past members
  | .commit (.replaceMembershipsOf uid gids _) => StoredUID past uid ∧ ∀ gid ∈ gids, StoredGID past gid
  | .commit (.acceptUser _ _) => ∀ event ∈ past, event.1 = .now
  | .commit (.acceptGroup _ _) => ∀ event ∈ past, event.1 = .now
  | .commit (.tombstone table row now) =>
    (∃ start, begun = some start ∧ FoundDue past table row start (GoTime.Time.add now (-missing))) ∧
      (⟨.now, now⟩ : Event Act.Resp) ∈ past ∧ ¬ Tombstoned past table row
  | .commit (.purge table row _) =>
    (∀ event ∈ past, Purging event.1) ∧ FoundDead past table row ∧ ¬ Purged past table row.id
  | .commit (.claimAccount read _) =>
    ∃ rows : List PosixUser, ⟨.read .unmailedAccounts, .ok rows⟩ ∈ past ∧ read ∈ rows
  | .commit (.claimGroup read _) =>
    ∃ rows : List PosixGroup, ⟨.read .unmailedGroups, .ok rows⟩ ∈ past ∧ read ∈ rows
  | _ => True

/-- The run of this history read the clock first, and began then, to the microsecond. -/
def Begun (past : History) (start : Int) : Prop :=
  ∃ t : Int, past.getLast? = some ⟨.now, t⟩ ∧ start = GoTime.Time.truncate t GoTime.Duration.microsecond

/-- The discipline of a call, which is a run if it finds rows due. -/
def Call.May (call : Call) (past : History) (action : Act) : Prop :=
  ∃ begun, (∀ start, begun = some start → Begun past start) ∧
    NSS.May call.tombstoneAfter begun past action

variable {index : NSSMemberIndex} {action : Act}

section Growing

variable {past now : History} {tables : List TableName}

theorem StoredUID.grow {uid : Nat} (h : StoredUID past uid) (grown : past ⊆ now) :
    StoredUID now uid := by
  obtain ⟨settings, a, disabled, contenders, complete, time, stored, member, row⟩ := h
  exact ⟨settings, a, disabled, contenders, complete, time, stored, grown member, row⟩

theorem StoredGID.grow {gid : Nat} (h : StoredGID past gid) (grown : past ⊆ now) :
    StoredGID now gid := by
  obtain ⟨settings, g, contenders, complete, index, gone, importing, time, stored, member, row⟩ := h
  exact ⟨settings, g, contenders, complete, index, gone, importing, time, stored, grown member, row⟩

theorem Loaded.grow (h : Loaded past index) (grown : past ⊆ now) : Loaded now index :=
  h.imp fun _ member => grown member

/-- An action that finishes none of the tables. -/
theorem Early.cons {answer : action.Resp} (h : Early tables past)
    (mild : ∀ table ∈ tables, ¬ Finishes table action) :
    Early tables (⟨action, answer⟩ :: past) :=
  forall_mem_cons.mpr ⟨mild, h⟩

theorem Early.of_subset {tables' : List TableName} (h : Early tables past)
    (fewer : tables' ⊆ tables) : Early tables' past :=
  fun event member table among => h event member table (fewer among)

theorem early_nil : Early [] past := fun _ _ _ none => absurd none not_mem_nil

end Growing

/-! ## Answers -/

theorem Sheet.nodup_expired {α : Type} {t : NSSTable α} (s : Sheet t) (cutoff : Int) :
    ((s.expired cutoff).map RowRef.id).Nodup := by
  rw [Sheet.expired, map_map]
  refine List.Nodup.map_on (fun a inA b inB same => ?_) ?_
  · exact Sheet.eq_of_id (Relational.Rel.mem_select.mp inA).1 (Relational.Rel.mem_select.mp inB).1 same
  · exact List.Nodup.filter _ (s.rows.distinct.imp fun apart same =>
      apart (.inl (congrArg PosixRow.id same)))

theorem Sheet.nodup_dueRows {α : Type} {t : NSSTable α} (s : Sheet t) (start cutoff : Int) :
    (s.dueRows start cutoff).Nodup := by
  refine List.Nodup.of_map RowRef.id ?_
  rw [Sheet.dueRows, map_map]
  exact s.nodup_ids.sublist (filter_sublist.map _)

/-- The database gives plausible answers. -/
theorem plausible_of_exec {tid : Tid} {s s' : Shared} {choice : Choice} {answer : action.Resp}
    (h : exec tid s action choice = some (s', answer)) : Plausible action answer := by
  cases action with
  | now | commit => trivial
  | read query =>
    rcases of_exec_read h with ⟨-, failure, rfl⟩ | ⟨-, rfl⟩
    · cases query <;> trivial
    · cases query with
      | due table start cutoff =>
        cases table with
        | accounts | groups => exact Sheet.nodup_dueRows _ start cutoff
      | expired table cutoff =>
        cases table with
        | accounts | groups => exact Sheet.nodup_expired _ cutoff
      | _ => trivial

/-- The call keeps to the discipline and `N` holds on the way, whatever comes of it. -/
abbrev Walks {β : Type} (missing : Int) (begun : Option Int) (N : History → Prop)
    (program : Service β) (past : History) : Prop :=
  Keeps Plausible (May missing begun) N (fun _ _ => True) program past

/-! ## Single actions -/

section Actions

variable {missing : Int} {begun : Option Int} {N : History → Prop} {past : History} {tables : List TableName}

theorem keeps_clock (kept : ∀ t, N (⟨.now, t⟩ :: past)) :
    Keeps Plausible (May missing begun) N (fun now t => now = ⟨.now, t⟩ :: past) clock past :=
  (keeps_perform trivial kept).mono fun _ _ _ _ known => known.1

theorem keeps_read (query : Query) {words : Option String} (may : May missing begun past (.read query))
    (kept : ∀ answer, N (⟨.read query, answer⟩ :: past)) :
    Keeps Plausible (May missing begun) N (fun now row => now = ⟨.read query, .ok row⟩ :: past ∧
      Plausible (.read query) (.ok row)) (read query words) past := by
  refine (keeps_perform may kept).bind fun now answer _ _ known => ?_
  obtain ⟨rfl, can⟩ := known
  cases answer with
  | ok => exact keeps_pure (kept _) ⟨rfl, can⟩
  | error => exact keeps_throw (kept _)

theorem keeps_commit (statement : Statement) {words : Option String} (may : May missing begun past (.commit statement))
    (kept : ∀ answer, N (⟨.commit statement, answer⟩ :: past)) :
    Keeps Plausible (May missing begun) N (fun now result => now = ⟨.commit statement, .ok result⟩ :: past)
      (commit statement words) past := by
  refine (keeps_perform may kept).bind fun now answer _ _ known => ?_
  obtain ⟨rfl, -⟩ := known
  cases answer with
  | ok => exact keeps_pure (kept _) rfl
  | error => exact keeps_throw (kept _)

end Actions

/-! ## Loops -/

section Loops

variable {missing : Int} {begun : Option Int} {β γ : Type} {N : History → Prop} {past : History}

/-- A program whose failure is only counted. -/
theorem follows_failing {Q : History → γ → Prop} {program : Service γ}
    (h : Keeps Plausible (May missing begun) N Q program past) :
    (failing program).run.Follows Plausible (May missing begun)
      (fun now outcome => N now ∧ ∃ failed, outcome = .ok failed) past := by
  refine Follows.bind h fun now outcome _ known => ?_
  cases outcome with
  | ok => exact .ret ⟨known.1, false, rfl⟩
  | error => exact .ret ⟨known.1, true, rfl⟩

/-- A loop that goes on after a failure.  `I` says what holds with these elements still to
come. -/
theorem keeps_countFailed {I : List β → History → Prop} {program : β → Service γ}
    (each : ∀ x rest now, I (x :: rest) now →
      Walks missing begun (I rest) (program x) now)
    {l : List β} (h : I l past) :
    Walks missing begun (I []) (countFailed program l) past := by
  induction l generalizing past with
  | nil => exact keeps_pure h trivial
  | cons x rest ih =>
    refine Follows.bindExcept (follows_failing (each x rest past h)) ?_ fun now failed _ known => ?_
    · rintro now error - ⟨-, failed, impossible⟩
      cases impossible
    · exact (ih known.1).bind fun now more _ kept _ => keeps_pure kept trivial

end Loops

/-! ## Storing entries -/

variable {complete : NSSKinds} {table : TableName} {time : Int}

section Storing

variable {missing : Int} {begun : Option Int} {past : History} {tables : List TableName} {settings : Settings}

section

variable (early : Early tables past)
include early

/-- What stores, and the clock, finishes no table. -/
theorem keeps_storeAccountCall {a : NSSAccount} {disabled : Bool} {contenders : List NSSAccount}
    (accounts : TableName.accounts ∈ tables) :
    Keeps Plausible (May missing begun) (Early tables)
      (fun now stored => ∀ row, stored.row = some row → StoredUID now row.number)
      (storeAccountCall settings a disabled contenders complete) past := by
  refine (keeps_clock fun _ => early.cons fun _ _ => id).bind fun now t _ early' known => ?_
  refine (keeps_commit (.storeAccount settings a disabled contenders complete t)
    (early'.of_subset (by simpa using accounts)) fun _ => early'.cons fun _ _ => id).mono fun now' stored _ _ known row found => ?_
  obtain rfl := known
  exact ⟨settings, a, disabled, contenders, complete, t, stored, mem_cons_self, row, found, rfl⟩

theorem keeps_storeGroupCall {g : NSSGroup} {contenders : List NSSGroup}
    {index : Option NSSMemberIndex} {gone : Option (String → Bool)} {importing : Bool}
    (groups : TableName.groups ∈ tables)
    (loaded : ∀ members, index = some members → Loaded past members) :
    Keeps Plausible (May missing begun) (Early tables)
      (fun now stored => ∀ row, stored.row = some row → StoredGID now row.number)
      (storeGroupCall settings g contenders complete index gone importing) past := by
  refine (keeps_clock fun _ => early.cons fun _ _ => id).bind fun now t grown early' known => ?_
  refine (keeps_commit (.storeGroup settings g contenders complete index gone importing t)
    ⟨early'.of_subset (by simpa using groups), fun members some =>
      (loaded members some).grow grown⟩ fun _ => early'.cons fun _ _ => id).mono
    fun now' stored _ _ known row found => ?_
  obtain rfl := known
  exact ⟨settings, g, contenders, complete, index, gone, importing, t, stored, mem_cons_self,
    row, found, rfl⟩

/-! ## Sync -/

theorem keeps_syncAccount {read : NSSAccount × Option AccountCheck}
    (accounts : TableName.accounts ∈ tables) :
    Walks missing begun (Early tables) (syncAccount settings read) past := by
  unfold syncAccount
  cases read.2 with
  | none => exact keeps_throw early
  | some =>
    exact (keeps_storeAccountCall early accounts).bind fun _ _ _ early' _ =>
      keeps_pure early' trivial

theorem keeps_syncGroup {importing : Bool} {read : NSSGroup × Option GroupCheck}
    (groups : TableName.groups ∈ tables) (loaded : Loaded past index) :
    Walks missing begun (fun now => Early tables now ∧ Loaded now index)
      (syncGroup settings index importing read) past := by
  unfold syncGroup
  cases read.2 with
  | none => exact keeps_throw ⟨early, loaded⟩
  | some check =>
    have stores : Keeps Plausible (May missing begun) (Early tables)
        (fun now stored => ∀ row, stored.row = some row → StoredGID now row.number)
        (storeGroupCall settings read.1 check.contenders check.complete (some index)
          (some check.gone) importing) past :=
      keeps_storeGroupCall early groups fun members some => Option.some.inj some ▸ loaded
    refine Follows.bindExcept stores ?_ fun now stored grown known => ?_
    · exact fun now error grown known =>
        ⟨⟨known.1, loaded.grow grown⟩, nofun⟩
    · exact keeps_pure ⟨known.1, loaded.grow grown⟩ trivial

end

variable {start : Int}

/-- Each row that was found due is tombstoned once. -/
theorem keeps_tombstoneEach {rows : List RowRef} (early : Early tables past)
    (apart : table ∉ tables) (clock : (⟨.now, time⟩ : Event Act.Resp) ∈ past)
    (found : ∀ row ∈ rows, FoundDue past table row start (GoTime.Time.add time (-missing)))
    (nodup : rows.Nodup) (new : ∀ row ∈ rows, ¬ Tombstoned past table row) :
    Walks missing (some start) (Early tables) (tombstoneEach table time rows) past := by
  induction rows generalizing past with
  | nil => exact keeps_pure early trivial
  | cons row rows ih =>
    obtain ⟨other, nodup⟩ := nodup_cons.mp nodup
    have mild : ∀ t ∈ tables, ¬ Finishes t (.commit (.tombstone table row time)) :=
      fun t among same => apart (same ▸ among)
    refine (keeps_commit (.tombstone table row time)
      ⟨⟨start, rfl, found row mem_cons_self⟩, clock, new row mem_cons_self⟩ fun _ => early.cons mild).bind fun now done grown early' known => ?_
    obtain rfl := known
    refine ih early' (grown clock) (fun later member => ?_) nodup fun later member => ?_
    · obtain ⟨all, read, among⟩ := found later (mem_cons_of_mem _ member)
      exact ⟨all, grown read, among⟩
    · rintro ⟨t, answer, already⟩
      rcases mem_cons.mp already with same | earlier
      · obtain ⟨same, -⟩ := Sigma.mk.inj same
        cases same
        exact other member
      · exact new later (mem_cons_of_mem _ member) ⟨t, answer, earlier⟩

theorem keeps_finishTable (early : Early (table :: tables) past) (apart : table ∉ tables) :
    Walks settings.tombstoneAfter (some start) (Early tables) (finishTable settings table start) past := by
  have mild : ∀ {action : Act} {l : List TableName}, (∀ t, ¬ Finishes t action) →
      ∀ t ∈ l, ¬ Finishes t action := fun never t _ => never t
  have marks : Walks settings.tombstoneAfter (some start) (Early tables)
      (markMissingCall settings table start) past := by
    refine ((keeps_clock fun _ => early.cons (mild fun _ => id)).relax
      fun now h => h.of_subset (subset_cons_self _ _)).bind fun now t _ _ known => ?_
    refine ((keeps_commit (.markMissing table start t) trivial fun _ => known.1.cons (mild fun _ => id)).relax
      fun now h => h.of_subset (subset_cons_self _ _)).bind fun now' _ grown' _ known' => ?_
    have early' : Early tables now' := known'.1.of_subset (subset_cons_self _ _)
    refine (keeps_read (.due table start (GoTime.Time.add t (-settings.tombstoneAfter))) rfl fun _ =>
      early'.cons fun t among (same : table = t) => apart (same ▸ among)).bind
      fun now'' rows grown'' early'' known'' => ?_
    obtain ⟨rfl, nodup⟩ := known''
    refine keeps_tombstoneEach early'' apart (grown'' (grown' (known.2 ▸ mem_cons_self))) (fun row member => ⟨rows, mem_cons_self, member⟩)
      nodup fun row member => ?_
    rintro ⟨t, answer, already⟩
    rcases mem_cons.mp already with same | earlier
    · cases (Sigma.mk.inj same).1
    · exact known'.1 _ earlier table mem_cons_self rfl
  refine marks.bind fun now _ _ early' _ => ?_
  refine (keeps_clock fun _ => early'.cons (mild fun _ => id)).bind fun now t _ early'' _ => ?_
  refine (keeps_commit (.sweepCollisions table start t) trivial fun _ =>
    early''.cons (mild fun _ => id)).bind
    fun now _ _ early''' _ => keeps_pure early''' trivial

theorem keeps_syncAccounts {found : AccountsRead} (early : Early [.accounts, .groups] past) :
    Walks settings.tombstoneAfter (some start) (Early [.groups]) (syncAccounts settings start found)
      past := by
  have stores : Walks settings.tombstoneAfter (some start) (Early [.accounts, .groups])
      (countFailed (syncAccount settings) (found.checks settings.text)) past :=
    keeps_countFailed (I := fun _ => Early [.accounts, .groups])
      (fun _ _ _ early => keeps_syncAccount early (by simp)) early
  refine (stores.relax fun now h => h.of_subset (by simp)).bind fun now failed _ early' known => ?_
  split_ifs with complete
  · exact keeps_finishTable known.1 (by simp)
  · exact keeps_pure early' trivial

theorem keeps_syncGroups {found : Except Failure GroupsRead} (early : Early [.groups] past) :
    Walks settings.tombstoneAfter (some start) (Early []) (syncGroups settings start found) past := by
  refine ((keeps_read .groupsEmpty (N := Early [.groups]) trivial fun _ => early.cons fun _ _ => id).relax
    fun _ _ => early_nil).bind fun now importing _ _ known => ?_
  cases found with
  | error => exact keeps_throw early_nil
  | ok found =>
    refine ((keeps_read (.memberIndex settings) (N := Early [.groups]) trivial fun _ =>
      known.1.cons fun _ _ => id).relax
      fun _ _ => early_nil).bind fun now' index _ _ known' => ?_
    obtain ⟨early', rfl, -⟩ := known'
    have loaded : Loaded (⟨.read (.memberIndex settings), .ok index⟩ :: now) index :=
      ⟨settings, mem_cons_self⟩
    have stores : Walks settings.tombstoneAfter (some start) (fun now => Early [.groups] now ∧ Loaded now index) (countFailed (syncGroup settings index importing)
          (found.checks settings.text)) (⟨.read (.memberIndex settings), .ok index⟩ :: now) :=
      keeps_countFailed (I := fun _ now => Early [.groups] now ∧ Loaded now index)
        (fun _ _ _ known => keeps_syncGroup known.1 (by simp) known.2) ⟨early', loaded⟩
    refine (stores.relax fun _ _ => early_nil).bind fun now failed _ _ known => ?_
    split_ifs with complete
    · exact keeps_finishTable known.1.1 (by simp)
    · exact keeps_pure early_nil trivial

end Storing

/-! ## Mail -/

section Mail

variable {missing : Int} {begun : Option Int} {past : History}

theorem keeps_claimAccounts {rows : List PosixUser}
    (found : ∀ row ∈ rows, ∃ all : List PosixUser, ⟨.read .unmailedAccounts, .ok all⟩ ∈ past ∧
      row ∈ all) :
    Walks missing begun (Early []) (claimAccounts time rows) past := by
  induction rows generalizing past with
  | nil => exact keeps_pure early_nil trivial
  | cons row rows ih =>
    refine (keeps_commit (.claimAccount row time) (found row mem_cons_self) fun _ => early_nil).bind
      fun now _ grown _ _ => ih fun later member => ?_
    obtain ⟨all, read, among⟩ := found later (mem_cons_of_mem _ member)
    exact ⟨all, grown read, among⟩

theorem keeps_claimGroups {rows : List PosixGroup}
    (found : ∀ row ∈ rows, ∃ all : List PosixGroup, ⟨.read .unmailedGroups, .ok all⟩ ∈ past ∧
      row ∈ all) :
    Walks missing begun (Early []) (claimGroups time rows) past := by
  induction rows generalizing past with
  | nil => exact keeps_pure early_nil trivial
  | cons row rows ih =>
    refine (keeps_commit (.claimGroup row time) (found row mem_cons_self) fun _ => early_nil).bind
      fun now _ grown _ _ => ih fun later member => ?_
    obtain ⟨all, read, among⟩ := found later (mem_cons_of_mem _ member)
    exact ⟨all, grown read, among⟩

theorem keeps_mailPendingIDChanges {admins : Except Failure Bool} :
    Walks missing begun (Early []) (mailPendingIDChanges admins) past := by
  refine (keeps_read .unmailedAccounts trivial fun _ => early_nil).bind fun now accounts _ _ known => ?_
  obtain ⟨rfl, -⟩ := known
  refine (keeps_read .unmailedGroups trivial fun _ => early_nil).bind fun now groups grown _ known => ?_
  obtain ⟨rfl, -⟩ := known
  split_ifs with none
  · exact keeps_pure early_nil trivial
  · cases admins with
    | error => exact keeps_throw early_nil
    | ok some =>
      cases some with
      | false => exact keeps_pure early_nil trivial
      | true =>
        refine (keeps_clock fun _ => early_nil).bind fun now t grown' _ _ => ?_
        refine (keeps_claimAccounts fun row member =>
          ⟨accounts, grown' (grown mem_cons_self), member⟩).bind fun now' _ grown'' _ _ => ?_
        exact keeps_claimGroups fun row member =>
          ⟨groups, grown'' (grown' mem_cons_self), member⟩

theorem keeps_syncFrom {settings : Settings} {start : Int} {run : SyncRun}
    (early : Early [.accounts, .groups] past) :
    Walks settings.tombstoneAfter (some start) (Early []) (syncFrom settings run start) past := by
  unfold syncFrom
  cases accounts : run.accounts with
  | error => exact keeps_throw early_nil
  | ok =>
    refine ((keeps_syncAccounts early).relax fun _ _ => early_nil).bind fun now _ _ _ known => ?_
    refine (keeps_syncGroups known.1).bind fun now _ _ _ _ => ?_
    cases mail : run.admins with
    | none => exact keeps_pure early_nil trivial
    | some =>
      refine Follows.bindExcept (follows_failing keeps_mailPendingIDChanges) ?_
        fun now failed _ _ => keeps_pure early_nil trivial
      rintro now error - ⟨-, failed, impossible⟩
      cases impossible

end Mail

/-! ## Reads on demand -/

section OnDemand

variable {missing : Int} {begun : Option Int} {past : History} {settings : Settings}

/-- Nothing has been found due in either table. -/
abbrev Untouched (past : History) : Prop := Early [.accounts, .groups] past

variable {gone : String → Bool}

theorem keeps_storeMembershipGroups {groups : List NSSGroup} (early : Untouched past) :
    Keeps Plausible (May missing begun) Untouched (fun now gids => ∀ gid ∈ gids, StoredGID now gid)
      (storeMembershipGroups settings gone groups) past := by
  induction groups generalizing past with
  | nil => exact keeps_pure early nofun
  | cons g rest ih =>
    refine (keeps_storeGroupCall early (by simp) fun members impossible => by cases impossible).bind
      fun now stored _ early' known => ?_
    refine (ih early').bind fun now' gids grown early'' known' => ?_
    cases row : stored.row with
    | none => exact keeps_pure early'' known'
    | some row' =>
      refine keeps_pure early'' fun gid member => ?_
      split_ifs at member with live
      · rcases mem_cons.mp member with rfl | member
        · exact (known row' row).grow grown
        · exact known' gid member
      · exact known' gid member

theorem keeps_storeMembershipsOf {account : PosixUser} {groups : List NSSGroup}
    (early : Untouched past) (stored : StoredUID past account.number) :
    Walks missing begun Untouched (storeMembershipsOf settings account groups gone)
      past := by
  refine (keeps_storeMembershipGroups early).bind fun now gids grown early' known => ?_
  refine (keeps_clock fun _ => early'.cons fun _ _ => id).bind fun now' t grown' early'' _ => ?_
  refine (keeps_commit (.replaceMembershipsOf account.number gids t) ⟨(stored.grow grown).grow grown', fun gid member =>
    (known gid member).grow grown'⟩ fun _ => early''.cons fun _ _ => id).bind
    fun _ _ _ early''' _ => keeps_pure early''' trivial

variable {asked : Asked}

variable (early : Untouched past)
include early

theorem keeps_storeAccountsOnDemand {all : List OnDemandAccount}
    {entries : List (OnDemandAccount × Nat)} {result : Refreshed} :
    Walks missing begun Untouched
      (storeAccountsOnDemand settings asked complete all entries result) past := by
  induction entries generalizing past result with
  | nil => exact keeps_pure early trivial
  | cons entry rest ih =>
    obtain ⟨found, i⟩ := entry
    refine (keeps_storeAccountCall early (by simp)).bind fun now stored _ early' known => ?_
    cases row : stored.row with
    | none => exact ih early'
    | some row' =>
      exact (keeps_storeMembershipsOf early' (known row' row)).bind
        fun now' _ _ early'' _ => ih early''

theorem keeps_readAccountsOnDemand {answer : Except Failure (Answer OnDemandAccount)} :
    Walks missing begun Untouched (readAccountsOnDemand settings asked answer)
      past := by
  cases answer with
  | error => exact keeps_throw early
  | ok => exact keeps_storeAccountsOnDemand early

theorem keeps_storeGroupsOnDemand {all : List NSSGroup} {entries : List (NSSGroup × Nat)}
    {result : Refreshed} (loaded : Loaded past index) :
    Walks missing begun Untouched
      (storeGroupsOnDemand settings asked complete index gone all entries result) past := by
  induction entries generalizing past result with
  | nil => exact keeps_pure early trivial
  | cons entry rest ih =>
    obtain ⟨g, i⟩ := entry
    exact (keeps_storeGroupCall early (by simp) fun members some =>
      Option.some.inj some ▸ loaded).bind fun now stored grown early' _ =>
        ih early' (loaded.grow grown)

theorem keeps_readGroupsOnDemand {answer : Except Failure (Answer NSSGroup)} {gone : List String} :
    Walks missing begun Untouched
      (readGroupsOnDemand settings asked answer gone) past := by
  cases answer with
  | error => exact keeps_throw early
  | ok =>
    unfold readGroupsOnDemand
    dsimp only
    split_ifs with none
    · exact keeps_pure early trivial
    · refine (keeps_read (.memberIndex settings) trivial fun _ => early.cons fun _ _ => id).bind
        fun now index _ early' known => ?_
      obtain ⟨rfl, -⟩ := known
      exact keeps_storeGroupsOnDemand early' ⟨settings, mem_cons_self⟩

theorem keeps_link {row : PosixUser} {userID : String} :
    Walks missing begun Untouched (link row userID) past := by
  unfold link
  cases row.own.userID with
  | some => exact keeps_pure early trivial
  | none =>
    refine (keeps_read (.linkedElsewhere userID row.id) trivial fun _ => early.cons fun _ _ => id).bind
      fun now other _ early' _ => ?_
    split_ifs with taken
    · exact keeps_pure early' trivial
    · refine (keeps_clock fun _ => early'.cons fun _ _ => id).bind fun now t _ early'' _ => ?_
      exact (keeps_commit (.link row.id userID t) trivial fun _ =>
        early''.cons fun _ _ => id).mono fun _ _ _ _ _ => trivial

theorem keeps_linkLogin {userID directoryID dn : String} {uid : Nat}
    {answer : Except Failure (Answer OnDemandAccount)} :
    Walks missing begun Untouched
      (linkLogin settings userID directoryID dn uid answer) past := by
  refine (keeps_read (.loginRow directoryID dn) trivial fun _ => early.cons fun _ _ => id).bind
    fun now row _ early' _ => ?_
  cases row with
  | some => exact keeps_link early'
  | none =>
    refine (keeps_readAccountsOnDemand early').bind fun now _ _ early'' _ => ?_
    refine (keeps_read (.loginRow directoryID dn) trivial fun _ => early''.cons fun _ _ => id).bind
      fun now row _ early''' _ => ?_
    cases row with
    | some => exact keeps_link early'''
    | none => exact keeps_pure early''' trivial

end OnDemand

/-! ## Purging and accepting -/

section Purging

variable {missing : Int} {begun : Option Int} {past : History}

/-- Nothing but the actions of a purge has been taken. -/
def PurgesOnly (past : History) : Prop := ∀ event ∈ past, Purging event.1

theorem PurgesOnly.cons {answer : action.Resp} (h : PurgesOnly past) (purging : Purging action) :
    PurgesOnly (⟨action, answer⟩ :: past) :=
  forall_mem_cons.mpr ⟨purging, h⟩

theorem FoundDead.grow {row : RowRef} {now : History} (h : FoundDead past table row)
    (grown : past ⊆ now) : FoundDead now table row := by
  refine h.imp ?_ ?_
  · rintro ⟨cutoff, rows, read, member⟩
    exact ⟨cutoff, rows, grown read, member⟩
  · rintro ⟨number, read⟩
    exact ⟨number, grown read⟩

/-- Another action is no purge of this row. -/
theorem purged_cons {id : String} {answer : action.Resp}
    (h : Purged (⟨action, answer⟩ :: past) table id) :
    (∃ row now, action = .commit (.purge table row now) ∧ row.id = id) ∨ Purged past table id := by
  obtain ⟨row, now, done, member, same⟩ := h
  rcases mem_cons.mp member with here | earlier
  · exact .inl ⟨row, now, (Sigma.mk.inj here).1.symm, same⟩
  · exact .inr ⟨row, now, done, earlier, same⟩

/-- One purge: what was not purged before is not purged now, unless it is this row. -/
theorem keeps_purgeCall {row : RowRef} {N : History → Prop} (only : PurgesOnly past)
    (found : FoundDead past table row) (new : ¬ Purged past table row.id)
    (kept : ∀ t answer, N (⟨.now, t⟩ :: past) ∧
      N (⟨.commit (.purge table row t), answer⟩ :: ⟨.now, t⟩ :: past)) :
    Walks missing begun N (purgeCall table row) past := by
  refine (keeps_clock fun t => (kept t (.ok ⟨⟩)).1).bind fun now t _ _ known => ?_
  obtain rfl := known
  have may : May missing begun (⟨.now, t⟩ :: past) (.commit (.purge table row t)) := by
    refine ⟨only.cons trivial, found.grow (subset_cons_self _ _), fun purged => ?_⟩
    rcases purged_cons purged with ⟨_, _, impossible, -⟩ | earlier
    · cases impossible
    · exact new earlier
  exact (keeps_commit (.purge table row t) may fun answer => (kept t answer).2).bind
    fun now _ _ kept' _ => keeps_pure kept' trivial

/-- What holds while the rows of a table are purged one by one, with `rest` to come: they
were found, and neither they nor those of the tables after it are purged yet. -/
structure Remaining (table : TableName) (after : List (TableName × List RowRef))
    (rest : List RowRef) (past : History) : Prop where
  only : PurgesOnly past
  found : ∀ row ∈ rest, FoundDead past table row
  nodup : (rest.map RowRef.id).Nodup
  new : ∀ row ∈ rest, ¬ Purged past table row.id
  later : ∀ part ∈ after, part.1 ≠ table ∧ ∀ row ∈ part.2, FoundDead past part.1 row ∧
    ¬ Purged past part.1 row.id

theorem Remaining.cons {after : List (TableName × List RowRef)} {rest : List RowRef}
    {answer : action.Resp} (h : Remaining table after rest past) (purging : Purging action)
    (apart : ∀ t row now, action = .commit (.purge t row now) →
      t = table ∧ row.id ∉ rest.map RowRef.id) :
    Remaining table after rest (⟨action, answer⟩ :: past) := by
  refine ⟨h.only.cons purging, fun row member => (h.found row member).grow (subset_cons_self _ _),
    h.nodup, fun row member purged => ?_, fun part member => ⟨(h.later part member).1, fun row among => ?_⟩⟩
  · rcases purged_cons purged with ⟨other, now, same, id⟩ | earlier
    · exact (apart _ _ _ same).2 (mem_map.mpr ⟨row, member, id.symm⟩)
    · exact h.new row member earlier
  · obtain ⟨found, new⟩ := (h.later part member).2 row among
    refine ⟨found.grow (subset_cons_self _ _), fun purged => ?_⟩
    rcases purged_cons purged with ⟨other, now, same, -⟩ | earlier
    · exact (h.later part member).1 (apart _ _ _ same).1
    · exact new earlier

theorem keeps_purges {after : List (TableName × List RowRef)} {rows : List RowRef}
    (h : Remaining table after rows past) :
    Walks missing begun (Remaining table after [])
      (countFailed (purgeCall table) rows) past := by
  refine keeps_countFailed (I := Remaining table after) (fun row rest now h => ?_) h
  obtain ⟨fresh, nodup⟩ := nodup_cons.mp h.nodup
  have tail : Remaining table after rest now := ⟨h.only, fun later member =>
    h.found later (mem_cons_of_mem _ member), nodup, fun later member =>
    h.new later (mem_cons_of_mem _ member), h.later⟩
  refine keeps_purgeCall h.only (h.found row mem_cons_self) (h.new row mem_cons_self)
    fun t answer => ?_
  have timed : Remaining table after rest (⟨.now, t⟩ :: now) := tail.cons trivial nofun
  refine ⟨timed, timed.cons trivial ?_⟩
  rintro _ _ _ ⟨⟩
  exact ⟨rfl, fresh⟩

theorem keeps_purgeTombstones {settings : Settings} :
    Walks missing begun PurgesOnly (purgeTombstones settings) [] := by
  have start : PurgesOnly [] := fun _ none => absurd none not_mem_nil
  refine (keeps_clock fun _ => start.cons trivial).bind fun now t _ only known => ?_
  obtain rfl := known
  refine (keeps_read (.expired .accounts (GoTime.Time.add t (-settings.tombstoneRetention)))
    trivial fun _ => only.cons trivial).bind fun now accounts _ only known => ?_
  obtain ⟨rfl, uniqueAccounts⟩ := known
  refine (keeps_read (.expired .groups (GoTime.Time.add t (-settings.tombstoneRetention)))
    trivial fun _ => only.cons trivial).bind fun read groups _ only known => ?_
  obtain ⟨same, uniqueGroups⟩ := known
  have none : ∀ table id, ¬ Purged read table id := by
    rintro table id ⟨row, now, answer, member, -⟩
    simp only [same, mem_cons, not_mem_nil, or_false] at member
    rcases member with same | same | same
    all_goals cases (Sigma.mk.inj same).1
  have remaining : Remaining .accounts [(.groups, groups)] accounts read := by
    refine ⟨only, fun row member => .inl ⟨_, accounts, by rw [same]; exact .tail _ (.head _), member⟩,
      uniqueAccounts, fun row _ => none _ _, fun part member => ?_⟩
    obtain rfl := mem_singleton.mp member
    exact ⟨nofun, fun row member => ⟨.inl ⟨_, groups, by rw [same]; exact .head _, member⟩, none _ _⟩⟩
  refine ((keeps_purges remaining).relax fun _ h => h.only).bind fun now failed _ _ known => ?_
  obtain ⟨h, -⟩ := known
  have next : Remaining .groups [] groups now := by
    have later := (h.later (.groups, groups) (mem_singleton_self _)).2
    exact ⟨h.only, fun row member => (later row member).1, uniqueGroups,
      fun row member => (later row member).2, nofun⟩
  refine ((keeps_purges next).relax fun _ h => h.only).bind fun now failed _ only _ => ?_
  exact keeps_pure only trivial

theorem keeps_purgeTombstone {number : Nat} :
    Walks missing begun PurgesOnly (purgeTombstone table number) [] := by
  have start : PurgesOnly [] := fun _ none => absurd none not_mem_nil
  refine (keeps_read (.tombstoned table number) trivial fun _ => start.cons trivial).bind
    fun now found _ only known => ?_
  obtain ⟨rfl, -⟩ := known
  cases found with
  | none => cases table <;> exact keeps_throw only
  | some row =>
    have timed : ∀ t : Int, PurgesOnly
        (⟨.now, t⟩ :: [⟨.read (.tombstoned table number), .ok (some row)⟩]) := fun t =>
      only.cons trivial
    refine keeps_purgeCall only (.inr ⟨number, mem_cons_self⟩) (fun purged => ?_)
      fun t answer => ⟨timed t, (timed t).cons trivial⟩
    obtain ⟨other, t, answer, member, -⟩ := purged
    cases (Sigma.mk.inj (mem_singleton.mp member)).1

end Purging

/-! ## All calls -/

/-- The end of a call. -/
theorem follows_ending {call : Call} {β : Type} {N : History → Prop} {program : Service β}
    {result : Except Failure β → Result} (h : Walks call.tombstoneAfter none N program []) :
    (ending program result).Follows Plausible call.May (fun _ _ => True) [] :=
  Follows.bind (h.loosen fun _ _ may => ⟨none, nofun, may⟩) fun _ _ _ _ => .ret trivial

/-- **Every call follows the discipline.** -/
theorem follows_body (call : Call) :
    (service.body call).Follows Plausible call.May (fun _ _ => True) [] := by
  have start : Untouched [] := fun _ none => absurd none not_mem_nil
  have timed : ∀ (t : Int), ∀ event ∈ [(⟨.now, t⟩ : Event Act.Resp)], event.1 = .now := by
    rintro t event member
    rw [mem_singleton.mp member]
  cases call with
  | sync =>
    refine .act ⟨none, nofun, trivial⟩ fun t _ => ?_
    have early : Untouched [⟨.now, t⟩] := start.cons fun _ _ => id
    refine Follows.bind (((keeps_syncFrom early).oldest rfl).loosen fun past action may => ?_)
      fun _ _ _ _ => .ret trivial
    exact ⟨_, fun start same => ⟨t, may.1, (Option.some.inj same).symm⟩, may.2⟩
  | refreshUser => exact follows_ending (keeps_readAccountsOnDemand start)
  | refreshGroup => exact follows_ending (keeps_readGroupsOnDemand start)
  | linkLogin => exact follows_ending (keeps_linkLogin start)
  | acceptUserIDChange uid =>
    refine follows_ending (N := fun _ => True) ?_
    refine (keeps_clock fun _ => trivial).bind fun now t _ _ known => ?_
    obtain rfl := known
    exact (keeps_commit (.acceptUser uid t) (timed t) fun _ => trivial).mono fun _ _ _ _ _ => trivial
  | acceptGroupIDChange gid =>
    refine follows_ending (N := fun _ => True) ?_
    refine (keeps_clock fun _ => trivial).bind fun now t _ _ known => ?_
    obtain rfl := known
    exact (keeps_commit (.acceptGroup gid t) (timed t) fun _ => trivial).mono fun _ _ _ _ _ => trivial
  | purgeTombstones => exact follows_ending keeps_purgeTombstones
  | purgeTombstone => exact follows_ending keeps_purgeTombstone
  | sweepPendingIDChangeMail => exact follows_ending keeps_mailPendingIDChanges

end Ssoossh.NSS
