import Ssoossh.LDAP.System

/-!
# What counts as a miss

`recordMiss` is what leads to an automatic disable, and it is to run only when the
directory was read and the entry was not there.  The walk of `resolveAnchored` decides
by its last step alone.  `missing_iff` says exactly when it reports a miss: the user
filter finds nothing and no anchor found the entry.  Whether the reads by the anchors
succeeded is not part of it.
-/

namespace Ssoossh.LDAP

open Interleaving Prog List

/-! ## Reads -/

/-- What a read says: it found the entry, it succeeded and there is none, or it failed. -/
inductive Verdict
  | found
  | empty
  | failed
deriving DecidableEq

/-- The verdict on the answer to a search for one entry.  Several matches are a failure, and
no such object is an answer to a read by name only. -/
def Search.verdict (request : Search) : Answer → Verdict
  | .done [] => .empty
  | .done [_] => .found
  | .done _ => if request.scope = .baseObject then .found else .failed
  | .failed .noSuchObject _ => if request.scope = .baseObject then .empty else .failed
  | .failed .sizeLimitExceeded (some [_]) =>
    if request.scope = .baseObject then .failed else .found
  | .failed _ _ => .failed

/-- The answers to the user filter that count as a miss. -/
def Quiet (answer : Answer) : Prop :=
  answer = .done [] ∨ answer = .failed .sizeLimitExceeded (some [])

theorem searchOneResult_found (request : Search) (scope : request.scope = .wholeSubtree)
    (filter : String) (answer : Answer) :
    (∃ entry, searchOneResult filter answer = .ok (some entry)) ↔ request.verdict answer = .found := by
  rcases answer with (_ | ⟨entry, _ | ⟨other, rest⟩⟩) | ⟨code, entries⟩
  · simp [searchOneResult, searchResult, Search.verdict]
  · simp [searchOneResult, searchResult, Search.verdict]
  · simp [searchOneResult, searchResult, Search.verdict, scope]
  · cases code with
    | noSuchObject => simp [searchOneResult, searchResult, Search.verdict, scope]
    | other => simp [searchOneResult, searchResult, Search.verdict]
    | sizeLimitExceeded =>
      rcases entries with _ | (_ | ⟨entry, _ | ⟨other, rest⟩⟩) <;>
        simp [searchOneResult, searchResult, Search.verdict, scope]

theorem searchOneResult_none (filter : String) (answer : Answer) :
    searchOneResult filter answer = .ok none ↔ Quiet answer := by
  rcases answer with (_ | ⟨entry, _ | ⟨other, rest⟩⟩) | ⟨code, entries⟩
  · simp [searchOneResult, searchResult, Quiet]
  · simp [searchOneResult, searchResult, Quiet]
  · simp [searchOneResult, searchResult, Quiet]
  · cases code with
    | noSuchObject | other => simp [searchOneResult, searchResult, Quiet]
    | sizeLimitExceeded =>
      rcases entries with _ | (_ | ⟨entry, _ | ⟨other, rest⟩⟩) <;>
        simp [searchOneResult, searchResult, Quiet]

theorem readByDNResult_found (request : Search) (scope : request.scope = .baseObject)
    (answer : Answer) :
    (∃ entry, readByDNResult answer = .ok (some entry)) ↔ request.verdict answer = .found := by
  rcases answer with (_ | ⟨entry, _ | ⟨other, rest⟩⟩) | ⟨code, entries⟩
  · simp [readByDNResult, Search.verdict]
  · simp [readByDNResult, Search.verdict]
  · simp [readByDNResult, Search.verdict, scope]
  · cases code with
    | noSuchObject => simp [readByDNResult, Search.verdict, scope]
    | other => simp [readByDNResult, Search.verdict]
    | sizeLimitExceeded =>
      rcases entries with _ | (_ | ⟨entry, _ | ⟨other, rest⟩⟩) <;>
        simp [readByDNResult, Search.verdict, scope]

/-! ## The walk -/

/-- The directory answers each search of the walk by `conn`. -/
def Gives (conn : Search → Answer) (request : Search) (answer : Answer) : Prop := answer = conn request

/-- A search with its answer. -/
abbrev read (conn : Search → Answer) (request : Search) : Event fun _ : Search => Answer :=
  ⟨request, conn request⟩

/-- One search, and what follows its answer. -/
theorem runs_search {α : Type} {conn : Search → Answer} {request : Search} {next : Answer → Walk α}
    {past now : List (Event fun _ : Search => Answer)} {value : α} :
    Runs (Gives conn) (Prog.perform request >>= next) past now value ↔
      Runs (Gives conn) (next (conn request)) (read conn request :: past) now value := by
  constructor
  · intro run
    obtain _ | ⟨rfl, rest⟩ := run
    exact rest
  · exact fun run => .act rfl run

namespace LDAPService

variable {s : LDAPService} {identity : Identity} {conn : Search → Answer} {row : UserLDAP}
  {past now : List (Event fun _ : Search => Answer)} {entry : Option LdapEntry}

/-- An entry that was located is found or fails, and is no miss. -/
theorem not_missing_of_finishResolve {located : Entry} {outcome : SyncOutcome}
    (run : Runs (Gives conn) (s.finishResolve identity located) past now (entry, outcome)) :
    outcome ≠ .missing := by
  obtain ⟨mid, values, -, rest⟩ := run.of_bind
  cases values with
  | none | some =>
    cases rest
    exact nofun

/-- The searches by the anchors that a row has. -/
def anchors (s : LDAPService) (row : UserLDAP) : List Search :=
  (if directoryIDFilter s.idAttribute row.directoryID = "" then []
    else [s.idSearch (directoryIDFilter s.idAttribute row.directoryID)]) ++
  (if row.dn = "" then [] else [s.dnSearch row.dn])

theorem runs_resolveByFilter :
    Runs (Gives conn) (s.resolveByFilter identity) past now (entry, .missing) ↔
      entry = none ∧ ∃ filter, s.userFilter (filterData identity "" []) = some filter ∧
        Quiet (conn (s.filterSearch filter)) ∧ now = read conn (s.filterSearch filter) :: past := by
  unfold resolveByFilter
  cases rendered : s.userFilter (filterData identity "" []) with
  | none =>
    constructor
    · intro run
      cases run
    · rintro ⟨-, _, same, -⟩
      cases same
  | some filter =>
    simp only [runs_search, Option.some.injEq, exists_eq_left', ← searchOneResult_none filter]
    cases result : searchOneResult filter (conn (s.filterSearch filter)) with
    | error =>
      constructor
      · intro run
        cases run
      · rintro ⟨-, same, -⟩
        cases same
    | ok located =>
      cases located with
      | none =>
        constructor
        · intro run
          cases run
          exact ⟨rfl, rfl, rfl⟩
        · rintro ⟨rfl, -, rfl⟩
          exact .ret
      | some =>
        constructor
        · exact fun run => absurd rfl (not_missing_of_finishResolve run)
        · rintro ⟨-, same, -⟩
          cases same

theorem runs_resolveByDN :
    Runs (Gives conn) (s.resolveByDN identity row.dn) past now (entry, .missing) ↔
      (row.dn = "" ∧ Runs (Gives conn) (s.resolveByFilter identity) past now (entry, .missing)) ∨
      (row.dn ≠ "" ∧ (s.dnSearch row.dn).verdict (conn (s.dnSearch row.dn)) ≠ .found ∧
        Runs (Gives conn) (s.resolveByFilter identity) (read conn (s.dnSearch row.dn) :: past) now
          (entry, .missing)) := by
  unfold resolveByDN
  by_cases unnamed : row.dn = ""
  · simp [unnamed]
  · simp only [unnamed, if_false, false_and, false_or, not_false_eq_true, true_and, runs_search, ne_eq,
      ← readByDNResult_found (s.dnSearch row.dn) rfl]
    cases result : readByDNResult (conn (s.dnSearch row.dn)) with
    | error => simp
    | ok located =>
      cases located with
      | none => simp
      | some =>
        simp only [Except.ok.injEq, Option.some.injEq, exists_eq', not_true_eq_false, false_and,
          iff_false]
        exact fun run => not_missing_of_finishResolve run rfl

theorem runs_resolveByID :
    Runs (Gives conn) (s.resolveByID identity row) past now (entry, .missing) ↔
      (directoryIDFilter s.idAttribute row.directoryID = "" ∧
        Runs (Gives conn) (s.resolveByDN identity row.dn) past now (entry, .missing)) ∨
      (directoryIDFilter s.idAttribute row.directoryID ≠ "" ∧
        (s.idSearch (directoryIDFilter s.idAttribute row.directoryID)).verdict
          (conn (s.idSearch (directoryIDFilter s.idAttribute row.directoryID))) ≠ .found ∧
        Runs (Gives conn) (s.resolveByDN identity row.dn)
          (read conn (s.idSearch (directoryIDFilter s.idAttribute row.directoryID)) :: past) now
          (entry, .missing)) := by
  unfold resolveByID
  generalize directoryIDFilter s.idAttribute row.directoryID = filter
  by_cases none : filter = ""
  · simp [none]
  · simp only [none, if_false, false_and, false_or, not_false_eq_true, true_and, runs_search, ne_eq,
      ← searchOneResult_found (s.idSearch filter) rfl filter]
    cases result : searchOneResult filter (conn (s.idSearch filter)) with
    | error => simp
    | ok located =>
      cases located with
      | none => simp
      | some =>
        simp only [Except.ok.injEq, Option.some.injEq, exists_eq', not_true_eq_false, false_and,
          iff_false]
        exact fun run => not_missing_of_finishResolve run rfl

/-- **When the walk reports a miss**, and the reads it has made then: no anchor found the
entry, and the user filter is quiet. -/
theorem missing_iff :
    Runs (Gives conn) (s.resolveAnchored identity (some row)) [] now (entry, .missing) ↔
      entry = none ∧ ∃ filter, s.userFilter (filterData identity "" []) = some filter ∧
        (∀ request ∈ s.anchors row, request.verdict (conn request) ≠ .found) ∧
        Quiet (conn (s.filterSearch filter)) ∧
        now = read conn (s.filterSearch filter) :: ((s.anchors row).map (read conn)).reverse := by
  rw [resolveAnchored, runs_resolveByID, runs_resolveByDN, runs_resolveByDN]
  simp only [runs_resolveByFilter, anchors]
  generalize directoryIDFilter s.idAttribute row.directoryID = filter
  by_cases noID : filter = "" <;> by_cases noDN : row.dn = ""
  · simp [noID, noDN]
  · simp only [noID, noDN, if_true, if_false, nil_append, mem_singleton, forall_eq]
    simp only [true_and, false_and, false_or, ne_eq, not_true_eq_false, or_false, map_cons,
      map_nil, reverse_singleton]
    grind
  · simp only [noID, noDN, if_true, if_false, append_nil, mem_singleton, forall_eq]
    simp only [true_and, false_and, false_or, ne_eq, not_true_eq_false, or_false, map_cons,
      map_nil, reverse_singleton]
    grind
  · simp only [noID, noDN, if_false, singleton_append, mem_cons, not_mem_nil, or_false,
      forall_eq_or_imp, forall_eq]
    simp only [false_and, false_or, ne_eq, map_cons, map_nil, reverse_cons,
      reverse_nil, nil_append, singleton_append]
    grind

end LDAPService

/-! ## Passes -/

/-- A step of the system that answers a walk by `conn` and the account by `user`. -/
def Answers (user : User) (conn : Search → Answer) : (action : Act) → Resp action → Prop
  | .search request, answer => answer = conn request
  | .firstUser, answer => answer = some user
  | _, _ => True

/-- The searches of a run are those of the walk. -/
theorem runs_searching {α : Type} {user : User} {conn : Search → Answer} {walk : Walk α}
    {past now : List (Event Resp)} {value : α} (reads : List (Event fun _ : Search => Answer))
    (run : Runs (Answers user conn) (searching walk) past now value) :
    ∃ more, Runs (Gives conn) walk reads (more ++ reads) value ∧
      now = more.map (fun event => ⟨.search event.1, event.2⟩) ++ past := by
  induction walk generalizing past reads with
  | ret =>
    cases run
    exact ⟨[], .ret, rfl⟩
  | act request next ih =>
    obtain _ | ⟨gives, rest⟩ := run
    cases gives
    obtain ⟨more, walked, shape⟩ := ih _ (read conn request :: reads) rest
    refine ⟨more ++ [read conn request], ?_, ?_⟩
    · rw [append_assoc]
      exact .act rfl walked
    · rw [shape]
      simp

namespace LDAPService

variable {s : LDAPService} {user : User} {conn : Search → Answer} {row : UserLDAP} {dryRun : Bool}
  {past now : List (Event Resp)}

/-- Recording a miss searches nothing. -/
theorem recordMiss_confined : (s.recordMiss user row dryRun).Confined
    (fun action => ∀ request, action ≠ .search request) fun _ => True := by
  refine .act nofun fun now => ?_
  cases dryRun with
  | true => exact .ret trivial
  | false =>
    refine .act nofun fun recorded => ?_
    cases recorded with
    | false => exact .ret trivial
    | true =>
      simp only [disableMissing]
      split
      · exact .ret trivial
      · exact .act nofun fun _ => .ret trivial

/-- An entry that was found is no miss. -/
theorem refresh_not_missing {Can : (action : Act) → Resp action → Prop} {entry : LdapEntry}
    (run : Runs Can (s.refresh user entry dryRun) past now .missing) : False := by
  cases dryRun with
  | true =>
    obtain ⟨_, _, _, done⟩ := run.of_bind
    cases done
  | false =>
    obtain ⟨_, stored, _, rest⟩ := run.of_bind
    cases stored with
    | false => cases rest
    | true =>
      obtain ⟨_, _, _, done⟩ := rest.of_bind
      cases done

/-- A pass that records a miss has walked to a miss, and made no other search. -/
theorem walk_of_syncUser (run : Runs (Answers user conn) (s.syncUser row dryRun) [] now .missing) :
    ∃ reads entry,
      Runs (Gives conn) (s.resolveAnchored user.identity (some row)) [] reads (entry, .missing) ∧
        ∀ request answer, (⟨.search request, answer⟩ : Event Resp) ∈ now →
          (⟨request, answer⟩ : Event fun _ : Search => Answer) ∈ reads := by
  obtain _ | ⟨gives, run⟩ := run
  cases gives
  have run : Runs (Answers user conn) (s.syncAccount user row dryRun) _ now .missing := run
  obtain ⟨mid, ⟨entry, outcome⟩, resolved, rest⟩ := run.of_bind
  obtain ⟨walkEnd, ⟨found, reported⟩, walked, marked⟩ := resolved.of_bind
  obtain ⟨reads, walk, shape⟩ := runs_searching [] walked
  cases found with
  | some =>
    obtain _ | ⟨-, marked⟩ := marked
    cases marked
    exact (refresh_not_missing rest).elim
  | none =>
    cases marked
    cases outcome with
    | found | failed => cases rest
    | missing =>
      rw [append_nil] at walk
      refine ⟨reads, none, walk, fun request answer member => ?_⟩
      obtain ⟨_, _, recorded, done⟩ := rest.of_bind
      cases done
      rcases (recordMiss_confined.runs recorded).2 _ member with before | other
      · rw [shape, mem_append, mem_map] at before
        rcases before with ⟨event, was, same⟩ | first
        · cases same
          exact was
        · cases mem_singleton.mp first
      · exact absurd rfl (other request)

/-- **Only a pass that read the directory and found nothing counts**: the walk reports a
miss, and a pass records one, only if every search it made succeeded and found no entry. -/
def OnlyOnEmptyReads (s : LDAPService) (user : User) (row : UserLDAP) (dryRun : Bool)
    (conn : Search → Answer) : Prop :=
  (∀ reads entry,
    Runs (Gives conn) (s.resolveAnchored user.identity (some row)) [] reads (entry, .missing) →
      ∀ event ∈ reads, event.1.verdict event.2 = .empty) ∧
  (∀ now, Runs (Answers user conn) (s.syncUser row dryRun) [] now .missing →
    ∀ request answer, (⟨.search request, answer⟩ : Event Resp) ∈ now →
      request.verdict answer = .empty)

/-- Where no anchor finds the entry and the user filter is quiet, no read by an anchor
failed, and the filter did not run into a size limit. -/
def AnchorsAnswered (s : LDAPService) (user : User) (row : UserLDAP) (conn : Search → Answer) : Prop :=
  ∀ filter, s.userFilter (filterData user.identity "" []) = some filter →
    (∀ request ∈ s.anchors row, request.verdict (conn request) ≠ .found) →
    Quiet (conn (s.filterSearch filter)) →
      (∀ request ∈ s.anchors row, request.verdict (conn request) ≠ .failed) ∧
        conn (s.filterSearch filter) ≠ .failed .sizeLimitExceeded (some [])

/-- **When a failed read counts as a miss.**  The law holds exactly where the reads by the
anchors do not fail, unless a later step finds the entry or fails too. -/
theorem only_on_empty_reads_iff (s : LDAPService) (user : User) (row : UserLDAP) (dryRun : Bool)
    (conn : Search → Answer) :
    s.OnlyOnEmptyReads user row dryRun conn ↔ s.AnchorsAnswered user row conn := by
  constructor
  · rintro ⟨walks, -⟩ filter rendered unfound quiet
    have empty := walks _ none (missing_iff.mpr ⟨rfl, filter, rendered, unfound, quiet, rfl⟩)
    refine ⟨fun request member failed => ?_, fun limited => ?_⟩
    · have answered := empty (read conn request)
        (mem_cons_of_mem _ (mem_reverse.mpr (mem_map_of_mem member)))
      rw [failed] at answered
      cases answered
    · have answered := empty (read conn (s.filterSearch filter)) mem_cons_self
      simp only [limited] at answered
      cases answered
  · intro answered
    have walks : ∀ reads entry,
        Runs (Gives conn) (s.resolveAnchored user.identity (some row)) [] reads (entry, .missing) →
          ∀ event ∈ reads, event.1.verdict event.2 = .empty := by
      intro reads entry run event member
      obtain ⟨-, filter, rendered, unfound, quiet, rfl⟩ := missing_iff.mp run
      obtain ⟨unfailed, unlimited⟩ := answered filter rendered unfound quiet
      rcases mem_cons.mp member with rfl | member
      · rcases quiet with done | limited
        · simp only [done]
          rfl
        · exact absurd limited unlimited
      · obtain ⟨request, anchored, rfl⟩ := mem_map.mp (mem_reverse.mp member)
        cases verdict : request.verdict (conn request) with
        | empty => rfl
        | found => exact absurd verdict (unfound request anchored)
        | failed => exact absurd verdict (unfailed request anchored)
    refine ⟨walks, fun now run request answer member => ?_⟩
    obtain ⟨reads, entry, walk, searches⟩ := walk_of_syncUser run
    exact walks reads entry walk _ (searches request answer member)

end LDAPService

namespace Sample

/-- A directory with unique ids and a filter by username. -/
def ldapService : LDAPService where
  idAttribute := "entryUUID"
  baseDN := "dc=example"
  userFilter := fun data => some ("(uid=" ++ data.username ++ ")")
  fields := []
  primaryAttrs := ["entryUUID"]
  admin := {}
  certOptions := {}
  extraGroups := []
  authoritativeRoleGroups := false
  reduceGroupName := id
  maxEntriesPerSearch := 100
  maxValuesPerAttribute := 0
  maxAttributesBytes := 0
  encodedSize := fun _ => 0
  disableAfter := 10
  reenable := true
  formatSeconds := fun _ => ""

/-- Someone who was renamed: the id finds them, the old DN and the old username do not. -/
def renamedRow : UserLDAP where
  directoryID := "u-1"
  dn := "uid=jane,dc=example"
  attributes := []
  lastSeenAt := none
  lastSyncedAt := none
  consecutiveMisses := 0
  firstMissingAt := none
  createdAt := 0
  updatedAt := 0

/-- The account, which is enabled. -/
def account : User := ⟨"s-1", "jane", "", [], none, none, none, ""⟩

/-- The directory is busy for the read by id only. -/
def busyOnce (request : Search) : Answer :=
  if request.site = .byID then .failed (.other 51) none
  else if request.site = .byDN then .failed .noSuchObject none
  else .done []

end Sample

open Sample LDAPService in
/-- The read by id fails, and a renamed person is counted as missing. -/
theorem miss_after_failed_read :
    (∃ reads, Runs (Gives busyOnce) (ldapService.resolveAnchored account.identity (some renamedRow))
      [] reads (none, .missing) ∧ ∃ event ∈ reads, event.1.verdict event.2 = .failed) ∧
    ¬ ldapService.OnlyOnEmptyReads account renamedRow false busyOnce := by
  have failing : ldapService.idSearch "(entryUUID=u-1)" ∈ ldapService.anchors renamedRow := by
    decide +kernel
  have unfound : ∀ request ∈ ldapService.anchors renamedRow,
      request.verdict (busyOnce request) ≠ .found := by decide +kernel
  have missing : Runs (Gives busyOnce)
      (ldapService.resolveAnchored account.identity (some renamedRow)) [] _ (none, .missing) :=
    missing_iff.mpr ⟨rfl, "(uid=jane)", rfl, unfound, .inl rfl, rfl⟩
  have member : read busyOnce (ldapService.idSearch "(entryUUID=u-1)") ∈
      read busyOnce (ldapService.filterSearch "(uid=jane)") ::
        ((ldapService.anchors renamedRow).map (read busyOnce)).reverse :=
    mem_cons_of_mem _ (mem_reverse.mpr (mem_map_of_mem failing))
  refine ⟨⟨_, missing, _, member, rfl⟩, fun law => ?_⟩
  have answered := law.1 _ _ missing _ member
  cases answered

end Ssoossh.LDAP
