import Ssoossh.LDAP.Misses

/-!
# One unbroken absence

An account is to be disabled only after its entry has been missing for
`sync.disable_after` without a find in between.  The start of the window is read with the
row, carried across the searches, and written back whatever happened in the meantime, so
this holds of some schedules only: `Orderly` says of which.  That a dry run writes nothing,
and that the sync keeps its hands off an operator's disable, holds of all of them.

The proof is about what a pass knows from its own history.  A find that is stored closes the
window (`Closed`), so once a pass has listed the rows every find is as old as the window it
read, and this stays so as long as nobody else resolves the entry while it is under way.
-/

namespace Ssoossh.LDAP

open Interleaving Prog List

/-- The steps a call has taken, with their answers, the latest first. -/
abbrev History := List (Event Resp)

/-! ## What the steps of a call are -/

/-- A step that writes no row about the person. -/
def Act.reads : Act → Bool
  | .storedRow => true
  | .listRows _ => true
  | .dial => true
  | .firstUser => true
  | .search _ => true
  | .resolved _ _ => true
  | .now _ => true
  | .finishRun => true
  | _ => false

/-- A step of an operator. -/
def Act.operates : Act → Bool
  | .operatorDisable _ _ _ _ => true
  | .operatorEnable => true
  | _ => false

/-- The rows were listed by a pass that is not a dry run. -/
def Listed (row : UserLDAP) (past : History) : Prop :=
  (⟨.listRows false, some (some row)⟩ : Event Resp) ∈ past

/-- The entry was not found, and the pass is not over. -/
def Searching (past : History) : Prop :=
  (∀ reader entry answer, (⟨.resolved reader entry, answer⟩ : Event Resp) ∉ past) ∧
    ∀ answer, (⟨.finishRun, answer⟩ : Event Resp) ∉ past

/-- A miss is on the way: the row that was listed, and the time that was read after it. -/
structure Missing (row : UserLDAP) (now : Int) (past : History) : Prop where
  listed : Listed row past
  searching : Searching past
  clock : (⟨.now .miss, now⟩ : Event Resp) ∈ past

/-- **The discipline of a call.**  A pass begins by listing the rows; a miss is written, and
an account disabled, from the row that was listed and the time that was read; the groups
stored with an entry are those it lists; a dry run writes nothing; and a pass does not act
as an operator. -/
structure May (s : LDAPService) (call : Call) (past : History) (action : Act) : Prop where
  first : ∀ dryRun, action = .listRows dryRun → past = []
  dry : call = .pass true → action.reads = true
  pass : ∀ dryRun, call = .pass dryRun → action.operates = false
  stored : ∀ entry groups now, action = .persist entry groups now → groups = s.allowed entry.groups
  miss : ∀ misses since now, action = .recordMiss misses since now →
    ∃ row, Missing row now past ∧ since = row.firstMissingAt.getD now
  disable : ∀ reason now, action = .autoDisable reason now →
    ∃ row, Missing row now past ∧
      s.disableAfter ≤ GoTime.Time.sub now (row.firstMissingAt.getD now) ∧ 0 < s.disableAfter

section Follows

variable {s : LDAPService} {call : Call} {past : History}

/-- A step that writes nothing may be taken. -/
theorem may_read {action : Act} (reads : action.reads = true)
    (first : ∀ dryRun, action = .listRows dryRun → past = []) : May s call past action := by
  refine ⟨first, fun _ => reads, fun _ _ => ?_, ?_, ?_, ?_⟩
  · cases action <;> first | rfl | cases reads
  · rintro entry groups now rfl
    cases reads
  · rintro misses since now rfl
    cases reads
  · rintro reason now rfl
    cases reads

/-- Any answer. -/
abbrev Anything (action : Act) (_ : Resp action) : Prop := True

/-- The searches of a walk, and what they leave alone. -/
theorem follows_searching {α : Type} {N : History → Prop}
    (keep : ∀ past request answer, N past → N (⟨.search request, answer⟩ :: past)) (walk : Walk α)
    (kept : N past) : (searching walk).Follows Anything (May s call) (fun now _ => N now) past := by
  induction walk generalizing past with
  | ret => exact .ret kept
  | act request next ih =>
    exact .act (may_read rfl nofun) fun answer _ => ih answer (keep past request answer kept)

/-- A write that is no miss, no disable and no operator's, outside a dry run. -/
theorem may_write {action : Act} (real : call ≠ .pass true) (own : action.operates = false)
    (noList : ∀ dryRun, action ≠ .listRows dryRun)
    (stored : ∀ entry groups now, action = .persist entry groups now → groups = s.allowed entry.groups)
    (noMiss : ∀ misses since now, action ≠ .recordMiss misses since now)
    (noDisable : ∀ reason now, action ≠ .autoDisable reason now) : May s call past action :=
  ⟨fun _ same => absurd same (noList _), fun dry => absurd dry real, fun _ _ => own, stored, fun _ _ _ same => absurd same (noMiss _ _ _),
    fun _ _ same => absurd same (noDisable _ _)⟩

/-- The walk finds the entry, or leaves alone what its searches do. -/
theorem follows_resolve {N : History → Prop}
    (keep : ∀ past request answer, N past → N (⟨.search request, answer⟩ :: past))
    (reader : Reader) (identity : Identity) (row : Option UserLDAP) (kept : N past) :
    (s.resolve reader identity row).Follows Anything (May s call)
      (fun now result => result.1 = none → N now) past := by
  refine (follows_searching keep _ kept).bind fun now result _ kept => ?_
  obtain ⟨entry, outcome⟩ := result
  cases entry with
  | none => exact .ret fun _ => kept
  | some => exact .act (may_read rfl nofun) fun _ _ => .ret nofun

theorem follows_persist (real : call ≠ .pass true) (entry : LdapEntry) :
    (s.persist entry).Follows Anything (May s call) (fun _ _ => True) past := by
  unfold LDAPService.persist
  split
  · exact .ret trivial
  · exact .act (may_read rfl nofun) fun now _ =>
      .act (may_write real rfl nofun (fun _ _ _ same => by cases same; rfl) nofun nofun)
        fun _ _ => .ret trivial

variable {dryRun : Bool}

theorem follows_maybeReenable (user : User) (real : dryRun = false → call ≠ .pass true) :
    (s.maybeReenable user dryRun).Follows Anything (May s call) (fun _ _ => True) past := by
  unfold LDAPService.maybeReenable
  split
  · exact .ret trivial
  · rename_i active
    have notDry : dryRun = false := by
      cases dryRun with
      | false => rfl
      | true => simp at active
    exact .act (may_read rfl nofun) fun now _ =>
      .act (may_write (real notDry) rfl nofun nofun nofun nofun) fun _ _ => .ret trivial

theorem follows_refresh (user : User) (entry : LdapEntry)
    (real : dryRun = false → call ≠ .pass true) :
    (s.refresh user entry dryRun).Follows Anything (May s call) (fun _ _ => True) past := by
  cases dryRun with
  | true =>
    exact (follows_maybeReenable user real).bind fun _ _ _ _ => .ret trivial
  | false =>
    refine (follows_persist (real rfl) entry).bind fun now stored _ _ => ?_
    cases stored with
    | false => exact .ret trivial
    | true => exact (follows_maybeReenable user real).bind fun _ _ _ _ => .ret trivial

/-- A step that is neither a find nor the end of the pass. -/
theorem Searching.cons {event : Event Resp} (h : Searching past)
    (noFind : ∀ reader entry, event.1 ≠ .resolved reader entry) (notOver : event.1 ≠ .finishRun) :
    Searching (event :: past) := by
  refine ⟨fun reader entry answer member => ?_, fun answer member => ?_⟩
  · rcases mem_cons.mp member with rfl | member
    · exact noFind reader entry rfl
    · exact h.1 reader entry answer member
  · rcases mem_cons.mp member with rfl | member
    · exact notOver rfl
    · exact h.2 answer member

theorem follows_recordMiss (user : User) (row : UserLDAP)
    (real : dryRun = false → call = .pass false ∧ Listed row past ∧ Searching past) :
    (s.recordMiss user row dryRun).Follows Anything (May s call) (fun _ _ => True) past := by
  refine .act (may_read rfl nofun) fun now _ => ?_
  cases dryRun with
  | true => exact .ret trivial
  | false =>
    obtain ⟨rfl, listed, searching⟩ := real rfl
    have missing : Missing row now (⟨.now .miss, now⟩ :: past) :=
      ⟨mem_cons_of_mem _ listed, searching.cons (by simp) (by simp), mem_cons_self⟩
    refine .act ⟨by simp, by simp, fun _ _ => rfl, by simp, fun misses since at' same => ?_, by simp⟩
      fun recorded _ => ?_
    · cases same
      exact ⟨row, missing, rfl⟩
    · cases recorded with
      | false => exact .ret trivial
      | true =>
        simp only [LDAPService.disableMissing]
        split
        · exact .ret trivial
        · rename_i due
          simp only [not_or, not_le, not_lt] at due
          refine .act ⟨by simp, by simp, fun _ _ => rfl, by simp, by simp, fun reason at' same => ?_⟩
            fun _ _ => .ret trivial
          cases same
          exact ⟨row, ⟨mem_cons_of_mem _ missing.listed, missing.searching.cons (by simp) (by simp),
            mem_cons_of_mem _ missing.clock⟩, due.2.1, due.1⟩

theorem follows_syncUser (row : UserLDAP) (dryRun : Bool)
    (listed : dryRun = false → Listed row past ∧ Searching past) :
    (s.syncUser row dryRun).Follows Anything (May s (.pass dryRun)) (fun _ _ => True) past := by
  have real : dryRun = false → Call.pass dryRun ≠ .pass true := by
    rintro rfl same
    cases same
  refine .act (may_read rfl nofun) fun answer _ => ?_
  cases answer with
  | none => exact .ret trivial
  | some user =>
    refine (follows_resolve (N := fun now => dryRun = false → Listed row now ∧ Searching now)
      (fun past request answer kept real => ?_) _ _ _ fun real => ?_).bind fun now result _ kept => ?_
    · obtain ⟨listed, searching⟩ := kept real
      exact ⟨mem_cons_of_mem _ listed, searching.cons nofun nofun⟩
    · obtain ⟨listed, searching⟩ := listed real
      exact ⟨mem_cons_of_mem _ listed, searching.cons nofun nofun⟩
    · obtain ⟨entry, outcome⟩ := result
      cases entry with
      | some entry => exact follows_refresh user entry real
      | none =>
        cases outcome with
        | found | failed => exact .ret trivial
        | missing =>
          refine (follows_recordMiss user row fun real => ?_).bind fun _ _ _ _ => .ret trivial
          exact ⟨by rw [real], kept rfl real⟩

/-- Every call follows the discipline. -/
theorem follows_body (s : LDAPService) (call : Call) :
    (s.body call).Follows Anything (May s call) (fun _ _ => True) [] := by
  cases call with
  | login identity =>
    have real : Call.login identity ≠ .pass true := nofun
    refine Follows.bind (Q := fun _ _ => True) ?_ fun _ _ _ _ => .ret trivial
    refine .act (may_read rfl nofun) fun anchors _ => .act (may_read rfl nofun) fun dialed _ => ?_
    cases dialed with
    | false => exact .ret trivial
    | true =>
      refine (follows_resolve (N := fun _ => True) (fun _ _ _ _ => trivial) _ _ _ trivial).bind
        fun now result _ _ => ?_
      obtain ⟨entry, outcome⟩ := result
      cases entry with
      | none => exact .ret trivial
      | some entry => exact (follows_persist real entry).bind fun _ _ _ _ => .ret trivial
  | pass dryRun =>
    refine Follows.bind (Q := fun _ _ => True) ?_ fun _ _ _ _ => .ret trivial
    refine .act (may_read rfl fun _ _ => rfl) fun rows _ => ?_
    have finish {past : History} : (take .finishRun).Follows Anything (May s (.pass dryRun))
        (fun _ _ => True) past := .act (may_read rfl nofun) fun _ _ => .ret trivial
    rcases rows with _ | (_ | row)
    · exact finish
    · exact finish
    · refine .act (may_read rfl nofun) fun dialed _ => ?_
      cases dialed with
      | false => exact finish
      | true =>
        refine (follows_syncUser row dryRun fun real => ?_).bind fun _ _ _ _ => finish
        subst real
        refine ⟨mem_cons_of_mem _ mem_cons_self, ?_⟩
        refine Searching.cons (Searching.cons ⟨nofun, nofun⟩ nofun nofun) nofun nofun
  | disableUser =>
    refine .act (may_read rfl nofun) fun now _ => .act ⟨nofun, nofun, nofun, nofun, nofun, nofun⟩ fun _ _ => .ret trivial
  | enableUser => exact .act ⟨nofun, nofun, nofun, nofun, nofun, nofun⟩ fun _ _ => .ret trivial

end Follows

/-! ## Orderly steps -/

/-- **The steps of an orderly run.**  A pass lists the rows only if the entry was stored since
it was last found; nobody resolves the entry while another pass is between listing the rows
and its end; and no find falls on the instant of a disable. -/
def orderly (s : State) (tid : Nat) (choice : Choice) : Act → Bool
  | .listRows false => !s.unstored
  | .resolved _ _ => s.passes.all (fun other => other == tid) &&
    s.disables.all fun d => decide (d.committed < s.clock + choice.elapsed)
  | _ => true

/-! ## What a pass knows -/

/-- No find falls between the start of a window and the write of the disable after it. -/
def Unbroken (after : Int) (s : State) : Prop :=
  ∀ d ∈ s.disables, d.now ≤ d.committed ∧
    ∀ find ∈ s.found, ¬ (d.now - after < find ∧ find ≤ d.committed)

/-- A find that is stored closes the window. -/
def Closed (s : State) : Prop :=
  s.unstored = false → ∀ row, s.rows.ldap = some row → ∀ since, row.firstMissingAt = some since →
    ∀ find ∈ s.found, find ≤ since

/-- What holds between any two steps. -/
structure Sound (after : Int) (s : State) : Prop where
  unbroken : Unbroken after s
  closed : Closed s
  past : ∀ find ∈ s.found, find ≤ s.clock
  done : ∀ d ∈ s.disables, d.committed ≤ s.clock

/-- What a pass knows once it has listed the rows, until it finds the entry or ends: it is
under way, every find is as old as the window it read, and none is later than the time it
read. -/
structure Knows (tid : Nat) (past : History) (s : State) : Prop where
  underWay : ∀ row, Listed row past → Searching past → tid ∈ s.passes
  window : ∀ row, Listed row past → Searching past → ∀ since, row.firstMissingAt = some since →
    ∀ find ∈ s.found, find ≤ since
  clock : ∀ row now, Missing row now past → ∀ find ∈ s.found, find ≤ now
  read : ∀ now : Int, (⟨.now .miss, now⟩ : Event Resp) ∈ past → now ≤ s.clock

variable {row : UserLDAP}

/-- Every find is as old as the window a miss is counted in. -/
theorem Knows.since {tid : Nat} {past : History} {s : State} {now : Int}
    (knows : Knows tid past s) (missing : Missing row now past) :
    ∀ find ∈ s.found, find ≤ row.firstMissingAt.getD now := by
  intro find member
  cases window : row.firstMissingAt with
  | none => exact knows.clock row now missing find member
  | some since => exact knows.window row missing.listed missing.searching since window find member

/-- The part of a state that the knowledge of a pass is about. -/
structure Grows (tid : Nat) (s s' : State) : Prop where
  clock : s.clock ≤ s'.clock
  found : s'.found = s.found
  passes : tid ∈ s.passes → tid ∈ s'.passes

theorem Knows.mono {tid : Nat} {past : History} {s s' : State} (knows : Knows tid past s)
    (grows : Grows tid s s') : Knows tid past s' where
  underWay row listed searching := grows.passes (knows.underWay row listed searching)
  window row listed searching since opened := by
    rw [grows.found]
    exact knows.window row listed searching since opened
  clock row now missing := by
    rw [grows.found]
    exact knows.clock row now missing
  read now member := (knows.read now member).trans grows.clock

/-! ## Steps -/

section Steps

variable {tid other : Nat} {s s' : State} {choice : Choice} {action : Act} {answer : Resp action}
  {past : History} {after : Int}

section

variable (h : exec tid s action choice = some (s', answer))
include h

/-- The clock moves on, and the step is taken. -/
theorem exec_state :
    s' = (execute tid { s with clock := s.clock + choice.elapsed } choice action).1 :=
  (congrArg Prod.fst (Option.some.inj h)).symm

/-- The clock a step is taken at. -/
theorem exec_clock : s'.clock = s.clock + choice.elapsed := by
  rw [exec_state h]
  cases action <;> simp only [execute] <;> (repeat' split) <;> rfl

/-- Only a find is noted as one. -/
theorem exec_found
    (noFind : ∀ reader entry, action ≠ .resolved reader entry) : s'.found = s.found := by
  rw [exec_state h]
  cases action <;> first
    | exact absurd rfl (noFind _ _)
    | (simp only [execute] <;> (repeat' split) <;> rfl)

/-- Only a pass disables. -/
theorem exec_disables
    (noDisable : ∀ reason now, action ≠ .autoDisable reason now) : s'.disables = s.disables := by
  rw [exec_state h]
  cases action <;> first
    | exact absurd rfl (noDisable _ _)
    | (simp only [execute] <;> (repeat' split) <;> rfl)

/-- A pass is under way until it ends itself. -/
theorem exec_passes (notOver : other = tid → action ≠ .finishRun) (underWay : other ∈ s.passes) :
    other ∈ s'.passes := by
  rw [exec_state h]
  cases action <;> simp only [execute] <;> (repeat' split) <;> first
    | exact underWay
    | exact mem_cons_of_mem _ underWay
    | refine mem_filter.mpr ⟨underWay, bne_iff_ne.mpr fun same => notOver same rfl⟩

/-- A step that is no find leaves the knowledge of a pass alone. -/
theorem grows_of_exec (noFind : ∀ reader entry, action ≠ .resolved reader entry)
    (notOver : other = tid → action ≠ .finishRun) : Grows other s s' := by
  refine ⟨?_, exec_found h noFind, exec_passes h notOver⟩
  rw [exec_clock h]
  omega

end

/-- The window that a step leaves: a store closes it, and a miss opens it after every find. -/
theorem Closed.exec (closed : Closed s) (h : exec tid s action choice = some (s', answer))
    (miss : ∀ misses since now, action = .recordMiss misses since now → ∀ find ∈ s.found, find ≤ since) :
    Closed s' := by
  rw [exec_state h]
  cases action with
  | resolved => exact nofun
  | persist =>
    simp only [execute]
    split
    · exact closed
    · rintro - row stored since opened
      rw [← Option.some.inj stored] at opened
      cases opened
  | recordMiss =>
    simp only [execute]
    split
    · exact closed
    · rintro - row stored since opened
      obtain ⟨old, -, rfl⟩ := Option.map_eq_some_iff.mp stored
      cases opened
      exact miss _ _ _ rfl
  | _ =>
    simp only [execute]
    (repeat' split) <;> exact closed

/-- What keeps a state sound: a new find is made now and after every disable, and a new disable
is made now, in a window without a find. -/
theorem Sound.step (sound : Sound after s) (later : s.clock ≤ s'.clock) (closed : Closed s')
    (found : ∀ find ∈ s'.found, find ∈ s.found ∨
      find = s'.clock ∧ ∀ d ∈ s'.disables, d.committed < find)
    (disables : ∀ d ∈ s'.disables, d ∈ s.disables ∨
      d.committed = s'.clock ∧ d.now ≤ s'.clock ∧ ∀ find ∈ s.found, find ≤ d.now - after) :
    Sound after s' := by
  refine ⟨fun d member => ?_, closed, fun find member => ?_, fun d member => ?_⟩
  · rcases disables d member with old | ⟨now, read, window⟩
    · refine ⟨(sound.unbroken d old).1, fun find there => ?_⟩
      rcases found find there with before | ⟨-, after⟩
      · exact (sound.unbroken d old).2 find before
      · have := after d member
        omega
    · refine ⟨by omega, fun find there => ?_⟩
      rcases found find there with before | ⟨-, after⟩
      · have := window find before
        omega
      · have := after d member
        omega
  · rcases found find member with before | ⟨rfl, -⟩
    · exact (sound.past find before).trans later
    · exact le_refl _
  · rcases disables d member with old | ⟨now, -⟩
    · exact (sound.done d old).trans later
    · exact now.le

theorem Sound.ordinary (sound : Sound after s) (h : exec tid s action choice = some (s', answer))
    (noFind : ∀ reader entry, action ≠ .resolved reader entry)
    (noDisable : ∀ reason now, action ≠ .autoDisable reason now)
    (miss : ∀ misses since now, action = .recordMiss misses since now → ∀ find ∈ s.found, find ≤ since) :
    Sound after s' := by
  have later := exec_clock h
  refine sound.step (by omega) (sound.closed.exec h miss) ?_ ?_
  · intro find member
    exact .inl (exec_found h noFind ▸ member)
  · intro d member
    exact .inl (exec_disables h noDisable ▸ member)

/-- A step teaches a pass nothing but what the clock says. -/
theorem Knows.cons (knows : Knows tid past s) (event : Event Resp)
    (noList : event.1 ≠ .listRows false)
    (time : ∀ now, event = ⟨.now .miss, now⟩ → now ≤ s.clock ∧ ∀ find ∈ s.found, find ≤ now) :
    Knows tid (event :: past) s := by
  have listed {row : UserLDAP} (h : Listed row (event :: past)) : Listed row past := by
    rcases mem_cons.mp h with rfl | h
    · exact absurd rfl noList
    · exact h
  have searching (h : Searching (event :: past)) : Searching past :=
    ⟨fun reader entry answer member => h.1 reader entry answer (mem_cons_of_mem _ member),
      fun answer member => h.2 answer (mem_cons_of_mem _ member)⟩
  have clock {now : Int} (h : (⟨.now .miss, now⟩ : Event Resp) ∈ event :: past) :
      (now ≤ s.clock ∧ ∀ find ∈ s.found, find ≤ now) ∨ (⟨.now .miss, now⟩ : Event Resp) ∈ past :=
    (mem_cons.mp h).imp_left fun same => time now same.symm
  exact ⟨fun row h open' => knows.underWay row (listed h) (searching open'),
    fun row h open' => knows.window row (listed h) (searching open'),
    fun row now missing => (clock missing.clock).elim And.right fun before => knows.clock row now
      ⟨listed missing.listed, searching missing.searching, before⟩,
    fun now h => (clock h).elim And.left (knows.read now)⟩

/-- What is answered to a listing, and that the pass is then under way. -/
theorem exec_listRows {answer : Resp (.listRows false)}
    (h : exec tid s (.listRows false) choice = some (s', answer))
    (said : answer = some (some row)) : s.rows.ldap = some row ∧ tid ∈ s'.passes := by
  have state := exec_state h
  have told := congrArg Prod.snd (Option.some.inj h)
  simp only [execute, Bool.false_eq_true, if_false] at state told
  split at told
  · rename_i failed
    rw [← told] at said
    cases said
  · rename_i succeeded
    rw [← told] at said
    rw [if_neg succeeded] at state
    rw [state]
    exact ⟨Option.some.inj said, mem_cons_self⟩

/-- A pass that has listed the rows knows the window it read. -/
theorem Knows.list {answer : Resp (.listRows false)} (closed : Closed s)
    (ok : orderly s tid choice (.listRows false) = true)
    (h : exec tid s (.listRows false) choice = some (s', answer)) :
    Knows tid [⟨.listRows false, answer⟩] s' := by
  have listed {row : UserLDAP} (there : Listed row [⟨.listRows false, answer⟩]) :
      s.rows.ldap = some row ∧ tid ∈ s'.passes := by
    cases mem_singleton.mp there
    exact exec_listRows h rfl
  have noClock {now : Int} : (⟨.now .miss, now⟩ : Event Resp) ∉ [⟨.listRows false, answer⟩] := by
    intro member
    cases mem_singleton.mp member
  refine ⟨fun row there _ => (listed there).2, fun row there _ since opened find member => ?_,
    fun row now missing => absurd missing.clock noClock, fun now member => absurd member noClock⟩
  rw [exec_found h nofun] at member
  exact closed (Bool.not_eq_true' _ ▸ ok) row (listed there).1 since opened find member

/-- A pass that has read the clock knows that no find is later. -/
theorem Knows.readClock {answer : Resp (.now .miss)} (knows : Knows tid past s)
    (sound : Sound after s) (h : exec tid s (.now .miss) choice = some (s', answer)) :
    Knows tid (⟨.now .miss, answer⟩ :: past) s' := by
  refine (knows.mono (grows_of_exec h nofun nofun)).cons _ nofun fun now same => ?_
  cases same
  have later := exec_clock h
  obtain rfl : answer = s'.clock := by
    rw [later]
    exact (congrArg Prod.snd (Option.some.inj h)).symm
  refine ⟨le_refl _, fun find member => ?_⟩
  rw [exec_found h nofun] at member
  have := sound.past find member
  omega

/-- A pass that has found the entry, or is over, has nothing left to know but the time. -/
theorem Knows.closed {event : Event Resp} (knows : Knows tid past s) (later : s.clock ≤ s'.clock)
    (ended : ¬ Searching (event :: past)) (noClock : event.1 ≠ .now .miss) :
    Knows tid (event :: past) s' := by
  refine ⟨fun _ _ free => absurd free ended, fun _ _ free => absurd free ended,
    fun _ _ missing => absurd missing.searching ended, fun now member => ?_⟩
  rcases mem_cons.mp member with rfl | member
  · exact absurd rfl noClock
  · exact (knows.read now member).trans later

/-- The account is disabled in a window without a find. -/
theorem Sound.disable {st : LDAPService} {reason : String} {now : Int}
    {answer : Resp (.autoDisable reason now)} (sound : Sound st.disableAfter s)
    (knows : Knows tid past s) (missing : Missing row now past)
    (due : st.disableAfter ≤ GoTime.Time.sub now (row.firstMissingAt.getD now))
    (positive : 0 < st.disableAfter)
    (h : exec tid s (.autoDisable reason now) choice = some (s', answer)) :
    Sound st.disableAfter s' := by
  have elapsed : st.disableAfter ≤ now - row.firstMissingAt.getD now := by
    unfold GoTime.Time.sub GoTime.minInt64 GoTime.maxInt64 at due
    omega
  have read := knows.read now missing.clock
  have later := exec_clock h
  have found := exec_found h nofun
  have disables : s'.disables = s.disables ∨ s'.disables = ⟨now, s'.clock⟩ :: s.disables := by
    rw [later, exec_state h]
    simp only [execute]
    split
    · exact .inl rfl
    · exact .inr rfl
  refine sound.step (by omega) (sound.closed.exec h nofun) (fun find member => .inl (found ▸ member))
    fun d member => ?_
  rcases disables with same | more
  · exact .inl (same ▸ member)
  · rw [more] at member
    rcases mem_cons.mp member with rfl | old
    · have read' : now ≤ s'.clock := by omega
      refine .inr ⟨rfl, read', fun find there => ?_⟩
      have := knows.since missing find there
      show find ≤ now - st.disableAfter
      omega
    · exact .inl old

/-- A find is made after every disable. -/
theorem Sound.find {reader : Reader} {entry : LdapEntry} {answer : Resp (.resolved reader entry)}
    (sound : Sound after s) (ok : orderly s tid choice (.resolved reader entry) = true)
    (h : exec tid s (.resolved reader entry) choice = some (s', answer)) : Sound after s' := by
  have later := exec_clock h
  have disables := exec_disables h nofun
  have found : s'.found = s'.clock :: s.found := by
    rw [exec_state h]
    rfl
  simp only [orderly, Bool.and_eq_true, all_eq_true, decide_eq_true_eq] at ok
  refine sound.step (by omega) (sound.closed.exec h nofun) (fun find member => ?_)
    fun d member => .inl (disables ▸ member)
  rw [found] at member
  refine (mem_cons.mp member).symm.imp_right fun same => ⟨same, fun d there => ?_⟩
  have := ok.2 d (disables ▸ there)
  omega

end Steps

/-- What the passes of an orderly run know. -/
def windowKnowledge (s : LDAPService) : Knowledge s.machine where
  ok _ state tid action choice := orderly state tid choice action = true
  Inv := Sound s.disableAfter
  Knows := Knows
  Can := Anything
  May := May s
  start _ := ⟨nofun, nofun, fun _ _ missing => absurd missing.clock not_mem_nil, nofun⟩
  follows := follows_body s
  own {heads state tid call past action choice state' answer} sound knows may ok done := by
    have later : state.clock ≤ state'.clock := by
      rw [exec_clock done]
      omega
    by_cases list : action = .listRows false
    · subst list
      rw [may.first false rfl]
      exact ⟨sound.ordinary done nofun nofun nofun, trivial, Knows.list sound.closed ok done⟩
    by_cases clock : action = .now .miss
    · subst clock
      exact ⟨sound.ordinary done nofun nofun nofun, trivial, knows.readClock sound done⟩
    by_cases ended : action = .finishRun
    · subst ended
      refine ⟨sound.ordinary done nofun nofun nofun, trivial, knows.closed later ?_ nofun⟩
      exact fun free => free.2 _ mem_cons_self
    by_cases find : ∃ reader entry, action = .resolved reader entry
    · obtain ⟨reader, entry, rfl⟩ := find
      refine ⟨sound.find ok done, trivial, knows.closed later ?_ nofun⟩
      exact fun free => free.1 _ _ _ mem_cons_self
    have noFind (reader : Reader) (entry : LdapEntry) : action ≠ .resolved reader entry :=
      fun same => find ⟨reader, entry, same⟩
    have learnt := (knows.mono (grows_of_exec done noFind fun _ => ended)).cons
      ⟨action, answer⟩ list fun _ same => absurd (congrArg Sigma.fst same) clock
    by_cases disable : ∃ reason now, action = .autoDisable reason now
    · obtain ⟨reason, now, rfl⟩ := disable
      obtain ⟨row, missing, due, positive⟩ := may.disable reason now rfl
      exact ⟨sound.disable knows missing due positive done, trivial, learnt⟩
    · refine ⟨sound.ordinary done noFind (fun reason now same => disable ⟨reason, now, same⟩)
        fun misses since now same => ?_, trivial, learnt⟩
      obtain ⟨row, missing, rfl⟩ := may.miss misses since now same
      exact knows.since missing
  others {heads state tid call past action choice state' answer other past'} sound knows may ok done
      apart busy knows' := by
    by_cases find : ∃ reader entry, action = .resolved reader entry
    · obtain ⟨reader, entry, rfl⟩ := find
      -- a pass under way would be another one, and then nobody may resolve the entry
      have idle {row : UserLDAP} (listed : Listed row past') : ¬ Searching past' := by
        intro free
        simp only [orderly, Bool.and_eq_true, all_eq_true, beq_iff_eq] at ok
        exact apart (ok.1 other (knows'.underWay row listed free))
      refine ⟨fun _ listed free => absurd free (idle listed),
        fun _ listed free => absurd free (idle listed),
        fun _ _ missing => absurd missing.searching (idle missing.listed), fun now member => ?_⟩
      have := knows'.read now member
      have := exec_clock done
      omega
    · refine knows'.mono (grows_of_exec done (fun reader entry same => find ⟨reader, entry, same⟩)
        fun same => absurd same apart)

/-! ## Operators -/

/-- An operator's disable is on the row, under the operator's name. -/
def Owned (s : State) : Prop :=
  s.owner = .operator → ∃ user, s.rows.user = some user ∧ user.disabledAt.isSome = true ∧
    user.disabledByUserID.isSome = true

section Operators

variable {tid : Nat} {s s' : State} {choice : Choice} {action : Act} {answer : Resp action}

/-- A step that reads changes no row. -/
theorem exec_rows_of_reads (h : exec tid s action choice = some (s', answer))
    (reads : action.reads = true) : s'.rows = s.rows := by
  rw [exec_state h]
  cases action <;> first
    | exact Bool.noConfusion reads
    | (simp only [execute] <;> (repeat' split) <;> rfl)

/-- No step of a pass touches an operator's disable. -/
theorem exec_operator (owned : Owned s) (h : exec tid s action choice = some (s', answer))
    (own : action.operates = false) (operator : s.owner = .operator) :
    s'.rows.user = s.rows.user ∧ s'.owner = .operator := by
  obtain ⟨user, present, disabled, named⟩ := owned operator
  have notEnabled : s.rows.enabled = false := by
    simp [Rows.enabled, present, disabled]
  have notSync : s.rows.syncDisabled = false := by
    simp [Rows.syncDisabled, present, named]
  rw [exec_state h]
  cases action <;> first
    | exact Bool.noConfusion own
    | (simp only [execute, notEnabled, notSync, Bool.not_false, Bool.or_true, if_true]
       (repeat' split) <;> first | exact ⟨rfl, operator⟩ | exact ⟨trivial, operator⟩)

theorem Owned.exec (owned : Owned s) (h : exec tid s action choice = some (s', answer)) : Owned s' := by
  by_cases own : action.operates = false
  · intro operator
    by_cases before : s.owner = .operator
    · rw [(exec_operator owned h own before).1]
      exact owned before
    · -- only an operator makes an operator's disable
      rw [exec_state h] at operator
      cases action <;> first
        | exact Bool.noConfusion own
        | (simp only [execute] at operator
           (repeat' split at operator) <;> first | cases operator | exact absurd operator before)
  · intro operator
    rw [exec_state h] at operator ⊢
    cases action with
    | operatorDisable =>
      simp only [execute] at operator ⊢
      split
      · rename_i refused
        rw [if_pos refused] at operator
        exact owned operator
      · rename_i accepted
        simp only [Bool.or_eq_true, not_or, Bool.not_eq_true, Option.isNone_eq_false_iff,
          Option.isSome_iff_exists] at accepted
        obtain ⟨-, user, present⟩ := accepted
        exact ⟨_, by simp only [Rows.disable, present, Option.map_some]; rfl, rfl, rfl⟩
    | operatorEnable =>
      simp only [execute] at operator ⊢
      split
      · rename_i refused
        rw [if_pos refused] at operator
        exact owned operator
      · rename_i accepted
        rw [if_neg accepted] at operator
        cases operator
    | _ => exact absurd rfl own

end Operators

/-- What the calls do in any run. -/
def callKnowledge (s : LDAPService) : Knowledge s.machine where
  ok _ _ _ _ _ := True
  Inv := Owned
  Knows _ _ _ := True
  Can := Anything
  May := May s
  start _ := trivial
  follows := follows_body s
  own owned _ _ _ done := ⟨owned.exec done, trivial, trivial⟩
  others _ _ _ _ _ _ _ _ := trivial

/-! ## Runs -/

/-- Nothing is running, and nothing has been noted. -/
structure Begins (cfg : Config Act Resp State Nat Call Unit) : Prop where
  idle : ∀ tid, cfg.threads tid = none
  unfound : cfg.shared.found = []
  undisabled : cfg.shared.disables = []
  owned : Owned cfg.shared

/-- The steps of an orderly run. -/
abbrev Orderly (s : LDAPService) : Config Act Resp State Nat Call Unit → Label Nat Choice Call → Prop :=
  (windowKnowledge s).Allowed

/-- **One unbroken absence.**  In every orderly run an account is disabled only if its entry
was not found from `disable_after` before the time on the disable until the disable was
written.  In every run at all, a dry run changes no row, and no step of a pass touches a
disable that an operator made. -/
theorem disable_needs_unbroken_absence (s : LDAPService)
    (first last : Config Act Resp State Nat Call Unit) (begins : Begins first) :
    (Reaches s.machine (Orderly s) first last → Unbroken s.disableAfter last.shared) ∧
    (Reaches s.machine (fun _ _ => True) first last →
      ∀ tid choice thread dryRun next, last.threads tid = some thread →
        thread.current = .pass dryRun → s.machine.step last (.run tid choice) = some next →
          (dryRun = true → next.shared.rows = last.shared.rows) ∧
          (last.shared.owner = .operator →
            next.shared.rows.user = last.shared.rows.user ∧ next.shared.owner = .operator)) := by
  constructor
  · intro run
    have sound : Sound s.disableAfter first.shared := by
      refine ⟨?_, ?_, ?_, ?_⟩
      · simp [Unbroken, begins.undisabled]
      · simp [Closed, begins.unfound]
      · simp [begins.unfound]
      · simp [begins.undisabled]
    obtain ⟨_, holds⟩ := (windowKnowledge s).reaches run sound begins.idle
    exact holds.inv.unbroken
  · intro run tid choice thread dryRun next present pass stepped
    obtain ⟨pasts, holds⟩ := (callKnowledge s).reaches (run.mono fun _ label _ => by
      cases label with
      | spawn => trivial
      | run => exact fun _ _ => trivial) begins.owned begins.idle
    rcases Machine.step_cases _ stepped with
      ⟨_, _, same, -, -⟩ | ⟨_, _, _, _, -, -, -, rfl⟩ |
      ⟨tid', choice', thread', action, rest, shared, answer, same, present', atAction, done, rfl⟩
    · cases same
    · exact ⟨fun _ => rfl, fun operator => ⟨rfl, operator⟩⟩
    · cases same
      obtain rfl : thread = thread' := Option.some.inj (present.symm.trans present')
      have head : thread.rest.head? = some action := by rw [atAction]; rfl
      obtain ⟨may, -⟩ := Knowledge.Holds.before _ holds present head
      refine ⟨fun dry => ?_, fun operator => ?_⟩
      · exact exec_rows_of_reads done (may.dry (by rw [pass, dry]))
      · exact exec_operator holds.inv done (may.pass dryRun pass) operator

namespace Sample

/-- A person without anchors, whose entry has been missing since time 0. -/
def missingRow : UserLDAP :=
  { renamedRow with directoryID := "", dn := "", firstMissingAt := some 0 }

/-- Nothing is running, ten ticks and more after the entry went missing. -/
def absent : Config Act Resp State Nat Call Unit where
  shared := ⟨⟨some account, some missingRow, []⟩, 20, [], [], .nobody, none, [], false⟩
  threads := fun _ => none

/-- The entry, once it is back. -/
def entryBack : Entry := { dn := "uid=jane,dc=example", named := by decide }

/-- A step one tick later. -/
def tick (tid : Nat) (answer : Answer) : Label Nat Choice Call := .run tid ⟨1, false, answer⟩

/-- A step of a thread that takes no time. -/
def next (tid : Nat) : Label Nat Choice Call := .run tid ⟨0, false, .done []⟩

/-- A pass lists the rows and finds nothing; then a login finds the entry, which is back, and
stores it; then the pass goes on. -/
def overtaken : List (Label Nat Choice Call) :=
  [.spawn 0 (.pass false), next 0, next 0, next 0, next 0,
    .spawn 1 (.login account.identity), next 1, next 1, .run 1 ⟨0, false, .done [entryBack]⟩,
    tick 1 (.done []), next 1, next 1, tick 0 (.done []), next 0, next 0]

/-- The history of a state. -/
structure Noted where
  found : List Int
  disables : List Disable
  window : Option Int
deriving DecidableEq

/-- What a state has noted. -/
def noted (cfg : Config Act Resp State Nat Call Unit) : Noted :=
  ⟨cfg.shared.found, cfg.shared.disables, cfg.shared.rows.ldap.bind UserLDAP.firstMissingAt⟩

/-- Whether the steps of a schedule are orderly. -/
def checked (cfg : Config Act Resp State Nat Call Unit) : Label Nat Choice Call → Bool
  | .spawn _ _ => true
  | .run tid choice =>
    match cfg.heads tid with
    | none => true
    | some action => orderly cfg.shared tid choice action

theorem orderly_of_checked (s : LDAPService) (cfg : Config Act Resp State Nat Call Unit)
    (label : Label Nat Choice Call) (passed : checked cfg label = true) : Orderly s cfg label := by
  cases label with
  | spawn => trivial
  | run =>
    intro action head
    simp only [checked, head] at passed
    exact passed

theorem begins_absent : Begins absent := ⟨fun _ => rfl, rfl, rfl, nofun⟩

/-- The entry is found and stored, a pass opens a window, and a pass ten ticks later closes
the account. -/
def unbroken : List (Label Nat Choice Call) :=
  [.spawn 1 (.login account.identity), next 1, next 1, .run 1 ⟨0, false, .done [entryBack]⟩,
    next 1, next 1, next 1,
    .spawn 0 (.pass false), next 0, next 0, next 0, next 0, next 0, tick 0 (.done []), next 0, next 0,
    .spawn 2 (.pass false), next 2, next 2, next 2, next 2, next 2,
    .run 2 ⟨10, false, .done []⟩, next 2, next 2, next 2]

end Sample

open Sample in
/-- A login finds the entry one tick before a pass, which has listed the rows before, disables
the account for an absence of twenty-two ticks. -/
theorem disable_after_find : ∃ last,
    Reaches ldapService.machine (fun _ _ => True) absent last ∧
      last.shared.found = [21] ∧ last.shared.disables = [⟨22, 22⟩] ∧
      ¬ Unbroken ldapService.disableAfter last.shared := by
  have ran : (ldapService.machine.runLabels absent overtaken).map noted =
      some ⟨[21], [⟨22, 22⟩], some 0⟩ := by decide +kernel
  obtain ⟨last, reached, same⟩ := Option.map_eq_some_iff.mp ran
  have found : last.shared.found = [21] := congrArg Noted.found same
  have disables : last.shared.disables = [⟨22, 22⟩] := congrArg Noted.disables same
  refine ⟨last, .of_runLabels overtaken (fun _ _ _ => trivial) reached, found, disables, ?_⟩
  intro unbroken
  have broken := (unbroken ⟨22, 22⟩ (by simp [disables])).2 21 (by simp [found])
  exact broken (by decide)

open Sample in
/-- The entry is found at 20 and the account is disabled at 31, for ten ticks of absence. -/
theorem disable_needs_unbroken_absence_run : ∃ last,
    Begins absent ∧ Reaches ldapService.machine (Orderly ldapService) absent last ∧
      last.shared.found = [20] ∧ last.shared.disables = [⟨31, 31⟩] ∧
      Unbroken ldapService.disableAfter last.shared := by
  have ran : (ldapService.machine.runChecked checked absent unbroken).map noted =
      some ⟨[20], [⟨31, 31⟩], some 21⟩ := by decide +kernel
  obtain ⟨last, reached, same⟩ := Option.map_eq_some_iff.mp ran
  have run : Reaches ldapService.machine (Orderly ldapService) absent last :=
    .of_runChecked (orderly_of_checked _) unbroken reached
  exact ⟨last, begins_absent, run, congrArg Noted.found same, congrArg Noted.disables same,
    (disable_needs_unbroken_absence ldapService absent last begins_absent).1 run⟩

end Ssoossh.LDAP
