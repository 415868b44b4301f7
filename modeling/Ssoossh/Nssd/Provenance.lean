import Ssoossh.Nssd.Userdb

/-!
# Where an answer comes from

What the lookups of the host daemon know when they answer, however lookups, fetches and
invalidations interleave.

Each call follows a discipline in terms of the answers it got itself (`May`): a miss is only
remembered after the server denied the key, an entry is only dropped after it was read under
the key of a miss, and a fetch ends with what it heard (`Learnt`).  The log keeps what
happened, so that each answer stands for a fact about it that stays (`Fact`), and the facts
are what the steps owe (`Owes`).

The invariant (`Sound`) says what the marks of the log stand for.  Its main point: once what
was cached under the key of a miss has been dropped, nothing is cached under that key until a
positive answer is stored.
-/

namespace Ssoossh.Nssd.Userdb

open Interleaving GoTime GoBytes List Option

/-! ## The log -/

/-- A positive answer under a key was stored. -/
def Mark.Stores (kind : Kind) (key : Key) : Mark → Prop
  | .stored kind' name id => kind' = kind ∧ key.Picks name id
  | _ => False

/-- The marks made since the log had `count` of them. -/
def marksSince (count : Nat) (log : List Mark) : List Mark := log.take (log.length - count)

/-- A positive answer under a key was stored since the log had `count` marks. -/
def StoredSince (count : Nat) (kind : Kind) (key : Key) (log : List Mark) : Prop :=
  ∃ mark ∈ marksSince count log, mark.Stores kind key

/-- What was cached under a key was dropped after a miss, and no positive answer was stored
since that miss. -/
def Dropped (log : List Mark) (kind : Kind) (key : Key) : Prop :=
  ∃ stamp time, .missed kind key stamp time ∈ log ∧ .dropped kind key stamp ∈ log ∧
    ¬StoredSince stamp kind key log

section Log

variable {kind : Kind} {key : Key} {count count' : Nat} {log log' more : List Mark}

theorem marksSince_append (known : count ≤ log.length) :
    marksSince count (more ++ log) = more ++ marksSince count log := by
  unfold marksSince
  rw [length_append, take_append, Nat.add_sub_assoc known]
  rw [take_of_length_le (Nat.le_add_right _ _), Nat.add_sub_cancel_left]

/-- What was stored stays so. -/
theorem StoredSince.later (stored : StoredSince count kind key log) (grown : log <:+ log') :
    StoredSince count kind key log' := by
  obtain ⟨mark, recent, stores⟩ := stored
  obtain ⟨more, rfl⟩ := grown
  refine ⟨mark, ?_, stores⟩
  by_cases known : count ≤ log.length
  · rw [marksSince_append known]
    exact mem_append_right _ recent
  · rw [marksSince, Nat.sub_eq_zero_of_le (Nat.le_of_not_le known)] at recent
    cases recent

/-- Since an earlier point. -/
theorem StoredSince.since_earlier (stored : StoredSince count' kind key log)
    (earlier : count ≤ count') : StoredSince count kind key log := by
  obtain ⟨mark, recent, stores⟩ := stored
  refine ⟨mark, ?_, stores⟩
  exact take_subset_take_left log (Nat.sub_le_sub_left earlier _) recent

end Log

/-! ## How the state evolves -/

/-- How the state evolves: an entry is cached under a key if one of that name was, or if a
positive answer under it has been stored. -/
structure Later (s s' : State) : Prop where
  clock : s.clock ≤ s'.clock
  log : s.log <:+ s'.log
  hosts : s.hosts <:+ s'.hosts
  flights : ∀ kind (f : Nat) (flight : Flight kind), (s.flights kind)[f]? = some flight →
    ∃ flight' : Flight kind, (s'.flights kind)[f]? = some flight' ∧ flight'.key = flight.key ∧
      (flight.outcome ≠ none → flight'.outcome ≠ none)
  entries : ∀ kind key e', s'.find kind key = some e' →
    (∃ e, s.find kind key = some e ∧ e.name = e'.name) ∨
      StoredSince s.log.length kind key s'.log

variable {kind : Kind} {f : Nat} {action : Act}

section Later

variable {s s' s'' : State}

/-- A step that changes neither entries nor fetches. -/
theorem Later.of_same (clock : s.clock ≤ s'.clock) (log : s.log <:+ s'.log) (hosts : s.hosts <:+ s'.hosts)
    (flights : s'.flights = s.flights) (store : s'.store = s.store) : Later s s' where
  clock := clock
  log := log
  hosts := hosts
  flights kind f flight there := ⟨flight, by rw [flights]; exact there, rfl, id⟩
  entries kind key e' found := by
    refine .inl ⟨e', ?_, rfl⟩
    rw [State.find, store] at found
    exact found

theorem Later.refl : Later s s :=
  .of_same (Int.le_refl _) (suffix_refl _) (suffix_refl _) rfl rfl

theorem Later.trans (first : Later s s') (second : Later s' s'') : Later s s'' where
  clock := Int.le_trans first.clock second.clock
  log := first.log.trans second.log
  hosts := first.hosts.trans second.hosts
  flights kind f flight there := by
    obtain ⟨flight', there', same, ended⟩ := first.flights kind f flight there
    obtain ⟨flight'', there'', same', ended'⟩ := second.flights kind f flight' there'
    exact ⟨flight'', there'', same'.trans same, fun closed => ended' (ended closed)⟩
  entries kind key e'' found := by
    rcases second.entries kind key e'' found with ⟨e', found', same'⟩ | stored
    · rcases first.entries kind key e' found' with ⟨e, found, same⟩ | stored
      · exact .inl ⟨e, found, same.trans same'⟩
      · exact .inr (stored.later second.log)
    · exact .inr (stored.since_earlier first.log.length_le)

/-- A change of the entries of one kind after which whatever is found under a key was found
under it before. -/
theorem Later.setStore {store : Store kind} (marks : List Mark)
    (kept : ∀ key e', store.find key = some e' →
      (∃ e, s.find kind key = some e ∧ e.name = e'.name) ∨ ∃ mark ∈ marks, mark.Stores kind key) :
    Later s ((s.setStore kind store).note marks) where
  clock := Int.le_refl _
  log := ⟨marks, rfl⟩
  hosts := suffix_refl _
  flights kind f flight there := ⟨flight, there, rfl, id⟩
  entries kind' key e' found := by
    by_cases same : kind' = kind
    · subst same
      have changed : ((s.setStore kind' store).note marks).find kind' key = store.find key := by
        simp [State.find, State.setStore, State.note]
      rw [changed] at found
      rcases kept key e' found with old | ⟨mark, noted, stores⟩
      · exact .inl old
      · refine .inr ⟨mark, ?_, stores⟩
        show mark ∈ marksSince s.log.length (marks ++ s.log)
        rw [marksSince_append (Nat.le_refl _)]
        exact mem_append_left _ noted
    · refine .inl ⟨e', ?_, rfl⟩
      simpa [State.find, State.setStore, State.note, Function.update_of_ne same] using found

/-- A change of the fetches of one kind. -/
theorem Later.setFlights {flights : List (Flight kind)} (marks : List Mark)
    (kept : ∀ (f : Nat) (flight : Flight kind), (s.flights kind)[f]? = some flight → ∃ flight' : Flight kind, flights[f]? = some flight' ∧
      flight'.key = flight.key ∧ (flight.outcome ≠ none → flight'.outcome ≠ none)) :
    Later s ((s.setFlights kind flights).note marks) where
  clock := Int.le_refl _
  log := ⟨marks, rfl⟩
  hosts := suffix_refl _
  flights kind' f flight there := by
    by_cases same : kind' = kind
    · subst same
      simpa [State.setFlights, State.note] using kept f flight there
    · refine ⟨flight, ?_, rfl, id⟩
      simpa [State.setFlights, State.note, Function.update_of_ne same] using there
  entries kind' key e' found := .inl ⟨e', found, rfl⟩

/-- Setting one fetch. -/
theorem Later.setFlight {old new : Flight kind} (marks : List Mark)
    (there : (s.flights kind)[f]? = some old) (key : new.key = old.key)
    (outcome : old.outcome ≠ none → new.outcome ≠ none) :
    Later s ((s.setFlights kind ((s.flights kind).set f new)).note marks) := by
  refine .setFlights marks fun g flight present => ?_
  by_cases same : f = g
  · subst same
    obtain rfl : old = flight := some.inj (there.symm.trans present)
    refine ⟨new, ?_, key, outcome⟩
    obtain ⟨inside, -⟩ := List.getElem?_eq_some_iff.mp there
    simp [inside]
  · refine ⟨flight, ?_, rfl, id⟩
    rw [getElem?_set, if_neg same]
    exact present

theorem State.later_pass (s : State) (choice : Choice) : Later s (s.pass choice) :=
  .of_same (by simp [State.pass]) (suffix_refl _) (by simp [State.pass]) rfl rfl

/-- Every step lets the state evolve so. -/
theorem later_execute {cfg : Config} {choice : Choice} {answer : Resp action}
    (done : execute cfg s choice action = some (s', answer)) : Later s s' := by
  cases action with
  | arrive | host | policy | clock | enqueue =>
    cases done
    exact .refl
  | missed =>
    cases done
    exact .of_same (Int.le_refl _) (suffix_refl _) (suffix_refl _) rfl rfl
  | cached =>
    rw [execute] at done
    split at done
    · cases done
      exact .refl
    · cases done
      exact .of_same (Int.le_refl _) ⟨_, rfl⟩ (suffix_refl _) rfl rfl
  | join =>
    rw [execute] at done
    split at done
    · cases done
      exact .refl
    · cases done
      refine Later.setFlights [] fun f flight there => ⟨flight, ?_, rfl, id⟩
      obtain ⟨inside, -⟩ := List.getElem?_eq_some_iff.mp there
      rw [getElem?_append_left inside]
      exact there
  | await =>
    rw [execute] at done
    split at done
    · cases done
      exact .refl
    · split at done
      · cases done
        exact .refl
      · cases done
  | begin =>
    rw [execute] at done
    split at done
    · rename_i flight there
      split at done
      · cases done
      · cases done
        exact Later.setFlight [] there rfl id
    · cases done
  | call | addMiss =>
    cases done
    exact .of_same (Int.le_refl _) ⟨_, rfl⟩ (suffix_refl _) rfl rfl
  | delete kind key =>
    rw [execute] at done
    split at done
    · cases done
      exact .refl
    · cases done
      refine .setStore _ fun key e' found => .inl ⟨e', ?_, rfl⟩
      exact (TwoKey.Shelf.of_find_drop found).1
  | put =>
    rw [execute] at done
    split at done
    · cases done
      exact .of_same (Int.le_refl _) ⟨_, rfl⟩ (suffix_refl _) rfl rfl
    · cases done
      refine .setStore _ fun key e' found => ?_
      rcases TwoKey.Shelf.of_find_put found with rfl | old
      · refine .inr ⟨_, mem_singleton_self _, rfl, ?_⟩
        exact TwoKey.Shelf.picks_of_find found
      · exact .inl ⟨e', old, rfl⟩
  | unmiss | clearMisses =>
    cases done
    exact .of_same (Int.le_refl _) (suffix_refl _) (suffix_refl _) rfl rfl
  | markStale =>
    rw [execute] at done
    split at done
    · cases done
      exact .refl
    · cases done
      refine Later.setStore [] fun key e' found => ?_
      obtain ⟨e, there, rfl⟩ := TwoKey.Shelf.of_find_change found
      exact .inl ⟨e, there, rfl⟩
  | finish =>
    rw [execute] at done
    split at done
    · rename_i flight there
      cases done
      exact .setFlight _ there rfl fun _ => some_ne_none _
    · cases done

end Later

/-! ## What answers and marks stand for -/

/-- An answer of the server that denies a key, given the host's files: there is no such
record, the name is not valid, it is another record, or the policy refuses it. -/
def Reply.Denies (cfg : Config) {kind : Kind} (InForce : Host → Prop) (key : Key) :
    Reply kind → Prop
  | .notFound | .invalid | .found none => True
  | .found (some resp) => ¬key.Picks resp.name resp.id ∨
    ∃ host, InForce host ∧ ∃ refusal, served cfg host resp = .error refusal
  | .unavailable => False

/-- How a fetch may end, given what it heard and the host's files. -/
inductive Learnt (cfg : Config) {kind : Kind} (InForce : Host → Prop) (Heard : Reply kind → Prop)
    (key : Key) : Outcome kind → Prop
  | denied {reply : Reply kind} (heard : Heard reply) (denies : reply.Denies cfg InForce key) :
      Learnt cfg InForce Heard key (.error .noRecord)
  | granted {resp : Response kind} {host : Host} {record : Record kind}
      (heard : Heard (.found (some resp))) (picks : key.Picks resp.name resp.id)
      (inForce : InForce host) (accepted : served cfg host resp = .ok record) :
      Learnt cfg InForce Heard key (.ok record)
  | unreachable (heard : Heard .unavailable) : Learnt cfg InForce Heard key (.error .unavailable)

section Learnt

variable {cfg : Config} {kind : Kind} {InForce InForce' : Host → Prop} {Heard Heard' : Reply kind → Prop}
variable {key : Key}

theorem Reply.Denies.mono {reply : Reply kind} (denies : reply.Denies cfg InForce key)
    (weaker : ∀ host, InForce host → InForce' host) : reply.Denies cfg InForce' key := by
  match reply, denies with
  | .notFound, _ | .invalid, _ | .found none, _ => trivial
  | .found (some resp), denies =>
    refine denies.imp_right ?_
    rintro ⟨host, inForce, refused⟩
    exact ⟨host, weaker host inForce, refused⟩

theorem Learnt.mono {outcome : Outcome kind} (learnt : Learnt cfg InForce Heard key outcome)
    (weaker : ∀ host, InForce host → InForce' host) (weaker' : ∀ reply, Heard reply → Heard' reply) :
    Learnt cfg InForce' Heard' key outcome := by
  cases learnt with
  | denied heard denies => exact .denied (weaker' _ heard) (denies.mono weaker)
  | granted heard picks inForce accepted =>
    exact .granted (weaker' _ heard) picks (weaker _ inForce) accepted
  | unreachable heard => exact .unreachable (weaker' _ heard)

end Learnt

section Meaning

variable (cfg : Config) (s : State)

/-- A fetch heard an answer. -/
def State.Heard {kind : Kind} (key : Key) (f : Nat) (reply : Reply kind) : Prop :=
  ∃ time, .heard kind key f reply time ∈ s.log

/-- What a fetch of a key learnt. -/
def State.Learnt {kind : Kind} (key : Key) (f : Nat) (outcome : Outcome kind) : Prop :=
  Userdb.Learnt cfg (· ∈ s.hosts) (s.Heard key f) key outcome

/-- What a mark stands for. -/
def Mark.Meant : Mark → Prop
  | .heard _ _ _ _ time => time ≤ s.clock
  | .missed kind key stamp time => stamp ≤ s.log.length ∧ ∃ f, ∃ reply : Reply kind, ∃ heard,
    .heard kind key f reply heard ∈ s.log ∧ heard ≤ time ∧ reply.Denies cfg (· ∈ s.hosts) key
  | .dropped kind key stamp => stamp ≤ s.log.length ∧
    (StoredSince stamp kind key s.log ∨ s.find kind key = none)
  | .finished kind f => ∃ flight : Flight kind, (s.flights kind)[f]? = some flight ∧
    flight.outcome ≠ none
  | .stored _ _ _ | .read _ _ _ => True

/-- The invariant. -/
structure Sound : Prop where
  host : ∃ older, s.hosts = s.host :: older
  negative : ∀ miss ∈ s.negative.entries, ∃ stamp time,
    .missed miss.1.1 miss.1.2 stamp time ∈ s.log ∧ miss.2 = Time.add time cfg.entryNegativeTimeout
  marks : ∀ mark ∈ s.log, mark.Meant cfg s
  outcomes : ∀ kind (f : Nat) (flight : Flight kind) outcome, (s.flights kind)[f]? = some flight →
    flight.outcome = some outcome → s.Learnt cfg flight.key f outcome

end Meaning

variable {key : Key}

section Sound

variable {cfg : Config} {s s' : State}

theorem State.Heard.later {reply : Reply kind} (heard : s.Heard key f reply) (later : Later s s') :
    s'.Heard key f reply := by
  obtain ⟨time, noted⟩ := heard
  exact ⟨time, later.log.subset noted⟩

theorem State.Learnt.later {outcome : Outcome kind} (learnt : s.Learnt cfg key f outcome)
    (later : Later s s') : s'.Learnt cfg key f outcome :=
  Userdb.Learnt.mono learnt (fun _ inForce => later.hosts.subset inForce) fun _ heard => heard.later later

/-- What a mark stands for stays so. -/
theorem Mark.Meant.later {mark : Mark} (meant : mark.Meant cfg s) (later : Later s s') :
    mark.Meant cfg s' := by
  cases mark with
  | heard => exact Int.le_trans meant later.clock
  | missed =>
    obtain ⟨known, f, reply, heard, noted, early, denies⟩ := meant
    refine ⟨Nat.le_trans known later.log.length_le, f, reply, heard, later.log.subset noted, early, ?_⟩
    exact denies.mono fun _ inForce => later.hosts.subset inForce
  | dropped kind key =>
    obtain ⟨known, gone⟩ := meant
    refine ⟨Nat.le_trans known later.log.length_le, ?_⟩
    rcases gone with stored | nothing
    · exact .inl (stored.later later.log)
    · cases found : s'.find kind key with
      | none => exact .inr rfl
      | some e' =>
        rcases later.entries kind key e' found with ⟨e, old, -⟩ | stored
        · rw [nothing] at old
          cases old
        · exact .inl (stored.since_earlier known)
  | finished kind f =>
    obtain ⟨flight, there, closed⟩ := meant
    obtain ⟨flight', there', -, ended⟩ := later.flights kind f flight there
    exact ⟨flight', there', ended closed⟩
  | stored | read => trivial

/-- One step keeps the invariant if what is new stands for what it should. -/
theorem Sound.step (sound : Sound cfg s) (later : Later s s') (host : ∃ older, s'.hosts = s'.host :: older)
    (negative : ∀ miss ∈ s'.negative.entries, miss ∈ s.negative.entries ∨ ∃ stamp time,
      .missed miss.1.1 miss.1.2 stamp time ∈ s'.log ∧ miss.2 = Time.add time cfg.entryNegativeTimeout)
    (marks : ∀ mark ∈ s'.log, mark ∈ s.log ∨ mark.Meant cfg s')
    (outcomes : ∀ kind (f : Nat) (flight : Flight kind) outcome, (s'.flights kind)[f]? = some flight →
      flight.outcome = some outcome → s'.Learnt cfg flight.key f outcome ∨
        ∃ old : Flight kind, (s.flights kind)[f]? = some old ∧ old.key = flight.key ∧
          old.outcome = some outcome) : Sound cfg s' where
  host := host
  negative miss there := by
    rcases negative miss there with old | new
    · obtain ⟨stamp, time, noted, same⟩ := sound.negative miss old
      exact ⟨stamp, time, later.log.subset noted, same⟩
    · exact new
  marks mark noted := by
    rcases marks mark noted with old | new
    · exact (sound.marks mark old).later later
    · exact new
  outcomes kind f flight outcome there ended := by
    rcases outcomes kind f flight outcome there ended with new | ⟨old, there, same, ended⟩
    · exact new
    · rw [← same]
      exact (sound.outcomes kind f old outcome there ended).later later

/-- A step that leaves the fetches and the host's files as they are. -/
theorem Sound.step_of_same (sound : Sound cfg s) (later : Later s s') (host : s'.host = s.host)
    (hosts : s'.hosts = s.hosts) (flights : s'.flights = s.flights)
    (negative : ∀ miss ∈ s'.negative.entries, miss ∈ s.negative.entries ∨ ∃ stamp time,
      .missed miss.1.1 miss.1.2 stamp time ∈ s'.log ∧ miss.2 = Time.add time cfg.entryNegativeTimeout)
    (marks : ∀ mark ∈ s'.log, mark ∈ s.log ∨ mark.Meant cfg s') : Sound cfg s' := by
  refine sound.step later ?_ negative marks fun kind f flight outcome there ended => ?_
  · rw [host, hosts]
    exact sound.host
  · rw [flights] at there
    exact .inr ⟨flight, there, rfl, ended⟩

theorem Sound.pass (sound : Sound cfg s) (choice : Choice) : Sound cfg (s.pass choice) := by
  refine sound.step (s.later_pass choice) ?_ (fun _ old => .inl old) (fun _ old => .inl old) ?_
  · cases changed : choice.host with
    | none => simpa [State.pass, changed] using sound.host
    | some => simp [State.pass, changed]
  · exact fun kind f flight outcome there ended => .inr ⟨flight, there, rfl, ended⟩

end Sound

/-! ## What a step owes -/

/-- A moment that has passed. -/
def Moment.Before (since : Moment) (s : State) : Prop :=
  since.clock ≤ s.clock ∧ since.log <:+ s.log ∧ since.hosts <:+ s.hosts

section Owes

variable (cfg : Config) (s : State)

/-- What has to hold before a step. -/
def Owes : Act → Prop
  | .policy since | .missed since _ _ | .cached (.lookup since) _ _ | .join since _ _ =>
    since.Before s
  | .cached (.forget stamp) kind key => ∃ time, .missed kind key stamp time ∈ s.log
  | .addMiss kind key => ∃ f, ∃ reply : Reply kind, s.Heard key f reply ∧
    reply.Denies cfg (· ∈ s.hosts) key
  | .delete kind key stamp name => (∃ time, .missed kind key stamp time ∈ s.log) ∧
    (StoredSince stamp kind key s.log ∨ ∀ e, s.find kind key = some e → e.name = name)
  | .finish kind f outcome => ∃ flight : Flight kind, (s.flights kind)[f]? = some flight ∧
    s.Learnt cfg flight.key f outcome
  | _ => True

end Owes

section Steps

variable {cfg : Config} {s s' : State} {choice : Choice}

theorem Moment.Before.later {since : Moment} (before : since.Before s) (later : Later s s') :
    since.Before s' :=
  ⟨Int.le_trans before.1 later.clock, before.2.1.trans later.log, before.2.2.trans later.hosts⟩

/-- The entry under a key is the one that was read, or a positive answer was stored since. -/
theorem named_later {stamp : Nat} {name : Bytes} (known : stamp ≤ s.log.length)
    (named : StoredSince stamp kind key s.log ∨ ∀ e, s.find kind key = some e → e.name = name)
    (later : Later s s') :
    StoredSince stamp kind key s'.log ∨ ∀ e, s'.find kind key = some e → e.name = name := by
  rcases named with stored | named
  · exact .inl (stored.later later.log)
  · by_cases stored : StoredSince stamp kind key s'.log
    · exact .inl stored
    · refine .inr fun e' found => ?_
      rcases later.entries kind key e' found with ⟨e, old, same⟩ | recent
      · rw [← same]
        exact named e old
      · exact absurd (recent.since_earlier known) stored

/-- What is owed stays so. -/
theorem owes_later (sound : Sound cfg s) (owes : Owes cfg s action) (later : Later s s') :
    Owes cfg s' action := by
  match action, owes with
  | .policy since, before => exact Moment.Before.later before later
  | .missed since _ _, before => exact Moment.Before.later before later
  | .cached (.lookup since) _ _, before => exact Moment.Before.later before later
  | .join since _ _, before => exact Moment.Before.later before later
  | .cached (.forget stamp) kind key, ⟨time, noted⟩ => exact ⟨time, later.log.subset noted⟩
  | .addMiss kind key, ⟨f, reply, heard, denies⟩ =>
    exact ⟨f, reply, heard.later later, denies.mono fun _ inForce => later.hosts.subset inForce⟩
  | .delete kind key stamp name, ⟨⟨time, noted⟩, named⟩ =>
    exact ⟨⟨time, later.log.subset noted⟩, named_later (sound.marks _ noted).1 named later⟩
  | .finish kind f outcome, ⟨flight, there, learnt⟩ =>
    obtain ⟨flight', there', same, -⟩ := later.flights kind f flight there
    refine ⟨flight', there', ?_⟩
    rw [same]
    exact learnt.later later
  | .arrive, _ | .host, _ | .clock, _ | .enqueue _ _, _ | .cached .stub _ _, _ | .await _ _, _
  | .begin _ _, _ | .call _ _ _, _ | .put _ _, _ | .unmiss _ _, _ | .markStale _ _, _
  | .clearMisses, _ => trivial

variable {misses : Negative} {now : Int}

/-- A miss that is found was remembered, and counts. -/
theorem Negative.of_has {key : Kind × Key} (found : (misses.has now key).2 = true) :
    ∃ miss ∈ misses.entries, miss.1 = key ∧ now < miss.2 := by
  unfold Negative.has at found
  split at found
  · cases found
  · rename_i miss there
    split at found
    · rename_i counts
      refine ⟨miss, mem_of_find?_eq_some there, ?_, Time.before_iff.mp counts⟩
      simpa using find?_some there
    · cases found

/-- Looking for a miss adds none. -/
theorem Negative.has_subset {key : Kind × Key} :
    (misses.has now key).1.entries ⊆ misses.entries := by
  unfold Negative.has
  split
  · exact List.Subset.refl _
  · split
    · exact List.Subset.refl _
    · exact fun _ kept => (mem_filter.mp kept).1

/-- Making room adds none. -/
theorem Negative.room_subset : (misses.room now).entries ⊆ misses.entries := by
  unfold Negative.room
  split
  · exact List.Subset.refl _
  · dsimp only
    split
    · exact fun _ kept => (mem_filter.mp kept).1
    · exact nil_subset _

/-- Remembering a miss adds only that one. -/
theorem Negative.of_mem_add {ttl : Int} {key : Kind × Key} {miss : (Kind × Key) × Int}
    (there : miss ∈ (misses.add ttl now key).entries) :
    miss = (key, Time.add now ttl) ∨ miss ∈ misses.entries := by
  rcases mem_cons.mp there with new | kept
  · exact .inl new
  · exact .inr (Negative.room_subset (mem_filter.mp kept).1)

/-- A new fetch of a key, or the one that runs. -/
theorem of_running (running : s.running kind key = some f) :
    ∃ flight : Flight kind, (s.flights kind)[f]? = some flight ∧ flight.key = key ∧
      flight.outcome = none := by
  obtain ⟨inside, matching, -⟩ := findIdx?_eq_some_iff_getElem.mp running
  rw [Bool.and_eq_true, decide_eq_true_eq, isNone_iff_eq_none] at matching
  exact ⟨_, getElem?_eq_getElem inside, matching⟩

/-- Looking up a fetch after one of them was set. -/
theorem getElem?_setFlight {kind' : Kind} {g : Nat} {old new : Flight kind}
    {flight : Flight kind'} (marks : List Mark) (there : (s.flights kind)[f]? = some old)
    (found : (((s.setFlights kind ((s.flights kind).set f new)).note marks).flights kind')[g]? =
      some flight) :
    (∃ same : kind = kind', g = f ∧ same ▸ new = flight) ∨ (s.flights kind')[g]? = some flight := by
  by_cases same : kind = kind'
  · subst same
    have found' : ((s.flights kind).set f new)[g]? = some flight := by
      simpa [State.setFlights, State.note] using found
    by_cases here : f = g
    · subst here
      obtain ⟨inside, -⟩ := List.getElem?_eq_some_iff.mp there
      rw [getElem?_set_self inside] at found'
      exact .inl ⟨rfl, rfl, some.inj found'⟩
    · rw [getElem?_set, if_neg here] at found'
      exact .inr found'
  · refine .inr ?_
    simpa [State.setFlights, State.note, Function.update_of_ne (Ne.symm same)] using found

/-- **One step keeps the invariant.** -/
theorem sound_execute {answer : Resp action} (sound : Sound cfg s) (owes : Owes cfg s action)
    (done : execute cfg s choice action = some (s', answer)) : Sound cfg s' := by
  have later := later_execute done
  cases action with
  | arrive | host | policy | clock | enqueue =>
    cases done
    exact sound
  | missed =>
    cases done
    refine sound.step_of_same later rfl rfl rfl (fun miss there => .inl ?_) fun _ old => .inl old
    exact Negative.has_subset there
  | cached site kind key =>
    rw [execute] at done
    split at done
    · cases done
      exact sound
    · cases done
      refine sound.step_of_same later rfl rfl rfl (fun _ old => .inl old) fun mark noted => ?_
      rcases mem_append.mp noted with new | old
      · refine .inr ?_
        match site, found : s.find kind key, owes with
        | .lookup since, some e, _ =>
          rw [found] at new
          obtain rfl := mem_singleton.mp new
          trivial
        | .lookup since, none, _ | .stub, none, _ | .forget stamp, some e, _ | .stub, some e, _ =>
          rw [found] at new
          cases new
        | .forget stamp, none, ⟨time, missed⟩ =>
          rw [found] at new
          obtain rfl := mem_singleton.mp new
          have known := (sound.marks _ missed).1
          exact ⟨Nat.le_trans known (suffix_append _ _).length_le, .inr found⟩
      · exact .inl old
  | join since kind key =>
    rw [execute] at done
    split at done
    · cases done
      exact sound
    · cases done
      refine sound.step later sound.host (fun _ old => .inl old) (fun _ old => .inl old) ?_
      intro kind' f flight outcome there ended
      refine .inr ⟨flight, ?_, rfl, ended⟩
      by_cases same : kind' = kind
      · subst same
        have there' : (s.flights kind' ++ [{ key := key }])[f]? = some flight := by
          simpa [State.setFlights] using there
        by_cases inside : f < (s.flights kind').length
        · rw [getElem?_append_left inside] at there'
          exact there'
        · rw [getElem?_append_right (Nat.le_of_not_lt inside)] at there'
          obtain rfl := mem_singleton.mp (mem_of_getElem? there')
          cases ended
      · simpa [State.setFlights, Function.update_of_ne same] using there
  | await =>
    rw [execute] at done
    split at done
    · cases done
      exact sound
    · split at done
      · cases done
        exact sound
      · cases done
  | begin =>
    rw [execute] at done
    split at done
    · rename_i old there
      split at done
      · cases done
      · cases done
        refine sound.step later sound.host (fun _ old => .inl old) (fun _ old => .inl old) ?_
        intro kind' g flight outcome found ended
        refine .inr ?_
        rcases getElem?_setFlight [] there found with ⟨rfl, rfl, rfl⟩ | kept
        · exact ⟨old, there, rfl, ended⟩
        · exact ⟨flight, kept, rfl, ended⟩
    · cases done
  | call =>
    cases done
    refine sound.step_of_same later rfl rfl rfl (fun _ old => .inl old) fun mark noted => ?_
    rcases mem_cons.mp noted with rfl | old
    · exact .inr (Int.le_refl _)
    · exact .inl old
  | addMiss =>
    cases done
    refine sound.step_of_same later rfl rfl rfl (fun miss there => ?_) fun mark noted => ?_
    · rcases Negative.of_mem_add there with rfl | old
      · exact .inr ⟨_, _, mem_cons_self, rfl⟩
      · exact .inl old
    · rcases mem_cons.mp noted with rfl | old
      · obtain ⟨f, reply, ⟨heard, answered⟩, denies⟩ := owes
        refine .inr ⟨Nat.le_succ _, f, reply, heard, mem_cons_of_mem _ answered, ?_, denies⟩
        exact sound.marks _ answered
      · exact .inl old
  | delete kind key stamp name =>
    rw [execute] at done
    split at done
    · cases done
      exact sound
    · cases done
      refine sound.step_of_same later rfl rfl rfl (fun _ old => .inl old) fun mark noted => ?_
      rcases mem_cons.mp noted with rfl | old
      · obtain ⟨⟨time, missed⟩, named⟩ := owes
        have known := (sound.marks _ missed).1
        refine .inr ⟨Nat.le_succ_of_le known, ?_⟩
        rcases named with stored | named
        · exact .inl (stored.later ⟨[_], rfl⟩)
        · -- the entry under the key is the one whose name is dropped
          refine .inr ?_
          have dropped : ((s.setStore kind ((s.store kind).drop name)).note
              [.dropped kind key stamp]).find kind key = ((s.store kind).drop name).find key := by
            simp [State.find, State.setStore, State.note]
          rw [dropped]
          cases found : ((s.store kind).drop name).find key with
          | none => rfl
          | some e =>
            obtain ⟨there, other⟩ := TwoKey.Shelf.of_find_drop found
            exact absurd (named e there) other
      · exact .inl old
  | put =>
    rw [execute] at done
    split at done
    all_goals
      cases done
      refine sound.step_of_same later rfl rfl rfl (fun _ old => .inl old) fun mark noted => ?_
      rcases mem_cons.mp noted with rfl | old
      · exact .inr trivial
      · exact .inl old
  | unmiss =>
    cases done
    refine sound.step_of_same later rfl rfl rfl (fun miss there => .inl ?_) fun _ old => .inl old
    exact (mem_filter.mp there).1
  | clearMisses =>
    cases done
    refine sound.step_of_same later rfl rfl rfl (fun miss there => ?_) fun _ old => .inl old
    cases there
  | markStale =>
    rw [execute] at done
    split at done
    · cases done
      exact sound
    · cases done
      exact sound.step_of_same later rfl rfl rfl (fun _ old => .inl old) fun _ old => .inl old
  | finish kind f outcome =>
    rw [execute] at done
    split at done
    · rename_i old there
      cases done
      obtain ⟨flight, present, learnt⟩ := owes
      obtain rfl : old = flight := some.inj (there.symm.trans present)
      refine sound.step later sound.host (fun _ old => .inl old) (fun mark noted => ?_) ?_
      · rcases mem_cons.mp noted with rfl | earlier
        · refine .inr ⟨{ old with outcome := some outcome }, ?_, some_ne_none _⟩
          obtain ⟨inside, -⟩ := List.getElem?_eq_some_iff.mp there
          simp [State.setFlights, State.note, inside]
        · exact .inl earlier
      · intro kind' g flight outcome' found ended
        rcases getElem?_setFlight _ there found with ⟨rfl, rfl, rfl⟩ | kept
        · obtain rfl : outcome = outcome' := some.inj ended
          exact .inl (learnt.later later)
        · exact .inr ⟨flight, kept, rfl, ended⟩
    · cases done

end Steps

/-! ## What an answer stands for -/

section Facts

variable (cfg : Config) (s : State)

/-- A denial of a key was remembered, and still counted at a moment. -/
def State.Remembered (since : Moment) (kind : Kind) (key : Key) : Prop :=
  ∃ f, ∃ reply : Reply kind, ∃ heard stamp time, .heard kind key f reply heard ∈ s.log ∧
    reply.Denies cfg (· ∈ s.hosts) key ∧ .missed kind key stamp time ∈ s.log ∧ heard ≤ time ∧
    since.clock < Time.add time cfg.entryNegativeTimeout

/-- An entry was read under a key since a moment, when nothing said that it was gone. -/
def State.Read (since : Moment) {kind : Kind} (key : Key) (e : Entry kind) : Prop :=
  ∃ older, since.log <:+ older ∧ (.read kind key e :: older) <:+ s.log ∧ ¬Dropped older kind key

/-- The host's files at some moment since an earlier one. -/
def State.InForce (since : Moment) (host : Host) : Prop :=
  ∃ older, since.hosts <:+ host :: older ∧ host :: older <:+ s.hosts

/-- What an answer stands for from then on. -/
def Fact : Event Resp → State → Prop
  | ⟨.arrive, since⟩, s => since.Before s
  | ⟨.host, host⟩, s => host ∈ s.hosts
  | ⟨.policy since, host⟩, s => s.InForce since host
  | ⟨.missed since kind key, found⟩, s => found = true → s.Remembered cfg since kind key
  | ⟨.cached (.lookup since) _ key, found⟩, s => ∀ e, found = some e → s.Read since key e
  | ⟨.cached (.forget stamp) kind key, found⟩, s => stamp ≤ s.log.length ∧ ∀ e, found = some e →
    StoredSince stamp kind key s.log ∨ ∀ e', s.find kind key = some e' → e'.name = e.name
  | ⟨.join since kind key, f⟩, s => .finished kind f ∉ since.log ∧
    ∃ flight : Flight kind, (s.flights kind)[f]? = some flight ∧ flight.key = key
  | ⟨.await kind f, found⟩, s => ∀ outcome, found = some outcome →
    ∃ flight : Flight kind, (s.flights kind)[f]? = some flight ∧ s.Learnt cfg flight.key f outcome
  | ⟨.begin kind f, key⟩, s =>
    ∃ flight : Flight kind, (s.flights kind)[f]? = some flight ∧ flight.key = key
  | ⟨.call _ key f, reply⟩, s => s.Heard key f reply
  | ⟨.addMiss kind key, stamp⟩, s => ∃ time, .missed kind key stamp time ∈ s.log
  | _, _ => True

end Facts

section Learning

variable {cfg : Config} {s s' : State} {choice : Choice}

/-- What an answer stands for stays so. -/
theorem fact_later {event : Event Resp} (fact : Fact cfg event s) (later : Later s s') :
    Fact cfg event s' := by
  match event, fact with
  | ⟨.arrive, since⟩, before => exact Moment.Before.later before later
  | ⟨.host, host⟩, inForce => exact later.hosts.subset inForce
  | ⟨.policy since, host⟩, ⟨older, after, was⟩ => exact ⟨older, after, was.trans later.hosts⟩
  | ⟨.missed since kind key, found⟩, fact =>
    intro hit
    obtain ⟨f, reply, heard, stamp, time, answered, denies, missed, early, counts⟩ := fact hit
    exact ⟨f, reply, heard, stamp, time, later.log.subset answered,
      denies.mono fun _ inForce => later.hosts.subset inForce, later.log.subset missed, early, counts⟩
  | ⟨.cached (.lookup since) kind key, found⟩, fact =>
    intro e there
    obtain ⟨older, after, read, standing⟩ := fact e there
    exact ⟨older, after, read.trans later.log, standing⟩
  | ⟨.cached (.forget stamp) kind key, found⟩, ⟨known, fact⟩ =>
    refine ⟨Nat.le_trans known later.log.length_le, fun e there => ?_⟩
    exact named_later known (fact e there) later
  | ⟨.join since kind key, f⟩, ⟨running, flight, there, same⟩ =>
    obtain ⟨flight', there', same', -⟩ := later.flights kind f flight there
    exact ⟨running, flight', there', same'.trans same⟩
  | ⟨.await kind f, found⟩, fact =>
    intro outcome ended
    obtain ⟨flight, there, learnt⟩ := fact outcome ended
    obtain ⟨flight', there', same, -⟩ := later.flights kind f flight there
    exact ⟨flight', there', same ▸ learnt.later later⟩
  | ⟨.begin kind f, key⟩, ⟨flight, there, same⟩ =>
    obtain ⟨flight', there', same', -⟩ := later.flights kind f flight there
    exact ⟨flight', there', same'.trans same⟩
  | ⟨.call kind key f, reply⟩, heard => exact State.Heard.later heard later
  | ⟨.addMiss kind key, stamp⟩, ⟨time, missed⟩ => exact ⟨time, later.log.subset missed⟩
  | ⟨.clock, _⟩, _ | ⟨.enqueue _ _, _⟩, _ | ⟨.cached .stub _ _, _⟩, _ | ⟨.delete _ _ _ _, _⟩, _
  | ⟨.put _ _, _⟩, _ | ⟨.unmiss _ _, _⟩, _ | ⟨.markStale _ _, _⟩, _ | ⟨.clearMisses, _⟩, _
  | ⟨.finish _ _ _, _⟩, _ => trivial

/-- What is cached has not been dropped for good. -/
theorem Sound.not_dropped (sound : Sound cfg s) {e : Entry kind}
    (found : s.find kind key = some e) : ¬Dropped s.log kind key := by
  rintro ⟨stamp, time, -, dropped, unstored⟩
  obtain ⟨-, stored | nothing⟩ := sound.marks _ dropped
  · exact unstored stored
  · rw [nothing] at found
    cases found

/-- **What a step learns.** -/
theorem fact_execute {answer : Resp action} (sound : Sound cfg s) (owes : Owes cfg s action)
    (done : execute cfg s choice action = some (s', answer)) : Fact cfg ⟨action, answer⟩ s' := by
  have later := later_execute done
  cases action with
  | arrive =>
    cases done
    exact ⟨Int.le_refl _, suffix_refl _, suffix_refl _⟩
  | host =>
    cases done
    obtain ⟨older, current⟩ := sound.host
    show s.host ∈ s.hosts
    exact current ▸ mem_cons_self
  | policy =>
    cases done
    obtain ⟨older, current⟩ := sound.host
    exact ⟨older, current ▸ owes.2.2, current ▸ suffix_refl _⟩
  | missed since kind key =>
    cases done
    intro hit
    obtain ⟨⟨found, expiry⟩, there, same, counts⟩ := Negative.of_has hit
    obtain rfl : found = (kind, key) := same
    obtain ⟨stamp, time, missed, expires⟩ := sound.negative _ there
    obtain ⟨-, f, reply, heard, answered, early, denies⟩ := sound.marks _ missed
    refine ⟨f, reply, heard, stamp, time, answered, denies, missed, early, ?_⟩
    rw [← expires]
    exact Int.lt_of_le_of_lt owes.1 counts
  | cached site =>
    rw [execute] at done
    split at done
    · cases done
      match site, owes with
      | .lookup since, _ => exact nofun
      | .forget stamp, ⟨time, missed⟩ =>
        exact ⟨(sound.marks _ missed).1, nofun⟩
      | .stub, _ => trivial
    · cases done
      match site, owes with
      | .lookup since, before =>
        intro e found
        refine ⟨s.log, before.2.1, ?_, sound.not_dropped found⟩
        rw [found]
        exact suffix_refl _
      | .forget stamp, ⟨time, missed⟩ =>
        have known := (sound.marks _ missed).1
        refine ⟨Nat.le_trans known (suffix_append _ _).length_le, fun e found => .inr ?_⟩
        intro e' found'
        have same : some e' = some e := found'.symm.trans found
        rw [some.inj same]
      | .stub, _ => trivial
  | join since kind key =>
    have fresh : ∀ f, (∀ flight : Flight kind, (s.flights kind)[f]? = some flight →
        flight.outcome = none) → .finished kind f ∉ since.log := by
      intro f running ended
      obtain ⟨flight, there, closed⟩ := sound.marks _ (owes.2.1.subset ended)
      exact closed (running flight there)
    rw [execute] at done
    split at done
    · rename_i f running
      cases done
      obtain ⟨flight, there, same, open'⟩ := of_running running
      refine ⟨fresh _ fun flight' there' => ?_, flight, there, same⟩
      rw [some.inj (there'.symm.trans there)]
      exact open'
    · cases done
      refine ⟨fresh _ fun flight' there' => ?_, { key := key }, ?_, rfl⟩
      · rw [getElem?_eq_none (Nat.le_refl _)] at there'
        cases there'
      · simp [State.setFlights]
  | await kind f =>
    rw [execute] at done
    split at done
    · cases done
      exact nofun
    · split at done
      · rename_i outcome closed
        cases done
        rintro outcome' ⟨⟩
        obtain ⟨flight, there, ended⟩ := bind_eq_some_iff.mp closed
        exact ⟨flight, there, sound.outcomes kind f flight _ there ended⟩
      · cases done
  | begin kind f =>
    rw [execute] at done
    split at done
    · rename_i flight there
      split at done
      · cases done
      · cases done
        obtain ⟨flight', there', same, -⟩ := later.flights kind f flight there
        exact ⟨flight', there', same⟩
    · cases done
  | call | addMiss =>
    cases done
    exact ⟨_, mem_cons_self⟩
  | clock | enqueue kind key | delete kind key stamp name | put kind entry | unmiss kind key
  | markStale | clearMisses | finish => trivial

end Learning

/-! ## The discipline -/

/-- What a call has done so far, newest first. -/
abbrev Past := List (Event Resp)

section Discipline

variable (cfg : Config)

/-- The host's files were read. -/
def Past.InForce (past : Past) (host : Host) : Prop := (⟨.host, host⟩ : Event Resp) ∈ past

/-- A lookup read the host's files. -/
def Past.Met (past : Past) (since : Moment) (host : Host) : Prop :=
  (⟨.policy since, host⟩ : Event Resp) ∈ past

/-- The server answered a fetch. -/
def Past.Heard (past : Past) {kind : Kind} (key : Key) (f : Nat) (reply : Reply kind) : Prop :=
  (⟨.call kind key f, reply⟩ : Event Resp) ∈ past

/-- What a fetch learnt. -/
def Past.Learnt (past : Past) {kind : Kind} (key : Key) (f : Nat) (outcome : Outcome kind) : Prop :=
  Userdb.Learnt cfg past.InForce (past.Heard key f) key outcome

/-- When a step may be taken. -/
def May (past : Past) : Act → Prop
  | .policy since | .missed since _ _ | .cached (.lookup since) _ _ | .join since _ _ =>
    (⟨.arrive, since⟩ : Event Resp) ∈ past
  | .cached (.forget stamp) kind key => (⟨.addMiss kind key, stamp⟩ : Event Resp) ∈ past
  | .addMiss kind key => ∃ f, ∃ reply : Reply kind, past.Heard key f reply ∧
    reply.Denies cfg past.InForce key
  | .delete kind key stamp name => (⟨.addMiss kind key, stamp⟩ : Event Resp) ∈ past ∧
    ∃ e : Entry kind, (⟨.cached (.forget stamp) kind key, some e⟩ : Event Resp) ∈ past ∧
      e.name = name
  | .finish kind f outcome => ∃ key, (⟨.begin kind f, key⟩ : Event Resp) ∈ past ∧
    past.Learnt cfg key f outcome
  | _ => True

end Discipline

section Owed

variable {cfg : Config} {s : State} {past : Past}

theorem Past.Learnt.facts {outcome : Outcome kind} (learnt : past.Learnt cfg key f outcome)
    (facts : ∀ event ∈ past, Fact cfg event s) : s.Learnt cfg key f outcome :=
  Userdb.Learnt.mono learnt (fun _ inForce => facts _ inForce) fun _ heard => facts _ heard

/-- The discipline pays for what the steps owe. -/
theorem owes_of_may (facts : ∀ event ∈ past, Fact cfg event s) (may : May cfg past action) :
    Owes cfg s action := by
  match action, may with
  | .policy since, arrived => exact facts _ arrived
  | .missed since _ _, arrived => exact facts _ arrived
  | .cached (.lookup since) _ _, arrived => exact facts _ arrived
  | .join since _ _, arrived => exact facts _ arrived
  | .cached (.forget stamp) kind key, missed => exact facts _ missed
  | .addMiss kind key, ⟨f, reply, heard, denies⟩ =>
    exact ⟨f, reply, facts _ heard, denies.mono fun _ inForce => facts _ inForce⟩
  | .delete kind key stamp name, ⟨missed, e, read, same⟩ =>
    refine ⟨facts _ missed, ?_⟩
    rw [← same]
    exact (facts _ read).2 e rfl
  | .finish kind f outcome, ⟨key, begun, learnt⟩ =>
    obtain ⟨flight, there, same⟩ := facts _ begun
    refine ⟨flight, there, ?_⟩
    rw [same]
    exact learnt.facts facts
  | .arrive, _ | .host, _ | .clock, _ | .enqueue _ _, _ | .cached .stub _ _, _ | .await _ _, _
  | .begin _ _, _ | .call _ _ _, _ | .put _ _, _ | .unmiss _ _, _ | .markStale _ _, _
  | .clearMisses, _ => trivial

end Owed

end Ssoossh.Nssd.Userdb
