import Ssoossh.Lib.Interleaving

/-!
# What a program knows

The only thing a program knows about a state that others keep changing is what its
own actions were answered.  This module reasons about programs in those terms:

* `Prog.Follows Can May Q p past` is about **one program alone**.  Whatever answers
  the actions get, of those they `Can` get, every action taken is one that `May` be
  taken after the answers so far, and the answers together with the result satisfy
  `Q`.  No state and no other thread appears in it, so it is proved by walking
  through the program.
* `Obeys.of_follows` carries it over to a shared state.  If every answer stands for
  a fact that interference cannot undo, and those facts imply what an action owes,
  a program that follows its discipline obeys the contract.

The second half is about **refining a contract**.  A property of some schedules is
an invariant `J` and a rely `S` added to a contract that is already known to hold;
`Obeys.refine` says that a program that obeyed before still does, so that only the
calls the new property is about are looked at again.
-/

namespace Interleaving

/-! ## Histories -/

/-- An action that was taken, with its answer. -/
abbrev Event {Act : Type} (Resp : Act → Type) := (action : Act) × Resp action

namespace Prog

variable {Act : Type} {Resp : Act → Type} {α β ε : Type}

/-- Whatever the answers, each action is one that `May` be taken after the history
so far (newest event first), and history and result satisfy `Q`. -/
inductive Follows (Can : (action : Act) → Resp action → Prop)
    (May : List (Event Resp) → Act → Prop) (Q : List (Event Resp) → α → Prop) :
    Prog Act Resp α → List (Event Resp) → Prop
  | ret {value : α} {past : List (Event Resp)} (result : Q past value) :
      Follows Can May Q (.ret value) past
  | act {action : Act} {next : Resp action → Prog Act Resp α} {past : List (Event Resp)}
      (may : May past action)
      (rest : ∀ answer, Can action answer →
        Follows Can May Q (next answer) (⟨action, answer⟩ :: past)) :
      Follows Can May Q (.act action next) past

variable {Can : (action : Act) → Resp action → Prop} {May May' : List (Event Resp) → Act → Prop}
variable {Q Q' : List (Event Resp) → α → Prop} {R : List (Event Resp) → β → Prop}
variable {past now : List (Event Resp)} {p : Prog Act Resp α} {next : α → Prog Act Resp β}
variable {action : Act} {value : α}

/-- Sequencing.  A history is only ever extended, so what was known before the first
program is known before the second. -/
theorem Follows.bind (h : p.Follows Can May Q past)
    (cont : ∀ now value, past ⊆ now → Q now value → (next value).Follows Can May R now) :
    (p >>= next).Follows Can May R past := by
  induction h with
  | ret result => exact cont _ _ (List.Subset.refl _) result
  | act may _ ih =>
    refine .act may fun answer can => ih answer can fun now value grown => ?_
    exact cont now value (List.Subset.trans (List.subset_cons_self _ _) grown)

/-- A weaker result. -/
theorem Follows.mono (h : p.Follows Can May Q past)
    (weaker : ∀ now value, past ⊆ now → Q now value → Q' now value) :
    p.Follows Can May Q' past := by
  induction h with
  | ret result => exact .ret (weaker _ _ (List.Subset.refl _) result)
  | act may _ ih =>
    refine .act may fun answer can => ih answer can fun now value grown => ?_
    exact weaker now value (List.Subset.trans (List.subset_cons_self _ _) grown)

/-- A looser discipline. -/
theorem Follows.loosen (h : p.Follows Can May Q past)
    (looser : ∀ now action, May now action → May' now action) : p.Follows Can May' Q past := by
  induction h with
  | ret result => exact .ret result
  | act may _ ih => exact .act (looser _ _ may) ih

/-- The oldest event of a history stays. -/
theorem Follows.oldest {first : Event Resp} (h : p.Follows Can May Q past)
    (oldest : past.getLast? = some first) :
    p.Follows Can (fun now action => now.getLast? = some first ∧ May now action) Q past := by
  induction h with
  | ret result => exact .ret result
  | act may _ ih =>
    refine .act ⟨oldest, may⟩ fun answer can => ih answer can ?_
    rw [List.getLast?_cons, oldest]
    rfl

/-! ### Programs that can fail -/

/-- Sequencing of programs that can fail.  A failure of the first is one of the whole,
and the second runs only if there is none. -/
theorem Follows.bindExcept {Q : List (Event Resp) → Except ε α → Prop}
    {R : List (Event Resp) → Except ε β → Prop} {p : ExceptT ε (Prog Act Resp) α}
    {next : α → ExceptT ε (Prog Act Resp) β}
    (h : p.run.Follows Can May Q past)
    (failed : ∀ now error, past ⊆ now → Q now (.error error) → R now (.error error))
    (cont : ∀ now value, past ⊆ now → Q now (.ok value) → (next value).run.Follows Can May R now) :
    (p >>= next).run.Follows Can May R past := by
  refine Follows.bind h fun now outcome grown known => ?_
  cases outcome with
  | error error => exact .ret (failed now error grown known)
  | ok value => exact cont now value grown known

/-- A program that can fail follows its discipline, and a value it returns satisfies
`Q`.  Nothing is said about what it fails with. -/
def Yields (Can : (action : Act) → Resp action → Prop) (May : List (Event Resp) → Act → Prop)
    (Q : List (Event Resp) → α → Prop) (p : ExceptT ε (Prog Act Resp) α)
    (past : List (Event Resp)) : Prop :=
  p.run.Follows Can May (fun now outcome => ∀ value, outcome = .ok value → Q now value) past

section Yields

variable {p : ExceptT ε (Prog Act Resp) α} {next : α → ExceptT ε (Prog Act Resp) β}

section

variable (h : Yields Can May Q p past)
include h

theorem Yields.bind
    (cont : ∀ now value, past ⊆ now → Q now value → Yields Can May R (next value) now) :
    Yields Can May R (p >>= next) past := by
  refine Follows.bindExcept h ?_ fun now value grown known => ?_
  · exact nofun
  · exact cont now value grown (known value rfl)

/-- The same where something is said of the failures too: it has to follow from what was
seen before. -/
theorem Yields.bindExcept {R : List (Event Resp) → Except ε β → Prop}
    (failed : ∀ now error, past ⊆ now → R now (.error error))
    (cont : ∀ now value, past ⊆ now → Q now value → (next value).run.Follows Can May R now) :
    (p >>= next).run.Follows Can May R past :=
  Follows.bindExcept h (fun now error grown _ => failed now error grown)
    fun now value grown known => cont now value grown (known value rfl)

theorem Yields.mono
    (weaker : ∀ now value, past ⊆ now → Q now value → Q' now value) : Yields Can May Q' p past :=
  Follows.mono h fun now _ grown known value returned =>
    weaker now value grown (known value returned)

theorem Yields.loosen
    (looser : ∀ now action, May now action → May' now action) : Yields Can May' Q p past :=
  Follows.loosen h looser

end

theorem yields_pure (h : Q past value) :
    Yields Can May Q (pure value : ExceptT ε (Prog Act Resp) α) past :=
  .ret fun _ returned => Except.ok.inj returned ▸ h

theorem yields_throw {error : ε} :
    Yields Can May Q (throw error : ExceptT ε (Prog Act Resp) α) past :=
  .ret nofun

/-- A computation without actions. -/
theorem yields_mk {outcome : Except ε α} (h : ∀ value, outcome = .ok value → Q past value) :
    Yields Can May Q (ExceptT.mk (.ret outcome) : ExceptT ε (Prog Act Resp) α) past := .ret h

/-- One action. -/
theorem yields_perform (may : May past action) :
    Yields Can May (fun now answer => ⟨action, answer⟩ ∈ now ∧ Can action answer)
      (ExceptT.lift (perform action) : ExceptT ε (Prog Act Resp) (Resp action)) past :=
  .act may fun _ can => .ret fun _ returned =>
    Except.ok.inj returned ▸ ⟨List.mem_cons_self, can⟩

end Yields

/-! ### What holds of a history throughout -/

/-- A program that can fail follows its discipline; `N` holds of the history however it
ends, and a value it returns satisfies `Q`. -/
def Keeps (Can : (action : Act) → Resp action → Prop) (May : List (Event Resp) → Act → Prop)
    (N : List (Event Resp) → Prop) (Q : List (Event Resp) → α → Prop)
    (p : ExceptT ε (Prog Act Resp) α) (past : List (Event Resp)) : Prop :=
  p.run.Follows Can May (fun now outcome => N now ∧ ∀ value, outcome = .ok value → Q now value) past

section Keeps

variable {N N' : List (Event Resp) → Prop}
variable {p : ExceptT ε (Prog Act Resp) α} {next : α → ExceptT ε (Prog Act Resp) β}

theorem Keeps.bind (h : Keeps Can May N Q p past)
    (cont : ∀ now value, past ⊆ now → N now → Q now value → Keeps Can May N R (next value) now) :
    Keeps Can May N R (p >>= next) past := by
  refine Follows.bindExcept h ?_ fun now value grown known => ?_
  · exact fun now error _ known => ⟨known.1, nofun⟩
  · exact cont now value grown known.1 (known.2 value rfl)

theorem Keeps.mono (h : Keeps Can May N Q p past)
    (weaker : ∀ now value, past ⊆ now → N now → Q now value → Q' now value) :
    Keeps Can May N Q' p past :=
  Follows.mono h fun now _ grown known =>
    ⟨known.1, fun value returned => weaker now value grown known.1 (known.2 value returned)⟩

/-- Less is asked of the history from here on, and what held so far is remembered. -/
theorem Keeps.relax (h : Keeps Can May N Q p past) (weaker : ∀ now, N now → N' now) :
    Keeps Can May N' (fun now value => N now ∧ Q now value) p past :=
  Follows.mono h fun now _ _ known =>
    ⟨weaker now known.1, fun value returned => ⟨known.1, known.2 value returned⟩⟩

theorem keeps_pure (kept : N past) (h : Q past value) :
    Keeps Can May N Q (pure value : ExceptT ε (Prog Act Resp) α) past :=
  .ret ⟨kept, fun _ returned => Except.ok.inj returned ▸ h⟩

theorem keeps_throw {error : ε} (kept : N past) :
    Keeps Can May N Q (throw error : ExceptT ε (Prog Act Resp) α) past :=
  .ret ⟨kept, nofun⟩

/-- One action. -/
theorem keeps_perform (may : May past action)
    (kept : ∀ answer, N (⟨action, answer⟩ :: past)) :
    Keeps Can May N (fun now answer => now = ⟨action, answer⟩ :: past ∧ Can action answer)
      (ExceptT.lift (perform action) : ExceptT ε (Prog Act Resp) (Resp action)) past :=
  .act may fun answer can => .ret ⟨kept answer, fun _ returned =>
    Except.ok.inj returned ▸ ⟨rfl, can⟩⟩

end Keeps

/-! ### Single runs -/

/-- One run of a program: the answers it got, on top of those it started with, and
what it returned. -/
inductive Runs (Can : (action : Act) → Resp action → Prop) :
    Prog Act Resp α → List (Event Resp) → List (Event Resp) → α → Prop
  | ret {value : α} {past : List (Event Resp)} : Runs Can (.ret value) past past value
  | act {action : Act} {next : Resp action → Prog Act Resp α} {answer : Resp action}
      {past now : List (Event Resp)} {value : α} (can : Can action answer)
      (rest : Runs Can (next answer) (⟨action, answer⟩ :: past) now value) :
      Runs Can (.act action next) past now value

/-- The run in which a function of the history gives the answers. -/
def answered (answer : List (Event Resp) → (action : Act) → Resp action) :
    Prog Act Resp α → List (Event Resp) → List (Event Resp) × α
  | .ret value, past => (past, value)
  | .act action next, past =>
    (next (answer past action)).answered answer (⟨action, answer past action⟩ :: past)

theorem runs_answered {answer : List (Event Resp) → (action : Act) → Resp action}
    (can : ∀ past action, Can action (answer past action)) (p : Prog Act Resp α)
    (past : List (Event Resp)) :
    Runs Can p past (p.answered answer past).1 (p.answered answer past).2 := by
  induction p generalizing past with
  | ret => exact .ret
  | act action next ih => exact .act (can past action) (ih _ _)

/-- Answers that do not depend on the history are all there is in it. -/
theorem of_mem_answered {answer : (action : Act) → Resp action} {event : Event Resp}
    (member : event ∈ (p.answered (fun _ => answer) past).1) :
    event ∈ past ∨ event.2 = answer event.1 := by
  induction p generalizing past with
  | ret => exact .inl member
  | act action next ih =>
    rcases ih _ member with earlier | same
    · rcases List.mem_cons.mp earlier with rfl | earlier
      · exact .inr rfl
      · exact .inl earlier
    · exact .inr same

/-- A run only adds to its history. -/
theorem Runs.extends (run : Runs Can p past now value) : past ⊆ now := by
  induction run with
  | ret => exact List.Subset.refl _
  | act _ _ ih => exact List.Subset.trans (List.subset_cons_self _ _) ih

/-- A run of two programs in sequence is a run of the first and then one of the second. -/
theorem Runs.of_bind {result : β} (run : Runs Can (p >>= next) past now result) :
    ∃ mid value, Runs Can p past mid value ∧ Runs Can (next value) mid now result := by
  induction p generalizing past with
  | ret value => exact ⟨past, value, .ret, run⟩
  | act action rest ih =>
    rw [act_bind] at run
    obtain _ | ⟨can, run⟩ := run
    obtain ⟨mid, value, first, second⟩ := ih _ run
    exact ⟨mid, value, .act can first, second⟩

/-- A run that starts with an action. -/
theorem Runs.of_step {next : Resp action → ExceptT ε (Prog Act Resp) β}
    {result : Except ε β}
    (run : Runs Can (ExceptT.lift (perform action) >>= next).run past now result) :
    ∃ answer, Runs Can (next answer).run (⟨action, answer⟩ :: past) now result := by
  obtain _ | ⟨-, rest⟩ := run
  exact ⟨_, rest⟩

/-- What every run of a program that follows a discipline satisfies: its result, and
for each new action that it was one that `May` be taken at that point. -/
theorem Follows.runs (h : p.Follows Can May Q past) (run : Runs Can p past now value) :
    Q now value ∧ ∀ event ∈ now, event ∈ past ∨ ∃ before, before ⊆ now ∧ May before event.1 := by
  induction run with
  | ret =>
    obtain ⟨result⟩ := h
    exact ⟨result, fun event member => .inl member⟩
  | @act action next answer past now value can rest ih =>
    obtain _ | ⟨may, follows⟩ := h
    obtain ⟨result, taken⟩ := ih (follows answer can)
    refine ⟨result, fun event member => ?_⟩
    rcases taken event member with earlier | later
    · rcases List.mem_cons.mp earlier with rfl | earlier
      · exact .inr ⟨past, List.Subset.trans (List.subset_cons_self _ _) rest.extends, may⟩
      · exact .inl earlier
    · exact .inr later

/-- What a program does, if that depends on nothing it has seen. -/
theorem Yields.taken {P : Act → Prop} {p : ExceptT ε (Prog Act Resp) α} {outcome : Except ε α}
    (h : Yields Can (fun _ action => P action) Q p past) (run : Runs Can p.run past now outcome) :
    ∀ event ∈ now, event ∈ past ∨ P event.1 := by
  intro event member
  rcases (Follows.runs h run).2 event member with earlier | ⟨-, -, done⟩
  · exact .inl earlier
  · exact .inr done

/-! ### Alone on a state -/

section Drive

variable {State Choice : Type}

/-- A program alone on a state, as far as the choices go: what is left of it, the state by
then, and the history. -/
def drive (exec : State → (action : Act) → Choice → Option (State × Resp action)) :
    Prog Act Resp α → State → List (Event Resp) → List Choice →
      Option (Prog Act Resp α × State × List (Event Resp))
  | .ret value, s, past, _ => some (.ret value, s, past)
  | .act action next, s, past, [] => some (.act action next, s, past)
  | .act action next, s, past, choice :: choices =>
    match exec s action choice with
    | none => none
    | some (s', answer) => drive exec (next answer) s' (⟨action, answer⟩ :: past) choices

/-- What a program that follows a discipline has done to a state it is alone on, wherever it
was stopped. -/
theorem Follows.drive {exec : State → (action : Act) → Choice → Option (State × Resp action)}
    {Inv : List (Event Resp) → State → Prop}
    (step : ∀ {past s action choice s' answer}, Inv past s → May past action →
      exec s action choice = some (s', answer) → Inv (⟨action, answer⟩ :: past) s')
    {rest : Prog Act Resp α} {s s' : State} {choices : List Choice}
    (h : p.Follows (fun _ _ => True) May Q past) (inv : Inv past s)
    (driven : p.drive exec s past choices = some (rest, s', now)) :
    Inv now s' ∧ ∀ value, rest = .ret value → Q now value := by
  induction h generalizing s choices with
  | ret result =>
    cases driven
    refine ⟨inv, ?_⟩
    rintro _ ⟨⟩
    exact result
  | @act action next past may _ ih =>
    cases choices with
    | nil =>
      cases driven
      exact ⟨inv, nofun⟩
    | cons =>
      unfold Prog.drive at driven
      split at driven
      · cases driven
      · rename_i done
        exact ih _ trivial (step inv may done) driven

/-- A program alone on a state can come this far: what is left of it, and the state by then. -/
inductive Advances (exec : State → (action : Act) → Choice → Option (State × Resp action)) :
    Prog Act Resp α → State → Prog Act Resp α → State → Prop
  | here {p : Prog Act Resp α} {s : State} : Advances exec p s p s
  | step {action : Act} {next : Resp action → Prog Act Resp α} {choice : Choice}
      {answer : Resp action} {s s' t : State} {q : Prog Act Resp α}
      (done : exec s action choice = some (s', answer))
      (rest : Advances exec (next answer) s' q t) : Advances exec (.act action next) s q t

section Advances

variable {exec : State → (action : Act) → Choice → Option (State × Resp action)}
variable {s t u : State}

/-- A program that has returned goes no further. -/
theorem Advances.of_ret {q : Prog Act Resp α} (h : Advances exec (.ret value) s q t) :
    q = .ret value ∧ t = s := by
  cases h
  exact ⟨rfl, rfl⟩

theorem Advances.bind {q : Prog Act Resp β} (first : Advances exec p s (.ret value) t)
    (second : Advances exec (next value) t q u) : Advances exec (p >>= next) s q u := by
  generalize returned : Prog.ret value = last at first
  induction first with
  | here =>
    subst returned
    exact second
  | step done _ ih => exact .step done (ih second returned)

/-- Within a sequence: still in the first program, or past it. -/
theorem Advances.of_bind {q : Prog Act Resp β}
    (h : Advances exec (p >>= next) s q u) :
    (∃ action more, Advances exec p s (.act action more) u ∧ q = .act action more >>= next) ∨
      ∃ value t, Advances exec p s (.ret value) t ∧ Advances exec (next value) t q u := by
  induction p generalizing s with
  | ret value => exact .inr ⟨value, s, .here, h⟩
  | act action more ih =>
    cases h with
    | here => exact .inl ⟨action, more, .here, rfl⟩
    | step done rest =>
      rcases ih _ rest with ⟨action', more', inside, same⟩ | ⟨value, t, inside, past⟩
      · exact .inl ⟨action', more', .step done inside, same⟩
      · exact .inr ⟨value, t, .step done inside, past⟩

end Advances

/-- A program alone on a state that settles every answer: the state afterwards and the result,
unless an action is impossible. -/
def eval (exec : State → (action : Act) → Option (State × Resp action)) :
    Prog Act Resp α → State → Option (State × α)
  | .ret value, s => some (s, value)
  | .act action next, s =>
    match exec s action with
    | none => none
    | some (s', answer) => (next answer).eval exec s'

section Eval

variable {exec : State → (action : Act) → Option (State × Resp action)} {s s' : State}

/-- The second program goes on where the first ended. -/
theorem eval_bind (first : p.eval exec s = some (s', value)) :
    (p >>= next).eval exec s = (next value).eval exec s' := by
  induction p generalizing s with
  | ret =>
    cases first
    rfl
  | act action rest ih =>
    unfold eval at first
    split at first
    · cases first
    · rename_i t answer done
      rw [act_bind, eval, done]
      exact ih answer first

theorem eval_perform {answer : Resp action} (done : exec s action = some (s', answer)) :
    (perform action).eval exec s = some (s', answer) := by
  rw [perform, eval, done]
  rfl

end Eval

end Drive

/-! ### What a program can do at all -/

/-- Whatever it is answered, a program takes only actions of `P`, and what it returns
satisfies `L`. -/
inductive Confined (P : Act → Prop) (L : α → Prop) : Prog Act Resp α → Prop
  | ret {value : α} (result : L value) : Confined P L (.ret value)
  | act {action : Act} {next : Resp action → Prog Act Resp α} (may : P action)
      (rest : ∀ answer, Confined P L (next answer)) : Confined P L (.act action next)

/-- A program that can fail is confined, and what it fails with satisfies `E`. -/
def Fails (P : Act → Prop) (E : ε → Prop) (p : ExceptT ε (Prog Act Resp) α) : Prop :=
  p.run.Confined P fun outcome => ∀ error, outcome = .error error → E error

section Fails

variable {P P' : Act → Prop} {L : α → Prop} {L' : β → Prop} {E : ε → Prop}

theorem Confined.bind (h : p.Confined P L)
    (cont : ∀ value, L value → (next value).Confined P L') : (p >>= next).Confined P L' := by
  induction h with
  | ret result => exact cont _ result
  | act may _ ih => exact .act may ih

theorem Confined.loosen (h : p.Confined P L)
    (looser : ∀ action, P action → P' action) : p.Confined P' L := by
  induction h with
  | ret result => exact .ret result
  | act may _ ih => exact .act (looser _ may) ih

/-- A confined program follows the discipline of its confinement. -/
theorem Confined.follows (h : p.Confined P L) (past : List (Event Resp)) :
    p.Follows Can (fun _ action => P action) (fun _ value => L value) past := by
  induction h generalizing past with
  | ret result => exact .ret result
  | act may _ ih => exact .act may fun answer _ => ih answer _

/-- What is left of a confined program is confined. -/
theorem Confined.advances {State Choice : Type}
    {exec : State → (action : Act) → Choice → Option (State × Resp action)} {s t : State}
    {q : Prog Act Resp α} (h : p.Confined P L) (run : Advances exec p s q t) : q.Confined P L := by
  induction run with
  | here => exact h
  | step done _ ih =>
    obtain _ | ⟨-, confined⟩ := h
    exact ih (confined _)

/-- A confined program whose actions are all possible comes to an end. -/
theorem Confined.eval {State : Type} {exec : State → (action : Act) → Option (State × Resp action)}
    (h : p.Confined P L)
    (possible : ∀ s action, P action → exec s action ≠ none) (s : State) :
    ∃ s' value, p.eval exec s = some (s', value) := by
  induction h generalizing s with
  | @ret value result => exact ⟨s, value, rfl⟩
  | @act action next may _ ih =>
    cases done : exec s action with
    | none => exact absurd done (possible s action may)
    | some after =>
      obtain ⟨s', value, rest⟩ := ih after.2 after.1
      refine ⟨s', value, ?_⟩
      rw [Prog.eval, done]
      exact rest

/-- What a run of a confined program does and returns. -/
theorem Confined.runs (h : p.Confined P L)
    (run : Runs Can p past now value) :
    L value ∧ ∀ event ∈ now, event ∈ past ∨ P event.1 := by
  obtain ⟨result, taken⟩ := (h.follows past).runs run
  exact ⟨result, fun event member => (taken event member).imp_right fun ⟨_, _, may⟩ => may⟩

theorem Fails.bind {p : ExceptT ε (Prog Act Resp) α} {next : α → ExceptT ε (Prog Act Resp) β}
    (h : Fails P E p)
    (cont : ∀ value, Fails P E (next value)) : Fails P E (p >>= next) := by
  refine Confined.bind h fun outcome fails => ?_
  cases outcome with
  | error error =>
    refine .ret fun error' same => ?_
    cases same
    exact fails error rfl
  | ok value => exact cont value

theorem fails_pure : Fails P E (pure value : ExceptT ε (Prog Act Resp) α) :=
  .ret nofun

theorem fails_throw {error : ε} (h : E error) :
    Fails P E (throw error : ExceptT ε (Prog Act Resp) α) :=
  .ret fun _ same => Except.error.inj same ▸ h

/-- One action. -/
theorem fails_perform (may : P action) :
    Fails P E (ExceptT.lift (perform action) : ExceptT ε (Prog Act Resp) (Resp action)) :=
  .act may fun _ => .ret nofun

end Fails

end Prog

/-! ## Runs with their histories -/

section Traced

variable {Act : Type} {Resp : Act → Type} {State Tid Choice Call Result : Type} [DecidableEq Tid]

/-- A run, with what every thread has done and been answered since its call began. -/
inductive Traced (M : Machine Act Resp State Tid Choice Call Result)
    (allowed : Config Act Resp State Tid Call Result → Label Tid Choice Call → Prop)
    (first : Config Act Resp State Tid Call Result) :
    (Tid → List (Event Resp)) → Config Act Resp State Tid Call Result → Prop
  | refl : Traced M allowed first (fun _ => []) first
  | start {pasts : Tid → List (Event Resp)} {mid : Config Act Resp State Tid Call Result}
      {label : Label Tid Choice Call} {tid : Tid} {origin call : Call}
      (before : Traced M allowed first pasts mid) (permitted : allowed mid label)
      (stepped : M.step mid label =
        some ⟨mid.shared, Function.update mid.threads tid (some ⟨origin, call, M.body call⟩)⟩) :
      Traced M allowed first (Function.update pasts tid [])
        ⟨mid.shared, Function.update mid.threads tid (some ⟨origin, call, M.body call⟩)⟩
  | act {pasts : Tid → List (Event Resp)} {mid : Config Act Resp State Tid Call Result}
      {tid : Tid} {choice : Choice} {thread : Thread Act Resp Call Result} {action : Act}
      {rest : Resp action → Prog Act Resp (Call ⊕ Result)} {shared : State} {answer : Resp action}
      (before : Traced M allowed first pasts mid) (permitted : allowed mid (.run tid choice))
      (present : mid.threads tid = some thread) (atAction : thread.rest = .act action rest)
      (done : M.exec tid mid.shared action choice = some (shared, answer)) :
      Traced M allowed first (Function.update pasts tid (⟨action, answer⟩ :: pasts tid))
        ⟨shared, Function.update mid.threads tid
          (some ⟨thread.origin, thread.current, rest answer⟩)⟩

variable {M : Machine Act Resp State Tid Choice Call Result}
variable {allowed allowed' : Config Act Resp State Tid Call Result → Label Tid Choice Call → Prop}
variable {first last : Config Act Resp State Tid Call Result}

theorem Traced.mono {pasts : Tid → List (Event Resp)} (h : Traced M allowed first pasts last)
    (weaker : ∀ cfg label, allowed cfg label → allowed' cfg label) :
    Traced M allowed' first pasts last := by
  induction h with
  | refl => exact .refl
  | start _ permitted stepped ih => exact .start ih (weaker _ _ permitted) stepped
  | act _ permitted present atAction done ih => exact .act ih (weaker _ _ permitted) present atAction done

/-- Every run has its histories. -/
theorem Reaches.traced (h : Reaches M allowed first last) : ∃ pasts, Traced M allowed first pasts last := by
  induction h with
  | refl => exact ⟨_, .refl⟩
  | tail _ permitted stepped ih =>
    obtain ⟨pasts, before⟩ := ih
    rcases M.step_cases stepped with
      ⟨tid, call, rfl, -, rfl⟩ | ⟨tid, choice, thread, call, rfl, -, -, rfl⟩ |
      ⟨tid, choice, thread, action, rest, shared, answer, rfl, present, atAction, done, rfl⟩
    · exact ⟨_, .start before permitted stepped⟩
    · exact ⟨_, .start before permitted stepped⟩
    · exact ⟨_, .act before permitted present atAction done⟩

end Traced

/-! ## Knowledge in whole runs -/

/-- **What the threads of a machine know.**  Each call follows a discipline in terms of its
own history, and what a history stands for in the shared state survives the steps of this
thread and those of the others, as long as every step is `ok`. -/
structure Knowledge {Act : Type} {Resp : Act → Type} {State Tid Choice Call Result : Type}
    (M : Machine Act Resp State Tid Choice Call Result) where
  /-- The side condition of a step: the next action of every thread, the state, and the
  step itself. -/
  ok : (Tid → Option Act) → State → Tid → Act → Choice → Prop
  /-- Holds of the shared state between actions. -/
  Inv : State → Prop
  /-- What a thread with this history knows about the state. -/
  Knows : Tid → List (Event Resp) → State → Prop
  /-- The answers an action can get. -/
  Can : (action : Act) → Resp action → Prop
  /-- The discipline of a call. -/
  May : Call → List (Event Resp) → Act → Prop
  start : ∀ {tid s}, Inv s → Knows tid [] s
  follows : ∀ call, (M.body call).Follows Can (May call) (fun _ _ => True) []
  own : ∀ {heads s tid call past action choice s' answer}, Inv s → Knows tid past s →
    May call past action → ok heads s tid action choice → M.exec tid s action choice = some (s', answer) →
      Inv s' ∧ Can action answer ∧ Knows tid (⟨action, answer⟩ :: past) s'
  others : ∀ {heads s tid call past action choice s' answer other past'}, Inv s →
    Knows tid past s → May call past action → ok heads s tid action choice →
    M.exec tid s action choice = some (s', answer) → other ≠ tid → heads other ≠ none →
      Knows other past' s → Knows other past' s'

namespace Knowledge

variable {Act : Type} {Resp : Act → Type} {State Tid Choice Call Result : Type}
variable {M : Machine Act Resp State Tid Choice Call Result} (K : Knowledge M)

/-- The steps that meet the side condition. -/
def Allowed (cfg : Config Act Resp State Tid Call Result) : Label Tid Choice Call → Prop
  | .spawn _ _ => True
  | .run tid choice => ∀ action, cfg.heads tid = some action →
    K.ok cfg.heads cfg.shared tid action choice

/-- The invariant of whole configurations: every thread follows its discipline after what it has
done, and knows what that stands for while it has something left to do. -/
structure Holds (pasts : Tid → List (Event Resp)) (cfg : Config Act Resp State Tid Call Result) :
    Prop where
  inv : K.Inv cfg.shared
  threads : ∀ tid thread, cfg.threads tid = some thread →
    thread.rest.Follows K.Can (K.May thread.current) (fun _ _ => True) (pasts tid) ∧
      (thread.rest.head? ≠ none → K.Knows tid (pasts tid) cfg.shared)

variable {pasts : Tid → List (Event Resp)}

/-- What a thread knows before it takes an action. -/
theorem Holds.before {cfg : Config Act Resp State Tid Call Result} (h : K.Holds pasts cfg) {tid : Tid}
    {action : Act} {thread : Thread Act Resp Call Result} (present : cfg.threads tid = some thread)
    (head : thread.rest.head? = some action) :
    K.May thread.current (pasts tid) action ∧ K.Knows tid (pasts tid) cfg.shared := by
  obtain ⟨follows, knows⟩ := h.threads tid thread present
  cases rest : thread.rest with
  | ret =>
    rw [rest] at head
    cases head
  | act action' =>
    rw [rest] at head follows knows
    obtain rfl : action' = action := Option.some.inj head
    obtain _ | ⟨may, -⟩ := follows
    exact ⟨may, knows (by simp [Prog.head?])⟩

variable [DecidableEq Tid] {first last : Config Act Resp State Tid Call Result}

/-- **Adequacy.**  Along every run whose steps meet the side condition, the invariant holds
and every thread knows what its history stands for. -/
theorem traced (h : Traced M K.Allowed first pasts last) (inv : K.Inv first.shared)
    (idle : ∀ tid, first.threads tid = none) : K.Holds pasts last := by
  induction h with
  | refl =>
    refine ⟨inv, fun tid thread present => ?_⟩
    rw [idle tid] at present
    cases present
  | start _ _ _ ih =>
    refine ⟨ih.inv, fun other running there => ?_⟩
    rcases update_eq_some there with ⟨rfl, rfl⟩ | ⟨apart, there⟩
    · rw [Function.update_self]
      exact ⟨K.follows _, fun _ => K.start ih.inv⟩
    · rw [Function.update_of_ne apart]
      exact ih.threads other running there
  | @act pasts mid tid choice thread action rest shared answer _ permitted present atAction done ih =>
    obtain ⟨follows, knows⟩ := ih.threads tid thread present
    rw [atAction] at follows knows
    obtain _ | ⟨may, after⟩ := follows
    have known := knows (by simp [Prog.head?])
    have met := permitted action (by simp [Config.heads, present, atAction])
    obtain ⟨inv, can, learnt⟩ := K.own ih.inv known may met done
    refine ⟨inv, fun other running there => ?_⟩
    rcases update_eq_some there with ⟨rfl, rfl⟩ | ⟨apart, there⟩
    · rw [Function.update_self]
      exact ⟨after answer can, fun _ => learnt⟩
    · rw [Function.update_of_ne apart]
      obtain ⟨follows', knows'⟩ := ih.threads other running there
      refine ⟨follows', fun busy => ?_⟩
      refine K.others ih.inv known may met done apart ?_ (knows' busy)
      simpa [Config.heads, there] using busy

theorem reaches (h : Reaches M K.Allowed first last) (inv : K.Inv first.shared)
    (idle : ∀ tid, first.threads tid = none) : ∃ pasts, K.Holds pasts last :=
  h.traced.imp fun _ traced => K.traced traced inv idle

end Knowledge

namespace Contract

variable {Act : Type} {Resp : Act → Type} {State Tid Choice Call Result : Type}
variable {M : Machine Act Resp State Tid Choice Call Result} {C : Contract M}
variable {α : Type} {tid : Tid}

/-- **From knowledge to obligations.**  Answers stand for facts (`Fact`) that hold
when they are given and stay; the facts a discipline asks for are enough for what
its actions owe. -/
theorem Obeys.of_follows (Fact : Event Resp → State → Prop)
    {Can : (action : Act) → Resp action → Prop} {May : List (Event Resp) → Act → Prop}
    {Q : List (Event Resp) → α → Prop} {R : α → State → Prop}
    (stable : ∀ {event s s'}, C.Rel s s' → Fact event s → Fact event s')
    (learn : ∀ {heads s action choice s' answer}, C.Inv s → C.Pre tid action s →
      C.ok heads s tid action choice → M.exec tid s action choice = some (s', answer) →
      Can action answer ∧ Fact ⟨action, answer⟩ s')
    (owed : ∀ {past action s}, C.Inv s → (∀ event ∈ past, Fact event s) → May past action →
      C.Pre tid action s)
    (ends : ∀ {past value s}, C.Inv s → (∀ event ∈ past, Fact event s) → Q past value → R value s)
    {p : Prog Act Resp α} {past : List (Event Resp)} {s : State}
    (h : p.Follows Can May Q past) (known : ∀ event ∈ past, Fact event s) : C.Obeys tid R p s := by
  induction h generalizing s with
  | ret result =>
    exact fun s' moved _ inv => ends inv (fun event member => stable moved (known event member))
      result
  | @act action next past may _ ih =>
    intro s' moved _ inv
    have known' : ∀ event ∈ past, Fact event s' := fun event member =>
      stable moved (known event member)
    have pre := owed inv known' may
    refine ⟨pre, fun heads choice s'' answer met done => ?_⟩
    obtain ⟨can, fact⟩ := learn inv pre met done
    obtain ⟨-, evolved, -⟩ := C.sound inv met pre done
    refine ih answer can ?_
    intro event member
    rcases List.mem_cons.mp member with rfl | earlier
    · exact fact
    · exact stable evolved (known' event earlier)

/-- **A fact that lasts through a part of a program.**  Where neither this thread's
actions of `P` undo `N` nor the others do while it stands before one of them, `N` still
holds when a part confined to `P` is over. -/
theorem Obeys.through {β : Type} {N : State → Prop} {P : Act → Prop} {L : α → Prop}
    {Q Q' : β → State → Prop}
    (others : ∀ {action s s'}, P action → C.Stay tid (some action) s s' → N s → N s')
    (own : ∀ {heads s action choice s' answer}, P action → C.Inv s → C.Pre tid action s →
      C.ok heads s tid action choice → M.exec tid s action choice = some (s', answer) →
      N s → N s')
    {p : Prog Act Resp α} {next : α → Prog Act Resp β} {s : State} (confined : p.Confined P L)
    (h : C.Obeys tid Q (p >>= next) s) (inv : C.Inv s) (now : N s)
    (cont : ∀ value s', L value → C.Inv s' → N s' → C.Obeys tid Q (next value) s' →
      C.Obeys tid Q' (next value) s') :
    C.Obeys tid Q' (p >>= next) s := by
  induction confined generalizing s with
  | ret result => exact cont _ s result inv now h
  | act may _ ih =>
    intro s' moved stayed inv'
    obtain ⟨pre, after⟩ := h s' moved stayed inv'
    refine ⟨pre, fun heads choice s'' answer met done => ?_⟩
    have kept := own may inv' pre met done (others may stayed now)
    exact ih answer (after heads choice s'' answer met done) (C.sound inv' met pre done).1 kept

/-! ## Refining a contract -/

/-- What is added to a contract: a further side condition, invariant and rely, and
how one action keeps them, given what the contract already provides. -/
structure Refinement (C : Contract M) where
  ok : (Tid → Option Act) → State → Tid → Act → Choice → Prop
  Inv : State → Prop
  Rel : State → State → Prop
  Stay : Tid → Option Act → State → State → Prop
  refl : ∀ s, Rel s s
  trans : ∀ {a b c}, Rel a b → Rel b c → Rel a c
  stay_refl : ∀ tid head s, Stay tid head s s
  stay_trans : ∀ {tid head a b c}, Stay tid head a b → Stay tid head b c → Stay tid head a c
  sound : ∀ {heads tid s action choice s' answer}, C.Inv s → Inv s →
    C.ok heads s tid action choice → ok heads s tid action choice → C.Pre tid action s →
    M.exec tid s action choice = some (s', answer) →
      Inv s' ∧ Rel s s' ∧ ∀ other, other ≠ tid → Stay other (heads other) s s'

/-- The refined contract.  Its actions owe what they owed before. -/
def refine (C : Contract M) (E : C.Refinement) : Contract M where
  ok heads s tid action choice := C.ok heads s tid action choice ∧ E.ok heads s tid action choice
  Inv s := C.Inv s ∧ E.Inv s
  Rel s s' := C.Rel s s' ∧ E.Rel s s'
  Stay tid head s s' := C.Stay tid head s s' ∧ E.Stay tid head s s'
  Pre := C.Pre
  refl s := ⟨C.refl s, E.refl s⟩
  trans h h' := ⟨C.trans h.1 h'.1, E.trans h.2 h'.2⟩
  stay_refl tid head s := ⟨C.stay_refl tid head s, E.stay_refl tid head s⟩
  stay_trans h h' := ⟨C.stay_trans h.1 h'.1, E.stay_trans h.2 h'.2⟩
  sound inv met pre done := by
    obtain ⟨inv', evolved, stayed⟩ := C.sound inv.1 met.1 pre done
    obtain ⟨more, evolved', stayed'⟩ := E.sound inv.1 inv.2 met.1 met.2 pre done
    exact ⟨⟨inv', more⟩, ⟨evolved, evolved'⟩,
      fun other apart => ⟨stayed other apart, stayed' other apart⟩⟩

/-- What has happened since a given state: the state has only evolved from it. -/
def Refinement.since (C : Contract M) (base : State) : C.Refinement where
  ok _ _ _ _ _ := True
  Inv s := C.Rel base s
  Rel _ _ := True
  Stay _ _ _ _ := True
  refl _ := trivial
  trans _ _ := trivial
  stay_refl _ _ _ := trivial
  stay_trans _ _ := trivial
  sound inv past met _ pre done :=
    ⟨C.trans past (C.sound inv met pre done).2.1, trivial, fun _ _ => trivial⟩

/-- A program that obeyed still does. -/
theorem Obeys.refine {E : C.Refinement} {Q : α → State → Prop} {p : Prog Act Resp α} {s : State}
    (h : C.Obeys tid Q p s) : (C.refine E).Obeys tid Q p s := by
  induction p generalizing s with
  | ret => exact fun s' moved stayed inv => h s' moved.1 stayed.1 inv.1
  | act action next ih =>
    intro s' moved stayed inv
    obtain ⟨pre, after⟩ := h s' moved.1 stayed.1 inv.1
    exact ⟨pre, fun heads choice s'' answer met done =>
      ih answer (after heads choice s'' answer met.1 done)⟩

/-- Calls keep their promises under a refined contract. -/
def Calls.refine (K : C.Calls) (E : C.Refinement) : (C.refine E).Calls where
  Made := K.Made
  Ready := K.Ready
  Post := K.Post
  start made inv := K.start made inv.1
  body ready inv := (K.body ready inv.1).refine

/-- Calls that promise more.  What is added has to hold of every call that may be made,
and each body has to keep it, given that it obeys. -/
def Calls.extend (K : C.Calls) (Also : Tid → Call → Call → State → Prop)
    (Yet : Tid → Call → Result → State → Prop)
    (start : ∀ {tid call s}, K.Made tid call → C.Inv s → Also tid call call s)
    (body : ∀ {tid origin current s}, K.Ready tid origin current s → Also tid origin current s →
      C.Inv s → C.Obeys tid (K.Ends tid origin) (M.body current) s →
      C.Obeys tid (fun outcome s' => K.Ends tid origin outcome s' ∧
        outcome.elim (fun call => Also tid origin call s') fun result => Yet tid origin result s')
        (M.body current) s) : C.Calls where
  Made := K.Made
  Ready tid origin current s := K.Ready tid origin current s ∧ Also tid origin current s
  Post tid origin result s := K.Post tid origin result s ∧ Yet tid origin result s
  start made inv := ⟨K.start made inv, start made inv⟩
  body ready inv := by
    refine (body ready.1 ready.2 inv (K.body ready.1 inv)).weaken fun outcome s' _ ends => ?_
    cases outcome with
    | inl | inr => exact ends

end Contract

end Interleaving
