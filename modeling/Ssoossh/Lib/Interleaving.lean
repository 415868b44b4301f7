import Mathlib.Logic.Function.Basic

/-!
# Interleaved programs of atomic actions

A service is a set of calls that run at the same time against one shared state.
Each call is a **finite tree of atomic actions** (`Prog`); a loop is a call that
ends by naming the call it continues as, so no fuel appears anywhere.  A
`Machine` says what an action does to the shared state and which tree a call
runs, a `Config` is a shared state with one tree per running thread, and a step
either starts a call or lets one thread take its next action.

Nothing is assumed about the scheduler: `Reaches` quantifies over every order of
steps, and over every answer the environment may give to an action, which is
what the `Choice` argument of `Machine.exec` is for.

## The proof rule

An invariant of such a system is proved one action at a time with a `Contract`:

* `Inv` holds of the shared state between any two actions;
* `Rel` is the only way the shared state ever evolves, a preorder, so a fact
  that `Rel` keeps is a fact a thread may rely on across interference;
* `Stay` is what the *other* threads may do while a thread stands before its
  next action;
* `Pre` is what a thread owes before it takes an action;
* `sound` is the one obligation on the machine.

`Contract.Obeys` says that a tree owes no more than it has established, however
the other threads move in between; `Calls.reaches` is adequacy: if every call
obeys, every reachable state satisfies `Inv` and every finished call satisfies
its postcondition.

A `Contract` may also carry a side condition `ok` on the step taken: on the state
before it, on the environment's answer, and on where the other threads stand.
Its theorems then speak about the runs all of whose steps meet `ok`, which is how
a property that only some schedules have is stated.
-/

namespace Interleaving

universe u v w

/-! ## Programs -/

/-- A program: return a value, or take an atomic action and continue with its
answer. -/
inductive Prog (Act : Type u) (Resp : Act → Type v) (α : Type w) : Type (max u v w)
  | ret (value : α)
  | act (action : Act) (next : Resp action → Prog Act Resp α)

namespace Prog

variable {Act : Type u} {Resp : Act → Type v} {α β γ : Type w}

/-- Sequencing grafts the continuation onto every leaf. -/
def bind : Prog Act Resp α → (α → Prog Act Resp β) → Prog Act Resp β
  | .ret value, next => next value
  | .act action rest, next => .act action fun answer => (rest answer).bind next

instance : Monad (Prog Act Resp) where
  pure := .ret
  bind := bind

/-- One action, whose answer is the value returned. -/
def perform (action : Act) : Prog Act Resp (Resp action) := .act action .ret

@[simp] theorem pure_eq (value : α) : (pure value : Prog Act Resp α) = .ret value := rfl

@[simp] theorem ret_bind (value : α) (next : α → Prog Act Resp β) :
    (Prog.ret value >>= next) = next value := rfl

@[simp] theorem act_bind (action : Act) (rest : Resp action → Prog Act Resp α)
    (next : α → Prog Act Resp β) :
    (Prog.act action rest >>= next) = .act action fun answer => rest answer >>= next := rfl

theorem bind_assoc (p : Prog Act Resp α) (next : α → Prog Act Resp β) (last : β → Prog Act Resp γ) :
    ((p >>= next) >>= last) = p >>= fun value => next value >>= last := by
  induction p with
  | ret => rfl
  | act action rest ih =>
    simp only [act_bind]
    congr 1
    funext answer
    exact ih answer

/-- The action a program takes next, if it has not returned. -/
def head? : Prog Act Resp α → Option Act
  | .ret _ => none
  | .act action _ => some action

@[simp] theorem head?_ret (value : α) :
    (Prog.ret value : Prog Act Resp α).head? = none := rfl

@[simp] theorem head?_act (action : Act) (next : Resp action → Prog Act Resp α) :
    (Prog.act action next).head? = some action := rfl

end Prog

/-! ## Machines and configurations -/

variable {Act : Type} {Resp : Act → Type} {State Tid Choice Call Result : Type}

/-- What the actions do and what the calls run.

`exec` is given the thread that acts and the environment's `Choice`: which
answer an action gets when several are possible (a clock reading, a fresh
identifier, a failure).  It is `none` where that answer is impossible in that
state.  `body` ends in `Sum.inl` when the call continues as another call, and in
`Sum.inr` when it is over. -/
structure Machine (Act : Type) (Resp : Act → Type)
    (State Tid Choice Call Result : Type) where
  exec : Tid → State → (action : Act) → Choice → Option (State × Resp action)
  body : Call → Prog Act Resp (Call ⊕ Result)

/-- A running call: the call that was made, the call its loop has reached, and
what is left of that one. -/
structure Thread (Act : Type) (Resp : Act → Type) (Call Result : Type) where
  origin : Call
  current : Call
  rest : Prog Act Resp (Call ⊕ Result)

/-- A shared state and the threads over it.  A finished thread stays, holding
its result. -/
structure Config (Act : Type) (Resp : Act → Type)
    (State Tid Call Result : Type) where
  shared : State
  threads : Tid → Option (Thread Act Resp Call Result)

/-- What the scheduler does next: start a call on a free thread, or let a thread
take one step with the environment's answer. -/
inductive Label (Tid Choice Call : Type)
  | spawn (tid : Tid) (call : Call)
  | run (tid : Tid) (choice : Choice)

namespace Machine

variable [DecidableEq Tid]
variable (M : Machine Act Resp State Tid Choice Call Result)

/-- One step of one thread. -/
def runThread (cfg : Config Act Resp State Tid Call Result) (tid : Tid)
    (choice : Choice) (thread : Thread Act Resp Call Result) :
    Option (Config Act Resp State Tid Call Result) :=
  match thread.rest with
  | .ret (.inl call) =>
    some { cfg with
      threads := Function.update cfg.threads tid
        (some ⟨thread.origin, call, M.body call⟩) }
  | .ret (.inr _) => none
  | .act action next =>
    match M.exec tid cfg.shared action choice with
    | none => none
    | some (shared, answer) =>
      some ⟨shared, Function.update cfg.threads tid
        (some ⟨thread.origin, thread.current, next answer⟩)⟩

/-- One step of the system. -/
def step (cfg : Config Act Resp State Tid Call Result) :
    Label Tid Choice Call → Option (Config Act Resp State Tid Call Result)
  | .spawn tid call =>
    match cfg.threads tid with
    | some _ => none
    | none =>
      some { cfg with
        threads := Function.update cfg.threads tid (some ⟨call, call, M.body call⟩) }
  | .run tid choice =>
    match cfg.threads tid with
    | none => none
    | some thread => M.runThread cfg tid choice thread

/-- Run a whole schedule. -/
def runLabels (cfg : Config Act Resp State Tid Call Result) :
    List (Label Tid Choice Call) → Option (Config Act Resp State Tid Call Result)
  | [] => some cfg
  | label :: labels =>
    match M.step cfg label with
    | none => none
    | some next => runLabels next labels

/-- Run a schedule, as long as every step passes a check in the configuration before it. -/
def runChecked (check : Config Act Resp State Tid Call Result → Label Tid Choice Call → Bool)
    (cfg : Config Act Resp State Tid Call Result) :
    List (Label Tid Choice Call) → Option (Config Act Resp State Tid Call Result)
  | [] => some cfg
  | label :: labels =>
    if check cfg label then
      match M.step cfg label with
      | none => none
      | some next => runChecked check next labels
    else none

/-- **What one step can do**, once for every proof about steps: a call starts, a
loop goes round, or one thread takes one action. -/
theorem step_cases {cfg next : Config Act Resp State Tid Call Result}
    {label : Label Tid Choice Call} (h : M.step cfg label = some next) :
    (∃ tid call, label = .spawn tid call ∧ cfg.threads tid = none ∧
      next = ⟨cfg.shared, Function.update cfg.threads tid
        (some ⟨call, call, M.body call⟩)⟩) ∨
    (∃ tid choice thread call, label = .run tid choice ∧
      cfg.threads tid = some thread ∧ thread.rest = .ret (.inl call) ∧
      next = ⟨cfg.shared, Function.update cfg.threads tid
        (some ⟨thread.origin, call, M.body call⟩)⟩) ∨
    (∃ tid choice thread action rest shared answer, label = .run tid choice ∧
      cfg.threads tid = some thread ∧ thread.rest = .act action rest ∧
      M.exec tid cfg.shared action choice = some (shared, answer) ∧
      next = ⟨shared, Function.update cfg.threads tid
        (some ⟨thread.origin, thread.current, rest answer⟩)⟩) := by
  cases label with
  | spawn tid call =>
    refine Or.inl ⟨tid, call, rfl, ?_⟩
    cases busy : cfg.threads tid with
    | some => simp [step, busy] at h
    | none =>
      simp only [step, busy, Option.some.injEq] at h
      exact ⟨rfl, h.symm⟩
  | run tid choice =>
    cases present : cfg.threads tid with
    | none => simp [step, present] at h
    | some thread =>
      simp only [step, present] at h
      unfold runThread at h
      cases rest : thread.rest with
      | ret outcome =>
        cases outcome with
        | inl call =>
          simp only [rest, Option.some.injEq] at h
          exact Or.inr (Or.inl ⟨tid, choice, thread, call, rfl, present, rest, h.symm⟩)
        | inr => simp [rest] at h
      | act action more =>
        rw [rest] at h
        cases done : M.exec tid cfg.shared action choice with
        | none => simp [done] at h
        | some pair =>
          obtain ⟨shared, answer⟩ := pair
          simp only [done, Option.some.injEq] at h
          exact Or.inr (Or.inr ⟨tid, choice, thread, action, more, shared, answer,
            rfl, present, rest, done, h.symm⟩)

end Machine

/-! ## Runs -/

/-- `Reaches M allowed first last`: some sequence of steps, each one `allowed` in
the configuration before it, leads from `first` to `last`. -/
inductive Reaches [DecidableEq Tid] (M : Machine Act Resp State Tid Choice Call Result)
    (allowed : Config Act Resp State Tid Call Result → Label Tid Choice Call → Prop)
    (first : Config Act Resp State Tid Call Result) :
    Config Act Resp State Tid Call Result → Prop
  | refl : Reaches M allowed first first
  | tail {mid last : Config Act Resp State Tid Call Result} {label : Label Tid Choice Call} :
      Reaches M allowed first mid → allowed mid label → M.step mid label = some last →
        Reaches M allowed first last

namespace Reaches

variable [DecidableEq Tid] {M : Machine Act Resp State Tid Choice Call Result}
variable {allowed allowed' : Config Act Resp State Tid Call Result →
  Label Tid Choice Call → Prop}
variable {first mid last : Config Act Resp State Tid Call Result}

theorem trans (h₁ : Reaches M allowed first mid) (h₂ : Reaches M allowed mid last) :
    Reaches M allowed first last := by
  induction h₂ with
  | refl => exact h₁
  | tail _ permitted stepped ih => exact .tail ih permitted stepped

/-- A run that meets a condition meets every weaker one. -/
theorem mono (weaker : ∀ cfg label, allowed cfg label → allowed' cfg label)
    (h : Reaches M allowed first last) : Reaches M allowed' first last := by
  induction h with
  | refl => exact .refl
  | tail _ permitted stepped ih => exact .tail ih (weaker _ _ permitted) stepped

/-- **The invariant rule.**  What holds at the start and survives every allowed
step holds wherever the run goes. -/
theorem invariant {I : Config Act Resp State Tid Call Result → Prop}
    (h : Reaches M allowed first last) (start : I first)
    (keep : ∀ {cfg next label}, I cfg → allowed cfg label → M.step cfg label = some next →
      I next) : I last := by
  induction h with
  | refl => exact start
  | tail _ permitted stepped ih => exact keep ih permitted stepped

/-- A schedule that passes its checks is a run. -/
theorem of_runChecked {check : Config Act Resp State Tid Call Result → Label Tid Choice Call → Bool}
    (permitted : ∀ cfg label, check cfg label = true → allowed cfg label)
    (labels : List (Label Tid Choice Call))
    (h : M.runChecked check first labels = some last) : Reaches M allowed first last := by
  induction labels generalizing first with
  | nil =>
    rw [Machine.runChecked, Option.some.injEq] at h
    exact h ▸ .refl
  | cons label labels ih =>
    rw [Machine.runChecked] at h
    by_cases passed : check first label = true
    · rw [if_pos passed] at h
      cases stepped : M.step first label with
      | none => simp [stepped] at h
      | some next =>
        rw [stepped] at h
        have now : Reaches M allowed first next :=
          .tail .refl (permitted first label passed) stepped
        exact now.trans (ih h)
    · simp [passed] at h

/-- A schedule that runs to the end is a run. -/
theorem of_runLabels (labels : List (Label Tid Choice Call))
    (permitted : ∀ label ∈ labels, ∀ cfg, allowed cfg label)
    (h : M.runLabels first labels = some last) : Reaches M allowed first last := by
  induction labels generalizing first with
  | nil =>
    simp only [Machine.runLabels, Option.some.injEq] at h
    exact h ▸ .refl
  | cons label labels ih =>
    cases stepped : M.step first label with
    | none => simp [Machine.runLabels, stepped] at h
    | some next =>
      simp only [Machine.runLabels, stepped] at h
      have now : Reaches M allowed first next :=
        .tail .refl (permitted label List.mem_cons_self first) stepped
      exact now.trans (ih (fun later member => permitted later (.tail _ member)) h)

end Reaches

/-! ## Contracts: rely and guarantee -/

/-- The next action of every thread, `none` where a thread has none. -/
def Config.heads (cfg : Config Act Resp State Tid Call Result) (tid : Tid) : Option Act :=
  (cfg.threads tid).bind fun thread => thread.rest.head?

/-- Looking up a thread after one of them moved. -/
theorem update_eq_some [DecidableEq Tid] {threads : Tid → Option (Thread Act Resp Call Result)}
    {tid other : Tid} {moved found : Thread Act Resp Call Result}
    (h : Function.update threads tid (some moved) other = some found) :
    other = tid ∧ found = moved ∨ other ≠ tid ∧ threads other = some found := by
  by_cases same : other = tid
  · subst same
    rw [Function.update_self, Option.some.injEq] at h
    exact Or.inl ⟨rfl, h.symm⟩
  · rw [Function.update_of_ne same] at h
    exact Or.inr ⟨same, h⟩

/-- A call is over, with this result. -/
def Config.Returned (cfg : Config Act Resp State Tid Call Result) (tid : Tid) (origin : Call)
    (result : Result) : Prop :=
  ∃ thread, cfg.threads tid = some thread ∧ thread.origin = origin ∧
    thread.rest = .ret (.inr result)

/-- The obligations of a shared-state invariant, one action at a time. -/
structure Contract (M : Machine Act Resp State Tid Choice Call Result) where
  /-- The side condition a step has to meet: the next action of every thread, the
  state, and the step itself. -/
  ok : (Tid → Option Act) → State → Tid → Act → Choice → Prop
  /-- Holds of the shared state between actions. -/
  Inv : State → Prop
  /-- How the shared state evolves. -/
  Rel : State → State → Prop
  /-- How the other threads may change the state while this one stands before
  the given action. -/
  Stay : Tid → Option Act → State → State → Prop
  /-- What a thread owes before an action. -/
  Pre : Tid → Act → State → Prop
  refl : ∀ s, Rel s s
  trans : ∀ {a b c}, Rel a b → Rel b c → Rel a c
  stay_refl : ∀ tid head s, Stay tid head s s
  stay_trans : ∀ {tid head a b c}, Stay tid head a b → Stay tid head b c → Stay tid head a c
  sound : ∀ {heads tid s action choice s' answer}, Inv s → ok heads s tid action choice →
    Pre tid action s → M.exec tid s action choice = some (s', answer) →
      Inv s' ∧ Rel s s' ∧ ∀ other, other ≠ tid → Stay other (heads other) s s'

namespace Contract

variable {M : Machine Act Resp State Tid Choice Call Result} (C : Contract M)
variable {α β ε : Type}

/-- `C.Obeys tid Q p s`: run from `s` on thread `tid`, with other threads moving
the state before every action and before the result is read, the program `p`
meets the precondition of each action it takes and its result satisfies `Q`. -/
def Obeys (tid : Tid) (Q : α → State → Prop) : Prog Act Resp α → State → Prop
  | .ret value, s => ∀ s', C.Rel s s' → C.Stay tid none s s' → C.Inv s' → Q value s'
  | .act action next, s => ∀ s', C.Rel s s' → C.Stay tid (some action) s s' → C.Inv s' →
    C.Pre tid action s' ∧
      ∀ heads choice s'' answer, C.ok heads s' tid action choice →
        M.exec tid s' action choice = some (s'', answer) →
        Obeys tid Q (next answer) s''

variable {C} {tid : Tid} {Q : α → State → Prop} {R : β → State → Prop}

/-- Interference before a program starts changes nothing. -/
theorem Obeys.mono {p : Prog Act Resp α} {s s' : State} (h : C.Obeys tid Q p s)
    (moved : C.Rel s s') (stayed : C.Stay tid p.head? s s') : C.Obeys tid Q p s' := by
  cases p with
  | ret | act =>
    intro s'' further kept inv
    exact h s'' (C.trans moved further) (C.stay_trans stayed kept) inv

/-- A weaker result may be promised. -/
theorem Obeys.weaken {Q' : α → State → Prop} {p : Prog Act Resp α} {s : State}
    (h : C.Obeys tid Q p s) (weaker : ∀ value s', C.Inv s' → Q value s' → Q' value s') :
    C.Obeys tid Q' p s := by
  induction p generalizing s with
  | ret value =>
    exact fun s' moved stayed inv => weaker value s' inv (h s' moved stayed inv)
  | act action next ih =>
    intro s' moved stayed inv
    obtain ⟨pre, after⟩ := h s' moved stayed inv
    exact ⟨pre, fun heads choice s'' answer met done =>
      ih answer (after heads choice s'' answer met done)⟩

/-- The specification of the calls of a machine: when a loop may be entered on
behalf of a call, and what a finished call promises. -/
structure Calls (C : Contract M) where
  /-- The calls that may be made. -/
  Made : Tid → Call → Prop
  /-- `Ready tid origin current s`: the call `origin` may continue as `current`. -/
  Ready : Tid → Call → Call → State → Prop
  /-- What `origin` promises when it returns. -/
  Post : Tid → Call → Result → State → Prop
  start : ∀ {tid call s}, Made tid call → C.Inv s → Ready tid call call s
  body : ∀ {tid origin current s}, Ready tid origin current s → C.Inv s →
    C.Obeys tid
      (fun outcome s' => outcome.elim (fun call => Ready tid origin call s')
        fun result => Post tid origin result s')
      (M.body current) s

namespace Calls

variable (K : C.Calls)

/-- What is promised when the body of a loop ends. -/
def Ends (tid : Tid) (origin : Call) (outcome : Call ⊕ Result) (s : State) : Prop :=
  outcome.elim (fun call => K.Ready tid origin call s) fun result => K.Post tid origin result s

/-- The steps the contract speaks about: only the calls it knows are made, and
every action taken meets its side condition. -/
def Allowed (cfg : Config Act Resp State Tid Call Result) : Label Tid Choice Call → Prop
  | .spawn tid call => K.Made tid call
  | .run tid choice => ∀ action, cfg.heads tid = some action →
    C.ok cfg.heads cfg.shared tid action choice

/-- The invariant of whole configurations. -/
structure Holds (base : State) (cfg : Config Act Resp State Tid Call Result) : Prop where
  inv : C.Inv cfg.shared
  evolved : C.Rel base cfg.shared
  threads : ∀ tid thread, cfg.threads tid = some thread →
    C.Obeys tid (K.Ends tid thread.origin) thread.rest cfg.shared

variable [DecidableEq Tid]

variable {cfg : Config Act Resp State Tid Call Result}

/-- One step keeps the invariant of whole configurations. -/
theorem holds_step {base : State} {next : Config Act Resp State Tid Call Result}
    {label : Label Tid Choice Call} (h : K.Holds base cfg) (permitted : K.Allowed cfg label)
    (stepped : M.step cfg label = some next) : K.Holds base next := by
  rcases M.step_cases stepped with
    ⟨tid, call, rfl, -, rfl⟩ | ⟨tid, choice, thread, call, rfl, present, atEnd, rfl⟩ |
    ⟨tid, choice, thread, action, rest, shared, answer, rfl, present, atAction, done, rfl⟩
  · refine ⟨h.inv, h.evolved, fun other running there => ?_⟩
    rcases update_eq_some there with ⟨rfl, rfl⟩ | ⟨-, there⟩
    · exact K.body (K.start permitted h.inv) h.inv
    · exact h.threads other running there
  · refine ⟨h.inv, h.evolved, fun other running there => ?_⟩
    rcases update_eq_some there with ⟨rfl, rfl⟩ | ⟨-, there⟩
    · have owed := h.threads other thread present
      rw [atEnd] at owed
      exact K.body (owed cfg.shared (C.refl _) (C.stay_refl _ _ _) h.inv) h.inv
    · exact h.threads other running there
  · have owed := h.threads tid thread present
    rw [atAction] at owed
    obtain ⟨pre, after⟩ := owed cfg.shared (C.refl _) (C.stay_refl _ _ _) h.inv
    have met := permitted action (by simp [Config.heads, present, atAction])
    obtain ⟨inv, evolved, stayed⟩ := C.sound h.inv met pre done
    refine ⟨inv, C.trans h.evolved evolved, fun other running there => ?_⟩
    rcases update_eq_some there with ⟨rfl, rfl⟩ | ⟨apart, there⟩
    · exact after cfg.heads choice shared answer met done
    · refine (h.threads other running there).mono evolved ?_
      simpa [Config.heads, there] using stayed other apart

/-- **Adequacy.**  Along every run of calls that obey the contract, the invariant
holds, the state has only evolved along `Rel`, and every thread still obeys. -/
theorem reaches {first last : Config Act Resp State Tid Call Result}
    (h : Reaches M K.Allowed first last) (start : K.Holds first.shared first) :
    K.Holds first.shared last :=
  h.invariant (I := K.Holds first.shared) start fun held permitted stepped =>
    K.holds_step held permitted stepped

omit [DecidableEq Tid] in
/-- Before any call is made there is only the invariant to check. -/
theorem holds_idle (inv : C.Inv cfg.shared) (idle : ∀ tid, cfg.threads tid = none) :
    K.Holds cfg.shared cfg := by
  refine ⟨inv, C.refl _, fun tid thread present => ?_⟩
  rw [idle tid] at present
  cases present

omit [DecidableEq Tid] in
/-- A finished call has kept its promise. -/
theorem Holds.post {K : C.Calls} {base : State} (h : K.Holds base cfg) {tid : Tid} {origin : Call}
    {result : Result} (returned : cfg.Returned tid origin result) :
    K.Post tid origin result cfg.shared := by
  obtain ⟨thread, present, rfl, finished⟩ := returned
  have owed := h.threads tid thread present
  rw [finished] at owed
  exact owed cfg.shared (C.refl _) (C.stay_refl _ _ _) h.inv

end Calls

end Contract

end Interleaving
