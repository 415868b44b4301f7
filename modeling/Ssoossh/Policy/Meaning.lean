import Ssoossh.Policy.Condition

/-!
# What a condition means

A configured condition is a formula over an identity's groups and extra claims.
`PolicyCondition.Holds` says what the formula asks, form by form and comparator by
comparator, and mentions nothing of how it is compiled.  **Compiling keeps the
meaning**: what `parseCondition` accepts evaluates to true exactly where the formula
holds (`evaluate_of_parseCondition`).

No comparator takes the absence of a value for a value, so a formula that holds of an
identity still holds when the identity gains groups or claims (`evaluate_mono`).
-/

namespace Ssoossh

open List Option Fallible

/-! ## The formula -/

/-- The value is a number, and the bound is at most it. -/
def ExtraValue.AtLeast (value : ExtraValue) (bound : Float64) : Prop :=
  ∃ low number, bound = .finite low ∧ value.number? = some number ∧ low ≤ number

/-- The value is a number, and the bound is at least it. -/
def ExtraValue.AtMost (value : ExtraValue) (bound : Float64) : Prop :=
  ∃ high number, bound = .finite high ∧ value.number? = some number ∧ number ≤ high

/-- A value meets every comparator a condition names. -/
@[mk_iff]
structure PolicyCondition.Meets (cond : PolicyCondition) (value : ExtraValue) : Prop where
  atLeast : ∀ bound, cond.atLeast = some bound → value.AtLeast bound
  atMost : ∀ bound, cond.atMost = some bound → value.AtMost bound
  exactly : ∀ bound, cond.exactly = some bound → value.AtLeast bound ∧ value.AtMost bound
  equals : ∀ text, cond.equals = some text → value.scalar? = some text
  oneOf : cond.oneOf ≠ [] → ∃ text ∈ cond.oneOf, value.scalar? = some text
  contains : cond.contains ≠ "" → ∃ elements, value.list? = some elements ∧
    cond.contains ∈ elements

namespace PolicyCondition

mutual

/-- **What a condition asks of an identity**: each form that is set is met. -/
def Holds (identity : Identity) : PolicyCondition → Prop
  | ⟨group, claim, atLeast, atMost, exactly, equals, oneOf, contains, allOf, anyOf⟩ =>
    (group ≠ "" → group ∈ identity.groups) ∧
    (claim ≠ "" → ∃ value, identity.extra.get? claim = some value ∧
      Meets ⟨group, claim, atLeast, atMost, exactly, equals, oneOf, contains, allOf, anyOf⟩
        value) ∧
    (allOf ≠ [] → HoldsEvery identity allOf) ∧
    (anyOf ≠ [] → HoldsSome identity anyOf)

/-- Every member of a list holds. -/
def HoldsEvery (identity : Identity) : List PolicyCondition → Prop
  | [] => True
  | cond :: conds => Holds identity cond ∧ HoldsEvery identity conds

/-- Some member of a list holds. -/
def HoldsSome (identity : Identity) : List PolicyCondition → Prop
  | [] => False
  | cond :: conds => Holds identity cond ∨ HoldsSome identity conds

end

theorem holds_iff (identity : Identity) (cond : PolicyCondition) : cond.Holds identity ↔
      (cond.group ≠ "" → cond.group ∈ identity.groups) ∧
      (cond.claim ≠ "" → ∃ value, identity.extra.get? cond.claim = some value ∧
        cond.Meets value) ∧
      (cond.allOf ≠ [] → HoldsEvery identity cond.allOf) ∧
      (cond.anyOf ≠ [] → HoldsSome identity cond.anyOf) := by
  cases cond
  rw [Holds]

/-- A claim value no comparator of a condition can be true of. -/
inductive Unusable (ext : Externals) (cond : PolicyCondition) : Option ExtraValue → Prop
  | missing : Unusable ext cond none
  | emptyScalar : Unusable ext cond (some (scalarExtra ext ""))
  | emptyList : Unusable ext cond (some (.list []))
  | listUnderScalar (elements : List String) (scalar : cond.contains = "") :
      Unusable ext cond (some (.list elements))
  | scalarUnderContains (text : String) (list : cond.contains ≠ "") :
      Unusable ext cond (some (scalarExtra ext text))
  | nonNumber (text : String)
      (numeric : cond.atLeast.isSome ∨ cond.atMost.isSome ∨ cond.exactly.isSome)
      (unreadable : ∀ number, ext.parseFloat text ≠ some (.finite number)) :
      Unusable ext cond (some (scalarExtra ext text))

end PolicyCondition

/-! ## Claim values -/

section Values

variable (ext : Externals)

@[simp] theorem list?_scalarExtra (text : String) : (scalarExtra ext text).list? = none := by
  unfold scalarExtra
  split
  · rfl
  · split <;> rfl

@[simp] theorem scalar?_scalarExtra_empty : (scalarExtra ext "").scalar? = none := rfl

@[simp] theorem number?_scalarExtra_empty : (scalarExtra ext "").number? = none := rfl

theorem number?_scalarExtra_of_unreadable {text : String}
    (unreadable : ∀ number, ext.parseFloat text ≠ some (.finite number)) :
    (scalarExtra ext text).number? = none := by
  unfold scalarExtra
  split
  · rfl
  · split
    · next number reads => exact absurd reads (unreadable number)
    · rfl

end Values

/-! ## What compiling accepts -/

/-- The four forms of a condition `checkCondition` lets through. -/
inductive PolicyCondition.OneForm (cond : PolicyCondition) : Prop
  | group (set : cond.group ≠ "") (claim : cond.claim = "") (allOf : cond.allOf = [])
      (anyOf : cond.anyOf = [])
  | claim (group : cond.group = "") (set : cond.claim ≠ "") (allOf : cond.allOf = [])
      (anyOf : cond.anyOf = [])
  | allOf (group : cond.group = "") (claim : cond.claim = "") (set : cond.allOf ≠ [])
      (anyOf : cond.anyOf = [])
  | anyOf (group : cond.group = "") (claim : cond.claim = "") (allOf : cond.allOf = [])
      (set : cond.anyOf ≠ [])

/-- Of four Booleans exactly one is set. -/
private theorem count_four {a b c d : Bool} (one : [a, b, c, d].count true = 1) :
    (a ∧ !b ∧ !c ∧ !d) ∨ (!a ∧ b ∧ !c ∧ !d) ∨ (!a ∧ !b ∧ c ∧ !d) ∨ (!a ∧ !b ∧ !c ∧ d) := by
  revert one
  cases a <;> cases b <;> cases c <;> cases d <;> decide

variable {cond : PolicyCondition} {ext : Externals}

theorem oneForm_of_checkCondition (accepted : checkCondition ext cond = .ok ()) : cond.OneForm := by
  simp only [checkCondition, checkExactlyOneForm, throw_bind,
    ite_throw_eq_ok] at accepted
  have one := not_not.mp accepted.2.1
  rcases count_four one with form | form | form | form <;>
    simp only [bne_iff_ne, Bool.not_eq_true', bne_eq_false_iff_eq, Bool.not_eq_false',
      List.isEmpty_iff, isEmpty_eq_false_iff] at form
  · exact .group form.1 form.2.1 form.2.2.1 form.2.2.2
  · exact .claim form.1 form.2.1 form.2.2.1 form.2.2.2
  · exact .allOf form.1 form.2.1 form.2.2.1 form.2.2.2
  · exact .anyOf form.1 form.2.1 form.2.2.1 form.2.2.2

/-- The five families of comparators of a condition `parseComparator` lets through. -/
inductive PolicyCondition.OneFamily (cond : PolicyCondition) : Comparator → Prop
  | range (low high : Option Rat) (set : low.isSome ∨ high.isSome)
      (atLeast : cond.atLeast = low.map .finite) (atMost : cond.atMost = high.map .finite)
      (exactly : cond.exactly = none) (equals : cond.equals = none) (oneOf : cond.oneOf = [])
      (contains : cond.contains = "") : OneFamily cond (.range low high)
  | exactly (value : Rat) (atLeast : cond.atLeast = none) (atMost : cond.atMost = none)
      (exactly : cond.exactly = some (.finite value)) (equals : cond.equals = none)
      (oneOf : cond.oneOf = []) (contains : cond.contains = "") :
      OneFamily cond (.range (some value) (some value))
  | equals (text : String) (atLeast : cond.atLeast = none) (atMost : cond.atMost = none)
      (exactly : cond.exactly = none) (equals : cond.equals = some text)
      (oneOf : cond.oneOf = []) (contains : cond.contains = "") :
      OneFamily cond (.equals text)
  | oneOf (atLeast : cond.atLeast = none) (atMost : cond.atMost = none)
      (exactly : cond.exactly = none) (equals : cond.equals = none) (set : cond.oneOf ≠ [])
      (contains : cond.contains = "") : OneFamily cond (.oneOf cond.oneOf)
  | contains (atLeast : cond.atLeast = none) (atMost : cond.atMost = none)
      (exactly : cond.exactly = none) (equals : cond.equals = none) (oneOf : cond.oneOf = [])
      (set : cond.contains ≠ "") : OneFamily cond (.contains cond.contains)

theorem finiteBound_eq_ok {claim : String} {bound : Option Float64}
    {value : Option Rat} : finiteBound ext claim bound = .ok value ↔ bound = value.map .finite := by
  rcases bound with _ | _ | _ | _ <;> cases value <;> simp [finiteBound, eq_comm]

/-- Of five Booleans exactly one is set. -/
private theorem count_five {a b c d e : Bool} (one : [a, b, c, d, e].count true = 1) :
    (a ∧ !b ∧ !c ∧ !d ∧ !e) ∨ (!a ∧ b ∧ !c ∧ !d ∧ !e) ∨ (!a ∧ !b ∧ c ∧ !d ∧ !e) ∨
      (!a ∧ !b ∧ !c ∧ d ∧ !e) ∨ (!a ∧ !b ∧ !c ∧ !d ∧ e) := by
  revert one
  cases a <;> cases b <;> cases c <;> cases d <;> cases e <;> decide

theorem oneFamily_of_parseComparator
    {comparator : Comparator} (accepted : parseComparator ext cond = .ok comparator) :
    cond.OneFamily comparator := by
  simp only [parseComparator, throw_bind, ite_throw_eq_ok] at accepted
  obtain ⟨-, one, accepted⟩ := accepted
  rcases count_five (not_not.mp one) with family | family | family | family | family <;>
    simp only [Bool.or_eq_true, Bool.not_eq_true', Bool.or_eq_false_iff, isSome_eq_false_iff,
      isNone_iff_eq_none, bne_iff_ne, bne_eq_false_iff_eq, Bool.not_eq_false',
      List.isEmpty_iff, isEmpty_eq_false_iff] at family
  · obtain ⟨set, exactly, equals, oneOf, contains⟩ := family
    have range : (cond.atLeast.isSome || cond.atMost.isSome) = true := by simpa using set
    simp only [range, if_true, bind_eq_ok, finiteBound_eq_ok, pure_eq_ok]
      at accepted
    obtain ⟨low, atLeast, high, atMost, rfl⟩ := accepted
    refine .range low high ?_ atLeast atMost exactly equals oneOf contains
    simpa [atLeast, atMost] using set
  · obtain ⟨⟨atLeast, atMost⟩, set, equals, oneOf, contains⟩ := family
    obtain ⟨bound, exactly⟩ := isSome_iff_exists.mp set
    simp only [atLeast, atMost, exactly, isSome_none, Bool.or_self, Bool.false_eq_true,
      if_false, bind_eq_ok, finiteBound_eq_ok, pure_eq_ok] at accepted
    obtain ⟨value, finite, rfl⟩ := accepted
    cases value with
    | none => simp at finite
    | some value =>
      refine .exactly value atLeast atMost ?_ equals oneOf contains
      rw [exactly, finite]
      rfl
  · obtain ⟨⟨atLeast, atMost⟩, exactly, set, oneOf, contains⟩ := family
    obtain ⟨text, equals⟩ := isSome_iff_exists.mp set
    simp only [atLeast, atMost, exactly, equals, isSome_none, Bool.or_self,
      Bool.false_eq_true, if_false, pure_eq_ok] at accepted
    subst accepted
    exact .equals text atLeast atMost exactly equals oneOf contains
  · obtain ⟨⟨atLeast, atMost⟩, exactly, equals, set, contains⟩ := family
    have some : (!cond.oneOf.isEmpty) = true := by simpa using set
    simp only [atLeast, atMost, exactly, equals, some, isSome_none, Bool.or_self,
      Bool.false_eq_true, if_false, if_true, pure_eq_ok] at accepted
    subst accepted
    exact .oneOf atLeast atMost exactly equals set contains
  · obtain ⟨⟨atLeast, atMost⟩, exactly, equals, oneOf, set⟩ := family
    simp only [atLeast, atMost, exactly, equals, oneOf, isSome_none, Bool.or_self,
      Bool.false_eq_true, if_false, isEmpty_nil, Bool.not_true, pure_eq_ok]
      at accepted
    subst accepted
    exact .contains atLeast atMost exactly equals oneOf set

/-! ## Compiling keeps the meaning -/

theorem ExtraValue.atLeast_finite {value : ExtraValue} {low : Rat} :
    value.AtLeast (.finite low) ↔ ∃ x, value.number? = some x ∧ low ≤ x := by
  simp [ExtraValue.AtLeast]

theorem ExtraValue.atMost_finite {value : ExtraValue} {high : Rat} :
    value.AtMost (.finite high) ↔ ∃ x, value.number? = some x ∧ x ≤ high := by
  simp [ExtraValue.AtMost]

theorem ParsedCondition.compare_range {value : ExtraValue} {low high : Option Rat} :
    compare value (.range low high) = true ↔ ∃ x, value.number? = some x ∧
      (∀ l, low = some l → l ≤ x) ∧ ∀ h, high = some h → x ≤ h := by
  cases number : value.number? with
  | none => simp [compare, number]
  | some => simp [compare, number, Option.any_eq_false, Option.all_eq_true]

/-- One comparator compares as the condition says. -/
theorem PolicyCondition.OneFamily.compare_iff {comparator : Comparator}
    (family : cond.OneFamily comparator) (value : ExtraValue) :
    ParsedCondition.compare value comparator = true ↔ cond.Meets value := by
  rw [PolicyCondition.meets_iff]
  cases family with
  | range low high set atLeast atMost exactly equals oneOf contains =>
    simp only [ParsedCondition.compare_range, atLeast, atMost, exactly, equals, oneOf, contains,
      map_eq_some_iff, forall_exists_index, and_imp, forall_apply_eq_imp_iff₂,
      ExtraValue.atLeast_finite, ExtraValue.atMost_finite, reduceCtorEq, IsEmpty.forall_iff,
      implies_true, ne_eq, not_true_eq_false, and_true]
    constructor
    · rintro ⟨x, number, above, below⟩
      exact ⟨fun l isLow => ⟨x, number, above l isLow⟩, fun h isHigh => ⟨x, number, below h isHigh⟩⟩
    · rintro ⟨above, below⟩
      -- one of the two bounds is set, and it says that the value is a number
      have read : ∃ x, value.number? = some x := by
        rcases set with set | set
        · exact (above _ (some_get set).symm).imp fun _ => And.left
        · exact (below _ (some_get set).symm).imp fun _ => And.left
      obtain ⟨x, number⟩ := read
      simp only [number, some.injEq, exists_eq_left'] at above below
      exact ⟨x, number, above, below⟩
  | exactly v atLeast atMost exactly equals oneOf contains =>
    simp only [ParsedCondition.compare_range, atLeast, atMost, exactly, equals, oneOf, contains,
      some.injEq, forall_eq', ExtraValue.atLeast_finite, ExtraValue.atMost_finite, reduceCtorEq,
      IsEmpty.forall_iff, implies_true, ne_eq, not_true_eq_false, and_true, true_and]
    constructor
    · rintro ⟨x, number, above, below⟩
      exact ⟨⟨x, number, above⟩, x, number, below⟩
    · rintro ⟨⟨x, number, above⟩, x', number', below⟩
      cases number.symm.trans number'
      exact ⟨x, number, above, below⟩
  | equals text atLeast atMost exactly equals oneOf contains =>
    simp [ParsedCondition.compare, Option.any_eq_true, atLeast, atMost, exactly, equals, oneOf,
      contains]
  | oneOf atLeast atMost exactly equals set contains =>
    simp [ParsedCondition.compare, Option.any_eq_true, atLeast, atMost, exactly, equals, set,
      contains, and_comm]
  | contains atLeast atMost exactly equals oneOf set =>
    simp [ParsedCondition.compare, Option.any_eq_true, atLeast, atMost, exactly, equals, oneOf, set]

variable {declaredClaims : List String}

section Compiling

variable {parsed : ParsedCondition}

/-- A claim is compiled with one family of comparators. -/
theorem oneFamily_of_parseLeaf (group : cond.group = "")
    (accepted : parseLeaf ext declaredClaims cond = .ok parsed) :
    ∃ comparator, cond.OneFamily comparator ∧
      parsed = .claim cond.claim comparator (cond.format ext) := by
  simp only [parseLeaf, group, bne_self_eq_false, Bool.false_eq_true, if_false,
    throw_bind, ite_throw_eq_ok, bind_eq_ok,
    pure_eq_ok] at accepted
  obtain ⟨-, comparator, family, rfl⟩ := accepted
  exact ⟨comparator, oneFamily_of_parseComparator family, rfl⟩

/-- A group or a claim. -/
theorem evaluate_of_parseLeaf (form : cond.OneForm)
    (allOf : cond.allOf = []) (anyOf : cond.anyOf = [])
    (accepted : parseLeaf ext declaredClaims cond = .ok parsed) (identity : Identity) :
    parsed.evaluate identity = true ↔ cond.Holds identity := by
  rw [PolicyCondition.holds_iff]
  cases form with
  | allOf _ _ set => exact absurd allOf set
  | anyOf _ _ _ set => exact absurd anyOf set
  | group set claim =>
    have given : (cond.group != "") = true := by simpa using set
    simp only [parseLeaf, given, if_true, pure_eq_ok] at accepted
    subst accepted
    rw [ParsedCondition.evaluate]
    simp [set, claim, allOf, anyOf]
  | claim group set =>
    obtain ⟨comparator, family, rfl⟩ := oneFamily_of_parseLeaf group accepted
    have compares := family.compare_iff
    rw [ParsedCondition.evaluate]
    cases captured : identity.extra.get? cond.claim with
    | none => simp [group, set, allOf, anyOf]
    | some => simp [group, set, allOf, anyOf, compares]

/-- Members that keep their meaning make an `all_of` and an `any_of` that keep theirs. -/
theorem evaluate_of_forall₂ {identity : Identity} {conds : List PolicyCondition}
    {children : List ParsedCondition}
    (keep : List.Forall₂ (fun cond child =>
      ParsedCondition.evaluate identity child = true ↔ cond.Holds identity) conds children) :
    (ParsedCondition.evaluateAll identity children = true ↔
      PolicyCondition.HoldsEvery identity conds) ∧
    (ParsedCondition.evaluateAny identity children = true ↔
      PolicyCondition.HoldsSome identity conds) := by
  induction keep with
  | nil => simp [ParsedCondition.evaluateAll, ParsedCondition.evaluateAny,
      PolicyCondition.HoldsEvery, PolicyCondition.HoldsSome]
  | cons first _ ih =>
    rw [ParsedCondition.evaluateAll, PolicyCondition.HoldsEvery, Bool.and_eq_true, first, ih.1,
      ParsedCondition.evaluateAny, PolicyCondition.HoldsSome, Bool.or_eq_true, first, ih.2]
    exact ⟨.rfl, .rfl⟩

/-- A member of a combination is a group or a claim. -/
theorem evaluate_of_parseNested
    (accepted : parseNested ext declaredClaims cond = .ok parsed) (identity : Identity) :
    parsed.evaluate identity = true ↔ cond.Holds identity := by
  simp only [parseNested, throw_bind, ite_throw_eq_ok, bind_eq_ok]
    at accepted
  obtain ⟨_, checked, flat, leaf⟩ := accepted
  simp only [Bool.or_eq_true, Bool.not_eq_true', isEmpty_eq_false_iff, not_or,
    not_not] at flat
  exact evaluate_of_parseLeaf (oneForm_of_checkCondition checked) flat.1 flat.2 leaf identity

/-- **Compiling keeps the meaning.** -/
theorem evaluate_of_parseCondition
    (accepted : parseCondition ext declaredClaims cond = .ok parsed) (identity : Identity) :
    parsed.evaluate identity = true ↔ cond.Holds identity := by
  simp only [parseCondition, bind_eq_ok] at accepted
  obtain ⟨_, checked, accepted⟩ := accepted
  have form := oneForm_of_checkCondition checked
  by_cases any : cond.anyOf = []
  · by_cases all : cond.allOf = []
    · simp only [any, all, isEmpty_nil, Bool.not_true, Bool.false_eq_true, if_false]
        at accepted
      exact evaluate_of_parseLeaf form all any accepted identity
    · have given : (!cond.allOf.isEmpty) = true := by simpa using all
      simp only [any, given, isEmpty_nil, Bool.not_true, Bool.false_eq_true, if_false,
        if_true, bind_eq_ok, pure_eq_ok, mapM_eq_ok] at accepted
      obtain ⟨children, compiled, rfl⟩ := accepted
      have members := (evaluate_of_forall₂
        (compiled.imp fun _ _ nested => evaluate_of_parseNested nested identity)).1
      cases form with
      | group _ _ allOf | claim _ _ allOf => exact absurd allOf all
      | anyOf _ _ _ set => exact absurd any set
      | allOf group claim set =>
        rw [PolicyCondition.holds_iff, ParsedCondition.evaluate, members]
        simp [group, claim, set, any]
  · have given : (!cond.anyOf.isEmpty) = true := by simpa using any
    simp only [given, if_true, bind_eq_ok, pure_eq_ok,
      mapM_eq_ok] at accepted
    obtain ⟨children, compiled, rfl⟩ := accepted
    have members := (evaluate_of_forall₂
      (compiled.imp fun _ _ nested => evaluate_of_parseNested nested identity)).2
    cases form with
    | group _ _ _ anyOf | claim _ _ _ anyOf | allOf _ _ _ anyOf => exact absurd anyOf any
    | anyOf group claim allOf set =>
      rw [PolicyCondition.holds_iff, ParsedCondition.evaluate, members]
      simp [group, claim, allOf, set]

/-- A condition on a claim compiles with one family of comparators. -/
theorem oneFamily_of_parseCondition
    (accepted : parseCondition ext declaredClaims cond = .ok parsed) (named : cond.claim ≠ "") :
    ∃ comparator, cond.OneFamily comparator := by
  simp only [parseCondition, bind_eq_ok] at accepted
  obtain ⟨_, checked, accepted⟩ := accepted
  cases oneForm_of_checkCondition checked with
  | group _ claim | allOf _ claim | anyOf _ claim => exact absurd claim named
  | claim group _ allOf anyOf =>
    simp only [anyOf, allOf, isEmpty_nil, Bool.not_true, Bool.false_eq_true, if_false]
      at accepted
    obtain ⟨comparator, family, -⟩ := oneFamily_of_parseLeaf group accepted
    exact ⟨comparator, family⟩

end Compiling

/-! ## Absence -/

/-- One identity has at least the groups and the claims of another. -/
structure Identity.Extends (larger smaller : Identity) : Prop where
  groups : smaller.groups ⊆ larger.groups
  extra : ∀ name value, smaller.extra.get? name = some value →
    larger.extra.get? name = some value

namespace ParsedCondition

variable {smaller larger : Identity}

mutual

/-- What holds of an identity holds of one with more groups and claims. -/
theorem evaluate_mono (grows : larger.Extends smaller) :
    ∀ parsed : ParsedCondition, parsed.evaluate smaller = true → parsed.evaluate larger = true
  | .group name _, member => by
    rw [evaluate, contains_iff_mem] at member ⊢
    exact grows.groups member
  | .claim name comparator _, passed => by
    rw [evaluate] at passed ⊢
    cases captured : smaller.extra.get? name with
    | none => simp [captured] at passed
    | some value =>
      rw [captured] at passed
      rw [grows.extra name value captured]
      exact passed
  | .allOf children _, every => by
    rw [evaluate] at every ⊢
    exact evaluateAll_mono grows children every
  | .anyOf children _, one => by
    rw [evaluate] at one ⊢
    exact evaluateAny_mono grows children one

theorem evaluateAll_mono (grows : larger.Extends smaller) : ∀ children : List ParsedCondition,
      evaluateAll smaller children = true → evaluateAll larger children = true
  | [], _ => rfl
  | child :: children, every => by
    rw [evaluateAll, Bool.and_eq_true] at every ⊢
    exact ⟨evaluate_mono grows child every.1, evaluateAll_mono grows children every.2⟩

theorem evaluateAny_mono (grows : larger.Extends smaller) : ∀ children : List ParsedCondition,
      evaluateAny smaller children = true → evaluateAny larger children = true
  | child :: children, one => by
    rw [evaluateAny, Bool.or_eq_true] at one ⊢
    exact one.imp (evaluate_mono grows child) (evaluateAny_mono grows children)

end

end ParsedCondition

/-- An unusable value meets no comparator. -/
theorem PolicyCondition.OneFamily.not_meets {ext : Externals} {cond : PolicyCondition}
    {comparator : Comparator} (family : cond.OneFamily comparator) {value : ExtraValue}
    (unusable : cond.Unusable ext (some value)) : ¬ cond.Meets value := by
  rw [← family.compare_iff, Bool.not_eq_true]
  have numbers (low high : Option Rat) (unread : value.number? = none) :
      ParsedCondition.compare value (.range low high) = false := by
    simp [ParsedCondition.compare, unread]
  cases unusable with
  | emptyScalar => cases family <;> simp [ParsedCondition.compare]
  | emptyList =>
    cases family <;>
      simp [ParsedCondition.compare, ExtraValue.number?, ExtraValue.scalar?, ExtraValue.list?]
  | listUnderScalar elements scalar =>
    cases family with
    | contains _ _ _ _ _ set => exact absurd scalar set
    | _ => simp [ParsedCondition.compare, ExtraValue.number?, ExtraValue.scalar?]
  | scalarUnderContains =>
    cases family with
    | contains => simp [ParsedCondition.compare]
    | _ => contradiction
  | nonNumber text numeric unreadable =>
    have unread := number?_scalarExtra_of_unreadable ext unreadable
    cases family with
    | range | exactly => exact numbers _ _ unread
    | _ => simp_all

/-- **Absent data satisfies no condition.**  A condition that compiles evaluates to
what its formula says; it stays true of an identity that gains groups and claims; and
a claim it cannot use makes it false. -/
theorem condition_faithful (ext : Externals) (declaredClaims : List String)
    (cond : PolicyCondition) (parsed : ParsedCondition)
    (accepted : parseCondition ext declaredClaims cond = .ok parsed) :
    (∀ smaller larger : Identity, smaller.groups ⊆ larger.groups →
      (∀ name value, smaller.extra.get? name = some value →
        larger.extra.get? name = some value) →
      parsed.evaluate smaller = true → parsed.evaluate larger = true) ∧
    (cond.claim ≠ "" → ∀ identity : Identity,
      cond.Unusable ext (identity.extra.get? cond.claim) → parsed.evaluate identity = false) ∧
    (∀ identity : Identity, parsed.evaluate identity = true ↔ cond.Holds identity) := by
  refine ⟨?_, ?_, evaluate_of_parseCondition accepted⟩
  · intro smaller larger groups extra
    exact ParsedCondition.evaluate_mono ⟨groups, extra⟩ parsed
  · intro claim identity unusable
    rw [← Bool.not_eq_true, evaluate_of_parseCondition accepted identity,
      PolicyCondition.holds_iff]
    rintro ⟨-, met, -, -⟩
    obtain ⟨value, captured, meets⟩ := met claim
    rw [captured] at unusable
    obtain ⟨comparator, family⟩ := oneFamily_of_parseCondition accepted claim
    exact family.not_meets unusable meets

namespace MeaningSample

/-- A score of at least forty. -/
def trusted : PolicyCondition :=
  { claim := "score", atLeast := some (.finite 40) }

/-- The same, compiled. -/
def parsed : ParsedCondition :=
  .claim "score" (.range (some 40) none) "claim score >= "

/-- A person whose score was captured, and the same person without it. -/
def scored : Identity :=
  { subject := "alice", groups := ["ops"], extra := [("score", .scalar "52" (some 52))] }

def unscored : Identity := { scored with extra := [] }

end MeaningSample

open MeaningSample in
/-- The score makes the condition true, and its absence false. -/
theorem condition_faithful_score : parseCondition .plain ["score"] trusted = .ok parsed ∧
      parsed.evaluate scored = true ∧ trusted.Holds scored ∧ parsed.evaluate unscored = false := by
  have accepted : parseCondition .plain ["score"] trusted = .ok parsed := by rfl
  obtain ⟨-, absent, denotes⟩ := condition_faithful .plain ["score"] trusted parsed accepted
  have passes : parsed.evaluate scored = true := by decide +kernel
  refine ⟨accepted, passes, (denotes scored).mp passes, ?_⟩
  exact absent (by decide) unscored .missing

end Ssoossh
