import Ssoossh.Config.Certificates

/-!
# Conditions on an identity

The compiled form of a `PolicyCondition` (`server/service/policycondition.go`) and
the extra claims it is evaluated on (`extravalue.go`).

Compiling checks the shape once, so that evaluating cannot fail: a compiled claim
has exactly one comparator and finite bounds.  A claim that is missing, or that is
not of the kind its comparator compares, makes its condition false, never true.
-/

namespace Ssoossh

/-! ## Extra claims -/

section Extra

variable (ext : Externals)

/-- `scalarExtra`: a text that reads as a finite number is also that number. -/
def scalarExtra (text : String) : ExtraValue :=
  if text = "" then .scalar text none
  else
    match ext.parseFloat text with
    | some (.finite value) => .scalar text (some value)
    | _ => .scalar text none

namespace ExtraValue

/-- `extraValue.Number`. -/
def number? : ExtraValue → Option Rat
  | .scalar _ number => number
  | .list _ => none

/-- `extraValue.List`. -/
def list? : ExtraValue → Option (List String)
  | .scalar _ _ => none
  | .list elements => some elements

/-- `extraValue.Scalar`: an empty text is an absent one. -/
def scalar? : ExtraValue → Option String
  | .scalar text _ => if text = "" then none else some text
  | .list _ => none

/-- `extraValue.UnmarshalJSON`: a text, or a list of texts.  `null` reads as the
empty text. -/
def ofJson : Json.Value → Option ExtraValue
  | value =>
    match Json.intoString "" value with
    | some text => some (scalarExtra ext text)
    | none => (Json.intoStrings [] value).map .list

end ExtraValue

/-- The fields of the stored object; a field that comes twice has its last value. -/
def extraOfFields : List (List Char × Json.Value) → Extra → Option Extra
  | [], extra => some extra
  | (name, value) :: fields, extra =>
    match ExtraValue.ofJson ext value with
    | none => none
    | some claim => extraOfFields fields ((String.ofList name, claim) :: extra)

/-- `decodeExtraFields`: what does not decode is no claims at all. -/
def decodeExtraFields (raw : String) : Extra :=
  if raw = "" then []
  else
    match Json.parse raw.toList with
    | some (.object fields) => (extraOfFields ext fields []).getD []
    | _ => []

end Extra

/-! ## Compiled conditions -/

/-- How a claim is compared. -/
inductive Comparator
  | range (atLeast atMost : Option Rat)
  | equals (value : String)
  | oneOf (values : List String)
  | contains (value : String)

/-- A compiled condition, with the text it is shown as. -/
inductive ParsedCondition
  | group (name : String) (rendered : String)
  | claim (name : String) (comparator : Comparator) (rendered : String)
  | allOf (children : List ParsedCondition) (rendered : String)
  | anyOf (children : List ParsedCondition) (rendered : String)

namespace ParsedCondition

/-- `parsedCondition.String`. -/
def rendered : ParsedCondition → String
  | .group _ text => text
  | .claim _ _ text => text
  | .allOf _ text => text
  | .anyOf _ text => text

/-- `parsedCondition.compare`: a value of another kind than the comparator's is no match. -/
def compare (value : ExtraValue) : Comparator → Bool
  | .range atLeast atMost =>
    match value.number? with
    | none => false
    | some number =>
      !(atLeast.any fun low => number < low) && atMost.all fun high => number ≤ high
  | .equals wanted => value.scalar?.any fun text => text == wanted
  | .oneOf wanted => value.scalar?.any fun text => wanted.contains text
  | .contains wanted => value.list?.any fun elements => elements.contains wanted

mutual

/-- `parsedCondition.evaluate`: a claim the identity does not carry is never met. -/
def evaluate (identity : Identity) : ParsedCondition → Bool
  | .group name _ => identity.groups.contains name
  | .claim name comparator _ =>
    match identity.extra.get? name with
    | none => false
    | some value => compare value comparator
  | .allOf children _ => evaluateAll identity children
  | .anyOf children _ => evaluateAny identity children

def evaluateAll (identity : Identity) : List ParsedCondition → Bool
  | [] => true
  | child :: children => evaluate identity child && evaluateAll identity children

def evaluateAny (identity : Identity) : List ParsedCondition → Bool
  | [] => false
  | child :: children => evaluate identity child || evaluateAny identity children

end

end ParsedCondition

/-! ## Compiling -/

section Parse

variable (ext : Externals)

/-- A bound has to be finite. -/
def finiteBound (claim : String) : Option Float64 → Except String (Option Rat)
  | none => .ok none
  | some (.finite value) => .ok (some value)
  | some _ => .error ("condition on claim " ++ ext.quote claim ++ " has a non-finite numeric bound")

/-- `parseComparator`: exactly one family of comparators, and no empty `equals`. -/
def parseComparator (cond : PolicyCondition) : Except String Comparator := do
  if cond.equals = some "" then
    throw ("condition on claim " ++ ext.quote cond.claim ++
      " has an empty equals value; an empty scalar is the absent representation and can never match")
  let range := cond.atLeast.isSome || cond.atMost.isSome
  let families := [range, cond.exactly.isSome, cond.equals.isSome, !cond.oneOf.isEmpty,
    cond.contains != ""]
  if families.count true ≠ 1 then
    throw ("condition on claim " ++ ext.quote cond.claim ++
      " must use exactly one comparator family (at_least/at_most, exactly, equals, one_of, or contains)")
  if range then
    let low ← finiteBound ext cond.claim cond.atLeast
    let high ← finiteBound ext cond.claim cond.atMost
    return .range low high
  else
    match cond.exactly, cond.equals with
    | some bound, _ =>
      let exactly ← finiteBound ext cond.claim (some bound)
      return .range exactly exactly
    | none, some value => return .equals value
    | none, none =>
      if !cond.oneOf.isEmpty then return .oneOf cond.oneOf
      else return .contains cond.contains

/-- `checkExactlyOneForm`. -/
def checkExactlyOneForm (cond : PolicyCondition) : Except String Unit := do
  let forms := [cond.group != "", cond.claim != "", !cond.allOf.isEmpty, !cond.anyOf.isEmpty]
  if forms.count true ≠ 1 then
    throw ("condition " ++ cond.format ext ++
      " mixes forms: exactly one of group, claim, all_of, or any_of must be set")
  let hasComparator := cond.atLeast.isSome || cond.atMost.isSome || cond.exactly.isSome ||
    cond.equals.isSome || !cond.oneOf.isEmpty || cond.contains != ""
  if cond.claim == "" && hasComparator then
    throw ("condition " ++ cond.format ext ++ " has a comparator but no claim")

/-- `parseCondition` on a condition that is not a combination. -/
def parseLeaf (declaredClaims : List String) (cond : PolicyCondition) :
    Except String ParsedCondition := do
  if cond.group != "" then
    return .group cond.group (cond.format ext)
  if !declaredClaims.contains cond.claim then
    throw ("condition " ++ cond.format ext ++ " references claim " ++ ext.quote cond.claim ++
      ", which is not declared under authentication.fields.extra")
  let comparator ← parseComparator ext cond
  return .claim cond.claim comparator (cond.format ext)

/-- The checks `parseCondition` makes on every condition first. -/
def checkCondition (cond : PolicyCondition) : Except String Unit := do
  if cond.isZero then
    throw "condition is empty: exactly one of group, claim, all_of, or any_of must be set"
  checkExactlyOneForm ext cond

/-- `parseCondition` on a member of a combination: no combination inside another. -/
def parseNested (declaredClaims : List String) (cond : PolicyCondition) :
    Except String ParsedCondition := do
  checkCondition ext cond
  if !cond.allOf.isEmpty || !cond.anyOf.isEmpty then
    throw ("condition " ++ cond.format ext ++
      " nests all_of/any_of inside another: nesting stops at one level")
  parseLeaf ext declaredClaims cond

/-- `parseCondition`. -/
def parseCondition (declaredClaims : List String) (cond : PolicyCondition) :
    Except String ParsedCondition := do
  checkCondition ext cond
  if !cond.anyOf.isEmpty then
    let children ← cond.anyOf.mapM (parseNested ext declaredClaims)
    return .anyOf children (cond.format ext)
  else if !cond.allOf.isEmpty then
    let children ← cond.allOf.mapM (parseNested ext declaredClaims)
    return .allOf children (cond.format ext)
  else
    parseLeaf ext declaredClaims cond

end Parse

end Ssoossh
