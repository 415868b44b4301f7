import Mathlib.Data.String.Basic
import Mathlib.Data.Prod.Lex
import Ssoossh.Lib.GoText
import Ssoossh.Lib.Joined
import Ssoossh.NSS.System

/-!
# The comparable form of a distinguished name

`normalizeDN` and `memberDN` (`server/service/nss_entry.go`), over what `ldap.ParseDN`
returns: the relative names of a DN, each a list of attributes with their values
unescaped.  The normal form lower-cases them, sorts the attributes of each relative name
and joins them with `=`, `+` and `,`.  It does not escape what it joins.

Two DNs are the same (`DN.Same`) if they have the same attributes, relative name by
relative name and in any order within one, up to case.  A DN as a list of cells keeps
which characters are separators, and two different DNs have one normal form exactly if
their cells are cut differently (`Recut`).
-/

namespace Ssoossh.NSS

open Joined List

/-! ## What the library returns -/

/-- `ldap.AttributeTypeAndValue`. -/
@[ext]
structure AttributeTypeAndValue where
  type : String
  value : String
deriving DecidableEq

/-- `ldap.RelativeDN`: there is always an attribute in it. -/
structure RelativeDN where
  attributes : List AttributeTypeAndValue
  nonempty : attributes ≠ []

/-- `ldap.DN`. -/
structure DN where
  rdns : List RelativeDN

/-- The characters `normalizeDN` joins with. -/
def separators : List Char := ['=', '+', ',']

/-- `ldap.ParseDN`, `strings.ToLower` and `strings.EqualFold`.  No letter has a separator as
its lower case. -/
structure DNFunctions where
  parseDN : String → Option DN
  toLower : String → String
  equalFold : String → String → Bool
  toLower_separators : ∀ text, ∀ c ∈ separators, c ∈ (toLower text).toList → c ∈ text.toList
  equalFold_refl : ∀ text, equalFold text text = true

/-! ## The normal form -/

namespace AttributeTypeAndValue

/-- An attribute in lower case. -/
def lowered (f : DNFunctions) (a : AttributeTypeAndValue) : AttributeTypeAndValue :=
  ⟨f.toLower a.type, f.toLower a.value⟩

/-- An attribute as it is written. -/
def text (a : AttributeTypeAndValue) : String := a.type ++ "=" ++ a.value

end AttributeTypeAndValue

/-- The parts of a relative name, sorted and joined. -/
def RelativeDN.normal (f : DNFunctions) (rdn : RelativeDN) : String :=
  "+".intercalate ((rdn.attributes.map fun a => (a.lowered f).text).insertionSort (· ≤ ·))

/-- The normal form of a DN that was parsed. -/
def DN.normal (f : DNFunctions) (dn : DN) : String :=
  ",".intercalate (dn.rdns.map (·.normal f))

/-- `normalizeDN`. -/
def normalizeDN (f : DNFunctions) (dn : String) : String :=
  match f.parseDN dn with
  | none => f.toLower (GoText.trimSpace dn)
  | some parsed => parsed.normal f

/-- `strings.LastIndex`. -/
def lastIndex (text wanted : List Char) : Option Nat :=
  (List.range (text.length + 1)).reverse.find? fun i => wanted.isPrefixOf (text.drop i)

/-- `memberDN`. -/
def memberDN (value : String) : String :=
  if "'B".toList.isSuffixOf value.toList then
    match lastIndex value.toList "#'".toList with
    | some i => if i = 0 then value else String.ofList (value.toList.take i)
    | none => value
  else value

/-- The text functions of the directory service. -/
def DNFunctions.text (f : DNFunctions) : DNText where
  equalFold := f.equalFold
  toLower := f.toLower
  normalizeDN := normalizeDN f
  memberDN := memberDN
  equalFold_refl := f.equalFold_refl

/-! ## The same DN -/

/-- The same attributes, in any order and up to case. -/
def RelativeDN.Same (f : DNFunctions) (a b : RelativeDN) : Prop :=
  (a.attributes.map (·.lowered f)).Perm (b.attributes.map (·.lowered f))

/-- The same relative names, one by one. -/
def DN.Same (f : DNFunctions) (a b : DN) : Prop := List.Forall₂ (RelativeDN.Same f) a.rdns b.rdns

/-- The order attributes are joined in.  What is written alike is told apart by its type. -/
def AttributeTypeAndValue.Before (a b : AttributeTypeAndValue) : Prop :=
  toLex (a.text, a.type) ≤ toLex (b.text, b.type)

instance : DecidableRel AttributeTypeAndValue.Before := fun _ _ => inferInstanceAs (Decidable (_ ≤ _))

instance : Std.Total AttributeTypeAndValue.Before := ⟨fun _ _ => le_total _ _⟩

instance : IsTrans AttributeTypeAndValue AttributeTypeAndValue.Before :=
  ⟨fun _ _ _ => le_trans⟩

/-- The attributes of a relative name in the order they are joined in. -/
def RelativeDN.arranged (f : DNFunctions) (rdn : RelativeDN) : List AttributeTypeAndValue :=
  (rdn.attributes.map (·.lowered f)).insertionSort AttributeTypeAndValue.Before

/-- An attribute, with its separator. -/
def AttributeTypeAndValue.cells (a : AttributeTypeAndValue) : List Cell :=
  Joined.cells a.type ++ .mark '=' :: Joined.cells a.value

/-- A DN in its normal form, with its separators. -/
def DN.cells (f : DNFunctions) (dn : DN) : List Cell :=
  join (.mark ',') (.mark '+') (dn.rdns.map fun rdn => (rdn.arranged f).map (·.cells))

section Normal

variable {f : DNFunctions}

theorem AttributeTypeAndValue.char_cells (a : AttributeTypeAndValue) :
    a.cells.map Cell.char = a.text.toList := by
  rw [cells, map_append, map_cons, Joined.char_cells, Joined.char_cells, text,
    String.toList_append, String.toList_append, append_assoc]
  rfl

variable {a : AttributeTypeAndValue}

theorem AttributeTypeAndValue.cells_injective {b : AttributeTypeAndValue}
    (h : a.cells = b.cells) : a = b := by
  obtain ⟨type, value⟩ := eq_of_cut (mark_not_mem_cells '=' a.type) (mark_not_mem_cells '=' b.type) h
  exact AttributeTypeAndValue.ext (Joined.cells_injective type) (Joined.cells_injective value)

/-- Attributes with one text and one type are the same. -/
theorem AttributeTypeAndValue.eq_of_text {b : AttributeTypeAndValue} (text : a.text = b.text)
    (type : a.type = b.type) : a = b := by
  unfold AttributeTypeAndValue.text at text
  rw [type, String.append_right_inj] at text
  exact AttributeTypeAndValue.ext type text

/-- The arranged attributes are written as the sorted parts are. -/
theorem RelativeDN.text_arranged (rdn : RelativeDN) : (rdn.arranged f).map (·.text) =
      (rdn.attributes.map fun a => (a.lowered f).text).insertionSort (· ≤ ·) := by
  have permuted : ((rdn.arranged f).map (·.text)).Perm
      ((rdn.attributes.map fun a => (a.lowered f).text).insertionSort (· ≤ ·)) := by
    refine ((perm_insertionSort _ _).map _).trans ?_
    rw [map_map]
    exact (perm_insertionSort _ _).symm
  refine permuted.eq_of_pairwise' ?_ (pairwise_insertionSort (· ≤ ·) _)
  rw [pairwise_map]
  have ordered : (rdn.arranged f).Pairwise AttributeTypeAndValue.Before :=
    pairwise_insertionSort _ _
  exact ordered.imp fun before => Prod.Lex.monotone_fst _ _ before

/-- The normal form, without its separators marked. -/
theorem DN.char_cells (dn : DN) : (dn.cells f).map Cell.char = (dn.normal f).toList := by
  rw [cells, map_join, normal, String.toList_intercalate, join, map_map, map_map,
    map_map]
  refine congrArg _ (map_congr_left fun rdn _ => ?_)
  show [Cell.char (.mark '+')].intercalate _ = (rdn.normal f).toList
  rw [RelativeDN.normal, String.toList_intercalate, ← rdn.text_arranged, map_map, map_map]
  refine congrArg _ (map_congr_left fun a _ => ?_)
  exact a.char_cells

instance : Std.Antisymm AttributeTypeAndValue.Before := by
  refine ⟨fun a b before after => ?_⟩
  have same := congrArg ofLex (le_antisymm before after)
  exact AttributeTypeAndValue.eq_of_text (Prod.mk.inj same).1 (Prod.mk.inj same).2

/-- Relative names are the same if their attributes are arranged alike. -/
theorem RelativeDN.same_iff {a b : RelativeDN} : a.Same f b ↔ a.arranged f = b.arranged f := by
  have sorted (rdn : RelativeDN) : (rdn.arranged f).Perm (rdn.attributes.map (·.lowered f)) :=
    perm_insertionSort _ _
  constructor
  · intro same
    have permuted : (a.arranged f).Perm (b.arranged f) :=
      (sorted a).trans (same.trans (sorted b).symm)
    exact permuted.eq_of_pairwise' (pairwise_insertionSort _ _) (pairwise_insertionSort _ _)
  · intro alike
    refine (sorted a).symm.trans ?_
    rw [alike]
    exact sorted b

/-- The rows of cells can be told apart from their separators. -/
theorem DN.clear_cells (dn : DN) : Clear (Cell.mark ',') (Cell.mark '+')
    (dn.rdns.map fun rdn => (rdn.arranged f).map (·.cells)) := by
  have unmarked (c : Char) (other : c ≠ '=') (a : AttributeTypeAndValue) : Cell.mark c ∉ a.cells := by
    intro member
    rcases mem_append.mp member with inType | rest
    · exact mark_not_mem_cells c a.type inType
    · rcases mem_cons.mp rest with same | inValue
      · exact other (Cell.mark.inj same)
      · exact mark_not_mem_cells c a.value inValue
  refine ⟨fun row member => ?_, fun row member piece inside => ?_, fun row member piece inside => ?_,
    fun row member piece inside => ?_⟩
  all_goals obtain ⟨rdn, -, rfl⟩ := mem_map.mp member
  · intro empty
    have length := congrArg List.length empty
    rw [length_map, RelativeDN.arranged, length_insertionSort, length_map] at length
    exact rdn.nonempty (eq_nil_of_length_eq_zero length)
  all_goals obtain ⟨a, -, rfl⟩ := mem_map.mp inside
  · exact append_ne_nil_of_right_ne_nil _ (cons_ne_nil _ _)
  · exact unmarked ',' (by decide) a
  · exact unmarked '+' (by decide) a

theorem DN.same_iff_arranged {a b : DN} :
    a.Same f b ↔ a.rdns.map (·.arranged f) = b.rdns.map (·.arranged f) := by
  have each : RelativeDN.Same f = fun x y => x.arranged f = y.arranged f := by
    funext x y
    exact propext RelativeDN.same_iff
  rw [DN.Same, ← List.forall₂_eq_eq_eq, List.forall₂_map_left_iff, List.forall₂_map_right_iff, each]

/-- **The cells of a DN say which DN it is.** -/
theorem DN.same_iff {a b : DN} : a.Same f b ↔ a.cells f = b.cells f := by
  rw [same_iff_arranged]
  constructor
  · intro same
    have composed (dn : DN) : (dn.rdns.map fun rdn => (rdn.arranged f).map (·.cells)) =
        (dn.rdns.map (·.arranged f)).map (List.map (·.cells)) := (map_map ..).symm
    rw [cells, cells, composed, composed, same]
  · intro same
    have pieces := eq_of_join (by decide) a.clear_cells b.clear_cells same
    refine eq_of_map_eq (f := List.map (·.cells)) (fun x _ y _ alike => ?_) ?_
    · exact eq_of_map_eq (fun _ _ _ _ => AttributeTypeAndValue.cells_injective) alike
    · rw [map_map, map_map]
      exact pieces

/-- The normal forms of two DNs are the same text if they are spelled alike. -/
theorem DN.normal_eq_iff {a b : DN} : a.normal f = b.normal f ↔
    (a.cells f).map Cell.char = (b.cells f).map Cell.char := by
  rw [char_cells, char_cells, String.toList_inj]

/-! ## Plain names -/

/-- A DN whose types contain no separator and whose values contain neither `+` nor `,`. -/
structure DN.Plain (dn : DN) : Prop where
  type : ∀ rdn ∈ dn.rdns, ∀ a ∈ rdn.attributes, ∀ c ∈ separators, c ∉ a.type.toList
  value : ∀ rdn ∈ dn.rdns, ∀ a ∈ rdn.attributes, ∀ c ∈ ['+', ','], c ∉ a.value.toList

-- Lists of characters are gone through here: the instance for a finite type would run over all of
-- `Char`.
instance : DecidablePred DN.Plain := fun dn =>
  decidable_of_iff ((dn.rdns.all fun rdn => rdn.attributes.all fun a =>
      separators.all (fun c => !a.type.toList.contains c) &&
        ['+', ','].all (fun c => !a.value.toList.contains c)) = true) <| by
    simp only [all_eq_true, Bool.and_eq_true, Bool.not_eq_true', contains_eq_mem,
      decide_eq_false_iff_not]
    constructor
    · intro h
      exact ⟨fun rdn own a part => (h rdn own a part).1, fun rdn own a part => (h rdn own a part).2⟩
    · intro plain rdn own a part
      exact ⟨plain.type rdn own a part, plain.value rdn own a part⟩

/-- The parts of a relative name, as they are joined. -/
def RelativeDN.texts (f : DNFunctions) (rdn : RelativeDN) : List (List Char) :=
  (rdn.arranged f).map (·.text.toList)

theorem RelativeDN.mem_arranged {rdn : RelativeDN}
    (h : a ∈ rdn.arranged f) : ∃ original ∈ rdn.attributes, a = original.lowered f := by
  obtain ⟨original, member, rfl⟩ := mem_map.mp ((mem_insertionSort _).mp h)
  exact ⟨original, member, rfl⟩

theorem DN.toList_normal (dn : DN) : (dn.normal f).toList = join ',' '+' (dn.rdns.map (·.texts f)) := by
  rw [← char_cells, cells, map_join, map_map]
  refine congrArg _ (map_congr_left fun rdn _ => ?_)
  show ((rdn.arranged f).map (·.cells)).map (List.map Cell.char) = _
  rw [map_map]
  exact map_congr_left fun a _ => a.char_cells

/-- No part of a plain DN contains a separator that joins parts. -/
theorem DN.Plain.clear {dn : DN} (plain : dn.Plain) : Clear ',' '+' (dn.rdns.map (·.texts f)) := by
  have unseparated (c : Char) (joins : c ∈ ['+', ',']) {rdn : RelativeDN} (there : rdn ∈ dn.rdns)
      {a : AttributeTypeAndValue} (member : a ∈ rdn.arranged f) : c ∉ a.text.toList := by
    obtain ⟨original, inside, rfl⟩ := RelativeDN.mem_arranged member
    have separates : c ∈ separators := mem_cons_of_mem _ joins
    have other : c ≠ '=' := by
      rintro rfl
      exact absurd joins (by decide)
    rw [AttributeTypeAndValue.text, String.toList_append, String.toList_append, mem_append,
      mem_append]
    rintro ((inType | equals) | inValue)
    · exact plain.type rdn there original inside c separates (f.toLower_separators _ c separates inType)
    · exact other (mem_singleton.mp equals)
    · exact plain.value rdn there original inside c joins (f.toLower_separators _ c separates inValue)
  refine ⟨fun row member => ?_, fun row member piece inside => ?_, fun row member piece inside => ?_,
    fun row member piece inside => ?_⟩
  all_goals obtain ⟨rdn, there, rfl⟩ := mem_map.mp member
  · intro empty
    have length := congrArg List.length empty
    rw [RelativeDN.texts, length_map, RelativeDN.arranged, length_insertionSort,
      length_map] at length
    exact rdn.nonempty (eq_nil_of_length_eq_zero length)
  all_goals obtain ⟨a, arranged, rfl⟩ := mem_map.mp inside
  · rw [AttributeTypeAndValue.text, String.toList_append, String.toList_append]
    exact append_ne_nil_of_left_ne_nil (append_ne_nil_of_right_ne_nil _ (by decide)) _
  · exact unseparated ',' (by decide) there arranged
  · exact unseparated '+' (by decide) there arranged

/-- Plain DNs of one normal form are the same. -/
theorem DN.Plain.same {a b : DN} (plain : a.Plain) (plain' : b.Plain) (h : a.normal f = b.normal f) :
    a.Same f b := by
  rw [← String.toList_inj, toList_normal, toList_normal] at h
  have rows := eq_of_join (by decide) plain.clear plain'.clear h
  -- a part is cut at its first `=`, since no type contains one
  have part {x y : RelativeDN} (inA : x ∈ a.rdns) (inB : y ∈ b.rdns) (texts : x.texts f = y.texts f) :
      x.arranged f = y.arranged f := by
    refine eq_of_map_eq (fun p inX q inY text => ?_) texts
    obtain ⟨original, member, rfl⟩ := RelativeDN.mem_arranged inX
    obtain ⟨original', member', rfl⟩ := RelativeDN.mem_arranged inY
    have untyped : '=' ∉ (original.lowered f).type.toList := fun inside =>
      plain.type x inA original member '=' (by decide) (f.toLower_separators _ '=' (by decide) inside)
    have untyped' : '=' ∉ (original'.lowered f).type.toList := fun inside =>
      plain'.type y inB original' member' '=' (by decide)
        (f.toLower_separators _ '=' (by decide) inside)
    rw [AttributeTypeAndValue.text, AttributeTypeAndValue.text, String.toList_append,
      String.toList_append, String.toList_append, String.toList_append, append_assoc,
      append_assoc] at text
    obtain ⟨type, value⟩ := eq_of_cut untyped untyped' text
    exact AttributeTypeAndValue.ext (String.toList_inj.mp type) (String.toList_inj.mp value)
  rw [same_iff_arranged]
  refine eq_of_map_eq (f := List.map (·.text.toList)) (fun x inX y inY texts => ?_) ?_
  · obtain ⟨rdn, inA, rfl⟩ := mem_map.mp inX
    obtain ⟨rdn', inB, rfl⟩ := mem_map.mp inY
    exact part inA inB texts
  · rw [map_map, map_map]
    exact rows

/-- **A normal form tells two DNs apart** exactly if they are not cut differently. -/
theorem DN.normal_faithful_iff {a b : DN} :
    (a.normal f = b.normal f ↔ a.Same f b) ↔ ¬ Recut (a.cells f) (b.cells f) := by
  rw [normal_eq_iff, same_iff]
  constructor
  · intro faithful recut
    have same := faithful.mp (alike_iff.mp recut.alike)
    rw [same] at recut
    exact not_recut_self _ recut
  · intro whole
    constructor
    · intro alike
      exact (eq_iff_not_recut alike).mpr whole
    · intro same
      rw [same]

end Normal

/-! ## Names as they are written -/

section Written

variable (f : DNFunctions)

/-- A text the library parses. -/
def Accepted (text : String) : Prop := (f.parseDN text).isSome = true

/-- Two texts of the same DN. -/
def SameName (a b : String) : Prop :=
  ∃ d d', f.parseDN a = some d ∧ f.parseDN b = some d' ∧ d.Same f d'

/-- Two texts whose DNs are cut differently: in the normal form they are the same character by
character, and a separator of one is part of a type or a value of the other. -/
def Confusable (a b : String) : Prop :=
  ∃ d d', f.parseDN a = some d ∧ f.parseDN b = some d' ∧ Recut (d.cells f) (d'.cells f)

/-- A text of a plain DN. -/
def PlainName (text : String) : Prop := ∀ d ∈ f.parseDN text, d.Plain

instance : DecidablePred (Accepted f) := fun _ => inferInstanceAs (Decidable (_ = true))

instance : DecidablePred (PlainName f) := fun text =>
  inferInstanceAs (Decidable (∀ d ∈ f.parseDN text, d.Plain))

variable {f}

theorem normalizeDN_of_parseDN {text : String} {d : DN} (parsed : f.parseDN text = some d) :
    normalizeDN f text = d.normal f := by
  rw [normalizeDN, parsed]

theorem normalizeDN_eq_iff {a b : String} (accepted : Accepted f a) (accepted' : Accepted f b) :
    (normalizeDN f a = normalizeDN f b ↔ SameName f a b) ↔ ¬ Confusable f a b := by
  obtain ⟨d, parsed⟩ := Option.isSome_iff_exists.mp accepted
  obtain ⟨d', parsed'⟩ := Option.isSome_iff_exists.mp accepted'
  have same : SameName f a b ↔ d.Same f d' := by
    simp [SameName, parsed, parsed']
  have confusable : Confusable f a b ↔ Recut (d.cells f) (d'.cells f) := by
    simp [Confusable, parsed, parsed']
  rw [normalizeDN_of_parseDN parsed, normalizeDN_of_parseDN parsed', same, confusable]
  exact DN.normal_faithful_iff

theorem not_confusable_of_plain {a b : String} (plain : PlainName f a) (plain' : PlainName f b) :
    ¬ Confusable f a b := by
  rintro ⟨d, d', parsed, parsed', recut⟩
  refine DN.normal_faithful_iff.mp ⟨(plain d parsed).same (plain' d' parsed'), fun same => ?_⟩ recut
  rw [DN.normal_eq_iff, DN.same_iff.mp same]

/-- A DN is among those of a list if its normal form is among theirs, unless it is confusable with
one of them. -/
theorem contains_normalizeDN_iff {dns : List String} {dn : String} (accepted : Accepted f dn)
    (all : ∀ e ∈ dns, Accepted f e ∧ ¬ Confusable f e dn) :
    (dns.map f.text.normalizeDN).contains (f.text.normalizeDN dn) = true ↔
      ∃ e ∈ dns, SameName f e dn := by
  rw [contains_iff_mem, mem_map]
  refine exists_congr fun e => and_congr_right fun member => ?_
  obtain ⟨parsed, clear⟩ := all e member
  exact (normalizeDN_eq_iff parsed accepted).mpr clear

end Written

/-- **`normalizeDN` is faithful to two DNs** exactly if they are not confusable, and plain ones
never are.  Where none of the names at hand is confusable, the evidence of a full run, the
disabled accounts of a full run and the index of the members go by the DN. -/
theorem normalizeDN_faithful_iff (f : DNFunctions) : (∀ a b, Accepted f a → Accepted f b →
      ((normalizeDN f a = normalizeDN f b ↔ SameName f a b) ↔ ¬ Confusable f a b) ∧
        (PlainName f a → PlainName f b → ¬ Confusable f a b)) ∧
      (∀ dns dn, Accepted f dn → (∀ e ∈ dns, Accepted f e ∧ ¬ Confusable f e dn) →
        (absentFrom f.text dns dn = true ↔ ¬ ∃ e ∈ dns, SameName f e dn) ∧
          ((dns.map f.text.normalizeDN).contains (f.text.normalizeDN dn) = true ↔
            ∃ e ∈ dns, SameName f e dn)) ∧
      ∀ (index : NSSMemberIndex) (member : String), index.dns = true →
        Accepted f (memberDN member) →
        (∀ row ∈ index.rows, row.dn ≠ "" →
          Accepted f row.dn ∧ ¬ Confusable f row.dn (memberDN member)) →
        ∀ uid, index.lookup f.text member = some uid →
          ∃ row ∈ index.rows, row.uid = uid ∧ SameName f row.dn (memberDN member) := by
  refine ⟨fun a b accepted accepted' => ⟨normalizeDN_eq_iff accepted accepted',
    not_confusable_of_plain⟩, fun dns dn accepted all => ?_, ?_⟩
  · have found := contains_normalizeDN_iff accepted all
    refine ⟨?_, found⟩
    rw [absentFrom, Bool.not_eq_true', ← Bool.not_eq_true, found]
  · intro index member dns accepted all uid found
    unfold NSSMemberIndex.lookup at found
    rw [dns] at found
    obtain ⟨row, picked, rfl⟩ := Option.map_eq_some_iff.mp found
    have stored : row ∈ index.rows := mem_reverse.mp (mem_of_find?_eq_some picked)
    have wanted := List.find?_some picked
    rw [if_pos rfl, Bool.and_eq_true, bne_iff_ne, beq_iff_eq] at wanted
    obtain ⟨parsed, clear⟩ := all row stored wanted.1
    exact ⟨row, stored, rfl, ((normalizeDN_eq_iff parsed accepted).mpr clear).mp wanted.2⟩

namespace Sample

/-- The characters of a DN as it is written: a backslash takes the next one as it is. -/
def unescape : List Char → List Cell
  | '\\' :: c :: rest => .text c :: unescape rest
  | c :: rest => (if c ∈ separators then .mark c else .text c) :: unescape rest
  | [] => []

/-- An attribute, up to its first `=` and after it. -/
def attributeOf (part : List Cell) : Option AttributeTypeAndValue :=
  match part.dropWhile (· ≠ .mark '=') with
  | [] => none
  | _ :: value => some
    ⟨String.ofList ((part.takeWhile (· ≠ .mark '=')).map Cell.char), String.ofList (value.map Cell.char)⟩

/-- A relative name. -/
def relativeOf (part : List Cell) : Option RelativeDN :=
  match (part.splitOn (.mark '+')).mapM attributeOf with
  | none => none
  | some attributes => if nonempty : attributes ≠ [] then some ⟨attributes, nonempty⟩ else none

/-- Names in lower case, without spaces between their parts. -/
def functions : DNFunctions where
  parseDN text := (((unescape text.toList).splitOn (.mark ',')).mapM relativeOf).map DN.mk
  toLower := id
  equalFold a b := a == b
  toLower_separators _ _ _ member := member
  equalFold_refl := text.equalFold_refl

end Sample

open Sample in
/-- Plain names are told apart, and go by the DN wherever they are kept. -/
theorem normalizeDN_faithful_people :
    ¬ Confusable functions "uid=eve,ou=people" "uid=ada,ou=people" ∧
      (normalizeDN functions "uid=eve,ou=people" = normalizeDN functions "uid=ada,ou=people" ↔
        SameName functions "uid=eve,ou=people" "uid=ada,ou=people") ∧
      (absentFrom functions.text ["uid=eve,ou=people"] "uid=ada,ou=people" = true ↔
        ¬ ∃ e ∈ ["uid=eve,ou=people"], SameName functions e "uid=ada,ou=people") ∧
      ∃ row ∈ [⟨1000, "ada", "uid=ada,ou=people"⟩, (⟨1001, "eve", "uid=eve,ou=people"⟩ : IndexRow)],
        row.uid = 1001 ∧ SameName functions row.dn (memberDN "uid=eve,ou=people#'0101'B") := by
  have accepted : Accepted functions "uid=ada,ou=people" := by decide +kernel
  have accepted' : Accepted functions "uid=eve,ou=people" := by decide +kernel
  have plain : PlainName functions "uid=ada,ou=people" := by decide +kernel
  have plain' : PlainName functions "uid=eve,ou=people" := by decide +kernel
  have member : memberDN "uid=eve,ou=people#'0101'B" = "uid=eve,ou=people" := by decide +kernel
  obtain ⟨pairs, kept, indexed⟩ := normalizeDN_faithful_iff functions
  obtain ⟨exact, clear⟩ := pairs _ _ accepted' accepted
  refine ⟨clear plain' plain, exact.mpr (clear plain' plain), (kept _ _ accepted ?_).1, ?_⟩
  · intro e only
    obtain rfl := mem_singleton.mp only
    exact ⟨accepted', clear plain' plain⟩
  · refine indexed ⟨true, [⟨1000, "ada", "uid=ada,ou=people"⟩, ⟨1001, "eve", "uid=eve,ou=people"⟩]⟩ _ rfl
      (member.symm ▸ accepted') (fun row stored _ => ?_) 1001 (by decide +kernel)
    rw [member]
    rcases mem_cons.mp stored with rfl | last
    · exact ⟨accepted, (pairs _ _ accepted accepted').2 plain plain'⟩
    · obtain rfl := mem_singleton.mp last
      exact ⟨accepted', (pairs _ _ accepted' accepted').2 plain' plain'⟩

open Sample in
/-- One account whose name contains a comma, and one in a unit of that name: two DNs with one
normal form. -/
theorem normalizeDN_confuses_comma :
    Accepted functions "uid=ada\\,ou=people" ∧ Accepted functions "uid=ada,ou=people" ∧
      normalizeDN functions "uid=ada\\,ou=people" = normalizeDN functions "uid=ada,ou=people" ∧
      ¬ SameName functions "uid=ada\\,ou=people" "uid=ada,ou=people" := by
  refine ⟨by decide +kernel, by decide +kernel, by decide +kernel, ?_⟩
  rintro ⟨d, d', parsed, parsed', same⟩
  have one : (functions.parseDN "uid=ada\\,ou=people").map (·.rdns.length) = some 1 := by
    decide +kernel
  have two : (functions.parseDN "uid=ada,ou=people").map (·.rdns.length) = some 2 := by decide +kernel
  rw [parsed, Option.map_some, Option.some.injEq] at one
  rw [parsed', Option.map_some, Option.some.injEq] at two
  have lengths := same.length_eq
  rw [one, two] at lengths
  cases lengths

end Ssoossh.NSS
