import Mathlib.Data.List.Basic
import Mathlib.Tactic.Common

/-!
# JSON text

The part of Go's `encoding/json` that stored columns and messages go through.
Printing is compact and escapes the characters that are unsafe in HTML; reading
accepts what the decoder accepts: white space between tokens, every escape,
surrogate pairs in `\u` escapes, an unpaired surrogate read as U+FFFD.

Reading is a **scanner** from characters to tokens and a **stack machine** from
tokens to a value.  Both run by structural recursion over their input, so neither
needs fuel, and a text is printed by concatenating the texts of its tokens, so
the round trip splits along the same line: `scans_tokens` and `build_tokens`.

The result is `parse_print`: every value is read back from its own text.
-/

namespace Json

open List

/-! ## Numbers and tokens -/

/-- The characters a number may contain. -/
def isNumeric (c : Char) : Bool :=
  c.isDigit || c == '-' || c == '+' || c == '.' || c == 'e' || c == 'E'

/-- The characters a number may start with. -/
def startsNumber (c : Char) : Bool := c.isDigit || c == '-'

/-- An exponent: an optional sign and at least one digit. -/
def isExponent : List Char → Bool
  | '+' :: digits => !digits.isEmpty && digits.all Char.isDigit
  | '-' :: digits => !digits.isEmpty && digits.all Char.isDigit
  | digits => !digits.isEmpty && digits.all Char.isDigit

/-- What may follow the integer part of a number. -/
def isNumberTail (tail : List Char) : Bool :=
  let (frac, rest) := match tail with
    | '.' :: digits => (some (digits.takeWhile Char.isDigit), digits.dropWhile Char.isDigit)
    | _ => (none, tail)
  let exponent := match rest with
    | [] => true
    | 'e' :: e => isExponent e
    | 'E' :: e => isExponent e
    | _ => false
  (frac != some []) && exponent

/-- The grammar of a number: no leading zero, digits around a point, digits in an
exponent. -/
def isNumber (text : List Char) : Bool :=
  let unsigned := match text with
    | '-' :: rest => rest
    | _ => text
  match unsigned with
  | '0' :: tail => isNumberTail tail
  | c :: _ => c.isDigit && isNumberTail (unsigned.dropWhile Char.isDigit)
  | [] => false

/-- The text of a number, as the document has it. -/
def NumberText : Type :=
  { text : List Char // isNumber text ∧ text.all isNumeric ∧ (text.head?.any startsNumber) }

instance : DecidableEq NumberText := inferInstanceAs (DecidableEq { _text : List Char // _ })

/-- The tokens of a document. -/
inductive Token
  | null
  | bool (value : Bool)
  | number (text : NumberText)
  | string (value : List Char)
  | openArray
  | closeArray
  | openObject
  | closeObject
  | comma
  | colon
  deriving DecidableEq

/-! ## Printing -/

/-- A hexadecimal digit. -/
def hexDigit (n : Nat) : Char := if n < 10 then Char.ofNat (48 + n) else Char.ofNat (87 + n)

/-- A `\u` escape. -/
def unicodeEscape (n : Nat) : List Char :=
  ['\\', 'u', hexDigit (n / 4096 % 16), hexDigit (n / 256 % 16), hexDigit (n / 16 % 16),
    hexDigit (n % 16)]

/-- The characters written as a `\u` escape: the controls, the ones HTML gives a
meaning to, and the two line separators JavaScript does not accept in a string. -/
def needsUnicode (c : Char) : Bool :=
  c.toNat < 32 || c == '<' || c == '>' || c == '&' || c.toNat == 0x2028 || c.toNat == 0x2029

/-- How one character stands in a string. -/
def escapeChar (c : Char) : List Char :=
  if c = '"' then ['\\', '"']
  else if c = '\\' then ['\\', '\\']
  else if c = '\n' then ['\\', 'n']
  else if c = '\r' then ['\\', 'r']
  else if c = '\t' then ['\\', 't']
  else if c.toNat = 8 then ['\\', 'b']
  else if c.toNat = 12 then ['\\', 'f']
  else if needsUnicode c then unicodeEscape c.toNat
  else [c]

/-- The text of a token. -/
def Token.text : Token → List Char
  | .null => ['n', 'u', 'l', 'l']
  | .bool true => ['t', 'r', 'u', 'e']
  | .bool false => ['f', 'a', 'l', 's', 'e']
  | .number text => text.val
  | .string value => '"' :: (value.flatMap escapeChar ++ ['"'])
  | .openArray => ['[']
  | .closeArray => [']']
  | .openObject => ['{']
  | .closeObject => ['}']
  | .comma => [',']
  | .colon => [':']

/-! ## Scanning -/

/-- The high and the low half of a surrogate pair. -/
def isHigh (n : Nat) : Bool := 0xD800 ≤ n && n < 0xDC00
def isLow (n : Nat) : Bool := 0xDC00 ≤ n && n < 0xE000

/-- A string under construction: what is decided, and a high surrogate that waits
for its other half. -/
structure Partial where
  done : List Char
  high : Option Nat

namespace Partial

def empty : Partial := ⟨[], none⟩

/-- What the string is if nothing more comes: a surrogate left alone is U+FFFD. -/
def finish (p : Partial) : List Char :=
  match p.high with
  | none => p.done
  | some _ => p.done ++ [Char.ofNat 0xFFFD]

/-- A character as written. -/
def pushChar (p : Partial) (c : Char) : Partial := ⟨p.finish ++ [c], none⟩

/-- The code unit of a `\u` escape. -/
def pushUnit (p : Partial) (n : Nat) : Partial :=
  match p.high with
  | some high =>
    if isLow n then
      ⟨p.done ++ [Char.ofNat (0x10000 + (high - 0xD800) * 0x400 + (n - 0xDC00))], none⟩
    else if isHigh n then ⟨p.finish, some n⟩
    else p.pushChar (Char.ofNat n)
  | none =>
    if isHigh n then ⟨p.done, some n⟩
    else if isLow n then p.pushChar (Char.ofNat 0xFFFD)
    else p.pushChar (Char.ofNat n)

end Partial

/-- Where the scanner stands. -/
inductive Mode
  | between
  | word (rest : List Char) (token : Token)
  | number (text : List Char)
  | string (sofar : Partial)
  | escape (sofar : Partial)
  | unicode (sofar : Partial) (value : Nat) (missing : Nat)

/-- The value of a hexadecimal digit. -/
def hexValue (c : Char) : Option Nat :=
  if '0' ≤ c ∧ c ≤ '9' then some (c.toNat - 48)
  else if 'a' ≤ c ∧ c ≤ 'f' then some (c.toNat - 87)
  else if 'A' ≤ c ∧ c ≤ 'F' then some (c.toNat - 55)
  else none

/-- The token a finished number is, if it is one. -/
def numberToken (text : List Char) : Option Token :=
  if h : isNumber text ∧ text.all isNumeric ∧ (text.head?.any startsNumber) then
    some (.number ⟨text, h⟩)
  else none

/-- A character between tokens: the tokens it completes and where it leads. -/
def start (c : Char) : Option (List Token × Mode) :=
  match c with
  | ' ' => some ([], .between)
  | '\t' => some ([], .between)
  | '\n' => some ([], .between)
  | '\r' => some ([], .between)
  | '[' => some ([.openArray], .between)
  | ']' => some ([.closeArray], .between)
  | '{' => some ([.openObject], .between)
  | '}' => some ([.closeObject], .between)
  | ',' => some ([.comma], .between)
  | ':' => some ([.colon], .between)
  | '"' => some ([], .string .empty)
  | 'n' => some ([], .word ['u', 'l', 'l'] .null)
  | 't' => some ([], .word ['r', 'u', 'e'] (.bool true))
  | 'f' => some ([], .word ['a', 'l', 's', 'e'] (.bool false))
  | c => if startsNumber c then some ([], .number [c]) else none

/-- The character after a backslash. -/
def escaped (c : Char) : Option Char :=
  match c with
  | '"' => some '"'
  | '\\' => some '\\'
  | '/' => some '/'
  | 'b' => some (Char.ofNat 8)
  | 'f' => some (Char.ofNat 12)
  | 'n' => some '\n'
  | 'r' => some '\r'
  | 't' => some '\t'
  | _ => none

/-- One character of the scanner. -/
def scanStep (mode : Mode) (c : Char) : Option (List Token × Mode) :=
  match mode with
  | .between => start c
  | .word [] _ => none
  | .word [last] token => if c = last then some ([token], .between) else none
  | .word (next :: rest) token => if c = next then some ([], .word rest token) else none
  | .number text =>
    if isNumeric c then some ([], .number (text ++ [c]))
    else
      match numberToken text, start c with
      | some token, some (tokens, mode) => some (token :: tokens, mode)
      | _, _ => none
  | .string sofar =>
    if c = '"' then some ([.string sofar.finish], .between)
    else if c = '\\' then some ([], .escape sofar)
    else if c.toNat < 32 then none
    else some ([], .string (sofar.pushChar c))
  | .escape sofar =>
    if c = 'u' then some ([], .unicode sofar 0 4)
    else
      match escaped c with
      | some e => some ([], .string (sofar.pushChar e))
      | none => none
  | .unicode sofar value missing =>
    match hexValue c with
    | none => none
    | some digit =>
      if missing ≤ 1 then some ([], .string (sofar.pushUnit (value * 16 + digit)))
      else some ([], .unicode sofar (value * 16 + digit) (missing - 1))

/-- The end of the text. -/
def scanEnd : Mode → Option (List Token)
  | .between => some []
  | .number text => (numberToken text).map ([·])
  | _ => none

/-- Characters to tokens. -/
def scan : Mode → List Char → Option (List Token)
  | mode, [] => scanEnd mode
  | mode, c :: text =>
    match scanStep mode c with
    | none => none
    | some (tokens, next) => (scan next text).map (tokens ++ ·)

/-! ## Values -/

/-- A JSON value.  The fields of an object keep their order and repetitions. -/
inductive Value
  | null
  | bool (value : Bool)
  | number (text : NumberText)
  | string (value : List Char)
  | array (elements : List Value)
  | object (fields : List (List Char × Value))

mutual

/-- The tokens of a value. -/
def tokens : Value → List Token
  | .null => [.null]
  | .bool value => [.bool value]
  | .number text => [.number text]
  | .string value => [.string value]
  | .array [] => [.openArray, .closeArray]
  | .array (first :: rest) => .openArray :: (tokens first ++ tokensElements rest)
  | .object [] => [.openObject, .closeObject]
  | .object ((key, first) :: rest) =>
    .openObject :: .string key :: .colon :: (tokens first ++ tokensFields rest)

/-- The elements of an array after the first, with its bracket. -/
def tokensElements : List Value → List Token
  | [] => [.closeArray]
  | next :: rest => .comma :: (tokens next ++ tokensElements rest)

/-- The fields of an object after the first, with its brace. -/
def tokensFields : List (List Char × Value) → List Token
  | [] => [.closeObject]
  | (key, next) :: rest => .comma :: .string key :: .colon :: (tokens next ++ tokensFields rest)

end

/-- The text of a value. -/
def print (value : Value) : List Char := (tokens value).flatMap Token.text

/-! ## Building -/

/-- An array or an object that is still open. -/
inductive Frame
  | array (elements : List Value)
  | object (fields : List (List Char × Value)) (key : List Char)

/-- What the builder expects next, inside the frames around it. -/
inductive State
  | value (stack : List Frame)
  | firstElement (stack : List Frame)
  | firstKey (stack : List Frame)
  | key (stack : List Frame) (fields : List (List Char × Value))
  | colon (stack : List Frame) (fields : List (List Char × Value)) (key : List Char)
  | done (stack : List Frame) (value : Value)

/-- The first token of a value. -/
def beginValue (stack : List Frame) : Token → Option State
  | .null => some (.done stack .null)
  | .bool value => some (.done stack (.bool value))
  | .number text => some (.done stack (.number text))
  | .string value => some (.done stack (.string value))
  | .openArray => some (.firstElement stack)
  | .openObject => some (.firstKey stack)
  | _ => none

/-- One token of the builder. -/
def buildStep : State → Token → Option State
  | .value stack, token => beginValue stack token
  | .firstElement stack, .closeArray => some (.done stack (.array []))
  | .firstElement stack, token => beginValue (.array [] :: stack) token
  | .firstKey stack, .closeObject => some (.done stack (.object []))
  | .firstKey stack, .string key => some (.colon stack [] key)
  | .key stack fields, .string key => some (.colon stack fields key)
  | .colon stack fields key, .colon => some (.value (.object fields key :: stack))
  | .done (.array elements :: stack) value, .comma =>
    some (.value (.array (elements ++ [value]) :: stack))
  | .done (.array elements :: stack) value, .closeArray =>
    some (.done stack (.array (elements ++ [value])))
  | .done (.object fields key :: stack) value, .comma =>
    some (.key stack (fields ++ [(key, value)]))
  | .done (.object fields key :: stack) value, .closeObject =>
    some (.done stack (.object (fields ++ [(key, value)])))
  | _, _ => none

/-- Tokens to a value. -/
def build (state : State) (input : List Token) : Option State := input.foldlM buildStep state

/-- Read a document. -/
def parse (text : List Char) : Option Value :=
  match scan .between text with
  | none => none
  | some input =>
    match build (.value []) input with
    | some (.done [] value) => some value
    | _ => none

/-! ## Tokens are rebuilt -/

theorem build_cons (state : State) (token : Token) (rest : List Token) :
    build state (token :: rest) = (buildStep state token).bind fun next => build next rest := rfl

theorem build_append (state : State) (first rest : List Token) :
    build state (first ++ rest) = (build state first).bind fun next => build next rest :=
  foldlM_append

/-- No value starts with a closing bracket. -/
private theorem tokens_head (value : Value) :
    ∃ token rest, tokens value = token :: rest ∧ token ≠ .closeArray := by
  cases value with
  | array elements => cases elements <;> exact ⟨_, _, by rw [tokens], by simp⟩
  | object fields =>
    rcases fields with _ | ⟨⟨key, first⟩, rest⟩ <;> exact ⟨_, _, by rw [tokens], by simp⟩
  | _ => exact ⟨_, _, by rw [tokens], by simp⟩

/-- The first element of an array is read like any other value. -/
private theorem build_firstElement (stack : List Frame) (value : Value) (rest : List Token) :
    build (.firstElement stack) (tokens value ++ rest) =
      build (.value (.array [] :: stack)) (tokens value ++ rest) := by
  obtain ⟨token, more, shape, open'⟩ := tokens_head value
  rw [shape, cons_append, build_cons, build_cons]
  cases token <;> first | exact absurd rfl open' | rfl

mutual

/-- The builder reads a value back from its tokens, inside whatever is around it. -/
theorem build_tokens : ∀ (value : Value) (stack : List Frame),
    build (.value stack) (tokens value) = some (.done stack value)
  | .null, stack => by rw [tokens]; rfl
  | .bool value, stack => by rw [tokens]; rfl
  | .number text, stack => by rw [tokens]; rfl
  | .string value, stack => by rw [tokens]; rfl
  | .array [], stack => by rw [tokens]; rfl
  | .array (first :: rest), stack => by
    rw [tokens, build_cons]
    show build (.firstElement stack) (tokens first ++ tokensElements rest) = _
    rw [build_firstElement, build_append, build_tokens first]
    exact build_elements rest [] first stack
  | .object [], stack => by rw [tokens]; rfl
  | .object ((key, first) :: rest), stack => by
    rw [tokens]
    show build (.value (.object [] key :: stack)) (tokens first ++ tokensFields rest) = _
    rw [build_append, build_tokens first]
    exact build_fields rest [] key first stack

/-- The rest of an array. -/
theorem build_elements : ∀ (rest before : List Value) (value : Value) (stack : List Frame),
    build (.done (.array before :: stack) value) (tokensElements rest) =
      some (.done stack (.array (before ++ value :: rest)))
  | [], before, value, stack => by rw [tokensElements]; rfl
  | next :: rest, before, value, stack => by
    rw [tokensElements]
    show build (.value (.array (before ++ [value]) :: stack))
      (tokens next ++ tokensElements rest) = _
    rw [build_append, build_tokens next]
    have := build_elements rest (before ++ [value]) next stack
    simpa using this

/-- The rest of an object. -/
theorem build_fields : ∀ (rest before : List (List Char × Value)) (key : List Char)
    (value : Value) (stack : List Frame),
    build (.done (.object before key :: stack) value) (tokensFields rest) =
      some (.done stack (.object (before ++ (key, value) :: rest)))
  | [], before, key, value, stack => by rw [tokensFields]; rfl
  | (key', next) :: rest, before, key, value, stack => by
    rw [tokensFields]
    show build (.value (.object (before ++ [(key, value)]) key' :: stack))
      (tokens next ++ tokensFields rest) = _
    rw [build_append, build_tokens next]
    have := build_fields rest (before ++ [(key, value)]) key' next stack
    simpa using this

end

/-! ## Text is scanned back -/

variable {c : Char} {text : List Char}

theorem scan_cons {mode next : Mode} {found : List Token}
    (h : scanStep mode c = some (found, next)) :
    scan mode (c :: text) = (scan next text).map (found ++ ·) := by
  rw [scan, h]

/-- A character that completes no token. -/
private theorem scan_skip {mode next : Mode} (h : scanStep mode c = some ([], next)) :
    scan mode (c :: text) = scan next text := by
  rw [scan_cons h]
  simp

@[simp] theorem Partial.finish_pushChar (p : Partial) (c : Char) :
    (p.pushChar c).finish = p.finish ++ [c] := rfl

private theorem hexValue_hexDigit : ∀ d < 16, hexValue (hexDigit d) = some d := by decide

private theorem needsUnicode_small (h : needsUnicode c) : c.toNat < 0x3000 := by
  simp only [needsUnicode, Bool.or_eq_true, decide_eq_true_eq, beq_iff_eq] at h
  rcases h with ((((small | rfl) | rfl) | rfl) | at2028) | at2029
  · omega
  · decide
  · decide
  · decide
  · omega
  · omega

/-- A code unit that is half of no pair is the character it names. -/
private theorem pushUnit_small (small : c.toNat < 0x3000) (p : Partial) :
    p.pushUnit c.toNat = p.pushChar c := by
  have low : isLow c.toNat = false := by simp [isLow]; omega
  have high : isHigh c.toNat = false := by simp [isHigh]; omega
  cases waiting : p.high <;>
    simp [Partial.pushUnit, waiting, low, high, Char.ofNat_toNat]

private theorem scan_backslash (p : Partial) (text : List Char) :
    scan (.string p) ('\\' :: text) = scan (.escape p) text :=
  scan_skip rfl

/-- A `\u` escape is read back as the character it was written for. -/
private theorem scan_unicodeEscape (small : c.toNat < 0x3000) (p : Partial) (text : List Char) :
    scan (.string p) (unicodeEscape c.toNat ++ text) = scan (.string (p.pushChar c)) text := by
  have digit (n : Nat) : hexValue (hexDigit (n % 16)) = some (n % 16) :=
    hexValue_hexDigit _ (Nat.mod_lt _ (by decide))
  have whole : ((c.toNat / 4096 % 16 * 16 + c.toNat / 256 % 16) * 16 +
      c.toNat / 16 % 16) * 16 + c.toNat % 16 = c.toNat := by omega
  simp only [unicodeEscape, cons_append, nil_append]
  rw [scan_backslash, scan_skip (show scanStep (.escape p) 'u' = some ([], .unicode p 0 4) from rfl),
    scan_skip (by simp [scanStep, digit]; rfl), scan_skip (by simp [scanStep, digit]; rfl),
    scan_skip (by simp [scanStep, digit]; rfl), scan_skip (by simp [scanStep, digit]; rfl),
    whole, pushUnit_small small p]

/-- An escaped character is read back. -/
private theorem scan_escapeChar (c : Char) (p : Partial) (text : List Char) :
    scan (.string p) (escapeChar c ++ text) = scan (.string (p.pushChar c)) text := by
  -- a two-character escape: a backslash and the letter that stands for `c`
  have short {letter : Char} (plain : letter ≠ 'u') (stands : escaped letter = some c) :
      scan (.string p) (['\\', letter] ++ text) = scan (.string (p.pushChar c)) text := by
    rw [cons_append, cons_append, nil_append, scan_backslash,
      scan_skip (by simp [scanStep, plain, stands]; rfl)]
  have named {n : Nat} (h : c.toNat = n) : c = Char.ofNat n := by rw [← h, Char.ofNat_toNat]
  unfold escapeChar
  split_ifs with quote backslash newline return' tab back form unicode
  · exact short (by decide) (by rw [quote]; rfl)
  · exact short (by decide) (by rw [backslash]; rfl)
  · exact short (by decide) (by rw [newline]; rfl)
  · exact short (by decide) (by rw [return']; rfl)
  · exact short (by decide) (by rw [tab]; rfl)
  · exact short (by decide) (by rw [named back]; rfl)
  · exact short (by decide) (by rw [named form]; rfl)
  · exact scan_unicodeEscape (needsUnicode_small unicode) p text
  · have printable : ¬ c.toNat < 32 := by
      intro control
      exact unicode (by simp [needsUnicode, control])
    exact scan_skip (by simp [scanStep, quote, backslash, printable])

/-- The rest of a string. -/
private theorem scan_string (value : List Char) (p : Partial) (text : List Char) :
    scan (.string p) (value.flatMap escapeChar ++ '"' :: text) =
      (scan .between text).map (.string (p.finish ++ value) :: ·) := by
  induction value generalizing p with
  | nil => rw [flatMap_nil, nil_append, scan_cons (by rfl)]; simp
  | cons c value ih =>
    rw [flatMap_cons, append_assoc, scan_escapeChar, ih]
    simp

/-- Whether a number ends where this text begins. -/
def Breaks (text : List Char) : Prop := text.head?.all fun c => !isNumeric c

variable {token : Token}

/-- The rest of a number. -/
private theorem scan_number {sofar more : List Char} (numeric : more.all isNumeric)
    (breaks : Breaks text) (is : numberToken (sofar ++ more) = some token) :
    scan (.number sofar) (more ++ text) = (scan .between text).map (token :: ·) := by
  induction more generalizing sofar with
  | nil =>
    rw [append_nil] at is
    cases text with
    | nil => simp [scan, scanEnd, is]
    | cons c =>
      have other : isNumeric c = false := by simpa [Breaks] using breaks
      rw [nil_append, scan, scan]
      simp only [scanStep, other, is]
      cases start c with
      | none => rfl
      | some found =>
        obtain ⟨found, next⟩ := found
        simp [Option.map_map, Function.comp_def]
  | cons c more ih =>
    rw [all_cons, Bool.and_eq_true] at numeric
    rw [cons_append, scan_skip (by simp [scanStep, numeric.1]; rfl)]
    exact ih numeric.2 (by simpa using is)

/-- A number is read back from its own text. -/
private theorem scan_numberText (number : NumberText) (breaks : Breaks text) :
    scan .between (number.val ++ text) = (scan .between text).map (.number number :: ·) := by
  obtain ⟨written, is, numeric, starts⟩ := number
  cases written with
  | nil => simp at starts
  | cons c more =>
    have first : startsNumber c := by simpa using starts
    have token : numberToken ([c] ++ more) = some (.number ⟨c :: more, is, numeric, starts⟩) :=
      dif_pos ⟨is, numeric, starts⟩
    have leads : start c = some ([], .number [c]) := by
      unfold start
      split
      all_goals first | (exfalso; revert first; decide) | exact if_pos first
    rw [all_cons, Bool.and_eq_true] at numeric
    show scan .between (c :: (more ++ text)) = _
    rw [scan_skip (show scanStep .between c = _ from leads)]
    exact scan_number numeric.2 breaks token

/-- A token is read back from its text, if it is not a number that runs on. -/
theorem scan_text (token : Token) (breaks : ∀ number, token = .number number → Breaks text) :
    scan .between (token.text ++ text) = (scan .between text).map (token :: ·) := by
  cases token with
  | number number => exact scan_numberText number (breaks number rfl)
  | string =>
    simp only [Token.text, cons_append, append_assoc, nil_append]
    rw [scan_skip (show scanStep .between '"' = some ([], .string .empty) from rfl), scan_string]
    rfl
  | bool value => cases value <;> simp [Token.text, scan, scanStep, start, Function.comp_def]
  | _ => simp [Token.text, scan, scanStep, start, Function.comp_def]

/-- Every token but a number ends where its text does. -/
private theorem breaks_cons (input : List Token) (other : ∀ number, token ≠ .number number) :
    Breaks ((token :: input).flatMap Token.text) := by
  cases token with
  | number number => exact absurd rfl (other number)
  | bool value => cases value <;> rfl
  | _ => rfl

/-- The texts of the tokens are scanned back to exactly these tokens. -/
private def Scans (input : List Token) : Prop :=
  scan .between (input.flatMap Token.text) = some input

variable {input : List Token}

private theorem Scans.cons
    (breaks : ∀ number, token = .number number → Breaks (input.flatMap Token.text))
    (h : Scans input) : Scans (token :: input) := by
  rw [Scans, flatMap_cons, scan_text token breaks, h]
  rfl

private theorem breaks_elements (rest : List Value) (input : List Token) :
    Breaks ((tokensElements rest ++ input).flatMap Token.text) := by
  cases rest <;> rw [tokensElements] <;> exact breaks_cons _ (by simp)

private theorem breaks_fields (rest : List (List Char × Value)) (input : List Token) :
    Breaks ((tokensFields rest ++ input).flatMap Token.text) := by
  rcases rest with _ | ⟨⟨key, next⟩, rest⟩ <;> rw [tokensFields] <;> exact breaks_cons _ (by simp)

mutual

/-- A value is scanned back before whatever is, unless that goes on with a number. -/
private theorem scans_tokens : ∀ (value : Value) {input : List Token},
    Breaks (input.flatMap Token.text) → Scans input → Scans (tokens value ++ input)
  | .null, _, breaks, h => by rw [tokens]; exact h.cons fun _ _ => breaks
  | .bool value, _, breaks, h => by rw [tokens]; exact h.cons fun _ _ => breaks
  | .number number, _, breaks, h => by rw [tokens]; exact h.cons fun _ _ => breaks
  | .string value, _, breaks, h => by rw [tokens]; exact h.cons fun _ _ => breaks
  | .array [], _, _, h => by
    rw [tokens]
    exact .cons (by simp) (.cons (by simp) h)
  | .array (first :: rest), input, _, h => by
    rw [tokens, cons_append, append_assoc]
    exact .cons (by simp) (scans_tokens first (breaks_elements rest input) (scans_elements rest h))
  | .object [], _, _, h => by
    rw [tokens]
    exact .cons (by simp) (.cons (by simp) h)
  | .object ((key, first) :: rest), input, _, h => by
    rw [tokens, cons_append, cons_append, cons_append, append_assoc]
    exact .cons (by simp) (.cons (by simp) (.cons (by simp)
      (scans_tokens first (breaks_fields rest input) (scans_fields rest h))))

private theorem scans_elements : ∀ (rest : List Value) {input : List Token}, Scans input →
    Scans (tokensElements rest ++ input)
  | [], _, h => by rw [tokensElements]; exact h.cons (by simp)
  | next :: rest, input, h => by
    rw [tokensElements, cons_append, append_assoc]
    exact .cons (by simp) (scans_tokens next (breaks_elements rest input) (scans_elements rest h))

private theorem scans_fields : ∀ (rest : List (List Char × Value)) {input : List Token},
    Scans input → Scans (tokensFields rest ++ input)
  | [], _, h => by rw [tokensFields]; exact h.cons (by simp)
  | (key, next) :: rest, input, h => by
    rw [tokensFields, cons_append, cons_append, cons_append, append_assoc]
    exact .cons (by simp) (.cons (by simp) (.cons (by simp)
      (scans_tokens next (breaks_fields rest input) (scans_fields rest h))))

end

/-- **Every value is read back from its own text.** -/
theorem parse_print (value : Value) : parse (print value) = some value := by
  have scanned : Scans (tokens value ++ []) := scans_tokens value rfl rfl
  rw [append_nil] at scanned
  rw [parse, print, scanned]
  simp only [build_tokens]

/-! ## Go values

Decoding fills a variable that already has a value: `null` leaves a string or a
flag as it is, an element of an array is decoded over the element that is there,
and a field of an object is found by its name, letter case aside. -/

/-- Decode into a `string`. -/
def intoString (old : String) : Value → Option String
  | .null => some old
  | .string value => some (String.ofList value)
  | _ => none

/-- Decode into a `bool`. -/
def intoBool (old : Bool) : Value → Option Bool
  | .null => some old
  | .bool value => some value
  | _ => none

/-- Decode the elements of an array over those of a `[]string`. -/
def intoElements : List String → List Value → Option (List String)
  | _, [] => some []
  | old, value :: values => do
    let first ← intoString (old.headD "") value
    let rest ← intoElements old.tail values
    return first :: rest

/-- Decode into a `[]string`. -/
def intoStrings (old : List String) : Value → Option (List String)
  | .null => some []
  | .array values => intoElements old values
  | _ => none

/-- The simple case folding of a character against the ASCII letters. -/
def foldChar (c : Char) : Char :=
  if c.toNat = 0x17F then 's' else if c.toNat = 0x212A then 'k' else c.toLower

/-- Whether an object key names a field: exactly, or up to the case of letters. -/
def names (field : String) (key : List Char) : Bool :=
  key.map foldChar == field.toList.map foldChar

/-- Decode into a `map[string][]string`: the last of the fields of a name counts, and a name
whose value is `null` has no strings. -/
def intoStringsMap : Value → Option (List (String × List String))
  | .null => some []
  | .object fields => fields.foldlM (fun map field => do
    let strings ← intoStrings [] field.2
    return (String.ofList field.1, strings) :: map) []
  | _ => none

/-- Decode an object into a record, one field after the other; `set` finds the
field of a key, and leaves the record alone when there is none. -/
def intoRecord {σ : Type} (set : List Char → Value → σ → Option σ) (old : σ) :
    Value → Option σ
  | .null => some old
  | .object fields => fields.foldlM (fun record field => set field.1 field.2 record) old
  | _ => none

/-- The value of a `string`. -/
def ofString (s : String) : Value := .string s.toList

/-- The value of a `[]string`. -/
def ofStrings (l : List String) : Value := .array (l.map ofString)

/-- A `string` that is not empty, as a field. -/
def stringField (name : String) (s : String) : List (List Char × Value) :=
  if s = "" then [] else [(name.toList, ofString s)]

/-- A `[]string` that is not empty, as a field. -/
def stringsField (name : String) (l : List String) : List (List Char × Value) :=
  if l = [] then [] else [(name.toList, ofStrings l)]

variable {name : String} {l : List String}

theorem mem_stringsField {field : List Char × Value} :
    field ∈ stringsField name l ↔ l ≠ [] ∧ field = (name.toList, ofStrings l) := by
  unfold stringsField
  by_cases empty : l = [] <;> simp [empty]

variable {s : String}

theorem mem_stringField {field : List Char × Value} :
    field ∈ stringField name s ↔ s ≠ "" ∧ field = (name.toList, ofString s) := by
  unfold stringField
  by_cases empty : s = "" <;> simp [empty]

/-- A flag that is set, as a field. -/
def boolField (name : String) (b : Bool) : List (List Char × Value) :=
  if b then [(name.toList, .bool true)] else []

@[simp] theorem intoString_ofString (old s : String) : intoString old (ofString s) = some s := by
  simp [intoString, ofString]

theorem intoElements_ofString (l : List String) (old : List String) :
    intoElements old (l.map ofString) = some l := by
  induction l generalizing old with
  | nil => rfl
  | cons s l ih => simp [intoElements, ih]

@[simp] theorem intoStrings_ofStrings (old l : List String) :
    intoStrings old (ofStrings l) = some l :=
  intoElements_ofString l old

/-- The value of a `map[string][]string`.  A nil slice is `null`. -/
def ofStringsMap (map : List (String × Option (List String))) : Value :=
  .object (map.map fun field => (field.1.toList, (field.2.map ofStrings).getD .null))

theorem intoStringsMap_ofStringsMap (map : List (String × Option (List String))) :
    intoStringsMap (ofStringsMap map) =
      some (map.map fun field => (field.1, field.2.getD [])).reverse := by
  have loop : ∀ (map : List (String × Option (List String))) (before : List (String × List String)),
      (map.map fun field => (field.1.toList, (field.2.map ofStrings).getD .null)).foldlM
        (fun (map : List (String × List String)) (field : List Char × Value) => do
          let strings ← intoStrings [] field.2
          return (String.ofList field.1, strings) :: map) before =
        some ((map.map fun field => (field.1, field.2.getD [])).reverse ++ before) := by
    intro map
    induction map with
    | nil => exact fun before => rfl
    | cons field map ih =>
      intro before
      obtain ⟨name, strings⟩ := field
      have decoded : intoStrings [] ((strings.map ofStrings).getD .null) = some (strings.getD []) := by
        cases strings with
        | none => rfl
        | some l => exact intoStrings_ofStrings [] l
      rw [map_cons, foldlM_cons]
      simp only [decoded, String.ofList_toList]
      refine (ih _).trans ?_
      simp
  rw [ofStringsMap, intoStringsMap, loop, append_nil]

/-! ## Parts of a text -/

variable {value : Value}

/-- The text of a token stands in the text of a value that has it. -/
theorem infix_print (member : token ∈ tokens value) : token.text <:+: print value := by
  obtain ⟨before, after, shape⟩ := append_of_mem member
  exact ⟨before.flatMap Token.text, after.flatMap Token.text, by simp [print, shape]⟩

theorem mem_tokensElements {element : Value} {elements : List Value} (member : element ∈ elements)
    (inside : token ∈ tokens element) : token ∈ (tokensElements elements).tail := by
  induction elements with
  | nil => cases member
  | cons first rest ih =>
    rw [tokensElements, tail_cons]
    rcases mem_cons.mp member with rfl | member
    · exact mem_append_left _ inside
    · exact mem_append_right _ (mem_of_mem_tail (ih member))

theorem mem_tokensFields {key : List Char} {fields : List (List Char × Value)}
    (member : (key, value) ∈ fields) (inside : token ∈ tokens value) :
    token ∈ (tokensFields fields).tail := by
  induction fields with
  | nil => cases member
  | cons first rest ih =>
    obtain ⟨key', first⟩ := first
    rw [tokensFields, tail_cons]
    simp only [mem_cons, mem_append]
    rcases mem_cons.mp member with same | member
    · cases same
      exact .inr (.inr (.inl inside))
    · exact .inr (.inr (.inr (mem_of_mem_tail (ih member))))

theorem mem_tokens_array {element : Value} {elements : List Value} (member : element ∈ elements)
    (inside : token ∈ tokens element) : token ∈ tokens (.array elements) := by
  have among := mem_tokensElements member inside
  cases elements with
  | nil => cases member
  | cons =>
    rw [tokensElements] at among
    rw [tokens]
    exact mem_cons_of_mem _ among

theorem mem_tokens_object {key : List Char} {fields : List (List Char × Value)}
    (member : (key, value) ∈ fields) (inside : token ∈ tokens value) :
    token ∈ tokens (.object fields) := by
  have among := mem_tokensFields member inside
  cases fields with
  | nil => cases member
  | cons =>
    rw [tokensFields] at among
    rw [tokens]
    exact mem_cons_of_mem _ among

/-- The quoted text of a string stands in the text of a list that has it. -/
theorem infix_print_ofStrings (member : s ∈ l) : print (ofString s) <:+: print (ofStrings l) := by
  have token : Token.string s.toList ∈ tokens (ofStrings l) :=
    mem_tokens_array (mem_map_of_mem member) (by simp [ofString, tokens])
  simpa [print, ofString, tokens] using infix_print token

/-- ... and in that of a map one of whose lists has it. -/
theorem infix_print_ofStringsMap {map : List (String × Option (List String))}
    (field : (name, some l) ∈ map) (member : s ∈ l) :
    print (ofString s) <:+: print (ofStringsMap map) := by
  have token : Token.string s.toList ∈ tokens (ofStringsMap map) :=
    mem_tokens_object (mem_map_of_mem field)
      (mem_tokens_array (mem_map_of_mem member) (by simp [ofString, tokens]))
  simpa [print, ofString, tokens] using infix_print token

end Json
