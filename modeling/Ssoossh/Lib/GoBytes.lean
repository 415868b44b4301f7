import Mathlib.Data.List.TakeWhile
import Ssoossh.Lib.GoText

/-!
# Go strings as their bytes

A Go string is any sequence of bytes, and a program that reads files and compares names
byte for byte depends on that.  Here are the functions of the standard library over such
strings: `bufio.Scanner` by lines with its limit, `strconv.ParseUint`, `filepath.Clean` of a
rooted path, and a map that keeps the first value of a key.
-/

namespace GoBytes

/-- A Go string. -/
abbrev Bytes := List UInt8

/-- The bytes of a literal. -/
def ofString (text : String) : Bytes := text.toUTF8.toList

/-- The byte of an ASCII character. -/
def byte (c : Char) : UInt8 := c.toNat.toUInt8

/-- `utf8.ValidString`. -/
def validString (text : Bytes) : Bool := (ByteArray.mk text.toArray).validateUTF8

/-- The characters of a valid string. -/
def runes (text : Bytes) : List Char :=
  ((String.fromUTF8? (ByteArray.mk text.toArray)).map String.toList).getD []

/-- `strings.HasPrefix`. -/
def hasPrefix (text start : Bytes) : Bool := start.isPrefixOf text

/-- `strings.HasSuffix`. -/
def hasSuffix (text ending : Bytes) : Bool := ending.isSuffixOf text

/-! ## Lines -/

/-- The lines of a text, the last one with or without its newline. -/
def rawLines (data : Bytes) : List Bytes :=
  let parts := data.splitOn (byte '\n')
  if parts.getLast? = some [] then parts.dropLast else parts

/-- A carriage return before the newline belongs to it. -/
def dropCR (line : Bytes) : Bytes :=
  if line.getLast? = some (byte '\r') then line.dropLast else line

/-- The lines of a file. -/
def fileLines (data : Bytes) : List Bytes := (rawLines data).map dropCR

/-- `bufio.Scanner` by lines: a line that does not fit into the buffer with its newline ends
the scan. -/
def scanLines (maxTokenSize : Nat) (data : Bytes) : List Bytes :=
  ((rawLines data).takeWhile fun line => decide (line.length < maxTokenSize)).map dropCR

/-- What is scanned is the file up to some line. -/
theorem scanLines_isPrefix (maxTokenSize : Nat) (data : Bytes) :
    ∃ rest, fileLines data = scanLines maxTokenSize data ++ rest := by
  refine ⟨((rawLines data).dropWhile fun line => decide (line.length < maxTokenSize)).map dropCR, ?_⟩
  rw [scanLines, ← List.map_append, List.takeWhile_append_dropWhile, fileLines]

/-- The first line of a text, with its newline. -/
theorem rawLines_line {line : Bytes} (whole : byte '\n' ∉ line) (rest : Bytes) :
    rawLines (line ++ byte '\n' :: rest) = line :: rawLines rest := by
  have parts : (line ++ byte '\n' :: rest).splitOn (byte '\n') =
      line :: rest.splitOn (byte '\n') := by
    have apart : ∀ b ∈ line, (b == byte '\n') = false := by
      intro b own
      exact beq_eq_false_iff_ne.mpr fun same => whole (same ▸ own)
    exact List.splitOnP_append_cons_of_forall_mem apart _ (beq_self_eq_true (byte '\n')) rest
  have some : rest.splitOn (byte '\n') ≠ [] := List.splitOnP_ne_nil _ _
  have ends : (line :: rest.splitOn (byte '\n')).getLast? = (rest.splitOn (byte '\n')).getLast? := by
    rw [List.getLast?_cons, List.getLast?_eq_getLast_of_ne_nil some, Option.getD_some]
  rw [rawLines, rawLines, parts, ends, List.dropLast_cons_of_ne_nil some]
  split
  · rfl
  · rfl

/-- A scan takes the lines of a text one by one, until one does not fit. -/
theorem scanLines_line {line : Bytes} (whole : byte '\n' ∉ line) (maxTokenSize : Nat) (rest : Bytes) :
    scanLines maxTokenSize (line ++ byte '\n' :: rest) =
      if line.length < maxTokenSize then dropCR line :: scanLines maxTokenSize rest else [] := by
  simp only [scanLines, rawLines_line whole, List.takeWhile_cons, decide_eq_true_eq]
  split
  · rfl
  · rfl

/-! ## Numbers -/

/-- Whether a byte is a digit. -/
def isDigit (b : UInt8) : Bool := byte '0' ≤ b && b ≤ byte '9'

/-- `strconv.ParseUint` in base ten, for numbers of some bits. -/
def parseUint (bits : Nat) (text : Bytes) : Option Nat :=
  if text ≠ [] ∧ text.all isDigit then
    let n := text.foldl (fun n b => 10 * n + (b - byte '0').toNat) 0
    if n < 2 ^ bits then some n else none
  else none

/-- `strconv.FormatUint` in base ten. -/
def formatUint (n : Nat) : Bytes := (Nat.toDigits 10 n).map byte

/-! ## Paths -/

/-- The elements of a cleaned rooted path: `.` and empty elements go, and `..` takes the
element before it along. -/
def cleanElements : List Bytes → List Bytes → List Bytes
  | kept, [] => kept.reverse
  | kept, element :: rest =>
    if element = [] ∨ element = ofString "." then cleanElements kept rest
    else if element = ofString ".." then cleanElements kept.tail rest
    else cleanElements (element :: kept) rest

/-- `filepath.Clean`, of a rooted path. -/
def cleanRooted (path : Bytes) : Bytes :=
  byte '/' :: [byte '/'].intercalate (cleanElements [] (path.splitOn (byte '/')))

example : cleanRooted (ofString "/a//b/../c/") = ofString "/a/c" := by decide +kernel

end GoBytes

/-! ## Maps that keep the first value -/

namespace FirstWins

variable {κ ν : Type} [BEq κ] [LawfulBEq κ]

/-- Add a pair unless the key is there. -/
def add (map : List (κ × ν)) (key : κ) (value : ν) : List (κ × ν) :=
  if (map.lookup key).isSome then map else map ++ [(key, value)]

theorem lookup_add (map : List (κ × ν)) (key : κ) (value : ν) (k : κ) :
    (add map key value).lookup k = (map.lookup k).or (if k == key then some value else none) := by
  unfold add
  by_cases there : (map.lookup key).isSome = true
  · rw [if_pos there]
    by_cases same : k = key
    · rw [same, Option.or_of_isSome there]
    · have differ : (k == key) = false := by simpa using same
      simp [differ]
  · rw [if_neg there, List.lookup_append, List.lookup_cons]
    cases k == key <;> rfl

/-- Add what each element gives, if it gives anything. -/
def collect {α : Type} (pair? : α → Option (κ × ν)) (map : List (κ × ν)) (l : List α) :
    List (κ × ν) :=
  l.foldl (fun map a => match pair? a with
    | some (key, value) => add map key value
    | none => map) map

/-- The value of a key is that of the first element that gives one. -/
theorem lookup_collect {α : Type} (pair? : α → Option (κ × ν)) (map : List (κ × ν)) (l : List α)
    (k : κ) :
    (collect pair? map l).lookup k = (map.lookup k).or
      ((l.find? fun a => (pair? a).any fun pair => k == pair.1).bind fun a =>
        (pair? a).map Prod.snd) := by
  induction l generalizing map with
  | nil => simp [collect]
  | cons a l ih =>
    rw [List.find?_cons]
    cases given : pair? a with
    | none =>
      have skip : collect pair? map (a :: l) = collect pair? map l := by
        simp [collect, given]
      rw [skip, ih]
      rfl
    | some pair =>
      have added : collect pair? map (a :: l) = collect pair? (add map pair.1 pair.2) l := by
        simp [collect, given]
      rw [added, ih, lookup_add, Option.or_assoc, Option.any_some]
      cases k == pair.1 with
      | true => simp [given]
      | false => simp

end FirstWins
