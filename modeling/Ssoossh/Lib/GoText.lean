import Mathlib.Algebra.Group.Nat.Defs
import Mathlib.Data.List.Basic

/-!
# Text and bytes as Go's standard library has them

`strings.TrimSpace`, and the two encodings of random bytes a server hands out:
unpadded URL-safe Base64 (`encoding/base64`), and a big-endian integer.
-/

namespace GoText

/-- `unicode.IsSpace`. -/
def isSpace (c : Char) : Bool :=
  [0x09, 0x0A, 0x0B, 0x0C, 0x0D, 0x20, 0x85, 0xA0, 0x1680, 0x2028, 0x2029, 0x202F, 0x205F,
    0x3000].contains c.toNat || (0x2000 ≤ c.toNat && c.toNat ≤ 0x200A)

/-- `strings.TrimSpace`. -/
def trimSpace (text : String) : String :=
  String.ofList (((text.toList.dropWhile isSpace).reverse.dropWhile isSpace).reverse)

/-- The symbols of the URL-safe alphabet. -/
def base64Symbols : List Char :=
  "ABCDEFGHIJKLMNOPQRSTUVWXYZabcdefghijklmnopqrstuvwxyz0123456789-_".toList

/-- One symbol for six bits. -/
def base64Symbol (n : Nat) : Char := base64Symbols.getD (n % 64) 'A'

/-- `base64.RawURLEncoding`: three bytes become four symbols, and a rest of one or
two bytes becomes two or three. -/
def rawURLEncode : List UInt8 → List Char
  | [] => []
  | [a] =>
    let n := a.toNat * 2 ^ 16
    [base64Symbol (n / 2 ^ 18), base64Symbol (n / 2 ^ 12)]
  | [a, b] =>
    let n := a.toNat * 2 ^ 16 + b.toNat * 2 ^ 8
    [base64Symbol (n / 2 ^ 18), base64Symbol (n / 2 ^ 12), base64Symbol (n / 2 ^ 6)]
  | a :: b :: c :: rest =>
    let n := a.toNat * 2 ^ 16 + b.toNat * 2 ^ 8 + c.toNat
    base64Symbol (n / 2 ^ 18) :: base64Symbol (n / 2 ^ 12) :: base64Symbol (n / 2 ^ 6) ::
      base64Symbol n :: rawURLEncode rest

/-- Some bytes encode to some symbols. -/
theorem rawURLEncode_ne_nil {bytes : List UInt8} (some : bytes ≠ []) : rawURLEncode bytes ≠ [] := by
  fun_cases rawURLEncode bytes <;> simp_all

example : String.ofList (rawURLEncode [0xFB, 0xFF, 0x01, 0x02]) = "-_8BAg" := by decide

/-- The big-endian integer of some bytes. -/
def bigEndian (bytes : List UInt8) : Nat := bytes.foldl (fun n b => n * 256 + b.toNat) 0

end GoText
