import Mathlib.Algebra.Order.Group.Int
import Mathlib.Tactic.Ring

/-!
# Times, durations and the integers under them

Go's `time.Time` and `time.Duration` as the programs compute with them.  A
`Duration` is a count of nanoseconds in an `int64` and a `Time` is the instant a
count of nanoseconds after the Unix epoch; both are plain `Int` here, and every
place where the language's own arithmetic differs from the integers is its own
definition: quotients truncate toward zero (`Duration.quot`), the difference of
two times saturates at the ends of `int64` (`Time.sub`), `Unix` rounds down, and
a conversion to `uint64` wraps.

The zero `Time` is *not* the epoch: it is midnight of the first of January of
year 1, which `IsZero` tests for and which a formatted or stored "no time" is.
-/

namespace GoTime

/-- The largest `int64`. -/
def maxInt64 : Int := 9223372036854775807

/-- The smallest `int64`. -/
def minInt64 : Int := -9223372036854775808

/-- Two's complement reduction to `int64`. -/
def wrapInt64 (n : Int) : Int := (n + 9223372036854775808) % 18446744073709551616 - 9223372036854775808

/-- Conversion to `uint64`. -/
def toUint64 (n : Int) : Nat := (n % 18446744073709551616).toNat

theorem wrapInt64_of_mem {n : Int} (low : minInt64 ≤ n) (high : n ≤ maxInt64) :
    wrapInt64 n = n := by
  unfold wrapInt64
  unfold minInt64 at low
  unfold maxInt64 at high
  omega

theorem toUint64_of_nonneg {n : Int} (low : 0 ≤ n) (high : n < 18446744073709551616) :
    (toUint64 n : Int) = n := by
  unfold toUint64
  omega

/-! ## Durations -/

namespace Duration

def microsecond : Int := 1000
def millisecond : Int := 1000000
def second : Int := 1000000000
def minute : Int := 60000000000

/-- Whether a count of nanoseconds is a `Duration`. -/
def Fits (d : Int) : Prop := minInt64 ≤ d ∧ d ≤ maxInt64

instance (d : Int) : Decidable (Fits d) := inferInstanceAs (Decidable (_ ∧ _))

/-- The quotient of two durations, truncated toward zero. -/
def quot (a b : Int) : Int := Int.tdiv a b

/-- Truncation toward zero never exceeds a non-negative dividend. -/
theorem quot_second_mul_le {d : Int} (h : 0 ≤ d) : quot d second * second ≤ d := by
  rw [quot, Int.tdiv_eq_ediv_of_nonneg h]
  unfold second
  omega

/-- ... and rounds a negative one up, past it by less than a second and not past zero. -/
theorem quot_second_mul_of_nonpos {d : Int} (h : d ≤ 0) :
    quot d second * second ≤ 0 ∧ quot d second * second < d + second := by
  unfold quot second
  rw [Int.tdiv_eq_ediv, show Int.sign 1000000000 = 1 from rfl]
  split <;> omega

/-- A count of whole seconds taken out of an `int64` duration fits back into one. -/
theorem wrap_quot_second {d : Int} (fits : Fits d) :
    wrapInt64 (quot d second * second) = quot d second * second := by
  obtain ⟨low, high⟩ := fits
  unfold minInt64 at low
  unfold maxInt64 at high
  unfold wrapInt64 quot second
  rw [Int.tdiv_eq_ediv, show Int.sign 1000000000 = 1 from rfl]
  split <;> omega

/-- Trailing zeros of a fraction of `width` digits are dropped; a zero fraction is
empty, point included. -/
def fraction (n width : Nat) : String :=
  let digits := (Nat.toDigits 10 n)
  let padded := List.replicate (width - digits.length) '0' ++ digits
  let kept := (padded.reverse.dropWhile (· == '0')).reverse
  if n == 0 then "" else "." ++ String.ofList kept

/-- The magnitude of `Duration.String`: a unit below a second is chosen so that
the leading digit is not zero, above it the text is hours, minutes and seconds. -/
def formatNat (n : Nat) : String :=
  if n == 0 then "0s"
  else if n < 1000 then s!"{n}ns"
  else if n < 1000000 then toString (n / 1000) ++ fraction (n % 1000) 3 ++ "µs"
  else if n < 1000000000 then toString (n / 1000000) ++ fraction (n % 1000000) 6 ++ "ms"
  else
    let seconds := n / 1000000000
    let tail := toString (seconds % 60) ++ fraction (n % 1000000000) 9 ++ "s"
    let minutes := seconds / 60
    if minutes == 0 then tail
    else if minutes / 60 == 0 then toString minutes ++ "m" ++ tail
    else toString (minutes / 60) ++ "h" ++ toString (minutes % 60) ++ "m" ++ tail

/-- `Duration.String`. -/
def format (d : Int) : String :=
  if d < 0 then "-" ++ formatNat d.natAbs else formatNat d.natAbs

example : format (90 * minute + 1500 * millisecond) = "1h30m1.5s" := by decide

example : format (-1500 * microsecond) = "-1.5ms" := by decide

end Duration

/-! ## Times -/

namespace Time

/-- `time.Time{}`. -/
def zero : Int := -62135596800000000000

/-- `Time.IsZero`. -/
def isZero (t : Int) : Bool := t == zero

/-- `Time.Add`. -/
def add (t : Int) (d : Int) : Int := t + d

/-- `Time.Sub`, saturating. -/
def sub (t u : Int) : Int := max minInt64 (min maxInt64 (t - u))

/-- `Time.Before`. -/
def before (t u : Int) : Bool := decide (t < u)

/-- `Time.After`. -/
def after (t u : Int) : Bool := decide (u < t)

/-- `Time.Unix`: whole seconds since the epoch, rounded down. -/
def unix (t : Int) : Int := t / Duration.second

/-- `Time.Truncate`: down to a multiple of `d` since the zero time. -/
def truncate (t : Int) (d : Int) : Int := t - (t - zero) % d

@[simp] theorem before_iff {t u : Int} : before t u = true ↔ t < u := by simp [before]

@[simp] theorem after_iff {t u : Int} : after t u = true ↔ u < t := by simp [after]

theorem sub_of_mem {t u : Int} (low : minInt64 ≤ t - u) (high : t - u ≤ maxInt64) :
    sub t u = t - u := by
  rw [sub, min_eq_right high, max_eq_right low]

end Time

end GoTime
