import Mathlib.Data.List.Basic
import Mathlib.Data.BitVec

/-!
# Addresses and networks

Go's `net/netip`: the text forms of an IP address and of a CIDR network, and
whether a network contains an address.  What is accepted follows the standard
library field by field: an IPv4 octet has no leading zero, an IPv6 address has
at most one `::`, which stands for at least one group, may end in a dotted
quad, and may carry a zone; a prefix carries none, and its length is written
without sign or leading zero.
-/

namespace NetIP

/-- An IP address.  A zone belongs to IPv6 only, and is empty when there is none. -/
inductive Addr
  | v4 (bits : BitVec 32)
  | v6 (bits : BitVec 128) (zone : String)
  deriving DecidableEq, Repr

/-- A network: the address as written, and how many of its bits count. -/
structure Prefix where
  addr : Addr
  bits : Nat
  deriving DecidableEq, Repr

/-! ## Reading -/

/-- A decimal number made of digits only. -/
def decimal (text : List Char) : Option Nat :=
  if text.isEmpty || !text.all Char.isDigit then none
  else some (text.foldl (fun n c => n * 10 + (c.toNat - 48)) 0)

/-- One octet: at most 255, and no leading zero. -/
def octet (text : List Char) : Option Nat :=
  match decimal text with
  | none => none
  | some n => if n > 255 || (text.length > 1 && text.head? == some '0') then none else some n

/-- A dotted quad. -/
def parseIPv4 (text : List Char) : Option (BitVec 32) :=
  match (text.splitOn '.').mapM octet with
  | some [a, b, c, d] => some (BitVec.ofNat 32 (((a * 256 + b) * 256 + c) * 256 + d))
  | _ => none

/-- A hexadecimal digit. -/
def hexValue (c : Char) : Option Nat :=
  if '0' ≤ c ∧ c ≤ '9' then some (c.toNat - 48)
  else if 'a' ≤ c ∧ c ≤ 'f' then some (c.toNat - 87)
  else if 'A' ≤ c ∧ c ≤ 'F' then some (c.toNat - 55)
  else none

/-- The hexadecimal digits a group starts with. -/
def hexDigits (text : List Char) : List Char := text.takeWhile fun c => (hexValue c).isSome

/-- The groups of an IPv6 address after `groups`, with the place of `::`.  `room`
counts the groups that still fit. -/
def parseGroups : (room : Nat) → (groups : List Nat) → (ellipsis : Option Nat) → List Char →
    Option (List Nat × Option Nat × List Char)
  | 0, groups, ellipsis, text => some (groups, ellipsis, text)
  | room + 1, groups, ellipsis, text =>
    let digits := hexDigits text
    let rest := text.drop digits.length
    if digits.isEmpty || digits.length > 4 then none
    else if rest.head? == some '.' then
      if (ellipsis.isNone && groups.length != 6) || groups.length > 6 then none
      else
        match parseIPv4 text with
        | none => none
        | some quad => some (groups ++ [quad.toNat / 65536, quad.toNat % 65536], ellipsis, [])
    else
      let value := digits.foldl (fun n c => n * 16 + (hexValue c).getD 0) 0
      let groups := groups ++ [value]
      match rest with
      | [] => some (groups, ellipsis, [])
      | ':' :: [] => none
      | ':' :: ':' :: more =>
        if ellipsis.isSome then none
        else if more.isEmpty then some (groups, some groups.length, [])
        else parseGroups room groups (some groups.length) more
      | ':' :: more => parseGroups room groups ellipsis more
      | _ => none

/-- The eight groups, `::` expanded. -/
def expand (groups : List Nat) : Option Nat → Option (List Nat)
  | none => if groups.length = 8 then some groups else none
  | some at' =>
    if groups.length < 8 then
      some (groups.take at' ++ List.replicate (8 - groups.length) 0 ++ groups.drop at')
    else none

/-- An IPv6 address. -/
def parseIPv6 (text : List Char) : Option Addr :=
  let body := text.takeWhile (· != '%')
  let zone := (text.drop body.length).drop 1
  if body.length < text.length && zone.isEmpty then none
  else
    let parsed := match body with
      | ':' :: ':' :: [] => some ([], some 0, [])
      | ':' :: ':' :: more => parseGroups 8 [] (some 0) more
      | _ => parseGroups 8 [] none body
    match parsed with
    | some (groups, ellipsis, []) =>
      (expand groups ellipsis).map fun all =>
        .v6 (BitVec.ofNat 128 (all.foldl (fun n g => n * 65536 + g) 0)) (String.ofList zone)
    | _ => none

/-- `netip.ParseAddr`: the first of `.`, `:` and `%` decides what is read. -/
def parseAddr (text : String) : Option Addr :=
  match text.toList.find? fun c => c == '.' || c == ':' || c == '%' with
  | some '.' => (parseIPv4 text.toList).map .v4
  | some ':' => parseIPv6 text.toList
  | _ => none

/-- The length after the slash. -/
def prefixLength (text : List Char) : Option Nat :=
  if text.length > 1 && text.head? == some '0' then none else decimal text

/-- The number of bits of an address. -/
def Addr.bitLen : Addr → Nat
  | .v4 _ => 32
  | .v6 _ _ => 128

/-- Whether an address has a zone. -/
def Addr.hasZone : Addr → Bool
  | .v4 _ => false
  | .v6 _ zone => zone != ""

/-- `netip.ParsePrefix`: split at the last slash. -/
def parsePrefix (text : String) : Option Prefix :=
  let reversed := text.toList.reverse
  let bits := (reversed.takeWhile (· != '/')).reverse
  match reversed.drop bits.length with
  | '/' :: front =>
    match parseAddr (String.ofList front.reverse), prefixLength bits with
    | some addr, some n =>
      if addr.hasZone || n > addr.bitLen then none else some ⟨addr, n⟩
    | _, _ => none
  | _ => none

/-! ## Meaning -/

/-- `Addr.Unmap`: an IPv4 address written as `::ffff:a.b.c.d` is that address. -/
def Addr.unmap : Addr → Addr
  | .v4 bits => .v4 bits
  | .v6 bits zone =>
    if bits.toNat / 2 ^ 32 = 0xFFFF then .v4 (BitVec.ofNat 32 bits.toNat) else .v6 bits zone

/-- `Prefix.Contains`: same family, no zone, and the leading bits agree. -/
def Prefix.contains (p : Prefix) (addr : Addr) : Bool :=
  match p.addr, addr with
  | .v4 net, .v4 host => net.toNat / 2 ^ (32 - p.bits) == host.toNat / 2 ^ (32 - p.bits)
  | .v6 net _, .v6 host zone =>
    zone == "" && net.toNat / 2 ^ (128 - p.bits) == host.toNat / 2 ^ (128 - p.bits)
  | _, _ => false

/-- `net.IP.IsLinkLocalUnicast`: `169.254.0.0/16` and `fe80::/10`. -/
def Addr.isLinkLocalUnicast (addr : Addr) : Bool :=
  match addr.unmap with
  | .v4 bits => bits.toNat / 2 ^ 16 == 0xA9FE
  | .v6 bits _ => bits.toNat / 2 ^ 118 == 0x3FA

/-- `net.ParseIP`: an address without a zone. -/
def parseIP (text : String) : Option Addr := (parseAddr text).filter fun addr => !addr.hasZone

/-! ## Printing -/

/-- The dotted quad. -/
def formatIPv4 (bits : BitVec 32) : String :=
  let n := bits.toNat
  ".".intercalate
    [toString (n / 16777216 % 256), toString (n / 65536 % 256), toString (n / 256 % 256),
      toString (n % 256)]

/-- The eight groups of an address, first to last. -/
def groupsOf (bits : BitVec 128) : List Nat :=
  (List.range 8).map fun i => bits.toNat / 2 ^ (16 * (7 - i)) % 65536

/-- The longest run of zero groups, if one is at least two long: its place and its
length, the first of the longest. -/
def zeroRun (groups : List Nat) : Option (Nat × Nat) :=
  let runAt (i : Nat) : Nat := ((groups.drop i).takeWhile (· == 0)).length
  let best := (List.range 8).foldl
    (fun best i => if runAt i > best.2 then (i, runAt i) else best) (0, 0)
  if best.2 ≥ 2 then some best else none

/-- Groups in lower-case hexadecimal, between colons. -/
def hexGroups (groups : List Nat) : String :=
  ":".intercalate (groups.map fun g => String.ofList (Nat.toDigits 16 g))

/-- `Addr.String`. -/
def Addr.format : Addr → String
  | .v4 bits => formatIPv4 bits
  | .v6 bits zone =>
    let suffix := if zone = "" then "" else "%" ++ zone
    if bits.toNat / 2 ^ 32 = 0xFFFF then
      "::ffff:" ++ formatIPv4 (BitVec.ofNat 32 bits.toNat) ++ suffix
    else
      let groups := groupsOf bits
      match zeroRun groups with
      | none => hexGroups groups ++ suffix
      | some (at', run) =>
        hexGroups (groups.take at') ++ "::" ++ hexGroups (groups.drop (at' + run)) ++ suffix

/-- `Prefix.String`. -/
def Prefix.format (p : Prefix) : String := p.addr.format ++ "/" ++ toString p.bits

example : (parsePrefix "10.20.0.0/16").map (·.contains (.v4 0x0A140105#32)) = some true := by
  decide

example : (parseAddr "::ffff:10.20.1.5").map Addr.unmap = parseAddr "10.20.1.5" := by decide

example : (parseAddr "fe80::1%eth0").map Addr.format = some "fe80::1%eth0" := by decide

end NetIP
