import Ssoossh.Lib.GoBytes
import Ssoossh.Lib.Fallible
import Ssoossh.Model

/-!
# The configuration of the host daemon

`/etc/ssoossh/nss.yaml` (`nssd/config/config.go`), for the options that the policy, the
cache and the upstream client read, the host override file (`nssd/config/overrides.go`), and
the rules for names and paths that both share (`internal/posixname`).
-/

namespace Ssoossh.Nssd

open GoBytes

/-! ## Names -/

/-- The rules of `posixname.Valid`, by what they refuse. -/
inductive NameFault where
  | empty
  | tooLong (bytes : Nat)
  | space
  | notUTF8
  | control
  | separator
  | digits
  | negative
  | dots
deriving DecidableEq, Repr

/-- `posixname.MaxNameBytes`. -/
def maxNameBytes : Nat := 32

/-- `hasASCIIControl`. -/
def hasASCIIControl (text : Bytes) : Bool := text.any fun b => b < byte ' ' || b == 0x7f

/-- `allDigits`. -/
def allDigits (text : Bytes) : Bool := text.all isDigit

/-- `posixname.Valid`: the first rule that the name breaks. -/
def nameFault (name : Bytes) : Option NameFault :=
  if name = [] then some .empty
  else if name.length > maxNameBytes then some (.tooLong name.length)
  else if hasPrefix name [byte ' '] || hasSuffix name [byte ' '] then some .space
  else if !validString name then some .notUTF8
  else if hasASCIIControl name then some .control
  else if name.any fun b => b == byte ':' || b == byte '/' then some .separator
  else if allDigits name then some .digits
  else if name.head? = some (byte '-') && allDigits name.tail then some .negative
  else if name = ofString "." || name = ofString ".." then some .dots
  else none

/-- Whether a name may be a user's or a group's. -/
def validName (name : Bytes) : Bool := (nameFault name).isNone

/-- `posixname.MaxGECOSBytes`. -/
def maxGECOSBytes : Nat := 256

/-- The longest start of a text of at most so many bytes. -/
def takeBytes (limit : Nat) : List Char → List Char
  | [] => []
  | c :: rest => if c.utf8Size ≤ limit then c :: takeBytes (limit - c.utf8Size) rest else []

/-- `truncateRunes`: cut between two characters, and without spaces at the end. -/
def truncateRunes (text : List Char) (limit : Nat) : List Char :=
  if (String.ofList text).utf8ByteSize ≤ limit then text
  else ((takeBytes limit text).reverse.dropWhile fun c => c == ' ').reverse

/-- `posixname.SanitizeGECOS`, the text: what would break a passwd line becomes a space, runs
of spaces become one, and an empty result is the account's name. -/
def sanitizeGECOS (text fallback : Bytes) : Bytes :=
  let out := runes (if validString text then text else fallback)
  let control (c : Char) : Bool := c.toNat < 0x20 || (0x7f ≤ c.toNat && c.toNat < 0xa0)
  let mapped := out.map fun c => if c == ':' || control c then ' ' else c
  let fields := (mapped.splitOnP GoText.isSpace).filter fun field => !field.isEmpty
  let joined := truncateRunes ([' '].intercalate fields) maxGECOSBytes
  if joined = [] then fallback else ofString (String.ofList joined)

/-! ## Paths -/

/-- `ValidPath`: absolute, clean, and without what would break a line of `passwd`. -/
def validPath (path : Bytes) : Bool :=
  hasPrefix path [byte '/'] && cleanRooted path == path &&
    !(path.any fun b => b == byte ':') && !hasASCIIControl path

/-! ## Options -/

/-- `Config`, with the values of `Defaults`. -/
structure Config where
  timeout : Int := 5 * GoTime.Duration.second
  reconnectionRetries : Nat := 3
  offlineTimeout : Int := 60 * GoTime.Duration.second
  entryCacheTimeout : Int := 5400 * GoTime.Duration.second
  entryCacheUserTimeout : Int := 0
  entryCacheGroupTimeout : Int := 0
  entryNegativeTimeout : Int := 15 * GoTime.Duration.second
  entryCacheNowaitPercentage : Int := 50
  cacheExpireOffline : Int := 0
  loginSoftTTL : Int := 60 * GoTime.Duration.second
  minID : UInt32 := 1000
  maxID : UInt32 := 0
  overrideGID : UInt32 := 0
  overrideHomedir : Bytes := []
  fallbackHomedir : Bytes := ofString "/home/%u"
  overrideShell : Bytes := []
  shellFallback : Bytes := ofString "/bin/sh"
  allowedShells : List Bytes := []
  vetoedShells : List Bytes := []
  disabledShell : Bytes := ofString "/usr/sbin/nologin"
  ignoreGroupMembers : Bool := false
  filterUsers : List Bytes := [ofString "root"]
  filterGroups : List Bytes := [ofString "root"]
  requireGroups : List Bytes := []

namespace Config

variable (cfg : Config)

/-- `InRange`: a `max_id` of zero is no bound. -/
def inRange (id : UInt32) : Bool := cfg.minID ≤ id && (cfg.maxID == 0 || id ≤ cfg.maxID)

/-- `TTLUser`. -/
def ttlUser : Int :=
  if cfg.entryCacheUserTimeout > 0 then cfg.entryCacheUserTimeout else cfg.entryCacheTimeout

/-- `TTLGroup`. -/
def ttlGroup : Int :=
  if cfg.entryCacheGroupTimeout > 0 then cfg.entryCacheGroupTimeout else cfg.entryCacheTimeout

end Config

/-! ## Host overrides -/

/-- `Override`. -/
structure Override where
  uid : Option UInt32 := none
  gid : Option UInt32 := none
  home : Bytes := []
  shell : Bytes := []
deriving DecidableEq

/-- Why an override is refused. -/
inductive OverrideFault where
  | name (fault : NameFault)
  | home (name path : Bytes)
  | shell (name path : Bytes)
deriving DecidableEq

/-- `Override.validate`: what a host sets in a record is checked as the server's values are. -/
def Override.validate (o : Override) (name : Bytes) : Except OverrideFault Unit := do
  if let some fault := nameFault name then
    throw (.name fault)
  if o.home ≠ [] ∧ validPath o.home = false then
    throw (.home name o.home)
  if o.shell ≠ [] ∧ validPath o.shell = false then
    throw (.shell name o.shell)

/-- `Overrides`: a map by name. -/
structure Overrides where
  entries : List (Bytes × Override)
  names : (entries.map Prod.fst).Nodup

/-- No overrides. -/
def Overrides.none : Overrides := ⟨[], List.nodup_nil⟩

/-- `ParseOverrides`, of the map that the file decodes to. -/
def parseOverrides (decoded : Overrides) : Except OverrideFault Overrides := do
  decoded.entries.forM fun (name, o) => o.validate name
  return decoded

end Ssoossh.Nssd
