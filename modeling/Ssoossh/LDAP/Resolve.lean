import Ssoossh.Config.Admin
import Ssoossh.Config.Certificates
import Ssoossh.Lib.Histories

/-!
# Finding a directory entry

`resolveAnchored` and the searches under it (`server/service/ldap.go`,
`server/service/ldapid.go`).  A person is looked for by the unique id stored for them,
then by the stored DN, then by a rendered filter.  Each step is skipped when it has
nothing to go on, and one that fails or finds nothing gives way to the next.

The walk is a program of searches: what the directory answers is not part of it.
Filter templates are parsed at startup and are functions here, and so is the part of a
DN that `reduceGroupName` keeps.
-/

namespace Ssoossh.LDAP

open Interleaving

/-! ## The directory -/

/-- A directory entry.  Every entry but the root of the directory has a name, and a
search never returns the root. -/
structure Entry where
  dn : String
  named : dn ≠ ""
  attributes : List (String × List String) := []
  rawAttributes : List (String × Bytes) := []
deriving DecidableEq

namespace Entry

/-- `GetAttributeValues`. -/
def getAttributeValues (entry : Entry) (name : String) : List String :=
  (entry.attributes.lookup name).getD []

/-- `GetAttributeValue`. -/
def getAttributeValue (entry : Entry) (name : String) : String :=
  (entry.getAttributeValues name).headD ""

/-- `GetRawAttributeValue`. -/
def getRawAttributeValue (entry : Entry) (name : String) : Bytes :=
  (entry.rawAttributes.lookup name).getD []

end Entry

/-- The result code of a failed search. -/
inductive ResultCode
  | noSuchObject
  | sizeLimitExceeded
  | other (code : Nat)
deriving DecidableEq

/-- What the directory answers to a search: entries, or a failure, which may come with
the entries sent before it. -/
inductive Answer
  | done (entries : List Entry)
  | failed (code : ResultCode) (entries : Option (List Entry))
deriving DecidableEq

/-- Where in the walk a search is made. -/
inductive Site
  | byID
  | byDN
  | byFilter
  | field (name : String) (index : Nat)
deriving DecidableEq

/-- The scope of a search. -/
inductive Scope
  | baseObject
  | wholeSubtree
deriving DecidableEq

/-- `ldap.SearchRequest`, and where in the walk it is made. -/
structure Search where
  site : Site
  baseDN : String
  scope : Scope
  sizeLimit : Nat
  filter : String
  attrs : List String
deriving DecidableEq

/-- A program of searches. -/
abbrev Walk (α : Type) := Prog Search (fun _ => Answer) α

/-! ## The service -/

/-- `filterData`. -/
structure FilterData where
  username : String
  email : String
  subject : String
  dn : String
  extra : List (String × String)
  attr : List (String × String)

/-- `parsedLDAPSearch`.  A template may fail to render. -/
structure ParsedSearch where
  baseDN : String
  filter : FilterData → Option String
  value : String

/-- `parsedLDAPField`. -/
structure ParsedField where
  name : String
  attributeName : String
  searches : List ParsedSearch

/-- `LDAPService` and the configuration it reads. -/
structure LDAPService where
  idAttribute : String
  baseDN : String
  userFilter : FilterData → Option String
  fields : List ParsedField
  primaryAttrs : List String
  admin : AdminConfig
  certOptions : CertificateOptions
  extraGroups : List String
  authoritativeRoleGroups : Bool
  reduceGroupName : String → String
  maxEntriesPerSearch : Nat
  maxValuesPerAttribute : Int
  /-- The cap on the encoded attributes, and the size of their encoding. -/
  maxAttributesBytes : Int
  encodedSize : List (String × List String) → Nat
  disableAfter : Int
  reenable : Bool
  /-- A duration rounded to seconds, as text. -/
  formatSeconds : Int → String

/-- `ldapEntry`. -/
structure LdapEntry where
  dn : String
  named : dn ≠ ""
  directoryID : String
  values : List (String × List String)
deriving DecidableEq

/-- `model.UserLDAP`. -/
structure UserLDAP where
  directoryID : String
  dn : String
  attributes : List (String × List String)
  lastSeenAt : Option Int
  lastSyncedAt : Option Int
  consecutiveMisses : Int
  firstMissingAt : Option Int
  createdAt : Int
  updatedAt : Int
deriving DecidableEq

/-- `syncOutcome`. -/
inductive SyncOutcome
  | found
  | missing
  | failed
deriving DecidableEq

/-! ## Unique ids -/

/-- One byte in hex. -/
def hexByte (b : UInt8) : List Char :=
  let digit (n : Nat) : Char := "0123456789abcdef".toList.getD n '0'
  [digit (b.toNat / 16), digit (b.toNat % 16)]

/-- `hex.DecodeString` of one digit. -/
def hexDigit? (c : Char) : Option Nat :=
  if '0' ≤ c ∧ c ≤ '9' then some (c.toNat - '0'.toNat)
  else if 'a' ≤ c ∧ c ≤ 'f' then some (c.toNat - 'a'.toNat + 10)
  else if 'A' ≤ c ∧ c ≤ 'F' then some (c.toNat - 'A'.toNat + 10)
  else none

/-- `hex.DecodeString`. -/
def hexDecode? : List Char → Option Bytes
  | [] => some []
  | [_] => none
  | high :: low :: rest =>
    match hexDigit? high, hexDigit? low, hexDecode? rest with
    | some h, some l, some bytes => some (UInt8.ofNat (16 * h + l) :: bytes)
    | _, _, _ => none

/-- `ldap.EscapeFilter`. -/
def escapeFilter (value : String) : String :=
  String.ofList (value.toList.flatMap fun c =>
    if c.toNat > 0x7f ∨ c ∈ ['(', ')', '\\', '*', '\x00'] then
      (String.utf8EncodeChar c).flatMap fun b => '\\' :: hexByte b
    else [c])

/-- `directoryIDFilter`.  A stored id that marks a binary value and does not decode is no
anchor. -/
def directoryIDFilter (attr stored : String) : String :=
  if attr = "" ∨ stored = "" then ""
  else
    match stored.toList with
    | '0' :: 'x' :: raw =>
      match hexDecode? raw with
      | none => ""
      | some [] => ""
      | some decoded => "(" ++ escapeFilter attr ++ "=" ++
        String.ofList (decoded.flatMap fun b => '\\' :: hexByte b) ++ ")"
    | _ => "(" ++ escapeFilter attr ++ "=" ++ escapeFilter stored ++ ")"

/-- `isPrintableID`, and the text. -/
def printableID? (raw : Bytes) : Option String :=
  match String.fromUTF8? ⟨raw.toArray⟩ with
  | none => none
  | some text => if text.toList.any fun c => c.toNat < 0x20 || c.toNat == 0x7f then none else some text

/-- `directoryIDValue`. -/
def directoryIDValue (entry : Entry) (attr : String) : String :=
  if attr = "" then ""
  else
    let raw := entry.getRawAttributeValue attr
    if raw = [] then ""
    else (printableID? raw).getD ("0x" ++ String.ofList (raw.flatMap hexByte))

/-- `dedupe`: first-seen order, without the empty string. -/
def dedupe (values : List String) : List String :=
  values.foldl (fun out v => if v = "" ∨ v ∈ out then out else out ++ [v]) []

/-! ## Searches -/

/-- Why a read gave no answer. -/
inductive ReadError
  | searchFailed (code : ResultCode)
  | severalMatches (filter : String)
deriving DecidableEq

/-- What `search` makes of an answer: a size-limit hit is no failure, and the entries
sent before it are used. -/
def searchResult : Answer → Except ReadError (List Entry)
  | .done entries => .ok entries
  | .failed .sizeLimitExceeded (some entries) => .ok entries
  | .failed code _ => .error (.searchFailed code)

/-- What `searchOne` makes of an answer. -/
def searchOneResult (filter : String) (answer : Answer) : Except ReadError (Option Entry) :=
  match searchResult answer with
  | .error failure => .error failure
  | .ok [] => .ok none
  | .ok [entry] => .ok (some entry)
  | .ok _ => .error (.severalMatches filter)

/-- What `readByDN` makes of an answer: no such object is an answer. -/
def readByDNResult : Answer → Except ReadError (Option Entry)
  | .done [] => .ok none
  | .done (entry :: _) => .ok (some entry)
  | .failed .noSuchObject _ => .ok none
  | .failed code _ => .error (.searchFailed code)

namespace LDAPService

variable (s : LDAPService)

/-- `filterData`. -/
def filterData (identity : Identity) (dn : String) (attr : List (String × String)) : FilterData where
  username := identity.username
  email := identity.email
  subject := identity.subject
  dn := dn
  extra := identity.extra.filterMap fun pair =>
    match pair.2 with
    | .scalar text _ => some (pair.1, text)
    | .list _ => none
  attr := attr

/-- `capValues`. -/
def capValues (values : List String) : List String :=
  if s.maxValuesPerAttribute ≤ 0 ∨ (values.length : Int) ≤ s.maxValuesPerAttribute then values
  else values.take s.maxValuesPerAttribute.toNat

/-- The search by unique id. -/
def idSearch (filter : String) : Search :=
  ⟨.byID, s.baseDN, .wholeSubtree, 2, filter, s.primaryAttrs⟩

/-- The search of `readByDN`. -/
def dnSearch (dn : String) : Search :=
  ⟨.byDN, dn, .baseObject, 1, "(objectClass=*)", s.primaryAttrs⟩

/-- The search by the user filter. -/
def filterSearch (filter : String) : Search :=
  ⟨.byFilter, s.baseDN, .wholeSubtree, 2, filter, s.primaryAttrs⟩

/-- The searches of one field, and the values they return.  `none` is a filter that does
not render or a search that fails. -/
def fieldSearches (data : FilterData) (name : String) :
    Nat → List ParsedSearch → List String → Walk (Option (List String))
  | _, [], values => pure (some values)
  | index, search :: rest, values =>
    match search.filter data with
    | none => pure none
    | some filter => do
      let answer ← Prog.perform (⟨.field name index, search.baseDN, .wholeSubtree,
        s.maxEntriesPerSearch, filter, [search.value]⟩ : Search)
      match searchResult answer with
      | .error _ => pure none
      | .ok entries =>
        fieldSearches data name (index + 1) rest
          (values ++ entries.flatMap fun e => e.getAttributeValues search.value)

/-- The loop of `resolveFields`. -/
def resolveFieldList (identity : Identity) (entry : Entry) :
    List ParsedField → List (String × List String) → Walk (Option (List (String × List String)))
  | [], out => pure (some out)
  | field :: rest, out => do
    let own := if field.attributeName = "" then []
      else s.capValues (entry.getAttributeValues field.attributeName)
    let data := filterData identity entry.dn
      (s.primaryAttrs.map fun a => (a, entry.getAttributeValue a))
    match ← s.fieldSearches data field.name 0 field.searches own with
    | none => pure none
    | some values => resolveFieldList identity entry rest (out ++ [(field.name, dedupe values)])

/-- `finishResolve` and `resolveFields`. -/
def finishResolve (identity : Identity) (entry : Entry) : Walk (Option LdapEntry × SyncOutcome) := do
  match ← s.resolveFieldList identity entry s.fields [] with
  | none => pure (none, .failed)
  | some values =>
    pure (some ⟨entry.dn, entry.named, directoryIDValue entry s.idAttribute, values⟩, .found)

/-! ## The walk -/

/-- The last step of `resolveAnchored`: the user filter. -/
def resolveByFilter (identity : Identity) : Walk (Option LdapEntry × SyncOutcome) :=
  match s.userFilter (filterData identity "" []) with
  | none => pure (none, .failed)
  | some filter => do
    let answer ← Prog.perform (s.filterSearch filter)
    match searchOneResult filter answer with
    | .error _ => pure (none, .failed)
    | .ok none => pure (none, .missing)
    | .ok (some entry) => s.finishResolve identity entry

/-- The step before it: the stored DN. -/
def resolveByDN (identity : Identity) (dn : String) : Walk (Option LdapEntry × SyncOutcome) :=
  if dn = "" then s.resolveByFilter identity
  else do
    let answer ← Prog.perform (s.dnSearch dn)
    match readByDNResult answer with
    | .ok (some entry) => s.finishResolve identity entry
    | .ok none => s.resolveByFilter identity
    | .error _ => s.resolveByFilter identity

/-- The first step: the unique id. -/
def resolveByID (identity : Identity) (row : UserLDAP) : Walk (Option LdapEntry × SyncOutcome) :=
  let filter := directoryIDFilter s.idAttribute row.directoryID
  if filter = "" then s.resolveByDN identity row.dn
  else do
    let answer ← Prog.perform (s.idSearch filter)
    match searchOneResult filter answer with
    | .ok (some entry) => s.finishResolve identity entry
    | .ok none => s.resolveByDN identity row.dn
    | .error _ => s.resolveByDN identity row.dn

/-- `resolveAnchored`: a linked person is looked for by directory id, DN and filter in turn. -/
def resolveAnchored (identity : Identity) (row : Option UserLDAP) :
    Walk (Option LdapEntry × SyncOutcome) :=
  match row with
  | none => s.resolveByFilter identity
  | some row => s.resolveByID identity row

end LDAPService

end Ssoossh.LDAP
