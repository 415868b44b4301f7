import Ssoossh.Lib.GoTime
import Ssoossh.Lib.Json

/-!
# The data of the server

The rows, enumerations, identities and errors that every other module is about,
column by column as `server/model`, `server/certmsg`, `server/service` and
`server/utils/errorresponses` have them.

## Design Notes

* Times and durations are nanoseconds (`GoTime`).  A column that may be `NULL` is
  an `Option`; a Go slice is a list, and the one place where a nil slice and an
  empty one mean different things, `ApprovalSelection.extensions`, is an
  `Option`.
* What an unauthenticated client reports about itself is cut to a number of
  bytes, possibly in the middle of a character, so those columns are `Bytes`
  and not `String`.
* Columns that hold JSON which the program reads back and decides with
  (`requested_options`, `option_set`, `principals`, `extra_fields`) hold the text.
  Columns that hold JSON nothing reads back hold the value that was encoded.
-/

namespace Ssoossh

/-- A string of bytes, not necessarily the encoding of any text. -/
abbrev Bytes := List UInt8

/-- The identifiers of rows: UUIDs in their text form. -/
abbrev RequestID := String
abbrev UserID := String
abbrev EnrollmentID := String
abbrev RetrievalID := String

/-! ## Enumerations -/

/-- The type of a certificate.  The column is text, and the program guards against
a row that holds anything but the four known names. -/
inductive CertificateType
  | user
  | service
  | pam
  | console
  | other (name : String)
  deriving DecidableEq, Repr

/-- The name of a type, as it is stored and shown. -/
def CertificateType.name : CertificateType → String
  | .user => "user"
  | .service => "service"
  | .pam => "pam"
  | .console => "console"
  | .other name => name

/-- The status of a certificate request. -/
inductive Status
  | pending
  | signing
  | approved
  | enrolled
  | denied
  | expired
  | failed
  deriving DecidableEq, Repr

/-- The statuses no request leaves. -/
def Status.terminal : Status → Bool
  | .pending => false
  | .signing => false
  | _ => true

/-- The statuses of a request that can still be approved or signed. -/
def Status.live : Status → Bool
  | .pending => true
  | .signing => true
  | _ => false

/-- What a decision said. -/
inductive DecisionOutcome
  | approved
  | denied
  deriving DecidableEq, Repr

/-! ## Errors -/

/-- The errors a service function returns.  The named ones are the types of
`errorresponses`, which the controllers turn into an HTTP status; `internal` is
every error built with `fmt.Errorf`, with its text; `canceled` is the error of the
caller's context. -/
inductive ServiceError
  | notFound (resource : String)
  | forbidden (reason : String)
  | invalidRequest (reason : String)
  | conflict (reason : String)
  | expired (resource : String)
  | certificateUnavailable (requestID : RequestID)
  | shuttingDown
  | canceled
  | internal (message : String)
  deriving DecidableEq, Repr

/-! ## Requested options -/

/-- The options of a certificate, as a client asks for them and as a signing job
carries them. -/
structure RequestedOptions where
  extensions : List String := []
  forceCommand : String := ""
  sourceAddresses : List String := []
  noTouchRequired : Bool := false
  deriving DecidableEq, Repr

namespace RequestedOptions

/-- The JSON object of the options: a field at its zero value is left out. -/
def toValue (options : RequestedOptions) : Json.Value :=
  .object (Json.stringsField "extensions" options.extensions ++
    Json.stringField "force_command" options.forceCommand ++
    Json.stringsField "source_addresses" options.sourceAddresses ++
    Json.boolField "no_touch_required" options.noTouchRequired)

/-- `json.Marshal`. -/
def marshal (options : RequestedOptions) : String := String.ofList (Json.print options.toValue)

/-- The field a key of the object names, decoded over the value it has. -/
def setField (key : List Char) (value : Json.Value) (options : RequestedOptions) :
    Option RequestedOptions :=
  if Json.names "extensions" key then
    (Json.intoStrings options.extensions value).map fun l => { options with extensions := l }
  else if Json.names "force_command" key then
    (Json.intoString options.forceCommand value).map fun s => { options with forceCommand := s }
  else if Json.names "source_addresses" key then
    (Json.intoStrings options.sourceAddresses value).map fun l =>
      { options with sourceAddresses := l }
  else if Json.names "no_touch_required" key then
    (Json.intoBool options.noTouchRequired value).map fun b =>
      { options with noTouchRequired := b }
  else some options

/-- `json.Unmarshal` into the zero value. -/
def unmarshal (text : String) : Option RequestedOptions :=
  (Json.parse text.toList).bind (Json.intoRecord setField {})

/-! Each key finds its own component. -/

private theorem setField_extensions (value : Json.Value) (options : RequestedOptions) :
    setField "extensions".toList value options =
      (Json.intoStrings options.extensions value).map fun l => { options with extensions := l } :=
  if_pos (by decide)

private theorem setField_forceCommand (value : Json.Value) (options : RequestedOptions) :
    setField "force_command".toList value options =
      (Json.intoString options.forceCommand value).map fun s =>
        { options with forceCommand := s } :=
  (if_neg (by decide)).trans (if_pos (by decide))

private theorem setField_sourceAddresses (value : Json.Value) (options : RequestedOptions) :
    setField "source_addresses".toList value options =
      (Json.intoStrings options.sourceAddresses value).map fun l =>
        { options with sourceAddresses := l } :=
  (if_neg (by decide)).trans ((if_neg (by decide)).trans (if_pos (by decide)))

private theorem setField_noTouchRequired (value : Json.Value) (options : RequestedOptions) :
    setField "no_touch_required".toList value options =
      (Json.intoBool options.noTouchRequired value).map fun b =>
        { options with noTouchRequired := b } :=
  (if_neg (by decide)).trans ((if_neg (by decide)).trans
    ((if_neg (by decide)).trans (if_pos (by decide))))

/-- **Stored options are read back as they were written.**  A field that was left
out finds the zero value it stands for. -/
theorem unmarshal_marshal (options : RequestedOptions) :
    unmarshal options.marshal = some options := by
  obtain ⟨extensions, forceCommand, sourceAddresses, noTouchRequired⟩ := options
  rw [unmarshal, marshal, String.toList_ofList, Json.parse_print]
  simp only [Option.bind_some, toValue, Json.intoRecord, List.foldlM_append, Json.stringsField,
    Json.stringField, Json.boolField]
  by_cases noExtensions : extensions = [] <;> by_cases noCommand : forceCommand = "" <;>
    by_cases noAddresses : sourceAddresses = [] <;> cases noTouchRequired <;>
    simp only [noExtensions, noCommand, noAddresses, if_true, if_false, Bool.false_eq_true,
      List.foldlM_cons, List.foldlM_nil, setField_extensions, setField_forceCommand,
      setField_sourceAddresses, setField_noTouchRequired, Json.intoStrings_ofStrings,
      Json.intoString_ofString, Json.intoBool, Option.map_some, Option.bind_eq_bind,
      Option.bind_some, Option.pure_def]

end RequestedOptions

/-- `json.Marshal` of a list of strings that is not nil. -/
def marshalStrings (l : List String) : String := String.ofList (Json.print (Json.ofStrings l))

/-- `json.Unmarshal` of a list of strings. -/
def unmarshalStrings (text : String) : Option (List String) :=
  (Json.parse text.toList).bind (Json.intoStrings [])

theorem unmarshalStrings_marshalStrings (l : List String) :
    unmarshalStrings (marshalStrings l) = some l := by
  simp [unmarshalStrings, marshalStrings, Json.parse_print]

/-! ## Identities -/

/-- A `float64`, by its value. -/
inductive Float64
  | finite (value : Rat)
  | infinite (negative : Bool)
  | nan
  deriving DecidableEq, Repr

/-- An extra claim captured at login: a text, with the number it reads as if it
is one, or a list. -/
inductive ExtraValue
  | scalar (text : String) (number : Option Rat)
  | list (elements : List String)
  deriving DecidableEq, Repr

/-- The extra claims of an identity by name. -/
abbrev Extra := List (String × ExtraValue)

/-- The claim of a name. -/
def Extra.get? (extra : Extra) (name : String) : Option ExtraValue :=
  (extra.find? fun claim => claim.1 == name).map (·.2)

/-- The person behind an authenticated call. -/
structure Identity where
  subject : String
  username : String := ""
  email : String := ""
  groups : List String := []
  otherAccounts : List String := []
  serviceAccounts : List String := []
  extra : Extra := []
  deriving DecidableEq, Repr

/-- The connection a decision arrived on. -/
structure DecisionContext where
  sourceIP : String := ""
  userAgent : String := ""
  acceptLanguage : String := ""
  forwardedFor : String := ""
  deriving DecidableEq, Repr

/-- What the approver chose. `extensions` is `none` when they expressed no choice,
which is not the same as choosing none. -/
structure ApprovalSelection where
  serviceAccount : String := ""
  principals : List String := []
  extensions : Option (List String) := none
  notificationEmail : String := ""
  deriving DecidableEq, Repr

/-! ## Rows -/

/-- The administrative policy a requesting machine claims to be under. -/
structure ClientPolicy where
  forbiddenExtensions : List Bytes := []
  fips : Option Bool := none
  deriving DecidableEq, Repr

/-- What a request says about the machine it comes from.  Self-reported, bounded,
shown to the approver and copied to the decision, and an input to nothing. -/
structure HostColumns where
  username : Bytes := []
  hostname : Bytes := []
  localUsername : Bytes := []
  localHostname : Bytes := []
  pamService : Bytes := []
  tty : Bytes := []
  remoteHost : Bytes := []
  requestingUser : Bytes := []
  process : Bytes := []
  callerUID : Option Int := none
  callerGID : Option Int := none
  callerPID : Option Int := none
  callerPPID : Option Int := none
  machineID : Bytes := []
  os : Bytes := []
  client : Bytes := []
  clientMode : Bytes := []
  clientTime : Option Int := none
  trustedCAFingerprints : List Bytes := []
  clientPolicy : Option ClientPolicy := none
  deriving DecidableEq, Repr

/-- A row of `certificate_requests`. -/
structure CertificateRequest where
  id : RequestID
  type : CertificateType
  userID : Option UserID := none
  publicKey : String
  requestedOptions : String
  sourceIP : String
  serviceAccount : String := ""
  serialNumber : Option Nat := none
  status : Status
  createdAt : Int
  resolvedAt : Option Int := none
  enrollmentToken : String := ""
  failureReason : String := ""
  claimTokenHash : Option String := none
  claimedAt : Option Int := none
  claimUserAgent : Bytes := []
  userCode : String := ""
  host : HostColumns := {}
  deriving DecidableEq, Repr

/-- `CertificateRequest.ReportedIdentity`: the account and host the request claims
to come from, in whichever columns its type keeps them. -/
def CertificateRequest.reportedIdentity (row : CertificateRequest) : Bytes × Bytes :=
  match row.type with
  | .pam => (row.host.username, row.host.hostname)
  | .console => (row.host.username, row.host.hostname)
  | _ => (row.host.localUsername, row.host.localHostname)

/-- Which tier an approval was decided by. -/
structure TierExplanation where
  name : String
  condition : String
  maxDuration : String
  deriving DecidableEq, Repr

/-- Which network rule an approval was decided by. -/
structure SourceRuleExplanation where
  cidr : String
  maxDuration : String := ""
  removedExtensions : List String := []
  pinSourceAddress : Bool := false
  deriving DecidableEq, Repr

/-- How the lifetime of an enrollment code came out. -/
structure EnrollmentExplanation where
  ceiling : String
  effective : String
  deriving DecidableEq, Repr

/-- How the extensions came out. -/
structure ExtensionsExplanation where
  requested : List String
  approverSelected : List String := []
  granted : List String := []
  grantSource : String := ""
  removed : List String := []
  effective : List String
  deriving DecidableEq, Repr

/-- The record of a policy evaluation, kept with the decision it led to. -/
structure PolicyExplanation where
  v : Nat := 1
  certType : String
  policyConfigured : Bool := false
  tier : Option TierExplanation := none
  noTierMatched : Bool := false
  defaultDuration : String := ""
  sourceRule : Option SourceRuleExplanation := none
  ceiling : String
  effectiveDuration : String
  enrollment : Option EnrollmentExplanation := none
  extensions : Option ExtensionsExplanation := none
  deriving DecidableEq, Repr

/-- A row of `certificate_request_decisions`: who decided, from where, about what,
and what it granted.  Copied values throughout, so that nothing that changes later
changes the record. -/
structure Decision where
  id : String
  certificateRequestID : RequestID
  outcome : DecisionOutcome
  subject : String
  username : String
  email : String
  groups : List String
  otherAccounts : List String
  serviceAccounts : List String
  sourceIP : String
  userAgent : String
  acceptLanguage : String
  forwardedFor : String
  policyExplanation : Option PolicyExplanation
  principals : Option (List String) := none
  grantedOptions : Option RequestedOptions := none
  reportedUsername : Bytes
  reportedHostname : Bytes
  pamService : Bytes
  tty : Bytes
  remoteHost : Bytes
  requestingUser : Bytes
  process : Bytes
  machineID : Bytes
  client : Bytes
  decidedAt : Int
  deriving DecidableEq, Repr

/-- A row of `enrollments`. -/
structure Enrollment where
  id : EnrollmentID
  code : String
  publicKey : String
  optionSet : String
  keyID : String
  principals : String
  serviceAccount : String
  certificateRequestID : Option RequestID
  userID : UserID
  createdAt : Int
  expiresAt : Int
  certificateDurationSeconds : Option Int
  redeemedAt : Option Int := none
  notificationEmail : String := ""
  expiryReminderSentAt : Option Int := none
  lastExpiredAttemptNotifiedAt : Option Int := none
  deriving DecidableEq, Repr

/-- A row of `enrollment_retrievals`. -/
structure EnrollmentRetrieval where
  id : RetrievalID
  enrollmentID : EnrollmentID
  sourceIP : String
  certificateSerial : Nat
  retrievedAt : Int
  succeeded : Bool := false
  deriving DecidableEq, Repr

/-- A row of `users`. -/
structure User where
  id : UserID
  subject : String
  username : String := ""
  email : String := ""
  otherAccounts : List String := []
  serviceAccounts : List String := []
  extraFields : String := ""
  deriving DecidableEq, Repr

/-- A row of `certificates`, the audit record of an issued certificate. -/
structure Certificate where
  id : String
  type : CertificateType
  userID : Option UserID
  certificateRequestID : Option RequestID
  publicKeyFingerprint : String
  serialNumber : Nat
  keyID : String
  principals : List String
  criticalOptions : List (String × String)
  extensions : List String
  issuedAt : Int
  expiresAt : Int
  deriving DecidableEq, Repr

/-! ## Messages -/

/-- An order to sign. -/
structure SigningJob where
  requestID : String
  type : CertificateType
  publicKey : String
  principals : List String
  keyID : String
  requestedOptions : RequestedOptions
  validAfter : Int
  validBefore : Int
  serial : Nat
  deriving DecidableEq, Repr

/-- The signer's answer. A reply with an error code is a failure. -/
structure SignedReply where
  requestID : String
  type : CertificateType
  certificate : String := ""
  serial : Nat := 0
  keyID : String := ""
  principals : List String := []
  publicKeyFingerprint : String := ""
  criticalOptions : List (String × String) := []
  extensions : List String := []
  validAfter : Int := 0
  validBefore : Int := 0
  errorCode : String := ""
  error : String := ""
  deriving DecidableEq, Repr

/-- `SignedReply.Failed`. -/
def SignedReply.failed (reply : SignedReply) : Bool := reply.errorCode != ""

/-- What a waiting client is told. -/
structure WaitOutcome where
  status : Status
  certificate : String := ""
  code : String := ""
  serviceAccount : String := ""
  expiresAt : Int := GoTime.Time.zero
  resolvedAt : Int := GoTime.Time.zero
  deriving DecidableEq, Repr

/-- The wire shape of an outcome.  An unset expiry is absent. -/
structure OutcomeMessage where
  status : Status
  certificate : String := ""
  code : String := ""
  serviceAccount : String := ""
  expiresAt : Option Int := none
  deriving DecidableEq, Repr

/-! ## Outside the repository -/

/-- A parsed public key: its algorithm, and the fingerprint of its blob. -/
structure PublicKey where
  algorithm : String
  fingerprint : String
  deriving DecidableEq, Repr

/-- What a key ID template may use. -/
structure KeyIDTemplateData where
  username : String := ""
  subject : String := ""
  email : String := ""
  clientIP : String := ""
  uniqueID : String := ""
  extra : Extra := []
  deriving DecidableEq, Repr

/-- The functions of the standard library and of `x/crypto` the program calls and
whose results it only passes on.  Every theorem holds for any of them. -/
structure Externals where
  /-- `strconv.Quote`, the `%q` of a message. -/
  quote : String → String
  /-- `strconv.ParseFloat`. -/
  parseFloat : String → Option Float64
  /-- `strconv.FormatFloat` with the fewest digits. -/
  formatFloat : Float64 → String
  /-- `text/template`: parse and execute. -/
  executeTemplate : String → KeyIDTemplateData → Except String String
  /-- The text of the error of `netip.ParsePrefix`. -/
  prefixError : String → String
  /-- `ssh.ParseAuthorizedKey`. -/
  parseAuthorizedKey : String → Except String PublicKey
  /-- `mail.ParseAddress` accepts. -/
  isMailAddress : String → Bool
  /-- The hexadecimal SHA-256 of a text. -/
  sha256Hex : String → String
  /-- The text of the error of `json.Unmarshal`. -/
  jsonError : String → String
  /-- `unicode.ToUpper`. -/
  toUpper : Char → Char

/-- Stand-ins to evaluate the model with. -/
def Externals.plain : Externals where
  quote text := text
  parseFloat _ := none
  formatFloat _ := ""
  executeTemplate source _ := .ok source
  prefixError _ := ""
  parseAuthorizedKey _ := .error ""
  isMailAddress _ := true
  sha256Hex text := text
  jsonError _ := ""
  toUpper c := c

end Ssoossh
