import Ssoossh.Lib.GoText
import Ssoossh.Server.Machine

/-!
# Creating a request and finding it again

`CreateRequest` and what it bounds on the way in (`server/service/certrequest.go`,
`server/service/hostcontext.go`), the console user code
(`server/service/consolecode.go`), and the two ways a request is bound to whoever
opens it: the approval page to the first browser that fetches it
(`server/service/certrequest_claim.go`), and the request to the user row of the
first authenticated caller (`bindRequester`).
-/

namespace Ssoossh

open GoTime

/-! ## User codes -/

/-- `userCodeAlphabet`, Crockford's Base32. -/
def userCodeAlphabet : List Char := "0123456789ABCDEFGHJKMNPQRSTVWXYZ".toList

def userCodeLength : Nat := 8

/-- The code of 40 random bits, five at a time from the top. -/
def userCodeOfBytes (bytes : List UInt8) : String :=
  let acc := GoText.bigEndian bytes
  String.ofList ((List.range userCodeLength).map fun i =>
    userCodeAlphabet.getD (acc / 2 ^ (5 * (userCodeLength - 1 - i)) % 32) '0')

/-- `newUserCode`. -/
def newUserCode : Service String := do
  match ← perform (.random 5) with
  | .ok bytes => pure (userCodeOfBytes bytes)
  | .error e => throw (.internal ("failed to generate a console user code: " ++ e))

/-- What `NormalizeUserCode` writes for one character: nothing for a separator, and
the digit for the letters that look like one. -/
def normalizeUserCodeChar (ext : Externals) (c : Char) : Except String (List Char) :=
  if c = '-' ∨ c = ' ' ∨ c = '\t' then .ok []
  else if c = 'I' ∨ c = 'L' then .ok ['1']
  else if c = 'O' then .ok ['0']
  else if userCodeAlphabet.contains c then .ok [c]
  else .error (ext.quote (String.ofList [c]) ++ " is not a character a code can contain")

/-- `NormalizeUserCode`. -/
def normalizeUserCode (ext : Externals) (input : String) : Except String String := do
  let symbols ← ((GoText.trimSpace input).toList.map ext.toUpper).mapM (normalizeUserCodeChar ext)
  let out := symbols.flatten
  if out.length ≠ userCodeLength then
    throw ("a code is " ++ toString userCodeLength ++ " characters, this one is " ++
      toString out.length)
  return String.ofList out

/-! ## Bounding what a client reports -/

def maxContextFieldLen : Nat := 256
def maxTrustedCAFingerprints : Nat := 8
def maxClientPolicyExtensions : Nat := 32

/-- `truncateContextField`. -/
def truncateContextField (value : Bytes) : Bytes := value.take maxContextFieldLen

/-- What a PAM or console module reports about the machine. -/
structure HostContext where
  requestingUser : Bytes := []
  process : Bytes := []
  callerUID : Option Int := none
  callerGID : Option Int := none
  callerPID : Option Int := none
  callerPPID : Option Int := none
  machineID : Bytes := []
  os : Bytes := []
  client : Bytes := []
  mode : Bytes := []
  clientTime : Option Int := none
  trustedCAFingerprints : List Bytes := []
  clientPolicy : Option ClientPolicy := none

/-- The inputs of `CreateRequest`. -/
structure NewCertRequestParams where
  type : CertificateType
  publicKey : String
  username : Bytes := []
  sourceIP : String := ""
  localUsername : Bytes := []
  localHostname : Bytes := []
  requestedOptions : RequestedOptions := {}
  hostname : Bytes := []
  pamService : Bytes := []
  tty : Bytes := []
  remoteHost : Bytes := []
  hostContext : HostContext := {}

/-- `applyClientPolicy`: a policy that says nothing is stored as none. -/
def applyClientPolicy (policy : Option ClientPolicy) : Option ClientPolicy :=
  match policy with
  | none => none
  | some policy =>
    if policy.forbiddenExtensions.isEmpty ∧ policy.fips = none then none
    else some
      { forbiddenExtensions :=
          (policy.forbiddenExtensions.take maxClientPolicyExtensions).map truncateContextField
        fips := policy.fips }

/-- The host columns of a new row, with what `applyHostContext` bounds. -/
def hostColumns (p : NewCertRequestParams) : HostColumns where
  username := p.username
  hostname := truncateContextField p.hostname
  localUsername := p.localUsername
  localHostname := p.localHostname
  pamService := truncateContextField p.pamService
  tty := truncateContextField p.tty
  remoteHost := truncateContextField p.remoteHost
  requestingUser := truncateContextField p.hostContext.requestingUser
  process := truncateContextField p.hostContext.process
  callerUID := p.hostContext.callerUID
  callerGID := p.hostContext.callerGID
  callerPID := p.hostContext.callerPID
  callerPPID := p.hostContext.callerPPID
  machineID := truncateContextField p.hostContext.machineID
  os := truncateContextField p.hostContext.os
  client := truncateContextField p.hostContext.client
  clientMode := truncateContextField p.hostContext.mode
  clientTime := p.hostContext.clientTime
  trustedCAFingerprints :=
    (p.hostContext.trustedCAFingerprints.take maxTrustedCAFingerprints).map truncateContextField
  clientPolicy := applyClientPolicy p.hostContext.clientPolicy

/-- `normalizeSourceAddresses`: link-local addresses and repeats go, everything else
stays, parsed or not. -/
def normalizeSourceAddresses (addresses : List String) : List String :=
  addresses.foldl (fun out address =>
    if (NetIP.parseIP address).any NetIP.Addr.isLinkLocalUnicast then out
    else appendNew out address) []

/-! ## CreateRequest -/

/-- What a client gets back. -/
structure CreatedRequest where
  id : RequestID
  expiresAt : Int
  userCode : String

def userCodeMintAttempts : Nat := 3

/-- The loop of `persistNewRequest`: a new code for every attempt, and only a clash
is tried again. -/
def persistWithUserCode (row : CertificateRequest) (lastError : String) :
    Nat → Service CertificateRequest
  | 0 => throw (.internal ("failed to persist certificate request after " ++
    toString userCodeMintAttempts ++ " user code attempts: " ++ lastError))
  | attempts + 1 => do
    let code ← newUserCode
    match ← perform (.write (.insertRequest { row with userCode := code })) with
    | .ok _ => pure { row with userCode := code }
    | .error e =>
      if e.unique then persistWithUserCode row e.message attempts
      else throw (.internal ("failed to persist certificate request: " ++ e.message))

/-- `persistNewRequest`: a console request gets a code that no live request has. -/
def persistNewRequest (policy : CertTypePolicy) (row : CertificateRequest) :
    Service CertificateRequest :=
  if policy.usesUserCode then persistWithUserCode row "" userCodeMintAttempts
  else do
    let _ ← write (.insertRequest row) "failed to persist certificate request"
    pure row

/-- The client's own addresses, with the one the server observed. -/
def requestedWithSource (p : NewCertRequestParams) : RequestedOptions :=
  let addresses := normalizeSourceAddresses p.requestedOptions.sourceAddresses
  { p.requestedOptions with
    sourceAddresses :=
      if p.sourceIP ≠ "" ∧ ¬ addresses.contains p.sourceIP then addresses ++ [p.sourceIP]
      else addresses }

/-- `CreateRequest`: the network is checked before anything is stored. -/
def createRequest (server : Server) (p : NewCertRequestParams) : Service CreatedRequest := do
  let policy ← lift (server.policyFor p.type)
  ensure (policy.permitsSource p.sourceIP = true)
    (.forbidden (p.type.name ++ " certificate requests are not accepted from this network"))
  let id ← perform .newUUID
  let createdAt ← perform .now
  let row ← persistNewRequest policy
    { id := id
      type := p.type
      publicKey := p.publicKey
      requestedOptions := (requestedWithSource p).marshal
      sourceIP := p.sourceIP
      status := .pending
      createdAt := createdAt
      host := hostColumns p }
  pure ⟨row.id, Time.add createdAt policy.approvalTTL, row.userCode⟩

/-! ## Reading a request, and binding it -/

/-- `lookupRequest`, and the same read where the source writes it out. -/
def lookupRequest (ext : Externals) (site : ReadSite) (id : RequestID) :
    Service CertificateRequest := do
  match ← read (.request site id) "failed to look up certificate request" with
  | some row => pure row
  | none => throw (.notFound ("certificate request " ++ ext.quote id))

/-- `resolveUser`. -/
def resolveUser (identity : Identity) : Service User := do
  match ← read (.user identity.subject) "failed to look up the approving user" with
  | some user => pure user
  | none => throw (.forbidden "no user record for the authenticated identity")

/-- What everyone but the owner of a request is told. -/
def belongsToAnother : ServiceError := .forbidden "certificate request belongs to another user"

/-- `bindRequester`: the row as the caller goes on to use it. -/
def bindRequester (row : CertificateRequest) (user : User) : Service CertificateRequest :=
  match row.userID with
  | some owner => do
    ensure (owner = user.id) belongsToAnother
    pure row
  | none => do
    let won : Bool ← write (.bindRequester row.id user.id)
      "failed to bind certificate request to user"
    if won then pure { row with userID := some user.id }
    else do
      -- somebody else's claim came first, which is fine if it was the same user's
      match ← read (.request .elsewhere row.id)
        "failed to re-read certificate request after a racing claim" with
      | none => throw (.internal
        "failed to re-read certificate request after a racing claim: record not found")
      | some claimed => do
        ensure (claimed.userID = some user.id) belongsToAnother
        pure { row with userID := some user.id }

/-! ## Claiming the approval page -/

/-- What a fetch of the approval page is answered with. -/
inductive ClaimPageResult
  | claimed (token : String)
  | matched
  | unknownRequest
  | rejected
  | cookieBlocked
  deriving DecidableEq

def claimCookieBlockedWindow : Int := 10 * Duration.minute
def claimUserAgentMaxLen : Nat := 400

/-- `hashClaimToken`. -/
def hashClaimToken (ext : Externals) (token : String) : String := ext.sha256Hex token

/-- `newClaimToken`, without its hash. -/
def newClaimToken : Service String := do
  match ← perform (.random 32) with
  | .ok bytes => pure (String.ofList (GoText.rawURLEncode bytes))
  | .error e => throw (.internal ("failed to generate a claim token: " ++ e))

/-- How a claimed page answers: to the token that claimed it, to what looks like the
same browser refusing cookies, and to everyone else. -/
def judgeClaim (ext : Externals) (row : CertificateRequest) (stored presentedToken : String)
    (userAgent : Bytes) : Service ClaimPageResult :=
  if presentedToken ≠ "" ∧ hashClaimToken ext presentedToken = stored then pure .matched
  else if presentedToken = "" ∧ userAgent ≠ [] ∧ userAgent = row.claimUserAgent then
    match row.claimedAt with
    | none => pure .rejected
    | some claimedAt => do
      let now ← perform .now
      if Time.sub now claimedAt ≤ claimCookieBlockedWindow then pure .cookieBlocked
      else pure .rejected
  else pure .rejected

/-- `claimApprovalPage`: the first browser to ask has the page; the update decides a race. -/
def claimApprovalPage (ext : Externals) (row : CertificateRequest) (presentedToken : String)
    (userAgent : Bytes) : Service ClaimPageResult :=
  match row.claimTokenHash with
  | some stored => judgeClaim ext row stored presentedToken userAgent
  | none => do
    let token ← newClaimToken
    let now ← perform .now
    let won : Bool ← write (.claimPage row.id (hashClaimToken ext token) now userAgent)
      "failed to claim certificate request"
    if won then pure (.claimed token)
    else do
      match ← read (.request .elsewhere row.id)
        "failed to re-read certificate request after a racing claim" with
      | none => throw (.internal
        "failed to re-read certificate request after a racing claim: record not found")
      | some reread =>
        match reread.claimTokenHash with
        | none => throw (.internal
          "certificate request unclaimed after losing the claim race")
        | some stored => judgeClaim ext reread stored presentedToken userAgent

/-- `ClaimApprovalPage`. -/
def claimPage (ext : Externals) (id : RequestID) (presentedToken : String) (userAgent : Bytes) :
    Service ClaimPageResult := do
  match ← read (.request .elsewhere id) "failed to look up certificate request for claiming" with
  | none => pure .unknownRequest
  | some row =>
    claimApprovalPage ext row presentedToken (userAgent.take claimUserAgentMaxLen)

end Ssoossh
