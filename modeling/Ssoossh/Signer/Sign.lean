import Ssoossh.Server.Lifecycle

/-!
# The signer

`Sign` (`server/signer/sign.go`), which makes a certificate of a job.  The signer has no
database and trusts nobody: it repeats the checks that an attacker who can publish to
the sign queue would have skipped.

The checks are made on instants and on the elements of a list, while the certificate
carries whole seconds and the list itself.  The theorem at the end says exactly for
which of the jobs that are signed the two agree.

The CA key, the signature and the encoding of a certificate come from libraries
(`SigningKeys`); all that is assumed of the signature is that it keeps the fields it
signs.
-/

namespace Ssoossh

open GoTime Fallible

/-! ## Certificates -/

/-- A Go map of strings: at most one entry for a key. -/
abbrev StringMap := List (String × String)

/-- `m[key] = value`. -/
def StringMap.set (m : StringMap) (key value : String) : StringMap :=
  if m.any (·.1 == key) then m.map fun entry => if entry.1 == key then (key, value) else entry
  else m ++ [(key, value)]

/-- `ssh.Permissions`. -/
structure Permissions where
  criticalOptions : StringMap := []
  extensions : StringMap := []
  deriving DecidableEq, Repr

/-- What `ssh.Certificate` says about its holder.  The window is in seconds, as `uint64`. -/
structure CertificateFields where
  key : PublicKey
  serial : Nat
  certType : Nat
  keyID : String
  validPrincipals : List String
  validAfter : Nat
  validBefore : Nat
  permissions : Permissions
  deriving DecidableEq, Repr

/-- `ssh.Certificate`, once it is signed. -/
structure SSHCertificate where
  fields : CertificateFields
  nonce : Bytes := []
  signature : Bytes := []
  deriving DecidableEq, Repr

/-- The CA key, and what the libraries do with it. -/
structure SigningKeys where
  /-- `CAKeySource.Signer`: the public half of the key, if there is one. -/
  signer : Except String PublicKey
  /-- `ssh.Certificate.SignCert`. -/
  signCert : PublicKey → CertificateFields → Except String SSHCertificate
  /-- `ssh.MarshalAuthorizedKey`. -/
  marshalAuthorizedKey : SSHCertificate → String
  /-- `ssh.FingerprintSHA256`. -/
  fingerprintSHA256 : PublicKey → String
  /-- `Time.String`. -/
  formatTime : Int → String

/-- `SignCert` signs the fields it is given. -/
def SigningKeys.KeepsFields (keys : SigningKeys) : Prop :=
  ∀ signer fields cert, keys.signCert signer fields = .ok cert → cert.fields = fields

/-! ## Sign -/

/-- `SignLimits`. -/
structure SignLimits where
  maxCertLifetime : Int
  maxServiceCertLifetime : Int

/-- The limit of a type. -/
def SignLimits.capFor (limits : SignLimits) (certType : CertificateType) : Int :=
  if certType = .service then limits.maxServiceCertLifetime else limits.maxCertLifetime

/-- `signError`. -/
structure SignError where
  code : String
  message : String
  deriving DecidableEq, Repr

/-- `ssh.UserCert`. -/
def userCert : Nat := 1

/-- `certTypeFor`. -/
def certTypeFor (ext : Externals) : CertificateType → Except SignError Nat
  | .user | .pam | .console | .service => .ok userCert
  | .other name => .error ⟨"unsupported_type",
    "certificate type " ++ ext.quote name ++ " is not supported yet"⟩

/-- `parsePublicKey`. -/
def parsePublicKey (ext : Externals) (authorizedKey : String) : Except SignError PublicKey :=
  (ext.parseAuthorizedKey authorizedKey).mapError fun e =>
    ⟨"bad_public_key", "failed to parse public key: " ++ e⟩

/-- `grantedExtensions`. -/
def grantedExtensions (p : Permissions) : List String :=
  (p.extensions.map (·.1)).mergeSort fun a b => decide (a ≤ b)

/-- `permissionsFor`: only what the approval granted becomes an extension or a critical option. -/
def permissionsFor (opts : RequestedOptions) : Permissions :=
  let extensions := opts.extensions.foldl (fun m e => StringMap.set m e "") []
  let extensions :=
    if opts.noTouchRequired then StringMap.set extensions "no-touch-required" "" else extensions
  let criticalOptions : StringMap :=
    if opts.forceCommand ≠ "" then StringMap.set [] "force-command" opts.forceCommand else []
  let criticalOptions :=
    if opts.sourceAddresses ≠ [] then
      StringMap.set criticalOptions "source-address" (",".intercalate opts.sourceAddresses)
    else criticalOptions
  { criticalOptions, extensions }

section Sign

variable (ext : Externals) (keys : SigningKeys) (job : SigningJob) (fipsEnabled : Bool)
  (limits : SignLimits)

/-- The checks on the lifetime. -/
def checkLifetime : Except SignError Unit := do
  if Time.before job.validBefore job.validAfter ∨ job.validBefore = job.validAfter then
    throw ⟨"sign_failed", "certificate lifetime invalid: ValidBefore (" ++
      keys.formatTime job.validBefore ++ ") must be after ValidAfter (" ++
      keys.formatTime job.validAfter ++ ")"⟩
  let span := Time.sub job.validBefore job.validAfter
  let cap := limits.capFor job.type
  if cap < span then
    throw ⟨"lifetime_rejected", "certificate lifetime " ++ Duration.format span ++
      " exceeds maximum " ++ Duration.format cap ++ " for type " ++ ext.quote job.type.name⟩

/-- The check on the algorithm. -/
def checkFIPSAlgorithm (key : PublicKey) : Except SignError Unit :=
  if fipsEnabled = true ∧ (fromSSHAlgorithm key.algorithm).any isApprovedInFIPS = false then
    .error ⟨"fips_not_approved",
      "public key algorithm " ++ ext.quote key.algorithm ++ " is not FIPS-approved"⟩
  else .ok ()

/-- The check on the principals. -/
def checkPrincipals : Except SignError Unit :=
  forM job.principals fun principal =>
    (validatePrincipal ext principal).mapError fun e => ⟨"sign_failed", "invalid principal: " ++ e⟩

/-- The certificate that is handed to `SignCert`. -/
def certificateFields (certType : Nat) (key : PublicKey) : CertificateFields where
  key := key
  serial := job.serial
  certType := certType
  keyID := job.keyID
  validPrincipals := job.principals
  validAfter := toUint64 (Time.unix job.validAfter)
  validBefore := toUint64 (Time.unix job.validBefore)
  permissions := permissionsFor job.requestedOptions

/-- `Sign`, and beside its reply the certificate it signed. -/
def sign : Except SignError (SSHCertificate × SignedReply) := do
  checkLifetime ext keys job limits
  let certType ← certTypeFor ext job.type
  let key ← parsePublicKey ext job.publicKey
  checkFIPSAlgorithm ext fipsEnabled key
  checkPrincipals ext job
  let signer ← keys.signer.mapError fun e =>
    ⟨"ca_unavailable", "failed to obtain CA signing key: " ++ e⟩
  let permissions := permissionsFor job.requestedOptions
  let cert ← (keys.signCert signer (certificateFields job certType key)).mapError fun e =>
    ⟨"sign_failed", "failed to sign certificate: " ++ e⟩
  return (cert,
    { requestID := job.requestID
      type := job.type
      certificate := GoText.trimSpace (keys.marshalAuthorizedKey cert)
      serial := job.serial
      keyID := job.keyID
      principals := job.principals
      publicKeyFingerprint := keys.fingerprintSHA256 key
      criticalOptions := permissions.criticalOptions
      extensions := grantedExtensions permissions
      validAfter := job.validAfter
      validBefore := job.validBefore })

end Sign

/-! ## What a signed certificate says -/

/-- A time whose Unix seconds are an `int64`. -/
def UnixFits (t : Int) : Prop := minInt64 ≤ Time.unix t ∧ Time.unix t ≤ maxInt64

/-- The length of the window that a certificate carries, in seconds. -/
def CertificateFields.window (fields : CertificateFields) : Int :=
  (fields.validBefore : Int) - fields.validAfter

/-- What the signer's checks are there to ensure of a certificate and its reply. -/
structure Backstopped (ext : Externals) (limits : SignLimits) (job : SigningJob)
    (fields : CertificateFields) (reply : SignedReply) : Prop where
  /-- A certificate for nobody in particular is one for everybody. -/
  named : fields.validPrincipals ≠ []
  principals : ∀ principal ∈ fields.validPrincipals, validatePrincipal ext principal = .ok ()
  positive : 0 < fields.window
  capped : fields.window * Duration.second ≤ limits.capFor job.type
  permissions : fields.permissions = permissionsFor job.requestedOptions
  serial : reply.serial = fields.serial
  keyID : reply.keyID = fields.keyID
  reported : reply.principals = fields.validPrincipals
  criticalOptions : reply.criticalOptions = fields.permissions.criticalOptions
  extensions : reply.extensions.Perm (fields.permissions.extensions.map (·.1))

variable {ext : Externals} {job : SigningJob}

/-- The lifetime is checked on the instants, and the difference saturates. -/
theorem checkLifetime_eq_ok {keys : SigningKeys} {limits : SignLimits} :
    checkLifetime ext keys job limits = .ok () ↔
      job.validAfter < job.validBefore ∧
        Time.sub job.validBefore job.validAfter ≤ limits.capFor job.type := by
  simp only [checkLifetime, throw_bind, ite_throw_eq_ok, pure_eq_ok,
    Time.before_iff, and_true, not_lt]
  constructor
  · rintro ⟨ordered, capped⟩
    exact ⟨by omega, capped⟩
  · rintro ⟨ordered, capped⟩
    exact ⟨by omega, capped⟩

theorem checkPrincipals_eq_ok : checkPrincipals ext job = .ok () ↔
      ∀ principal ∈ job.principals, validatePrincipal ext principal = .ok () := by
  simp only [checkPrincipals, forM_eq_ok, mapError_eq_ok]

/-- **What `Sign` has done when it returns.**  The checks passed, and certificate and
reply are made of the job. -/
theorem sign_eq_ok {keys : SigningKeys} {fipsEnabled : Bool} {limits : SignLimits}
    {cert : SSHCertificate} {reply : SignedReply}
    (signed : sign ext keys job fipsEnabled limits = .ok (cert, reply)) :
    checkLifetime ext keys job limits = .ok () ∧ checkPrincipals ext job = .ok () ∧
      (∃ signer certType key, keys.signCert signer (certificateFields job certType key) = .ok cert) ∧
      reply.serial = job.serial ∧ reply.keyID = job.keyID ∧ reply.principals = job.principals ∧
      reply.criticalOptions = (permissionsFor job.requestedOptions).criticalOptions ∧
      reply.extensions = grantedExtensions (permissionsFor job.requestedOptions) := by
  simp only [sign, bind_eq_ok, mapError_eq_ok, pure_eq_ok,
    Prod.mk.injEq] at signed
  obtain ⟨_, lifetime, certType, _, key, _, _, _, _, principals, signer, _, made, issued, rfl,
    rfl⟩ := signed
  exact ⟨lifetime, principals, ⟨signer, certType, key, issued⟩, rfl, rfl, rfl, rfl, rfl⟩

/-- Whole seconds and what is left of an instant. -/
theorem unix_mul_second (t : Int) : Time.unix t * Duration.second = t - t % Duration.second := by
  unfold Time.unix Duration.second
  omega

theorem unix_neg_iff {t : Int} : Time.unix t < 0 ↔ t < 0 := by
  unfold Time.unix Duration.second
  omega

/-- A conversion to `uint64` moves the seconds before 1970 to the top of the range. -/
theorem toUint64_of_unixFits {t : Int} (fits : UnixFits t) : (toUint64 (Time.unix t) : Int) =
      if t < 0 then Time.unix t + 18446744073709551616 else Time.unix t := by
  obtain ⟨low, high⟩ := fits
  have sign : Time.unix t < 0 ↔ t < 0 := unix_neg_iff
  unfold minInt64 at low
  unfold maxInt64 at high
  unfold toUint64
  split_ifs with negative
  · have below : Time.unix t < 0 := sign.mpr negative
    omega
  · have above : ¬ Time.unix t < 0 := fun below => negative (sign.mp below)
    omega

/-- The window that is written into a certificate is the one between the two whole
seconds, unless 1970 lies between them: then it is negative. -/
theorem window_certificateFields (certType : Nat) (key : PublicKey)
    (ordered : job.validAfter < job.validBefore) (start : UnixFits job.validAfter)
    (finish : UnixFits job.validBefore) :
    (certificateFields job certType key).window =
      Time.unix job.validBefore - Time.unix job.validAfter -
        if job.validAfter < 0 ∧ 0 ≤ job.validBefore then 18446744073709551616 else 0 := by
  show (toUint64 (Time.unix job.validBefore) : Int) - toUint64 (Time.unix job.validAfter) = _
  rw [toUint64_of_unixFits start, toUint64_of_unixFits finish]
  split_ifs <;> omega

/-- **When the signer's backstop holds.**  Of the jobs that are signed, exactly those
with at least one principal, whose window begins and ends in different seconds, does not
reach across 1970, and does not exceed the limit once both ends are rounded down. -/
theorem sign_backstopped_iff {ext : Externals} {keys : SigningKeys} {job : SigningJob}
    {fipsEnabled : Bool} {limits : SignLimits} {cert : SSHCertificate} {reply : SignedReply}
    (keeps : keys.KeepsFields) (start : UnixFits job.validAfter)
    (finish : UnixFits job.validBefore)
    (signed : sign ext keys job fipsEnabled limits = .ok (cert, reply)) :
    Backstopped ext limits job cert.fields reply ↔
      job.principals ≠ [] ∧ Time.unix job.validAfter < Time.unix job.validBefore ∧
        ¬ (job.validAfter < 0 ∧ 0 ≤ job.validBefore) ∧
        job.validBefore - job.validAfter + job.validAfter % Duration.second -
          job.validBefore % Duration.second ≤ limits.capFor job.type := by
  obtain ⟨lifetime, principals, ⟨signer, certType, key, issued⟩, serial, keyID, reported,
    criticalOptions, extensions⟩ := sign_eq_ok signed
  obtain ⟨ordered, -⟩ := checkLifetime_eq_ok.mp lifetime
  have fields : cert.fields = certificateFields job certType key := keeps _ _ _ issued
  have window := window_certificateFields certType key ordered start finish
  have roundedStart := unix_mul_second job.validAfter
  have roundedFinish := unix_mul_second job.validBefore
  rw [fields]
  constructor
  · intro holds
    have positive := holds.positive
    have capped := holds.capped
    -- A window across 1970 would be negative, so the wrap plays no part.
    have within : ¬ (job.validAfter < 0 ∧ 0 ≤ job.validBefore) := by
      intro across
      rw [window, if_pos across] at positive
      obtain ⟨-, high⟩ := finish
      obtain ⟨low, -⟩ := start
      unfold minInt64 at low
      unfold maxInt64 at high
      omega
    rw [window, if_neg within] at positive capped
    refine ⟨holds.named, by omega, within, ?_⟩
    rw [Int.sub_zero, Int.sub_mul, roundedStart, roundedFinish] at capped
    omega
  · rintro ⟨named, different, within, capped⟩
    rw [if_neg within] at window
    refine
      { named := named
        principals := checkPrincipals_eq_ok.mp principals
        positive := by rw [window]; omega
        capped := ?_
        permissions := rfl
        serial := serial
        keyID := keyID
        reported := reported
        criticalOptions := criticalOptions
        extensions := ?_ }
    · rw [window, Int.sub_zero, Int.sub_mul, roundedStart, roundedFinish]
      omega
    · rw [extensions]
      exact List.mergeSort_perm _ _

namespace Sample

/-- A library that accepts every key. -/
def signerExternals : Externals :=
  { Externals.plain with parseAuthorizedKey := fun _ => .ok ⟨"ssh-ed25519", "SHA256:key"⟩ }

/-- A CA that signs whatever it is given. -/
def signingKeys : SigningKeys where
  signer := .ok ⟨"ssh-ed25519", "SHA256:ca"⟩
  signCert _ fields := .ok { fields }
  marshalAuthorizedKey _ := "certificate"
  fingerprintSHA256 key := key.fingerprint
  formatTime _ := ""

theorem signingKeys_keepsFields : signingKeys.KeepsFields := by
  intro signer fields cert issued
  cases issued
  rfl

/-- The default ceilings. -/
def signLimits : SignLimits := ⟨7776000 * Duration.second, 63158400 * Duration.second⟩

/-- A job for the first hour of 1970. -/
def signingJob (principals : List String) : SigningJob where
  requestID := "request"
  type := .user
  publicKey := "key"
  principals := principals
  keyID := "alice"
  requestedOptions := { extensions := ["permit-pty"] }
  validAfter := 0
  validBefore := 3600 * Duration.second
  serial := 7

/-- Both jobs are signed. -/
theorem signs (principals : List String)
    (succeeds : (sign signerExternals signingKeys (signingJob principals) false
      signLimits).toOption.isSome = true) :
    ∃ cert reply, sign signerExternals signingKeys (signingJob principals) false signLimits =
      .ok (cert, reply) :=
  ⟨_, _, eq_ok_get succeeds⟩

theorem unixFits_hour : UnixFits 0 ∧ UnixFits (3600 * Duration.second) := by
  unfold UnixFits
  decide

end Sample

open Sample in
/-- The conditions are met by an ordinary job. -/
theorem sign_backstopped_alice :
    ∃ cert reply, sign signerExternals signingKeys (signingJob ["alice"]) false signLimits =
        .ok (cert, reply) ∧
      Backstopped signerExternals signLimits (signingJob ["alice"]) cert.fields reply := by
  obtain ⟨cert, reply, signed⟩ := signs ["alice"] (by decide +kernel)
  refine ⟨cert, reply, signed, ?_⟩
  apply (sign_backstopped_iff signingKeys_keepsFields unixFits_hour.1 unixFits_hour.2 signed).mpr
  decide

open Sample in
/-- A job without principals is signed: the certificate is good for every account. -/
theorem sign_accepts_wildcard :
    ∃ cert reply, sign signerExternals signingKeys (signingJob []) false signLimits =
        .ok (cert, reply) ∧
      ¬ Backstopped signerExternals signLimits (signingJob []) cert.fields reply := by
  obtain ⟨cert, reply, signed⟩ := signs [] (by decide +kernel)
  refine ⟨cert, reply, signed, fun holds => ?_⟩
  obtain ⟨-, -, ⟨signer, certType, key, issued⟩, -⟩ := sign_eq_ok signed
  apply holds.named
  rw [signingKeys_keepsFields _ _ _ issued]
  rfl

open Interleaving

end Ssoossh
