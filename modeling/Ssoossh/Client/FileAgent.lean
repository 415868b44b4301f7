import Mathlib.Logic.Function.Basic
import Ssoossh.Lib.GoBytes
import Ssoossh.Lib.GoTime

/-!
# Reusing a certificate from key files

`ssh login` ends early if the agent holds a certificate that is still good
(`client/cmd/ssh_login.go`).  Without an ssh-agent the agent is three files, and `AddKeypair`
writes them one after another (`internal/crypto/ssh/agent/fileagent.go`): the private key, the
public key and the certificate.

The check reads the certificate's file alone.  That a certificate it reuses is signed by a
trusted CA and does not expire soon always holds.  That it certifies the private key on disk is
up to what is left on disk (`keyLeft`, `certLeft`): an `AddKeypair` that has begun its first write
and did not finish leaves the new key beside the old certificate, which fit together only if the
key was kept.  And `CertificateValid` does not look whether the validity has begun.

Keys and certificates are read and verified by functions of the `Crypto` in use.
-/

namespace Ssoossh.Client

open GoBytes GoTime

/-! ## Certificates -/

/-- The parts of `ssh.Certificate` that are looked at, and everything else as `body`. -/
structure Certificate (Key : Type) where
  key : Key
  validAfter : UInt64
  validBefore : UInt64
  signatureKey : Option Key
  body : Bytes
deriving DecidableEq

/-- What is done with keys and certificates. -/
structure Crypto (Key : Type) where
  /-- `keypair.LoadSSHKeypair`, as the public key of the private key. -/
  loadSSHKeypair : Bytes → Option Key
  /-- `keypair.ParseCertificate`. -/
  parseCertificate : Bytes → Option (Certificate Key)
  /-- `keypair.VerifyCertSignature`. -/
  verifyCertSignature : Certificate Key → Key → Bool

section Validity

variable {Key : Type} [DecidableEq Key] (crypto : Crypto Key) (cas : List Key)

/-- `CertificateValid`. -/
def certificateValid (now : Int) (c : Certificate Key) : Bool :=
  if c.validBefore = 0 ∨ c.validAfter = 0 then false
  else if c.validBefore < c.validAfter then false
  else if c.validBefore.toNat < toUint64 (Time.unix now) then false
  else cas.any fun ca => c.signatureKey == some ca && crypto.verifyCertSignature c ca

end Validity

/-! ## Key files -/

/-- The files of a `FileAgent`. -/
inductive KeyFile where
  | privKey
  | pubKey
  | cert
deriving DecidableEq

/-- What the files contain, those that exist. -/
abbrev KeyFiles := KeyFile → Option Bytes

/-- `SSHKeypair`, as it is marshalled. -/
structure SSHKeypair where
  privateKey : Bytes
  authorizedKey : Bytes
  certificate : Option Bytes := none

/-- One change of a file: `os.WriteFile`, or `removeIfPresent`. -/
inductive FileChange where
  | write (file : KeyFile) (data : Bytes)
  | remove (file : KeyFile)

/-- The files after a change. -/
def FileChange.apply (files : KeyFiles) : FileChange → KeyFiles
  | .write file data => Function.update files file (some data)
  | .remove file => Function.update files file none

/-- The files after a change that was cut off: some of the bytes have been written, or the file
is still there. -/
def FileChange.cutOff (files : KeyFiles) (written : Nat) : FileChange → KeyFiles
  | .write file data => Function.update files file (some (data.take written))
  | .remove _ => files

/-- `AddKeypair`: what it writes, in order. -/
def addKeypair (kp : SSHKeypair) : List FileChange :=
  [.write .privKey kp.privateKey, .write .pubKey kp.authorizedKey,
    match kp.certificate with
    | some data => .write .cert data
    | none => .remove .cert]

/-- Where an `AddKeypair` ends: how many changes are done, and how many bytes of the next one, if
it has begun. -/
structure Interruption where
  done : Nat
  written : Option Nat := none

/-- The files when it ends there. -/
def Interruption.files (cut : Interruption) (changes : List FileChange) (files : KeyFiles) : KeyFiles :=
  let files := (changes.take cut.done).foldl FileChange.apply files
  match cut.written, changes[cut.done]? with
  | some written, some change => change.cutOff files written
  | _, _ => files

/-! ## Logging in -/

/-- `reuseGrace`. -/
def reuseGrace : Int := 10 * Duration.second

section Login

variable {Key : Type} [DecidableEq Key] (crypto : Crypto Key) (cas : List Key)

/-- `FileAgent.Certificates`.  An error has no certificates. -/
def certificates (now : Int) (files : KeyFiles) : List (Certificate Key) :=
  if cas = [] then []
  else
    match (files .cert).bind crypto.parseCertificate with
    | none => []
    | some cert => if certificateValid crypto cas now cert then [cert] else []

/-- `reusableCertificate`.  The clock is read by `Certificates` and again for the cutoff. -/
def reusableCertificate (checked now : Int) (files : KeyFiles) : Option (Certificate Key) :=
  let cutoff := toUint64 (Time.unix (Time.add now reuseGrace))
  (certificates crypto cas checked files).find? fun cert => cert.validBefore.toNat > cutoff

/-- The certificate is for the private key on disk. -/
def Certifies (files : KeyFiles) (cert : Certificate Key) : Prop :=
  (files .privKey).bind crypto.loadSSHKeypair = some cert.key

/-- A certificate that a connection can be made with. -/
structure Usable (now : Int) (files : KeyFiles) (cert : Certificate Key) : Prop where
  certifies : Certifies crypto files cert
  signed : ∃ ca ∈ cas, cert.signatureKey = some ca ∧ crypto.verifyCertSignature cert ca = true
  begun : (cert.validAfter.toNat : Int) * Duration.second ≤ now
  lasting : now + reuseGrace < (cert.validBefore.toNat : Int) * Duration.second

/-- What an `AddKeypair` that finishes leaves. -/
def SSHKeypair.files (kp : SSHKeypair) : KeyFiles
  | .privKey => some kp.privateKey
  | .pubKey => some kp.authorizedKey
  | .cert => kp.certificate

/-- The private key that is left: the one before, a start of the new one, or the new one. -/
def Interruption.keyLeft (cut : Interruption) (kp : SSHKeypair) (prior : KeyFiles) : Option Bytes :=
  match cut.done, cut.written with
  | 0, none => prior .privKey
  | 0, some written => some (kp.privateKey.take written)
  | _ + 1, _ => some kp.privateKey

/-- The certificate that is left: the one before, also if it was about to be removed, a start of the
new one, or the new one. -/
def Interruption.certLeft (cut : Interruption) (kp : SSHKeypair) (prior : KeyFiles) : Option Bytes :=
  match cut.done, cut.written, kp.certificate with
  | 0, _, _ => prior .cert
  | 1, _, _ => prior .cert
  | 2, some written, some data => some (data.take written)
  | 2, _, _ => prior .cert
  | _ + 3, _, certificate => certificate

variable {crypto cas}

theorem files_privKey (cut : Interruption) (kp : SSHKeypair) (prior : KeyFiles) :
    cut.files (addKeypair kp) prior .privKey = cut.keyLeft kp prior := by
  obtain ⟨_ | _ | _ | done, _ | written⟩ := cut <;> cases certificate : kp.certificate <;>
    simp [Interruption.files, addKeypair, FileChange.apply, FileChange.cutOff, Interruption.keyLeft, certificate]

theorem files_cert (cut : Interruption) (kp : SSHKeypair) (prior : KeyFiles) :
    cut.files (addKeypair kp) prior .cert = cut.certLeft kp prior := by
  obtain ⟨_ | _ | _ | done, _ | written⟩ := cut <;> cases certificate : kp.certificate <;>
    simp [Interruption.files, addKeypair, FileChange.apply, FileChange.cutOff, Interruption.certLeft, certificate]

/-- What the check looks at. -/
theorem of_reusableCertificate {checked now : Int} {files : KeyFiles} {cert : Certificate Key}
    (reuses : reusableCertificate crypto cas checked now files = some cert) :
    (files .cert).bind crypto.parseCertificate = some cert ∧ certificateValid crypto cas checked cert = true ∧
      toUint64 (Time.unix (Time.add now reuseGrace)) < cert.validBefore.toNat := by
  have late := List.find?_some reuses
  have listed := List.mem_of_find?_eq_some reuses
  unfold certificates at listed
  split at listed
  · cases listed
  split at listed
  · cases listed
  next parsed =>
    split at listed
    · next valid =>
        obtain rfl := List.mem_singleton.mp listed
        exact ⟨parsed, valid, of_decide_eq_true late⟩
    · cases listed

theorem signed_of_certificateValid {now : Int} {cert : Certificate Key}
    (valid : certificateValid crypto cas now cert = true) :
    ∃ ca ∈ cas, cert.signatureKey = some ca ∧ crypto.verifyCertSignature cert ca = true := by
  unfold certificateValid at valid
  split at valid
  · cases valid
  split at valid
  · cases valid
  split at valid
  · cases valid
  obtain ⟨ca, mem, both⟩ := List.any_eq_true.mp valid
  rw [Bool.and_eq_true, beq_iff_eq] at both
  exact ⟨ca, mem, both⟩

/-- A second that is not reached when the clock is read lies ahead. -/
theorem lt_of_toUint64_lt {t : Int} (fits : Duration.Fits (Time.unix t)) {seconds : Nat}
    (ahead : toUint64 (Time.unix t) < seconds) : t < (seconds : Int) * Duration.second := by
  obtain ⟨-, high⟩ := fits
  unfold maxInt64 at high
  unfold Time.unix Duration.second at high ahead
  unfold Duration.second
  rcases Int.le_total 0 t with since | before
  · have exact := toUint64_of_nonneg (n := t / 1000000000) (by omega) (by omega)
    omega
  · -- Before 1970 the conversion wraps around, and any second of a certificate lies ahead.
    omega

end Login

/-- **What a certificate that is reused is good for.**  Whatever the key files contained and
wherever an `AddKeypair` was interrupted, it is usable exactly if the certificate that is left is for
the private key that is left, and its validity has begun. -/
theorem reused_certificate_usable_iff {Key : Type} [DecidableEq Key] (crypto : Crypto Key) (cas : List Key)
    (prior : KeyFiles) (kp : SSHKeypair) (cut : Interruption) (checked now : Int)
    (representable : Duration.Fits (Time.unix (Time.add now reuseGrace))) (cert : Certificate Key)
    (reuses : reusableCertificate crypto cas checked now (cut.files (addKeypair kp) prior) = some cert) :
    Usable crypto cas now (cut.files (addKeypair kp) prior) cert ↔
      ∃ stored, (cut.certLeft kp prior).bind crypto.parseCertificate = some stored ∧
        (cut.keyLeft kp prior).bind crypto.loadSSHKeypair = some stored.key ∧
        (stored.validAfter.toNat : Int) * Duration.second ≤ now := by
  obtain ⟨parsed, valid, late⟩ := of_reusableCertificate reuses
  rw [files_cert] at parsed
  constructor
  · intro usable
    have certifies := usable.certifies
    rw [Certifies, files_privKey] at certifies
    exact ⟨cert, parsed, certifies, usable.begun⟩
  · rintro ⟨stored, parsed', certifies, begun⟩
    cases parsed.symm.trans parsed'
    rw [← files_privKey] at certifies
    exact ⟨certifies, signed_of_certificateValid valid, begun, lt_of_toUint64_lt representable late⟩

namespace FileAgent.Sample

/-- Keys are bytes, and a certificate is written as the key, the first and the last second of its
validity and the key of the CA. -/
def crypto : Crypto UInt8 where
  loadSSHKeypair := List.head?
  parseCertificate
    | [key, validAfter, validBefore, ca] => some ⟨key, validAfter.toUInt64, validBefore.toUInt64, some ca, []⟩
    | _ => none
  verifyCertSignature _ _ := true

/-- The files of a keypair with a certificate of the CA 9. -/
def keypair (key validAfter validBefore : UInt8) : SSHKeypair :=
  ⟨[key], [key], some [key, validAfter, validBefore, 9]⟩

/-- A certificate of the CA 9. -/
def certificate (key : UInt8) (validAfter validBefore : UInt64) : Certificate UInt8 :=
  ⟨key, validAfter, validBefore, some 9, []⟩

/-- No files. -/
def absent : KeyFiles := fun _ => none

/-- A renewal of an expired certificate, interrupted while it writes the new one. -/
def renewed : KeyFiles := Interruption.files ⟨2, some 4⟩ (addKeypair (keypair 1 10 100)) (keypair 1 5 15).files

end FileAgent.Sample

open FileAgent.Sample in
/-- A renewal for the same key is reused and usable once the certificate's bytes are written. -/
theorem reused_certificate_usable_renewed :
    reusableCertificate crypto [9] (20 * Duration.second) (20 * Duration.second) renewed =
        some (certificate 1 10 100) ∧
      Usable crypto [9] (20 * Duration.second) renewed (certificate 1 10 100) := by
  have reuses : reusableCertificate crypto [9] (20 * Duration.second) (20 * Duration.second) renewed =
      some (certificate 1 10 100) := by
    decide +kernel
  have usable := reused_certificate_usable_iff crypto [9] (keypair 1 5 15).files (keypair 1 10 100) ⟨2, some 4⟩
    (20 * Duration.second) (20 * Duration.second) (by decide) (certificate 1 10 100) reuses
  exact ⟨reuses, usable.mpr ⟨certificate 1 10 100, by decide +kernel, by decide +kernel, by decide⟩⟩

open FileAgent.Sample in
/-- An `AddKeypair` that is interrupted after its private key leaves that key with the certificate of
the one before, which is reused.  And a certificate is reused that is not valid yet. -/
theorem reused_certificate_unusable :
    (reusableCertificate crypto [9] (20 * Duration.second) (20 * Duration.second)
        (Interruption.files ⟨1, none⟩ (addKeypair (keypair 2 10 100)) (keypair 1 10 100).files) =
        some (certificate 1 10 100) ∧
      ¬ Certifies crypto (Interruption.files ⟨1, none⟩ (addKeypair (keypair 2 10 100)) (keypair 1 10 100).files)
        (certificate 1 10 100)) ∧
    reusableCertificate crypto [9] (20 * Duration.second) (20 * Duration.second)
        (Interruption.files ⟨3, none⟩ (addKeypair (keypair 1 50 100)) absent) = some (certificate 1 50 100) ∧
      ¬ ((certificate 1 50 100).validAfter.toNat : Int) * Duration.second ≤ 20 * Duration.second := by
  refine ⟨⟨by decide +kernel, ?_⟩, by decide +kernel, by decide⟩
  unfold Certifies
  decide +kernel

end Ssoossh.Client
