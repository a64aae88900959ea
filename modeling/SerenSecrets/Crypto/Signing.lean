import SerenSecrets.Crypto.Wire
import SerenSecrets.Lib.Except
import SerenSecrets.Lib.Signature

set_option autoImplicit false

/-! # Signing and verifying

A signature is stored in the wire envelope under its own tag. Verifying opens the envelope, asks for
exactly 64 bytes and for a public key that is a point of the curve, and only then checks the
signature. The primitive is a parameter (`SignatureScheme`). -/

namespace SerenSecrets.Signing

abbrev signatureBytes : ℕ := 64

def sign (S : SignatureScheme) (privateKey : IdentitySigningPrivateKey) (message : Bytes) : Bytes :=
  encode .ed25519Sig (S.sign privateKey.asBytes message).toBytes

def verify (S : SignatureScheme) (publicKey : IdentitySigningPublicKey) (message blob : Bytes) :
    CryptoResult Unit := do
  let payload ← decodeExpecting blob .ed25519Sig
  match FixedBytes.ofBytes? signatureBytes payload with
  | none => .error (.malformedWire "ed25519 signature wrong length")
  | some signature => do
      rejectIf (¬ S.keyValid publicKey.asBytes) (.invalidKey "ed25519 verifying key")
      rejectIf (¬ S.verifyStrict publicKey.asBytes message signature) .invalidSignature

/-- The signature inside a blob, if the blob has the form of one. -/
def payload? (blob : Bytes) : Option (FixedBytes 64) :=
  (decodeExpecting blob .ed25519Sig).toOption.bind (FixedBytes.ofBytes? signatureBytes)

variable {S : SignatureScheme} {publicKey : IdentitySigningPublicKey} {message blob : Bytes}

/-- A blob verifies exactly if it is the envelope of a signature that does. -/
theorem verify_eq_ok :
    verify S publicKey message blob = .ok () ↔
      ∃ signature, payload? blob = some signature ∧ S.keyValid publicKey.asBytes = true ∧
        S.verifyStrict publicKey.asBytes message signature = true := by
  simp only [verify, payload?, Except.bind_eq_ok, Option.bind_eq_some_iff, Except.toOption_eq_some]
  constructor
  · rintro ⟨payload, hpayload, h⟩
    split at h
    · exact absurd h (by simp)
    · rename_i signature hsignature
      simp only [Except.bind_unit_eq_ok, rejectIf_eq_ok, not_not] at h
      exact ⟨signature, ⟨payload, hpayload, hsignature⟩, h⟩
  · rintro ⟨signature, ⟨payload, hpayload, hsignature⟩, hvalid, hverify⟩
    refine ⟨payload, hpayload, ?_⟩
    rw [hsignature]
    simp only [Except.bind_unit_eq_ok, rejectIf_eq_ok, not_not]
    exact ⟨hvalid, hverify⟩

/-- What was signed verifies. -/
theorem verify_sign {publicOf : FixedBytes 32 → FixedBytes 32} (hS : S.Correct publicOf)
    (privateKey : IdentitySigningPrivateKey) (message : Bytes) :
    verify S ⟨publicOf privateKey.asBytes⟩ message (sign S privateKey message) = .ok () := by
  refine verify_eq_ok.mpr ⟨S.sign privateKey.asBytes message, ?_, hS.keyValid_publicOf _,
    hS.verify_sign _ _⟩
  rw [payload?, sign, decodeExpecting_encode_self]
  exact FixedBytes.ofBytes?_toBytes _

end SerenSecrets.Signing
