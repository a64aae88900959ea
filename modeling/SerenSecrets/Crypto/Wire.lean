import SerenSecrets.Lib.Bytes

set_option autoImplicit false

/-! # Errors, the versioned wire envelope and key types

Every stored or transmitted blob is `version(1) || tag(1) || payload`. `decodeExpecting` undoes
`encode` for the tag it expects and refuses every other one. -/

namespace SerenSecrets

/-! ## Errors -/

inductive CryptoError where
  | invalidKey (what : String)
  | invalidCiphertext
  | authFailure
  | unsupportedVersion (version : UInt8)
  | malformedWire (what : String)
  | invalidSignature
  | kdf (what : String)
  | invalidRecoveryKey
  | invalidPasswordRecipe (what : String)
  | importFailure (what : String)
  | exportFailure (what : String)
  | canonicalization (what : String)
  deriving DecidableEq, Repr

abbrev CryptoResult (α : Type) := Except CryptoError α

/-! ## The wire envelope -/

def protocolVersion : UInt8 := 1

inductive Tag where
  | aeadXChaCha
  | sealedBox
  | hmacSha256
  | ed25519Sig
  | accountWrap
  deriving DecidableEq, Repr

namespace Tag

def toU8 : Tag → UInt8
  | aeadXChaCha => 0x01
  | sealedBox => 0x02
  | hmacSha256 => 0x03
  | ed25519Sig => 0x04
  | accountWrap => 0x05

def fromU8 (byte : UInt8) : CryptoResult Tag :=
  if byte = 0x01 then .ok aeadXChaCha
  else if byte = 0x02 then .ok sealedBox
  else if byte = 0x03 then .ok hmacSha256
  else if byte = 0x04 then .ok ed25519Sig
  else if byte = 0x05 then .ok accountWrap
  else .error (.malformedWire "unknown tag")

@[simp] theorem fromU8_toU8 (tag : Tag) : fromU8 tag.toU8 = .ok tag := by
  cases tag <;> rfl

end Tag

/-- Prepend the protocol version and the tag. -/
def encode (tag : Tag) (payload : Bytes) : Bytes := protocolVersion :: tag.toU8 :: payload

/-- Split a blob into tag and payload, checking the version. -/
def decode : Bytes → CryptoResult (Tag × Bytes)
  | version :: tag :: payload =>
      if version ≠ protocolVersion then .error (.unsupportedVersion version)
      else do
        let tag ← Tag.fromU8 tag
        return (tag, payload)
  | _ => .error (.malformedWire "blob too short")

def decodeExpecting (blob : Bytes) (expected : Tag) : CryptoResult Bytes := do
  let (tag, payload) ← decode blob
  if tag ≠ expected then .error (.malformedWire "unexpected tag") else return payload

@[simp] theorem decode_encode (tag : Tag) (payload : Bytes) :
    decode (encode tag payload) = .ok (tag, payload) := by
  simp only [encode, decode, ne_eq, not_true_eq_false, if_false, Tag.fromU8_toU8]
  rfl

@[simp] theorem decodeExpecting_encode_self (tag : Tag) (payload : Bytes) :
    decodeExpecting (encode tag payload) tag = .ok payload := by
  simp only [decodeExpecting, decode_encode]
  exact if_neg (not_not_intro rfl)

/-- A blob of one kind is refused where another kind is expected. -/
theorem decodeExpecting_encode_of_ne {tag expected : Tag} (h : tag ≠ expected) (payload : Bytes) :
    decodeExpecting (encode tag payload) expected = .error (.malformedWire "unexpected tag") := by
  simp only [decodeExpecting, decode_encode]
  exact if_pos h

/-! ## Keys -/

/-- Read a 32-byte key; any other length is the error `wrongLength`. -/
def array32FromSlice (wrongLength : CryptoError) (slice : Bytes) : CryptoResult (FixedBytes 32) :=
  match FixedBytes.ofBytes? 32 slice with
  | some bytes => .ok bytes
  | none => .error wrongLength

theorem array32FromSlice_eq_ok {wrongLength : CryptoError} {slice : Bytes} {out : FixedBytes 32} :
    array32FromSlice wrongLength slice = .ok out ↔ slice = out.toBytes := by
  rw [← FixedBytes.ofBytes?_eq_some]
  unfold array32FromSlice
  cases FixedBytes.ofBytes? 32 slice with
  | none => simp
  | some bytes => simp

@[simp] theorem array32FromSlice_toBytes (wrongLength : CryptoError) (bytes : FixedBytes 32) :
    array32FromSlice wrongLength bytes.toBytes = .ok bytes :=
  array32FromSlice_eq_ok.mpr rfl

/-- What a 32-byte symmetric key is for. -/
inductive KeyRole where
  | master
  | account
  | vault
  | recoveryDerived
  | blindIndex
  | attachment
  | itemContent
  deriving DecidableEq, Repr

/-- A symmetric key; its role is part of its type. -/
structure SymmetricKey (role : KeyRole) where
  asBytes : FixedBytes 32
  deriving DecidableEq

theorem SymmetricKey.eq_of_toBytes {role : KeyRole} {a b : SymmetricKey role}
    (h : a.asBytes.toBytes = b.asBytes.toBytes) : a = b := by
  cases a
  cases b
  exact congrArg mk (FixedBytes.toBytes_injective h)

abbrev MasterKey := SymmetricKey .master
abbrev AccountKey := SymmetricKey .account
abbrev VaultKey := SymmetricKey .vault
abbrev RecoveryDerivedKey := SymmetricKey .recoveryDerived
abbrev AttachmentKey := SymmetricKey .attachment
abbrev ItemContentKey := SymmetricKey .itemContent

structure IdentityKemPublicKey where
  asBytes : FixedBytes 32
  deriving DecidableEq

structure IdentityKemPrivateKey where
  asBytes : FixedBytes 32
  deriving DecidableEq

structure IdentitySigningPublicKey where
  asBytes : FixedBytes 32
  deriving DecidableEq

structure IdentitySigningPrivateKey where
  asBytes : FixedBytes 32
  deriving DecidableEq

/-- The user-held key that recovers an account. -/
structure RecoveryKey where
  asBytes : FixedBytes 32
  deriving DecidableEq

end SerenSecrets
