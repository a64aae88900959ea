import SerenSecrets.Crypto.Wire
import SerenSecrets.Lib.Except

set_option autoImplicit false

/-! # Key derivation parameters

Argon2id parameters are stored next to what they protect, so they are validated when they are
minted and again when they come back from the server. Argon2id itself is a parameter (`Argon2`). Its
memory is allocated per call, so a derivation may fail for its own reasons; the first argument of
`hashPasswordInto` tells the derivations of one operation apart. -/

namespace SerenSecrets

/-! ## Parameters -/

inductive KdfAlgorithm where
  | argon2id
  deriving DecidableEq

structure KdfParams where
  version : UInt8
  algorithm : KdfAlgorithm
  memoryKib : UInt32
  timeCost : UInt32
  parallelism : UInt32
  outputLen : UInt32
  salt : Bytes
  deriving DecidableEq

/-- 64 MiB, two passes, one lane, 32 bytes of output. -/
def defaultParams (salt : FixedBytes 16) : KdfParams where
  version := 1
  algorithm := .argon2id
  memoryKib := 64 * 1024
  timeCost := 2
  parallelism := 1
  outputLen := 32
  salt := salt.toBytes

/-- The approved memory and time costs, strongest first. -/
def profiles : List (UInt32 × UInt32) :=
  [(64 * 1024, 2), (64 * 1024, 1), (32 * 1024, 2), (19 * 1024, 2)]

def validateStoredParams (params : KdfParams) : CryptoResult Unit := do
  rejectIf (params.version ≠ 1) (.kdf "unsupported KDF version")
  rejectIf (params.algorithm ≠ .argon2id) (.kdf "unsupported KDF algorithm")
  rejectIf (params.parallelism ≠ 1) (.kdf "unsupported KDF parallelism")
  rejectIf (params.outputLen ≠ 32) (.kdf "unsupported KDF output length")
  rejectIf (params.salt.length ≠ 16) (.kdf "unsupported KDF salt length")
  rejectIf (params.salt.all (· == 0)) (.kdf "unsupported KDF salt value")
  rejectIf (¬ profiles.any (fun p => p.1 == params.memoryKib && p.2 == params.timeCost))
    (.kdf "unsupported KDF memory/time profile")

/-- The default parameters are approved whenever the salt is not all zero. -/
theorem validateStoredParams_defaultParams {salt : FixedBytes 16}
    (h : salt.toBytes.all (· == 0) = false) : validateStoredParams (defaultParams salt) = .ok () := by
  simp only [validateStoredParams, Except.bind_unit_eq_ok, rejectIf_eq_ok]
  refine ⟨not_not_intro rfl, not_not_intro rfl, not_not_intro rfl, not_not_intro rfl, ?_, ?_,
    not_not_intro rfl⟩
  · exact not_not_intro salt.length_toBytes
  · simp only [defaultParams, h, Bool.false_eq_true, not_false_eq_true]

theorem outputLen_of_validateStoredParams {params : KdfParams}
    (h : validateStoredParams params = .ok ()) : params.outputLen = 32 := by
  simp only [validateStoredParams, Except.bind_unit_eq_ok, rejectIf_eq_ok, not_not] at h
  exact h.2.2.2.1

/-! ## Derivation -/

/-- Argon2id, as a third-party primitive: which parameters it takes, and its output. -/
structure Argon2 where
  paramsValid (memoryKib timeCost parallelism outputLen : UInt32) : Bool
  hashPasswordInto (call : ℕ) (params : KdfParams) (password : Bytes) :
    Option (FixedBytes params.outputLen.toNat)

/-- Whether a derivation goes through. -/
def Argon2.Succeeds (K : Argon2) (call : ℕ) (password : Bytes) (params : KdfParams) : Prop :=
  K.paramsValid params.memoryKib params.timeCost params.parallelism params.outputLen = true ∧
    (K.hashPasswordInto call params password).isSome = true

/-- Deriving twice from the same inputs gives the same key. -/
def Argon2.Deterministic (K : Argon2) : Prop :=
  ∀ call params password, K.hashPasswordInto call params password
    = K.hashPasswordInto 0 params password

def deriveKey (K : Argon2) (call : ℕ) (password : Bytes) (params : KdfParams) :
    CryptoResult Bytes := do
  rejectIf (params.algorithm ≠ .argon2id) (.kdf "unsupported algorithm")
  rejectIf (¬ K.paramsValid params.memoryKib params.timeCost params.parallelism params.outputLen)
    (.kdf "invalid Argon2 parameters")
  match K.hashPasswordInto call params password with
  | some out => .ok out.toBytes
  | none => .error (.kdf "argon2 derivation failed")

/-- Derive exactly 32 bytes; any other length is the error `wrongLength`. -/
def deriveArray32 (K : Argon2) (call : ℕ) (wrongLength : String) (password : Bytes)
    (params : KdfParams) : CryptoResult (FixedBytes 32) := do
  let bytes ← deriveKey K call password params
  array32FromSlice (.kdf wrongLength) bytes

def deriveMasterKey (K : Argon2) (call : ℕ) (password : Bytes) (params : KdfParams) :
    CryptoResult MasterKey :=
  SymmetricKey.mk <$>
    deriveArray32 K call "master key derivation produced wrong length" password params

def deriveRecoveryKey (K : Argon2) (call : ℕ) (recoveryKeyBytes : Bytes) (params : KdfParams) :
    CryptoResult RecoveryDerivedKey :=
  SymmetricKey.mk <$>
    deriveArray32 K call "recovery-derived key derivation produced wrong length"
      recoveryKeyBytes params

theorem deriveKey_eq_ok {K : Argon2} {call : ℕ} {password : Bytes} {params : KdfParams}
    {out : Bytes} :
    deriveKey K call password params = .ok out ↔
      K.paramsValid params.memoryKib params.timeCost params.parallelism params.outputLen = true ∧
        ∃ key, K.hashPasswordInto call params password = some key ∧ key.toBytes = out := by
  simp only [deriveKey, Except.bind_unit_eq_ok, rejectIf_eq_ok, not_not]
  constructor
  · rintro ⟨-, hvalid, h⟩
    split at h
    · rename_i key hkey
      exact ⟨hvalid, key, hkey, Except.ok.inj h⟩
    · exact absurd h (by simp)
  · rintro ⟨hvalid, key, hkey, rfl⟩
    exact ⟨trivial, hvalid, by rw [hkey]⟩

theorem Argon2.Deterministic.deriveKey_eq {K : Argon2} (hK : K.Deterministic) (call call' : ℕ)
    (password : Bytes) (params : KdfParams) :
    deriveKey K call password params = deriveKey K call' password params := by
  simp only [deriveKey, hK call, hK call']

theorem deriveArray32_eq_ok {K : Argon2} {call : ℕ} {msg : String} {password : Bytes}
    {params : KdfParams} {out : FixedBytes 32} :
    deriveArray32 K call msg password params = .ok out ↔
      deriveKey K call password params = .ok out.toBytes := by
  simp only [deriveArray32, Except.bind_eq_ok, array32FromSlice_eq_ok, exists_eq_right]

/-- With 32 bytes of output the length check passes: deriving fails only where Argon2id does. -/
theorem exists_deriveArray32_eq_ok {K : Argon2} {call : ℕ} {msg : String} {password : Bytes}
    {params : KdfParams} (hlen : params.outputLen = 32) :
    (∃ out, deriveArray32 K call msg password params = .ok out) ↔
      K.Succeeds call password params := by
  simp only [deriveArray32_eq_ok, deriveKey_eq_ok, Argon2.Succeeds]
  constructor
  · rintro ⟨out, hvalid, key, hkey, -⟩
    exact ⟨hvalid, by rw [hkey]; rfl⟩
  · rintro ⟨hvalid, hsome⟩
    obtain ⟨key, hkey⟩ := Option.isSome_iff_exists.mp hsome
    have hkeyLen : key.toBytes.length = 32 := by
      rw [key.length_toBytes, hlen]
      rfl
    exact ⟨⟨key.toBytes, hkeyLen⟩, hvalid, key, hkey, rfl⟩

end SerenSecrets
