import SerenSecrets.Crypto.Envelope
import SerenSecrets.Crypto.Kdf
import Mathlib.Data.Set.Basic
import Mathlib.Logic.Relation

set_option autoImplicit false

/-! # Account secrets

The account key is wrapped twice, under a key derived from the master password and under a key
derived from the recovery key; the two identity private keys are wrapped under the account key.
Changing the password, rotating the recovery key and re-wrapping after a recovery rewrite parts of
the stored `AccountSecrets` in place.

Over every sequence of successful operations the latest password and the latest recovery key, and no
others, lead back to the account's own keys (`reached_lifecycle`). A failed operation should leave
the secrets alone; re-wrapping after a recovery does not, because it replaces the master wrap before
its second derivation (`allOrNothing_iff`). -/

namespace SerenSecrets

/-! ## Labels and wraps -/

def accountKeyWrapAad : Bytes := utf8 "account-key-wrap:"

def recoveryKeyWrapAad : Bytes := utf8 "recovery-key-wrap:"

def accountKemPrivateWrapAad : Bytes := utf8 "account-kem-private-wrap:"

def accountSigningPrivateWrapAad : Bytes := utf8 "account-signing-private-wrap:"

/-- Public halves of the identity keys, as third-party primitives. -/
structure IdentityCurves where
  kemPublicOf (secret : FixedBytes 32) : FixedBytes 32
  signingPublicOf (secret : FixedBytes 32) : FixedBytes 32

structure IdentityKemKeypair where
  publicKey : IdentityKemPublicKey
  privateKey : IdentityKemPrivateKey

structure IdentitySigningKeypair where
  publicKey : IdentitySigningPublicKey
  privateKey : IdentitySigningPrivateKey

def IdentityKemKeypair.fromPrivate (X : IdentityCurves) (privateKey : IdentityKemPrivateKey) :
    IdentityKemKeypair :=
  ⟨⟨X.kemPublicOf privateKey.asBytes⟩, privateKey⟩

def IdentitySigningKeypair.fromPrivate (X : IdentityCurves)
    (privateKey : IdentitySigningPrivateKey) : IdentitySigningKeypair :=
  ⟨⟨X.signingPublicOf privateKey.asBytes⟩, privateKey⟩

structure AccountSecrets where
  kdfParams : KdfParams
  recoveryKdfParams : KdfParams
  accountKeyWrap : Bytes
  accountKemPrivateWrap : Bytes
  accountSigningPrivateWrap : Bytes
  recoveryKeyWrap : Bytes
  kemPublicKey : IdentityKemPublicKey
  signingPublicKey : IdentitySigningPublicKey
  deriving DecidableEq

section Operations

variable (A : Aead) (K : Argon2) (X : IdentityCurves)

def wrapAccountKey (masterKey : MasterKey) (nonce : FixedBytes 24) (accountKey : AccountKey) :
    Bytes :=
  xchacha20EncryptWithAad A masterKey.asBytes nonce accountKey.asBytes.toBytes accountKeyWrapAad

def wrapAccountKeyForRecovery (derived : RecoveryDerivedKey) (nonce : FixedBytes 24)
    (accountKey : AccountKey) : Bytes :=
  xchacha20EncryptWithAad A derived.asBytes nonce accountKey.asBytes.toBytes recoveryKeyWrapAad

def unwrapAccountKey (masterKey : MasterKey) (wrap : Bytes) : CryptoResult AccountKey :=
  SymmetricKey.mk <$>
    decryptArray32 A (.invalidKey "account key wrong length") masterKey.asBytes accountKeyWrapAad
      wrap

def unwrapAccountSigningPrivateKey (accountKey : AccountKey) (wrap : Bytes) :
    CryptoResult IdentitySigningPrivateKey :=
  IdentitySigningPrivateKey.mk <$>
    decryptArray32 A (.invalidKey "Ed25519 private key must be 32 bytes") accountKey.asBytes
      accountSigningPrivateWrapAad wrap

/-! ## Setup -/

/-- The random values of a setup. -/
structure SetupDraw where
  recoveryKey : RecoveryKey
  accountKey : AccountKey
  kemPrivate : IdentityKemPrivateKey
  signingPrivate : IdentitySigningPrivateKey
  accountKeyNonce : FixedBytes 24
  recoveryKeyNonce : FixedBytes 24
  kemNonce : FixedBytes 24
  signingNonce : FixedBytes 24

structure AccountSetupBundle where
  secrets : AccountSecrets
  recoveryKey : RecoveryKey
  kemKeypair : IdentityKemKeypair
  signingKeypair : IdentitySigningKeypair

def accountSetupWithParams (draw : SetupDraw) (masterPassword : Bytes)
    (kdfParams recoveryKdfParams : KdfParams) : CryptoResult AccountSetupBundle := do
  validateStoredParams kdfParams
  validateStoredParams recoveryKdfParams
  let masterKey ← deriveMasterKey K 0 masterPassword kdfParams
  let recoveryDerived ←
    deriveRecoveryKey K 1 draw.recoveryKey.asBytes.toBytes recoveryKdfParams
  let kemKeypair := IdentityKemKeypair.fromPrivate X draw.kemPrivate
  let signingKeypair := IdentitySigningKeypair.fromPrivate X draw.signingPrivate
  let secrets : AccountSecrets :=
    { kdfParams := kdfParams
      recoveryKdfParams := recoveryKdfParams
      accountKeyWrap := wrapAccountKey A masterKey draw.accountKeyNonce draw.accountKey
      accountKemPrivateWrap :=
        xchacha20EncryptWithAad A draw.accountKey.asBytes draw.kemNonce
          draw.kemPrivate.asBytes.toBytes accountKemPrivateWrapAad
      accountSigningPrivateWrap :=
        xchacha20EncryptWithAad A draw.accountKey.asBytes draw.signingNonce
          draw.signingPrivate.asBytes.toBytes accountSigningPrivateWrapAad
      recoveryKeyWrap :=
        wrapAccountKeyForRecovery A recoveryDerived draw.recoveryKeyNonce draw.accountKey
      kemPublicKey := kemKeypair.publicKey
      signingPublicKey := signingKeypair.publicKey }
  return { secrets, recoveryKey := draw.recoveryKey, kemKeypair, signingKeypair }

/-! ## Unlock and recovery -/

structure UnlockedAccount where
  accountKey : AccountKey
  kemPrivate : IdentityKemPrivateKey
  signingPrivate : IdentitySigningPrivateKey

def unlockAccount (masterPassword : Bytes) (secrets : AccountSecrets) :
    CryptoResult UnlockedAccount := do
  validateStoredParams secrets.kdfParams
  let masterKey ← deriveMasterKey K 0 masterPassword secrets.kdfParams
  let accountKey ← unwrapAccountKey A masterKey secrets.accountKeyWrap
  let kemPrivateBytes ← xchacha20DecryptWithAad A accountKey.asBytes
    secrets.accountKemPrivateWrap accountKemPrivateWrapAad
  let signingPrivateBytes ← xchacha20DecryptWithAad A accountKey.asBytes
    secrets.accountSigningPrivateWrap accountSigningPrivateWrapAad
  let kemBytes ← array32FromSlice (.invalidKey "X25519 private key must be 32 bytes")
    kemPrivateBytes
  let signingBytes ← array32FromSlice (.invalidKey "Ed25519 private key must be 32 bytes")
    signingPrivateBytes
  let kemPrivate : IdentityKemPrivateKey := ⟨kemBytes⟩
  let signingPrivate : IdentitySigningPrivateKey := ⟨signingBytes⟩
  rejectIf ((IdentityKemKeypair.fromPrivate X kemPrivate).publicKey ≠ secrets.kemPublicKey)
    (.invalidKey "kem public key does not match unwrapped private key")
  rejectIf
    ((IdentitySigningKeypair.fromPrivate X signingPrivate).publicKey ≠ secrets.signingPublicKey)
    (.invalidKey "signing public key does not match unwrapped private key")
  return { accountKey, kemPrivate, signingPrivate }

def recoverWithRecoveryKey (recoveryKey : RecoveryKey) (secrets : AccountSecrets) :
    CryptoResult AccountKey := do
  validateStoredParams secrets.recoveryKdfParams
  let derived ← deriveRecoveryKey K 0 recoveryKey.asBytes.toBytes secrets.recoveryKdfParams
  SymmetricKey.mk <$>
    decryptArray32 A (.invalidKey "recovered account key wrong length") derived.asBytes
      recoveryKeyWrapAad secrets.recoveryKeyWrap

/-! ## Operations on the stored secrets -/

/-- An operation that mutates the caller's secrets. What it has written stays when it fails. -/
abbrev AccountM := ExceptT CryptoError (StateM AccountSecrets)

def AccountM.lift {α : Type} (result : CryptoResult α) : AccountM α := ExceptT.mk (pure result)

/-- The random values behind a new master wrap. -/
structure MasterDraw where
  salt : FixedBytes 16
  nonce : FixedBytes 24

/-- The random values behind a new recovery wrap. -/
structure RecoveryDraw where
  salt : FixedBytes 16
  recoveryKey : RecoveryKey
  nonce : FixedBytes 24

def changeMasterPassword (draw : MasterDraw) (accountKey : AccountKey) (newPassword : Bytes) :
    AccountM Unit := do
  let newParams := defaultParams draw.salt
  let newMaster ← AccountM.lift (deriveMasterKey K 0 newPassword newParams)
  let newWrap := wrapAccountKey A newMaster draw.nonce accountKey
  modify ({ · with kdfParams := newParams })
  modify ({ · with accountKeyWrap := newWrap })

/-- `call` is the number of derivations the caller has made before. -/
def regenerateRecoveryKey (call : ℕ) (draw : RecoveryDraw) (accountKey : AccountKey) :
    AccountM RecoveryKey := do
  let newParams := defaultParams draw.salt
  let derived ← AccountM.lift (deriveRecoveryKey K call draw.recoveryKey.asBytes.toBytes newParams)
  modify ({ · with recoveryKdfParams := newParams })
  modify ({ · with recoveryKeyWrap := wrapAccountKeyForRecovery A derived draw.nonce accountKey })
  return draw.recoveryKey

def rewrapAccountKeyAfterRecovery (master : MasterDraw) (recovery : RecoveryDraw)
    (accountKey : AccountKey) (newPassword : Bytes) : AccountM RecoveryKey := do
  let newParams := defaultParams master.salt
  let mk ← AccountM.lift (deriveMasterKey K 0 newPassword newParams)
  modify ({ · with kdfParams := newParams })
  modify ({ · with accountKeyWrap := wrapAccountKey A mk master.nonce accountKey })
  regenerateRecoveryKey A K 1 recovery accountKey

/-- Run an operation on the stored secrets. -/
def AccountM.exec {α : Type} (op : AccountM α) (secrets : AccountSecrets) :
    CryptoResult α × AccountSecrets :=
  op.run.run secrets

end Operations

/-! ## What one operation does -/

section Specs

variable {A : Aead} {K : Argon2} {accountKey : AccountKey} {secrets : AccountSecrets}

theorem changeMasterPassword_exec (draw : MasterDraw) (newPassword : Bytes) :
    (changeMasterPassword A K draw accountKey newPassword).exec secrets =
      match deriveMasterKey K 0 newPassword (defaultParams draw.salt) with
      | .error e => (.error e, secrets)
      | .ok master =>
          (.ok (), { secrets with
            kdfParams := defaultParams draw.salt
            accountKeyWrap := wrapAccountKey A master draw.nonce accountKey }) := by
  unfold changeMasterPassword AccountM.exec
  dsimp only
  cases deriveMasterKey K 0 newPassword (defaultParams draw.salt) <;> rfl

theorem regenerateRecoveryKey_exec (call : ℕ) (draw : RecoveryDraw) :
    (regenerateRecoveryKey A K call draw accountKey).exec secrets =
      match deriveRecoveryKey K call draw.recoveryKey.asBytes.toBytes
        (defaultParams draw.salt) with
      | .error e => (.error e, secrets)
      | .ok derived =>
          (.ok draw.recoveryKey, { secrets with
            recoveryKdfParams := defaultParams draw.salt
            recoveryKeyWrap := wrapAccountKeyForRecovery A derived draw.nonce accountKey }) := by
  unfold regenerateRecoveryKey AccountM.exec
  dsimp only
  cases deriveRecoveryKey K call draw.recoveryKey.asBytes.toBytes (defaultParams draw.salt) <;> rfl

/-- The master half is written before the recovery half is derived. -/
theorem rewrapAccountKeyAfterRecovery_exec (master : MasterDraw) (recovery : RecoveryDraw)
    (newPassword : Bytes) :
    (rewrapAccountKeyAfterRecovery A K master recovery accountKey newPassword).exec secrets =
      match deriveMasterKey K 0 newPassword (defaultParams master.salt) with
      | .error e => (.error e, secrets)
      | .ok mk =>
          (regenerateRecoveryKey A K 1 recovery accountKey).exec { secrets with
            kdfParams := defaultParams master.salt
            accountKeyWrap := wrapAccountKey A mk master.nonce accountKey } := by
  unfold rewrapAccountKeyAfterRecovery AccountM.exec
  dsimp only
  cases deriveMasterKey K 0 newPassword (defaultParams master.salt) <;> rfl

end Specs

/-! ## Failed operations -/

/-- The operations that rewrite stored secrets. -/
inductive AccountOp where
  | changeMasterPassword (newPassword : Bytes)
  | regenerateRecoveryKey
  | rewrapAccountKeyAfterRecovery (newPassword : Bytes)

/-- Run an operation, keeping only whether it succeeded and what it left behind. -/
def AccountOp.exec (op : AccountOp) (A : Aead) (K : Argon2) (master : MasterDraw)
    (recovery : RecoveryDraw) (accountKey : AccountKey) (secrets : AccountSecrets) :
    CryptoResult Unit × AccountSecrets :=
  match op with
  | changeMasterPassword newPassword =>
      (SerenSecrets.changeMasterPassword A K master accountKey newPassword).exec secrets
  | regenerateRecoveryKey =>
      ((SerenSecrets.regenerateRecoveryKey A K 0 recovery accountKey).exec secrets).map
        (fun r => (fun _ => ()) <$> r) id
  | rewrapAccountKeyAfterRecovery newPassword =>
      ((SerenSecrets.rewrapAccountKeyAfterRecovery A K master recovery accountKey
        newPassword).exec secrets).map (fun r => (fun _ => ()) <$> r) id

/-- A failed run of the operation leaves the secrets as they were, whatever it draws. -/
def AccountOp.AllOrNothing (op : AccountOp) (A : Aead) (K : Argon2) (accountKey : AccountKey)
    (secrets : AccountSecrets) : Prop :=
  ∀ master recovery e, (op.exec A K master recovery accountKey secrets).1 = .error e →
    (op.exec A K master recovery accountKey secrets).2 = secrets

theorem exists_deriveMasterKey_eq_ok {K : Argon2} {call : ℕ} {password : Bytes}
    {params : KdfParams} (hlen : params.outputLen = 32) :
    (∃ key, deriveMasterKey K call password params = .ok key) ↔
      K.Succeeds call password params := by
  simp only [deriveMasterKey, Except.map_eq_ok, exists_comm (α := MasterKey), exists_and_left,
    exists_eq', and_true]
  exact exists_deriveArray32_eq_ok hlen

theorem exists_deriveRecoveryKey_eq_ok {K : Argon2} {call : ℕ} {password : Bytes}
    {params : KdfParams} (hlen : params.outputLen = 32) :
    (∃ key, deriveRecoveryKey K call password params = .ok key) ↔
      K.Succeeds call password params := by
  simp only [deriveRecoveryKey, Except.map_eq_ok, exists_comm (α := RecoveryDerivedKey),
    exists_and_left, exists_eq', and_true]
  exact exists_deriveArray32_eq_ok hlen

/-- A wrap shows its nonce. -/
theorem wrapAccountKey_nonce_inj {A : Aead} {mk mk' : MasterKey} {nonce nonce' : FixedBytes 24}
    {accountKey accountKey' : AccountKey}
    (h : wrapAccountKey A mk nonce accountKey = wrapAccountKey A mk' nonce' accountKey') :
    nonce = nonce' := by
  simp only [wrapAccountKey, xchacha20EncryptWithAad, encode, List.cons.injEq, true_and] at h
  exact ((FixedBytes.selfDelimiting 24).split h).1

/-- When the second derivation fails after the first went through, the master half is replaced. -/
theorem rewrap_exec_of_recovery_failure (A : Aead) {K : Argon2} (accountKey : AccountKey)
    (secrets : AccountSecrets) (master : MasterDraw) (recovery : RecoveryDraw) {password : Bytes}
    {mk : MasterKey} (hmaster : deriveMasterKey K 0 password (defaultParams master.salt) = .ok mk)
    (hfail : ¬ K.Succeeds 1 recovery.recoveryKey.asBytes.toBytes (defaultParams recovery.salt)) :
    ∃ e, (AccountOp.rewrapAccountKeyAfterRecovery password).exec A K master recovery accountKey
      secrets = (.error e, { secrets with
        kdfParams := defaultParams master.salt
        accountKeyWrap := wrapAccountKey A mk master.nonce accountKey }) := by
  have herror : ∃ e, deriveRecoveryKey K 1 recovery.recoveryKey.asBytes.toBytes
      (defaultParams recovery.salt) = .error e := by
    apply Except.eq_error_of_ne_ok
    intro key hkey
    exact hfail ((exists_deriveRecoveryKey_eq_ok rfl).mp ⟨key, hkey⟩)
  obtain ⟨e, he⟩ := herror
  refine ⟨e, ?_⟩
  simp only [AccountOp.exec, rewrapAccountKeyAfterRecovery_exec, hmaster,
    regenerateRecoveryKey_exec, he]
  rfl

/-- **When operations are all-or-nothing**: changing the password and rotating the recovery key
    always are; re-wrapping after a recovery is exactly when no draw lets its first derivation go
    through and its second one fail. -/
theorem allOrNothing_iff (op : AccountOp) (A : Aead) (K : Argon2) (accountKey : AccountKey)
    (secrets : AccountSecrets) :
    op.AllOrNothing A K accountKey secrets ↔
      ∀ password, op = .rewrapAccountKeyAfterRecovery password →
        ∀ (salt recoverySalt : FixedBytes 16) (recoveryKey : RecoveryKey),
          K.Succeeds 0 password (defaultParams salt) →
            K.Succeeds 1 recoveryKey.asBytes.toBytes (defaultParams recoverySalt) := by
  constructor
  · rintro h password rfl salt recoverySalt recoveryKey hmaster
    by_contra hfail
    obtain ⟨mk, hmk⟩ := (exists_deriveMasterKey_eq_ok rfl).mpr hmaster
    -- The wrap shows the nonce of the run, so it cannot have been there before for every nonce.
    have hwrap : ∀ nonce, secrets.accountKeyWrap = wrapAccountKey A mk nonce accountKey := by
      intro nonce
      obtain ⟨e, he⟩ := rewrap_exec_of_recovery_failure A accountKey secrets ⟨salt, nonce⟩
        ⟨recoverySalt, recoveryKey, nonce⟩ hmk hfail
      have hunchanged := h ⟨salt, nonce⟩ ⟨recoverySalt, recoveryKey, nonce⟩ e (by rw [he])
      rw [he] at hunchanged
      exact (congrArg AccountSecrets.accountKeyWrap hunchanged).symm
    have hnonce := wrapAccountKey_nonce_inj
      ((hwrap (.replicate 24 0)).symm.trans (hwrap (.replicate 24 1)))
    exact absurd hnonce (by decide)
  · intro h master recovery e he
    cases op with
    | changeMasterPassword password =>
        simp only [AccountOp.exec, changeMasterPassword_exec] at he ⊢
        cases hkey : deriveMasterKey K 0 password (defaultParams master.salt) with
        | error e' => rfl
        | ok mk =>
            rw [hkey] at he
            exact absurd he (by simp)
    | regenerateRecoveryKey =>
        simp only [AccountOp.exec, regenerateRecoveryKey_exec] at he ⊢
        cases hkey : deriveRecoveryKey K 0 recovery.recoveryKey.asBytes.toBytes
            (defaultParams recovery.salt) with
        | error e' => rfl
        | ok derived =>
            rw [hkey] at he
            exact absurd he (by simp [Functor.map, Except.map])
    | rewrapAccountKeyAfterRecovery password =>
        simp only [AccountOp.exec, rewrapAccountKeyAfterRecovery_exec] at he ⊢
        cases hkey : deriveMasterKey K 0 password (defaultParams master.salt) with
        | error e' => rfl
        | ok mk =>
            have hmaster := (exists_deriveMasterKey_eq_ok rfl).mp ⟨mk, hkey⟩
            obtain ⟨derived, hderived⟩ := (exists_deriveRecoveryKey_eq_ok rfl).mpr
              (h password rfl master.salt recovery.salt recovery.recoveryKey hmaster)
            simp only [hkey, regenerateRecoveryKey_exec, hderived] at he
            exact absurd he (by simp [Functor.map, Except.map])

/-- A host on which the second derivation of an operation runs out of memory. -/
def argon2FailingSecond : Argon2 where
  paramsValid _ _ _ _ := true
  hashPasswordInto call _ _ := if call = 0 then some (.replicate _ 7) else none

/-- Secrets of an account that was set up on a weak device. -/
def exampleSecrets : AccountSecrets where
  kdfParams := { defaultParams (.replicate 16 1) with memoryKib := 19 * 1024 }
  recoveryKdfParams := defaultParams (.replicate 16 2)
  accountKeyWrap := []
  accountKemPrivateWrap := []
  accountSigningPrivateWrap := []
  recoveryKeyWrap := []
  kemPublicKey := ⟨.replicate 32 3⟩
  signingPublicKey := ⟨.replicate 32 4⟩

/-- Re-wrapping after a recovery fails on that host and has replaced the master wrap. -/
theorem rewrap_not_allOrNothing :
    ¬ ∀ (op : AccountOp) (A : Aead) (K : Argon2) (accountKey : AccountKey)
      (secrets : AccountSecrets), op.AllOrNothing A K accountKey secrets := by
  intro h
  have hunchanged := h (.rewrapAccountKeyAfterRecovery (utf8 "new password")) .transparent
    argon2FailingSecond ⟨.replicate 32 5⟩ exampleSecrets ⟨.replicate 16 6, .replicate 24 0⟩
    ⟨.replicate 16 7, ⟨.replicate 32 8⟩, .replicate 24 1⟩ (.kdf "argon2 derivation failed") rfl
  exact absurd (congrArg (fun s => s.kdfParams.memoryKib) hunchanged) (by decide)

/-! ## The lifecycle of an account -/

/-- Among the given passwords no two derive one key under the same approved parameters. The set is
    needed: there are more passwords than keys. -/
def Argon2.CollisionFreeOn (K : Argon2) (passwords : Set Bytes) : Prop :=
  ∀ p ∈ passwords, ∀ q ∈ passwords, ∀ params key, validateStoredParams params = .ok () →
    deriveKey K 0 p params = .ok key → deriveKey K 0 q params = .ok key → p = q

/-- The stored secrets with the password and recovery key the user holds. -/
structure AccountState where
  secrets : AccountSecrets
  password : Bytes
  recoveryKey : RecoveryKey

/-- A successful operation made with the account's key and a salt that is not all zero. -/
inductive AccountStep (A : Aead) (K : Argon2) (accountKey : AccountKey) :
    AccountState → AccountState → Prop
  | changeMasterPassword {st : AccountState} {draw : MasterDraw} {password : Bytes}
      {secrets : AccountSecrets} (hsalt : draw.salt.toBytes.all (· == 0) = false)
      (h : (changeMasterPassword A K draw accountKey password).exec st.secrets
        = (.ok (), secrets)) :
      AccountStep A K accountKey st ⟨secrets, password, st.recoveryKey⟩
  | regenerateRecoveryKey {st : AccountState} {draw : RecoveryDraw} {recoveryKey : RecoveryKey}
      {secrets : AccountSecrets} (hsalt : draw.salt.toBytes.all (· == 0) = false)
      (h : (regenerateRecoveryKey A K 0 draw accountKey).exec st.secrets
        = (.ok recoveryKey, secrets)) :
      AccountStep A K accountKey st ⟨secrets, st.password, recoveryKey⟩
  | rewrapAccountKeyAfterRecovery {st : AccountState} {master : MasterDraw}
      {recovery : RecoveryDraw} {password : Bytes} {recoveryKey : RecoveryKey}
      {secrets : AccountSecrets} (hsalt : master.salt.toBytes.all (· == 0) = false)
      (hrecoverySalt : recovery.salt.toBytes.all (· == 0) = false)
      (h : (rewrapAccountKeyAfterRecovery A K master recovery accountKey password).exec st.secrets
        = (.ok recoveryKey, secrets)) :
      AccountStep A K accountKey st ⟨secrets, password, recoveryKey⟩

/-- The master half of the secrets: the password's key wraps the account key. -/
structure MasterHalf (A : Aead) (K : Argon2) (accountKey : AccountKey) (st : AccountState) :
    Prop where
  valid : validateStoredParams st.secrets.kdfParams = .ok ()
  wrap : ∃ master nonce, deriveMasterKey K 0 st.password st.secrets.kdfParams = .ok master ∧
    st.secrets.accountKeyWrap = wrapAccountKey A master nonce accountKey

/-- The recovery half of the secrets: the recovery key's key wraps the account key. -/
structure RecoveryHalf (A : Aead) (K : Argon2) (accountKey : AccountKey) (st : AccountState) :
    Prop where
  valid : validateStoredParams st.secrets.recoveryKdfParams = .ok ()
  wrap : ∃ derived nonce,
    deriveRecoveryKey K 0 st.recoveryKey.asBytes.toBytes st.secrets.recoveryKdfParams
      = .ok derived ∧
    st.secrets.recoveryKeyWrap = wrapAccountKeyForRecovery A derived nonce accountKey

/-- What no operation touches. -/
structure IdentityKept (original secrets : AccountSecrets) : Prop where
  kemWrap : secrets.accountKemPrivateWrap = original.accountKemPrivateWrap
  signingWrap : secrets.accountSigningPrivateWrap = original.accountSigningPrivateWrap
  kemPublic : secrets.kemPublicKey = original.kemPublicKey
  signingPublic : secrets.signingPublicKey = original.signingPublicKey

/-- The invariant of a run: both halves wrap the account key, the identity is as at setup. -/
structure AccountInv (A : Aead) (K : Argon2) (accountKey : AccountKey) (original : AccountSecrets)
    (st : AccountState) : Prop where
  master : MasterHalf A K accountKey st
  recovery : RecoveryHalf A K accountKey st
  identity : IdentityKept original st.secrets

section Lifecycle

variable {A : Aead} {K : Argon2} {X : IdentityCurves} {accountKey : AccountKey}
  {original : AccountSecrets} {st st' : AccountState}

theorem Argon2.Deterministic.deriveRecoveryKey_eq (hdet : K.Deterministic) (call : ℕ)
    (password : Bytes) (params : KdfParams) :
    deriveRecoveryKey K call password params = deriveRecoveryKey K 0 password params := by
  simp only [deriveRecoveryKey, deriveArray32, deriveKey, hdet call]

/-- A new master wrap makes the master half and leaves the rest alone. -/
theorem AccountInv.setMaster (hinv : AccountInv A K accountKey original st) {draw : MasterDraw}
    {password : Bytes} {mk : MasterKey} (hsalt : draw.salt.toBytes.all (· == 0) = false)
    (hmk : deriveMasterKey K 0 password (defaultParams draw.salt) = .ok mk) :
    AccountInv A K accountKey original
      ⟨{ st.secrets with
          kdfParams := defaultParams draw.salt
          accountKeyWrap := wrapAccountKey A mk draw.nonce accountKey },
        password, st.recoveryKey⟩ where
  master := ⟨validateStoredParams_defaultParams hsalt, mk, draw.nonce, hmk, rfl⟩
  recovery := ⟨hinv.recovery.valid, hinv.recovery.wrap⟩
  identity := ⟨hinv.identity.kemWrap, hinv.identity.signingWrap, hinv.identity.kemPublic,
    hinv.identity.signingPublic⟩

/-- A new recovery wrap makes the recovery half and leaves the rest alone. -/
theorem AccountInv.setRecovery (hinv : AccountInv A K accountKey original st) {draw : RecoveryDraw}
    {derived : RecoveryDerivedKey} (hsalt : draw.salt.toBytes.all (· == 0) = false)
    (hderived : deriveRecoveryKey K 0 draw.recoveryKey.asBytes.toBytes (defaultParams draw.salt)
      = .ok derived) :
    AccountInv A K accountKey original
      ⟨{ st.secrets with
          recoveryKdfParams := defaultParams draw.salt
          recoveryKeyWrap := wrapAccountKeyForRecovery A derived draw.nonce accountKey },
        st.password, draw.recoveryKey⟩ where
  master := ⟨hinv.master.valid, hinv.master.wrap⟩
  recovery := ⟨validateStoredParams_defaultParams hsalt, derived, draw.nonce, hderived, rfl⟩
  identity := ⟨hinv.identity.kemWrap, hinv.identity.signingWrap, hinv.identity.kemPublic,
    hinv.identity.signingPublic⟩

/-- A successful rotation draws the recovery key and its wrap. -/
theorem regenerateRecoveryKey_exec_ok {call : ℕ} {draw : RecoveryDraw} {recoveryKey : RecoveryKey}
    {secrets secrets' : AccountSecrets}
    (h : (regenerateRecoveryKey A K call draw accountKey).exec secrets
      = (.ok recoveryKey, secrets')) :
    recoveryKey = draw.recoveryKey ∧ ∃ derived,
      deriveRecoveryKey K call draw.recoveryKey.asBytes.toBytes (defaultParams draw.salt)
        = .ok derived ∧
      secrets' = { secrets with
        recoveryKdfParams := defaultParams draw.salt
        recoveryKeyWrap := wrapAccountKeyForRecovery A derived draw.nonce accountKey } := by
  rw [regenerateRecoveryKey_exec] at h
  split at h
  · exact absurd (congrArg Prod.fst h) (by simp)
  · rename_i derived hderived
    simp only [Prod.mk.injEq, Except.ok.injEq] at h
    exact ⟨h.1.symm, derived, hderived, h.2.symm⟩

/-- **Each step keeps the invariant.** -/
theorem AccountInv.step (hdet : K.Deterministic) (hinv : AccountInv A K accountKey original st)
    (hstep : AccountStep A K accountKey st st') : AccountInv A K accountKey original st' := by
  cases hstep with
  | changeMasterPassword hsalt h =>
      rw [changeMasterPassword_exec] at h
      split at h
      · exact absurd (congrArg Prod.fst h) (by simp)
      · rename_i mk hmk
        obtain rfl := (Prod.mk.inj h).2
        exact hinv.setMaster hsalt hmk
  | regenerateRecoveryKey hsalt h =>
      obtain ⟨rfl, derived, hderived, rfl⟩ := regenerateRecoveryKey_exec_ok h
      exact hinv.setRecovery hsalt hderived
  | rewrapAccountKeyAfterRecovery hsalt hrecoverySalt h =>
      rw [rewrapAccountKeyAfterRecovery_exec] at h
      split at h
      · exact absurd (congrArg Prod.fst h) (by simp)
      · rename_i mk hmk
        obtain ⟨rfl, derived, hderived, rfl⟩ := regenerateRecoveryKey_exec_ok h
        -- This is the second derivation of the call; a deterministic one does not depend on that.
        rw [hdet.deriveRecoveryKey_eq 1] at hderived
        exact (hinv.setMaster hsalt hmk).setRecovery hrecoverySalt hderived

theorem AccountInv.run (hdet : K.Deterministic) (hinv : AccountInv A K accountKey original st)
    (hrun : Relation.ReflTransGen (AccountStep A K accountKey) st st') :
    AccountInv A K accountKey original st' := by
  induction hrun with
  | refl => exact hinv
  | tail _ hstep ih => exact ih.step hdet hstep

/-- What a successful setup stores. -/
theorem accountSetup_ok {draw : SetupDraw} {password : Bytes} {params recoveryParams : KdfParams}
    {bundle : AccountSetupBundle} (hdet : K.Deterministic)
    (h : accountSetupWithParams A K X draw password params recoveryParams = .ok bundle) :
    AccountInv A K draw.accountKey bundle.secrets ⟨bundle.secrets, password, bundle.recoveryKey⟩ ∧
      bundle.kemKeypair = .fromPrivate X draw.kemPrivate ∧
      bundle.signingKeypair = .fromPrivate X draw.signingPrivate ∧
      bundle.secrets.accountKemPrivateWrap = xchacha20EncryptWithAad A draw.accountKey.asBytes
        draw.kemNonce draw.kemPrivate.asBytes.toBytes accountKemPrivateWrapAad ∧
      bundle.secrets.accountSigningPrivateWrap = xchacha20EncryptWithAad A
        draw.accountKey.asBytes draw.signingNonce draw.signingPrivate.asBytes.toBytes
        accountSigningPrivateWrapAad ∧
      bundle.secrets.kemPublicKey = bundle.kemKeypair.publicKey ∧
      bundle.secrets.signingPublicKey = bundle.signingKeypair.publicKey := by
  simp only [accountSetupWithParams, Except.bind_eq_ok, Except.pure_eq_ok] at h
  obtain ⟨⟨⟩, hparams, ⟨⟩, hrecoveryParams, mk, hmk, derived, hderived, rfl⟩ := h
  rw [hdet.deriveRecoveryKey_eq 1] at hderived
  refine ⟨⟨⟨hparams, mk, _, hmk, rfl⟩, ⟨hrecoveryParams, derived, _, hderived, rfl⟩,
    ⟨rfl, rfl, rfl, rfl⟩⟩, rfl, rfl, rfl, rfl, rfl, rfl⟩

/-! ### Opening and refusing -/

theorem MasterHalf.unwrap (hA : A.Correct) (h : MasterHalf A K accountKey st) :
    ∃ master, deriveMasterKey K 0 st.password st.secrets.kdfParams = .ok master ∧
      unwrapAccountKey A master st.secrets.accountKeyWrap = .ok accountKey := by
  obtain ⟨master, nonce, hmaster, hwrap⟩ := h.wrap
  refine ⟨master, hmaster, ?_⟩
  rw [unwrapAccountKey, Except.map_eq_ok]
  refine ⟨accountKey.asBytes, decryptArray32_eq_ok.mpr ?_, rfl⟩
  rw [hwrap]
  exact xchacha20Decrypt_encrypt_self hA

/-- A master key that opens the wrap is the one that made it. -/
theorem MasterHalf.eq_of_unwrap (hA : A.Ideal) (h : MasterHalf A K accountKey st)
    {master : MasterKey} {key : AccountKey}
    (hopen : unwrapAccountKey A master st.secrets.accountKeyWrap = .ok key) :
    deriveMasterKey K 0 st.password st.secrets.kdfParams = .ok master := by
  obtain ⟨original, nonce, horiginal, hwrap⟩ := h.wrap
  rw [unwrapAccountKey, Except.map_eq_ok] at hopen
  obtain ⟨bytes, hbytes, -⟩ := hopen
  rw [decryptArray32_eq_ok, hwrap] at hbytes
  obtain ⟨hkey, -, -⟩ := xchacha20Decrypt_encrypt_ok hA hbytes
  have hmaster : master = original := by
    cases master
    cases original
    exact congrArg SymmetricKey.mk hkey
  rw [hmaster, horiginal]

theorem deriveMasterKey_eq_ok {call : ℕ} {password : Bytes} {params : KdfParams} {key : MasterKey} :
    deriveMasterKey K call password params = .ok key ↔
      deriveKey K call password params = .ok key.asBytes.toBytes := by
  rw [deriveMasterKey, Except.map_eq_ok, ← deriveArray32_eq_ok]
  constructor
  · rintro ⟨bytes, hbytes, rfl⟩
    exact hbytes
  · intro h
    exact ⟨_, h, rfl⟩

theorem deriveRecoveryKey_eq_ok {call : ℕ} {password : Bytes} {params : KdfParams}
    {key : RecoveryDerivedKey} :
    deriveRecoveryKey K call password params = .ok key ↔
      deriveKey K call password params = .ok key.asBytes.toBytes := by
  rw [deriveRecoveryKey, Except.map_eq_ok, ← deriveArray32_eq_ok]
  constructor
  · rintro ⟨bytes, hbytes, rfl⟩
    exact hbytes
  · intro h
    exact ⟨_, h, rfl⟩

/-- Only the latest password unlocks. -/
theorem unlockAccount_rejects (hA : A.Ideal) {passwords : Set Bytes}
    (hfree : K.CollisionFreeOn passwords) (h : MasterHalf A K accountKey st) {password : Bytes}
    (hmem : password ∈ passwords) (hlatest : st.password ∈ passwords)
    (hne : password ≠ st.password) : ∃ e, unlockAccount A K X password st.secrets = .error e := by
  apply Except.eq_error_of_ne_ok
  intro unlocked hok
  simp only [unlockAccount, Except.bind_eq_ok] at hok
  obtain ⟨-, -, master, hmaster, key, hkey, -⟩ := hok
  have hsame := h.eq_of_unwrap hA hkey
  rw [deriveMasterKey_eq_ok] at hmaster hsame
  exact hne (hfree _ hmem _ hlatest _ _ h.valid hmaster hsame)

/-- Only the latest recovery key recovers. -/
theorem recoverWithRecoveryKey_rejects (hA : A.Ideal) {passwords : Set Bytes}
    (hfree : K.CollisionFreeOn passwords) (h : RecoveryHalf A K accountKey st)
    {recoveryKey : RecoveryKey} (hmem : recoveryKey.asBytes.toBytes ∈ passwords)
    (hlatest : st.recoveryKey.asBytes.toBytes ∈ passwords) (hne : recoveryKey ≠ st.recoveryKey) :
    ∃ e, recoverWithRecoveryKey A K recoveryKey st.secrets = .error e := by
  apply Except.eq_error_of_ne_ok
  intro key hok
  obtain ⟨original, nonce, horiginal, hwrap⟩ := h.wrap
  simp only [recoverWithRecoveryKey, Except.bind_eq_ok, Except.map_eq_ok,
    decryptArray32_eq_ok] at hok
  obtain ⟨-, -, derived, hderived, bytes, hbytes, -⟩ := hok
  rw [hwrap] at hbytes
  obtain ⟨hkey, -, -⟩ := xchacha20Decrypt_encrypt_ok hA hbytes
  rw [deriveRecoveryKey_eq_ok] at hderived horiginal
  rw [← hkey] at horiginal
  have hbytesEq := hfree _ hmem _ hlatest _ _ h.valid hderived horiginal
  apply hne
  cases recoveryKey
  cases hst : st.recoveryKey
  rw [hst] at hbytesEq
  exact congrArg RecoveryKey.mk (FixedBytes.toBytes_injective hbytesEq)

/-- The latest password unlocks the identity that is wrapped under the account key. -/
theorem unlockAccount_latest (hA : A.Correct) (h : MasterHalf A K accountKey st)
    {kem : IdentityKemPrivateKey} {signing : IdentitySigningPrivateKey}
    {kemNonce signingNonce : FixedBytes 24}
    (hkem : st.secrets.accountKemPrivateWrap = xchacha20EncryptWithAad A accountKey.asBytes
      kemNonce kem.asBytes.toBytes accountKemPrivateWrapAad)
    (hsigning : st.secrets.accountSigningPrivateWrap = xchacha20EncryptWithAad A
      accountKey.asBytes signingNonce signing.asBytes.toBytes accountSigningPrivateWrapAad)
    (hkemPublic : st.secrets.kemPublicKey = (IdentityKemKeypair.fromPrivate X kem).publicKey)
    (hsigningPublic : st.secrets.signingPublicKey
      = (IdentitySigningKeypair.fromPrivate X signing).publicKey) :
    unlockAccount A K X st.password st.secrets = .ok ⟨accountKey, kem, signing⟩ := by
  obtain ⟨master, hmaster, hunwrap⟩ := h.unwrap hA
  simp only [unlockAccount, Except.bind_eq_ok, Except.pure_eq_ok, rejectIf_eq_ok, not_not]
  refine ⟨(), h.valid, master, hmaster, accountKey, hunwrap, kem.asBytes.toBytes, ?_,
    signing.asBytes.toBytes, ?_, kem.asBytes, array32FromSlice_toBytes _ _, signing.asBytes,
    array32FromSlice_toBytes _ _, (), hkemPublic.symm, (), hsigningPublic.symm, rfl⟩
  · rw [hkem]
    exact xchacha20Decrypt_encrypt_self hA
  · rw [hsigning]
    exact xchacha20Decrypt_encrypt_self hA

theorem recoverWithRecoveryKey_latest (hA : A.Ideal) (h : RecoveryHalf A K accountKey st) :
    recoverWithRecoveryKey A K st.recoveryKey st.secrets = .ok accountKey := by
  obtain ⟨derived, nonce, hderived, hwrap⟩ := h.wrap
  simp only [recoverWithRecoveryKey, Except.bind_eq_ok, Except.map_eq_ok, decryptArray32_eq_ok]
  refine ⟨(), h.valid, derived, hderived, accountKey.asBytes, ?_, rfl⟩
  rw [hwrap]
  exact xchacha20Decrypt_encrypt_self hA.correct

end Lifecycle

/-- **The account lifecycle.** After a successful setup and any sequence of successful operations,
    the latest password unlocks the original keys, the latest recovery key recovers the account
    key, the identity wraps and public keys are those of the setup, and every other password and
    recovery key is refused. -/
theorem reached_lifecycle {A : Aead} (hA : A.Ideal) {K : Argon2} (hdet : K.Deterministic)
    {passwords : Set Bytes} (hfree : K.CollisionFreeOn passwords) {X : IdentityCurves}
    {draw : SetupDraw} {password : Bytes} {params recoveryParams : KdfParams}
    {bundle : AccountSetupBundle}
    (hsetup : accountSetupWithParams A K X draw password params recoveryParams = .ok bundle)
    {st : AccountState}
    (hrun : Relation.ReflTransGen (AccountStep A K draw.accountKey)
      ⟨bundle.secrets, password, bundle.recoveryKey⟩ st) :
    unlockAccount A K X st.password st.secrets
        = .ok ⟨draw.accountKey, bundle.kemKeypair.privateKey, bundle.signingKeypair.privateKey⟩ ∧
      recoverWithRecoveryKey A K st.recoveryKey st.secrets = .ok draw.accountKey ∧
      st.secrets.accountKemPrivateWrap = bundle.secrets.accountKemPrivateWrap ∧
      st.secrets.accountSigningPrivateWrap = bundle.secrets.accountSigningPrivateWrap ∧
      st.secrets.kemPublicKey = bundle.secrets.kemPublicKey ∧
      st.secrets.signingPublicKey = bundle.secrets.signingPublicKey ∧
      (st.password ∈ passwords → ∀ other ∈ passwords, other ≠ st.password →
        ∃ e, unlockAccount A K X other st.secrets = .error e) ∧
      (st.recoveryKey.asBytes.toBytes ∈ passwords → ∀ other : RecoveryKey,
        other.asBytes.toBytes ∈ passwords → other ≠ st.recoveryKey →
          ∃ e, recoverWithRecoveryKey A K other st.secrets = .error e) := by
  obtain ⟨hinit, hkemPair, hsigningPair, hkemWrap, hsigningWrap, hkemPub, hsigningPub⟩ :=
    accountSetup_ok hdet hsetup
  have hinv := hinit.run hdet hrun
  have hid := hinv.identity
  refine ⟨?_, recoverWithRecoveryKey_latest hA hinv.recovery, hid.kemWrap, hid.signingWrap,
    hid.kemPublic, hid.signingPublic, ?_, ?_⟩
  · -- No step touches the identity, so it is the one that setup has wrapped.
    rw [hkemPair, hsigningPair]
    apply unlockAccount_latest hA.correct hinv.master
    · rw [hid.kemWrap, hkemWrap]
      rfl
    · rw [hid.signingWrap, hsigningWrap]
      rfl
    · rw [hid.kemPublic, hkemPub, hkemPair]
      rfl
    · rw [hid.signingPublic, hsigningPub, hsigningPair]
      rfl
  · intro hlatest other hmem hne
    exact unlockAccount_rejects hA hfree hinv.master hmem hlatest hne
  · intro hlatest other hmem hne
    exact recoverWithRecoveryKey_rejects hA hfree hinv.recovery hmem hlatest hne

/-- A derivation that pads the password with zeros. -/
def argon2Padding : Argon2 where
  paramsValid _ _ _ _ := true
  hashPasswordInto _ params password :=
    some ⟨(password ++ List.replicate params.outputLen.toNat 0).take params.outputLen.toNat, by
      simp⟩

/-- The passwords and recovery keys of the run below, and two wrong ones. -/
def examplePasswords : List Bytes :=
  [utf8 "first", utf8 "second", utf8 "wrong", List.replicate 32 1, List.replicate 32 2,
    List.replicate 32 3]

theorem argon2Padding_collisionFree :
    argon2Padding.CollisionFreeOn { p | p ∈ examplePasswords } := by
  intro p hp q hq params key hvalid hkey hkey'
  obtain ⟨-, k, hk, rfl⟩ := deriveKey_eq_ok.mp hkey
  obtain ⟨-, k', hk', heq⟩ := deriveKey_eq_ok.mp hkey'
  simp only [argon2Padding, Option.some.injEq] at hk hk'
  subst hk hk'
  have hpadded : (q ++ List.replicate 32 0).take 32 = (p ++ List.replicate 32 0).take 32 := by
    have hlen : params.outputLen.toNat = 32 := by
      rw [outputLen_of_validateStoredParams hvalid]
      rfl
    rw [← hlen]
    exact heq
  have hdistinct : ∀ p ∈ examplePasswords, ∀ q ∈ examplePasswords,
      (q ++ List.replicate 32 0).take 32 = (p ++ List.replicate 32 0).take 32 → p = q := by
    decide
  exact hdistinct p hp q hq hpadded

def exampleSetupDraw : SetupDraw where
  recoveryKey := ⟨.replicate 32 1⟩
  accountKey := ⟨.replicate 32 10⟩
  kemPrivate := ⟨.replicate 32 11⟩
  signingPrivate := ⟨.replicate 32 12⟩
  accountKeyNonce := .replicate 24 1
  recoveryKeyNonce := .replicate 24 2
  kemNonce := .replicate 24 3
  signingNonce := .replicate 24 4

/-- Set an account up, re-wrap it after a recovery, and try the consumed password and recovery
    key. -/
theorem reached_lifecycle_rewrapped :
    ∃ (bundle : AccountSetupBundle) (secrets : AccountSecrets),
      accountSetupWithParams .transparent argon2Padding ⟨id, id⟩ exampleSetupDraw (utf8 "first")
        (defaultParams (.replicate 16 1)) (defaultParams (.replicate 16 2)) = .ok bundle ∧
      unlockAccount .transparent argon2Padding ⟨id, id⟩ (utf8 "second") secrets
        = .ok ⟨⟨.replicate 32 10⟩, ⟨.replicate 32 11⟩, ⟨.replicate 32 12⟩⟩ ∧
      (∃ e, unlockAccount .transparent argon2Padding ⟨id, id⟩ (utf8 "first") secrets = .error e) ∧
      (∃ e, recoverWithRecoveryKey .transparent argon2Padding ⟨.replicate 32 1⟩ secrets
        = .error e) := by
  have hsetup : ∃ bundle, accountSetupWithParams .transparent argon2Padding ⟨id, id⟩
      exampleSetupDraw (utf8 "first") (defaultParams (.replicate 16 1))
      (defaultParams (.replicate 16 2)) = .ok bundle := ⟨_, rfl⟩
  obtain ⟨bundle, hbundle⟩ := hsetup
  have hrewrap : ∃ secrets, (rewrapAccountKeyAfterRecovery .transparent argon2Padding
      ⟨.replicate 16 3, .replicate 24 5⟩ ⟨.replicate 16 4, ⟨.replicate 32 2⟩, .replicate 24 6⟩
      exampleSetupDraw.accountKey (utf8 "second")).exec bundle.secrets
        = (.ok ⟨.replicate 32 2⟩, secrets) := ⟨_, rfl⟩
  obtain ⟨secrets, hsecrets⟩ := hrewrap
  have hrun : Relation.ReflTransGen (AccountStep .transparent argon2Padding
      exampleSetupDraw.accountKey) ⟨bundle.secrets, utf8 "first", bundle.recoveryKey⟩
      ⟨secrets, utf8 "second", ⟨.replicate 32 2⟩⟩ :=
    .single (.rewrapAccountKeyAfterRecovery (by decide) (by decide) hsecrets)
  obtain ⟨-, hkem, hsigning, -⟩ := accountSetup_ok (fun _ _ _ => rfl) hbundle
  obtain ⟨hunlock, -, -, -, -, -, hpassword, hrecovery⟩ :=
    reached_lifecycle Aead.transparent_ideal (fun _ _ _ => rfl) argon2Padding_collisionFree
      hbundle hrun
  dsimp only at hpassword hrecovery
  refine ⟨bundle, secrets, hbundle, ?_, ?_, ?_⟩
  · rw [hunlock, hkem, hsigning]
    rfl
  · exact hpassword (by decide) _ (by decide) (by decide)
  · exact hrecovery (by decide) _ (by decide) (by decide)

end SerenSecrets
