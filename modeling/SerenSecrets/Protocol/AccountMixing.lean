import SerenSecrets.Protocol.Account
import Mathlib.Data.List.Nodup

set_option autoImplicit false

/-! # Accounts behind a hostile service

The service keeps the wraps of all accounts, and a client opens whatever it is served: wraps of
different accounts and of different times, in any slot, with any parameters and any public keys.
After that it writes new wraps, so what honest clients publish depends on what they were served.

`ServedStep` is the run of all clients at once. In every run what a password unlocks is one account:
the three keys were drawn together, the public keys are theirs, and the password was chosen for this
account. The same holds for a recovery key (`served_account_is_one`).

Wraps do not expire. An earlier password still unlocks the account if the service keeps the earlier
wrap, and users with one password can be served each other's account. -/

namespace SerenSecrets

/-! ## Runs -/

/-- What the clients have drawn and chosen, and what they have published. -/
structure ServiceState where
  accounts : List SetupDraw
  passwords : List (AccountKey × Bytes)
  recoveryKeys : List (AccountKey × RecoveryKey)
  pool : List Bytes

def AccountSecrets.wraps (secrets : AccountSecrets) : List Bytes :=
  [secrets.accountKeyWrap, secrets.accountKemPrivateWrap, secrets.accountSigningPrivateWrap,
    secrets.recoveryKeyWrap]

/-- The wraps come from the pool. Nothing is said about their slots, the parameters and the public
    keys. -/
def AccountSecrets.Served (secrets : AccountSecrets) (pool : List Bytes) : Prop :=
  ∀ wrap ∈ secrets.wraps, wrap ∈ pool

def accountLabels : List Bytes :=
  [accountKeyWrapAad, recoveryKeyWrapAad, accountKemPrivateWrapAad, accountSigningPrivateWrapAad]

/-- A step of some client with the secrets it was served, or a blob that opens in no slot of an
    account: other envelopes, sealed boxes and noise. -/
inductive ServedStep (A : Aead) (K : Argon2) (X : IdentityCurves) :
    ServiceState → ServiceState → Prop
  | setup {st : ServiceState} {draw : SetupDraw} {password : Bytes}
      {params recoveryParams : KdfParams} {bundle : AccountSetupBundle}
      (hfresh : draw.accountKey ∉ st.accounts.map SetupDraw.accountKey)
      (h : accountSetupWithParams A K X draw password params recoveryParams = .ok bundle) :
      ServedStep A K X st
        { accounts := draw :: st.accounts
          passwords := (draw.accountKey, password) :: st.passwords
          recoveryKeys := (draw.accountKey, draw.recoveryKey) :: st.recoveryKeys
          pool := bundle.secrets.wraps ++ st.pool }
  | changeMasterPassword {st : ServiceState} {served secrets : AccountSecrets}
      {password newPassword : Bytes} {unlocked : UnlockedAccount} {draw : MasterDraw}
      (hserved : served.Served st.pool)
      (hunlock : unlockAccount A K X password served = .ok unlocked)
      (hsalt : draw.salt.toBytes.all (· == 0) = false)
      (h : (changeMasterPassword A K draw unlocked.accountKey newPassword).exec served
        = (.ok (), secrets)) :
      ServedStep A K X st
        { st with
          passwords := (unlocked.accountKey, newPassword) :: st.passwords
          pool := secrets.wraps ++ st.pool }
  | regenerateRecoveryKey {st : ServiceState} {served secrets : AccountSecrets} {password : Bytes}
      {unlocked : UnlockedAccount} {draw : RecoveryDraw} {recoveryKey : RecoveryKey}
      (hserved : served.Served st.pool)
      (hunlock : unlockAccount A K X password served = .ok unlocked)
      (hsalt : draw.salt.toBytes.all (· == 0) = false)
      (h : (regenerateRecoveryKey A K 0 draw unlocked.accountKey).exec served
        = (.ok recoveryKey, secrets)) :
      ServedStep A K X st
        { st with
          recoveryKeys := (unlocked.accountKey, recoveryKey) :: st.recoveryKeys
          pool := secrets.wraps ++ st.pool }
  | rewrapAccountKeyAfterRecovery {st : ServiceState} {served secrets : AccountSecrets}
      {recoveryKey newRecoveryKey : RecoveryKey} {accountKey : AccountKey} {newPassword : Bytes}
      {master : MasterDraw} {recovery : RecoveryDraw}
      (hserved : served.Served st.pool)
      (hrecover : recoverWithRecoveryKey A K recoveryKey served = .ok accountKey)
      (hsalt : master.salt.toBytes.all (· == 0) = false)
      (hrecoverySalt : recovery.salt.toBytes.all (· == 0) = false)
      (h : (rewrapAccountKeyAfterRecovery A K master recovery accountKey newPassword).exec served
        = (.ok newRecoveryKey, secrets)) :
      ServedStep A K X st
        { st with
          passwords := (accountKey, newPassword) :: st.passwords
          recoveryKeys := (accountKey, newRecoveryKey) :: st.recoveryKeys
          pool := secrets.wraps ++ st.pool }
  | foreign {st : ServiceState} {blob : Bytes}
      (h : ∀ aad ∈ accountLabels, ∀ key plaintext,
        xchacha20DecryptWithAad A key blob aad ≠ .ok plaintext) :
      ServedStep A K X st { st with pool := blob :: st.pool }

/-! ## What can be opened -/

/-- The keys that open a slot of an account, with what they open it to. -/
inductive ServiceState.Seals (K : Argon2) (st : ServiceState) :
    FixedBytes 32 → Bytes → Bytes → Prop
  | accountKey {accountKey : AccountKey} {password : Bytes} {params : KdfParams} {master : MasterKey}
      (hmem : (accountKey, password) ∈ st.passwords)
      (hvalid : validateStoredParams params = .ok ())
      (hmaster : deriveMasterKey K 0 password params = .ok master) :
      st.Seals K master.asBytes accountKeyWrapAad accountKey.asBytes.toBytes
  | recoveryKey {accountKey : AccountKey} {recoveryKey : RecoveryKey} {params : KdfParams}
      {derived : RecoveryDerivedKey} (hmem : (accountKey, recoveryKey) ∈ st.recoveryKeys)
      (hvalid : validateStoredParams params = .ok ())
      (hderived : deriveRecoveryKey K 0 recoveryKey.asBytes.toBytes params = .ok derived) :
      st.Seals K derived.asBytes recoveryKeyWrapAad accountKey.asBytes.toBytes
  | kemPrivate {draw : SetupDraw} (hmem : draw ∈ st.accounts) :
      st.Seals K draw.accountKey.asBytes accountKemPrivateWrapAad draw.kemPrivate.asBytes.toBytes
  | signingPrivate {draw : SetupDraw} (hmem : draw ∈ st.accounts) :
      st.Seals K draw.accountKey.asBytes accountSigningPrivateWrapAad
        draw.signingPrivate.asBytes.toBytes

/-- Whatever opens the blob in a slot of an account was sealed for an account. -/
def ServiceState.Explains (A : Aead) (K : Argon2) (st : ServiceState) (blob : Bytes) : Prop :=
  ∀ aad ∈ accountLabels, ∀ key plaintext,
    xchacha20DecryptWithAad A key blob aad = .ok plaintext → st.Seals K key aad plaintext

/-- The invariant of a run: no two accounts have one key, passwords and recovery keys are those of
    accounts, and a blob of the pool opens only to what was sealed for an account. -/
structure ServiceInv (A : Aead) (K : Argon2) (st : ServiceState) : Prop where
  distinct : (st.accounts.map SetupDraw.accountKey).Nodup
  password_account : ∀ entry ∈ st.passwords, entry.1 ∈ st.accounts.map SetupDraw.accountKey
  recovery_account : ∀ entry ∈ st.recoveryKeys, entry.1 ∈ st.accounts.map SetupDraw.accountKey
  opens : ∀ blob ∈ st.pool, st.Explains A K blob

section Opening

variable {A : Aead} {K : Argon2} {X : IdentityCurves} {st st' : ServiceState}
  {key : FixedBytes 32} {aad plaintext : Bytes}

theorem ServiceState.Seals.mono (h : st.Seals K key aad plaintext)
    (haccounts : st.accounts ⊆ st'.accounts) (hpasswords : st.passwords ⊆ st'.passwords)
    (hrecovery : st.recoveryKeys ⊆ st'.recoveryKeys) : st'.Seals K key aad plaintext := by
  cases h with
  | accountKey hmem hvalid hmaster => exact .accountKey (hpasswords hmem) hvalid hmaster
  | recoveryKey hmem hvalid hderived => exact .recoveryKey (hrecovery hmem) hvalid hderived
  | kemPrivate hmem => exact .kemPrivate (haccounts hmem)
  | signingPrivate hmem => exact .signingPrivate (haccounts hmem)

/-- The four labels are different, so each slot opens to what was sealed for it. -/
theorem seals_accountKeyWrap (h : st.Seals K key accountKeyWrapAad plaintext) :
    ∃ accountKey password params master, (accountKey, password) ∈ st.passwords ∧
      validateStoredParams params = .ok () ∧ deriveMasterKey K 0 password params = .ok master ∧
      key = master.asBytes ∧ plaintext = accountKey.asBytes.toBytes := by
  generalize haad : accountKeyWrapAad = aad at h
  cases h with
  | accountKey hmem hvalid hmaster => exact ⟨_, _, _, _, hmem, hvalid, hmaster, rfl, rfl⟩
  | recoveryKey => exact absurd haad (by decide)
  | kemPrivate => exact absurd haad (by decide)
  | signingPrivate => exact absurd haad (by decide)

theorem seals_recoveryKeyWrap (h : st.Seals K key recoveryKeyWrapAad plaintext) :
    ∃ accountKey recoveryKey params derived, (accountKey, recoveryKey) ∈ st.recoveryKeys ∧
      validateStoredParams params = .ok () ∧
      deriveRecoveryKey K 0 recoveryKey.asBytes.toBytes params = .ok derived ∧
      key = derived.asBytes ∧ plaintext = accountKey.asBytes.toBytes := by
  generalize haad : recoveryKeyWrapAad = aad at h
  cases h with
  | accountKey => exact absurd haad (by decide)
  | recoveryKey hmem hvalid hderived => exact ⟨_, _, _, _, hmem, hvalid, hderived, rfl, rfl⟩
  | kemPrivate => exact absurd haad (by decide)
  | signingPrivate => exact absurd haad (by decide)

theorem seals_kemPrivateWrap (h : st.Seals K key accountKemPrivateWrapAad plaintext) :
    ∃ draw ∈ st.accounts, key = draw.accountKey.asBytes ∧
      plaintext = draw.kemPrivate.asBytes.toBytes := by
  generalize haad : accountKemPrivateWrapAad = aad at h
  cases h with
  | accountKey => exact absurd haad (by decide)
  | recoveryKey => exact absurd haad (by decide)
  | kemPrivate hmem => exact ⟨_, hmem, rfl, rfl⟩
  | signingPrivate => exact absurd haad (by decide)

theorem seals_signingPrivateWrap (h : st.Seals K key accountSigningPrivateWrapAad plaintext) :
    ∃ draw ∈ st.accounts, key = draw.accountKey.asBytes ∧
      plaintext = draw.signingPrivate.asBytes.toBytes := by
  generalize haad : accountSigningPrivateWrapAad = aad at h
  cases h with
  | accountKey => exact absurd haad (by decide)
  | recoveryKey => exact absurd haad (by decide)
  | kemPrivate => exact absurd haad (by decide)
  | signingPrivate hmem => exact ⟨_, hmem, rfl, rfl⟩

end Opening

section Unlocking

variable {A : Aead} {K : Argon2} {X : IdentityCurves} {st : ServiceState} {served : AccountSecrets}

/-- What was opened and compared before an account is unlocked. -/
theorem opened_of_unlockAccount {password : Bytes} {unlocked : UnlockedAccount}
    (h : unlockAccount A K X password served = .ok unlocked) :
    validateStoredParams served.kdfParams = .ok () ∧
    (∃ master, deriveMasterKey K 0 password served.kdfParams = .ok master ∧
      xchacha20DecryptWithAad A master.asBytes served.accountKeyWrap accountKeyWrapAad
        = .ok unlocked.accountKey.asBytes.toBytes) ∧
    xchacha20DecryptWithAad A unlocked.accountKey.asBytes served.accountKemPrivateWrap
      accountKemPrivateWrapAad = .ok unlocked.kemPrivate.asBytes.toBytes ∧
    xchacha20DecryptWithAad A unlocked.accountKey.asBytes served.accountSigningPrivateWrap
      accountSigningPrivateWrapAad = .ok unlocked.signingPrivate.asBytes.toBytes ∧
    (IdentityKemKeypair.fromPrivate X unlocked.kemPrivate).publicKey = served.kemPublicKey ∧
    (IdentitySigningKeypair.fromPrivate X unlocked.signingPrivate).publicKey
      = served.signingPublicKey := by
  simp only [unlockAccount, Except.bind_eq_ok, Except.pure_eq_ok, rejectIf_eq_ok, not_not,
    unwrapAccountKey, Except.map_eq_ok, decryptArray32_eq_ok, array32FromSlice_eq_ok] at h
  obtain ⟨_, hvalid, master, hmaster, _, ⟨key, hkey, rfl⟩, _, hkem, _, hsigning, kem, rfl, signing,
    rfl, _, hkemPublic, _, hsigningPublic, rfl⟩ := h
  exact ⟨hvalid, ⟨master, hmaster, hkey⟩, hkem, hsigning, hkemPublic, hsigningPublic⟩

theorem opened_of_recoverWithRecoveryKey {recoveryKey : RecoveryKey} {accountKey : AccountKey}
    (h : recoverWithRecoveryKey A K recoveryKey served = .ok accountKey) :
    validateStoredParams served.recoveryKdfParams = .ok () ∧
    ∃ derived, deriveRecoveryKey K 0 recoveryKey.asBytes.toBytes served.recoveryKdfParams
        = .ok derived ∧
      xchacha20DecryptWithAad A derived.asBytes served.recoveryKeyWrap recoveryKeyWrapAad
        = .ok accountKey.asBytes.toBytes := by
  simp only [recoverWithRecoveryKey, Except.bind_eq_ok, Except.map_eq_ok,
    decryptArray32_eq_ok] at h
  obtain ⟨_, hvalid, derived, hderived, key, hkey, rfl⟩ := h
  exact ⟨hvalid, derived, hderived, hkey⟩

theorem IdentityKemPrivateKey.eq_of_toBytes {a b : IdentityKemPrivateKey}
    (h : a.asBytes.toBytes = b.asBytes.toBytes) : a = b := by
  cases a
  cases b
  exact congrArg IdentityKemPrivateKey.mk (FixedBytes.toBytes_injective h)

theorem IdentitySigningPrivateKey.eq_of_toBytes {a b : IdentitySigningPrivateKey}
    (h : a.asBytes.toBytes = b.asBytes.toBytes) : a = b := by
  cases a
  cases b
  exact congrArg IdentitySigningPrivateKey.mk (FixedBytes.toBytes_injective h)

/-- Two accounts with one key are one account. -/
theorem ServiceInv.account_unique (hinv : ServiceInv A K st) {draw draw' : SetupDraw}
    (h : draw ∈ st.accounts) (h' : draw' ∈ st.accounts) (hkey : draw.accountKey = draw'.accountKey) :
    draw = draw' :=
  List.inj_on_of_nodup_map hinv.distinct h h' hkey

/-- The wraps that open under one another were made for one account. -/
theorem ServiceInv.unlocks (hinv : ServiceInv A K st) (hserved : served.Served st.pool)
    {password : Bytes} {unlocked : UnlockedAccount}
    (h : unlockAccount A K X password served = .ok unlocked) :
    ∃ draw ∈ st.accounts, unlocked = ⟨draw.accountKey, draw.kemPrivate, draw.signingPrivate⟩ ∧
      ∃ chosen params key, (draw.accountKey, chosen) ∈ st.passwords ∧
        validateStoredParams params = .ok () ∧ deriveKey K 0 chosen params = .ok key ∧
        validateStoredParams served.kdfParams = .ok () ∧
        deriveKey K 0 password served.kdfParams = .ok key := by
  obtain ⟨hvalid, ⟨master, hmaster, hkey⟩, hkem, hsigning, -⟩ := opened_of_unlockAccount h
  have hseals := hinv.opens _ (hserved _ (by simp [AccountSecrets.wraps])) _
    (by simp [accountLabels]) _ _ hkey
  obtain ⟨accountKey, chosen, params, master', hmem, hparams, hmaster', hsame, hwrapped⟩ :=
    seals_accountKeyWrap hseals
  obtain ⟨draw, hdraw, hdrawKey, hdrawKem⟩ := seals_kemPrivateWrap (hinv.opens _
    (hserved _ (by simp [AccountSecrets.wraps])) _ (by simp [accountLabels]) _ _ hkem)
  obtain ⟨draw', hdraw', hdrawKey', hdrawSigning⟩ := seals_signingPrivateWrap (hinv.opens _
    (hserved _ (by simp [AccountSecrets.wraps])) _ (by simp [accountLabels]) _ _ hsigning)
  -- Both identity keys were wrapped under the key that came out of the first wrap.
  have hunlocked : unlocked.accountKey = draw.accountKey :=
    SymmetricKey.eq_of_toBytes (congrArg FixedBytes.toBytes hdrawKey)
  have hunlocked' : unlocked.accountKey = draw'.accountKey :=
    SymmetricKey.eq_of_toBytes (congrArg FixedBytes.toBytes hdrawKey')
  obtain rfl := hinv.account_unique hdraw hdraw' (hunlocked.symm.trans hunlocked')
  have hchosen : accountKey = draw.accountKey :=
    (SymmetricKey.eq_of_toBytes hwrapped).symm.trans hunlocked
  subst hchosen
  refine ⟨draw, hdraw, ?_, chosen, params, _, hmem, hparams, deriveMasterKey_eq_ok.mp hmaster',
    hvalid, ?_⟩
  · cases unlocked
    cases hunlocked
    simp only [UnlockedAccount.mk.injEq, true_and]
    exact ⟨IdentityKemPrivateKey.eq_of_toBytes hdrawKem,
      IdentitySigningPrivateKey.eq_of_toBytes hdrawSigning⟩
  · rw [← hsame]
    exact deriveMasterKey_eq_ok.mp hmaster

/-- A recovery key leads to one account, and with its key only that account's signing key opens. -/
theorem ServiceInv.recovers (hinv : ServiceInv A K st) (hserved : served.Served st.pool)
    {recoveryKey : RecoveryKey} {accountKey : AccountKey}
    (h : recoverWithRecoveryKey A K recoveryKey served = .ok accountKey) :
    ∃ draw ∈ st.accounts, accountKey = draw.accountKey ∧
      ∃ chosen params key, (draw.accountKey, chosen) ∈ st.recoveryKeys ∧
        validateStoredParams params = .ok () ∧
        deriveKey K 0 chosen.asBytes.toBytes params = .ok key ∧
        validateStoredParams served.recoveryKdfParams = .ok () ∧
        deriveKey K 0 recoveryKey.asBytes.toBytes served.recoveryKdfParams = .ok key := by
  obtain ⟨hvalid, derived, hderived, hkey⟩ := opened_of_recoverWithRecoveryKey h
  obtain ⟨wrapped, chosen, params, derived', hmem, hparams, hderived', hsame, hwrapped⟩ :=
    seals_recoveryKeyWrap (hinv.opens _ (hserved _ (by simp [AccountSecrets.wraps])) _
      (by simp [accountLabels]) _ _ hkey)
  obtain rfl := SymmetricKey.eq_of_toBytes hwrapped
  obtain ⟨draw, hdraw, hdrawKey⟩ := List.mem_map.mp (hinv.recovery_account _ hmem)
  refine ⟨draw, hdraw, hdrawKey.symm, chosen, params, _, ?_, hparams,
    deriveRecoveryKey_eq_ok.mp hderived', hvalid, ?_⟩
  · rw [hdrawKey]
    exact hmem
  · rw [← hsame]
    exact deriveRecoveryKey_eq_ok.mp hderived

theorem ServiceInv.unwraps_signing (hinv : ServiceInv A K st) {draw : SetupDraw}
    (hdraw : draw ∈ st.accounts) {blob : Bytes} (hblob : blob ∈ st.pool)
    {signing : IdentitySigningPrivateKey}
    (h : unwrapAccountSigningPrivateKey A draw.accountKey blob = .ok signing) :
    signing = draw.signingPrivate := by
  simp only [unwrapAccountSigningPrivateKey, Except.map_eq_ok, decryptArray32_eq_ok] at h
  obtain ⟨key, hkey, rfl⟩ := h
  obtain ⟨draw', hdraw', hdrawKey, hsigning⟩ :=
    seals_signingPrivateWrap (hinv.opens _ hblob _ (by simp [accountLabels]) _ _ hkey)
  obtain rfl := hinv.account_unique hdraw hdraw'
    (SymmetricKey.eq_of_toBytes (congrArg FixedBytes.toBytes hdrawKey))
  exact IdentitySigningPrivateKey.eq_of_toBytes hsigning

end Unlocking

/-! ## Every run -/

section Runs

variable {A : Aead} {K : Argon2} {X : IdentityCurves} {st st' : ServiceState}

theorem ServiceState.Explains.mono {blob : Bytes} (h : st.Explains A K blob)
    (haccounts : st.accounts ⊆ st'.accounts) (hpasswords : st.passwords ⊆ st'.passwords)
    (hrecovery : st.recoveryKeys ⊆ st'.recoveryKeys) : st'.Explains A K blob :=
  fun aad haad key plaintext hopen =>
    (h aad haad key plaintext hopen).mono haccounts hpasswords hrecovery

/-- An envelope opens only under its own key and label. -/
theorem ServiceState.Seals.explains (hA : A.Ideal) {key : FixedBytes 32} {nonce : FixedBytes 24}
    {aad plaintext : Bytes} (h : st.Seals K key aad plaintext) :
    st.Explains A K (xchacha20EncryptWithAad A key nonce plaintext aad) := by
  intro aad' _ key' plaintext' hopen
  obtain ⟨rfl, rfl, rfl⟩ := xchacha20Decrypt_encrypt_ok hA hopen
  exact h

/-- A new master wrap and the wraps a client was served. -/
theorem explains_setMaster (hA : A.Ideal) {served : AccountSecrets}
    (hserved : ∀ wrap ∈ served.wraps, st.Explains A K wrap) {accountKey : AccountKey}
    {password : Bytes} {params : KdfParams} {master : MasterKey} {nonce : FixedBytes 24}
    (hmem : (accountKey, password) ∈ st.passwords) (hvalid : validateStoredParams params = .ok ())
    (hmaster : deriveMasterKey K 0 password params = .ok master) :
    ∀ wrap ∈ { served with
      kdfParams := params, accountKeyWrap := wrapAccountKey A master nonce accountKey }.wraps,
      st.Explains A K wrap := by
  intro wrap hwrap
  rcases List.mem_cons.mp hwrap with rfl | hwrap
  · exact (ServiceState.Seals.accountKey hmem hvalid hmaster).explains hA
  · exact hserved wrap (List.mem_cons_of_mem _ hwrap)

/-- A new recovery wrap and the wraps a client was served. -/
theorem explains_setRecovery (hA : A.Ideal) {served : AccountSecrets}
    (hserved : ∀ wrap ∈ served.wraps, st.Explains A K wrap) {accountKey : AccountKey}
    {recoveryKey : RecoveryKey} {params : KdfParams} {derived : RecoveryDerivedKey}
    {nonce : FixedBytes 24} (hmem : (accountKey, recoveryKey) ∈ st.recoveryKeys)
    (hvalid : validateStoredParams params = .ok ())
    (hderived : deriveRecoveryKey K 0 recoveryKey.asBytes.toBytes params = .ok derived) :
    ∀ wrap ∈ { served with
      recoveryKdfParams := params
      recoveryKeyWrap := wrapAccountKeyForRecovery A derived nonce accountKey }.wraps,
      st.Explains A K wrap := by
  intro wrap hwrap
  simp only [AccountSecrets.wraps, List.mem_cons, List.not_mem_nil, or_false] at hwrap hserved
  rcases hwrap with h | h | h | rfl
  · exact hserved wrap (.inl h)
  · exact hserved wrap (.inr (.inl h))
  · exact hserved wrap (.inr (.inr (.inl h)))
  · exact (ServiceState.Seals.recoveryKey hmem hvalid hderived).explains hA

/-- What a new account publishes. -/
theorem explains_setup (hA : A.Ideal) (hdet : K.Deterministic) {draw : SetupDraw} {password : Bytes}
    {params recoveryParams : KdfParams} {bundle : AccountSetupBundle}
    (h : accountSetupWithParams A K X draw password params recoveryParams = .ok bundle)
    (haccount : draw ∈ st.accounts) (hpassword : (draw.accountKey, password) ∈ st.passwords)
    (hrecovery : (draw.accountKey, draw.recoveryKey) ∈ st.recoveryKeys) :
    ∀ wrap ∈ bundle.secrets.wraps, st.Explains A K wrap := by
  simp only [accountSetupWithParams, Except.bind_eq_ok, Except.pure_eq_ok] at h
  obtain ⟨_, hparams, _, hrecoveryParams, master, hmaster, derived, hderived, rfl⟩ := h
  rw [hdet.deriveRecoveryKey_eq 1] at hderived
  simp only [AccountSecrets.wraps, List.forall_mem_cons]
  refine ⟨?_, ?_, ?_, ?_, by simp⟩
  · exact (ServiceState.Seals.accountKey hpassword hparams hmaster).explains hA
  · exact (ServiceState.Seals.kemPrivate haccount).explains hA
  · exact (ServiceState.Seals.signingPrivate haccount).explains hA
  · exact (ServiceState.Seals.recoveryKey hrecovery hrecoveryParams hderived).explains hA

/-- A client that holds an account's key may choose a password and a recovery key for it. -/
theorem ServiceInv.extend (hinv : ServiceInv A K st) {accountKey : AccountKey}
    (haccount : accountKey ∈ st.accounts.map SetupDraw.accountKey) (passwords : List Bytes)
    (recoveryKeys : List RecoveryKey) (wraps : List Bytes)
    (hwraps : ∀ wrap ∈ wraps, ServiceState.Explains A K
      ⟨st.accounts, passwords.map (Prod.mk accountKey) ++ st.passwords,
        recoveryKeys.map (Prod.mk accountKey) ++ st.recoveryKeys, wraps ++ st.pool⟩ wrap) :
    ServiceInv A K ⟨st.accounts, passwords.map (Prod.mk accountKey) ++ st.passwords,
      recoveryKeys.map (Prod.mk accountKey) ++ st.recoveryKeys, wraps ++ st.pool⟩ := by
  refine ⟨hinv.distinct, ?_, ?_, ?_⟩
  · intro entry hentry
    rcases List.mem_append.mp hentry with hentry | hentry
    · obtain ⟨password, -, rfl⟩ := List.mem_map.mp hentry
      exact haccount
    · exact hinv.password_account entry hentry
  · intro entry hentry
    rcases List.mem_append.mp hentry with hentry | hentry
    · obtain ⟨recoveryKey, -, rfl⟩ := List.mem_map.mp hentry
      exact haccount
    · exact hinv.recovery_account entry hentry
  · intro blob hblob
    rcases List.mem_append.mp hblob with hblob | hblob
    · exact hwraps blob hblob
    · exact (hinv.opens blob hblob).mono (List.Subset.refl _) (List.subset_append_right _ _)
        (List.subset_append_right _ _)

/-- What a client was served is explained later as well. -/
theorem ServiceInv.served_explains (hinv : ServiceInv A K st) {served : AccountSecrets}
    (hserved : served.Served st.pool) (passwords : List (AccountKey × Bytes))
    (recoveryKeys : List (AccountKey × RecoveryKey)) (pool : List Bytes) :
    ∀ wrap ∈ served.wraps, ServiceState.Explains A K
      ⟨st.accounts, passwords ++ st.passwords, recoveryKeys ++ st.recoveryKeys, pool⟩ wrap :=
  fun wrap hwrap => (hinv.opens wrap (hserved wrap hwrap)).mono (List.Subset.refl _)
    (List.subset_append_right _ _) (List.subset_append_right _ _)

/-- **Each step keeps the invariant**, whatever the client was served. -/
theorem ServiceInv.step (hA : A.Ideal) (hdet : K.Deterministic) (hinv : ServiceInv A K st)
    (hstep : ServedStep A K X st st') : ServiceInv A K st' := by
  cases hstep with
  | setup hfresh h =>
      refine ⟨List.nodup_cons.mpr ⟨hfresh, hinv.distinct⟩, ?_, ?_, ?_⟩
      · intro entry hentry
        rcases List.mem_cons.mp hentry with rfl | hentry
        · exact List.mem_cons_self
        · exact List.mem_cons_of_mem _ (hinv.password_account entry hentry)
      · intro entry hentry
        rcases List.mem_cons.mp hentry with rfl | hentry
        · exact List.mem_cons_self
        · exact List.mem_cons_of_mem _ (hinv.recovery_account entry hentry)
      · intro blob hblob
        rcases List.mem_append.mp hblob with hblob | hblob
        · exact explains_setup hA hdet h List.mem_cons_self List.mem_cons_self List.mem_cons_self
            blob hblob
        · exact (hinv.opens blob hblob).mono (List.subset_cons_self _ _)
            (List.subset_cons_self _ _) (List.subset_cons_self _ _)
  | @changeMasterPassword served secrets _ newPassword unlocked draw hserved hunlock hsalt h =>
      obtain ⟨account, haccount, rfl, -⟩ := hinv.unlocks hserved hunlock
      rw [changeMasterPassword_exec] at h
      split at h
      · exact absurd (congrArg Prod.fst h) (by simp)
      · rename_i master hmaster
        obtain rfl := (Prod.mk.inj h).2
        refine hinv.extend (List.mem_map_of_mem haccount) [newPassword] [] _ ?_
        exact explains_setMaster hA (hinv.served_explains hserved _ [] _) List.mem_cons_self
          (validateStoredParams_defaultParams hsalt) hmaster
  | @regenerateRecoveryKey served secrets _ unlocked draw recoveryKey hserved hunlock hsalt h =>
      obtain ⟨account, haccount, rfl, -⟩ := hinv.unlocks hserved hunlock
      obtain ⟨rfl, derived, hderived, rfl⟩ := regenerateRecoveryKey_exec_ok h
      refine hinv.extend (List.mem_map_of_mem haccount) [] [draw.recoveryKey] _ ?_
      exact explains_setRecovery hA (hinv.served_explains hserved [] _ _) List.mem_cons_self
        (validateStoredParams_defaultParams hsalt) hderived
  | @rewrapAccountKeyAfterRecovery served secrets _ newRecoveryKey accountKey newPassword master
      recovery hserved hrecover hsalt hrecoverySalt h =>
      obtain ⟨account, haccount, rfl, -⟩ := hinv.recovers hserved hrecover
      rw [rewrapAccountKeyAfterRecovery_exec] at h
      split at h
      · exact absurd (congrArg Prod.fst h) (by simp)
      · rename_i mk hmk
        obtain ⟨rfl, derived, hderived, rfl⟩ := regenerateRecoveryKey_exec_ok h
        rw [hdet.deriveRecoveryKey_eq 1] at hderived
        refine hinv.extend (List.mem_map_of_mem haccount) [newPassword] [recovery.recoveryKey] _ ?_
        exact explains_setRecovery hA (explains_setMaster hA (hinv.served_explains hserved _ _ _)
          List.mem_cons_self (validateStoredParams_defaultParams hsalt) hmk) List.mem_cons_self
          (validateStoredParams_defaultParams hrecoverySalt) hderived
  | foreign h =>
      refine ⟨hinv.distinct, hinv.password_account, hinv.recovery_account, ?_⟩
      intro blob hblob
      rcases List.mem_cons.mp hblob with rfl | hblob
      · exact fun aad haad key plaintext hopen => absurd hopen (h aad haad key plaintext)
      · exact (hinv.opens blob hblob).mono (List.Subset.refl _) (List.Subset.refl _)
          (List.Subset.refl _)

/-- The runs that start with no account. -/
def ServedRun (A : Aead) (K : Argon2) (X : IdentityCurves) : ServiceState → Prop :=
  Relation.ReflTransGen (ServedStep A K X) ⟨[], [], [], []⟩

theorem ServiceInv.of_servedRun (hA : A.Ideal) (hdet : K.Deterministic)
    (hrun : ServedRun A K X st) : ServiceInv A K st := by
  induction hrun with
  | refl => exact ⟨List.nodup_nil, by simp, by simp, by simp⟩
  | tail _ hstep ih => exact ih.step hA hdet hstep

end Runs

/-- Among the given passwords no two derive one key, under whatever approved parameters. -/
def Argon2.SeparatesOn (K : Argon2) (passwords : Set Bytes) : Prop :=
  ∀ p ∈ passwords, ∀ q ∈ passwords, ∀ params params' key, validateStoredParams params = .ok () →
    validateStoredParams params' = .ok () → deriveKey K 0 p params = .ok key →
      deriveKey K 0 q params' = .ok key → p = q

/-- **Accounts do not mix.** In every run of clients against a service that serves them any wraps it
    has got: what a password unlocks are the keys of one account, with its own public keys, and the
    password was chosen for this account. What a recovery key leads to is the key of one account it
    was drawn for, and no wrap opens under that key to another account's signing key. -/
theorem served_account_is_one {A : Aead} (hA : A.Ideal) {K : Argon2} (hdet : K.Deterministic)
    {passwords : Set Bytes} (hsep : K.SeparatesOn passwords) {X : IdentityCurves}
    {st : ServiceState} (hrun : ServedRun A K X st)
    (hpasswords : ∀ entry ∈ st.passwords, entry.2 ∈ passwords)
    (hrecoveryKeys : ∀ entry ∈ st.recoveryKeys, entry.2.asBytes.toBytes ∈ passwords)
    {served : AccountSecrets} (hserved : served.Served st.pool) :
    (∀ password ∈ passwords, ∀ unlocked, unlockAccount A K X password served = .ok unlocked →
      ∃ draw ∈ st.accounts, unlocked = ⟨draw.accountKey, draw.kemPrivate, draw.signingPrivate⟩ ∧
        served.kemPublicKey = (IdentityKemKeypair.fromPrivate X draw.kemPrivate).publicKey ∧
        served.signingPublicKey
          = (IdentitySigningKeypair.fromPrivate X draw.signingPrivate).publicKey ∧
        (draw.accountKey, password) ∈ st.passwords) ∧
    (∀ recoveryKey : RecoveryKey, recoveryKey.asBytes.toBytes ∈ passwords → ∀ accountKey,
      recoverWithRecoveryKey A K recoveryKey served = .ok accountKey →
      ∃ draw ∈ st.accounts, accountKey = draw.accountKey ∧
        (draw.accountKey, recoveryKey) ∈ st.recoveryKeys ∧
        ∀ blob ∈ st.pool, ∀ signing, unwrapAccountSigningPrivateKey A accountKey blob = .ok signing →
          signing = draw.signingPrivate) := by
  have hinv := ServiceInv.of_servedRun hA hdet hrun
  constructor
  · intro password hpassword unlocked h
    obtain ⟨draw, hdraw, rfl, chosen, params, key, hchosen, hparams, hkey, hvalid, hkey'⟩ :=
      hinv.unlocks hserved h
    obtain ⟨-, -, -, -, hkem, hsigning⟩ := opened_of_unlockAccount h
    obtain rfl := hsep _ (hpasswords _ hchosen) _ hpassword _ _ _ hparams hvalid hkey hkey'
    exact ⟨draw, hdraw, rfl, hkem.symm, hsigning.symm, hchosen⟩
  · intro recoveryKey hrecoveryKey accountKey h
    obtain ⟨draw, hdraw, rfl, chosen, params, key, hchosen, hparams, hkey, hvalid, hkey'⟩ :=
      hinv.recovers hserved h
    have hsame := hsep _ (hrecoveryKeys _ hchosen) _ hrecoveryKey _ _ _ hparams hvalid hkey hkey'
    have hrecovery : chosen = recoveryKey := by
      cases chosen
      cases recoveryKey
      exact congrArg RecoveryKey.mk (FixedBytes.toBytes_injective hsame)
    subst hrecovery
    exact ⟨draw, hdraw, rfl, hchosen,
      fun blob hblob signing hsigning => hinv.unwraps_signing hdraw hblob hsigning⟩

theorem argon2Padding_separates : argon2Padding.SeparatesOn { p | p ∈ examplePasswords } := by
  intro p hp q hq params params' key hvalid hvalid' hkey hkey'
  obtain ⟨-, k, hk, rfl⟩ := deriveKey_eq_ok.mp hkey
  obtain ⟨-, k', hk', heq⟩ := deriveKey_eq_ok.mp hkey'
  simp only [argon2Padding, Option.some.injEq] at hk hk'
  subst hk hk'
  have hlength : ∀ params : KdfParams, validateStoredParams params = .ok () →
      params.outputLen.toNat = 32 := by
    intro params hvalid
    rw [outputLen_of_validateStoredParams hvalid]
    rfl
  have hpadded : (q ++ List.replicate 32 0).take 32 = (p ++ List.replicate 32 0).take 32 := by
    have h := heq
    simp only [hlength params hvalid, hlength params' hvalid'] at h
    exact h
  have hdistinct : ∀ p ∈ examplePasswords, ∀ q ∈ examplePasswords,
      (q ++ List.replicate 32 0).take 32 = (p ++ List.replicate 32 0).take 32 → p = q := by
    decide
  exact hdistinct p hp q hq hpadded

def otherSetupDraw : SetupDraw :=
  { exampleSetupDraw with
    recoveryKey := ⟨.replicate 32 2⟩
    accountKey := ⟨.replicate 32 20⟩
    kemPrivate := ⟨.replicate 32 21⟩
    signingPrivate := ⟨.replicate 32 22⟩ }

/-- One account's recovery wrap is served beside another's wraps: the password unlocks the one
    account, the recovery key leads to the other. -/
theorem served_account_is_one_swapped :
    ∃ (st : ServiceState) (served : AccountSecrets),
      ServedRun .transparent argon2Padding ⟨id, id⟩ st ∧ served.Served st.pool ∧
      (∃ draw ∈ st.accounts, unlockAccount .transparent argon2Padding ⟨id, id⟩ (utf8 "first") served
        = .ok ⟨draw.accountKey, draw.kemPrivate, draw.signingPrivate⟩ ∧
        (draw.accountKey, utf8 "first") ∈ st.passwords) ∧
      ∃ draw ∈ st.accounts, recoverWithRecoveryKey .transparent argon2Padding ⟨.replicate 32 2⟩ served
        = .ok draw.accountKey ∧ (draw.accountKey, ⟨.replicate 32 2⟩) ∈ st.recoveryKeys := by
  have hdet : argon2Padding.Deterministic := fun _ _ _ => rfl
  have hsetups : ∃ first second : AccountSetupBundle,
      accountSetupWithParams .transparent argon2Padding ⟨id, id⟩ exampleSetupDraw (utf8 "first")
        (defaultParams (.replicate 16 1)) (defaultParams (.replicate 16 2)) = .ok first ∧
      accountSetupWithParams .transparent argon2Padding ⟨id, id⟩ otherSetupDraw (utf8 "second")
        (defaultParams (.replicate 16 3)) (defaultParams (.replicate 16 4)) = .ok second ∧
      second.recoveryKey = ⟨.replicate 32 2⟩ :=
    ⟨_, _, rfl, rfl, rfl⟩
  obtain ⟨first, second, hfirst, hsecond, hrecoveryKey⟩ := hsetups
  let served : AccountSecrets := { first.secrets with
    recoveryKdfParams := second.secrets.recoveryKdfParams
    recoveryKeyWrap := second.secrets.recoveryKeyWrap }
  have hunlock : unlockAccount .transparent argon2Padding ⟨id, id⟩ (utf8 "first") served
      = .ok ⟨⟨.replicate 32 10⟩, ⟨.replicate 32 11⟩, ⟨.replicate 32 12⟩⟩ := by
    obtain ⟨hinit, hkem, hsigning, hkemWrap, hsigningWrap, hkemPublic, hsigningPublic⟩ :=
      accountSetup_ok hdet hfirst
    have hmaster : MasterHalf .transparent argon2Padding exampleSetupDraw.accountKey
        ⟨served, utf8 "first", first.recoveryKey⟩ := ⟨hinit.master.valid, hinit.master.wrap⟩
    rw [hkem] at hkemPublic
    rw [hsigning] at hsigningPublic
    exact unlockAccount_latest Aead.transparent_ideal.correct hmaster hkemWrap hsigningWrap hkemPublic
      hsigningPublic
  have hrecover : recoverWithRecoveryKey .transparent argon2Padding ⟨.replicate 32 2⟩ served
      = .ok otherSetupDraw.accountKey := by
    obtain ⟨hinit, -⟩ := accountSetup_ok hdet hsecond
    have hrecovery : RecoveryHalf .transparent argon2Padding otherSetupDraw.accountKey
        ⟨served, utf8 "second", second.recoveryKey⟩ := ⟨hinit.recovery.valid, hinit.recovery.wrap⟩
    rw [← hrecoveryKey]
    exact recoverWithRecoveryKey_latest Aead.transparent_ideal hrecovery
  have hfresh : otherSetupDraw.accountKey ∉ [exampleSetupDraw].map SetupDraw.accountKey := by decide
  have hchosen : ∀ entry ∈ [(otherSetupDraw.accountKey, utf8 "second"),
      (exampleSetupDraw.accountKey, utf8 "first")], entry.2 ∈ examplePasswords := by decide
  have hdrawn : ∀ entry ∈ [(otherSetupDraw.accountKey, otherSetupDraw.recoveryKey),
      (exampleSetupDraw.accountKey, exampleSetupDraw.recoveryKey)],
      entry.2.asBytes.toBytes ∈ examplePasswords := by decide
  have hrun : ServedRun .transparent argon2Padding ⟨id, id⟩
      ⟨[otherSetupDraw, exampleSetupDraw], [(otherSetupDraw.accountKey, utf8 "second"),
        (exampleSetupDraw.accountKey, utf8 "first")],
        [(otherSetupDraw.accountKey, otherSetupDraw.recoveryKey),
          (exampleSetupDraw.accountKey, exampleSetupDraw.recoveryKey)],
        second.secrets.wraps ++ (first.secrets.wraps ++ [])⟩ :=
    (Relation.ReflTransGen.single (.setup (by simp) hfirst)).tail (.setup hfresh hsecond)
  have hserved : served.Served (second.secrets.wraps ++ (first.secrets.wraps ++ [])) := by
    simp [served, AccountSecrets.Served, AccountSecrets.wraps]
  obtain ⟨hpassword, hrecovery⟩ := served_account_is_one Aead.transparent_ideal hdet
    argon2Padding_separates hrun hchosen hdrawn hserved
  obtain ⟨draw, hdraw, hkeys, -, -, hfirst⟩ := hpassword (utf8 "first")
    (hchosen (exampleSetupDraw.accountKey, utf8 "first") (List.mem_cons_of_mem _ List.mem_cons_self)) _
    hunlock
  obtain ⟨draw', hdraw', hkey, hsecond, -⟩ := hrecovery ⟨.replicate 32 2⟩
    (hdrawn (otherSetupDraw.accountKey, otherSetupDraw.recoveryKey) List.mem_cons_self) _ hrecover
  rw [hkeys] at hunlock
  rw [hkey] at hrecover
  exact ⟨_, served, hrun, hserved, ⟨draw, hdraw, hunlock, hfirst⟩, draw', hdraw', hrecover, hsecond⟩

end SerenSecrets
