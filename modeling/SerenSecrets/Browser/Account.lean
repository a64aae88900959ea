import SerenSecrets.Crypto.RecoveryKey
import SerenSecrets.Protocol.AccountText
import SerenSecrets.Protocol.SecretsUpdate

set_option autoImplicit false

/-! # Accounts in the browser

A page keeps the account secrets as the JSON text that it got, and the recovery key as the text that
was shown to the user. Every binding reads the text, runs the native operation on a copy, and writes
the text anew; errors of the crate become messages.

So a page goes through the same states as a native account: `Page.Shows` relates the two, and every
successful sequence of bindings is a run of native operations (`PageStep.simulates`). What holds of
the native lifecycle holds of the texts (`page_lifecycle`), however the service formats the JSON and
however the user types the recovery sheet. With the sheet alone the user can prove to the service
that the account is theirs (`recovery_from_sheet`). -/

namespace SerenSecrets

def CryptoError.display : CryptoError → String
  | invalidKey what => "invalid key material: " ++ what
  | invalidCiphertext => "invalid ciphertext"
  | authFailure => "authentication failed: tampered ciphertext or wrong key"
  | unsupportedVersion version => "unsupported wire-format version " ++ version.toNat.repr
  | malformedWire what => "malformed wire format: " ++ what
  | invalidSignature => "invalid signature"
  | kdf what => "kdf failure: " ++ what
  | invalidRecoveryKey => "invalid recovery key encoding"
  | invalidPasswordRecipe what => "password generator received invalid recipe: " ++ what
  | importFailure what => "import error: " ++ what
  | exportFailure what => "export error: " ++ what
  | canonicalization what => "canonicalization error: " ++ what

namespace Browser

/-- What a binding returns, or the message of what it throws. -/
abbrev JsResult (α : Type) := Except String α

def js {α : Type} (result : CryptoResult α) : JsResult α := result.mapError CryptoError.display

/-- An argument that must have exactly `n` bytes. -/
def fixedArg (n : ℕ) (message : String) (bytes : Bytes) : JsResult (FixedBytes n) :=
  match FixedBytes.ofBytes? n bytes with
  | some array => .ok array
  | none => .error message

/-! ## Bindings

JSON texts are their bytes. -/

structure WasmAccountSetupBundle where
  secrets : AccountSecrets
  recoveryKey : RecoveryKey

structure WasmRecoveryRewrap where
  secretsJson : Bytes
  newRecoveryKey : RecoveryKey

def secretsToJson (secrets : AccountSecrets) : Bytes := (AccountSecrets.codec.write secrets).write

def WasmAccountSetupBundle.secretsJson (bundle : WasmAccountSetupBundle) : Bytes :=
  secretsToJson bundle.secrets

def WasmAccountSetupBundle.recoveryKeyDisplay (bundle : WasmAccountSetupBundle) : String :=
  bundle.recoveryKey.toDisplayString

def WasmRecoveryRewrap.newRecoveryKeyDisplay (rewrap : WasmRecoveryRewrap) : String :=
  rewrap.newRecoveryKey.toDisplayString

def recoveryKeyParseDisplay (text : String) : JsResult RecoveryKey :=
  js (RecoveryKey.fromDisplayString text)

section Bindings

variable (A : Aead) (K : Argon2) (X : IdentityCurves) (S : SignatureScheme)
  (read : Bytes → Option Json)

def accountSetupWithParams (draw : SetupDraw) (masterPassword : Bytes)
    (masterParams recoveryParams : KdfParams) : JsResult WasmAccountSetupBundle := do
  let bundle ← js (SerenSecrets.accountSetupWithParams A K X draw masterPassword masterParams
    recoveryParams)
  return ⟨bundle.secrets, bundle.recoveryKey⟩

/-- Both sets of parameters are the default ones, each with a salt of its own. -/
def accountSetup (salt recoverySalt : FixedBytes 16) (draw : SetupDraw) (masterPassword : Bytes) :
    JsResult WasmAccountSetupBundle :=
  accountSetupWithParams A K X draw masterPassword (defaultParams salt) (defaultParams recoverySalt)

def secretsFromJson (secretsJson : Bytes) : JsResult AccountSecrets :=
  match (read secretsJson).bind AccountSecrets.codec.read with
  | some secrets => .ok secrets
  | none => .error "invalid account secrets JSON"

def unlockAccount (masterPassword secretsJson : Bytes) : JsResult UnlockedAccount := do
  let secrets ← secretsFromJson read secretsJson
  js (SerenSecrets.unlockAccount A K X masterPassword secrets)

def recoverAccountKey (recoveryKey : RecoveryKey) (secretsJson : Bytes) : JsResult AccountKey := do
  let secrets ← secretsFromJson read secretsJson
  js (recoverWithRecoveryKey A K recoveryKey secrets)

def accountSigningPrivateUnwrap (accountKey : AccountKey) (accountSigningPrivateWrap : Bytes) :
    JsResult IdentitySigningPrivateKey :=
  js (unwrapAccountSigningPrivateKey A accountKey accountSigningPrivateWrap)

def rewrapAccountAfterRecovery (master : MasterDraw) (recovery : RecoveryDraw)
    (accountKey : AccountKey) (newPassword secretsJson : Bytes) : JsResult WasmRecoveryRewrap := do
  let secrets ← secretsFromJson read secretsJson
  let (result, updated) :=
    (rewrapAccountKeyAfterRecovery A K master recovery accountKey newPassword).exec secrets
  let newRecoveryKey ← js result
  return ⟨secretsToJson updated, newRecoveryKey⟩

def changeMasterPassword (draw : MasterDraw) (accountKey : AccountKey)
    (newPassword secretsJson : Bytes) : JsResult Bytes := do
  let secrets ← secretsFromJson read secretsJson
  let (result, updated) :=
    (SerenSecrets.changeMasterPassword A K draw accountKey newPassword).exec secrets
  js result
  return secretsToJson updated

def signRecoveryProof (signingPrivateKey : IdentitySigningPrivateKey)
    (recoveryRequestId userId challenge newKemPublicKey : Bytes) : JsResult Bytes := do
  let requestBytes ← fixedArg 16 "recovery_request_id must be 16 bytes" recoveryRequestId
  let userBytes ← fixedArg 16 "user_id must be 16 bytes" userId
  let challengeBytes ← fixedArg 32 "challenge must be 32 bytes" challenge
  let kemPkBytes ← fixedArg 32 "new_kem_public_key must be 32 bytes" newKemPublicKey
  return buildRecoveryProof S signingPrivateKey
    ⟨requestBytes, userBytes, challengeBytes, ⟨kemPkBytes⟩⟩

/-- A free-form value from its text. -/
def valueFromJson (message : String) (text : Bytes) : JsResult JsonValue :=
  match (read text).bind JsonValue.ofJson? with
  | some value => .ok value
  | none => .error message

/-- The text of the time is read by `parseTimestamp`, which explains its failures. -/
def signSecretsUpdateProof (timestampText : Jiff.Timestamp → String)
    (parseTimestamp : String → Except String Jiff.Timestamp) (sha256 : Bytes → FixedBytes 32)
    (signingPrivateKey : IdentitySigningPrivateKey) (userId : Bytes) (issuedAtRfc3339 : String)
    (kdfParamsJson recoveryKdfParamsJson accountKeyWrap accountKemPrivateWrap
      accountSigningPrivateWrap recoveryKeyWrap : Bytes) : JsResult Bytes := do
  let userBytes ← fixedArg 16 "user_id must be 16 bytes" userId
  let issuedAt ← (parseTimestamp issuedAtRfc3339).mapError ("Invalid issued_at: " ++ ·)
  let kdfParams ← valueFromJson read "invalid kdf params JSON" kdfParamsJson
  let recoveryKdfParams ←
    valueFromJson read "invalid recovery kdf params JSON" recoveryKdfParamsJson
  let proof ← js (updateProof sha256 userBytes issuedAt
    { kdfParams, recoveryKdfParams, accountKeyWrap, accountKemPrivateWrap,
      accountSigningPrivateWrap, recoveryKeyWrap })
  return buildUpdateProof S timestampText signingPrivateKey proof

end Bindings

/-! ## Pages -/

/-- What a page and its user hold: the text of the secrets, the password, and the text of the
    recovery key. -/
structure Page where
  secretsJson : Bytes
  password : Bytes
  recoverySheet : String

section Pages

variable (A : Aead) (K : Argon2) (X : IdentityCurves) (read : Bytes → Option Json)

/-- A successful use of the bindings, with salts that are not all zero. The page may also get the
    secrets from the service again, in another order or spacing. -/
inductive PageStep : Page → Page → Prop
  | changeMasterPassword {page : Page} {password newPassword text : Bytes} {draw : MasterDraw}
      {unlocked : UnlockedAccount} (hsalt : draw.salt.toBytes.all (· == 0) = false)
      (hunlock : unlockAccount A K X read password page.secretsJson = .ok unlocked)
      (h : changeMasterPassword A K read draw unlocked.accountKey newPassword page.secretsJson
        = .ok text) :
      PageStep page ⟨text, newPassword, page.recoverySheet⟩
  | rewrapAccountAfterRecovery {page : Page} {typed : String} {recoveryKey : RecoveryKey}
      {accountKey : AccountKey} {newPassword : Bytes} {master : MasterDraw}
      {recovery : RecoveryDraw} {rewrap : WasmRecoveryRewrap}
      (hsalt : master.salt.toBytes.all (· == 0) = false)
      (hrecoverySalt : recovery.salt.toBytes.all (· == 0) = false)
      (hparse : recoveryKeyParseDisplay typed = .ok recoveryKey)
      (hrecover : recoverAccountKey A K read recoveryKey page.secretsJson = .ok accountKey)
      (h : rewrapAccountAfterRecovery A K read master recovery accountKey newPassword
        page.secretsJson = .ok rewrap) :
      PageStep page ⟨rewrap.secretsJson, newPassword, rewrap.newRecoveryKeyDisplay⟩
  | reload {page : Page} {text : Bytes} {value value' : Json}
      (hvalue : read page.secretsJson = some value) (hvalue' : read text = some value')
      (h : value.Reordered value') :
      PageStep page ⟨text, page.password, page.recoverySheet⟩

/-- The page stands for a native account. -/
structure Page.Shows (page : Page) (st : AccountState) : Prop where
  secrets : ∃ value, read page.secretsJson = some value ∧
    (AccountSecrets.codec.write st.secrets).Reordered value
  password : page.password = st.password
  sheet : RecoveryKey.fromDisplayString page.recoverySheet = .ok st.recoveryKey

end Pages

section Simulation

variable {A : Aead} {K : Argon2} {X : IdentityCurves} {read : Bytes → Option Json} {limit : ℕ}
  {accountKey : AccountKey} {original : AccountSecrets} {page page' : Page} {st : AccountState}

@[simp] theorem js_eq_ok {α : Type} {result : CryptoResult α} {a : α} :
    js result = .ok a ↔ result = .ok a :=
  Except.mapError_eq_ok

theorem fromDisplayString_toDisplayString (key : RecoveryKey) :
    RecoveryKey.fromDisplayString key.toDisplayString = .ok key :=
  fromDisplayString_eq_ok.mpr (cleaned_toDisplayString key)

theorem Page.Shows.secretsFromJson (h : page.Shows read st) :
    secretsFromJson read page.secretsJson = .ok st.secrets := by
  obtain ⟨value, hvalue, hreordered⟩ := h.secrets
  simp only [Browser.secretsFromJson, hvalue, Option.bind_some,
    AccountSecrets.codec.read_write hreordered]

theorem Page.Shows.unlockAccount_eq (h : page.Shows read st) (password : Bytes) :
    unlockAccount A K X read password page.secretsJson
      = js (SerenSecrets.unlockAccount A K X password st.secrets) := by
  rw [unlockAccount, h.secretsFromJson]
  rfl

theorem Page.Shows.recoverAccountKey_eq (h : page.Shows read st) (recoveryKey : RecoveryKey) :
    recoverAccountKey A K read recoveryKey page.secretsJson
      = js (recoverWithRecoveryKey A K recoveryKey st.secrets) := by
  rw [recoverAccountKey, h.secretsFromJson]
  rfl

/-- A text that was written is read as its secrets. -/
theorem shows_secretsToJson (hread : JsonReader read limit) (hlimit : 2 ≤ limit)
    (secrets : AccountSecrets) (password : Bytes) {sheet : String} {recoveryKey : RecoveryKey}
    (hsheet : RecoveryKey.fromDisplayString sheet = .ok recoveryKey) :
    (⟨secretsToJson secrets, password, sheet⟩ : Page).Shows read
      ⟨secrets, password, recoveryKey⟩ where
  secrets := hread.reads_codec AccountSecrets.floatFree_codec
    (Nat.le_trans (AccountSecrets.depth_write secrets) hlimit)
  password := rfl
  sheet := hsheet

/-- Whoever unlocks the account has its key. -/
theorem accountKey_of_unlockAccount (hA : A.Ideal) (h : MasterHalf A K accountKey st)
    {password : Bytes} {unlocked : UnlockedAccount}
    (hunlock : SerenSecrets.unlockAccount A K X password st.secrets = .ok unlocked) :
    unlocked.accountKey = accountKey := by
  simp only [SerenSecrets.unlockAccount, Except.bind_eq_ok, Except.pure_eq_ok] at hunlock
  obtain ⟨-, -, master, -, key, hkey, -, -, -, -, -, -, -, -, -, -, -, -, rfl⟩ := hunlock
  obtain ⟨original, nonce, -, hwrap⟩ := h.wrap
  rw [unwrapAccountKey, Except.map_eq_ok] at hkey
  obtain ⟨bytes, hbytes, rfl⟩ := hkey
  rw [decryptArray32_eq_ok, hwrap] at hbytes
  obtain ⟨-, -, hplain⟩ := xchacha20Decrypt_encrypt_ok hA hbytes
  rw [FixedBytes.toBytes_injective hplain]

/-- Whoever recovers the account has its key. -/
theorem accountKey_of_recoverWithRecoveryKey (hA : A.Ideal) (h : RecoveryHalf A K accountKey st)
    {recoveryKey : RecoveryKey} {key : AccountKey}
    (hrecover : recoverWithRecoveryKey A K recoveryKey st.secrets = .ok key) : key = accountKey := by
  simp only [recoverWithRecoveryKey, Except.bind_eq_ok, Except.map_eq_ok,
    decryptArray32_eq_ok] at hrecover
  obtain ⟨-, -, derived, -, bytes, hbytes, rfl⟩ := hrecover
  obtain ⟨original, nonce, -, hwrap⟩ := h.wrap
  rw [hwrap] at hbytes
  obtain ⟨-, -, hplain⟩ := xchacha20Decrypt_encrypt_ok hA hbytes
  rw [FixedBytes.toBytes_injective hplain]

/-- **A step of the page is at most one native operation**, made with the account's own key. -/
theorem PageStep.simulates (hA : A.Ideal) (hread : JsonReader read limit) (hlimit : 2 ≤ limit)
    (hshows : page.Shows read st) (hinv : AccountInv A K accountKey original st)
    (hstep : PageStep A K X read page page') :
    ∃ st', Relation.ReflGen (AccountStep A K accountKey) st st' ∧ page'.Shows read st' := by
  cases hstep with
  | changeMasterPassword hsalt hunlock h =>
      rw [hshows.unlockAccount_eq, js_eq_ok] at hunlock
      obtain rfl := accountKey_of_unlockAccount hA hinv.master hunlock
      simp only [Browser.changeMasterPassword, hshows.secretsFromJson, Except.bind_eq_ok, Except.ok.injEq,
        exists_eq_left', js_eq_ok, Except.pure_eq_ok] at h
      obtain ⟨⟨⟩, hresult, rfl⟩ := h
      exact ⟨_, .single (.changeMasterPassword hsalt (Prod.ext hresult rfl)),
        shows_secretsToJson hread hlimit _ _ hshows.sheet⟩
  | rewrapAccountAfterRecovery hsalt hrecoverySalt hparse hrecover h =>
      rw [hshows.recoverAccountKey_eq, js_eq_ok] at hrecover
      obtain rfl := accountKey_of_recoverWithRecoveryKey hA hinv.recovery hrecover
      simp only [Browser.rewrapAccountAfterRecovery, hshows.secretsFromJson, Except.bind_eq_ok,
        Except.ok.injEq, exists_eq_left', js_eq_ok, Except.pure_eq_ok] at h
      obtain ⟨newRecoveryKey, hresult, rfl⟩ := h
      exact ⟨_, .single (.rewrapAccountKeyAfterRecovery hsalt hrecoverySalt (Prod.ext hresult rfl)),
        shows_secretsToJson hread hlimit _ _ (fromDisplayString_toDisplayString newRecoveryKey)⟩
  | reload hvalue hvalue' h =>
      obtain ⟨written, hwritten, hreordered⟩ := hshows.secrets
      cases hvalue.symm.trans hwritten
      exact ⟨st, .refl, ⟨_, hvalue', hreordered.trans h⟩, hshows.password, hshows.sheet⟩

/-- A run of the page is a run of native operations. -/
theorem page_run_simulates (hA : A.Ideal) (hdet : K.Deterministic) (hread : JsonReader read limit)
    (hlimit : 2 ≤ limit) (hshows : page.Shows read st)
    (hinv : AccountInv A K accountKey original st)
    (hrun : Relation.ReflTransGen (PageStep A K X read) page page') :
    ∃ st', Relation.ReflTransGen (AccountStep A K accountKey) st st' ∧ page'.Shows read st' := by
  induction hrun with
  | refl => exact ⟨st, .refl, hshows⟩
  | tail _ hstep ih =>
      obtain ⟨mid, hmid, hmidShows⟩ := ih
      obtain ⟨st', hst', hst'Shows⟩ :=
        hstep.simulates hA hread hlimit hmidShows (hinv.run hdet hmid)
      exact ⟨st', hmid.trans hst'.to_reflTransGen, hst'Shows⟩

end Simulation

/-! ## The lifecycle of a page -/

section Lifecycle

variable {A : Aead} {K : Argon2} {X : IdentityCurves} {read : Bytes → Option Json} {limit : ℕ}
  {draw : SetupDraw} {password : Bytes} {params recoveryParams : KdfParams}
  {bundle : WasmAccountSetupBundle} {page : Page}

/-- What a page has after a setup and any run: a native account in its invariant, with the identity
    of the setup. -/
theorem page_reached (hA : A.Ideal) (hdet : K.Deterministic) (hread : JsonReader read limit)
    (hlimit : 2 ≤ limit)
    (hsetup : accountSetupWithParams A K X draw password params recoveryParams = .ok bundle)
    (hrun : Relation.ReflTransGen (PageStep A K X read)
      ⟨bundle.secretsJson, password, bundle.recoveryKeyDisplay⟩ page) :
    ∃ st, page.Shows read st ∧ AccountInv A K draw.accountKey bundle.secrets st ∧
      SerenSecrets.unlockAccount A K X st.password st.secrets
        = .ok ⟨draw.accountKey, draw.kemPrivate, draw.signingPrivate⟩ ∧
      st.secrets.accountSigningPrivateWrap = xchacha20EncryptWithAad A draw.accountKey.asBytes
        draw.signingNonce draw.signingPrivate.asBytes.toBytes accountSigningPrivateWrapAad ∧
      st.secrets.signingPublicKey = ⟨X.signingPublicOf draw.signingPrivate.asBytes⟩ := by
  simp only [accountSetupWithParams, Except.bind_eq_ok, js_eq_ok, Except.pure_eq_ok] at hsetup
  obtain ⟨native, hnative, rfl⟩ := hsetup
  obtain ⟨hinit, hkemPair, hsigningPair, hkemWrap, hsigningWrap, hkemPub, hsigningPub⟩ :=
    accountSetup_ok hdet hnative
  have hshows := shows_secretsToJson hread hlimit native.secrets password
    (fromDisplayString_toDisplayString native.recoveryKey)
  obtain ⟨st, hst, hstShows⟩ := page_run_simulates hA hdet hread hlimit hshows hinit hrun
  have hinv := hinit.run hdet hst
  have hid := hinv.identity
  rw [hkemPair] at hkemPub
  rw [hsigningPair] at hsigningPub
  exact ⟨st, hstShows, hinv, unlockAccount_latest hA.correct hinv.master (hid.kemWrap.trans hkemWrap)
    (hid.signingWrap.trans hsigningWrap) (hid.kemPublic.trans hkemPub)
    (hid.signingPublic.trans hsigningPub), hid.signingWrap.trans hsigningWrap,
    hid.signingPublic.trans hsigningPub⟩

/-- **The lifecycle of a page.** After a setup in the browser and any sequence of password changes,
    recoveries and reloads, the latest password unlocks the text to the original keys, the latest
    recovery sheet recovers the account key however it is typed, and every other password and
    recovery key is refused. -/
theorem page_lifecycle (hA : A.Ideal) (hdet : K.Deterministic) {passwords : Set Bytes}
    (hfree : K.CollisionFreeOn passwords) (hread : JsonReader read limit) (hlimit : 2 ≤ limit)
    (hsetup : accountSetupWithParams A K X draw password params recoveryParams = .ok bundle)
    (hrun : Relation.ReflTransGen (PageStep A K X read)
      ⟨bundle.secretsJson, password, bundle.recoveryKeyDisplay⟩ page) :
    unlockAccount A K X read page.password page.secretsJson
        = .ok ⟨draw.accountKey, draw.kemPrivate, draw.signingPrivate⟩ ∧
      (∀ typed, cleaned typed = cleaned page.recoverySheet →
        ∃ recoveryKey, recoveryKeyParseDisplay typed = .ok recoveryKey ∧
          recoverAccountKey A K read recoveryKey page.secretsJson = .ok draw.accountKey) ∧
      (page.password ∈ passwords → ∀ other ∈ passwords, other ≠ page.password →
        ∃ message, unlockAccount A K X read other page.secretsJson = .error message) ∧
      (∀ current typed other, recoveryKeyParseDisplay page.recoverySheet = .ok current →
        current.asBytes.toBytes ∈ passwords → recoveryKeyParseDisplay typed = .ok other →
        other.asBytes.toBytes ∈ passwords → cleaned typed ≠ cleaned page.recoverySheet →
          ∃ message, recoverAccountKey A K read other page.secretsJson = .error message) := by
  obtain ⟨st, hshows, hinv, hunlock, -, -⟩ := page_reached hA hdet hread hlimit hsetup hrun
  have hsheet := fromDisplayString_eq_ok.mp hshows.sheet
  refine ⟨?_, ?_, ?_, ?_⟩
  · rw [hshows.unlockAccount_eq, hshows.password, hunlock]
    rfl
  · intro typed htyped
    refine ⟨st.recoveryKey, js_eq_ok.mpr (fromDisplayString_eq_ok.mpr (htyped.trans hsheet)), ?_⟩
    rw [hshows.recoverAccountKey_eq, recoverWithRecoveryKey_latest hA hinv.recovery]
    rfl
  · intro hlatest other hmem hne
    rw [hshows.password] at hlatest hne
    obtain ⟨e, he⟩ := unlockAccount_rejects (X := X) hA hfree hinv.master hmem hlatest hne
    rw [hshows.unlockAccount_eq, he]
    exact ⟨_, rfl⟩
  · intro current typed other hcurrent hlatest hother hmem hne
    cases (js_eq_ok.mp hcurrent).symm.trans hshows.sheet
    have hkey : other ≠ st.recoveryKey := by
      rintro rfl
      exact hne ((fromDisplayString_eq_ok.mp (js_eq_ok.mp hother)).trans hsheet.symm)
    obtain ⟨e, he⟩ := recoverWithRecoveryKey_rejects hA hfree hinv.recovery hmem hlatest hkey
    rw [hshows.recoverAccountKey_eq, he]
    exact ⟨_, rfl⟩

theorem fixedArg_toBytes {n : ℕ} (message : String) (bytes : FixedBytes n) :
    fixedArg n message bytes.toBytes = .ok bytes := by
  rw [fixedArg, FixedBytes.ofBytes?_toBytes]

/-- **Recovery from the sheet.** On every page that is reached, whoever types the latest recovery
    sheet gets the account key and the signing key, and signs a recovery proof that verifies under
    the public key of the setup. A re-wrap with that account key gives a text that the new password
    unlocks to the original keys. -/
theorem recovery_from_sheet {S : SignatureScheme} (hS : S.Correct X.signingPublicOf) (hA : A.Ideal)
    (hdet : K.Deterministic) (hread : JsonReader read limit) (hlimit : 2 ≤ limit)
    (hsetup : accountSetupWithParams A K X draw password params recoveryParams = .ok bundle)
    (hrun : Relation.ReflTransGen (PageStep A K X read)
      ⟨bundle.secretsJson, password, bundle.recoveryKeyDisplay⟩ page) {typed : String}
    (htyped : cleaned typed = cleaned page.recoverySheet) :
    ∃ secrets recoveryKey accountKey signingPrivate,
      secretsFromJson read page.secretsJson = .ok secrets ∧
      recoveryKeyParseDisplay typed = .ok recoveryKey ∧
      recoverAccountKey A K read recoveryKey page.secretsJson = .ok accountKey ∧
      accountSigningPrivateUnwrap A accountKey secrets.accountSigningPrivateWrap
        = .ok signingPrivate ∧
      (∀ proof : RecoveryProof, ∃ signature,
        signRecoveryProof S signingPrivate proof.recoveryRequestId.toBytes proof.userId.toBytes
          proof.challenge.toBytes proof.newKemPublicKey.asBytes.toBytes = .ok signature ∧
        verifyRecoveryProof S bundle.secrets.signingPublicKey proof signature = .ok ()) ∧
      ∀ master recovery newPassword rewrap, master.salt.toBytes.all (· == 0) = false →
        recovery.salt.toBytes.all (· == 0) = false →
        rewrapAccountAfterRecovery A K read master recovery accountKey newPassword page.secretsJson
          = .ok rewrap →
        unlockAccount A K X read newPassword rewrap.secretsJson
          = .ok ⟨draw.accountKey, draw.kemPrivate, draw.signingPrivate⟩ := by
  obtain ⟨st, hshows, hinv, -, hsigningWrap, hsigningPub⟩ :=
    page_reached hA hdet hread hlimit hsetup hrun
  have hparse : recoveryKeyParseDisplay typed = .ok st.recoveryKey :=
    js_eq_ok.mpr (fromDisplayString_eq_ok.mpr
      (htyped.trans (fromDisplayString_eq_ok.mp hshows.sheet)))
  have hrecover : recoverAccountKey A K read st.recoveryKey page.secretsJson
      = .ok draw.accountKey := by
    rw [hshows.recoverAccountKey_eq, recoverWithRecoveryKey_latest hA hinv.recovery]
    rfl
  refine ⟨st.secrets, st.recoveryKey, draw.accountKey, draw.signingPrivate, hshows.secretsFromJson,
    hparse, hrecover, ?_, ?_, ?_⟩
  · rw [accountSigningPrivateUnwrap, js_eq_ok, unwrapAccountSigningPrivateKey, Except.map_eq_ok]
    refine ⟨draw.signingPrivate.asBytes, decryptArray32_eq_ok.mpr ?_, rfl⟩
    rw [hsigningWrap]
    exact xchacha20Decrypt_encrypt_self hA.correct
  · rintro ⟨requestId, userId, challenge, newKemPublicKey⟩
    refine ⟨buildRecoveryProof S draw.signingPrivate ⟨requestId, userId, challenge,
      newKemPublicKey⟩, ?_, ?_⟩
    · simp only [signRecoveryProof, fixedArg_toBytes]
      rfl
    · rw [← hinv.identity.signingPublic, hsigningPub]
      exact Signing.verify_sign hS draw.signingPrivate _
  · intro master recovery newPassword rewrap hsalt hrecoverySalt hrewrap
    obtain ⟨st', hshows', -, hunlock, -, -⟩ := page_reached hA hdet hread hlimit hsetup
      (hrun.tail (.rewrapAccountAfterRecovery hsalt hrecoverySalt hparse hrecover hrewrap))
    rw [hshows'.unlockAccount_eq newPassword]
    rw [show newPassword = st'.password from hshows'.password, hunlock]
    rfl

end Lifecycle

/-! ## A run -/

/-- A page that was set up and then re-wrapped after a recovery. -/
theorem exists_page_rewrapped :
    ∃ (bundle : WasmAccountSetupBundle) (rewrap : WasmRecoveryRewrap),
      accountSetupWithParams .transparent argon2Padding ⟨id, id⟩ exampleSetupDraw (utf8 "first")
        (defaultParams (.replicate 16 1)) (defaultParams (.replicate 16 2)) = .ok bundle ∧
      bundle.recoveryKey = ⟨.replicate 32 1⟩ ∧ rewrap.newRecoveryKey = ⟨.replicate 32 2⟩ ∧
      Relation.ReflTransGen (PageStep .transparent argon2Padding ⟨id, id⟩ (readCompact 128))
        ⟨bundle.secretsJson, utf8 "first", bundle.recoveryKeyDisplay⟩
        ⟨rewrap.secretsJson, utf8 "second", rewrap.newRecoveryKeyDisplay⟩ := by
  have hsetup : ∃ bundle, accountSetupWithParams .transparent argon2Padding ⟨id, id⟩
      exampleSetupDraw (utf8 "first") (defaultParams (.replicate 16 1))
      (defaultParams (.replicate 16 2)) = .ok bundle ∧
      bundle.recoveryKey = ⟨.replicate 32 1⟩ ∧
      ∃ updated, (rewrapAccountKeyAfterRecovery .transparent argon2Padding
        ⟨.replicate 16 3, .replicate 24 5⟩ ⟨.replicate 16 4, ⟨.replicate 32 2⟩, .replicate 24 6⟩
        exampleSetupDraw.accountKey (utf8 "second")).exec bundle.secrets
          = (.ok ⟨.replicate 32 2⟩, updated) := ⟨_, rfl, rfl, _, rfl⟩
  obtain ⟨bundle, hbundle, hkey, updated, hupdated⟩ := hsetup
  obtain ⟨st, hshows, hinv, -, -, -⟩ := page_reached Aead.transparent_ideal (fun _ _ _ => rfl)
    (readCompact_reader 128) (by decide) hbundle .refl
  have hsecrets : secretsFromJson (readCompact 128) bundle.secretsJson = .ok bundle.secrets :=
    (shows_secretsToJson (readCompact_reader 128) (by decide) _ [] hshows.sheet).secretsFromJson
  have hrecover : recoverAccountKey .transparent argon2Padding (readCompact 128) st.recoveryKey
      bundle.secretsJson = .ok exampleSetupDraw.accountKey := by
    rw [hshows.recoverAccountKey_eq, recoverWithRecoveryKey_latest Aead.transparent_ideal
      hinv.recovery]
    rfl
  have hrewrap : rewrapAccountAfterRecovery .transparent argon2Padding (readCompact 128)
      ⟨.replicate 16 3, .replicate 24 5⟩ ⟨.replicate 16 4, ⟨.replicate 32 2⟩, .replicate 24 6⟩
      exampleSetupDraw.accountKey (utf8 "second") bundle.secretsJson
        = .ok ⟨secretsToJson updated, ⟨.replicate 32 2⟩⟩ := by
    simp only [rewrapAccountAfterRecovery, hsecrets, hupdated, bind, Except.bind]
    rfl
  exact ⟨bundle, _, hbundle, hkey, rfl,
    .single (.rewrapAccountAfterRecovery (by decide) (by decide) (js_eq_ok.mpr hshows.sheet)
      hrecover hrewrap)⟩

/-- The new password unlocks the re-wrapped text, the old password and the old sheet do not. -/
theorem page_lifecycle_rewrapped :
    ∃ text, unlockAccount .transparent argon2Padding ⟨id, id⟩ (readCompact 128) (utf8 "second") text
        = .ok ⟨⟨.replicate 32 10⟩, ⟨.replicate 32 11⟩, ⟨.replicate 32 12⟩⟩ ∧
      (∃ message, unlockAccount .transparent argon2Padding ⟨id, id⟩ (readCompact 128)
        (utf8 "first") text = .error message) ∧
      ∃ message, recoverAccountKey .transparent argon2Padding (readCompact 128)
        ⟨.replicate 32 1⟩ text = .error message := by
  obtain ⟨bundle, rewrap, hsetup, hkey, hnewKey, hrun⟩ := exists_page_rewrapped
  obtain ⟨hunlock, -, hpassword, hsheet⟩ := page_lifecycle Aead.transparent_ideal
    (fun _ _ _ => rfl) argon2Padding_collisionFree (readCompact_reader 128) (by decide) hsetup hrun
  dsimp only at hpassword hsheet
  refine ⟨rewrap.secretsJson, hunlock, hpassword (by decide) _ (by decide) (by decide), ?_⟩
  refine hsheet ⟨.replicate 32 2⟩ bundle.recoveryKeyDisplay ⟨.replicate 32 1⟩ ?_ (by decide) ?_
    (by decide) ?_
  · rw [WasmRecoveryRewrap.newRecoveryKeyDisplay, hnewKey]
    exact js_eq_ok.mpr (fromDisplayString_toDisplayString _)
  · rw [WasmAccountSetupBundle.recoveryKeyDisplay, hkey]
    exact js_eq_ok.mpr (fromDisplayString_toDisplayString _)
  · rw [WasmRecoveryRewrap.newRecoveryKeyDisplay, WasmAccountSetupBundle.recoveryKeyDisplay, hkey,
      hnewKey, cleaned_toDisplayString, cleaned_toDisplayString]
    decide +kernel

/-- The new sheet gives a proof that verifies under the key of the setup. -/
theorem recovery_from_sheet_rewrapped :
    ∃ (bundle : WasmAccountSetupBundle) (rewrap : WasmRecoveryRewrap) (secrets : AccountSecrets)
      (signingPrivate : IdentitySigningPrivateKey),
      secretsFromJson (readCompact 128) rewrap.secretsJson = .ok secrets ∧
      ∀ proof : RecoveryProof, ∃ signature,
        signRecoveryProof .checksum signingPrivate proof.recoveryRequestId.toBytes
          proof.userId.toBytes proof.challenge.toBytes proof.newKemPublicKey.asBytes.toBytes
            = .ok signature ∧
        verifyRecoveryProof .checksum bundle.secrets.signingPublicKey proof signature = .ok () := by
  obtain ⟨bundle, rewrap, hsetup, hkey, hnewKey, hrun⟩ := exists_page_rewrapped
  obtain ⟨secrets, -, -, signingPrivate, hsecrets, -, -, -, hproof, -⟩ :=
    recovery_from_sheet SignatureScheme.checksum_correct Aead.transparent_ideal
      (fun _ _ _ => rfl) (readCompact_reader 128) (by decide) hsetup hrun rfl
  exact ⟨bundle, rewrap, secrets, signingPrivate, hsecrets, hproof⟩

end Browser

end SerenSecrets
