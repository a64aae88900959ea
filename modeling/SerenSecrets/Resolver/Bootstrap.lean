import SerenSecrets.Browser.Account
import SerenSecrets.Resolver.Gateway
import SerenSecrets.Resolver.Vaults

set_option autoImplicit false

/-! # Fetching the account secrets

A native client has no key yet, so it fetches the stored secrets and the public keys of its user in
two requests and puts them together (`assembleAccountSecrets`). Between the two requests the secrets
may be replaced.

The secrets are written by pages: the page signs its row, and the service is asked to take it. The
client sees no signature and verifies nothing, so it relies on a service that shows it the registered
keys and only rows that were taken with a fresh proof (`ServesAccount`), be they outdated. If the
service does, then whatever others put, and however the requests interleave with updates, what a
client fetches are the secrets of a page that the user has had, and the password of that page opens
the user's own key (`fetched_secrets_of_a_page`). -/

namespace SerenSecrets

/-! ## Records -/

/-- The reply to `GET /account/secrets`. -/
structure AccountSecretsRecord where
  kdfParams : Json
  recoveryKdfParams : Json
  accountKeyWrap : String
  accountKemPrivateWrap : String
  accountSigningPrivateWrap : String
  recoveryKeyWrap : String

def AccountSecretsRecord.ofJson (value : Json) : Option AccountSecretsRecord := do
  let fields ← value.record? ["kdf_params", "recovery_kdf_params", "account_key_wrap",
    "account_kem_private_wrap", "account_signing_private_wrap", "recovery_key_wrap"]
  let kdfParams ← Json.field fields "kdf_params" some
  let recoveryKdfParams ← Json.field fields "recovery_kdf_params" some
  let accountKeyWrap ← Json.field fields "account_key_wrap" Json.asStr?
  let accountKemPrivateWrap ← Json.field fields "account_kem_private_wrap" Json.asStr?
  let accountSigningPrivateWrap ← Json.field fields "account_signing_private_wrap" Json.asStr?
  let recoveryKeyWrap ← Json.field fields "recovery_key_wrap" Json.asStr?
  return { kdfParams, recoveryKdfParams, accountKeyWrap, accountKemPrivateWrap,
           accountSigningPrivateWrap, recoveryKeyWrap }

/-- The reply to `GET /identities/me`. -/
structure IdentityRecord where
  kemPublicKey : String
  signingPublicKey : String

def IdentityRecord.ofJson (value : Json) : Option IdentityRecord := do
  let fields ← value.record? ["kem_public_key", "signing_public_key"]
  let kemPublicKey ← Json.field fields "kem_public_key" Json.asStr?
  let signingPublicKey ← Json.field fields "signing_public_key" Json.asStr?
  return { kemPublicKey, signingPublicKey }

/-- Every failure names the field. -/
def assembleAccountSecrets (secrets : AccountSecretsRecord) (identity : IdentityRecord) :
    ResolverResult AccountSecrets := do
  let kdfParams ← orMalformed "kdf_params" (KdfParams.codec.read secrets.kdfParams)
  let recoveryKdfParams ←
    orMalformed "recovery_kdf_params" (KdfParams.codec.read secrets.recoveryKdfParams)
  let accountKeyWrap ← b64Decode secrets.accountKeyWrap "account_key_wrap"
  let accountKemPrivateWrap ← b64Decode secrets.accountKemPrivateWrap "account_kem_private_wrap"
  let accountSigningPrivateWrap ←
    b64Decode secrets.accountSigningPrivateWrap "account_signing_private_wrap"
  let recoveryKeyWrap ← b64Decode secrets.recoveryKeyWrap "recovery_key_wrap"
  let kemBytes ← b64Decode identity.kemPublicKey "kem_public_key"
  let kemPublicKey ← orMalformed "kem_public_key length" (FixedBytes.ofBytes? 32 kemBytes)
  let signingBytes ← b64Decode identity.signingPublicKey "signing_public_key"
  let signingPublicKey ←
    orMalformed "signing_public_key length" (FixedBytes.ofBytes? 32 signingBytes)
  return { kdfParams, recoveryKdfParams, accountKeyWrap, accountKemPrivateWrap,
           accountSigningPrivateWrap, recoveryKeyWrap, kemPublicKey := ⟨kemPublicKey⟩,
           signingPublicKey := ⟨signingPublicKey⟩ }

def fetchMasterPasswordKeySource (parse : UrlParser) (P : Parsers) (baseUrl bearer : String)
    (masterPassword : Bytes) : GatewayClient VaultKeySource := do
  let bu := trimEndSlashes baseUrl
  let secretsV ← gatewayGet parse P bu bearer "/account/secrets"
  let identityV ← gatewayGet parse P bu bearer "/identities/me"
  let secrets ← .ofExcept (orMalformed "account secrets" (AccountSecretsRecord.ofJson secretsV))
  let identity ← .ofExcept (orMalformed "identity" (IdentityRecord.ofJson identityV))
  let accountSecrets ← .ofExcept (assembleAccountSecrets secrets identity)
  return .masterPassword accountSecrets masterPassword

/-! ## Rows of accounts -/

/-- The row that stores the secrets. -/
def AccountSecrets.row (secrets : AccountSecrets) : SecretsRow where
  kdfParams := KdfParams.codec.toValue secrets.kdfParams
  recoveryKdfParams := KdfParams.codec.toValue secrets.recoveryKdfParams
  accountKeyWrap := secrets.accountKeyWrap
  accountKemPrivateWrap := secrets.accountKemPrivateWrap
  accountSigningPrivateWrap := secrets.accountSigningPrivateWrap
  recoveryKeyWrap := secrets.recoveryKeyWrap

/-- The row has a blob to sign, since nothing in it is a float. -/
theorem AccountSecrets.blob_row (secrets : AccountSecrets) :
    secrets.row.blob = .ok
      { kdfParamsJson := (KdfParams.codec.write secrets.kdfParams).sorted.write
        recoveryKdfParamsJson := (KdfParams.codec.write secrets.recoveryKdfParams).sorted.write
        accountKeyWrap := secrets.accountKeyWrap
        accountKemPrivateWrap := secrets.accountKemPrivateWrap
        accountSigningPrivateWrap := secrets.accountSigningPrivateWrap
        recoveryKeyWrap := secrets.recoveryKeyWrap } := by
  have hbytes : ∀ params : KdfParams, canonicalJsonBytes (KdfParams.codec.toValue params).json
      = .ok (KdfParams.codec.write params).sorted.write := by
    intro params
    have hreordered := KdfParams.codec.reordered_sorted params
    refine (canonicalJsonBytes_eq_ok (Json.distinctKeys_of_isSorted (Json.isSorted_sorted _))).mpr
      ⟨hreordered.floatFree (KdfParams.floatFree_codec params), ?_⟩
    exact congrArg Json.write
      (hreordered.sorted_eq (KdfParams.codec.distinctKeys_write params)).symm
  simp only [SecretsRow.blob, AccountSecrets.row, hbytes]
  rfl

/-- A payload that holds the row, among other fields. -/
structure ShowsRow (row : SecretsRow) (value : Json) : Prop where
  object : ∃ members, value = .obj members
  kdfParams : value.get? "kdf_params" = some row.kdfParams.json
  recoveryKdfParams : value.get? "recovery_kdf_params" = some row.recoveryKdfParams.json
  accountKeyWrap : value.get? "account_key_wrap" = some (.base64 row.accountKeyWrap)
  accountKemPrivateWrap :
    value.get? "account_kem_private_wrap" = some (.base64 row.accountKemPrivateWrap)
  accountSigningPrivateWrap :
    value.get? "account_signing_private_wrap" = some (.base64 row.accountSigningPrivateWrap)
  recoveryKeyWrap : value.get? "recovery_key_wrap" = some (.base64 row.recoveryKeyWrap)

/-- A payload that holds the public keys of the user, among other fields. -/
structure ShowsIdentity (kem : IdentityKemPublicKey) (signing : IdentitySigningPublicKey)
    (value : Json) : Prop where
  object : ∃ members, value = .obj members
  kemPublicKey : value.get? "kem_public_key" = some (.base64 kem.asBytes.toBytes)
  signingPublicKey : value.get? "signing_public_key" = some (.base64 signing.asBytes.toBytes)

/-- **The records of stored secrets are put together again.** -/
theorem assembleAccountSecrets_row {secrets : AccountSecrets} {rowValue identityValue : Json}
    (hrow : ShowsRow secrets.row rowValue)
    (hidentity : ShowsIdentity secrets.kemPublicKey secrets.signingPublicKey identityValue) :
    ∃ record identity, AccountSecretsRecord.ofJson rowValue = some record ∧
      IdentityRecord.ofJson identityValue = some identity ∧
      assembleAccountSecrets record identity = .ok secrets := by
  obtain ⟨members, rfl⟩ := hrow.object
  obtain ⟨members', rfl⟩ := hidentity.object
  refine ⟨⟨secrets.row.kdfParams.json, secrets.row.recoveryKdfParams.json,
    Base64.encode secrets.accountKeyWrap, Base64.encode secrets.accountKemPrivateWrap,
    Base64.encode secrets.accountSigningPrivateWrap, Base64.encode secrets.recoveryKeyWrap⟩,
    ⟨Base64.encode secrets.kemPublicKey.asBytes.toBytes,
      Base64.encode secrets.signingPublicKey.asBytes.toBytes⟩, ?_, ?_, ?_⟩
  · simp only [AccountSecretsRecord.ofJson, Json.record?, Json.field, hrow.kdfParams,
      hrow.recoveryKdfParams, hrow.accountKeyWrap, hrow.accountKemPrivateWrap,
      hrow.accountSigningPrivateWrap, hrow.recoveryKeyWrap, Option.bind_eq_bind, Option.bind_some,
      Json.base64, Json.asStr?]
    rfl
  · simp only [IdentityRecord.ofJson, Json.record?, Json.field, hidentity.kemPublicKey,
      hidentity.signingPublicKey, Option.bind_eq_bind, Option.bind_some, Json.base64, Json.asStr?]
    rfl
  · simp only [assembleAccountSecrets, Except.bind_eq_ok, orMalformed_eq_ok, b64Decode_eq_ok,
      Except.pure_eq_ok]
    exact ⟨_, KdfParams.codec.read_toValue _, _, KdfParams.codec.read_toValue _, _,
      Base64.decode_encode _, _, Base64.decode_encode _, _, Base64.decode_encode _, _,
      Base64.decode_encode _, _, Base64.decode_encode _, _, FixedBytes.ofBytes?_toBytes _, _,
      Base64.decode_encode _, _, FixedBytes.ofBytes?_toBytes _, rfl⟩

/-! ## The service -/

/-- An account with the public keys that are registered for its user. -/
structure RegisteredAccount where
  updates : UpdateService
  userId : Uuid
  kemPublic : IdentityKemPublicKey
  signingPublic : IdentitySigningPublicKey
  registered : updates.signingPublic userId = some signingPublic

section Service

variable (S : SignatureScheme) (timestampText : Jiff.Timestamp → String)
  (sha256 : Bytes → FixedBytes 32) (P : Parsers) (account : RegisteredAccount)

/-- The row was put at some time, with a proof of the user that was fresh then. -/
def RowTaken (row : SecretsRow) (history : List UpdateEvent) : Prop :=
  ∃ now issuedAt signature past,
    .put now account.userId issuedAt row signature :: past <:+ history ∧
    account.updates.accepts S timestampText sha256 now account.userId issuedAt row signature = true

/-- What the client relies on. To the bearer of the token the service shows a row that it has taken
    for the user, though not necessarily the last one, and the registered keys; and what has happened
    stays in the history. -/
structure ServesAccount (bearer : String)
    (handle : List UpdateEvent → GatewayRequest → HttpReply → List UpdateEvent → Prop) : Prop where
  grows : ∀ {history req rep history'}, handle history req rep history' → history <:+ history'
  secrets : ∀ {baseUrl history rep history'},
    handle history ⟨.get, baseUrl, "/account/secrets", bearer, none⟩ rep history' →
    ∀ payload, readReply P maxGatewayBody rep = .ok payload →
      ∃ row, RowTaken S timestampText sha256 account row history ∧ ShowsRow row payload
  identity : ∀ {baseUrl history rep history'},
    handle history ⟨.get, baseUrl, "/identities/me", bearer, none⟩ rep history' →
    ∀ payload, readReply P maxGatewayBody rep = .ok payload →
      ShowsIdentity account.kemPublic account.signingPublic payload

end Service

section Fetching

variable {S : SignatureScheme} {timestampText : Jiff.Timestamp → String}
  {sha256 : Bytes → FixedBytes 32} {P : Parsers} {parse : UrlParser} {account : RegisteredAccount}
  {handle : List UpdateEvent → GatewayRequest → HttpReply → List UpdateEvent → Prop}

theorem RowTaken.of_suffix {row : SecretsRow} {past history : List UpdateEvent}
    (h : RowTaken S timestampText sha256 account row past) (hpast : past <:+ history) :
    RowTaken S timestampText sha256 account row history := by
  obtain ⟨now, issuedAt, signature, before, hput, haccepts⟩ := h
  exact ⟨now, issuedAt, signature, before, hput.trans hpast, haccepts⟩

/-- What a fetch returns is put together from a row that the service has taken and the registered
    keys. -/
theorem fetchMasterPasswordKeySource_ok {baseUrl bearer : String} {masterPassword : Bytes}
    (hserves : ServesAccount S timestampText sha256 P account bearer handle)
    {history history' : List UpdateEvent}
    {es : List (Event (List UpdateEvent) GatewayRequest HttpReply)} {source : VaultKeySource}
    (h : Exec handle Grows
      (fetchMasterPasswordKeySource parse P baseUrl bearer masterPassword) history es (.ok source)
      history') :
    ∃ row rowValue identityValue record identity secrets,
      RowTaken S timestampText sha256 account row history' ∧
      ShowsRow row rowValue ∧
      ShowsIdentity account.kemPublic account.signingPublic identityValue ∧
      AccountSecretsRecord.ofJson rowValue = some record ∧
      IdentityRecord.ofJson identityValue = some identity ∧
      assembleAccountSecrets record identity = .ok secrets ∧
      source = .masterPassword secrets masterPassword := by
  obtain ⟨-, pre, before, rep, after, post, rowValue, -, -, hserved, hread, h⟩ :=
    exec_gatewayCall_bind_ok h
  obtain ⟨-, pre', before', rep', after', post', identityValue, -, hpre', hserved', hread', h⟩ :=
    exec_gatewayCall_bind_ok h
  obtain ⟨record, hrecord, h⟩ := Exec.ofExcept_bind_ok h
  obtain ⟨identity, hidentity, h⟩ := Exec.ofExcept_bind_ok h
  obtain ⟨secrets, hsecrets, h⟩ := Exec.ofExcept_bind_ok h
  obtain ⟨hsource, hfinal⟩ := Exec.done_inv h
  obtain ⟨row, htaken, hrow⟩ := hserves.secrets hserved rowValue hread
  have hkeys := hserves.identity hserved' identityValue hread'
  have hlater : before <:+ history' :=
    ((hserves.grows hserved).trans hpre'.suffix).trans ((hserves.grows hserved').trans hfinal.suffix)
  exact ⟨row, rowValue, identityValue, record, identity, secrets, htaken.of_suffix hlater, hrow,
    hkeys, orMalformed_eq_ok.mp hrecord, orMalformed_eq_ok.mp hidentity, hsecrets,
    Except.ok.inj hsource⟩

end Fetching

/-! ## From page to client -/

section EndToEnd

open Browser (Page PageStep WasmAccountSetupBundle secretsFromJson page_reached)

variable {S : SignatureScheme} {timestampText : Jiff.Timestamp → String}
  {sha256 : Bytes → FixedBytes 32} {P : Parsers} {parse : UrlParser} {account : RegisteredAccount}
  {A : Aead} {K : Argon2} {X : IdentityCurves} {read : Bytes → Option Json} {limit : ℕ}
  {draw : SetupDraw} {password : Bytes} {params recoveryParams : KdfParams}
  {bundle : WasmAccountSetupBundle} {honest : Set (FixedBytes 32)} {unstable : Sorter}

/-- The page is one that the user has had: it is reached from the setup, and holds the secrets. -/
def Owns (A : Aead) (K : Argon2) (X : IdentityCurves) (read : Bytes → Option Json)
    (bundle : WasmAccountSetupBundle) (password : Bytes) (page : Page) (secrets : AccountSecrets) :
    Prop :=
  Relation.ReflTransGen (PageStep A K X read)
      ⟨bundle.secretsJson, password, bundle.recoveryKeyDisplay⟩ page ∧
    secretsFromJson read page.secretsJson = .ok secrets

/-- The holder of the user's key signs updates only for pages of the user. -/
def SignsOwnPages (A : Aead) (K : Argon2) (X : IdentityCurves) (read : Bytes → Option Json)
    (bundle : WasmAccountSetupBundle) (password : Bytes) (account : RegisteredAccount)
    (history : List UpdateEvent) : Prop :=
  ∀ privateKey issuedAt row, .signUpdate privateKey account.userId issuedAt row ∈ history →
    X.signingPublicOf privateKey.asBytes = account.signingPublic.asBytes →
      ∃ page secrets, Owns A K X read bundle password page secrets ∧ row = secrets.row

/-- A row that was taken for the user is the row of a page. -/
theorem RowTaken.of_a_page (hinj : Function.Injective timestampText)
    (hnl : ∀ t, '\n' ∉ (timestampText t).toList) {history : List UpdateEvent}
    (hforge : S.Unforgeable honest ((UpdateEvent.view sha256 account.updates).messages timestampText
      unstable X.signingPublicOf) history)
    (hhash : HashSeparates sha256 history) (hhonest : account.signingPublic.asBytes ∈ honest)
    (hown : SignsOwnPages A K X read bundle password account history) {row : SecretsRow}
    (htaken : RowTaken S timestampText sha256 account row history) :
    ∃ page secrets, Owns A K X read bundle password page secrets ∧ row = secrets.row := by
  obtain ⟨now, issuedAt, signature, past, hput, haccepts⟩ := htaken
  have hhashPut : HashSeparates sha256 (.put now account.userId issuedAt row signature :: past) := by
    obtain ⟨newer, rfl⟩ := hput
    clear hforge hown
    induction newer with
    | nil => exact hhash
    | cons event newer ih => exact ih hhash.tail
  obtain ⟨_, issuedAt', _, earlier, hearlier, -, -, privateKey, hsigned, hpublic⟩ :=
    signedThenPut_of_accepts hinj hnl (hforge.of_suffix hput) hhashPut account.registered hhonest
      haccepts
  have hmem : .signUpdate privateKey account.userId issuedAt' row ∈ history :=
    hput.mem (hearlier.mem (List.mem_cons_of_mem _ hsigned))
  exact hown privateKey issuedAt' row hmem hpublic

/-- The identity of a page is the one of the setup, and its password opens the user's key. -/
theorem kemPrivate_of_owns (hA : A.Ideal) (hdet : K.Deterministic) {passwords : Set Bytes}
    (hfree : K.CollisionFreeOn passwords) (hread : JsonReader read limit) (hlimit : 2 ≤ limit)
    (hsetup : Browser.accountSetupWithParams A K X draw password params recoveryParams = .ok bundle)
    {page : Page} {secrets : AccountSecrets} (howns : Owns A K X read bundle password page secrets) :
    secrets.kemPublicKey = bundle.secrets.kemPublicKey ∧
      secrets.signingPublicKey = bundle.secrets.signingPublicKey ∧
      (VaultKeySource.masterPassword secrets page.password).kemPrivate A K X
        = .ok draw.kemPrivate ∧
      (page.password ∈ passwords → ∀ other ∈ passwords, other ≠ page.password →
        ∃ e, (VaultKeySource.masterPassword secrets other).kemPrivate A K X = .error e) := by
  obtain ⟨hrun, hsecrets⟩ := howns
  obtain ⟨st, hshows, hinv, hunlock, -, -⟩ := page_reached hA hdet hread hlimit hsetup hrun
  obtain rfl := Except.ok.inj (hsecrets.symm.trans hshows.secretsFromJson)
  refine ⟨hinv.identity.kemPublic, hinv.identity.signingPublic, ?_, ?_⟩
  · rw [VaultKeySource.kemPrivate, hshows.password, hunlock]
    rfl
  · intro hlatest other hmem hne
    rw [hshows.password] at hlatest hne
    obtain ⟨e, he⟩ := unlockAccount_rejects (X := X) hA hfree hinv.master hmem hlatest hne
    exact ⟨.crypto e, by rw [VaultKeySource.kemPrivate, he]; rfl⟩

/-- **A client fetches the secrets of a page that the user has had**, if the service shows it the
    registered keys and nothing but rows that it has taken with a fresh proof. In every interleaving
    with updates of anybody, in a history without forgeries and collisions in which the user signs for
    own pages only: what a native client fetches are the secrets of one of these pages. The password
    of a page with these secrets opens the user's KEM key, and every other password is refused. -/
theorem fetched_secrets_of_a_page (hA : A.Ideal) (hdet : K.Deterministic) {passwords : Set Bytes}
    (hfree : K.CollisionFreeOn passwords) (hread : JsonReader read limit) (hlimit : 2 ≤ limit)
    (hinj : Function.Injective timestampText) (hnl : ∀ t, '\n' ∉ (timestampText t).toList)
    (hsetup : Browser.accountSetupWithParams A K X draw password params recoveryParams = .ok bundle)
    (hkem : account.kemPublic = bundle.secrets.kemPublicKey)
    (hsigning : account.signingPublic = bundle.secrets.signingPublicKey)
    (hhonest : account.signingPublic.asBytes ∈ honest) {baseUrl bearer : String}
    {handle : List UpdateEvent → GatewayRequest → HttpReply → List UpdateEvent → Prop}
    (hserves : ServesAccount S timestampText sha256 P account bearer handle)
    {masterPassword : Bytes} {history history' : List UpdateEvent}
    {es : List (Event (List UpdateEvent) GatewayRequest HttpReply)} {source : VaultKeySource}
    (hexec : Exec handle Grows
      (fetchMasterPasswordKeySource parse P baseUrl bearer masterPassword) history es (.ok source)
      history')
    (hforge : S.Unforgeable honest ((UpdateEvent.view sha256 account.updates).messages timestampText
      unstable X.signingPublicOf) history')
    (hhash : HashSeparates sha256 history')
    (hown : SignsOwnPages A K X read bundle password account history') :
    ∃ secrets, source = .masterPassword secrets masterPassword ∧
      (∃ page, Owns A K X read bundle password page secrets) ∧
      ∀ page, Owns A K X read bundle password page secrets →
        (masterPassword = page.password → source.kemPrivate A K X = .ok draw.kemPrivate) ∧
        (page.password ∈ passwords → masterPassword ∈ passwords → masterPassword ≠ page.password →
          ∃ e, source.kemPrivate A K X = .error e) := by
  obtain ⟨row, rowValue, identityValue, record, identity, fetched, htaken, hrow, hidentity, hrecord,
    hidentityRecord, hassemble, rfl⟩ := fetchMasterPasswordKeySource_ok hserves hexec
  obtain ⟨page, secrets, howns, rfl⟩ := htaken.of_a_page hinj hnl hforge hhash hhonest hown
  obtain ⟨hkemPage, hsigningPage, -, -⟩ :=
    kemPrivate_of_owns hA hdet hfree hread hlimit hsetup howns
  rw [hkem, hsigning, ← hkemPage, ← hsigningPage] at hidentity
  obtain ⟨record', identity', hrecord', hidentity', hsecrets⟩ :=
    assembleAccountSecrets_row hrow hidentity
  cases hrecord.symm.trans hrecord'
  cases hidentityRecord.symm.trans hidentity'
  cases hassemble.symm.trans hsecrets
  refine ⟨_, rfl, ⟨page, howns⟩, ?_⟩
  intro page' howns'
  obtain ⟨-, -, hopens, hrefuses⟩ := kemPrivate_of_owns hA hdet hfree hread hlimit hsetup howns'
  refine ⟨?_, fun hlatest hmem hne => hrefuses hlatest _ hmem hne⟩
  rintro rfl
  exact hopens

end EndToEnd

/-! ## A fetch -/

/-- The row as the service sends it. -/
def SecretsRow.payload (row : SecretsRow) : Json :=
  .obj
    [("account_kem_private_wrap", .base64 row.accountKemPrivateWrap),
      ("account_key_wrap", .base64 row.accountKeyWrap),
      ("account_signing_private_wrap", .base64 row.accountSigningPrivateWrap),
      ("kdf_params", row.kdfParams.json), ("recovery_kdf_params", row.recoveryKdfParams.json),
      ("recovery_key_wrap", .base64 row.recoveryKeyWrap)]

def identityPayload (kem : IdentityKemPublicKey) (signing : IdentitySigningPublicKey) : Json :=
  .obj
    [("kem_public_key", .base64 kem.asBytes.toBytes),
      ("signing_public_key", .base64 signing.asBytes.toBytes)]

theorem SecretsRow.showsRow_payload (row : SecretsRow) : ShowsRow row row.payload :=
  ⟨⟨_, rfl⟩, rfl, rfl, rfl, rfl, rfl, rfl⟩

theorem SecretsRow.bare_payload (row : SecretsRow) : Bare row.payload := by
  simp [Bare, payload, Json.get?]

theorem bare_identityPayload (kem : IdentityKemPublicKey) (signing : IdentitySigningPublicKey) :
    Bare (identityPayload kem signing) := by
  simp [Bare, identityPayload, Json.get?]

/-- A user with the keys of the example account. -/
def exampleAccount : RegisteredAccount where
  updates :=
    { exampleUpdateService with
      signingPublic := fun userId =>
        if userId = .replicate 16 1 then some ⟨.replicate 32 12⟩ else none }
  userId := .replicate 16 1
  kemPublic := ⟨.replicate 32 11⟩
  signingPublic := ⟨.replicate 32 12⟩
  registered := rfl

/-- The service that answers with the last row it has taken, and with the keys. -/
def exampleAccountService (history : List UpdateEvent) (req : GatewayRequest) (rep : HttpReply)
    (history' : List UpdateEvent) : Prop :=
  history' = history ∧
    (req.path = "/account/secrets" ∧ (∃ row, storedRow .checksum exampleTimestampText exampleSha256
        exampleAccount.updates exampleAccount.userId history = some row ∧
        rep = directReply row.payload) ∨
      req.path = "/identities/me" ∧
        rep = directReply (identityPayload exampleAccount.kemPublic exampleAccount.signingPublic))

/-- The row that is stored was taken. -/
theorem rowTaken_of_storedRow {S : SignatureScheme} {timestampText : Jiff.Timestamp → String}
    {sha256 : Bytes → FixedBytes 32} {account : RegisteredAccount} {history : List UpdateEvent}
    {row : SecretsRow}
    (h : storedRow S timestampText sha256 account.updates account.userId history = some row) :
    RowTaken S timestampText sha256 account row history := by
  induction history with
  | nil => cases h
  | cons event past ih =>
      cases event with
      | sign privateKey input other => exact (ih h).of_suffix (List.suffix_cons _ _)
      | signUpdate privateKey userId issuedAt row' => exact (ih h).of_suffix (List.suffix_cons _ _)
      | put now userId issuedAt row' signature =>
          rw [storedRow] at h
          split at h
          · rename_i htaken
            obtain ⟨rfl, haccepts⟩ := htaken
            cases h
            exact ⟨now, issuedAt, signature, past, List.suffix_refl _, haccepts⟩
          · exact (ih h).of_suffix (List.suffix_cons _ _)

theorem exampleAccountService_serves (bearer : String) :
    ServesAccount .checksum exampleTimestampText exampleSha256 .compact exampleAccount bearer
      exampleAccountService := by
  constructor
  · rintro history req rep history' ⟨rfl, -⟩
    exact List.suffix_refl _
  · rintro baseUrl history rep history' ⟨rfl, hserved⟩ payload hread
    rcases hserved with ⟨-, row, hstored, rfl⟩ | ⟨hpath, -⟩
    · refine ⟨row, rowTaken_of_storedRow hstored, ?_⟩
      have hanswers : Answers .compact (ShowsRow row) (directReply row.payload) :=
        .inr ⟨_, delivers_directReply row.bare_payload, row.showsRow_payload⟩
      exact hanswers.of_readReply hread
    · exact absurd hpath (by simp)
  · rintro baseUrl history rep history' ⟨rfl, hserved⟩ payload hread
    rcases hserved with ⟨hpath, -⟩ | ⟨-, rfl⟩
    · exact absurd hpath (by simp)
    · have hanswers : Answers .compact
          (ShowsIdentity exampleAccount.kemPublic exampleAccount.signingPublic)
          (directReply (identityPayload exampleAccount.kemPublic exampleAccount.signingPublic)) :=
        .inr ⟨_, delivers_directReply (bare_identityPayload _ _), ⟨_, rfl⟩, rfl, rfl⟩
      exact hanswers.of_readReply hread

/-- The setup is signed and put, and a client with the password of the setup fetches it. -/
theorem fetched_secrets_of_a_page_setup :
    ∃ (bundle : Browser.WasmAccountSetupBundle) (history : List UpdateEvent)
      (es : List (Event (List UpdateEvent) GatewayRequest HttpReply)) (source : VaultKeySource),
      storedRow .checksum exampleTimestampText exampleSha256 exampleAccount.updates
        (.replicate 16 1) history = some bundle.secrets.row ∧
      Exec exampleAccountService
        Grows (fetchMasterPasswordKeySource (fun _ => some ⟨"https", none, "", none, none, none⟩)
          .compact "https://api.serendb.com/" "token" (utf8 "first")) history es (.ok source) history ∧
      source.kemPrivate .transparent argon2Padding ⟨id, id⟩ = .ok ⟨.replicate 32 11⟩ := by
  have hsetup : ∃ bundle, Browser.accountSetupWithParams .transparent argon2Padding ⟨id, id⟩
      exampleSetupDraw (utf8 "first") (defaultParams (.replicate 16 1))
      (defaultParams (.replicate 16 2)) = .ok bundle ∧
      bundle.secrets.kemPublicKey = ⟨.replicate 32 11⟩ ∧
      bundle.secrets.signingPublicKey = ⟨.replicate 32 12⟩ ∧
      (∃ blob, bundle.secrets.row.blob = .ok blob ∧ blob.Short) ∧
      (Json.obj [("data", bundle.secrets.row.payload)]).write.length ≤ maxGatewayBody := by
    refine ⟨_, rfl, rfl, rfl, ⟨_, AccountSecrets.blob_row _, ?_⟩, ?_⟩
    · decide +kernel
    · simp only [SecretsRow.payload, Json.base64, Json.write, Json.writeMembers, writeString,
        Base64.utf8_encode]
      decide +kernel
  obtain ⟨bundle, hsetup, hkem, hsigning, ⟨blob, hblob, hshort⟩, hlength⟩ := hsetup
  have hproof : ∃ proof, updateProof exampleSha256 (.replicate 16 1) epoch bundle.secrets.row
      = .ok proof := ⟨_, updateProof_eq_ok.mpr ⟨blob, hblob, rfl⟩⟩
  obtain ⟨proof, hproof⟩ := hproof
  have hkey : exampleAccount.updates.signingPublic (.replicate 16 1)
      = some ⟨exampleSetupDraw.signingPrivate.asBytes⟩ := rfl
  have hstored := storedRow_putHistory hkey hproof (by decide) (by decide)
  have hidentity : ShowsIdentity bundle.secrets.kemPublicKey bundle.secrets.signingPublicKey
      (identityPayload ⟨.replicate 32 11⟩ ⟨.replicate 32 12⟩) := by
    rw [hkem, hsigning]
    exact ⟨⟨_, rfl⟩, rfl, rfl⟩
  obtain ⟨record, identity, hrecord, hidentityRecord, hassemble⟩ :=
    assembleAccountSecrets_row bundle.secrets.row.showsRow_payload hidentity
  have hexec : ∃ es, Exec exampleAccountService Grows
      (fetchMasterPasswordKeySource (fun _ => some ⟨"https", none, "", none, none, none⟩) .compact
        "https://api.serendb.com/" "token" (utf8 "first"))
      (putHistory exampleSetupDraw.signingPrivate (.replicate 16 1) bundle.secrets.row proof) es
      (.ok (.masterPassword bundle.secrets (utf8 "first")))
      (putHistory exampleSetupDraw.signingPrivate (.replicate 16 1) bundle.secrets.row proof) := by
    have hfirst := readReply_directReply bundle.secrets.row.bare_payload hlength
    have hsecond : readReply .compact maxGatewayBody (directReply _) = .ok _ :=
      readReply_directReply (bare_identityPayload ⟨.replicate 32 11⟩ ⟨.replicate 32 12⟩)
        (by decide +kernel)
    exact ⟨_, exec_gatewayCall_bind rfl ⟨rfl, .inl ⟨rfl, _, hstored, rfl⟩⟩ hfirst
      (exec_gatewayCall_bind rfl ⟨rfl, .inr ⟨rfl, rfl⟩⟩ hsecond
        (.ofExcept_bind (orMalformed_eq_ok.mpr hrecord)
          (.ofExcept_bind (orMalformed_eq_ok.mpr hidentityRecord)
            (.ofExcept_bind hassemble .done))))⟩
  obtain ⟨es, hexec⟩ := hexec
  have howns : Owns .transparent argon2Padding ⟨id, id⟩ (readCompact 128) bundle (utf8 "first")
      ⟨bundle.secretsJson, utf8 "first", bundle.recoveryKeyDisplay⟩ bundle.secrets := by
    obtain ⟨st, hshows, -⟩ := Browser.page_reached Aead.transparent_ideal (fun _ _ _ => rfl)
      (readCompact_reader 128) (by decide) hsetup .refl
    have hshown := Browser.shows_secretsToJson (readCompact_reader 128) (by decide) bundle.secrets
      (utf8 "first") hshows.sheet
    exact ⟨.refl, hshown.secretsFromJson⟩
  have hown : SignsOwnPages .transparent argon2Padding ⟨id, id⟩ (readCompact 128) bundle
      (utf8 "first") exampleAccount
      (putHistory exampleSetupDraw.signingPrivate (.replicate 16 1) bundle.secrets.row proof) := by
    intro privateKey issuedAt row hmem _
    simp only [putHistory, List.mem_cons, reduceCtorEq, UpdateEvent.signUpdate.injEq,
      List.not_mem_nil, or_false, false_or] at hmem
    obtain ⟨-, -, -, rfl⟩ := hmem
    exact ⟨_, bundle.secrets, howns, rfl⟩
  obtain ⟨secrets, hsource, -, hopens⟩ :=
    fetched_secrets_of_a_page Aead.transparent_ideal (fun _ _ _ => rfl) argon2Padding_collisionFree
      (readCompact_reader 128) (by decide) exampleTimestampText_injective
      newline_notMem_exampleTimestampText hsetup hkem.symm hsigning.symm
      (Set.mem_singleton (FixedBytes.replicate 32 12)) (exampleAccountService_serves "token") hexec
      (unforgeable_putHistory hkey hproof)
      (hashSeparates_of_row hblob hshort (by simp [putHistory, UpdateEvent.row?])) hown
  cases hsource
  exact ⟨bundle, _, es, _, hstored, hexec, (hopens _ howns).1 rfl⟩

end SerenSecrets
