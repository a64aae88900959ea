import SerenSecrets.Lib.Client
import SerenSecrets.Lib.Value
import SerenSecrets.Protocol.Account
import SerenSecrets.Protocol.Vault
import SerenSecrets.Resolver.Items

set_option autoImplicit false

/-! # Listing the vaults of a caller

`listVaults` takes everything from one `/sync` reply: the records of the vaults, and the memberships
that say how far the caller's access goes. A record that carries a wrapped key is accessible, and its
key and its name are opened. A wrap or an encoding that cannot be read fails the whole listing; a
name that does not open is replaced by a text instead, and the listing goes on.

So the listing fails closed in all replies but those in which every accessible record has a readable
key and an encoded name, and some name does not open (`listVaults_failsClosed_iff`). -/

namespace SerenSecrets

/-! ## The reply -/

/-- An identity's access level in one vault, lowest first. -/
inductive VaultAccessLevel where
  | read
  | write
  | admin
  deriving DecidableEq, Repr

def VaultAccessLevel.rank : VaultAccessLevel → ℕ
  | read => 0
  | write => 1
  | admin => 2

instance : Min VaultAccessLevel := ⟨fun a b => if a.rank ≤ b.rank then a else b⟩

structure SyncMembership where
  vaultId : Uuid
  identityId : Uuid
  accessLevel : VaultAccessLevel
  revokedAt : Option String
  deriving DecidableEq

def timestampOfJson (P : Parsers) (value : Json) : Option String :=
  value.asStr?.filter fun text => P.timestamp (utf8 text)

def SyncMembership.ofJson (P : Parsers) (value : Json) : Option SyncMembership := do
  let fields ← value.record? ["vault_id", "identity_id", "access_level", "revoked_at"]
  let vaultId ← Json.field fields "vault_id" Json.asUuid?
  let identityId ← Json.field fields "identity_id" Json.asUuid?
  let accessLevel ← Json.field fields "access_level"
    (Json.unitVariant? [("read", .read), ("write", .write), ("admin", .admin)])
  let revokedAt ← Json.field fields "revoked_at" (Json.nullable (timestampOfJson P))
  return { vaultId, identityId, accessLevel, revokedAt }

/-- The membership rows that can be read; others are skipped. -/
def readableMemberships (P : Parsers) : Json → Option (List SyncMembership)
  | .arr rows => some (rows.filterMap (SyncMembership.ofJson P))
  | _ => none

/-- The caller's level in a vault, from its own unrevoked rows; the lowest one counts. -/
def callerAccess (memberships : List SyncMembership) (callerIdentityId vaultId : Uuid) :
    Option VaultAccessLevel :=
  ((memberships.filter fun row => row.identityId == callerIdentityId && row.vaultId == vaultId
    && row.revokedAt.isNone).map SyncMembership.accessLevel).min?

structure VaultRecord where
  vaultId : Uuid
  nameCiphertext : String
  descriptionCiphertext : Option String
  vaultKeyVersion : Option ℤ
  wrappedVaultKey : Option String
  requiresApproval : Json
  createdAt : String
  updatedAt : String

def VaultRecord.ofJson (value : Json) : Option VaultRecord := do
  let fields ← value.record? ["vault_id", "name_ciphertext", "description_ciphertext",
    "vault_key_version", "wrapped_vault_key", "requires_approval", "created_at", "updated_at"]
  let vaultId ← Json.field fields "vault_id" Json.asUuid?
  let nameCiphertext ← Json.field fields "name_ciphertext" Json.asStr?
  let descriptionCiphertext ←
    Json.fieldOr fields "description_ciphertext" (Json.nullable Json.asStr?) none
  let vaultKeyVersion ←
    Json.fieldOr fields "vault_key_version" (Json.nullable (Json.asInt? (-2 ^ 31) (2 ^ 31 - 1))) none
  let wrappedVaultKey ← Json.fieldOr fields "wrapped_vault_key" (Json.nullable Json.asStr?) none
  let requiresApproval ← Json.fieldOr fields "requires_approval" some .null
  let createdAt ← Json.fieldOr fields "created_at" Json.asStr? ""
  let updatedAt ← Json.fieldOr fields "updated_at" Json.asStr? ""
  return { vaultId, nameCiphertext, descriptionCiphertext, vaultKeyVersion, wrappedVaultKey,
           requiresApproval, createdAt, updatedAt }

def vaultRecordsOfJson : Json → Option (List VaultRecord)
  | .arr elems => elems.mapM VaultRecord.ofJson
  | _ => none

/-- A list of values that the client does not look into. -/
def valuesOfJson : Json → Option (List Json)
  | .arr elems => some elems
  | _ => none

structure SyncResponse where
  vaults : List VaultRecord
  itemOverviews : List ItemSummary
  identities : List Json
  memberships : List SyncMembership
  serverTime : String

def SyncResponse.ofJson (P : Parsers) (value : Json) : Option SyncResponse := do
  let fields ← value.record? ["vaults", "item_overviews", "identities", "memberships",
    "server_time"]
  let vaults ← Json.field fields "vaults" vaultRecordsOfJson
  let itemOverviews ← Json.field fields "item_overviews" (summariesOfJson P)
  let identities ← Json.fieldOr fields "identities" valuesOfJson []
  let memberships ← Json.fieldOr fields "memberships" (readableMemberships P) []
  let serverTime ← Json.fieldOr fields "server_time" Json.asStr? ""
  return { vaults, itemOverviews, identities, memberships, serverTime }

/-- The records that carry a key for the caller. -/
def SyncResponse.accessible (sync : SyncResponse) : List VaultRecord :=
  sync.vaults.filter fun record => record.wrappedVaultKey.isSome

/-! ## The listing -/

structure DecryptedVault where
  vaultId : Uuid
  name : String
  key : VaultKey
  keyVersion : ℤ
  access : Option VaultAccessLevel

/-- Where the caller's KEM key comes from. -/
inductive VaultKeySource where
  | masterPassword (secrets : AccountSecrets) (masterPassword : Bytes)
  | agentKey (kemPrivate : IdentityKemPrivateKey)

inductive SyncCall where
  | sync

def SyncCall.method : SyncCall → Method
  | sync => .get

def SyncCall.path : SyncCall → String
  | sync => "/sync"

section Listing

variable (A : Aead) (B : SealedBox) (K : Argon2) (X : IdentityCurves) (P : Parsers)

def VaultKeySource.kemPrivate : VaultKeySource → ResolverResult IdentityKemPrivateKey
  | agentKey kemPrivate => .ok kemPrivate
  | masterPassword secrets password =>
      UnlockedAccount.kemPrivate <$> fromCrypto (unlockAccount A K X password secrets)

def decryptVaultRecord (kemPrivate : IdentityKemPrivateKey) (record : VaultRecord) :
    ResolverResult DecryptedVault := do
  let wrapped ← orMalformed "missing wrapped_vault_key" record.wrappedVaultKey
  let wrappedBytes ← b64Decode wrapped "wrapped_vault_key"
  let vaultKey ← fromCrypto (unwrapVaultKey B kemPrivate wrappedBytes)
  let nameCtBytes ← b64Decode record.nameCiphertext "name_ciphertext"
  let name := match decryptVaultName A vaultKey record.vaultId.toBytes nameCtBytes with
    | .ok name => name
    | .error _ => "(unreadable vault)"
  return { vaultId := record.vaultId, name, keyVersion := record.vaultKeyVersion.getD 1,
           key := vaultKey, access := none }

/-- Open the accessible records of a reply. -/
def openVaults (kemPrivate : IdentityKemPrivateKey) (callerIdentityId : Uuid)
    (sync : SyncResponse) : ResolverResult (List DecryptedVault) :=
  sync.accessible.mapM fun record => do
    let vault ← decryptVaultRecord A B kemPrivate record
    return { vault with access := callerAccess sync.memberships callerIdentityId record.vaultId }

def listVaults (keySource : VaultKeySource) (callerIdentityId : Uuid) :
    Client SyncCall HttpReply ResolverError (List DecryptedVault) := do
  let kem ← .ofExcept (keySource.kemPrivate A K X)
  let value ← Client.ask (readReply P maxGatewayBody) .sync
  let sync ← .ofExcept (orMalformed "sync" (SyncResponse.ofJson P value))
  .ofExcept (openVaults A B kem callerIdentityId sync)

end Listing

/-! ## What a listing reports -/

section Reports

variable (A : Aead) (B : SealedBox) (kem : IdentityKemPrivateKey)

/-- The key wrap of the record opens to the key, and its name is properly encoded. -/
def VaultRecord.Keyed (record : VaultRecord) (key : VaultKey) (nameCt : Bytes) : Prop :=
  ∃ wrapped wrappedBytes, record.wrappedVaultKey = some wrapped ∧
    Base64.decode wrapped = some wrappedBytes ∧ unwrapVaultKey B kem wrappedBytes = .ok key ∧
    Base64.decode record.nameCiphertext = some nameCt

/-- The listed vault is the record with its true key and name. -/
def VaultRecord.OpensTo (record : VaultRecord) (vault : DecryptedVault) : Prop :=
  ∃ nameCt, record.Keyed B kem vault.key nameCt ∧
    decryptVaultName A vault.key record.vaultId.toBytes nameCt = .ok vault.name ∧
    vault.vaultId = record.vaultId ∧ vault.keyVersion = record.vaultKeyVersion.getD 1

/-- What a listing makes of a record with a key and an encoded name. -/
def VaultRecord.listed (record : VaultRecord) (key : VaultKey) (nameCt : Bytes) :
    DecryptedVault where
  vaultId := record.vaultId
  name := match decryptVaultName A key record.vaultId.toBytes nameCt with
    | .ok name => name
    | .error _ => "(unreadable vault)"
  key := key
  keyVersion := record.vaultKeyVersion.getD 1
  access := none

end Reports

section Lemmas

variable {A : Aead} {B : SealedBox} {kem : IdentityKemPrivateKey}

theorem VaultRecord.Keyed.unique {record : VaultRecord} {key key' : VaultKey}
    {nameCt nameCt' : Bytes} (h : record.Keyed B kem key nameCt)
    (h' : record.Keyed B kem key' nameCt') : key' = key ∧ nameCt' = nameCt := by
  obtain ⟨wrapped, bytes, hwrapped, hbytes, hkey, hname⟩ := h
  obtain ⟨wrapped', bytes', hwrapped', hbytes', hkey', hname'⟩ := h'
  cases hwrapped.symm.trans hwrapped'
  cases hbytes.symm.trans hbytes'
  cases hkey.symm.trans hkey'
  cases hname.symm.trans hname'
  exact ⟨rfl, rfl⟩

/-- A record is taken as soon as it has a key and an encoded name. -/
theorem decryptVaultRecord_eq_ok {record : VaultRecord} {vault : DecryptedVault} :
    decryptVaultRecord A B kem record = .ok vault ↔
      ∃ key nameCt, record.Keyed B kem key nameCt ∧ vault = record.listed A key nameCt := by
  simp only [decryptVaultRecord, Except.bind_eq_ok, orMalformed_eq_ok, b64Decode_eq_ok,
    fromCrypto_eq_ok, Except.pure_eq_ok, VaultRecord.Keyed]
  constructor
  · rintro ⟨wrapped, hwrapped, bytes, hbytes, key, hkey, nameCt, hname, rfl⟩
    exact ⟨key, nameCt, ⟨wrapped, bytes, hwrapped, hbytes, hkey, hname⟩, rfl⟩
  · rintro ⟨key, nameCt, ⟨wrapped, bytes, hwrapped, hbytes, hkey, hname⟩, rfl⟩
    exact ⟨wrapped, hwrapped, bytes, hbytes, key, hkey, nameCt, hname, rfl⟩

/-- So is a listing: it fails only at records without a key or with an unreadable encoding. -/
theorem exists_openVaults_eq_ok {caller : Uuid} {sync : SyncResponse} :
    (∃ vaults, openVaults A B kem caller sync = .ok vaults) ↔
      ∀ record ∈ sync.accessible, ∃ key nameCt, record.Keyed B kem key nameCt := by
  simp only [openVaults, Except.exists_mapM_eq_ok, Except.bind_eq_ok, Except.pure_eq_ok]
  refine forall₂_congr fun record _ => ?_
  constructor
  · rintro ⟨-, vault, hvault, -⟩
    obtain ⟨key, nameCt, hkeyed, -⟩ := decryptVaultRecord_eq_ok.mp hvault
    exact ⟨key, nameCt, hkeyed⟩
  · rintro ⟨key, nameCt, hkeyed⟩
    exact ⟨_, _, decryptVaultRecord_eq_ok.mpr ⟨key, nameCt, hkeyed, rfl⟩, rfl⟩

/-- Where all names open, the listed vaults are true to their records. -/
theorem openVaults_opensTo {caller : Uuid} {sync : SyncResponse} {vaults : List DecryptedVault}
    (h : openVaults A B kem caller sync = .ok vaults)
    (hnames : ∀ record ∈ sync.accessible, ∀ key nameCt, record.Keyed B kem key nameCt →
      ∃ name, decryptVaultName A key record.vaultId.toBytes nameCt = .ok name) :
    List.Forall₂ (VaultRecord.OpensTo A B kem) sync.accessible vaults := by
  refine Json.forall₂_imp_of_mem (Except.mapM_eq_ok.mp h) ?_
  intro record hmem vault hvault
  simp only [Except.bind_eq_ok, Except.pure_eq_ok] at hvault
  obtain ⟨opened, hopened, rfl⟩ := hvault
  obtain ⟨key, nameCt, hkeyed, rfl⟩ := decryptVaultRecord_eq_ok.mp hopened
  obtain ⟨name, hname⟩ := hnames record hmem key nameCt hkeyed
  refine ⟨nameCt, hkeyed, ?_, rfl, rfl⟩
  simp only [VaultRecord.listed, hname]

end Lemmas

/-! ## Failing closed -/

section FailsClosed

variable (A : Aead) (B : SealedBox) (K : Argon2) (X : IdentityCurves) (P : Parsers)

/-- The content of a `/sync` reply. -/
def syncOfReply (rep : HttpReply) : Option SyncResponse :=
  (readReply P maxGatewayBody rep).toOption.bind (SyncResponse.ofJson P)

/-- The listing has one true entry per accessible record of the reply, in order, and none if an
    accessible record is invalid. -/
structure FailsClosed (keySource : VaultKeySource) (rep : HttpReply)
    (result : ResolverResult (List DecryptedVault)) : Prop where
  lists : ∀ vaults, result = .ok vaults → ∃ kem sync, keySource.kemPrivate A K X = .ok kem ∧
    syncOfReply P rep = some sync ∧
    List.Forall₂ (VaultRecord.OpensTo A B kem) sync.accessible vaults
  fails : ∀ kem sync record, keySource.kemPrivate A K X = .ok kem →
    syncOfReply P rep = some sync → record ∈ sync.accessible →
    (∀ vault, ¬ record.OpensTo A B kem vault) → ∃ e, result = .error e

end FailsClosed

section Run

variable {A : Aead} {B : SealedBox} {K : Argon2} {X : IdentityCurves} {P : Parsers}
  {keySource : VaultKeySource} {caller : Uuid} {rep : HttpReply}

theorem run_listVaults_eq_ok {vaults : List DecryptedVault} :
    (listVaults A B K X P keySource caller).run (fun _ => rep) = .ok vaults ↔
      ∃ kem sync, keySource.kemPrivate A K X = .ok kem ∧ syncOfReply P rep = some sync ∧
        openVaults A B kem caller sync = .ok vaults := by
  simp only [listVaults, Client.run_bind, Except.bind_eq_ok, syncOfReply, Option.bind_eq_some_iff,
    Except.toOption_eq_some]
  simp only [Client.ofExcept, Client.ask, Client.run, orMalformed_eq_ok]
  constructor
  · rintro ⟨kem, hkem, value, hvalue, sync, hsync, hvaults⟩
    exact ⟨kem, sync, hkem, ⟨value, hvalue, hsync⟩, hvaults⟩
  · rintro ⟨kem, sync, hkem, ⟨value, hvalue, hsync⟩, hvaults⟩
    exact ⟨kem, hkem, value, hvalue, sync, hsync, hvaults⟩

/-- If a listing fails closed, it does so for a record without a key or for a broken encoding, or all
    names open. -/
theorem FailsClosed.names_open
    (h : FailsClosed A B K X P keySource rep
      ((listVaults A B K X P keySource caller).run fun _ => rep)) {kem : IdentityKemPrivateKey}
    {sync : SyncResponse} (hkem : keySource.kemPrivate A K X = .ok kem)
    (hsync : syncOfReply P rep = some sync) :
    (∃ record ∈ sync.accessible, ∀ key nameCt, ¬ record.Keyed B kem key nameCt) ∨
      ∀ record ∈ sync.accessible, ∀ key nameCt, record.Keyed B kem key nameCt →
        ∃ name, decryptVaultName A key record.vaultId.toBytes nameCt = .ok name := by
  by_cases hkeyed : ∀ record ∈ sync.accessible, ∃ key nameCt, record.Keyed B kem key nameCt
  · right
    obtain ⟨vaults, hvaults⟩ := exists_openVaults_eq_ok.mpr hkeyed
    obtain ⟨kem', sync', hkem', hsync', htrue⟩ :=
      h.lists vaults (run_listVaults_eq_ok.mpr ⟨kem, sync, hkem, hsync, hvaults⟩)
    cases hkem.symm.trans hkem'
    cases hsync.symm.trans hsync'
    intro record hmem key nameCt hrecord
    obtain ⟨vault, -, nameCt', hvault, hname, -⟩ := htrue.exists_of_mem_left hmem
    obtain ⟨hkey, hct⟩ := hrecord.unique hvault
    rw [hkey, hct] at hname
    exact ⟨vault.name, hname⟩
  · left
    simpa using hkeyed

/-- A listing whose entries are all true fails for every invalid record. -/
theorem FailsClosed.of_lists {result : ResolverResult (List DecryptedVault)}
    (hlists : ∀ vaults, result = .ok vaults → ∃ kem sync, keySource.kemPrivate A K X = .ok kem ∧
      syncOfReply P rep = some sync ∧
      List.Forall₂ (VaultRecord.OpensTo A B kem) sync.accessible vaults) :
    FailsClosed A B K X P keySource rep result := by
  refine ⟨hlists, ?_⟩
  intro kem sync record hkem hsync hmem hinvalid
  apply Except.eq_error_of_ne_ok
  intro vaults hresult
  obtain ⟨kem', sync', hkem', hsync', htrue⟩ := hlists vaults hresult
  cases hkem.symm.trans hkem'
  cases hsync.symm.trans hsync'
  obtain ⟨vault, -, hopens⟩ := htrue.exists_of_mem_left hmem
  exact hinvalid vault hopens

/-- **When a listing fails closed.** It does exactly for the replies in which some accessible record
    has no readable key or encoding, or every name opens. In all others a vault whose name was not
    opened stands in the listing under a made-up name. -/
theorem listVaults_failsClosed_iff :
    FailsClosed A B K X P keySource rep
        ((listVaults A B K X P keySource caller).run fun _ => rep) ↔
      ∀ kem sync, keySource.kemPrivate A K X = .ok kem → syncOfReply P rep = some sync →
        (∃ record ∈ sync.accessible, ∀ key nameCt, ¬ record.Keyed B kem key nameCt) ∨
        ∀ record ∈ sync.accessible, ∀ key nameCt, record.Keyed B kem key nameCt →
          ∃ name, decryptVaultName A key record.vaultId.toBytes nameCt = .ok name := by
  constructor
  · intro hclosed kem sync hkem hsync
    exact hclosed.names_open hkem hsync
  · intro hcondition
    apply FailsClosed.of_lists
    intro vaults hrun
    obtain ⟨kem, sync, hkem, hsync, hvaults⟩ := run_listVaults_eq_ok.mp hrun
    refine ⟨kem, sync, hkem, hsync, ?_⟩
    rcases hcondition kem sync hkem hsync with ⟨record, hmem, hbroken⟩ | hnames
    · obtain ⟨key, nameCt, hkeyed⟩ := exists_openVaults_eq_ok.mp ⟨vaults, hvaults⟩ record hmem
      exact absurd hkeyed (hbroken key nameCt)
    · exact openVaults_opensTo hvaults hnames

end Run

/-! ## A vault with the name of another -/

/-- Vault 1 with a key for the caller, and with a name that was sealed for vault 2. -/
def swappedRecord : VaultRecord where
  vaultId := .replicate 16 1
  nameCiphertext := Base64.encode (encryptVaultName .transparent ⟨.replicate 32 3⟩
    (FixedBytes.replicate 16 2).toBytes (.replicate 24 0) "Team")
  descriptionCiphertext := none
  vaultKeyVersion := some 1
  wrappedVaultKey := some (Base64.encode (wrapVaultKeyForIdentity .transparent ⟨.replicate 32 3⟩
    ⟨.replicate 32 5⟩ (.replicate 32 6)))
  requiresApproval := .null
  createdAt := ""
  updatedAt := ""

def swappedJson : Json :=
  .obj
    [("item_overviews", .arr []),
      ("vaults", .arr [.obj
        [("name_ciphertext", .str swappedRecord.nameCiphertext),
          ("vault_id", .uuid swappedRecord.vaultId), ("vault_key_version", .int 1),
          ("wrapped_vault_key", Json.orNull .str swappedRecord.wrappedVaultKey)]])]

theorem bare_swappedJson : Bare swappedJson := by
  simp [Bare, swappedJson, Json.get?]

theorem readReply_swappedJson :
    readReply .compact maxGatewayBody (directReply swappedJson) = .ok swappedJson := by
  apply readReply_directReply bare_swappedJson
  simp only [swappedJson, swappedRecord, Json.uuid, Json.orNull, Json.int, Json.write,
    Json.writeElems, Json.writeMembers, writeString, Base64.utf8_encode]
  decide +kernel

theorem syncOfReply_swappedJson :
    syncOfReply .compact (directReply swappedJson)
      = some ⟨[swappedRecord], [], [], [], ""⟩ := by
  rw [syncOfReply, readReply_swappedJson]
  rfl

theorem keyed_swappedRecord :
    swappedRecord.Keyed .transparent ⟨.replicate 32 5⟩ ⟨.replicate 32 3⟩
      (encryptVaultName .transparent ⟨.replicate 32 3⟩ (FixedBytes.replicate 16 2).toBytes
        (.replicate 24 0) "Team") := by
  refine ⟨_, _, rfl, Base64.decode_encode _, ?_, Base64.decode_encode _⟩
  exact unwrapVaultKey_eq_ok.mpr rfl

/-- **A listing that does not fail**, though the name of its only vault does not open. -/
theorem listVaults_not_failsClosed :
    ¬ ∀ (A : Aead) (B : SealedBox) (K : Argon2) (X : IdentityCurves) (P : Parsers)
      (keySource : VaultKeySource) (caller : Uuid) (rep : HttpReply),
      FailsClosed A B K X P keySource rep
        ((listVaults A B K X P keySource caller).run fun _ => rep) := by
  intro hclaim
  have hclosed := hclaim .transparent .transparent ⟨fun _ _ _ _ => true, fun _ _ _ => none⟩
    ⟨id, id⟩ .compact (.agentKey ⟨.replicate 32 5⟩) (.replicate 16 9) (directReply swappedJson)
  rcases hclosed.names_open rfl syncOfReply_swappedJson with ⟨record, hmem, hbroken⟩ | hnames
  · obtain rfl := List.mem_singleton.mp hmem
    exact hbroken _ _ keyed_swappedRecord
  · obtain ⟨name, hname⟩ := hnames swappedRecord List.mem_cons_self _ _ keyed_swappedRecord
    simp only [decryptVaultName, decryptText, Except.bind_eq_ok] at hname
    obtain ⟨pt, hpt, -⟩ := hname
    obtain ⟨-, haad, -⟩ := xchacha20Decrypt_encrypt_ok Aead.transparent_ideal hpt
    exact absurd haad (by decide)

end SerenSecrets
