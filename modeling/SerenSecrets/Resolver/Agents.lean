import SerenSecrets.Protocol.Signatures
import SerenSecrets.Resolver.Gateway
import SerenSecrets.Resolver.Memberships

set_option autoImplicit false

/-! # Agents and their memberships

An owner creates agent identities, and grants them vaults: the vault key is wrapped for the agent's
KEM key, and the granter signs the vault, the agent, the level and the wrap together
(`grantMembership`). Whatever service is asked, what the owner sends says exactly this
(`membership_requests`).

A sealed box says nothing about who has sealed it, and the agent is not shown the signature:
`listVaults` verifies nothing of it. That an agent can rely on its listing rests on the service. If
all it shows to the agent are wraps and levels of rows that were posted with a signature that verifies
(`ServesSync`), then in every interleaving with anything that others post or sign, the key of every
vault that an agent lists is the one that an honest granter has passed for this vault and this agent,
and its level is one that was granted (`agent_lists_granted_vaults`). -/

namespace SerenSecrets

/-! ## Requests of the owner -/

def accessLevelByte (accessLevel : String) : Option UInt8 :=
  if accessLevel = "read" then some 1
  else if accessLevel = "write" then some 2
  else if accessLevel = "admin" then some 3
  else none

/-- The arguments of `grantMembership`, and the secret that it draws for the sealed box. -/
structure MembershipGrant where
  granterSigningPrivate : IdentitySigningPrivateKey
  vaultId : Uuid
  agentIdentityId : Uuid
  vaultKey : VaultKey
  agentKemPublic : IdentityKemPublicKey
  accessLevel : String
  ephemeral : FixedBytes 32

/-- The arguments of `createAgentIdentity`, with the time and the nonce of the request. -/
structure AgentCreation where
  ownerSigningPrivate : IdentitySigningPrivateKey
  displayName : String
  agentKemPublic : IdentityKemPublicKey
  agentSigningPublic : IdentitySigningPublicKey
  keyProvenance : Json
  issuedAt : Int64
  nonce : Uuid

def AgentCreation.request (creation : AgentCreation) : CreateAgentRequest where
  displayName := creation.displayName
  kemPublicKey := creation.agentKemPublic
  signingPublicKey := creation.agentSigningPublic
  keyProvenance := creation.keyProvenance
  kmsKeyId := none
  issuedAt := creation.issuedAt
  nonce := creation.nonce.toText

def membershipsPath (vaultId : Uuid) : String := "/vaults/" ++ vaultId.toText ++ "/memberships"

section Owner

variable (S : SignatureScheme) (B : SealedBox) (parse : UrlParser) (P : Parsers)
  (baseUrl bearer : String)

def createAgentIdentity (creation : AgentCreation) : GatewayClient Uuid := do
  let bu := trimEndSlashes baseUrl
  let request := creation.request
  let sig := Signing.sign S creation.ownerSigningPrivate (canonicalCreateAgentBytes request)
  let body : Json := .object
    [("display_name", .str request.displayName),
      ("kem_public_key", .base64 request.kemPublicKey.asBytes.toBytes),
      ("signing_public_key", .base64 request.signingPublicKey.asBytes.toBytes),
      ("key_provenance", request.keyProvenance),
      ("kms_key_id", .null),
      ("issued_at", .int request.issuedAt.toInt),
      ("nonce", .str request.nonce),
      ("signature", .base64 sig)]
  let v ← gatewayPost parse P bu bearer "/identities/agents" body
  .ofExcept (orMalformed "identity_id in create-agent response"
    ((v.get? "identity_id").bind Json.asUuid?))

/-- The wrap of the vault key for the agent. -/
def MembershipGrant.wrapped (grant : MembershipGrant) : Bytes :=
  wrapVaultKeyForIdentity B grant.vaultKey grant.agentKemPublic grant.ephemeral

def MembershipGrant.signature (grant : MembershipGrant) (accessByte : UInt8) : Bytes :=
  signMembershipGrant S grant.granterSigningPrivate grant.vaultId grant.agentIdentityId accessByte
    (grant.wrapped B)

/-- An unknown level is refused before anything is sent. -/
def grantMembership (grant : MembershipGrant) : GatewayClient Unit := do
  let bu := trimEndSlashes baseUrl
  match accessLevelByte grant.accessLevel with
  | none => .ofExcept (.error (.invalidInput "access_level must be read, write, or admin"))
  | some accessByte => do
      let body : Json := .object
        [("identity_id", .uuid grant.agentIdentityId),
          ("wrapped_vault_key", .base64 (grant.wrapped B)),
          ("access_level", .str grant.accessLevel),
          ("granted_signature", .base64 (grant.signature S B accessByte))]
      let _ ← gatewayPost parse P bu bearer (membershipsPath grant.vaultId) body
      return ()

def revokeMembership (vaultId identityId : Uuid) : GatewayClient Unit := do
  let bu := trimEndSlashes baseUrl
  let _ ← gatewayDelete parse P bu bearer (membershipsPath vaultId ++ "/" ++ identityId.toText)
  return ()

/-- The route takes no body, the empty object is ignored. -/
def revokeAgentIdentity (identityId : Uuid) : GatewayClient Unit := do
  let bu := trimEndSlashes baseUrl
  let _ ← gatewayPost parse P bu bearer ("/identities/" ++ identityId.toText ++ "/revoke") (.obj [])
  return ()

end Owner

/-! ## Listing the agents -/

structure AgentIdentityWire where
  identityId : Uuid
  displayName : String
  createdAt : String

structure AgentVaultGrantWire where
  vaultId : Uuid
  accessLevel : String
  grantedAt : String

structure AgentSummaryWire where
  identity : AgentIdentityWire
  grantedVaults : List AgentVaultGrantWire

/-- The times are texts that were read as timestamps. -/
structure AgentVaultGrantInfo where
  vaultId : Uuid
  accessLevel : String
  grantedAt : String

structure AgentInfo where
  identityId : Uuid
  displayName : String
  createdAt : String
  grantedVaults : List AgentVaultGrantInfo

def AgentIdentityWire.ofJson (value : Json) : Option AgentIdentityWire := do
  let fields ← value.record? ["identity_id", "display_name", "created_at"]
  let identityId ← Json.field fields "identity_id" Json.asUuid?
  let displayName ← Json.field fields "display_name" Json.asStr?
  let createdAt ← Json.fieldOr fields "created_at" Json.asStr? ""
  return { identityId, displayName, createdAt }

def AgentVaultGrantWire.ofJson (value : Json) : Option AgentVaultGrantWire := do
  let fields ← value.record? ["vault_id", "access_level", "granted_at"]
  let vaultId ← Json.field fields "vault_id" Json.asUuid?
  let accessLevel ← Json.field fields "access_level" Json.asStr?
  let grantedAt ← Json.fieldOr fields "granted_at" Json.asStr? ""
  return { vaultId, accessLevel, grantedAt }

def AgentSummaryWire.ofJson (value : Json) : Option AgentSummaryWire := do
  let fields ← value.record? ["identity", "granted_vaults"]
  let identity ← Json.field fields "identity" AgentIdentityWire.ofJson
  let grants ← Json.field fields "granted_vaults" valuesOfJson
  let grantedVaults ← grants.mapM AgentVaultGrantWire.ofJson
  return { identity, grantedVaults }

section Listing

variable (parse : UrlParser) (P : Parsers)

def parseTimestamp (what text : String) : ResolverResult String :=
  orMalformed what ((some text).filter fun text => P.timestamp (utf8 text))

def AgentInfo.tryFrom (wire : AgentSummaryWire) : ResolverResult AgentInfo := do
  let createdAt ← parseTimestamp P "agent created_at" wire.identity.createdAt
  let grantedVaults ← wire.grantedVaults.mapM fun g => do
    let grantedAt ← parseTimestamp P "grant granted_at" g.grantedAt
    return (⟨g.vaultId, g.accessLevel, grantedAt⟩ : AgentVaultGrantInfo)
  return { identityId := wire.identity.identityId, displayName := wire.identity.displayName,
           createdAt, grantedVaults }

def listAgents (baseUrl bearer : String) : GatewayClient (List AgentInfo) := do
  let bu := trimEndSlashes baseUrl
  let v ← gatewayGet parse P bu bearer "/identities/agents"
  let wire ← .ofExcept
    (orMalformed "agent list" ((valuesOfJson v).bind fun elems => elems.mapM AgentSummaryWire.ofJson))
  .ofExcept (wire.mapM (AgentInfo.tryFrom P))

end Listing

/-! ## Posted rows -/

variable {Timestamp : Type}

/-- A membership as it is posted, in the name of the granter. -/
structure MembershipRow where
  granter : Uuid
  vaultId : Uuid
  identityId : Uuid
  accessLevel : String
  wrappedVaultKey : Bytes
  grantedSignature : Bytes

/-- What happens around the memberships: a holder of a key grants one or signs a statement of another
    kind, or somebody posts a row. -/
inductive MembershipEvent (Timestamp : Type) where
  | sign (privateKey : IdentitySigningPrivateKey) (input : SignedInput Timestamp)
      (other : input.kind ≠ .membershipGrant)
  | grant (made : MembershipGrant)
  | post (row : MembershipRow)

section Rows

variable (S : SignatureScheme) (B : SealedBox)
  (signingPublic : Uuid → Option IdentitySigningPublicKey)

/-- The statement that the signature of a row is about. -/
def MembershipRow.statement? (row : MembershipRow) : Option (SignedInput Timestamp) :=
  (accessLevelByte row.accessLevel).map fun accessByte =>
    .membershipGrant row.vaultId row.identityId accessByte row.wrappedVaultKey

def MembershipGrant.statement? (grant : MembershipGrant) : Option (SignedInput Timestamp) :=
  (accessLevelByte grant.accessLevel).map fun accessByte =>
    .membershipGrant grant.vaultId grant.agentIdentityId accessByte (grant.wrapped B)

/-- The row is signed with the key that is registered for its granter. -/
def MembershipRow.Verifies (row : MembershipRow) : Prop :=
  ∃ publicKey accessByte, signingPublic row.granter = some publicKey ∧
    accessLevelByte row.accessLevel = some accessByte ∧
    verifyMembershipGrant S publicKey row.vaultId row.identityId accessByte row.wrappedVaultKey
      row.grantedSignature = .ok ()

/-- The row was posted with a signature that verifies. -/
def VerifiedRow (history : List (MembershipEvent Timestamp)) (row : MembershipRow) : Prop :=
  .post row ∈ history ∧ row.Verifies S signingPublic

/-- What the events sign, and what they show under the key that is registered for the granter. -/
def MembershipEvent.view : StatementView (MembershipEvent Timestamp) Timestamp where
  signs
    | sign privateKey input _ => some (privateKey, input)
    | grant made => (made.statement? B).map fun input => (made.granterSigningPrivate, input)
    | post _ => none
  shows
    | post row => do
        let publicKey ← signingPublic row.granter
        let input ← row.statement?
        return (publicKey, input, row.grantedSignature)
    | _ => none

/-- The row holds what the holder of the key has granted. -/
structure MembershipGrant.Made (grant : MembershipGrant) (publicOf : FixedBytes 32 → FixedBytes 32)
    (publicKey : IdentitySigningPublicKey) (row : MembershipRow) : Prop where
  granter : publicOf grant.granterSigningPrivate.asBytes = publicKey.asBytes
  vaultId : grant.vaultId = row.vaultId
  agentIdentityId : grant.agentIdentityId = row.identityId
  accessLevel : grant.accessLevel = row.accessLevel
  wrapped : grant.wrapped B = row.wrappedVaultKey

end Rows

section Granted

variable {S : SignatureScheme} {B : SealedBox}
  {signingPublic : Uuid → Option IdentitySigningPublicKey}
  {publicOf : FixedBytes 32 → FixedBytes 32} {honest : Set (FixedBytes 32)} {unstable : Sorter}
  {timestampText : Timestamp → String}

theorem accessLevelByte_eq_some {accessLevel : String} {accessByte : UInt8} :
    accessLevelByte accessLevel = some accessByte ↔
      accessLevel = "read" ∧ accessByte = 1 ∨ accessLevel = "write" ∧ accessByte = 2 ∨
        accessLevel = "admin" ∧ accessByte = 3 := by
  unfold accessLevelByte
  split_ifs with hread hwrite hadmin <;> simp [*, eq_comm]

/-- A grant for one level is no grant for another. -/
theorem accessLevelByte_inj {a b : String} {accessByte : UInt8}
    (ha : accessLevelByte a = some accessByte) (hb : accessLevelByte b = some accessByte) : a = b := by
  rw [accessLevelByte_eq_some] at ha hb
  rcases ha with ⟨rfl, rfl⟩ | ⟨rfl, rfl⟩ | ⟨rfl, rfl⟩ <;>
    rcases hb with ⟨rfl, hbyte⟩ | ⟨rfl, hbyte⟩ | ⟨rfl, hbyte⟩ <;>
    first
      | rfl
      | exact absurd hbyte (by decide)

/-- **A membership is attributable.** In a history without forgeries a verified row of an honest
    granter holds what the granter has granted. -/
theorem VerifiedRow.made (hinj : Function.Injective timestampText)
    (hnl : ∀ t, '\n' ∉ (timestampText t).toList) {events : List (MembershipEvent Timestamp)}
    (hevents : S.Unforgeable honest
      ((MembershipEvent.view B signingPublic).messages timestampText unstable publicOf) events)
    {row : MembershipRow} (hrow : VerifiedRow S signingPublic events row)
    {publicKey : IdentitySigningPublicKey} (hkey : signingPublic row.granter = some publicKey)
    (hhonest : publicKey.asBytes ∈ honest) :
    ∃ grant, .grant grant ∈ events ∧ grant.Made B publicOf publicKey row := by
  obtain ⟨hposted, publicKey', accessByte, hkey', hbyte, hverify⟩ := hrow
  cases hkey.symm.trans hkey'
  obtain ⟨newer, past, rfl⟩ := List.append_of_mem hposted
  have hpast : .post row :: past <:+ newer ++ .post row :: past := List.suffix_append _ _
  have hshows : (MembershipEvent.view B signingPublic).shows (.post row) = some (publicKey,
      (.membershipGrant row.vaultId row.identityId accessByte row.wrappedVaultKey :
        SignedInput Timestamp), row.grantedSignature) := by
    simp only [MembershipEvent.view, MembershipRow.statement?, hkey, hbyte, Option.map_some,
      Option.bind_eq_bind, Option.bind_some, Option.pure_def]
  obtain ⟨signing, hmem, privateKey, signed, hsigned, hpublic, hsays⟩ :=
    StatementView.signed_before hinj hnl hevents hpast hshows hhonest hverify
  obtain rfl := hsays.eq (by simp [SignedInput.kind])
  have hevent : signing ∈ newer ++ .post row :: past := hpast.mem (List.mem_cons_of_mem _ hmem)
  cases signing with
  | sign privateKey' input other =>
      cases hsigned
      exact absurd rfl other
  | post row' => exact absurd hsigned (by simp [MembershipEvent.view])
  | grant made =>
      simp only [MembershipEvent.view, MembershipGrant.statement?, Option.map_map,
        Option.map_eq_some_iff, Function.comp_apply, Prod.mk.injEq,
        SignedInput.membershipGrant.injEq] at hsigned
      obtain ⟨accessByte', hbyte', rfl, hvault, hagent, rfl, hwrapped⟩ := hsigned
      exact ⟨made, hevent, hpublic, hvault, hagent, accessLevelByte_inj hbyte' hbyte, hwrapped⟩

end Granted

/-! ## The agent's listing -/

def VaultAccessLevel.text : VaultAccessLevel → String
  | read => "read"
  | write => "write"
  | admin => "admin"

/-- The reply shows the caller wraps and levels of the rows. -/
structure ShowsMemberships (rows : MembershipRow → Prop) (caller : Uuid) (sync : SyncResponse) :
    Prop where
  wraps : ∀ record ∈ sync.vaults, ∀ wrapped, record.wrappedVaultKey = some wrapped →
    ∃ row, rows row ∧ row.vaultId = record.vaultId ∧ row.identityId = caller ∧
      wrapped = Base64.encode row.wrappedVaultKey
  levels : ∀ shown ∈ sync.memberships, shown.revokedAt = none →
    ∃ row, rows row ∧ row.vaultId = shown.vaultId ∧ row.identityId = shown.identityId ∧
      row.accessLevel = shown.accessLevel.text

/-- What an agent relies on. What the service shows it are wraps and levels of rows that were posted
    with a signature that verifies, be they revoked since; and what has happened stays in the
    history. -/
structure ServesSync (S : SignatureScheme) (signingPublic : Uuid → Option IdentitySigningPublicKey)
    (P : Parsers) (caller : Uuid)
    (handle : List (MembershipEvent Timestamp) → SyncCall → HttpReply →
      List (MembershipEvent Timestamp) → Prop) : Prop where
  grows : ∀ {history call rep history'}, handle history call rep history' → history <:+ history'
  shows : ∀ {history call rep history'}, handle history call rep history' →
    ∀ payload sync, readReply P maxGatewayBody rep = .ok payload →
      SyncResponse.ofJson P payload = some sync →
      ShowsMemberships (VerifiedRow S signingPublic history) caller sync

/-- Everybody who has signed rows of the agent into the vault is an honest granter. -/
def GrantersHonest (S : SignatureScheme) (signingPublic : Uuid → Option IdentitySigningPublicKey)
    (honest : Set (FixedBytes 32)) (vaultId agent : Uuid)
    (history : List (MembershipEvent Timestamp)) : Prop :=
  ∀ row, VerifiedRow S signingPublic history row → row.vaultId = vaultId → row.identityId = agent →
    ∃ publicKey, signingPublic row.granter = some publicKey ∧ publicKey.asBytes ∈ honest

/-- The granter has granted the agent the vault, at the level. -/
def GrantedTo (signingPublic : Uuid → Option IdentitySigningPublicKey)
    (publicOf : FixedBytes 32 → FixedBytes 32) (history : List (MembershipEvent Timestamp))
    (vaultId agent : Uuid) (grant : MembershipGrant) : Prop :=
  .grant grant ∈ history ∧ grant.vaultId = vaultId ∧ grant.agentIdentityId = agent ∧
    ∃ granter publicKey, signingPublic granter = some publicKey ∧
      publicOf grant.granterSigningPrivate.asBytes = publicKey.asBytes

section Listing

variable {A : Aead} {B : SealedBox} {K : Argon2} {X : IdentityCurves} {P : Parsers}
  {S : SignatureScheme} {signingPublic : Uuid → Option IdentitySigningPublicKey}
  {publicOf : FixedBytes 32 → FixedBytes 32}
  {honest : Set (FixedBytes 32)} {unstable : Sorter} {timestampText : Timestamp → String}
  {history history' : List (MembershipEvent Timestamp)} {agent : Uuid}
  {kem : IdentityKemPrivateKey}
  {handle : List (MembershipEvent Timestamp) → SyncCall → HttpReply →
    List (MembershipEvent Timestamp) → Prop}

/-- A listing is made from rows that were posted before. -/
theorem listVaults_ok (hserves : ServesSync S signingPublic P agent handle)
    {keySource : VaultKeySource} (hkem : keySource.kemPrivate A K X = .ok kem)
    {es : List (Event (List (MembershipEvent Timestamp)) SyncCall HttpReply)}
    {vaults : List DecryptedVault}
    (hexec : Exec handle Grows (listVaults A B K X P keySource agent) history es (.ok vaults)
      history') :
    ∃ sync, ShowsMemberships (VerifiedRow S signingPublic history') agent sync ∧
      openVaults A B kem agent sync = .ok vaults := by
  obtain ⟨kem', hkem', hexec⟩ := Exec.ofExcept_bind_ok hexec
  cases hkem.symm.trans hkem'
  obtain ⟨pre, before, rep, after, post, value, -, -, hserved, hread, hexec⟩ :=
    Exec.ask_bind_ok hexec
  obtain ⟨sync, hsync, hexec⟩ := Exec.ofExcept_bind_ok hexec
  obtain ⟨hvaults, hrest⟩ := Exec.done_inv hexec
  have hshows := hserves.shows hserved value sync hread (orMalformed_eq_ok.mp hsync)
  have hlater : before <:+ history' := (hserves.grows hserved).trans hrest.suffix
  have hverified : ∀ row, VerifiedRow S signingPublic before row →
      VerifiedRow S signingPublic history' row :=
    fun row hrow => ⟨hlater.mem hrow.1, hrow.2⟩
  refine ⟨sync, ⟨?_, ?_⟩, hvaults.symm⟩
  · intro record hrecord wrapped hwrapped
    obtain ⟨row, hrow, hrest⟩ := hshows.wraps record hrecord wrapped hwrapped
    exact ⟨row, hverified row hrow, hrest⟩
  · intro shown hshown hrevoked
    obtain ⟨row, hrow, hrest⟩ := hshows.levels shown hshown hrevoked
    exact ⟨row, hverified row hrow, hrest⟩

/-- The level of a caller is that of one of its rows. -/
theorem exists_of_callerAccess {rows : List SyncMembership} {caller vaultId : Uuid}
    {level : VaultAccessLevel} (h : callerAccess rows caller vaultId = some level) :
    ∃ shown ∈ rows, shown.identityId = caller ∧ shown.vaultId = vaultId ∧ shown.revokedAt = none ∧
      shown.accessLevel = level := by
  have hmem := List.min?_mem h
  simp only [List.mem_map, List.mem_filter, Bool.and_eq_true, beq_iff_eq,
    Option.isNone_iff_eq_none] at hmem
  obtain ⟨shown, ⟨hshown, ⟨hidentity, hvault⟩, hrevoked⟩, hlevel⟩ := hmem
  exact ⟨shown, hshown, hidentity, hvault, hrevoked, hlevel⟩

/-- A verified row of an honest granter was granted, with the key that its wrap opens to. -/
theorem VerifiedRow.granted (hinj : Function.Injective timestampText)
    (hnl : ∀ t, '\n' ∉ (timestampText t).toList)
    (hevents : S.Unforgeable honest
      ((MembershipEvent.view B signingPublic).messages timestampText unstable publicOf) history)
    {vaultId : Uuid} (hhonest : GrantersHonest S signingPublic honest vaultId agent history)
    {row : MembershipRow} (hrow : VerifiedRow S signingPublic history row)
    (hvault : row.vaultId = vaultId) (hagent : row.identityId = agent) :
    ∃ grant, GrantedTo signingPublic publicOf history vaultId agent grant ∧
      grant.accessLevel = row.accessLevel ∧ grant.wrapped B = row.wrappedVaultKey := by
  obtain ⟨publicKey, hkey, hmem⟩ := hhonest row hrow hvault hagent
  obtain ⟨grant, hgrant, hmade⟩ := hrow.made hinj hnl hevents hkey hmem
  exact ⟨grant, ⟨hgrant, hmade.vaultId.trans hvault, hmade.agentIdentityId.trans hagent,
    row.granter, publicKey, hkey, hmade.granter⟩, hmade.accessLevel, hmade.wrapped⟩

/-- **An agent lists what it was granted**, if the service shows it nothing but wraps and levels of
    rows that were posted with a signature that verifies. In every interleaving and every history
    without forgeries: a vault that the agent lists, and into which only honest granters have signed
    rows of the agent, was granted to the agent with the listed key, wrapped for the agent's own KEM
    key, and the level that the listing reports was granted as well. -/
theorem agent_lists_granted_vaults (hB : B.Ideal) (hinj : Function.Injective timestampText)
    (hnl : ∀ t, '\n' ∉ (timestampText t).toList)
    (hserves : ServesSync S signingPublic P agent handle)
    {es : List (Event (List (MembershipEvent Timestamp)) SyncCall HttpReply)}
    {vaults : List DecryptedVault}
    (hexec : Exec handle Grows (listVaults A B K X P (.agentKey kem) agent) history es (.ok vaults)
      history')
    (hevents : S.Unforgeable honest
      ((MembershipEvent.view B signingPublic).messages timestampText unstable publicOf) history')
    {vault : DecryptedVault} (hvault : vault ∈ vaults)
    (hhonest : GrantersHonest S signingPublic honest vault.vaultId agent history') :
    (∃ grant, GrantedTo signingPublic publicOf history' vault.vaultId agent grant ∧
      grant.vaultKey = vault.key ∧ grant.agentKemPublic = ⟨B.publicOf kem.asBytes⟩) ∧
    ∀ level, vault.access = some level →
      ∃ grant, GrantedTo signingPublic publicOf history' vault.vaultId agent grant ∧
        grant.accessLevel = level.text := by
  obtain ⟨sync, hshows, hopen⟩ := listVaults_ok hserves rfl hexec
  obtain ⟨record, hrecord, hopened⟩ := (Except.mapM_eq_ok.mp hopen).exists_of_mem_right hvault
  simp only [Except.bind_eq_ok, Except.pure_eq_ok] at hopened
  obtain ⟨opened, hdecrypt, rfl⟩ := hopened
  obtain ⟨key, nameCt, ⟨wrapped, bytes, hwrapped, hbytes, hkey, -⟩, rfl⟩ :=
    decryptVaultRecord_eq_ok.mp hdecrypt
  dsimp only [VaultRecord.listed] at hhonest ⊢
  constructor
  · obtain ⟨row, hrow, hrowVault, hrowAgent, rfl⟩ :=
      hshows.wraps record (List.mem_of_mem_filter hrecord) wrapped hwrapped
    rw [Base64.decode_encode] at hbytes
    cases hbytes
    obtain ⟨grant, hgrant, -, hwrap⟩ :=
      hrow.granted hinj hnl hevents hhonest hrowVault hrowAgent
    rw [← hwrap, unwrapVaultKey_eq_ok] at hkey
    obtain ⟨hrecipient, hplain⟩ := kemUnseal_kemSeal_ok hB hkey
    refine ⟨grant, hgrant, ?_, hrecipient⟩
    exact congrArg SymmetricKey.mk (FixedBytes.toBytes_injective hplain.symm)
  · intro level hlevel
    obtain ⟨shown, hshown, hcaller, hshownVault, hrevoked, rfl⟩ := exists_of_callerAccess hlevel
    obtain ⟨row, hrow, hrowVault, hrowAgent, htext⟩ := hshows.levels shown hshown hrevoked
    obtain ⟨grant, hgrant, hgrantLevel, -⟩ := hrow.granted hinj hnl hevents hhonest
      (hrowVault.trans hshownVault) (hrowAgent.trans hcaller)
    exact ⟨grant, hgrant, hgrantLevel.trans htext⟩

end Listing

/-! ## What the owner sends -/

/-- The request grants the membership: its path names the vault, and its body the agent, the level,
    the wrap and the signature. -/
structure PostsGrant (S : SignatureScheme) (B : SealedBox) (grant : MembershipGrant)
    (accessByte : UInt8) (req : GatewayRequest) : Prop where
  method : req.method = .post
  path : req.path = membershipsPath grant.vaultId
  body : ∃ body, req.body = some body ∧
    body.get? "identity_id" = some (.uuid grant.agentIdentityId) ∧
    body.get? "wrapped_vault_key" = some (.base64 (grant.wrapped B)) ∧
    body.get? "access_level" = some (.str grant.accessLevel) ∧
    body.get? "granted_signature" = some (.base64 (grant.signature S B accessByte))

/-- The request takes the identity out of the vault. -/
structure Revokes (vaultId identityId : Uuid) (req : GatewayRequest) : Prop where
  method : req.method = .delete
  path : req.path = membershipsPath vaultId ++ "/" ++ identityId.toText

/-- The request creates the agent: its body has the fields of the request that the signature is
    about. -/
structure PostsAgent (creation : AgentCreation) (signature : Bytes) (req : GatewayRequest) :
    Prop where
  method : req.method = .post
  path : req.path = "/identities/agents"
  body : ∃ body, req.body = some body ∧
    body.get? "display_name" = some (.str creation.displayName) ∧
    body.get? "kem_public_key" = some (.base64 creation.agentKemPublic.asBytes.toBytes) ∧
    body.get? "signing_public_key" = some (.base64 creation.agentSigningPublic.asBytes.toBytes) ∧
    body.get? "key_provenance" = some creation.keyProvenance ∧
    body.get? "issued_at" = some (.int creation.issuedAt.toInt) ∧
    body.get? "nonce" = some (.str creation.nonce.toText) ∧
    body.get? "signature" = some (.base64 signature)

section Requests

variable {S : SignatureScheme} {B : SealedBox} {parse : UrlParser} {P : Parsers}
  {publicOf : FixedBytes 32 → FixedBytes 32} {baseUrl bearer : String}

theorem membershipsPath_inj {v v' : Uuid} (h : membershipsPath v = membershipsPath v') : v = v' := by
  simp only [membershipsPath, String.append_left_inj, String.append_right_inj] at h
  exact Uuid.toText_injective h

/-- A request grants one membership. -/
theorem PostsGrant.unique {req : GatewayRequest} {grant grant' : MembershipGrant}
    {accessByte accessByte' : UInt8} (h : PostsGrant S B grant accessByte req)
    (h' : PostsGrant S B grant' accessByte' req) :
    grant.vaultId = grant'.vaultId ∧ grant.agentIdentityId = grant'.agentIdentityId ∧
      grant.accessLevel = grant'.accessLevel ∧ grant.wrapped B = grant'.wrapped B := by
  obtain ⟨-, hpath, body, hbody, hidentity, hwrapped, hlevel, -⟩ := h
  obtain ⟨-, hpath', body', hbody', hidentity', hwrapped', hlevel', -⟩ := h'
  cases hbody.symm.trans hbody'
  refine ⟨membershipsPath_inj (hpath.symm.trans hpath'), ?_, ?_, ?_⟩
  · exact Json.uuid_inj.mp (Option.some.inj (hidentity.symm.trans hidentity'))
  · exact Json.str.inj (Option.some.inj (hlevel.symm.trans hlevel'))
  · exact Json.base64_inj.mp (Option.some.inj (hwrapped.symm.trans hwrapped'))

/-- A request revokes one membership. -/
theorem Revokes.unique {req : GatewayRequest} {v v' i i' : Uuid} (h : Revokes v i req)
    (h' : Revokes v' i' req) : v = v' ∧ i = i' := by
  have hpath := h.path.symm.trans h'.path
  simp only [membershipsPath, ← String.toList_inj, String.toList_append, List.append_assoc,
    Uuid.toText, String.toList_ofList, List.append_cancel_left_eq] at hpath
  obtain ⟨hvault, hrest⟩ := List.append_inj hpath
    (by rw [Uuid.length_textChars, Uuid.length_textChars])
  simp only [List.append_cancel_left_eq] at hrest
  exact ⟨Uuid.toText_injective (congrArg String.ofList hvault),
    Uuid.toText_injective (congrArg String.ofList hrest)⟩

/-- The signature of a grant verifies for what is granted. -/
theorem MembershipGrant.verify_signature (hS : S.Correct publicOf) (grant : MembershipGrant)
    (accessByte : UInt8) :
    verifyMembershipGrant S ⟨publicOf grant.granterSigningPrivate.asBytes⟩ grant.vaultId
      grant.agentIdentityId accessByte (grant.wrapped B) (grant.signature S B accessByte) = .ok () :=
  Signing.verify_sign hS _ _

/-- The wrap of a grant opens under the agent's key. -/
theorem MembershipGrant.unwrap_wrapped (hB : B.Correct) {grant : MembershipGrant}
    {kem : IdentityKemPrivateKey} (hkem : grant.agentKemPublic = ⟨B.publicOf kem.asBytes⟩) :
    unwrapVaultKey B kem (grant.wrapped B) = .ok grant.vaultKey := by
  rw [unwrapVaultKey_eq_ok, MembershipGrant.wrapped, hkem]
  exact kemUnseal_kemSeal hB kem _ _

section Executions

variable {σ : Type} {handle : σ → GatewayRequest → HttpReply → σ → Prop} {foreign : σ → σ → Prop}
  {s t : σ} {es : List (Event σ GatewayRequest HttpReply)}

/-- What a grant sends: nothing for an unknown level, and else at most one request. -/
theorem grantMembership_sends {grant : MembershipGrant} {result : ResolverResult Unit}
    (hexec : Exec handle foreign (grantMembership S B parse P baseUrl bearer grant) s es result t) :
    match accessLevelByte grant.accessLevel with
    | none => result = .error (.invalidInput "access_level must be read, write, or admin") ∧
        exchanges es = []
    | some accessByte => AsksOnce parse (trimEndSlashes baseUrl) (PostsGrant S B grant accessByte)
        (fun rep => readGatewayReply P rep >>= fun _ => .ok ()) (exchanges es) result := by
  rw [grantMembership] at hexec
  split
  · rename_i hbyte
    rw [hbyte] at hexec
    obtain ⟨hresult, hforeign⟩ := Exec.done_inv hexec
    exact ⟨hresult, hforeign.exchanges_eq⟩
  · rename_i accessByte hbyte
    rw [hbyte] at hexec
    exact asksOnce_gatewayCall hexec ⟨rfl, rfl, _, rfl, rfl, rfl, rfl, rfl⟩

/-- **What the owner's calls say to any service.** In every execution, against any service and in any
    interleaving: a grant of an unknown level fails before anything is sent; every other grant sends
    one request, or none to an endpoint that is refused. The request names the vault, the agent and
    the level; its signature verifies for them and for the wrap, which opens under the agent's key to
    the vault key, and no request grants two memberships. A revocation sends one request, which names
    one membership; and the creation of an agent one, with a signature of the owner under its fields.
    Each of them succeeds only with a payload of the service. -/
theorem membership_requests (hS : S.Correct publicOf) (hB : B.Correct) :
    (∀ grant result,
      Exec handle foreign (grantMembership S B parse P baseUrl bearer grant) s es result t →
      (accessLevelByte grant.accessLevel = none →
        result = .error (.invalidInput "access_level must be read, write, or admin") ∧
          exchanges es = []) ∧
      ∀ accessByte, accessLevelByte grant.accessLevel = some accessByte →
        AsksOnce parse (trimEndSlashes baseUrl) (PostsGrant S B grant accessByte)
          (fun rep => readGatewayReply P rep >>= fun _ => .ok ()) (exchanges es) result ∧
        verifyMembershipGrant S ⟨publicOf grant.granterSigningPrivate.asBytes⟩ grant.vaultId
          grant.agentIdentityId accessByte (grant.wrapped B) (grant.signature S B accessByte)
          = .ok () ∧
        ∀ kem : IdentityKemPrivateKey, grant.agentKemPublic = ⟨B.publicOf kem.asBytes⟩ →
          unwrapVaultKey B kem (grant.wrapped B) = .ok grant.vaultKey) ∧
    (∀ req grant grant' accessByte accessByte', PostsGrant S B grant accessByte req →
      PostsGrant S B grant' accessByte' req →
      grant.vaultId = grant'.vaultId ∧ grant.agentIdentityId = grant'.agentIdentityId ∧
        grant.accessLevel = grant'.accessLevel ∧
        ∀ kem : IdentityKemPrivateKey, grant.agentKemPublic = ⟨B.publicOf kem.asBytes⟩ →
          grant'.agentKemPublic = ⟨B.publicOf kem.asBytes⟩ → grant.vaultKey = grant'.vaultKey) ∧
    (∀ vaultId identityId result,
      Exec handle foreign (revokeMembership parse P baseUrl bearer vaultId identityId) s es result t →
      AsksOnce parse (trimEndSlashes baseUrl) (Revokes vaultId identityId)
        (fun rep => readGatewayReply P rep >>= fun _ => .ok ()) (exchanges es) result ∧
      ∀ req vaultId' identityId', Revokes vaultId identityId req → Revokes vaultId' identityId' req →
        vaultId = vaultId' ∧ identityId = identityId') ∧
    ∀ creation result,
      Exec handle foreign (createAgentIdentity S parse P baseUrl bearer creation) s es result t →
      ∃ signature, Signing.verify S ⟨publicOf creation.ownerSigningPrivate.asBytes⟩
          (canonicalCreateAgentBytes creation.request) signature = .ok () ∧
        AsksOnce parse (trimEndSlashes baseUrl) (PostsAgent creation signature)
          (fun rep => readGatewayReply P rep >>= fun v =>
            orMalformed "identity_id in create-agent response"
              ((v.get? "identity_id").bind Json.asUuid?)) (exchanges es) result := by
  refine ⟨?_, ?_, ?_, ?_⟩
  · intro grant result hexec
    have hsends := grantMembership_sends hexec
    refine ⟨?_, ?_⟩
    · intro hbyte
      rwa [hbyte] at hsends
    · intro accessByte hbyte
      rw [hbyte] at hsends
      exact ⟨hsends, grant.verify_signature hS accessByte,
        fun kem hkem => grant.unwrap_wrapped hB hkem⟩
  · intro req grant grant' accessByte accessByte' h h'
    obtain ⟨hvault, hagent, hlevel, hwrapped⟩ := h.unique h'
    refine ⟨hvault, hagent, hlevel, ?_⟩
    intro kem hkem hkem'
    have hopens := grant.unwrap_wrapped hB hkem
    rw [hwrapped, grant'.unwrap_wrapped hB hkem'] at hopens
    exact (Except.ok.inj hopens).symm
  · intro vaultId identityId result hexec
    exact ⟨asksOnce_gatewayCall hexec ⟨rfl, rfl⟩, fun req v i h h' => h.unique h'⟩
  · intro creation result hexec
    exact ⟨_, Signing.verify_sign hS _ _,
      asksOnce_gatewayCall hexec ⟨rfl, rfl, _, rfl, rfl, rfl, rfl, rfl, rfl, rfl, rfl⟩⟩

end Executions

end Requests

/-! ## A grant -/

def exampleGrant : MembershipGrant where
  granterSigningPrivate := ⟨.replicate 32 7⟩
  vaultId := .replicate 16 2
  agentIdentityId := .replicate 16 9
  vaultKey := ⟨.replicate 32 3⟩
  agentKemPublic := ⟨.replicate 32 5⟩
  accessLevel := "write"
  ephemeral := .replicate 32 4

/-- One granter is registered. -/
def exampleGranters (identity : Uuid) : Option IdentitySigningPublicKey :=
  if identity = .replicate 16 1 then some ⟨.replicate 32 7⟩ else none

/-- The row that the grant posts. -/
def exampleGrantRow : MembershipRow where
  granter := .replicate 16 1
  vaultId := exampleGrant.vaultId
  identityId := exampleGrant.agentIdentityId
  accessLevel := exampleGrant.accessLevel
  wrappedVaultKey := exampleGrant.wrapped .transparent
  grantedSignature := exampleGrant.signature .checksum .transparent 2

def exampleGrantHistory : List (MembershipEvent (Fin 10)) :=
  [.post exampleGrantRow, .grant exampleGrant]

theorem verified_exampleGrantRow :
    VerifiedRow .checksum exampleGranters exampleGrantHistory exampleGrantRow :=
  ⟨List.mem_cons_self, ⟨.replicate 32 7⟩, 2, rfl, rfl,
    exampleGrant.verify_signature SignatureScheme.checksum_correct 2⟩

theorem unforgeable_exampleGrantHistory :
    SignatureScheme.checksum.Unforgeable {.replicate 32 7}
      ((MembershipEvent.view .transparent exampleGranters).messages epochSecondText .stable
        id) exampleGrantHistory := by
  refine ⟨⟨trivial, nofun⟩, ?_⟩
  intro publicKey message signature hshows _ _
  have hview : (MembershipEvent.view .transparent exampleGranters).shows
      (.post exampleGrantRow) = some (⟨.replicate 32 7⟩,
        (.membershipGrant (.replicate 16 2) (.replicate 16 9) 2 (exampleGrant.wrapped .transparent) :
          SignedInput (Fin 10)), exampleGrantRow.grantedSignature) := rfl
  simp only [StatementView.messages, hview, Option.bind_eq_bind, Option.bind_eq_some_iff,
    Option.some.injEq, Option.pure_def, Except.toOption_eq_some, Prod.mk.injEq] at hshows
  obtain ⟨_, rfl, bytes, hbytes, _, -, rfl, rfl, -⟩ := hshows
  obtain rfl := Except.ok.inj hbytes
  exact ⟨_, List.mem_cons_self, rfl⟩

def exampleSyncJson : Json :=
  .obj
    [("item_overviews", .arr []),
      ("memberships", .arr [.obj
        [("access_level", .str "write"), ("identity_id", .uuid (.replicate 16 9)),
          ("revoked_at", .null), ("vault_id", .uuid (.replicate 16 2))]]),
      ("vaults", .arr [.obj
        [("name_ciphertext", .base64 (encryptVaultName .transparent ⟨.replicate 32 3⟩
            (FixedBytes.replicate 16 2).toBytes (.replicate 24 0) "Team")),
          ("vault_id", .uuid (.replicate 16 2)),
          ("wrapped_vault_key", .base64 (exampleGrant.wrapped .transparent))]])]

theorem bare_exampleSyncJson : Bare exampleSyncJson := by
  simp [Bare, exampleSyncJson, Json.get?]

theorem readReply_exampleSyncJson :
    readReply .compact maxGatewayBody (directReply exampleSyncJson) = .ok exampleSyncJson := by
  apply readReply_directReply bare_exampleSyncJson
  simp only [exampleSyncJson, Json.uuid, Json.base64, Json.write, Json.writeElems,
    Json.writeMembers, writeString, Base64.utf8_encode]
  decide +kernel

/-- The vault of the sync, as it is read. -/
def exampleVaultRecord : VaultRecord where
  vaultId := .replicate 16 2
  nameCiphertext := Base64.encode (encryptVaultName .transparent ⟨.replicate 32 3⟩
    (FixedBytes.replicate 16 2).toBytes (.replicate 24 0) "Team")
  descriptionCiphertext := none
  vaultKeyVersion := none
  wrappedVaultKey := some (Base64.encode exampleGrantRow.wrappedVaultKey)
  requiresApproval := .null
  createdAt := ""
  updatedAt := ""

def exampleSync : SyncResponse where
  vaults := [exampleVaultRecord]
  itemOverviews := []
  identities := []
  memberships := [⟨.replicate 16 2, .replicate 16 9, .write, none⟩]
  serverTime := ""

theorem exampleSync_ofJson : SyncResponse.ofJson .compact exampleSyncJson = some exampleSync := rfl

theorem showsMemberships_exampleSync :
    ShowsMemberships (VerifiedRow .checksum exampleGranters exampleGrantHistory)
      (.replicate 16 9) exampleSync := by
  constructor
  · intro record hrecord wrapped hwrapped
    obtain rfl : record = exampleVaultRecord := List.mem_singleton.mp hrecord
    exact ⟨exampleGrantRow, verified_exampleGrantRow, rfl, rfl, (Option.some.inj hwrapped).symm⟩
  · intro shown hshown _
    obtain rfl : shown = ⟨.replicate 16 2, .replicate 16 9, .write, none⟩ :=
      List.mem_singleton.mp hshown
    exact ⟨exampleGrantRow, verified_exampleGrantRow, rfl, rfl, rfl⟩

/-- The service that shows the row once it was posted. -/
def exampleSyncService (history : List (MembershipEvent (Fin 10))) (_ : SyncCall) (rep : HttpReply)
    (history' : List (MembershipEvent (Fin 10))) : Prop :=
  history' = history ∧ history = exampleGrantHistory ∧ rep = directReply exampleSyncJson

theorem exampleSyncService_serves :
    ServesSync .checksum exampleGranters .compact (.replicate 16 9) exampleSyncService := by
  constructor
  · rintro history call rep history' ⟨rfl, -⟩
    exact List.suffix_refl _
  · rintro history call rep history' ⟨-, rfl, rfl⟩ payload sync hread hsync
    obtain rfl := Except.ok.inj (readReply_exampleSyncJson.symm.trans hread)
    obtain rfl : exampleSync = sync := Option.some.inj (exampleSync_ofJson.symm.trans hsync)
    exact showsMemberships_exampleSync

theorem keyed_exampleVaultRecord :
    exampleVaultRecord.Keyed .transparent ⟨.replicate 32 5⟩ ⟨.replicate 32 3⟩
      (encryptVaultName .transparent ⟨.replicate 32 3⟩ (FixedBytes.replicate 16 2).toBytes
        (.replicate 24 0) "Team") := by
  refine ⟨_, _, rfl, Base64.decode_encode _, ?_, Base64.decode_encode _⟩
  exact unwrapVaultKey_eq_ok.mpr
    (kemUnseal_kemSeal SealedBox.transparent_correct ⟨.replicate 32 5⟩ _ _)

/-- What the agent opens of the sync. -/
def exampleListed : DecryptedVault :=
  { exampleVaultRecord.listed .transparent ⟨.replicate 32 3⟩ (encryptVaultName .transparent
      ⟨.replicate 32 3⟩ (FixedBytes.replicate 16 2).toBytes (.replicate 24 0) "Team") with
    access := some .write }

theorem openVaults_exampleSync :
    openVaults .transparent .transparent ⟨.replicate 32 5⟩ (.replicate 16 9) exampleSync
      = .ok [exampleListed] := by
  have hdecrypt := decryptVaultRecord_eq_ok (A := .transparent) |>.mpr
    ⟨_, _, keyed_exampleVaultRecord, rfl⟩
  have haccess : callerAccess exampleSync.memberships (.replicate 16 9) exampleVaultRecord.vaultId
      = some .write := rfl
  have haccessible : exampleSync.accessible = [exampleVaultRecord] := rfl
  simp only [openVaults, haccessible, List.mapM_cons, List.mapM_nil, haccess]
  rw [hdecrypt]
  rfl

/-- The agent lists the vault with the key and the level that it was granted. -/
theorem agent_lists_granted_vaults_shared :
    ∃ es : List (Event (List (MembershipEvent (Fin 10))) SyncCall HttpReply),
      Exec exampleSyncService Grows
        (listVaults .transparent .transparent argon2Padding ⟨id, id⟩ .compact
          (.agentKey ⟨.replicate 32 5⟩) (.replicate 16 9))
        exampleGrantHistory es (.ok [exampleListed]) exampleGrantHistory ∧
      (∃ grant, GrantedTo exampleGranters id exampleGrantHistory (.replicate 16 2)
        (.replicate 16 9) grant ∧ grant.vaultKey = ⟨.replicate 32 3⟩) ∧
      ∃ grant, GrantedTo exampleGranters id exampleGrantHistory (.replicate 16 2)
        (.replicate 16 9) grant ∧ grant.accessLevel = "write" := by
  have hexec : ∃ es : List (Event (List (MembershipEvent (Fin 10))) SyncCall HttpReply),
      Exec exampleSyncService Grows
        (listVaults .transparent .transparent argon2Padding ⟨id, id⟩ .compact
          (.agentKey ⟨.replicate 32 5⟩) (.replicate 16 9))
        exampleGrantHistory es (.ok [exampleListed]) exampleGrantHistory :=
    ⟨_, .ofExcept_bind rfl (.ask_bind ⟨rfl, rfl, rfl⟩ readReply_exampleSyncJson
      (.ofExcept_bind (orMalformed_eq_ok.mpr exampleSync_ofJson)
        (.ofExcept openVaults_exampleSync)))⟩
  obtain ⟨es, hexec⟩ := hexec
  have hhonest : GrantersHonest .checksum exampleGranters {.replicate 32 7} exampleListed.vaultId
      (.replicate 16 9) exampleGrantHistory := by
    rintro row ⟨hrow, -⟩ _ _
    simp only [exampleGrantHistory, List.mem_cons, MembershipEvent.post.injEq, reduceCtorEq,
      List.not_mem_nil, or_false] at hrow
    obtain rfl := hrow
    exact ⟨⟨.replicate 32 7⟩, rfl, rfl⟩
  obtain ⟨⟨grant, hgrant, hkey, -⟩, hlevels⟩ :=
    agent_lists_granted_vaults SealedBox.transparent_ideal epochSecondText_injective (by decide)
      exampleSyncService_serves hexec unforgeable_exampleGrantHistory (List.mem_singleton_self _)
      hhonest
  exact ⟨es, hexec, ⟨grant, hgrant, hkey⟩, hlevels .write rfl⟩

/-- The grant is sent to a service that refuses it, and all the same the request says what was
    granted. -/
theorem membership_requests_granted :
    ∃ req : GatewayRequest,
      Exec (fun _ _ _ _ => True) (fun _ _ : Unit => False)
        (grantMembership .checksum .transparent (fun _ => some ⟨"https", none, "", none, none, none⟩)
          .compact "https://api.serendb.com" "token" exampleGrant)
        () [.served () req (directReply (.obj [])) ()] (.ok ()) () ∧
      PostsGrant .checksum .transparent exampleGrant 2 req ∧
      verifyMembershipGrant .checksum ⟨.replicate 32 7⟩ exampleGrant.vaultId
        exampleGrant.agentIdentityId 2 (exampleGrant.wrapped .transparent)
        (exampleGrant.signature .checksum .transparent 2) = .ok () ∧
      unwrapVaultKey .transparent ⟨.replicate 32 5⟩ (exampleGrant.wrapped .transparent)
        = .ok exampleGrant.vaultKey := by
  have hexec : ∃ req : GatewayRequest, Exec (fun _ _ _ _ => True) (fun _ _ : Unit => False)
      (grantMembership .checksum .transparent (fun _ => some ⟨"https", none, "", none, none, none⟩)
        .compact "https://api.serendb.com" "token" exampleGrant)
      () [.served () req (directReply (.obj [])) ()] (.ok ()) () := by
    have hread : readReply .compact maxGatewayBody (directReply (.obj [])) = .ok (.obj []) :=
      readReply_directReply ⟨rfl, rfl, rfl⟩ (by decide +kernel)
    exact ⟨_, exec_gatewayCall_bind rfl trivial hread .done⟩
  obtain ⟨req, hexec⟩ := hexec
  obtain ⟨-, hgrants⟩ := (membership_requests SignatureScheme.checksum_correct
    SealedBox.transparent_correct).1 exampleGrant _ hexec
  obtain ⟨hasks, hverify, hopens⟩ := hgrants 2 rfl
  rcases hasks with ⟨e, -, -, hnone⟩ | ⟨req', rep, hposts, hsent, -⟩
  · cases hnone
  · cases hsent
    exact ⟨req, hexec, hposts, hverify, hopens ⟨.replicate 32 5⟩ rfl⟩

end SerenSecrets
