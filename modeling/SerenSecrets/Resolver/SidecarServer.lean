import SerenSecrets.Resolver.Gateway
import SerenSecrets.Resolver.SidecarResponse

set_option autoImplicit false

/-! # The sidecar as a whole

The sidecar reads its token, its endpoint and the identities of all its deployments from the
environment, and does not start if one of them is missing or malformed. From then on it answers
requests of any local process that knows the token, for any deployment.

So the deployments share a process and a token, and what keeps them apart are their keys. Whatever
the environment is, once the sidecar has started: a request is answered only if it names the
organization and the user that the environment gives for its deployment. If the service replies with
blobs of honest clients, in whatever mix, the answer is a field of an item that was sealed for the key
of that deployment's identity (`sidecar_isolates_deployments`). -/

namespace SerenSecrets.Sidecar

/-! ## The environment -/

/-- A variable of the environment. -/
inductive EnvVar where
  | notPresent
  | notUnicode
  | text (value : String)

abbrev Env := String → EnvVar

/-- Why the sidecar does not start. What other libraries say about a text is left out. -/
inductive StartupError where
  | var
  | addr
  | json
  | failed (message : String)
  deriving DecidableEq

abbrev StartupResult (α : Type) := Except StartupError α

def minSidecarTokenLen : ℕ := 32

/-- `env::var`. -/
def EnvVar.get : EnvVar → StartupResult String
  | text value => .ok value
  | _ => .error .var

def requiredEnv (env : Env) (name : String) : StartupResult String := do
  let value ← (env name).get
  rejectIf (isBlank value = true) (.failed (name ++ " must not be empty"))
  return value

def validateSidecarToken (token : String) : StartupResult Unit :=
  rejectIf ((utf8 token).length < minSidecarTokenLen)
    (.failed "SEREN_SECRETS_SIDECAR_TOKEN must be at least 32 bytes")

/-- `str::trim`. -/
def trimText (value : String) : String :=
  String.ofList ((value.toList.dropWhile isWhitespace).rdropWhile isWhitespace)

def boolEnv (env : Env) (name : String) : StartupResult Bool :=
  match env name with
  | .notPresent => .ok false
  | .notUnicode => .error .var
  | .text value =>
      let value := toAsciiLowercase (trimText value)
      if value ∈ ["", "0", "false", "no", "off"] then .ok false
      else if value ∈ ["1", "true", "yes", "on"] then .ok true
      else .error (.failed (name ++ " must be a boolean"))

def validateSidecarBind (bind : SocketAddr) (allowRemoteBind : Bool) : StartupResult Unit :=
  rejectIf (¬ (allowRemoteBind = true ∨ bind.ip.isLoopback = true))
    (.failed ("SEREN_SECRETS_SIDECAR_BIND must be loopback unless " ++
      "SEREN_SECRETS_SIDECAR_ALLOW_REMOTE_BIND=true"))

/-- A value that is not readable as text counts as none. -/
def EnvVar.unwrapOr (default : String) : EnvVar → String
  | text value => value
  | _ => default

def parseBind (text : String) : StartupResult SocketAddr :=
  match parseSocketAddr text.toList with
  | some bind => .ok bind
  | none => .error .addr

def sidecarBindFromEnv (env : Env) : StartupResult SocketAddr := do
  let bind ← parseBind ((env "SEREN_SECRETS_SIDECAR_BIND").unwrapOr "127.0.0.1:8787")
  let allowRemoteBind ← boolEnv env "SEREN_SECRETS_SIDECAR_ALLOW_REMOTE_BIND"
  validateSidecarBind bind allowRemoteBind
  return bind

/-! ## The identities -/

structure IdentityConfig where
  deploymentId : Uuid
  organizationId : Uuid
  userId : Uuid
  identityId : Uuid
  signingPrivateKeyB64 : String
  kemPrivateKeyB64 : String

def IdentityConfig.ofJson (value : Json) : Option IdentityConfig := do
  let fields ← value.record? ["deployment_id", "organization_id", "user_id", "identity_id",
    "signing_private_key_b64", "kem_private_key_b64"]
  let deploymentId ← Json.field fields "deployment_id" Json.asUuid?
  let organizationId ← Json.field fields "organization_id" Json.asUuid?
  let userId ← Json.field fields "user_id" Json.asUuid?
  let identityId ← Json.field fields "identity_id" Json.asUuid?
  let signingPrivateKeyB64 ← Json.field fields "signing_private_key_b64" Json.asStr?
  let kemPrivateKeyB64 ← Json.field fields "kem_private_key_b64" Json.asStr?
  return { deploymentId, organizationId, userId, identityId, signingPrivateKeyB64,
           kemPrivateKeyB64 }

def configsOfJson : Json → Option (List IdentityConfig)
  | .arr elems => elems.mapM IdentityConfig.ofJson
  | _ => none

/-- The bindings of one deployment, with its resolver between calls. -/
structure Deployment where
  organizationId : Uuid
  userId : Uuid
  identityId : Uuid
  resolver : SerenSecretsResolver

/-- The resolver keeps the endpoint and the token beside the keys. -/
def newResolver (parse : UrlParser) (baseUrl : String) (callerIdentityId : Uuid)
    (signingPrivate : IdentitySigningPrivateKey) (kemPrivate : IdentityKemPrivateKey)
    (network : ResolverNetwork) : ResolverResult SerenSecretsResolver := do
  let _ ← networkClient parse baseUrl network
  return { callerIdentityId, signingPrivate, kemPrivate }

/-- A failure that names the identity. -/
def orIdentity {α : Type} (identityId : Uuid) (what : String) : Option α → StartupResult α
  | some a => .ok a
  | none => .error (.failed ("identity " ++ identityId.toText ++ ": " ++ what))

section Loading

variable (parse : UrlParser) (P : Parsers) (secretsBaseUrl : String)

def IdentityConfig.deployment (config : IdentityConfig) : StartupResult Deployment := do
  let id := config.identityId
  let signingBytes ← orIdentity id "signing_private_key_b64 must be base64"
    (Base64.decode config.signingPrivateKeyB64)
  let kemBytes ← orIdentity id "kem_private_key_b64 must be base64"
    (Base64.decode config.kemPrivateKeyB64)
  let signingPrivate ← orIdentity id
    "signing_private_key_b64 is not a valid Ed25519 private key" (FixedBytes.ofBytes? 32 signingBytes)
  let kemPrivate ← orIdentity id
    "kem_private_key_b64 is not a valid X25519 private key" (FixedBytes.ofBytes? 32 kemBytes)
  let resolver ← orIdentity id "failed to build resolver"
    (newResolver parse secretsBaseUrl id ⟨signingPrivate⟩ ⟨kemPrivate⟩ .hostEnvironment).toOption
  return { organizationId := config.organizationId, userId := config.userId, identityId := id,
           resolver }

/-- A later entry takes the place of an earlier one for the same deployment. -/
def insertDeployment (deployments : Uuid → Option Deployment) (config : IdentityConfig) :
    StartupResult (Uuid → Option Deployment) := do
  let deployment ← config.deployment parse secretsBaseUrl
  return Function.update deployments config.deploymentId (some deployment)

def loadDeployments (identitiesJson : String) : StartupResult (Uuid → Option Deployment) := do
  match (P.json (utf8 identitiesJson)).bind configsOfJson with
  | none => .error .json
  | some configs => configs.foldlM (insertDeployment parse secretsBaseUrl) fun _ => none

structure AppState where
  sidecarToken : String
  deployments : Uuid → Option Deployment

/-- What `main` does before it listens. -/
def startup (parse : UrlParser) (P : Parsers) (env : Env) :
    StartupResult (SocketAddr × AppState) := do
  let bind ← sidecarBindFromEnv env
  let sidecarToken ← requiredEnv env "SEREN_SECRETS_SIDECAR_TOKEN"
  validateSidecarToken sidecarToken
  let secretsBaseUrl ← requiredEnv env "SEREN_SECRETS_BASE_URL"
  let _secretsBearerToken ← requiredEnv env "SEREN_SECRETS_BEARER_TOKEN"
  let identitiesJson ← requiredEnv env "SEREN_SECRETS_IDENTITIES_JSON"
  let deployments ← loadDeployments parse P secretsBaseUrl identitiesJson
  return (bind, { sidecarToken, deployments })

end Loading

/-! ## Requests -/

section Requests

variable {Timestamp : Type} (A : Aead) (B : SealedBox) (codec : ContentCodec ItemContent)
  (plainText : Json → String) (sign : IdentitySigningPrivateKey → Bytes → Bytes)
  (timestampText : Timestamp → String) (P : Parsers) (W : JsonWriter)

/-- The deployment during a call. -/
def Deployment.entry (call : ResolveCall Timestamp) (deployment : Deployment) :
    DeploymentEntry where
  organizationId := deployment.organizationId
  userId := deployment.userId
  identityId := deployment.identityId
  resolver :=
    agentSecretResolver A B codec plainText sign timestampText P deployment.resolver call

/-- The answer to a request that could be read. -/
def AppState.answer (state : AppState) (call : ResolveCall Timestamp) (headers : HeaderMap)
    (body : SidecarResolveRequest) : SidecarResult GrowBuffer :=
  guard state.sidecarToken headers (resolve W (fun deploymentId => (state.deployments
    deploymentId).map (Deployment.entry A B codec plainText sign timestampText P call)) body)

end Requests

/-! ## What the sidecar starts with -/

/-- The last entry for a deployment. -/
def lastConfig (configs : List IdentityConfig) (deploymentId : Uuid) : Option IdentityConfig :=
  configs.reverse.find? fun config => config.deploymentId = deploymentId

section Started

variable {parse : UrlParser} {P : Parsers} {secretsBaseUrl : String}

@[simp] theorem orIdentity_eq_ok {α : Type} {identityId : Uuid} {what : String} {x : Option α}
    {a : α} : orIdentity identityId what x = .ok a ↔ x = some a := by
  cases x <;> simp [orIdentity]

theorem requiredEnv_eq_ok {env : Env} {name value : String} :
    requiredEnv env name = .ok value ↔ env name = .text value ∧ isBlank value = false := by
  unfold requiredEnv
  cases env name with
  | notPresent => simp [EnvVar.get, bind, Except.bind]
  | notUnicode => simp [EnvVar.get, bind, Except.bind]
  | text value' =>
      simp only [EnvVar.get, Except.bind_eq_ok, rejectIf_eq_ok, Except.pure_eq_ok, Except.ok.injEq,
        EnvVar.text.injEq, Bool.not_eq_true]
      constructor
      · rintro ⟨_, rfl, _, hblank, rfl⟩
        exact ⟨rfl, hblank⟩
      · rintro ⟨rfl, hblank⟩
        exact ⟨_, rfl, (), hblank, rfl⟩

/-- Without permission the address is a loopback address. -/
theorem sidecarBindFromEnv_ok {env : Env} {bind : SocketAddr}
    (h : sidecarBindFromEnv env = .ok bind) :
    bind.ip.isLoopback = true ∨
      boolEnv env "SEREN_SECRETS_SIDECAR_ALLOW_REMOTE_BIND" = .ok true := by
  simp only [sidecarBindFromEnv, Except.bind_eq_ok, validateSidecarBind, rejectIf_eq_ok, not_not,
    Except.pure_eq_ok] at h
  obtain ⟨_, -, allow, hallow, _, hlocal, rfl⟩ := h
  rcases hlocal with rfl | hloopback
  · exact .inr hallow
  · exact .inl hloopback

/-- A deployment has the bindings and the keys of its entry, and asks an endpoint that is HTTPS or
    local. -/
structure IdentityConfig.Gives (config : IdentityConfig) (parse : UrlParser)
    (secretsBaseUrl : String) (deployment : Deployment) : Prop where
  organizationId : deployment.organizationId = config.organizationId
  userId : deployment.userId = config.userId
  callerIdentityId : deployment.resolver.callerIdentityId = config.identityId
  signingPrivate : Base64.decode config.signingPrivateKeyB64
    = some deployment.resolver.signingPrivate.asBytes.toBytes
  kemPrivate : Base64.decode config.kemPrivateKeyB64
    = some deployment.resolver.kemPrivate.asBytes.toBytes
  endpoint : ∃ url, parse secretsBaseUrl = some url ∧ url.Protected

theorem IdentityConfig.gives_of_deployment {config : IdentityConfig} {deployment : Deployment}
    (h : config.deployment parse secretsBaseUrl = .ok deployment) :
    config.Gives parse secretsBaseUrl deployment := by
  simp only [IdentityConfig.deployment, Except.bind_eq_ok, orIdentity_eq_ok, Except.pure_eq_ok,
    FixedBytes.ofBytes?_eq_some, Except.toOption_eq_some, newResolver, networkClient] at h
  obtain ⟨signingBytes, hsigning, kemBytes, hkem, signingKey, rfl, kemKey, rfl, resolver,
    ⟨_, ⟨_, hvalid, -⟩, rfl⟩, rfl⟩ := h
  exact ⟨rfl, rfl, rfl, hsigning, hkem, validateBaseUrl_eq_ok.mp hvalid⟩

/-- The deployments are those of the last entries. -/
theorem lookup_of_foldlM {configs : List IdentityConfig}
    {start deployments : Uuid → Option Deployment}
    (h : configs.foldlM (insertDeployment parse secretsBaseUrl) start = .ok deployments)
    {deploymentId : Uuid} {deployment : Deployment}
    (hlookup : deployments deploymentId = some deployment) :
    (∃ config, lastConfig configs deploymentId = some config ∧
      config.deployment parse secretsBaseUrl = .ok deployment) ∨
    lastConfig configs deploymentId = none ∧ start deploymentId = some deployment := by
  induction configs generalizing start with
  | nil =>
      cases h
      exact .inr ⟨rfl, hlookup⟩
  | cons config rest ih =>
      rw [List.foldlM_cons, Except.bind_eq_ok] at h
      obtain ⟨next, hnext, h⟩ := h
      simp only [insertDeployment, Except.bind_eq_ok, Except.pure_eq_ok] at hnext
      obtain ⟨own, hown, rfl⟩ := hnext
      have hcons : lastConfig (config :: rest) deploymentId = (lastConfig rest deploymentId).or
          (if config.deploymentId = deploymentId then some config else none) := by
        simp only [lastConfig, List.reverse_cons, List.find?_append, List.find?_cons, List.find?_nil]
        by_cases hid : config.deploymentId = deploymentId <;> simp [hid]
      rcases ih h with ⟨last, hlast, hlastOwn⟩ | ⟨hnone, hstart⟩
      · left
        exact ⟨last, by rw [hcons, hlast, Option.some_or], hlastOwn⟩
      · rw [hcons, hnone, Option.none_or]
        by_cases hid : config.deploymentId = deploymentId
        · rw [hid, Function.update_self] at hstart
          cases hstart
          exact .inl ⟨config, if_pos hid, hown⟩
        · rw [Function.update_of_ne (Ne.symm hid)] at hstart
          exact .inr ⟨if_neg hid, hstart⟩

/-- What a sidecar has that has started. -/
structure Started (parse : UrlParser) (P : Parsers) (env : Env) (bind : SocketAddr)
    (state : AppState) : Prop where
  token : env "SEREN_SECRETS_SIDECAR_TOKEN" = .text state.sidecarToken
  token_length : minSidecarTokenLen ≤ (utf8 state.sidecarToken).length
  bind_local : bind.ip.isLoopback = true ∨
    boolEnv env "SEREN_SECRETS_SIDECAR_ALLOW_REMOTE_BIND" = .ok true
  deployments : ∃ secretsBaseUrl identitiesJson configs,
    env "SEREN_SECRETS_BASE_URL" = .text secretsBaseUrl ∧
    env "SEREN_SECRETS_IDENTITIES_JSON" = .text identitiesJson ∧
    (P.json (utf8 identitiesJson)).bind configsOfJson = some configs ∧
    ∀ deploymentId deployment, state.deployments deploymentId = some deployment →
      ∃ config, lastConfig configs deploymentId = some config ∧
        config.Gives parse secretsBaseUrl deployment

theorem started_of_startup {env : Env} {bind : SocketAddr} {state : AppState}
    (h : startup parse P env = .ok (bind, state)) : Started parse P env bind state := by
  simp only [startup, Except.bind_eq_ok, requiredEnv_eq_ok, Except.pure_eq_ok, Prod.mk.injEq,
    validateSidecarToken, rejectIf_eq_ok, Nat.not_lt] at h
  obtain ⟨_, hbind, token, ⟨htoken, -⟩, _, hlength, baseUrl, ⟨hbaseUrl, -⟩, _, -, json, ⟨hjson, -⟩,
    deployments, hload, rfl, rfl⟩ := h
  refine ⟨htoken, hlength, sidecarBindFromEnv_ok hbind, ?_⟩
  unfold loadDeployments at hload
  split at hload
  · exact absurd hload (by simp)
  · rename_i configs hconfigs
    refine ⟨baseUrl, json, configs, hbaseUrl, hjson, hconfigs, ?_⟩
    intro deploymentId deployment hdeployment
    rcases lookup_of_foldlM hload hdeployment with ⟨config, hlast, hown⟩ | ⟨-, hstart⟩
    · exact ⟨config, hlast, IdentityConfig.gives_of_deployment hown⟩
    · exact absurd hstart (by simp)

end Started

/-! ## Isolation -/

section Isolation

variable {Timestamp : Type} {A : Aead} {B : SealedBox} {codec : ContentCodec ItemContent}
  {plainText : Json → String} {sign : IdentitySigningPrivateKey → Bytes → Bytes}
  {timestampText : Timestamp → String} {parse : UrlParser} {P : Parsers} {W : JsonWriter}

/-- The context that the resolver is given. -/
def SidecarResolveRequest.context (body : SidecarResolveRequest) (identityId : Uuid) :
    ResolutionContext :=
  let ctx := ResolutionContext.forAgent identityId body.organizationId body.userId
  body.correlationId.elim ctx ctx.withCorrelationId

/-- A request is answered exactly if it is admitted and names a deployment with its organization and
    its user, whose resolver finds the secret. -/
theorem AppState.answer_eq_ok {state : AppState} {call : ResolveCall Timestamp} {headers : HeaderMap}
    {body : SidecarResolveRequest} {buf : GrowBuffer} :
    state.answer A B codec plainText sign timestampText P W call headers body = .ok buf ↔
      Admitted state.sidecarToken headers ∧
      ∃ deployment secret, state.deployments body.deploymentId = some deployment ∧
        (deployment.organizationId = body.organizationId ∧ deployment.userId = body.userId) ∧
        deployment.resolver.resolve A B codec plainText sign timestampText P call body.uri
          (body.context deployment.identityId) = .ok secret ∧
        served W secret = buf := by
  rw [answer, guard_eq_ok]
  refine and_congr_right fun _ => ?_
  simp only [Sidecar.resolve]
  cases hlookup : state.deployments body.deploymentId with
  | none => simp
  | some deployment =>
      simp only [Option.map_some, Except.bind_unit_eq_ok, rejectIf_eq_ok, not_or, ne_eq, not_not]
      simp only [Except.bind_eq_ok, Except.mapError_eq_ok, Except.pure_eq_ok, Option.some.injEq,
        Deployment.entry, agentSecretResolver, SidecarResolveRequest.context]
      constructor
      · rintro ⟨hids, secret, hsecret, rfl⟩
        exact ⟨deployment, secret, rfl, hids, hsecret, rfl⟩
      · rintro ⟨_, secret, rfl, hids, hsecret, rfl⟩
        exact ⟨hids, secret, hsecret, rfl⟩

/-- The secret is a field of a content that was sealed for the item, under keys that lead to the KEM
    key. -/
def SealedFor (B : SealedBox) (codec : ContentCodec ItemContent) (plainText : Json → String)
    (st : HonestState ItemContent) (kemPrivate : IdentityKemPrivateKey) (item : Uuid)
    (secret : ResolvedSecret) : Prop :=
  ∃ vaultKey contentKey original json content,
    (∃ ephemeral, .vaultKeyFor ⟨B.publicOf kemPrivate.asBytes⟩ vaultKey ephemeral
      ∈ st.sealed.map Prod.fst) ∧
    (∃ nonce, .slot (.item .contentKey item) vaultKey.asBytes nonce contentKey
      ∈ st.sealed.map Prod.fst) ∧
    (∃ nonce, .slot (.item .body item) contentKey.asBytes nonce original
      ∈ st.sealed.map Prod.fst) ∧
    codec.toVec original = some json ∧ codec.fromSlice json = some content ∧
    extractField plainText content secret.fieldName = .ok secret.plaintext

/-- **Deployments are kept apart.** Whatever the environment: if the sidecar has started and answers a
    request, the token is the one of the environment and at least 32 bytes long, the request is local
    and shows it, and it names the organization and the user of the last entry for its deployment. The
    answer is the field that its reference names; and where every reply of the service consists of
    blobs that honest clients have made, it is read from a content that was sealed for this item under
    keys that lead to the key of that entry. -/
theorem sidecar_isolates_deployments {env : Env} {bind : SocketAddr} {state : AppState}
    (hstart : startup parse P env = .ok (bind, state)) {call : ResolveCall Timestamp}
    {headers : HeaderMap} {body : SidecarResolveRequest} {buf : GrowBuffer}
    (hanswer : state.answer A B codec plainText sign timestampText P W call headers body = .ok buf) :
    Admitted state.sidecarToken headers ∧ Started parse P env bind state ∧
    ∃ identitiesJson configs config, env "SEREN_SECRETS_IDENTITIES_JSON" = .text identitiesJson ∧
      (P.json (utf8 identitiesJson)).bind configsOfJson = some configs ∧
      lastConfig configs body.deploymentId = some config ∧
      config.organizationId = body.organizationId ∧ config.userId = body.userId ∧
      ∃ kemPrivate secret vault item,
        Base64.decode config.kemPrivateKeyB64
          = some (IdentityKemPrivateKey.asBytes kemPrivate).toBytes ∧
        IsReference body.uri vault item secret.fieldName ∧
        buf.bytes = (SidecarResolveResponse.toJson secret).write ∧
        ∀ {st : HonestState ItemContent}, A.Ideal → B.Ideal → Honest A B codec st →
          (∀ sent payload, readResolveReply P (call.send sent) = .ok payload →
            payload.FromPool st.pool) →
          SealedFor B codec plainText st kemPrivate item secret := by
  have hstarted := started_of_startup hstart
  obtain ⟨hadmitted, deployment, secret, hdeployment, ⟨horganization, huser⟩, hsecret, rfl⟩ :=
    AppState.answer_eq_ok.mp hanswer
  obtain ⟨baseUrl, json, configs, -, hjson, hconfigs, hlookup⟩ := hstarted.deployments
  obtain ⟨config, hlast, hgives⟩ := hlookup _ _ hdeployment
  obtain ⟨vault, item, href, hsealed⟩ := resolve_sealed hsecret
  exact ⟨hadmitted, hstarted, json, configs, config, hjson, hconfigs, hlast,
    hgives.organizationId.symm.trans horganization, hgives.userId.symm.trans huser,
    deployment.resolver.kemPrivate, secret, vault, item, hgives.kemPrivate, href,
    bytes_served W secret, hsealed⟩

end Isolation

/-! ## A deployment -/

/-- Contents as JSON texts. -/
noncomputable def compactCodec : ContentCodec ItemContent where
  toVec content := some (ItemContent.codec.write content).write
  fromSlice bytes := (Parsers.compact.json bytes).bind ItemContent.codec.read

def exampleNote : ItemContent :=
  .secureNote ⟨.empty, "", [⟨"PIN", .concealed, "1234", none, none⟩], [], .null⟩

/-- The note, sealed for an identity. -/
noncomputable def exampleNoteState : HonestState ItemContent where
  keys := [(.itemContent, .replicate 32 2), (.vault, .replicate 32 1)]
  sealed :=
    [(.slot (.item .body (.replicate 16 0x99)) (.replicate 32 2) (.replicate 24 0) exampleNote,
      xchacha20EncryptWithAad .transparent (.replicate 32 2) (.replicate 24 0)
        (ItemContent.codec.write exampleNote).write (bodyAad (List.replicate 16 0x99))),
    (.slot (.item .contentKey (.replicate 16 0x99)) (.replicate 32 1) (.replicate 24 0)
        (⟨.replicate 32 2⟩ : ItemContentKey),
      wrapItemContentKey .transparent ⟨.replicate 32 1⟩ (List.replicate 16 0x99) (.replicate 24 0)
        ⟨.replicate 32 2⟩),
    (.vaultKeyFor ⟨.replicate 32 9⟩ ⟨.replicate 32 1⟩ (.replicate 32 3),
      wrapVaultKeyForIdentity .transparent ⟨.replicate 32 1⟩ ⟨.replicate 32 9⟩
        (.replicate 32 3))]

theorem exampleNoteState_honest :
    Honest .transparent .transparent compactCodec exampleNoteState := by
  have hkeys : Honest .transparent .transparent compactCodec
      ⟨[(.itemContent, .replicate 32 2), (.vault, .replicate 32 1)], []⟩ :=
    (Relation.ReflTransGen.single (.generate (by simp))).tail
      (.generate (by intro r; cases r <;> decide))
  exact ((hkeys.tail (.sealing (by decide) rfl)).tail (.sealing (by decide) rfl)).tail
    (.sealing (by decide) rfl)

noncomputable def exampleReply : ResolveResponseBody where
  vaultId := .replicate 16 0xAA
  itemId := .replicate 16 0x99
  fieldName := "PIN"
  contentCiphertext := Base64.encode (xchacha20EncryptWithAad .transparent (.replicate 32 2)
    (.replicate 24 0) (ItemContent.codec.write exampleNote).write
    (bodyAad (List.replicate 16 0x99)))
  contentKeyWrap := Base64.encode (wrapItemContentKey .transparent ⟨.replicate 32 1⟩
    (List.replicate 16 0x99) (.replicate 24 0) ⟨.replicate 32 2⟩)
  wrappedVaultKey := Base64.encode (wrapVaultKeyForIdentity .transparent ⟨.replicate 32 1⟩
    ⟨.replicate 32 9⟩ (.replicate 32 3))

theorem exampleReply_fromPool : exampleReply.FromPool exampleNoteState.pool := by
  have hpool : ∀ {sent blob : Bytes}, sent ∈ exampleNoteState.pool →
      Base64.decode (Base64.encode sent) = some blob → blob ∈ exampleNoteState.pool := by
    intro sent blob hsent hblob
    rw [Base64.decode_encode] at hblob
    rw [← Option.some.inj hblob]
    exact hsent
  refine ⟨fun _ => hpool ?_, fun _ => hpool ?_, fun _ => hpool ?_⟩ <;>
    simp [HonestState.pool, exampleNoteState]

theorem decrypt_exampleReply :
    decryptResolvePayload .transparent .transparent compactCodec exampleReply (.replicate 16 0xAA)
      (.replicate 16 0x99) "PIN" ⟨.replicate 32 9⟩ = .ok exampleNote := by
  refine decryptResolvePayload_eq_ok.mpr ⟨⟨rfl, rfl, rfl⟩, _, _, _, Base64.decode_encode _,
    Base64.decode_encode _, Base64.decode_encode _, ⟨.replicate 32 1⟩, ⟨.replicate 32 2⟩, ?_, ?_, ?_⟩
  · decide +kernel
  · exact unwrapItemContentKey_eq_ok.mpr
      (xchacha20Decrypt_encrypt_self Aead.transparent_ideal.correct)
  · refine decryptItemWithContentKey_eq_ok.mpr ⟨_,
      xchacha20Decrypt_encrypt_self Aead.transparent_ideal.correct, ?_⟩
    simp only [compactCodec, Parsers.compact_json_write, Option.bind_some,
      JsonCodec.read_write_self]

/-- A reply as the service writes it. -/
def replyJson (payload : ResolveResponseBody) : Json :=
  .obj [("data", .obj [("vault_id", .uuid payload.vaultId), ("item_id", .uuid payload.itemId),
    ("field_name", .str payload.fieldName), ("content_ciphertext", .str payload.contentCiphertext),
    ("content_key_wrap", .str payload.contentKeyWrap),
    ("wrapped_vault_key", .str payload.wrappedVaultKey)])]

theorem resolveEnvelope_replyJson (payload : ResolveResponseBody) :
    resolveEnvelope (replyJson payload) = some payload := by
  simp [resolveEnvelope, replyJson, ResolveResponseBody.ofJson, Json.record?, Json.get?, Json.field,
    Json.asStr?]

theorem escapeGrowth_le (s : String) : escapeGrowth s ≤ 6 * (utf8 s).length := by
  have hshort : (utf8 s).countP isShortEscape ≤ (utf8 s).length := List.countP_le_length
  have hlong : (utf8 s).countP isLongEscape ≤ (utf8 s).length := List.countP_le_length
  rw [escapeGrowth]
  omega

theorem length_replyJson_le {payload : ResolveResponseBody}
    (h : ∀ text ∈ [payload.vaultId.toText, payload.itemId.toText, payload.fieldName,
      payload.contentCiphertext, payload.contentKeyWrap, payload.wrappedVaultKey],
      (writeString text).length ≤ 10000) :
    (replyJson payload).write.length ≤ maxResolveBody := by
  have hkeys : ∀ key ∈ ["data", "vault_id", "item_id", "field_name", "content_ciphertext",
      "content_key_wrap", "wrapped_vault_key"], (writeString key).length ≤ 20 := by decide
  simp only [List.forall_mem_cons] at h hkeys
  simp only [replyJson, Json.uuid, Json.write, Json.writeMembers, List.length_append,
    List.length_cons, List.length_nil, maxResolveBody, if_true, Bool.false_eq_true, if_false]
  omega

theorem readResolveReply_replyJson {payload : ResolveResponseBody}
    (hlength : (replyJson payload).write.length ≤ maxResolveBody) :
    readResolveReply .compact (.response 200 [(replyJson payload).write] none) = .ok payload := by
  have hread : readCapped maxResolveBody [(replyJson payload).write] none
      = .ok (replyJson payload).write := by
    simp only [readCapped, readCappedFrom, List.length_nil, Nat.zero_add, Nat.not_lt.mpr hlength,
      if_false, List.nil_append]
  have hstatus : (200 : UInt16) ≠ 403 ∧ isSuccess 200 = true := by decide
  simp only [readResolveReply, hstatus.1, if_false, hstatus.2, if_true, hread]
  exact orMalformed_eq_ok.mpr (by
    rw [Parsers.compact_json_write, Option.bind_some, resolveEnvelope_replyJson])

theorem readResolveReply_exampleReply :
    readResolveReply .compact (.response 200 [(replyJson exampleReply).write] none)
      = .ok exampleReply := by
  have hblob : ∀ bytes : Bytes, bytes.length ≤ 1024 →
      (writeString (Base64.encode bytes)).length ≤ 10000 := by
    intro bytes hbytes
    have hgrowth := escapeGrowth_le (Base64.encode bytes)
    rw [length_writeString]
    rw [Base64.length_utf8_encode] at hgrowth ⊢
    omega
  refine readResolveReply_replyJson (length_replyJson_le ?_)
  simp only [List.forall_mem_cons, exampleReply]
  exact ⟨by decide +kernel, by decide +kernel, by decide, hblob _ (by decide +kernel),
    hblob _ (by decide +kernel), hblob _ (by decide +kernel), by simp⟩

def exampleToken : String := "0123456789abcdef0123456789abcdef"

/-- One deployment with its keys. -/
def exampleIdentitiesJson : Json :=
  .arr [.obj [("deployment_id", .uuid (.replicate 16 1)), ("organization_id", .uuid (.replicate 16 2)),
    ("user_id", .uuid (.replicate 16 3)), ("identity_id", .uuid (.replicate 16 4)),
    ("signing_private_key_b64", .str (Base64.encode (List.replicate 32 8))),
    ("kem_private_key_b64", .str (Base64.encode (List.replicate 32 9)))]]

def exampleIdentitiesText : String :=
  String.ofList (exampleIdentitiesJson.write.map asciiChar)

theorem utf8_exampleIdentitiesText :
    utf8 exampleIdentitiesText = exampleIdentitiesJson.write := by
  refine utf8_ofList_asciiChar ?_
  simp only [exampleIdentitiesJson, Json.write, Json.writeElems, Json.writeMembers, writeString,
    Json.uuid, Base64.utf8_encode]
  decide +kernel

theorem configsOfJson_exampleIdentitiesJson : configsOfJson exampleIdentitiesJson = some
    [⟨.replicate 16 1, .replicate 16 2, .replicate 16 3, .replicate 16 4,
      Base64.encode (List.replicate 32 8), Base64.encode (List.replicate 32 9)⟩] := by
  simp [configsOfJson, exampleIdentitiesJson, IdentityConfig.ofJson, Json.record?, Json.get?,
    Json.field, Json.asStr?]

def exampleEnv : Env := fun name =>
  if name = "SEREN_SECRETS_SIDECAR_TOKEN" then .text exampleToken
  else if name = "SEREN_SECRETS_BASE_URL" then .text "https://api.serendb.com/"
  else if name = "SEREN_SECRETS_BEARER_TOKEN" then .text "bearer"
  else if name = "SEREN_SECRETS_IDENTITIES_JSON" then .text exampleIdentitiesText
  else .notPresent

def exampleUrl : UrlParser := fun _ => some ⟨"https", none, "", none, none, none⟩

def exampleState : AppState where
  sidecarToken := exampleToken
  deployments := Function.update (fun _ => none) (.replicate 16 1) (some
    ⟨.replicate 16 2, .replicate 16 3, .replicate 16 4,
      ⟨.replicate 16 4, ⟨.replicate 32 8⟩, ⟨.replicate 32 9⟩⟩⟩)

theorem startup_exampleEnv : ∃ bind, startup exampleUrl .compact exampleEnv
    = .ok (bind, exampleState) := by
  have hbind : ∃ bind, sidecarBindFromEnv exampleEnv = .ok bind := ⟨_, rfl⟩
  have hload : loadDeployments exampleUrl .compact "https://api.serendb.com/" exampleIdentitiesText
      = .ok exampleState.deployments := by
    simp only [loadDeployments, utf8_exampleIdentitiesText, Parsers.compact_json_write,
      Option.bind_some, configsOfJson_exampleIdentitiesJson, List.foldlM_cons, List.foldlM_nil,
      insertDeployment, IdentityConfig.deployment, Base64.decode_encode]
    rfl
  obtain ⟨bind, hbind⟩ := hbind
  have hblank : isBlank exampleIdentitiesText = false := by
    rw [isBlank, exampleIdentitiesText, String.toList_ofList]
    rfl
  refine ⟨bind, ?_⟩
  simp only [startup, Except.bind_eq_ok, requiredEnv_eq_ok, validateSidecarToken, rejectIf_eq_ok,
    Except.pure_eq_ok]
  exact ⟨bind, hbind, exampleToken, ⟨rfl, by decide⟩, (), by decide, _, ⟨rfl, by decide⟩, _,
    ⟨rfl, by decide⟩, _, ⟨rfl, hblank⟩, _, hload, rfl⟩

/-- A request for the note, with the token. -/
def exampleHeaders : HeaderMap :=
  [("host", utf8 "localhost:8787"), ("authorization", utf8 ("Bearer " ++ exampleToken))]

def exampleRequest : SidecarResolveRequest :=
  ⟨lowerReference, .replicate 16 1, .replicate 16 2, .replicate 16 3, none⟩

noncomputable def exampleCall : ResolveCall Unit :=
  ⟨(), .replicate 16 0, fun _ => .response 200 [(replyJson exampleReply).write] none⟩

def exampleWriter : JsonWriter := ⟨fun a => [a.write], by simp⟩

theorem answer_exampleRequest :
    exampleState.answer .transparent .transparent compactCodec (fun _ => "") (fun _ _ => [])
      (fun _ => "") .compact exampleWriter exampleCall exampleHeaders exampleRequest
      = .ok (served exampleWriter ⟨"1234", "PIN", .serenSecrets⟩) := by
  have href := parseSerenSecretsUri_eq_ok.mp parseSerenSecretsUri_lowerReference
  let resolver : SerenSecretsResolver := ⟨.replicate 16 4, ⟨.replicate 32 8⟩, ⟨.replicate 32 9⟩⟩
  have hbody : ∃ body, exampleCall.Requests (fun _ _ => []) (fun _ => "") resolver lowerReference
      body := href.exists_requests
  obtain ⟨body, hbody⟩ := hbody
  have hresolve : resolver.resolve .transparent .transparent compactCodec (fun _ => "")
      (fun _ _ => []) (fun _ => "") .compact exampleCall lowerReference
      (.forAgent (.replicate 16 4) (.replicate 16 2) (.replicate 16 3))
      = .ok ⟨"1234", "PIN", .serenSecrets⟩ :=
    resolve_eq_ok.mpr ⟨rfl, _, _, body, exampleReply, exampleNote, href, hbody,
      readResolveReply_exampleReply, decrypt_exampleReply, rfl⟩
  have hadmitted : Admitted exampleToken exampleHeaders := by
    have hguard : guard exampleToken exampleHeaders (.ok ()) = .ok () := by decide +kernel
    exact (guard_eq_ok.mp hguard).1
  exact AppState.answer_eq_ok.mpr ⟨hadmitted, _, _, rfl, ⟨rfl, rfl⟩, hresolve, rfl⟩

/-- The deployment reads the note that was sealed for its key. -/
theorem sidecar_isolates_deployments_note :
    ∃ (bind : SocketAddr) (buf : GrowBuffer),
      startup exampleUrl .compact exampleEnv = .ok (bind, exampleState) ∧
      exampleState.answer .transparent .transparent compactCodec (fun _ => "") (fun _ _ => [])
        (fun _ => "") .compact exampleWriter exampleCall exampleHeaders exampleRequest = .ok buf ∧
      ∃ kemPrivate secret,
        buf.bytes = (SidecarResolveResponse.toJson secret).write ∧
        SealedFor .transparent compactCodec (fun _ => "") exampleNoteState kemPrivate
          (.replicate 16 0x99) secret := by
  obtain ⟨bind, hstart⟩ := startup_exampleEnv
  have hpool : ∀ body payload, readResolveReply .compact (exampleCall.send body) = .ok payload →
      payload.FromPool exampleNoteState.pool := by
    intro body payload hpayload
    cases readResolveReply_exampleReply.symm.trans hpayload
    exact exampleReply_fromPool
  obtain ⟨-, -, _, _, _, -, -, -, -, -, kemPrivate, secret, vault, item, -, href, hbytes, hsealed⟩ :=
    sidecar_isolates_deployments hstart answer_exampleRequest
  have hitem : item = .replicate 16 0x99 := by
    have hsame := (parseSerenSecretsUri_eq_ok.mpr href).symm.trans parseSerenSecretsUri_lowerReference
    exact (Prod.mk.inj (Prod.mk.inj (Except.ok.inj hsame)).2).1
  subst hitem
  exact ⟨bind, _, hstart, answer_exampleRequest, kemPrivate, secret, hbytes,
    hsealed Aead.transparent_ideal SealedBox.transparent_ideal exampleNoteState_honest hpool⟩

end SerenSecrets.Sidecar
