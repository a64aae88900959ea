import SerenSecrets.Resolver.Resolution
import SerenSecrets.Resolver.SidecarGuard

set_option autoImplicit false

/-! # The sidecar's response

The sidecar answers a request with a JSON text that holds the plaintext of a secret. The text is
written into a buffer that is wiped when it is dropped. If the buffer has to grow meanwhile, the old
allocation is given back as it is, with plaintext in it, so it is sized beforehand: four bytes for
each byte of the plaintext, one for each byte of the field name, and 128 for what is around them.

A control character is escaped to six bytes, which is more than four, and the field name is given
no room for escapes at all. The buffer holds the text exactly if the escapes make up for no more
than three bytes for each byte of the plaintext and 71 others (`length_response_le_iff`). -/

namespace SerenSecrets.Sidecar

/-! ## Resolving -/

/-- A resolver of secret references: it answers with the field that the reference names. -/
structure AgentSecretResolver where
  resolve : String → ResolutionContext → ResolverResult ResolvedSecret
  fieldName_eq : ∀ {uri ctx secret}, resolve uri ctx = .ok secret →
    ∃ vault item, parseSerenSecretsUri uri = .ok (vault, item, secret.fieldName)

/-- The resolver of a deployment during one call. -/
def agentSecretResolver {Timestamp : Type} (A : Aead) (B : SealedBox)
    (codec : ContentCodec ItemContent) (plainText : Json → String)
    (sign : IdentitySigningPrivateKey → Bytes → Bytes) (timestampText : Timestamp → String)
    (P : Parsers) (resolver : SerenSecretsResolver) (call : ResolveCall Timestamp) :
    AgentSecretResolver where
  resolve := resolver.resolve A B codec plainText sign timestampText P call
  fieldName_eq h := by
    obtain ⟨-, vault, item, _, _, _, href, -⟩ := SerenSecrets.resolve_eq_ok.mp h
    exact ⟨vault, item, parseSerenSecretsUri_eq_ok.mpr href⟩

structure DeploymentEntry where
  organizationId : Uuid
  userId : Uuid
  identityId : Uuid
  resolver : AgentSecretResolver

structure SidecarResolveRequest where
  uri : String
  deploymentId : Uuid
  organizationId : Uuid
  userId : Uuid
  correlationId : Option Uuid

def approvalErr (requestId : Uuid) : UInt16 × ErrorResponse :=
  (403, ⟨"approval required", some requestId⟩)

/-- What the sidecar answers when the resolver fails. The numbers of statuses have three digits; any
    other becomes a bad gateway. -/
def mapResolverError : ResolverError → UInt16 × ErrorResponse
  | .invalidUri _ | .invalidInput _ | .malformed _ | .crypto _ => err 400 "bad secret reference"
  | .approvalRequired requestId => approvalErr requestId
  | .serverError status _ =>
      err (if 100 ≤ status ∧ status < 1000 then status else 502)
        "upstream secrets service rejected secret reference"
  | .transport _ => err 502 "upstream secrets service unavailable"
  | .unsupportedScheme _ | .notImplemented _ | .unknownField _ =>
      err 400 "unsupported secret reference"
  | .responseMismatch => err 502 "upstream secrets service returned a mismatched record"
  | .stale => err 412 "item changed"
  | .rotating => err 423 "vault rotation in progress"
  | .keyVersion => err 409 "vault key version changed"

/-! ## The response -/

def SidecarResolveResponse.toJson (secret : ResolvedSecret) : Json :=
  .obj [("plaintext", .str secret.plaintext), ("field_name", .str secret.fieldName),
    ("source", .str "seren-secrets")]

def capacityHint (secret : ResolvedSecret) : ℕ :=
  (utf8 secret.plaintext).length * 4 + (utf8 secret.fieldName).length + 128

/-- The body of a response, with what became of its buffer. Writing to memory does not fail. -/
def zeroizingJsonResponse (W : JsonWriter) (value : Json) (capacityHint : ℕ) : GrowBuffer :=
  (GrowBuffer.withCapacity capacityHint).writeAll (W.pieces value)

def served (W : JsonWriter) (secret : ResolvedSecret) : GrowBuffer :=
  zeroizingJsonResponse W (SidecarResolveResponse.toJson secret) (capacityHint secret)

def resolve (W : JsonWriter) (deployments : Uuid → Option DeploymentEntry)
    (body : SidecarResolveRequest) : SidecarResult GrowBuffer := do
  match deployments body.deploymentId with
  | none => .error (err 404 "deployment identity not configured")
  | some deployment => do
      rejectIf (deployment.organizationId ≠ body.organizationId ∨ deployment.userId ≠ body.userId)
        (err 403 "deployment identity mismatch")
      let ctx := ResolutionContext.forAgent deployment.identityId body.organizationId body.userId
      let ctx := body.correlationId.elim ctx ctx.withCorrelationId
      let secret ← (deployment.resolver.resolve body.uri ctx).mapError mapResolverError
      return served W secret

/-! ## How long a response is -/

/-- The text of a response is 57 bytes, and the two strings with their escapes. -/
theorem length_response (secret : ResolvedSecret) :
    (SidecarResolveResponse.toJson secret).write.length =
      (utf8 secret.plaintext).length + escapeGrowth secret.plaintext +
        ((utf8 secret.fieldName).length + escapeGrowth secret.fieldName) + 57 := by
  have hkeys : (writeString "plaintext").length = 11 ∧ (writeString "field_name").length = 12 ∧
      (writeString "source").length = 8 ∧ (writeString "seren-secrets").length = 15 := by
    decide
  obtain ⟨hplaintext, hfield, hsource, hvalue⟩ := hkeys
  simp only [SidecarResolveResponse.toJson, Json.write, Json.writeMembers, List.length_append,
    List.length_cons, hplaintext, hfield, hsource, hvalue, length_writeString secret.plaintext,
    length_writeString secret.fieldName, if_true, Bool.false_eq_true, if_false, List.length_nil]
  omega

theorem length_response_le_iff (secret : ResolvedSecret) :
    (SidecarResolveResponse.toJson secret).write.length ≤ capacityHint secret ↔
      escapeGrowth secret.plaintext + escapeGrowth secret.fieldName ≤
        3 * (utf8 secret.plaintext).length + 71 := by
  rw [length_response, capacityHint]
  omega

/-- The buffer grows exactly if the text is longer than its first capacity. -/
theorem freed_zeroizingJsonResponse (W : JsonWriter) (value : Json) (capacityHint : ℕ) :
    (zeroizingJsonResponse W value capacityHint).freed = [] ↔
      value.write.length ≤ capacityHint := by
  rw [zeroizingJsonResponse, GrowBuffer.freed_writeAll, W.flatten_pieces]
  simp [GrowBuffer.withCapacity]

theorem bytes_served (W : JsonWriter) (secret : ResolvedSecret) :
    (served W secret).bytes = (SidecarResolveResponse.toJson secret).write := by
  rw [served, zeroizingJsonResponse, GrowBuffer.bytes_writeAll, W.flatten_pieces]
  rfl

/-- **The buffer does not grow**, so that no copy of the plaintext is left behind, exactly for
    secrets whose escapes need no more than three bytes for each byte of the plaintext and 71
    others. -/
theorem served_never_grows_iff (W : JsonWriter) (secret : ResolvedSecret) :
    ((SidecarResolveResponse.toJson secret).write.length ≤ capacityHint secret ∧
      (served W secret).freed = []) ↔
      escapeGrowth secret.plaintext + escapeGrowth secret.fieldName ≤
        3 * (utf8 secret.plaintext).length + 71 := by
  rw [served, freed_zeroizingJsonResponse, and_self, length_response_le_iff]

/-- A secret of 36 control characters. -/
def controlSecret : ResolvedSecret :=
  ⟨String.ofList (List.replicate 36 '\x01'), "PIN", .serenSecrets⟩

/-- The text of this secret is longer than the buffer, which leaves a copy of it behind. -/
theorem served_outgrows_buffer :
    parseSerenSecretsUri lowerReference
      = .ok (.replicate 16 0xAA, .replicate 16 0x99, controlSecret.fieldName) ∧
    capacityHint controlSecret < (SidecarResolveResponse.toJson controlSecret).write.length ∧
    (served ⟨fun a => [a.write], by simp⟩ controlSecret).freed ≠ [] := by
  have hlong : ¬ (SidecarResolveResponse.toJson controlSecret).write.length
      ≤ capacityHint controlSecret := by
    rw [length_response_le_iff]
    decide
  refine ⟨parseSerenSecretsUri_lowerReference, Nat.lt_of_not_le hlong, ?_⟩
  rw [ne_eq, served, freed_zeroizingJsonResponse]
  exact hlong

/-! ## Behind the guard -/

/-- Every response is the text of a secret that the deployment's resolver found for the request. -/
theorem resolve_answers {W : JsonWriter} {deployments : Uuid → Option DeploymentEntry}
    {body : SidecarResolveRequest} {buf : GrowBuffer} (h : resolve W deployments body = .ok buf) :
    ∃ deployment ctx secret, deployments body.deploymentId = some deployment ∧
      deployment.organizationId = body.organizationId ∧ deployment.userId = body.userId ∧
      deployment.resolver.resolve body.uri ctx = .ok secret ∧ buf = served W secret := by
  unfold resolve at h
  split at h
  · exact absurd h (by simp)
  · rename_i deployment hdeployment
    simp only [Except.bind_unit_eq_ok, rejectIf_eq_ok, not_or, ne_eq, not_not] at h
    simp only [Except.bind_eq_ok, Except.mapError_eq_ok, Except.pure_eq_ok] at h
    obtain ⟨⟨horganization, huser⟩, secret, hsecret, rfl⟩ := h
    exact ⟨deployment, _, secret, hdeployment, horganization, huser, hsecret, rfl⟩

/-- **What leaves the sidecar**: only an admitted request that names a deployment with its own
    organization and user is answered, with the field its reference names, and the answer leaves a
    copy of itself behind exactly if its escapes outgrow the buffer. -/
theorem guarded_resolve_eq_ok {W : JsonWriter} {sidecarToken : String} {headers : HeaderMap}
    {deployments : Uuid → Option DeploymentEntry} {body : SidecarResolveRequest} {buf : GrowBuffer}
    (h : guard sidecarToken headers (resolve W deployments body) = .ok buf) :
    Admitted sidecarToken headers ∧
    ∃ deployment secret vault item, deployments body.deploymentId = some deployment ∧
      deployment.organizationId = body.organizationId ∧ deployment.userId = body.userId ∧
      parseSerenSecretsUri body.uri = .ok (vault, item, secret.fieldName) ∧
      buf.bytes = (SidecarResolveResponse.toJson secret).write ∧
      (buf.freed = [] ↔ escapeGrowth secret.plaintext + escapeGrowth secret.fieldName ≤
        3 * (utf8 secret.plaintext).length + 71) := by
  obtain ⟨hadmitted, hresolve⟩ := guard_eq_ok.mp h
  obtain ⟨deployment, ctx, secret, hdeployment, horganization, huser, hsecret, rfl⟩ :=
    resolve_answers hresolve
  obtain ⟨vault, item, hparse⟩ := deployment.resolver.fieldName_eq hsecret
  refine ⟨hadmitted, deployment, secret, vault, item, hdeployment, horganization, huser, hparse,
    bytes_served W secret, ?_⟩
  rw [served, freed_zeroizingJsonResponse, length_response_le_iff]

/-- Of all failures, only a missing approval tells the caller which request to wait for. -/
theorem approvalRequestId_mapResolverError {e : ResolverError} {requestId : Uuid} :
    (mapResolverError e).2.approvalRequestId = some requestId ↔
      e = .approvalRequired requestId := by
  cases e <;> simp [mapResolverError, approvalErr, err]

end SerenSecrets.Sidecar
