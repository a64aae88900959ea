import SerenSecrets.Resolver.Fields
import SerenSecrets.Resolver.Http
import SerenSecrets.Resolver.Reference
import SerenSecrets.Resolver.Resolve

set_option autoImplicit false

/-! # Resolving a reference

`SerenSecretsResolver.resolve` is the whole way from a reference to the text of a field: read the
reference, sign a request, send it, read the reply, open its blobs one inside the other and take the
field out of the content.

A secret is resolved exactly if every step succeeds (`resolve_eq_ok`). Against a service that can
put any honest blobs into its reply, the text is a field of a content that was sealed for the item
of the reference (`resolve_sealed`). -/

namespace SerenSecrets

/-! ## The client -/

structure ResolutionContext where
  agentIdentityId : Option Uuid
  organizationId : Uuid
  userId : Uuid
  correlationId : Option Uuid

def ResolutionContext.forAgent (agentIdentityId organizationId userId : Uuid) :
    ResolutionContext :=
  ⟨some agentIdentityId, organizationId, userId, none⟩

def ResolutionContext.withCorrelationId (ctx : ResolutionContext) (correlationId : Uuid) :
    ResolutionContext :=
  { ctx with correlationId := some correlationId }

inductive SecretSource where
  | orgSecret
  | userSecret
  | serenSecrets
  deriving DecidableEq

structure ResolvedSecret where
  plaintext : String
  fieldName : String
  source : SecretSource

def maxResolveBody : ℕ := 16 * 1024 * 1024

structure ResolveBody (Timestamp : Type) where
  uri : String
  issuedAt : Timestamp
  nonce : Uuid
  requestSignature : String

def ResolveResponseBody.ofJson (value : Json) : Option ResolveResponseBody := do
  let fields ← value.record? ["vault_id", "item_id", "field_name", "content_ciphertext",
    "content_key_wrap", "wrapped_vault_key"]
  let vaultId ← Json.field fields "vault_id" Json.asUuid?
  let itemId ← Json.field fields "item_id" Json.asUuid?
  let fieldName ← Json.field fields "field_name" Json.asStr?
  let contentCiphertext ← Json.field fields "content_ciphertext" Json.asStr?
  let contentKeyWrap ← Json.field fields "content_key_wrap" Json.asStr?
  let wrappedVaultKey ← Json.field fields "wrapped_vault_key" Json.asStr?
  return { vaultId, itemId, fieldName, contentCiphertext, contentKeyWrap, wrappedVaultKey }

/-- The payload inside its envelope. -/
def resolveEnvelope (value : Json) : Option ResolveResponseBody := do
  let fields ← value.record? ["data"]
  Json.field fields "data" ResolveResponseBody.ofJson

/-- The approval request that the envelope of a refusal names. -/
def errorEnvelope (value : Json) : Option Uuid := do
  let fields ← value.record? ["error"]
  let error ← Json.field fields "error" (Json.record? ["approval_request_id"])
  let requestId ← Json.fieldOr error "approval_request_id" (Json.nullable Json.asUuid?) none
  requestId

/-- What the resolver makes of a reply. -/
def readResolveReply (P : Parsers) : HttpReply → ResolverResult ResolveResponseBody
  | .failed kind => .error (.transport kind)
  | .response status chunks broken =>
      if status = 403 then
        let body := (readCapped maxErrorBody chunks broken).toOption.getD []
        match (P.json body).bind errorEnvelope with
        | some requestId => .error (.approvalRequired requestId)
        | none => .error (.serverError status "forbidden")
      else if isSuccess status then do
        let body ← readCapped maxResolveBody chunks broken
        orMalformed "response body" ((P.json body).bind resolveEnvelope)
      else
        .error (.serverError status (truncateErrorBody (readCappedText maxErrorBody chunks broken)))

structure SerenSecretsResolver where
  callerIdentityId : Uuid
  signingPrivate : IdentitySigningPrivateKey
  kemPrivate : IdentityKemPrivateKey

/-- What one call draws, and what the service replies to its request. -/
structure ResolveCall (Timestamp : Type) where
  issuedAt : Timestamp
  nonce : Uuid
  send : ResolveBody Timestamp → HttpReply

section Resolving

variable {Timestamp : Type} (A : Aead) (B : SealedBox) (codec : ContentCodec ItemContent)
  (plainText : Json → String) (sign : IdentitySigningPrivateKey → Bytes → Bytes)
  (timestampText : Timestamp → String) (P : Parsers)

/-- The context of a call is not used. -/
def SerenSecretsResolver.resolve (resolver : SerenSecretsResolver) (call : ResolveCall Timestamp)
    (uri : String) (_ctx : ResolutionContext) : ResolverResult ResolvedSecret := do
  let (vaultId, itemId, requestedField) ← parseSerenSecretsUri uri
  let signature ← fromCrypto (buildResolveSignature sign timestampText resolver.signingPrivate
    ⟨uri, resolver.callerIdentityId, call.issuedAt, call.nonce⟩)
  let payload ← readResolveReply P
    (call.send ⟨uri, call.issuedAt, call.nonce, Base64.encode signature⟩)
  let content ← decryptResolvePayload A B codec payload vaultId itemId requestedField
    resolver.kemPrivate
  let plaintext ← extractField plainText content requestedField
  return ⟨plaintext, requestedField, .serenSecrets⟩

end Resolving

/-! ## What a resolved secret is -/

section Resolved

variable {Timestamp : Type} {A : Aead} {B : SealedBox} {codec : ContentCodec ItemContent}
  {plainText : Json → String} {sign : IdentitySigningPrivateKey → Bytes → Bytes}
  {timestampText : Timestamp → String} {P : Parsers} {resolver : SerenSecretsResolver}
  {call : ResolveCall Timestamp} {uri : String} {ctx : ResolutionContext} {secret : ResolvedSecret}

/-- The request for a reference, with the signature of its canonical bytes. -/
def ResolveCall.Requests (call : ResolveCall Timestamp)
    (sign : IdentitySigningPrivateKey → Bytes → Bytes) (timestampText : Timestamp → String)
    (resolver : SerenSecretsResolver) (uri : String) (body : ResolveBody Timestamp) : Prop :=
  ∃ canonical, resolveCanonical timestampText
      ⟨uri, resolver.callerIdentityId, call.issuedAt, call.nonce⟩ = .ok canonical ∧
    body = ⟨uri, call.issuedAt, call.nonce, Base64.encode (sign resolver.signingPrivate canonical)⟩

/-- **A secret is resolved** exactly if the string is a reference to its field and the reply to the
    signed request holds a content with that field. -/
theorem resolve_eq_ok :
    resolver.resolve A B codec plainText sign timestampText P call uri ctx = .ok secret ↔
      secret.source = .serenSecrets ∧
      ∃ vault item body payload content, IsReference uri vault item secret.fieldName ∧
        call.Requests sign timestampText resolver uri body ∧
        readResolveReply P (call.send body) = .ok payload ∧
        decryptResolvePayload A B codec payload vault item secret.fieldName resolver.kemPrivate
          = .ok content ∧
        extractField plainText content secret.fieldName = .ok secret.plaintext := by
  have hsign : ∀ {request : ResolveRequest Timestamp} {signature : Bytes},
      buildResolveSignature sign timestampText resolver.signingPrivate request = .ok signature ↔
        ∃ canonical, resolveCanonical timestampText request = .ok canonical ∧
          sign resolver.signingPrivate canonical = signature := by
    simp only [buildResolveSignature, Except.bind_eq_ok, Except.pure_eq_ok, implies_true]
  obtain ⟨plaintext, fieldName, source⟩ := secret
  simp only [SerenSecretsResolver.resolve, Except.bind_eq_ok, Prod.exists, fromCrypto_eq_ok, hsign,
    Except.pure_eq_ok, ResolvedSecret.mk.injEq, parseSerenSecretsUri_eq_ok, ResolveCall.Requests]
  constructor
  · rintro ⟨vault, item, field, href, _, ⟨canonical, hcanonical, rfl⟩, payload, hreply, content,
      hcontent, text, htext, rfl, rfl, rfl⟩
    exact ⟨rfl, vault, item, _, payload, content, href, ⟨canonical, hcanonical, rfl⟩, hreply,
      hcontent, htext⟩
  · rintro ⟨rfl, vault, item, _, payload, content, href, ⟨canonical, hcanonical, rfl⟩, hreply,
      hcontent, htext⟩
    exact ⟨vault, item, fieldName, href, _, ⟨canonical, hcanonical, rfl⟩, payload, hreply, content,
      hcontent, plaintext, htext, rfl, rfl, rfl⟩

/-- A reference can always be asked for: whether a secret is resolved is up to the reply. -/
theorem IsReference.exists_requests {vault item : Uuid} {field : String}
    (h : IsReference uri vault item field) :
    ∃ body, call.Requests sign timestampText resolver uri body := by
  obtain ⟨canonical, hcanonical⟩ :=
    h.resolveCanonical_eq_ok resolver.callerIdentityId call.issuedAt call.nonce
  exact ⟨_, canonical, hcanonical, rfl⟩

/-- **What is resolved was sealed for the item of the reference**: if the reply puts together blobs
    that honest clients have made, the plaintext is a field of a content that one of them sealed for
    this item, as the codec reads it, under keys that lead to the caller. -/
theorem resolve_sealed
    (h : resolver.resolve A B codec plainText sign timestampText P call uri ctx = .ok secret) :
    ∃ vault item, IsReference uri vault item secret.fieldName ∧
      ∀ {st : HonestState ItemContent}, A.Ideal → B.Ideal → Honest A B codec st →
        (∀ body payload, readResolveReply P (call.send body) = .ok payload →
          payload.FromPool st.pool) →
        ∃ vaultKey contentKey original json content,
          (∃ ephemeral, .vaultKeyFor ⟨B.publicOf resolver.kemPrivate.asBytes⟩ vaultKey ephemeral
            ∈ st.sealed.map Prod.fst) ∧
          (∃ nonce, .slot (.item .contentKey item) vaultKey.asBytes nonce contentKey
            ∈ st.sealed.map Prod.fst) ∧
          (∃ nonce, .slot (.item .body item) contentKey.asBytes nonce original
            ∈ st.sealed.map Prod.fst) ∧
          codec.toVec original = some json ∧ codec.fromSlice json = some content ∧
          extractField plainText content secret.fieldName = .ok secret.plaintext := by
  obtain ⟨-, vault, item, body, payload, content, href, -, hreply, hcontent, htext⟩ :=
    resolve_eq_ok.mp h
  refine ⟨vault, item, href, ?_⟩
  intro st hA hB hrun hpool
  obtain ⟨vaultKey, contentKey, original, json, hvault, hwrap, hbody, hjson, hread⟩ :=
    (HonestInv.of_honest hrun).payload_sealed hA hB (hpool body payload hreply) hcontent
  exact ⟨vaultKey, contentKey, original, json, content, hvault, hwrap, hbody, hjson, hread, htext⟩

end Resolved

end SerenSecrets
