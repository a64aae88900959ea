import SerenSecrets.Protocol.AgentDelegation

set_option autoImplicit false

/-! # The messages handed to the signature

An identity key signs nine kinds of bytes: messages of applications under a context label,
membership grants, resolve requests, recovery proofs, account-secrets updates, approval requests,
and the JSON of delegation contributions and of the two agent creations. One key signs them all, so
they must not be confused with each other.

Each hand-rolled kind starts with its own constant text (`SignedKind.lead`), the JSON kinds with a
brace; the JSON values differ in their member names. Within a hand-rolled kind every field but the
last is fixed-width or ends at a newline it cannot contain. The timestamp text is a parameter, of
which only injectivity and the absence of newlines are used. -/

namespace SerenSecrets

variable {Timestamp : Type}

/-! ## Context signatures -/

def contextSignatureDomain : Bytes := utf8 "seren-secrets/context-signature"

def isAsciiGraphic (b : UInt8) : Bool := 0x21 ≤ b && b ≤ 0x7E

/-- `domain || u8(len(context)) || context || message`. -/
def contextSigningBytes (context : String) (message : Bytes) : CryptoResult Bytes := do
  let context := utf8 context
  rejectIf (context.length = 0 ∨ 255 < context.length)
    (.canonicalization "signature context must be 1 to 255 bytes")
  rejectIf (¬ context.all isAsciiGraphic)
    (.canonicalization "signature context must be printable non-space ASCII")
  return contextSignatureDomain ++ (UInt8.ofNat context.length :: (context ++ message))

/-! ## Membership grants -/

def membershipGrantDomain : Bytes := utf8 "seren-secrets/membership-grant"

/-- `domain || vault(16) || identity(16) || access_level(1) || wrapped_vault_key`. -/
def membershipGrantSigningBytes (vaultId identityId : FixedBytes 16) (accessLevel : UInt8)
    (wrappedVaultKey : Bytes) : Bytes :=
  membershipGrantDomain
    ++ (vaultId.toBytes ++ (identityId.toBytes ++ (accessLevel :: wrappedVaultKey)))

/-! ## Resolve requests -/

/-- The bytes of a formatted text, given as its pieces. -/
def formatBytes (pieces : List String) : Bytes := pieces.flatMap utf8

theorem formatBytes_cons (piece : String) (pieces : List String) :
    formatBytes (piece :: pieces) = utf8 piece ++ formatBytes pieces :=
  List.flatMap_cons

structure ResolveRequest (Timestamp : Type) where
  uri : String
  callerIdentityId : Uuid
  issuedAt : Timestamp
  nonce : Uuid

/-- The newline-separated form of a resolve request, whose URI must not hold a line break. -/
def resolveCanonical (timestampText : Timestamp → String) (req : ResolveRequest Timestamp) :
    CryptoResult Bytes := do
  rejectIf ('\n' ∈ req.uri.toList ∨ '\r' ∈ req.uri.toList)
    (.malformedWire "resolve uri must not contain CR or LF")
  return formatBytes
    ["seren-secrets-resolve\n", "uri=", req.uri, "\n",
      "caller_identity_id=", req.callerIdentityId.toText, "\n",
      "issued_at=", timestampText req.issuedAt, "\n",
      "nonce=", req.nonce.toText, "\n"]

/-! ## Recovery proofs -/

structure RecoveryProof where
  recoveryRequestId : Uuid
  userId : Uuid
  challenge : FixedBytes 32
  newKemPublicKey : IdentityKemPublicKey

def recoveryProofCanonical (proof : RecoveryProof) : Bytes :=
  utf8 "seren-secrets-recovery-proof\n"
    ++ (utf8 "recovery_request_id=" ++ (utf8 proof.recoveryRequestId.toText ++ (utf8 "\n"
    ++ (utf8 "user_id=" ++ (utf8 proof.userId.toText ++ (utf8 "\n"
    ++ (utf8 "challenge=" ++ (proof.challenge.toBytes ++ (utf8 "\n"
    ++ (utf8 "new_kem_public_key=" ++ (proof.newKemPublicKey.asBytes.toBytes
    ++ utf8 "\n")))))))))))

/-! ## Account-secrets updates -/

structure AccountSecretsUpdateProof (Timestamp : Type) where
  userId : Uuid
  issuedAt : Timestamp
  blobDigest : FixedBytes 32

def accountSecretsUpdateCanonical (timestampText : Timestamp → String)
    (proof : AccountSecretsUpdateProof Timestamp) : Bytes :=
  utf8 "seren-secrets-account-secrets-update\n"
    ++ (utf8 "user_id=" ++ (utf8 proof.userId.toText ++ (utf8 "\n"
    ++ (utf8 "issued_at=" ++ (utf8 (timestampText proof.issuedAt) ++ (utf8 "\n"
    ++ (utf8 "blob_digest=" ++ (proof.blobDigest.toBytes ++ utf8 "\n"))))))))

/-! ## Approval requests -/

inductive ApprovalTarget where
  | vault (vaultId : Uuid)
  | item (vaultId itemId : Uuid)

structure ApprovalRequest where
  requestId : Uuid
  requestingIdentityId : Uuid
  target : ApprovalTarget
  timeoutSeconds : UInt32

namespace ApprovalTarget

def kindText : ApprovalTarget → String
  | vault _ => "vault"
  | item _ _ => "item"

def vaultId : ApprovalTarget → Uuid
  | vault v => v
  | item v _ => v

/-- The item's text, empty for a whole vault. -/
def itemText : ApprovalTarget → String
  | vault _ => ""
  | item _ i => i.toText

end ApprovalTarget

def approvalCanonicalRequest (request : ApprovalRequest) : Bytes :=
  formatBytes
    ["approval-request\n",
      "request_id=", request.requestId.toText, "\n",
      "requesting_identity_id=", request.requestingIdentityId.toText, "\n",
      "target_kind=", request.target.kindText, "\n",
      "vault_id=", request.target.vaultId.toText, "\n",
      "item_id=", request.target.itemText, "\n",
      "timeout_seconds=", request.timeoutSeconds.toNat.repr, "\n"]

/-! ## Agent creation -/

structure CreateAgentRequest where
  displayName : String
  kemPublicKey : IdentityKemPublicKey
  signingPublicKey : IdentitySigningPublicKey
  keyProvenance : Json
  kmsKeyId : Option String
  issuedAt : Int64
  nonce : String

def createAgentJson (r : CreateAgentRequest) : Json :=
  .object
    [("display_name", .str r.displayName),
      ("kem_public_key", .base64 r.kemPublicKey.asBytes.toBytes),
      ("signing_public_key", .base64 r.signingPublicKey.asBytes.toBytes),
      ("key_provenance", r.keyProvenance),
      ("kms_key_id", .orNull .str r.kmsKeyId),
      ("issued_at", .int r.issuedAt.toInt),
      ("nonce", .str r.nonce)]

def canonicalCreateAgentBytes (r : CreateAgentRequest) : Bytes := (createAgentJson r).write

structure HostedAgentRequest where
  displayName : String
  keyProvenance : Json
  issuedAt : Int64
  nonce : String

def hostedAgentJson (r : HostedAgentRequest) : Json :=
  .object
    [("display_name", .str r.displayName),
      ("key_provenance", r.keyProvenance),
      ("issued_at", .int r.issuedAt.toInt),
      ("nonce", .str r.nonce)]

def canonicalHostedAgentBytes (r : HostedAgentRequest) : Bytes := (hostedAgentJson r).write

/-! ## All signed messages -/

inductive SignedKind where
  | context
  | membershipGrant
  | resolve
  | recoveryProof
  | accountSecretsUpdate
  | approval
  | delegation
  | createAgent
  | hostedAgent
  deriving DecidableEq

/-- Whether the kind is a hand-rolled format; the others are JSON. -/
def SignedKind.handRolled : SignedKind → Bool
  | delegation | createAgent | hostedAgent => false
  | _ => true

/-- What can be signed. -/
inductive SignedInput (Timestamp : Type) where
  | context (context : String) (message : Bytes)
  | membershipGrant (vaultId identityId : FixedBytes 16) (accessLevel : UInt8)
      (wrappedVaultKey : Bytes)
  | resolve (request : ResolveRequest Timestamp)
  | recoveryProof (proof : RecoveryProof)
  | accountSecretsUpdate (proof : AccountSecretsUpdateProof Timestamp)
  | approval (request : ApprovalRequest)
  | delegation (contribution : AgentDelegationContribution)
  | createAgent (request : CreateAgentRequest)
  | hostedAgent (request : HostedAgentRequest)

def SignedInput.kind : SignedInput Timestamp → SignedKind
  | context .. => .context
  | membershipGrant .. => .membershipGrant
  | resolve .. => .resolve
  | recoveryProof .. => .recoveryProof
  | accountSecretsUpdate .. => .accountSecretsUpdate
  | approval .. => .approval
  | delegation .. => .delegation
  | createAgent .. => .createAgent
  | hostedAgent .. => .hostedAgent

/-- The bytes handed to the signature, for the inputs that are accepted. -/
def signedBytes (timestampText : Timestamp → String) (unstable : Sorter) :
    SignedInput Timestamp → CryptoResult Bytes
  | .context context message => contextSigningBytes context message
  | .membershipGrant vaultId identityId accessLevel wrappedVaultKey =>
      .ok (membershipGrantSigningBytes vaultId identityId accessLevel wrappedVaultKey)
  | .resolve request => resolveCanonical timestampText request
  | .recoveryProof proof => .ok (recoveryProofCanonical proof)
  | .accountSecretsUpdate proof => .ok (accountSecretsUpdateCanonical timestampText proof)
  | .approval request => .ok (approvalCanonicalRequest request)
  | .delegation contribution => agentDelegationContributionPayload unstable contribution
  | .createAgent request => .ok (canonicalCreateAgentBytes request)
  | .hostedAgent request => .ok (canonicalHostedAgentBytes request)

/-! ## Reading a hand-rolled form back -/

/-- A field that ends at a newline is read off the front of the text. -/
theorem utf8_line_inj {v w : String} {x y : Bytes} (hv : '\n' ∉ v.toList) (hw : '\n' ∉ w.toList)
    (h : utf8 v ++ (utf8 "\n" ++ x) = utf8 w ++ (utf8 "\n" ++ y)) : v = w ∧ x = y := by
  have hnewline : ∀ z, utf8 "\n" ++ z = '\n'.toUInt8 :: z := fun z => rfl
  rw [hnewline, hnewline] at h
  obtain ⟨hvw, hxy⟩ := append_terminator_inj (notMem_utf8 (by decide) hv)
    (notMem_utf8 (by decide) hw) h
  exact ⟨utf8_injective hvw, hxy⟩

theorem uuid_line_inj {u v : Uuid} {x y : Bytes}
    (h : utf8 u.toText ++ (utf8 "\n" ++ x) = utf8 v.toText ++ (utf8 "\n" ++ y)) :
    u = v ∧ x = y := by
  obtain ⟨htext, hxy⟩ := utf8_line_inj u.newline_notMem_toText v.newline_notMem_toText h
  exact ⟨Uuid.toText_injective htext, hxy⟩

theorem contextSigningBytes_inj {context context' : String} {message message' bytes : Bytes}
    (h : contextSigningBytes context message = .ok bytes)
    (h' : contextSigningBytes context' message' = .ok bytes) :
    context = context' ∧ message = message' := by
  simp only [contextSigningBytes, Except.bind_unit_eq_ok, rejectIf_eq_ok, Except.pure_eq_ok,
    not_or] at h h'
  obtain ⟨⟨-, hlen⟩, -, rfl⟩ := h
  obtain ⟨⟨-, hlen'⟩, -, hbytes⟩ := h'
  have hframe := List.append_cancel_left hbytes
  simp only [List.cons.injEq] at hframe
  obtain ⟨hlength, hrest⟩ := hframe
  -- The one-byte length is exact because the context has at most 255 bytes.
  have hlength : (utf8 context').length = (utf8 context).length := by
    have hmod := congrArg UInt8.toNat hlength
    rw [UInt8.toNat_ofNat', UInt8.toNat_ofNat'] at hmod
    omega
  obtain ⟨hcontext, hmessage⟩ := List.append_inj hrest hlength
  exact ⟨(utf8_injective hcontext).symm, hmessage.symm⟩

theorem membershipGrantSigningBytes_inj {v v' i i' : FixedBytes 16} {a a' : UInt8} {w w' : Bytes}
    (h : membershipGrantSigningBytes v i a w = membershipGrantSigningBytes v' i' a' w') :
    v = v' ∧ i = i' ∧ a = a' ∧ w = w' := by
  obtain ⟨hv, h⟩ := (FixedBytes.selfDelimiting 16).split (List.append_cancel_left h)
  obtain ⟨hi, h⟩ := (FixedBytes.selfDelimiting 16).split h
  obtain ⟨ha, hw⟩ := List.cons.inj h
  exact ⟨hv, hi, ha, hw⟩

theorem recoveryProofCanonical_injective : Function.Injective recoveryProofCanonical := by
  rintro ⟨request, user, challenge, ⟨key⟩⟩ ⟨request', user', challenge', ⟨key'⟩⟩ h
  have h := List.append_cancel_left (List.append_cancel_left h)
  obtain ⟨rfl, h⟩ := uuid_line_inj h
  obtain ⟨rfl, h⟩ := uuid_line_inj (List.append_cancel_left h)
  obtain ⟨rfl, h⟩ := (FixedBytes.selfDelimiting 32).split (List.append_cancel_left h)
  have h := List.append_cancel_left (List.append_cancel_left h)
  obtain ⟨rfl, -⟩ := (FixedBytes.selfDelimiting 32).split h
  rfl

theorem ApprovalTarget.newline_notMem_kindText (t : ApprovalTarget) :
    '\n' ∉ t.kindText.toList := by
  cases t <;> simp [kindText]

theorem ApprovalTarget.newline_notMem_itemText (t : ApprovalTarget) :
    '\n' ∉ t.itemText.toList := by
  cases t with
  | vault v => simp [itemText]
  | item v i => exact i.newline_notMem_toText

theorem ApprovalTarget.ext_text {t t' : ApprovalTarget} (hkind : t.kindText = t'.kindText)
    (hvault : t.vaultId = t'.vaultId) (hitem : t.itemText = t'.itemText) : t = t' := by
  cases t with
  | vault v =>
      cases t' with
      | vault v' => exact congrArg vault hvault
      | item v' i' => exact absurd hkind (by simp [kindText])
  | item v i =>
      cases t' with
      | vault v' => exact absurd hkind (by simp [kindText])
      | item v' i' =>
          obtain rfl : v = v' := hvault
          obtain rfl : i = i' := Uuid.toText_injective hitem
          rfl

theorem approvalCanonicalRequest_injective : Function.Injective approvalCanonicalRequest := by
  rintro ⟨request, identity, target, timeout⟩ ⟨request', identity', target', timeout'⟩ h
  simp only [approvalCanonicalRequest, formatBytes_cons] at h
  obtain ⟨hrequest, h⟩ := uuid_line_inj (List.append_cancel_left (List.append_cancel_left h))
  obtain ⟨hidentity, h⟩ := uuid_line_inj (List.append_cancel_left h)
  obtain ⟨hkind, h⟩ := utf8_line_inj target.newline_notMem_kindText
    target'.newline_notMem_kindText (List.append_cancel_left h)
  obtain ⟨hvault, h⟩ := uuid_line_inj (List.append_cancel_left h)
  obtain ⟨hitem, h⟩ := utf8_line_inj target.newline_notMem_itemText
    target'.newline_notMem_itemText (List.append_cancel_left h)
  have hdigits := List.append_cancel_right (List.append_cancel_left h)
  have htimeout := UInt32.toNat_inj.mp (natRepr_injective (utf8_injective hdigits))
  rw [hrequest, hidentity, ApprovalTarget.ext_text hkind hvault hitem, htimeout]

section Timestamps

variable {timestampText : Timestamp → String} (hinj : Function.Injective timestampText)
  (hnl : ∀ t, '\n' ∉ (timestampText t).toList)

include hinj hnl

theorem resolveCanonical_inj {req req' : ResolveRequest Timestamp} {bytes : Bytes}
    (h : resolveCanonical timestampText req = .ok bytes)
    (h' : resolveCanonical timestampText req' = .ok bytes) : req = req' := by
  obtain ⟨uri, caller, issued, nonce⟩ := req
  obtain ⟨uri', caller', issued', nonce'⟩ := req'
  simp only [resolveCanonical, Except.bind_unit_eq_ok, rejectIf_eq_ok, Except.pure_eq_ok, not_or,
    formatBytes_cons] at h h'
  obtain ⟨⟨huri, -⟩, rfl⟩ := h
  obtain ⟨⟨huri', -⟩, hbytes⟩ := h'
  obtain ⟨huri, h⟩ :=
    utf8_line_inj huri' huri (List.append_cancel_left (List.append_cancel_left hbytes))
  obtain ⟨hcaller, h⟩ := uuid_line_inj (List.append_cancel_left h)
  obtain ⟨hissued, h⟩ := utf8_line_inj (hnl _) (hnl _) (List.append_cancel_left h)
  have hnonce := List.append_cancel_right (List.append_cancel_left h)
  rw [huri, hcaller, hinj hissued, Uuid.toText_injective (utf8_injective hnonce)]

theorem accountSecretsUpdateCanonical_injective :
    Function.Injective (accountSecretsUpdateCanonical timestampText) := by
  rintro ⟨user, issued, digest⟩ ⟨user', issued', digest'⟩ h
  have h := List.append_cancel_left (List.append_cancel_left h)
  obtain ⟨rfl, h⟩ := uuid_line_inj h
  obtain ⟨hissued, h⟩ := utf8_line_inj (hnl _) (hnl _) (List.append_cancel_left h)
  obtain rfl := hinj hissued
  obtain ⟨rfl, -⟩ := (FixedBytes.selfDelimiting 32).split (List.append_cancel_left h)
  rfl

end Timestamps

/-! ## Telling the kinds apart -/

/-- The constant bytes every message of a kind starts with. -/
def SignedKind.lead : SignedKind → Bytes
  | context => contextSignatureDomain
  | membershipGrant => membershipGrantDomain
  | resolve => utf8 "seren-secrets-resolve\n"
  | recoveryProof => utf8 "seren-secrets-recovery-proof\n"
  | accountSecretsUpdate => utf8 "seren-secrets-account-secrets-update\n"
  | approval => utf8 "approval-request\n"
  | delegation => [0x7B]
  | createAgent => [0x7B]
  | hostedAgent => [0x7B]

/-- No lead starts another one, but for the brace of the JSON kinds. -/
theorem SignedKind.eq_of_lead_compatible {k k' : SignedKind} (h : k.lead <+: k'.lead) :
    k = k' ∨ (k.handRolled = false ∧ k'.handRolled = false) := by
  revert h
  cases k <;> cases k' <;> decide

theorem write_obj_lead (members : List (String × Json)) : [0x7B] <+: (Json.obj members).write :=
  ⟨_, by rw [Json.write]; rfl⟩

section Kinds

variable {timestampText : Timestamp → String} {unstable : Sorter}

theorem lead_prefix_signedBytes {input : SignedInput Timestamp} {bytes : Bytes}
    (h : signedBytes timestampText unstable input = .ok bytes) : input.kind.lead <+: bytes := by
  cases input with
  | context context message =>
      simp only [signedBytes, contextSigningBytes, Except.bind_unit_eq_ok, Except.pure_eq_ok] at h
      obtain ⟨-, -, rfl⟩ := h
      exact List.prefix_append _ _
  | membershipGrant vaultId identityId accessLevel wrappedVaultKey =>
      obtain rfl := Except.ok.inj h
      exact List.prefix_append _ _
  | resolve request =>
      simp only [signedBytes, resolveCanonical, Except.bind_unit_eq_ok, Except.pure_eq_ok,
        formatBytes_cons] at h
      obtain ⟨-, rfl⟩ := h
      exact List.prefix_append _ _
  | recoveryProof proof =>
      obtain rfl := Except.ok.inj h
      exact List.prefix_append _ _
  | accountSecretsUpdate proof =>
      obtain rfl := Except.ok.inj h
      exact List.prefix_append _ _
  | approval request =>
      obtain rfl := Except.ok.inj h
      simp only [approvalCanonicalRequest, formatBytes_cons]
      exact List.prefix_append _ _
  | delegation contribution =>
      obtain ⟨-, -, rfl⟩ := payload_eq_ok.mp h
      exact write_obj_lead _
  | createAgent request =>
      obtain rfl := Except.ok.inj h
      exact write_obj_lead _
  | hostedAgent request =>
      obtain rfl := Except.ok.inj h
      exact write_obj_lead _

/-- The member names of the JSON kinds. -/
def SignedKind.memberNames : SignedKind → List String
  | createAgent =>
      ["display_name", "issued_at", "kem_public_key", "key_provenance", "kms_key_id", "nonce",
        "signing_public_key"]
  | hostedAgent => ["display_name", "issued_at", "key_provenance", "nonce"]
  | _ => ["domain"]

/-- A JSON message is an object whose first members have the names of its kind. -/
theorem memberNames_signedBytes {input : SignedInput Timestamp} {bytes : Bytes}
    (hjson : input.kind.handRolled = false)
    (h : signedBytes timestampText unstable input = .ok bytes) :
    ∃ members, bytes = (Json.obj members).write
      ∧ input.kind.memberNames <+: members.map Prod.fst := by
  cases input with
  | delegation contribution =>
      obtain ⟨-, -, rfl⟩ := payload_eq_ok.mp h
      exact ⟨_, rfl, ⟨_, rfl⟩⟩
  | createAgent request =>
      obtain rfl := Except.ok.inj h
      exact ⟨_, rfl, ⟨[], rfl⟩⟩
  | hostedAgent request =>
      obtain rfl := Except.ok.inj h
      exact ⟨_, rfl, ⟨[], rfl⟩⟩
  | _ => exact absurd hjson (by simp [SignedInput.kind, SignedKind.handRolled])

theorem SignedKind.eq_of_memberNames_compatible {k k' : SignedKind} (hk : k.handRolled = false)
    (hk' : k'.handRolled = false) (h : k.memberNames <+: k'.memberNames) : k = k' := by
  revert h hk hk'
  cases k <;> cases k' <;> decide

/-- Equal signed bytes are of one kind. -/
theorem kind_eq_of_signedBytes_eq {a b : SignedInput Timestamp} {bytes : Bytes}
    (ha : signedBytes timestampText unstable a = .ok bytes)
    (hb : signedBytes timestampText unstable b = .ok bytes) : a.kind = b.kind := by
  have hjson : a.kind.handRolled = false → b.kind.handRolled = false → a.kind = b.kind := by
    intro hja hjb
    obtain ⟨members, rfl, hnames⟩ := memberNames_signedBytes hja ha
    obtain ⟨members', hbytes, hnames'⟩ := memberNames_signedBytes hjb hb
    obtain rfl := Json.obj.inj (Json.write_injective hbytes)
    rcases List.prefix_or_prefix_of_prefix hnames hnames' with h | h
    · exact SignedKind.eq_of_memberNames_compatible hja hjb h
    · exact (SignedKind.eq_of_memberNames_compatible hjb hja h).symm
  rcases List.prefix_or_prefix_of_prefix (lead_prefix_signedBytes ha)
    (lead_prefix_signedBytes hb) with h | h
  · rcases SignedKind.eq_of_lead_compatible h with hkind | ⟨hja, hjb⟩
    · exact hkind
    · exact hjson hja hjb
  · rcases SignedKind.eq_of_lead_compatible h with hkind | ⟨hjb, hja⟩
    · exact hkind.symm
    · exact hjson hja hjb

end Kinds

/-- **Signed messages are unambiguous**: accepted inputs with equal signed bytes are of one kind,
    and within a hand-rolled kind they are the same input. -/
theorem signedBytes_unambiguous {timestampText : Timestamp → String}
    (hinj : Function.Injective timestampText) (hnl : ∀ t, '\n' ∉ (timestampText t).toList)
    (unstable : Sorter) {a b : SignedInput Timestamp} {bytes : Bytes}
    (ha : signedBytes timestampText unstable a = .ok bytes)
    (hb : signedBytes timestampText unstable b = .ok bytes) :
    a.kind = b.kind ∧ (a.kind.handRolled = true → a = b) := by
  -- The leads give the kind; within one kind the form is split field by field.
  have hkind := kind_eq_of_signedBytes_eq ha hb
  refine ⟨hkind, fun hrolled => ?_⟩
  cases a with
  | context context message =>
      cases b with
      | context context' message' =>
          obtain ⟨rfl, rfl⟩ := contextSigningBytes_inj ha hb
          rfl
      | _ => exact absurd hkind (by simp [SignedInput.kind])
  | membershipGrant vaultId identityId accessLevel wrappedVaultKey =>
      cases b with
      | membershipGrant vaultId' identityId' accessLevel' wrappedVaultKey' =>
          obtain ⟨rfl, rfl, rfl, rfl⟩ :=
            membershipGrantSigningBytes_inj (Except.ok.inj (ha.trans hb.symm))
          rfl
      | _ => exact absurd hkind (by simp [SignedInput.kind])
  | resolve request =>
      cases b with
      | resolve request' => rw [resolveCanonical_inj hinj hnl ha hb]
      | _ => exact absurd hkind (by simp [SignedInput.kind])
  | recoveryProof proof =>
      cases b with
      | recoveryProof proof' =>
          rw [recoveryProofCanonical_injective (Except.ok.inj (ha.trans hb.symm))]
      | _ => exact absurd hkind (by simp [SignedInput.kind])
  | accountSecretsUpdate proof =>
      cases b with
      | accountSecretsUpdate proof' =>
          have hbytes := Except.ok.inj (ha.trans hb.symm)
          rw [accountSecretsUpdateCanonical_injective hinj hnl hbytes]
      | _ => exact absurd hkind (by simp [SignedInput.kind])
  | approval request =>
      cases b with
      | approval request' =>
          rw [approvalCanonicalRequest_injective (Except.ok.inj (ha.trans hb.symm))]
      | _ => exact absurd hkind (by simp [SignedInput.kind])
  | _ => exact absurd hrolled (by simp [SignedInput.kind, SignedKind.handRolled])

/-- The text of the first ten seconds of the epoch. -/
def epochSecondText (second : Fin 10) : String :=
  "1970-01-01T00:00:0" ++ second.val.repr ++ "Z"

/-- A resolve request of the epoch's fifth second. -/
def exampleResolveRequest : ResolveRequest (Fin 10) where
  uri := "seren-secrets://a/b/c"
  callerIdentityId := .replicate 16 1
  issuedAt := 5
  nonce := .replicate 16 2

/-- A resolve request is told apart from every kind and read back from its signed bytes. -/
theorem signedBytes_unambiguous_resolve :
    ∃ bytes, signedBytes epochSecondText .stable (.resolve exampleResolveRequest) = .ok bytes ∧
      ((SignedInput.resolve exampleResolveRequest).kind
          = (SignedInput.resolve exampleResolveRequest).kind ∧
        ((SignedInput.resolve exampleResolveRequest).kind.handRolled = true →
          SignedInput.resolve exampleResolveRequest = .resolve exampleResolveRequest)) := by
  have hinj : Function.Injective epochSecondText := by
    intro a b
    revert a b
    decide
  have haccepted : ∃ bytes,
      signedBytes epochSecondText .stable (.resolve exampleResolveRequest) = .ok bytes :=
    ⟨_, rfl⟩
  obtain ⟨bytes, hbytes⟩ := haccepted
  exact ⟨bytes, hbytes, signedBytes_unambiguous hinj (by decide) .stable hbytes hbytes⟩

end SerenSecrets
