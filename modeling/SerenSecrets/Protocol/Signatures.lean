import SerenSecrets.Crypto.Signing
import SerenSecrets.Protocol.CanonicalForms

set_option autoImplicit false

/-! # Signed statements

Every builder of a signature signs the canonical bytes of a statement, and every verifier checks a
blob against the canonical bytes of the statement it was asked about (`signStatement`,
`verifyStatement`). The statements are the nine kinds of `SignedInput`; one key signs all of them.

An identity's signatures travel through the service and through clients that nobody controls, so a
verifier sees blobs from anywhere. What it may conclude is said of a whole history: if no forgery has
happened, an accepted statement was made before by the holder of the key, the same kind with the same
fields, whatever else the holder has signed (`accepted_statements_were_signed`). Delegations are the
same up to the order of their lists. -/

namespace SerenSecrets

variable {Timestamp : Type}

/-! ## Builders and verifiers -/

section Functions

variable (S : SignatureScheme)

/-- Sign the canonical bytes of a message, unless it has none. -/
def signCanonical (privateKey : IdentitySigningPrivateKey) (canonical : CryptoResult Bytes) :
    CryptoResult Bytes := do
  let bytes ← canonical
  return Signing.sign S privateKey bytes

/-- Check a blob against the canonical bytes of a message. -/
def verifyCanonical (publicKey : IdentitySigningPublicKey) (canonical : CryptoResult Bytes)
    (blob : Bytes) : CryptoResult Unit := do
  let bytes ← canonical
  Signing.verify S publicKey bytes blob

def signWithContext (privateKey : IdentitySigningPrivateKey) (context : String)
    (message : Bytes) : CryptoResult Bytes :=
  signCanonical S privateKey (contextSigningBytes context message)

def verifyWithContext (publicKey : IdentitySigningPublicKey) (context : String)
    (message blob : Bytes) : CryptoResult Unit :=
  verifyCanonical S publicKey (contextSigningBytes context message) blob

def signMembershipGrant (granter : IdentitySigningPrivateKey) (vaultId identityId : FixedBytes 16)
    (accessLevel : UInt8) (wrappedVaultKey : Bytes) : Bytes :=
  Signing.sign S granter
    (membershipGrantSigningBytes vaultId identityId accessLevel wrappedVaultKey)

def verifyMembershipGrant (granter : IdentitySigningPublicKey)
    (vaultId identityId : FixedBytes 16) (accessLevel : UInt8) (wrappedVaultKey signature : Bytes) :
    CryptoResult Unit :=
  verifyCanonical S granter
    (.ok (membershipGrantSigningBytes vaultId identityId accessLevel wrappedVaultKey)) signature

def buildRecoveryProof (privateKey : IdentitySigningPrivateKey) (proof : RecoveryProof) : Bytes :=
  Signing.sign S privateKey (recoveryProofCanonical proof)

def verifyRecoveryProof (publicKey : IdentitySigningPublicKey) (proof : RecoveryProof)
    (signature : Bytes) : CryptoResult Unit :=
  verifyCanonical S publicKey (.ok (recoveryProofCanonical proof)) signature

def buildApprovalRequest (privateKey : IdentitySigningPrivateKey) (request : ApprovalRequest) :
    Bytes :=
  Signing.sign S privateKey (approvalCanonicalRequest request)

def verifyApprovalRequest (publicKey : IdentitySigningPublicKey) (request : ApprovalRequest)
    (signature : Bytes) : CryptoResult Unit :=
  verifyCanonical S publicKey (.ok (approvalCanonicalRequest request)) signature

def signAgentDelegationContribution (unstable : Sorter) (privateKey : IdentitySigningPrivateKey)
    (contribution : AgentDelegationContribution) : CryptoResult Bytes :=
  signCanonical S privateKey (agentDelegationContributionPayload unstable contribution)

variable (timestampText : Timestamp → String)

def verifyResolveSignature (publicKey : IdentitySigningPublicKey)
    (request : ResolveRequest Timestamp) (signature : Bytes) : CryptoResult Unit :=
  verifyCanonical S publicKey (resolveCanonical timestampText request) signature

def buildUpdateProof (privateKey : IdentitySigningPrivateKey)
    (proof : AccountSecretsUpdateProof Timestamp) : Bytes :=
  Signing.sign S privateKey (accountSecretsUpdateCanonical timestampText proof)

/-- The signature only; the age of the proof is not looked at. -/
def verifyUpdateProof (publicKey : IdentitySigningPublicKey)
    (proof : AccountSecretsUpdateProof Timestamp) (signature : Bytes) : CryptoResult Unit :=
  verifyCanonical S publicKey (.ok (accountSecretsUpdateCanonical timestampText proof)) signature

/-- Any builder: the signature of a statement of any kind. -/
def signStatement (unstable : Sorter) (privateKey : IdentitySigningPrivateKey)
    (input : SignedInput Timestamp) : CryptoResult Bytes :=
  signCanonical S privateKey (signedBytes timestampText unstable input)

/-- Any verifier: whether a blob is the signature of a statement of any kind. -/
def verifyStatement (unstable : Sorter) (publicKey : IdentitySigningPublicKey)
    (input : SignedInput Timestamp) (blob : Bytes) : CryptoResult Unit :=
  verifyCanonical S publicKey (signedBytes timestampText unstable input) blob

end Functions

/-! ## One statement per message -/

/-- The same statement, up to the order of lists that the canonical form sorts. -/
inductive SignedInput.Says : SignedInput Timestamp → SignedInput Timestamp → Prop
  | same (input : SignedInput Timestamp) : Says input input
  | delegation {c c' : AgentDelegationContribution} (h : c.Reordered c') :
      Says (.delegation c) (.delegation c')

/-- Only delegations have several forms. -/
theorem SignedInput.Says.eq {a b : SignedInput Timestamp} (h : a.Says b)
    (hkind : b.kind ≠ .delegation) : a = b := by
  cases h with
  | same => rfl
  | delegation => exact absurd rfl hkind

section Statements

variable {S : SignatureScheme} {timestampText : Timestamp → String} {unstable : Sorter}

theorem hostedAgentJson_eq (r : HostedAgentRequest) :
    hostedAgentJson r = .obj
      [("display_name", .str r.displayName),
        ("issued_at", .int r.issuedAt.toInt),
        ("key_provenance", r.keyProvenance),
        ("nonce", .str r.nonce)] :=
  rfl

theorem hostedAgentJson_injective : Function.Injective hostedAgentJson := by
  rintro ⟨name, provenance, issued, nonce⟩ ⟨name', provenance', issued', nonce'⟩ h
  rw [hostedAgentJson_eq, hostedAgentJson_eq] at h
  simp only [Json.obj.injEq, List.cons.injEq, Prod.mk.injEq, true_and, and_true, Json.str.injEq,
    Json.int_inj] at h
  obtain ⟨rfl, hissued, rfl, rfl⟩ := h
  obtain rfl := Int64.toInt_inj.mp hissued
  rfl

/-- Equal signed bytes make the same statement. -/
theorem says_of_signedBytes_eq (hinj : Function.Injective timestampText)
    (hnl : ∀ t, '\n' ∉ (timestampText t).toList) {a b : SignedInput Timestamp} {bytes : Bytes}
    (ha : signedBytes timestampText unstable a = .ok bytes)
    (hb : signedBytes timestampText unstable b = .ok bytes) : a.Says b := by
  have hkind := kind_eq_of_signedBytes_eq ha hb
  cases a with
  | context context message =>
      cases b with
      | context context' message' =>
          obtain ⟨rfl, rfl⟩ := contextSigningBytes_inj ha hb
          exact .same _
      | _ => exact absurd hkind (by simp [SignedInput.kind])
  | membershipGrant vaultId identityId accessLevel wrappedVaultKey =>
      cases b with
      | membershipGrant vaultId' identityId' accessLevel' wrappedVaultKey' =>
          obtain ⟨rfl, rfl, rfl, rfl⟩ :=
            membershipGrantSigningBytes_inj (Except.ok.inj (ha.trans hb.symm))
          exact .same _
      | _ => exact absurd hkind (by simp [SignedInput.kind])
  | resolve request =>
      cases b with
      | resolve request' =>
          obtain rfl := resolveCanonical_inj hinj hnl ha hb
          exact .same _
      | _ => exact absurd hkind (by simp [SignedInput.kind])
  | recoveryProof proof =>
      cases b with
      | recoveryProof proof' =>
          obtain rfl := recoveryProofCanonical_injective (Except.ok.inj (ha.trans hb.symm))
          exact .same _
      | _ => exact absurd hkind (by simp [SignedInput.kind])
  | accountSecretsUpdate proof =>
      cases b with
      | accountSecretsUpdate proof' =>
          obtain rfl := accountSecretsUpdateCanonical_injective hinj hnl
            (Except.ok.inj (ha.trans hb.symm))
          exact .same _
      | _ => exact absurd hkind (by simp [SignedInput.kind])
  | approval request =>
      cases b with
      | approval request' =>
          obtain rfl := approvalCanonicalRequest_injective (Except.ok.inj (ha.trans hb.symm))
          exact .same _
      | _ => exact absurd hkind (by simp [SignedInput.kind])
  | delegation contribution =>
      cases b with
      | delegation contribution' =>
          obtain ⟨-, -, hbytes⟩ := payload_eq_ok.mp ha
          obtain ⟨-, -, hbytes'⟩ := payload_eq_ok.mp hb
          have hvalue := Json.write_injective (hbytes.trans hbytes'.symm)
          exact .delegation
            (reordered_of_canonicalizeContribution_eq (canonicalContribution_injective hvalue))
      | _ => exact absurd hkind (by simp [SignedInput.kind])
  | createAgent request =>
      cases b with
      | createAgent request' =>
          obtain rfl := createAgentJson_injective
            (Json.write_injective (Except.ok.inj (ha.trans hb.symm)))
          exact .same _
      | _ => exact absurd hkind (by simp [SignedInput.kind])
  | hostedAgent request =>
      cases b with
      | hostedAgent request' =>
          obtain rfl := hostedAgentJson_injective
            (Json.write_injective (Except.ok.inj (ha.trans hb.symm)))
          exact .same _
      | _ => exact absurd hkind (by simp [SignedInput.kind])

theorem verifyStatement_eq_ok {publicKey : IdentitySigningPublicKey}
    {input : SignedInput Timestamp} {blob : Bytes} :
    verifyStatement S timestampText unstable publicKey input blob = .ok () ↔
      ∃ bytes signature, signedBytes timestampText unstable input = .ok bytes ∧
        Signing.payload? blob = some signature ∧ S.keyValid publicKey.asBytes = true ∧
        S.verifyStrict publicKey.asBytes bytes signature = true := by
  simp only [verifyStatement, verifyCanonical, Except.bind_eq_ok, Signing.verify_eq_ok,
    exists_and_left]

/-- What a builder returns is accepted by the verifier of the same statement. -/
theorem verifyStatement_signStatement {publicOf : FixedBytes 32 → FixedBytes 32}
    (hS : S.Correct publicOf) {privateKey : IdentitySigningPrivateKey}
    {input : SignedInput Timestamp} {blob : Bytes}
    (h : signStatement S timestampText unstable privateKey input = .ok blob) :
    verifyStatement S timestampText unstable ⟨publicOf privateKey.asBytes⟩ input blob = .ok () := by
  simp only [signStatement, signCanonical, Except.bind_eq_ok, Except.pure_eq_ok] at h
  obtain ⟨bytes, hbytes, rfl⟩ := h
  simp only [verifyStatement, verifyCanonical, Except.bind_eq_ok]
  exact ⟨bytes, hbytes, Signing.verify_sign hS privateKey bytes⟩

end Statements

/-! ## Histories -/

/-- Which events of a protocol sign a statement, and which show one with a signature. -/
structure StatementView (Event Timestamp : Type) where
  signs : Event → Option (IdentitySigningPrivateKey × SignedInput Timestamp)
  shows : Event → Option (IdentitySigningPublicKey × SignedInput Timestamp × Bytes)

/-- The statements of the events as the messages that are signed. -/
def StatementView.messages {Event : Type} (V : StatementView Event Timestamp)
    (timestampText : Timestamp → String) (unstable : Sorter)
    (publicOf : FixedBytes 32 → FixedBytes 32) : SignatureView Event where
  signs event := do
    let (privateKey, input) ← V.signs event
    let bytes ← (signedBytes timestampText unstable input).toOption
    return (publicOf privateKey.asBytes, bytes)
  shows event := do
    let (publicKey, input, blob) ← V.shows event
    let bytes ← (signedBytes timestampText unstable input).toOption
    let signature ← Signing.payload? blob
    return (publicKey.asBytes, bytes, signature)

section Histories

variable {Event : Type} {S : SignatureScheme} {timestampText : Timestamp → String}
  {unstable : Sorter} {publicOf : FixedBytes 32 → FixedBytes 32} {honest : Set (FixedBytes 32)}
  {V : StatementView Event Timestamp}

/-- A statement that a verifier accepts under an honest key was signed before. -/
theorem StatementView.signed_before (hinj : Function.Injective timestampText)
    (hnl : ∀ t, '\n' ∉ (timestampText t).toList) {events past : List Event} {event : Event}
    (hevents : S.Unforgeable honest (V.messages timestampText unstable publicOf) events)
    (hpast : event :: past <:+ events) {publicKey : IdentitySigningPublicKey}
    {input : SignedInput Timestamp} {blob : Bytes}
    (hshows : V.shows event = some (publicKey, input, blob)) (hhonest : publicKey.asBytes ∈ honest)
    (hverify : verifyStatement S timestampText unstable publicKey input blob = .ok ()) :
    ∃ signing ∈ past, ∃ privateKey signed, V.signs signing = some (privateKey, signed) ∧
      publicOf privateKey.asBytes = publicKey.asBytes ∧ signed.Says input := by
  obtain ⟨bytes, signature, hbytes, hsignature, -, hstrict⟩ := verifyStatement_eq_ok.mp hverify
  have hmessage : (V.messages timestampText unstable publicOf).shows event
      = some (publicKey.asBytes, bytes, signature) := by
    simp only [messages, hshows, hbytes, hsignature, Option.bind_eq_bind, Option.bind_some,
      Except.toOption, Option.pure_def]
  obtain ⟨signing, hmem, hsigns⟩ := hevents.signed_before hpast hmessage hhonest hstrict
  simp only [messages, Option.bind_eq_bind, Option.bind_eq_some_iff, Prod.exists,
    Except.toOption_eq_some, Option.pure_def, Option.some.injEq, Prod.mk.injEq] at hsigns
  obtain ⟨privateKey, signed, hsigned, bytes', hbytes', hpublic, rfl⟩ := hsigns
  exact ⟨signing, hmem, privateKey, signed, hsigned, hpublic,
    says_of_signedBytes_eq hinj hnl hbytes' hbytes⟩

/-- **Accepted statements were signed.** Every verifier accepts what the builder of its statement
    returns. In a history without forgeries it accepts, under an honest key, only statements that the
    holder of the key had signed by then, of the same kind and with the same fields. -/
theorem accepted_statements_were_signed (hS : S.Correct publicOf)
    (hinj : Function.Injective timestampText) (hnl : ∀ t, '\n' ∉ (timestampText t).toList)
    {events : List Event}
    (hevents : S.Unforgeable honest (V.messages timestampText unstable publicOf) events) :
    (∀ privateKey input blob, signStatement S timestampText unstable privateKey input = .ok blob →
      verifyStatement S timestampText unstable ⟨publicOf privateKey.asBytes⟩ input blob = .ok ()) ∧
    ∀ event past publicKey input blob, event :: past <:+ events →
      V.shows event = some (publicKey, input, blob) → publicKey.asBytes ∈ honest →
      verifyStatement S timestampText unstable publicKey input blob = .ok () →
        ∃ signing ∈ past, ∃ privateKey signed, V.signs signing = some (privateKey, signed) ∧
          publicOf privateKey.asBytes = publicKey.asBytes ∧ signed.Says input := by
  refine ⟨fun privateKey input blob => verifyStatement_signStatement hS, ?_⟩
  intro event past publicKey input blob hpast hshows hhonest hverify
  exact StatementView.signed_before hinj hnl hevents hpast hshows hhonest hverify

end Histories

/-! ## A history -/

/-- Either somebody signs a statement, or somebody shows one with a signature. -/
abbrev StatementEvent (Timestamp : Type) :=
  (IdentitySigningPrivateKey × SignedInput Timestamp) ⊕
    (IdentitySigningPublicKey × SignedInput Timestamp × Bytes)

def StatementEvent.view : StatementView (StatementEvent Timestamp) Timestamp :=
  ⟨Sum.getLeft?, Sum.getRight?⟩

theorem epochSecondText_injective : Function.Injective epochSecondText := by
  intro a b
  revert a b
  decide

/-- A signed resolve request is shown to the service. -/
theorem accepted_statements_were_signed_resolve :
    ∃ blob, signStatement .checksum epochSecondText .stable ⟨.replicate 32 7⟩
        (.resolve exampleResolveRequest) = .ok blob ∧
      verifyStatement .checksum epochSecondText .stable ⟨.replicate 32 7⟩
        (.resolve exampleResolveRequest) blob = .ok () ∧
      ∃ signing ∈ ([.inl (⟨.replicate 32 7⟩, .resolve exampleResolveRequest)] :
          List (StatementEvent (Fin 10))),
        ∃ privateKey signed, StatementEvent.view.signs signing = some (privateKey, signed) ∧
          id privateKey.asBytes = .replicate 32 7 ∧
          signed.Says (.resolve exampleResolveRequest) := by
  have hbytes : ∃ bytes, signedBytes epochSecondText .stable (.resolve exampleResolveRequest)
      = .ok bytes := ⟨_, rfl⟩
  obtain ⟨bytes, hbytes⟩ := hbytes
  have hsign : signStatement .checksum epochSecondText .stable ⟨.replicate 32 7⟩
      (.resolve exampleResolveRequest)
        = .ok (Signing.sign .checksum ⟨.replicate 32 7⟩ bytes) := by
    simp only [signStatement, signCanonical, hbytes]
    rfl
  refine ⟨_, hsign, ?_⟩
  have hhistory : SignatureScheme.checksum.Unforgeable {.replicate 32 7}
      (StatementEvent.view.messages epochSecondText .stable id)
      [.inr (⟨.replicate 32 7⟩, .resolve exampleResolveRequest,
          Signing.sign .checksum ⟨.replicate 32 7⟩ bytes),
        .inl (⟨.replicate 32 7⟩, .resolve exampleResolveRequest)] := by
    refine ⟨⟨trivial, nofun⟩, ?_⟩
    intro publicKey message signature hshows hhonest _
    refine ⟨_, List.mem_cons_self, ?_⟩
    simp only [StatementView.messages, StatementEvent.view, Sum.getRight?_inr, hbytes,
      Option.bind_eq_bind, Option.bind_some, Except.toOption, Option.bind_eq_some_iff,
      Option.pure_def, Option.some.injEq, Prod.mk.injEq] at hshows
    obtain ⟨_, -, rfl, rfl, rfl⟩ := hshows
    simp only [StatementView.messages, StatementEvent.view, Sum.getLeft?_inl, hbytes,
      Option.bind_eq_bind, Option.bind_some, Except.toOption, Option.pure_def, id]
  obtain ⟨haccepts, hsound⟩ := accepted_statements_were_signed SignatureScheme.checksum_correct
    epochSecondText_injective (by decide) hhistory
  have hverify := haccepts _ _ _ hsign
  exact ⟨hverify, hsound _ _ _ _ _ (List.suffix_refl _) rfl rfl hverify⟩

end SerenSecrets
