import SerenSecrets.Crypto.Wire
import SerenSecrets.Lib.Except
import SerenSecrets.Lib.Serde
import SerenSecrets.Lib.Sort
import Mathlib.Data.Finset.Card

set_option autoImplicit false

/-! # Agent delegation contributions

A contribution is what one participant of a multi-principal agent delegation signs. It is validated,
its lists are put into a canonical order, and the JSON text of the result is the signed payload
(`agentDelegationContributionPayload`).

The payload is a canonical form: it does not depend on the order of the five lists
(`payload_reordered`), and up to that order it determines the whole contribution
(`payload_binds`). -/

namespace SerenSecrets

/-! ## The contribution -/

def agentDelegationContributionDomain : String :=
  "seren-secrets/agent-delegation-policy-contribution"

def maxMappings : ℕ := 1024
def maxVaultGrants : ℕ := 1024
def maxOpaqueWrapBytes : ℕ := 4096
def maxSignatureBytes : ℕ := 4096
def maxTextBytes : ℕ := 4096
def maxProvisionedVaults : ℕ := 50

inductive AgentDelegationDecision where
  | approve
  | decline
  deriving DecidableEq

inductive AgentDelegationScopeKind where
  | secretFields
  | vaultAccess
  deriving DecidableEq

inductive AgentDelegationTargetKind where
  | existing
  | bootstrap
  deriving DecidableEq

inductive AgentDelegationAccessLevel where
  | read
  | write
  | admin
  deriving DecidableEq

inductive VaultProvisioningGrantLifetime where
  | untilRevoked
  deriving DecidableEq

structure AgentDelegationFieldMapping where
  environmentName : String
  fieldGroup : Option String
  vaultId : Uuid
  itemId : Uuid
  field : String
  itemKeyWrap : Bytes
  deriving DecidableEq

structure AgentDelegationVaultGrant where
  vaultId : Uuid
  accessLevel : AgentDelegationAccessLevel
  wrappedVaultKey : Bytes
  grantedSignature : Bytes
  deriving DecidableEq

structure VaultProvisioningBinding where
  keys : List String
  vaultCount : UInt16
  payloadDigest : String
  deriving DecidableEq

structure ProvisionedVault where
  key : String
  vaultId : Uuid
  adopted : Bool
  deriving DecidableEq

structure AgentDelegationVaultProvisioning where
  binding : VaultProvisioningBinding
  grantLifetime : VaultProvisioningGrantLifetime
  provisionedVaults : List ProvisionedVault
  deriving DecidableEq

structure AgentDelegationContribution where
  requestId : Uuid
  resultId : Uuid
  destinationOrganizationId : Uuid
  scopeKind : AgentDelegationScopeKind
  deploymentId : Option Uuid
  deploymentRevisionId : Option Uuid
  agentIdentityId : Uuid
  agentTargetKind : AgentDelegationTargetKind
  agentKemFingerprint : Bytes
  agentSigningFingerprint : Bytes
  allowedAccessLevels : List AgentDelegationAccessLevel
  requestNonce : String
  expiresAtUnixSeconds : Int64
  participantId : Uuid
  role : String
  stage : UInt16
  actorOrganizationId : Uuid
  actorUserId : Uuid
  actorIdentityId : Uuid
  contributionId : Uuid
  decision : AgentDelegationDecision
  mappings : List AgentDelegationFieldMapping
  vaultGrants : List AgentDelegationVaultGrant
  vaultProvisioning : Option AgentDelegationVaultProvisioning
  deriving DecidableEq

/-! ## Validation -/

def validateText (value : String) (message : String) : CryptoResult Unit :=
  rejectIf ((utf8 value).length = 0 ∨ maxTextBytes < (utf8 value).length)
    (.canonicalization message)

/-- A lowercase hexadecimal digit. -/
def isLowerHexByte (b : UInt8) : Bool := (0x30 ≤ b && b ≤ 0x39) || (0x61 ≤ b && b ≤ 0x66)

def VaultProvisioningBinding.validate (binding : VaultProvisioningBinding) : CryptoResult Unit :=
  rejectIf
    (binding.keys.isEmpty ∨ maxProvisionedVaults < binding.keys.length
      ∨ binding.keys.length ≠ binding.vaultCount.toNat
      ∨ binding.keys.any (fun key => isBlank key || maxTextBytes < (utf8 key).length)
      ∨ binding.keys.toFinset.card ≠ binding.keys.length
      ∨ (utf8 binding.payloadDigest).length ≠ 64
      ∨ ¬ (utf8 binding.payloadDigest).all isLowerHexByte)
    (.canonicalization "invalid vault provisioning binding")

def validateVaultProvisioning (contribution : AgentDelegationContribution)
    (provisioning : AgentDelegationVaultProvisioning) : CryptoResult Unit := do
  provisioning.binding.validate
  rejectIf
    (contribution.deploymentId.isNone ∨ contribution.deploymentRevisionId.isNone
      ∨ contribution.agentTargetKind ≠ .existing
      ∨ contribution.allowedAccessLevels ≠ [.write]
      ∨ ¬ contribution.mappings.isEmpty)
    (.canonicalization "invalid vault provisioning scope")
  if contribution.decision = .decline then
    rejectIf (¬ provisioning.provisionedVaults.isEmpty ∨ ¬ contribution.vaultGrants.isEmpty)
      (.canonicalization "declined vault provisioning has grants")
  else
    let expectedKeys : Finset String := provisioning.binding.keys.toFinset
    let mappedKeys : Finset String := (provisioning.provisionedVaults.map (·.key)).toFinset
    let mappedVaults : Finset Uuid := (provisioning.provisionedVaults.map (·.vaultId)).toFinset
    let grantedVaults : Finset Uuid := (contribution.vaultGrants.map (·.vaultId)).toFinset
    rejectIf
      (expectedKeys ≠ mappedKeys
        ∨ provisioning.provisionedVaults.length ≠ expectedKeys.card
        ∨ mappedVaults.card ≠ expectedKeys.card
        ∨ contribution.vaultGrants.length ≠ expectedKeys.card
        ∨ mappedVaults ≠ grantedVaults
        ∨ contribution.vaultGrants.any (fun grant => grant.accessLevel ≠ .write))
      (.canonicalization "vault provisioning map must match grants")

def validateScope (contribution : AgentDelegationContribution) : CryptoResult Unit :=
  match contribution.scopeKind with
  | .secretFields =>
      rejectIf
        (contribution.vaultProvisioning.isSome ∨ contribution.deploymentId.isNone
          ∨ contribution.deploymentRevisionId.isNone
          ∨ contribution.agentTargetKind ≠ .existing
          ∨ contribution.allowedAccessLevels ≠ [.read])
        (.canonicalization "invalid secret-field delegation scope")
  | .vaultAccess =>
      match contribution.vaultProvisioning with
      | some provisioning => validateVaultProvisioning contribution provisioning
      | none =>
          rejectIf
            (contribution.deploymentId.isSome ∨ contribution.deploymentRevisionId.isSome
              ∨ contribution.allowedAccessLevels.isEmpty)
            (.canonicalization "invalid vault-access delegation scope")

def validateMapping (mapping : AgentDelegationFieldMapping) : CryptoResult Unit := do
  validateText mapping.environmentName "invalid environment name"
  match mapping.fieldGroup with
  | some group => validateText group "invalid field group"
  | none => .ok ()
  validateText mapping.field "invalid mapping field"
  rejectIf (mapping.itemKeyWrap.isEmpty ∨ maxOpaqueWrapBytes < mapping.itemKeyWrap.length)
    (.canonicalization "invalid delegation item key wrap")

def validateGrant (allowed : List AgentDelegationAccessLevel) (grant : AgentDelegationVaultGrant) :
    CryptoResult Unit := do
  rejectIf (grant.accessLevel ∉ allowed)
    (.canonicalization "vault grant access exceeds delegation scope")
  rejectIf (grant.wrappedVaultKey.isEmpty ∨ maxOpaqueWrapBytes < grant.wrappedVaultKey.length)
    (.canonicalization "invalid delegation vault key wrap")
  rejectIf (grant.grantedSignature.isEmpty ∨ maxSignatureBytes < grant.grantedSignature.length)
    (.canonicalization "invalid delegation vault grant signature")

def validateContribution (contribution : AgentDelegationContribution) : CryptoResult Unit := do
  rejectIf (contribution.agentKemFingerprint.length ≠ 32)
    (.canonicalization "agent KEM fingerprint must be 32 bytes")
  rejectIf (contribution.agentSigningFingerprint.length ≠ 32)
    (.canonicalization "agent signing fingerprint must be 32 bytes")
  validateScope contribution
  rejectIf (contribution.expiresAtUnixSeconds < 0)
    (.canonicalization "delegation expiry must be non-negative")
  validateText contribution.requestNonce "invalid request nonce"
  validateText contribution.role "invalid participant role"
  rejectIf (maxMappings < contribution.mappings.length)
    (.canonicalization "delegation mappings exceed max length")
  rejectIf (maxVaultGrants < contribution.vaultGrants.length)
    (.canonicalization "delegation vault grants exceed max length")
  forM contribution.mappings validateMapping
  forM contribution.vaultGrants (validateGrant contribution.allowedAccessLevels)

/-! ## Canonical order -/

/-- Access levels in their declaration order. -/
def AgentDelegationAccessLevel.rank : AgentDelegationAccessLevel → ℕ
  | .read => 0
  | .write => 1
  | .admin => 2

def accessLevelCmp : AgentDelegationAccessLevel → AgentDelegationAccessLevel → Ordering :=
  compareOn AgentDelegationAccessLevel.rank

/-- Mappings by environment name, field group, vault, item and field. -/
def mappingCmp : AgentDelegationFieldMapping → AgentDelegationFieldMapping → Ordering :=
  compareLex (compareOn (fun m => utf8 m.environmentName)) <|
    compareLex (compareOn (fun m => m.fieldGroup.map utf8)) <|
      compareLex (compareOn (fun m => m.vaultId.toBytes)) <|
        compareLex (compareOn (fun m => m.itemId.toBytes)) (compareOn (fun m => utf8 m.field))

/-- Grants by vault and access level. -/
def vaultGrantCmp : AgentDelegationVaultGrant → AgentDelegationVaultGrant → Ordering :=
  compareLex (compareOn (fun g => g.vaultId.toBytes)) (compareOn (fun g => g.accessLevel.rank))

def stringCmp : String → String → Ordering := compareOn utf8

def provisionedVaultCmp : ProvisionedVault → ProvisionedVault → Ordering :=
  compareOn (fun v => utf8 v.key)

/-- Sort the lists of a provisioning block. -/
def canonicalizeProvisioning (unstable : Sorter) (p : AgentDelegationVaultProvisioning) :
    AgentDelegationVaultProvisioning :=
  { p with
    binding := { p.binding with keys := unstable.sort stringCmp p.binding.keys }
    provisionedVaults := unstable.sort provisionedVaultCmp p.provisionedVaults }

/-- Sort the lists of a contribution: mappings with the stable sort, the others with the unstable
    one. -/
def canonicalizeContribution (unstable : Sorter) (c : AgentDelegationContribution) :
    AgentDelegationContribution :=
  { c with
    mappings := Sorter.stable.sort mappingCmp c.mappings
    vaultGrants := unstable.sort vaultGrantCmp c.vaultGrants
    allowedAccessLevels := unstable.sort accessLevelCmp c.allowedAccessLevels
    vaultProvisioning := c.vaultProvisioning.map (canonicalizeProvisioning unstable) }

/-! ## The signed JSON -/

def AgentDelegationDecision.text : AgentDelegationDecision → String
  | .approve => "approve"
  | .decline => "decline"

def AgentDelegationScopeKind.text : AgentDelegationScopeKind → String
  | .secretFields => "secret_fields"
  | .vaultAccess => "vault_access"

def AgentDelegationTargetKind.text : AgentDelegationTargetKind → String
  | .existing => "existing"
  | .bootstrap => "bootstrap"

def AgentDelegationAccessLevel.text : AgentDelegationAccessLevel → String
  | .read => "read"
  | .write => "write"
  | .admin => "admin"

def VaultProvisioningGrantLifetime.text : VaultProvisioningGrantLifetime → String
  | .untilRevoked => "until_revoked"

def AgentDelegationFieldMapping.toJson (m : AgentDelegationFieldMapping) : Json :=
  .obj <|
    ("environment_name", .str m.environmentName)
      :: (Json.optMember "field_group" .str m.fieldGroup
        ++ [("vault_id", .uuid m.vaultId), ("item_id", .uuid m.itemId), ("field", .str m.field),
          ("item_key_wrap", .base64 m.itemKeyWrap)])

def AgentDelegationVaultGrant.toJson (g : AgentDelegationVaultGrant) : Json :=
  .obj
    [("vault_id", .uuid g.vaultId), ("access_level", .str g.accessLevel.text),
      ("wrapped_vault_key", .base64 g.wrappedVaultKey),
      ("granted_signature", .base64 g.grantedSignature)]

def VaultProvisioningBinding.toJson (b : VaultProvisioningBinding) : Json :=
  .obj
    [("keys", .array .str b.keys), ("vault_count", .int b.vaultCount.toNat),
      ("payload_digest", .str b.payloadDigest)]

def ProvisionedVault.toJson (v : ProvisionedVault) : Json :=
  .obj [("key", .str v.key), ("vault_id", .uuid v.vaultId), ("adopted", .bool v.adopted)]

def AgentDelegationVaultProvisioning.toJson (p : AgentDelegationVaultProvisioning) : Json :=
  .obj
    [("binding", p.binding.toJson), ("grant_lifetime", .str p.grantLifetime.text),
      ("provisioned_vaults", .array ProvisionedVault.toJson p.provisionedVaults)]

/-- The members that every contribution has. -/
def canonicalMembers (c : AgentDelegationContribution) : List (String × Json) :=
  [("domain", .str agentDelegationContributionDomain),
    ("request_id", .uuid c.requestId),
    ("result_id", .uuid c.resultId),
    ("destination_organization_id", .uuid c.destinationOrganizationId),
    ("scope_kind", .str c.scopeKind.text),
    ("deployment_id", .orNull .uuid c.deploymentId),
    ("deployment_revision_id", .orNull .uuid c.deploymentRevisionId),
    ("agent_identity_id", .uuid c.agentIdentityId),
    ("agent_target_kind", .str c.agentTargetKind.text),
    ("agent_kem_fingerprint_b64", .base64 c.agentKemFingerprint),
    ("agent_signing_fingerprint_b64", .base64 c.agentSigningFingerprint),
    ("allowed_access_levels", .array (fun l => .str l.text) c.allowedAccessLevels),
    ("request_nonce", .str c.requestNonce),
    ("expires_at_unix_seconds", .int c.expiresAtUnixSeconds.toInt),
    ("participant_id", .uuid c.participantId),
    ("role", .str c.role),
    ("stage", .int c.stage.toNat),
    ("actor_organization_id", .uuid c.actorOrganizationId),
    ("actor_user_id", .uuid c.actorUserId),
    ("actor_identity_id", .uuid c.actorIdentityId),
    ("contribution_id", .uuid c.contributionId),
    ("decision", .str c.decision.text),
    ("mappings", .array AgentDelegationFieldMapping.toJson c.mappings),
    ("vault_grants", .array AgentDelegationVaultGrant.toJson c.vaultGrants)]

/-- The signed projection of a contribution. -/
def canonicalContribution (c : AgentDelegationContribution) : Json :=
  .obj (canonicalMembers c
    ++ Json.optMember "vault_provisioning" AgentDelegationVaultProvisioning.toJson
      c.vaultProvisioning)

/-- Refuse a canonically ordered contribution with equal neighbours. -/
def rejectDuplicates (c : AgentDelegationContribution) : CryptoResult Unit := do
  rejectIf (hasAdjacent (fun a b => a == b) c.allowedAccessLevels)
    (.canonicalization "duplicate delegation access level")
  rejectIf (hasAdjacent (fun a b => a.environmentName == b.environmentName) c.mappings)
    (.canonicalization "duplicate delegation environment mapping")
  rejectIf (hasAdjacent (fun a b => a.vaultId == b.vaultId) c.vaultGrants)
    (.canonicalization "duplicate delegation vault grant")

/-- The JSON bytes a delegation participant signs. `unstable` stands for the standard library's
    unstable sort, of which only the order of the result is known. -/
def agentDelegationContributionPayload (unstable : Sorter) (c : AgentDelegationContribution) :
    CryptoResult Bytes := do
  validateContribution c
  let c := canonicalizeContribution unstable c
  rejectDuplicates c
  return (canonicalContribution c).write

/-! ## Reordering the lists -/

/-- The same provisioning block up to the order of its keys and of its vaults. -/
inductive AgentDelegationVaultProvisioning.Reordered (p : AgentDelegationVaultProvisioning) :
    AgentDelegationVaultProvisioning → Prop
  | intro {keys : List String} {vaults : List ProvisionedVault}
      (hkeys : p.binding.keys.Perm keys) (hvaults : p.provisionedVaults.Perm vaults) :
      p.Reordered { p with binding := { p.binding with keys := keys }, provisionedVaults := vaults }

/-- The same contribution up to the order of its mappings, grants, access levels and of the lists of
    its provisioning block. -/
inductive AgentDelegationContribution.Reordered (c : AgentDelegationContribution) :
    AgentDelegationContribution → Prop
  | intro {mappings : List AgentDelegationFieldMapping} {grants : List AgentDelegationVaultGrant}
      {levels : List AgentDelegationAccessLevel}
      {provisioning : Option AgentDelegationVaultProvisioning}
      (hmappings : c.mappings.Perm mappings) (hgrants : c.vaultGrants.Perm grants)
      (hlevels : c.allowedAccessLevels.Perm levels)
      (hprovisioning : Option.Rel AgentDelegationVaultProvisioning.Reordered
        c.vaultProvisioning provisioning) :
      c.Reordered { c with
        mappings := mappings, vaultGrants := grants, allowedAccessLevels := levels,
        vaultProvisioning := provisioning }

theorem AgentDelegationVaultProvisioning.Reordered.symm {p p' : AgentDelegationVaultProvisioning}
    (h : p.Reordered p') : p'.Reordered p := by
  obtain ⟨hkeys, hvaults⟩ := h
  exact .intro hkeys.symm hvaults.symm

theorem AgentDelegationContribution.Reordered.symm {c c' : AgentDelegationContribution}
    (h : c.Reordered c') : c'.Reordered c := by
  obtain ⟨hmappings, hgrants, hlevels, hprovisioning⟩ := h
  refine .intro hmappings.symm hgrants.symm hlevels.symm ?_
  revert hprovisioning
  generalize c.vaultProvisioning = p
  intro hprovisioning
  cases hprovisioning with
  | none => exact .none
  | some hp => exact .some hp.symm

theorem perm_ne_singleton {α : Type} {l l' : List α} (h : l.Perm l') (a : α) :
    l ≠ [a] ↔ l' ≠ [a] := by
  rw [ne_eq, ne_eq, ← List.perm_singleton, ← List.perm_singleton]
  exact not_congr ⟨h.symm.trans, h.trans⟩

/-! ### Validation does not see the order -/

theorem VaultProvisioningBinding.validate_reordered {b : VaultProvisioningBinding}
    {keys : List String} (h : b.keys.Perm keys) :
    VaultProvisioningBinding.validate { b with keys := keys } = b.validate := by
  simp only [VaultProvisioningBinding.validate, h.isEmpty_eq, h.length_eq, h.any_eq,
    List.toFinset_eq_of_perm _ _ h]

theorem validateVaultProvisioning_reordered {c c' : AgentDelegationContribution}
    {p p' : AgentDelegationVaultProvisioning} (hc : c.Reordered c') (hp : p.Reordered p') :
    validateVaultProvisioning c' p' = validateVaultProvisioning c p := by
  obtain ⟨hmappings, hgrants, hlevels, -⟩ := hc
  obtain ⟨hkeys, hvaults⟩ := hp
  simp only [validateVaultProvisioning, VaultProvisioningBinding.validate_reordered hkeys,
    ← perm_ne_singleton hlevels, hmappings.isEmpty_eq, hvaults.isEmpty_eq,
    hgrants.isEmpty_eq, List.toFinset_eq_of_perm _ _ hkeys,
    List.toFinset_eq_of_perm _ _ (hvaults.map _), List.toFinset_eq_of_perm _ _ (hgrants.map _),
    hvaults.length_eq, hgrants.length_eq, hgrants.any_eq]

theorem validateScope_reordered {c c' : AgentDelegationContribution} (h : c.Reordered c') :
    validateScope c' = validateScope c := by
  have hprov : ∀ p p', p.Reordered p' → validateVaultProvisioning c' p'
      = validateVaultProvisioning c p := fun p p' hp => validateVaultProvisioning_reordered h hp
  obtain ⟨hmappings, hgrants, hlevels, hprovisioning⟩ := h
  unfold validateScope
  cases c.scopeKind with
  | secretFields =>
      have hsome : ∀ {x y : Option AgentDelegationVaultProvisioning},
          Option.Rel AgentDelegationVaultProvisioning.Reordered x y → x.isSome = y.isSome := by
        intro x y hxy
        cases hxy <;> rfl
      simp only [hsome hprovisioning, ← perm_ne_singleton hlevels]
  | vaultAccess =>
      -- The relation can only be split once the field of `c` is a variable.
      revert hprovisioning
      generalize c.vaultProvisioning = p
      intro hprovisioning
      cases hprovisioning with
      | none => simp only [hlevels.isEmpty_eq]
      | some hp => exact hprov _ _ hp

theorem validateContribution_reordered {c c' : AgentDelegationContribution} (h : c.Reordered c')
    (hc : validateContribution c = .ok ()) : validateContribution c' = .ok () := by
  have hscope := validateScope_reordered h
  obtain ⟨hmappings, hgrants, hlevels, hprovisioning⟩ := h
  simp only [validateContribution, Except.bind_unit_eq_ok, rejectIf_eq_ok, Except.forM_eq_ok]
    at hc ⊢
  obtain ⟨hkem, hsigning, hsc, hexpiry, hnonce, hrole, hmax, hmaxGrants, hm, hg⟩ := hc
  refine ⟨hkem, hsigning, hscope.trans hsc, hexpiry, hnonce, hrole, ?_, ?_, ?_, ?_⟩
  · rwa [← hmappings.length_eq]
  · rwa [← hgrants.length_eq]
  · intro m hmem
    exact hm m (hmappings.mem_iff.mpr hmem)
  · intro g hmem
    have hgrant := hg g (hgrants.mem_iff.mpr hmem)
    unfold validateGrant at hgrant ⊢
    simpa only [hlevels.mem_iff] using hgrant

/-! ### The canonical order leaves no tie -/

instance : Std.TransCmp accessLevelCmp := inferInstanceAs (Std.TransCmp (compareOn _))
instance : Std.TransCmp stringCmp := inferInstanceAs (Std.TransCmp (compareOn _))
instance : Std.TransCmp provisionedVaultCmp := inferInstanceAs (Std.TransCmp (compareOn _))
instance : Std.TransCmp vaultGrantCmp := inferInstanceAs (Std.TransCmp (compareLex _ _))
instance : Std.TransCmp mappingCmp := inferInstanceAs (Std.TransCmp (compareLex _ _))

theorem accessLevelRank_injective : Function.Injective AgentDelegationAccessLevel.rank := by
  intro a b h
  cases a <;> cases b <;> first | rfl | exact absurd h (by decide)

instance : Std.LawfulEqCmp accessLevelCmp := lawfulEqCmp_compareOn accessLevelRank_injective
instance : Std.LawfulEqCmp stringCmp := lawfulEqCmp_compareOn utf8_injective

/-- UUIDs in byte order. -/
def uuidCmp : Uuid → Uuid → Ordering := compareOn FixedBytes.toBytes

instance : Std.TransCmp uuidCmp := inferInstanceAs (Std.TransCmp (compareOn _))
instance : Std.LawfulEqCmp uuidCmp := lawfulEqCmp_compareOn FixedBytes.toBytes_injective

theorem mappingCmp_keyFirst : KeyFirst mappingCmp (·.environmentName) stringCmp :=
  KeyFirst.lex (fun _ _ h => h)

theorem vaultGrantCmp_keyFirst : KeyFirst vaultGrantCmp (·.vaultId) uuidCmp :=
  KeyFirst.lex (fun _ _ h => h)

theorem provisionedVaultCmp_keyFirst : KeyFirst provisionedVaultCmp (·.key) stringCmp :=
  fun _ _ h => h

theorem accessLevelCmp_keyFirst : KeyFirst accessLevelCmp (fun l => l) accessLevelCmp :=
  fun _ _ h => h

theorem stringCmp_keyFirst : KeyFirst stringCmp (fun s => s) stringCmp :=
  fun _ _ h => h

/-- The checks on neighbours reject exactly the lists with a repeated key. -/
theorem rejectDuplicates_canonicalize {unstable : Sorter} {c : AgentDelegationContribution} :
    rejectDuplicates (canonicalizeContribution unstable c) = .ok () ↔
      c.allowedAccessLevels.Nodup ∧ (c.mappings.map (·.environmentName)).Nodup
        ∧ (c.vaultGrants.map (·.vaultId)).Nodup := by
  have hlevels := unstable.hasAdjacent_sort_eq_false_iff accessLevelCmp_keyFirst
    c.allowedAccessLevels
  have hmappings := Sorter.stable.hasAdjacent_sort_eq_false_iff mappingCmp_keyFirst c.mappings
  have hgrants := unstable.hasAdjacent_sort_eq_false_iff vaultGrantCmp_keyFirst c.vaultGrants
  rw [List.map_id'] at hlevels
  simp only [rejectDuplicates, Except.bind_unit_eq_ok, rejectIf_eq_ok, Bool.not_eq_true]
  simp only [canonicalizeContribution, hlevels, hmappings, hgrants]

theorem nodup_of_card_toFinset {α : Type} [DecidableEq α] {l : List α}
    (h : l.toFinset.card = l.length) : l.Nodup := by
  rw [← Multiset.coe_nodup, ← Multiset.toFinset_card_eq_card_iff_nodup]
  exact h

/-- An accepted provisioning block has neither a repeated key nor two vaults for one key. -/
theorem nodup_of_validateVaultProvisioning {c : AgentDelegationContribution}
    {p : AgentDelegationVaultProvisioning} (h : validateVaultProvisioning c p = .ok ()) :
    p.binding.keys.Nodup ∧ (p.provisionedVaults.map (·.key)).Nodup := by
  unfold validateVaultProvisioning at h
  obtain ⟨hbinding, h⟩ := Except.bind_unit_eq_ok.mp h
  obtain ⟨-, h⟩ := Except.bind_unit_eq_ok.mp h
  unfold VaultProvisioningBinding.validate at hbinding
  simp only [rejectIf_eq_ok, not_or, not_not] at hbinding
  have hkeys : p.binding.keys.Nodup := nodup_of_card_toFinset hbinding.2.2.2.2.1
  refine ⟨hkeys, ?_⟩
  split at h
  · simp only [rejectIf_eq_ok, not_or, not_not, List.isEmpty_iff] at h
    rw [h.1]
    exact List.nodup_nil
  · simp only [rejectIf_eq_ok, not_or, not_not] at h
    apply nodup_of_card_toFinset
    rw [List.length_map, h.2.1, h.1]

theorem nodup_of_validateContribution {c : AgentDelegationContribution}
    (h : validateContribution c = .ok ()) :
    ∀ p ∈ c.vaultProvisioning, p.binding.keys.Nodup ∧ (p.provisionedVaults.map (·.key)).Nodup := by
  intro p hp
  simp only [validateContribution, Except.bind_unit_eq_ok] at h
  have hscope := h.2.2.1
  unfold validateScope at hscope
  rw [Option.mem_def] at hp
  cases hkind : c.scopeKind with
  | secretFields =>
      simp only [hkind, rejectIf_eq_ok, hp, Option.isSome_some, true_or, not_true_eq_false]
        at hscope
  | vaultAccess =>
      simp only [hkind, hp] at hscope
      exact nodup_of_validateVaultProvisioning hscope

theorem canonicalizeProvisioning_reordered (unstable : Sorter)
    {p p' : AgentDelegationVaultProvisioning} (hp : p.Reordered p')
    (hkeys : p.binding.keys.Nodup) (hvaults : (p.provisionedVaults.map (·.key)).Nodup) :
    canonicalizeProvisioning unstable p' = canonicalizeProvisioning unstable p := by
  obtain ⟨hpermKeys, hpermVaults⟩ := hp
  have hsortKeys := unstable.sort_eq_of_perm_of_nodup stringCmp_keyFirst
    (by rwa [List.map_id']) hpermKeys
  have hsortVaults := unstable.sort_eq_of_perm_of_nodup provisionedVaultCmp_keyFirst hvaults
    hpermVaults
  simp only [canonicalizeProvisioning, hsortKeys, hsortVaults]

/-- Two orders of one accepted contribution have one canonical order. -/
theorem canonicalizeContribution_reordered {unstable : Sorter} {c c' : AgentDelegationContribution}
    (h : c.Reordered c') (hvalid : validateContribution c = .ok ())
    (hdup : rejectDuplicates (canonicalizeContribution unstable c) = .ok ()) :
    canonicalizeContribution unstable c' = canonicalizeContribution unstable c := by
  have hprovNodup := nodup_of_validateContribution hvalid
  obtain ⟨hlevelsNodup, hmappingsNodup, hgrantsNodup⟩ := rejectDuplicates_canonicalize.mp hdup
  obtain ⟨hmappings, hgrants, hlevels, hprovisioning⟩ := h
  -- No two entries that passed share a sort key, so no tie is left to the sort.
  have hsortLevels := unstable.sort_eq_of_perm_of_nodup accessLevelCmp_keyFirst
    (by rwa [List.map_id']) hlevels
  have hsortMappings := Sorter.stable.sort_eq_of_perm_of_nodup mappingCmp_keyFirst hmappingsNodup
    hmappings
  have hsortGrants := unstable.sort_eq_of_perm_of_nodup vaultGrantCmp_keyFirst hgrantsNodup hgrants
  simp only [canonicalizeContribution, hsortLevels, hsortMappings, hsortGrants]
  congr 1
  revert hprovisioning hprovNodup
  generalize c.vaultProvisioning = p
  intro hprovNodup hprovisioning
  cases hprovisioning with
  | none => rfl
  | some hp =>
      obtain ⟨hkeys, hvaults⟩ := hprovNodup _ rfl
      exact congrArg some (canonicalizeProvisioning_reordered unstable hp hkeys hvaults)

theorem payload_eq_ok {unstable : Sorter} {c : AgentDelegationContribution} {bytes : Bytes} :
    agentDelegationContributionPayload unstable c = .ok bytes ↔
      validateContribution c = .ok () ∧
        rejectDuplicates (canonicalizeContribution unstable c) = .ok () ∧
          (canonicalContribution (canonicalizeContribution unstable c)).write = bytes := by
  simp only [agentDelegationContributionPayload, Except.bind_unit_eq_ok, Except.pure_eq_ok]

/-- An accepted contribution is accepted in every other order, with the same payload. -/
theorem payload_ok_reordered {unstable : Sorter} {c c' : AgentDelegationContribution}
    {bytes : Bytes} (h : c.Reordered c')
    (hc : agentDelegationContributionPayload unstable c = .ok bytes) :
    agentDelegationContributionPayload unstable c' = .ok bytes := by
  obtain ⟨hvalid, hdup, hbytes⟩ := payload_eq_ok.mp hc
  have hcanonical := canonicalizeContribution_reordered h hvalid hdup
  refine payload_eq_ok.mpr ⟨validateContribution_reordered h hvalid, ?_, ?_⟩
  · rwa [hcanonical]
  · rwa [hcanonical]

/-- **The payload does not depend on the order of the lists**: two orders of one contribution are
    both rejected or have the same payload. -/
theorem payload_reordered (unstable : Sorter) {c c' : AgentDelegationContribution}
    (h : c.Reordered c') :
    (∃ e e', agentDelegationContributionPayload unstable c = .error e ∧
        agentDelegationContributionPayload unstable c' = .error e') ∨
      ∃ bytes, agentDelegationContributionPayload unstable c = .ok bytes ∧
        agentDelegationContributionPayload unstable c' = .ok bytes := by
  cases hc : agentDelegationContributionPayload unstable c with
  | ok bytes => exact .inr ⟨bytes, rfl, payload_ok_reordered h hc⟩
  | error e =>
      cases hc' : agentDelegationContributionPayload unstable c' with
      | error e' => exact .inl ⟨e, e', rfl, rfl⟩
      | ok bytes =>
          have hback := payload_ok_reordered h.symm hc'
          rw [hc] at hback
          exact absurd hback (by simp)

/-- A secret-field contribution with the given mappings. -/
def exampleContribution (mappings : List AgentDelegationFieldMapping) :
    AgentDelegationContribution where
  requestId := .replicate 16 1
  resultId := .replicate 16 2
  destinationOrganizationId := .replicate 16 3
  scopeKind := .secretFields
  deploymentId := some (.replicate 16 4)
  deploymentRevisionId := some (.replicate 16 5)
  agentIdentityId := .replicate 16 6
  agentTargetKind := .existing
  agentKemFingerprint := List.replicate 32 7
  agentSigningFingerprint := List.replicate 32 8
  allowedAccessLevels := [.read]
  requestNonce := "nonce"
  expiresAtUnixSeconds := 1700000000
  participantId := .replicate 16 9
  role := "owner"
  stage := 0
  actorOrganizationId := .replicate 16 10
  actorUserId := .replicate 16 11
  actorIdentityId := .replicate 16 12
  contributionId := .replicate 16 13
  decision := .approve
  mappings := mappings
  vaultGrants := []
  vaultProvisioning := none

/-- A mapping of an environment variable to a field of one item. -/
def exampleMapping (environmentName : String) : AgentDelegationFieldMapping where
  environmentName := environmentName
  fieldGroup := none
  vaultId := .replicate 16 14
  itemId := .replicate 16 15
  field := "password"
  itemKeyWrap := [1, 2, 3]

theorem example_reordered :
    (exampleContribution [exampleMapping "B", exampleMapping "A"]).Reordered
      (exampleContribution [exampleMapping "A", exampleMapping "B"]) :=
  .intro (.swap ..) .nil (.refl _) .none

theorem example_payload_ok (unstable : Sorter) :
    ∃ bytes, agentDelegationContributionPayload unstable
      (exampleContribution [exampleMapping "B", exampleMapping "A"]) = .ok bytes :=
  ⟨_, payload_eq_ok.mpr ⟨by decide, rejectDuplicates_canonicalize.mpr (by decide), rfl⟩⟩

/-- Swapping the two mappings of an accepted contribution keeps its payload. -/
theorem payload_reordered_swap :
    (∃ e e', agentDelegationContributionPayload .stable
        (exampleContribution [exampleMapping "B", exampleMapping "A"]) = .error e ∧
      agentDelegationContributionPayload .stable
        (exampleContribution [exampleMapping "A", exampleMapping "B"]) = .error e') ∨
    ∃ bytes, agentDelegationContributionPayload .stable
        (exampleContribution [exampleMapping "B", exampleMapping "A"]) = .ok bytes ∧
      agentDelegationContributionPayload .stable
        (exampleContribution [exampleMapping "A", exampleMapping "B"]) = .ok bytes :=
  payload_reordered .stable example_reordered

/-! ## The payload binds the contribution -/

@[simp] theorem AgentDelegationDecision.text_inj {a b : AgentDelegationDecision} :
    a.text = b.text ↔ a = b := by
  cases a <;> cases b <;> decide

@[simp] theorem AgentDelegationScopeKind.text_inj {a b : AgentDelegationScopeKind} :
    a.text = b.text ↔ a = b := by
  cases a <;> cases b <;> decide

@[simp] theorem AgentDelegationTargetKind.text_inj {a b : AgentDelegationTargetKind} :
    a.text = b.text ↔ a = b := by
  cases a <;> cases b <;> decide

@[simp] theorem AgentDelegationAccessLevel.text_inj {a b : AgentDelegationAccessLevel} :
    a.text = b.text ↔ a = b := by
  cases a <;> cases b <;> decide

theorem AgentDelegationFieldMapping.toJson_injective :
    Function.Injective AgentDelegationFieldMapping.toJson := by
  rintro ⟨env, group, vault, item, field, wrap⟩ ⟨env', group', vault', item', field', wrap'⟩ h
  simp only [toJson, Json.obj.injEq, List.cons.injEq, Prod.mk.injEq, Json.str.injEq,
    true_and] at h
  obtain ⟨henv, hrest⟩ := h
  -- The optional member is the only one whose presence can differ.
  have hlen := congrArg List.length hrest
  simp only [List.length_append, List.length_cons, List.length_nil] at hlen
  obtain ⟨hgroup, hmembers⟩ := List.append_inj hrest (by omega)
  have hgroup := Json.optMember_injective (fun _ _ => Json.str.inj) hgroup
  simp only [List.cons.injEq, Prod.mk.injEq, Json.uuid_inj, Json.str.injEq, Json.base64_inj,
    true_and, and_true] at hmembers
  obtain ⟨hvault, hitem, hfield, hwrap⟩ := hmembers
  rw [henv, hgroup, hvault, hitem, hfield, hwrap]

theorem AgentDelegationVaultGrant.toJson_injective :
    Function.Injective AgentDelegationVaultGrant.toJson := by
  rintro ⟨vault, level, key, signature⟩ ⟨vault', level', key', signature'⟩ h
  simp only [toJson, Json.obj.injEq, List.cons.injEq, Prod.mk.injEq, Json.uuid_inj,
    Json.str.injEq, Json.base64_inj, AgentDelegationAccessLevel.text_inj, true_and, and_true] at h
  obtain ⟨hvault, hlevel, hkey, hsignature⟩ := h
  rw [hvault, hlevel, hkey, hsignature]

theorem ProvisionedVault.toJson_injective : Function.Injective ProvisionedVault.toJson := by
  rintro ⟨key, vault, adopted⟩ ⟨key', vault', adopted'⟩ h
  simp only [toJson, Json.obj.injEq, List.cons.injEq, Prod.mk.injEq, Json.uuid_inj,
    Json.str.injEq, Json.bool.injEq, true_and, and_true] at h
  obtain ⟨hkey, hvault, hadopted⟩ := h
  rw [hkey, hvault, hadopted]

theorem VaultProvisioningBinding.toJson_injective :
    Function.Injective VaultProvisioningBinding.toJson := by
  rintro ⟨keys, count, digest⟩ ⟨keys', count', digest'⟩ h
  simp only [toJson, Json.obj.injEq, List.cons.injEq, Prod.mk.injEq, Json.int_inj,
    Json.str.injEq, Int.natCast_inj, UInt16.toNat_inj, true_and, and_true] at h
  obtain ⟨hkeys, hcount, hdigest⟩ := h
  rw [Json.array_injective (fun _ _ => Json.str.inj) hkeys, hcount, hdigest]

theorem AgentDelegationVaultProvisioning.toJson_injective :
    Function.Injective AgentDelegationVaultProvisioning.toJson := by
  rintro ⟨binding, ⟨⟩, vaults⟩ ⟨binding', ⟨⟩, vaults'⟩ h
  simp only [toJson, Json.obj.injEq, List.cons.injEq, Prod.mk.injEq, true_and, and_true] at h
  obtain ⟨hbinding, hvaults⟩ := h
  rw [VaultProvisioningBinding.toJson_injective hbinding,
    Json.array_injective ProvisionedVault.toJson_injective hvaults]

/-- The signed JSON value determines every field of the canonically ordered contribution. -/
theorem canonicalContribution_injective : Function.Injective canonicalContribution := by
  intro c c' h
  -- `vault_provisioning` is the one member that may be missing, and it comes last.
  obtain ⟨hmembers, hoptional⟩ := List.append_inj (Json.obj.inj h) rfl
  have hprovisioning :=
    Json.optMember_injective AgentDelegationVaultProvisioning.toJson_injective hoptional
  have hlevelText : Function.Injective
      (fun l : AgentDelegationAccessLevel => Json.str l.text) := by
    intro a b hab
    simpa using hab
  simp only [canonicalMembers, List.cons.injEq, Prod.mk.injEq, Json.uuid_inj, Json.str.injEq,
    Json.base64_inj, Json.int_inj, Json.orNull_uuid_inj, AgentDelegationScopeKind.text_inj,
    AgentDelegationTargetKind.text_inj, AgentDelegationDecision.text_inj,
    (Json.array_injective hlevelText).eq_iff, Int64.toInt_inj, Int.natCast_inj, UInt16.toNat_inj,
    (Json.array_injective AgentDelegationFieldMapping.toJson_injective).eq_iff,
    (Json.array_injective AgentDelegationVaultGrant.toJson_injective).eq_iff,
    true_and, and_true] at hmembers
  cases c
  cases c'
  dsimp only at hmembers hprovisioning
  obtain ⟨rfl, rfl, rfl, rfl, rfl, rfl, rfl, rfl, rfl, rfl, rfl, rfl, rfl, rfl, rfl, rfl, rfl, rfl,
    rfl, rfl, rfl, rfl, rfl⟩ := hmembers
  subst hprovisioning
  rfl

theorem reordered_of_canonicalizeProvisioning_eq {unstable : Sorter}
    {p p' : AgentDelegationVaultProvisioning}
    (h : canonicalizeProvisioning unstable p = canonicalizeProvisioning unstable p') :
    p.Reordered p' := by
  obtain ⟨⟨keys, count, digest⟩, ⟨⟩, vaults⟩ := p
  obtain ⟨⟨keys', count', digest'⟩, ⟨⟩, vaults'⟩ := p'
  simp only [canonicalizeProvisioning, AgentDelegationVaultProvisioning.mk.injEq,
    VaultProvisioningBinding.mk.injEq] at h
  obtain ⟨⟨hkeys, rfl, rfl⟩, -, hvaults⟩ := h
  exact .intro (unstable.perm_of_sort_eq hkeys) (unstable.perm_of_sort_eq hvaults)

/-- Contributions with one canonical order differ in the order of their lists only. -/
theorem reordered_of_canonicalizeContribution_eq {unstable : Sorter}
    {c c' : AgentDelegationContribution}
    (h : canonicalizeContribution unstable c = canonicalizeContribution unstable c') :
    c.Reordered c' := by
  have hprov : Option.Rel AgentDelegationVaultProvisioning.Reordered c.vaultProvisioning
      c'.vaultProvisioning := by
    have hmap := congrArg AgentDelegationContribution.vaultProvisioning h
    simp only [canonicalizeContribution] at hmap
    revert hmap
    cases c.vaultProvisioning with
    | none =>
        cases c'.vaultProvisioning with
        | none => exact fun _ => .none
        | some p' => exact fun hmap => absurd hmap (by simp)
    | some p =>
        cases c'.vaultProvisioning with
        | none => exact fun hmap => absurd hmap (by simp)
        | some p' =>
            intro hmap
            exact .some (reordered_of_canonicalizeProvisioning_eq (Option.some.inj hmap))
  cases c
  cases c'
  simp only [canonicalizeContribution, AgentDelegationContribution.mk.injEq] at h
  obtain ⟨rfl, rfl, rfl, rfl, rfl, rfl, rfl, rfl, rfl, rfl, hlevels, rfl, rfl, rfl, rfl, rfl, rfl,
    rfl, rfl, rfl, rfl, hmappings, hgrants, -⟩ := h
  exact .intro (Sorter.stable.perm_of_sort_eq hmappings) (unstable.perm_of_sort_eq hgrants)
    (unstable.perm_of_sort_eq hlevels) hprov

/-- **The payload binds the whole contribution**: accepted contributions with one payload differ in
    the order of their lists only. -/
theorem payload_binds (unstable : Sorter) {c c' : AgentDelegationContribution} {bytes : Bytes}
    (hc : agentDelegationContributionPayload unstable c = .ok bytes)
    (hc' : agentDelegationContributionPayload unstable c' = .ok bytes) : c.Reordered c' := by
  obtain ⟨-, -, hbytes⟩ := payload_eq_ok.mp hc
  obtain ⟨-, -, hbytes'⟩ := payload_eq_ok.mp hc'
  have hvalue := Json.write_injective (hbytes.trans hbytes'.symm)
  exact reordered_of_canonicalizeContribution_eq (canonicalContribution_injective hvalue)

/-- Two orders of one accepted contribution have one payload, and are bound together by it. -/
theorem payload_binds_swap :
    ∃ bytes, agentDelegationContributionPayload .stable
        (exampleContribution [exampleMapping "B", exampleMapping "A"]) = .ok bytes ∧
      agentDelegationContributionPayload .stable
        (exampleContribution [exampleMapping "A", exampleMapping "B"]) = .ok bytes ∧
      (exampleContribution [exampleMapping "B", exampleMapping "A"]).Reordered
        (exampleContribution [exampleMapping "A", exampleMapping "B"]) := by
  obtain ⟨bytes, hbytes⟩ := example_payload_ok .stable
  have hswapped := payload_ok_reordered example_reordered hbytes
  exact ⟨bytes, hbytes, hswapped, payload_binds .stable hbytes hswapped⟩

end SerenSecrets
