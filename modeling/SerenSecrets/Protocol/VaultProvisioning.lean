import SerenSecrets.Protocol.AgentDelegation

set_option autoImplicit false

/-! # Which provisioning contributions are accepted

A contribution that provisions vaults is checked in several places: the binding's own fields, set
and length comparisons between keys, vaults and grants, the limits on every contribution, and the
search for equal neighbours after sorting. `WellFormedProvisioning` says what these amount to:
keys, vaults and grants stand in a one-to-one correspondence. The payload exists exactly for the
well-formed contributions (`payload_ok_iff_wellFormed`). -/

namespace SerenSecrets

/-! ## Well-formed contributions -/

/-- Text or bytes of 1 to 4096 bytes. -/
def Bounded (bytes : Bytes) : Prop := 1 ≤ bytes.length ∧ bytes.length ≤ 4096

structure VaultProvisioningBinding.WellFormed (binding : VaultProvisioningBinding) : Prop where
  count : 1 ≤ binding.keys.length ∧ binding.keys.length ≤ 50
  distinct : binding.keys.Nodup
  keys : ∀ key ∈ binding.keys, ¬ isBlank key = true ∧ (utf8 key).length ≤ 4096
  vaultCount : binding.vaultCount.toNat = binding.keys.length
  digest : (utf8 binding.payloadDigest).length = 64 ∧
    ∀ b ∈ utf8 binding.payloadDigest, isLowerHexByte b = true

/-- Each key has one vault and each vault one key and one grant, which is for writing. -/
structure OneToOne (keys : List String) (vaults : List ProvisionedVault)
    (grants : List AgentDelegationVaultGrant) : Prop where
  keyed : (vaults.map (·.key)).Perm keys
  distinct : (vaults.map (·.vaultId)).Nodup
  granted : (grants.map (·.vaultId)).Perm (vaults.map (·.vaultId))
  write : ∀ grant ∈ grants, grant.accessLevel = .write

/-- What is granted follows the decision. -/
def FollowsDecision (c : AgentDelegationContribution) (p : AgentDelegationVaultProvisioning) :
    Prop :=
  (c.decision = .decline ∧ p.provisionedVaults = [] ∧ c.vaultGrants = []) ∨
  (c.decision = .approve ∧ OneToOne p.binding.keys p.provisionedVaults c.vaultGrants ∧
    ∀ grant ∈ c.vaultGrants, Bounded grant.wrappedVaultKey ∧ Bounded grant.grantedSignature)

structure WellFormedProvisioning (c : AgentDelegationContribution)
    (p : AgentDelegationVaultProvisioning) : Prop where
  scope : c.scopeKind = .vaultAccess
  kemFingerprint : c.agentKemFingerprint.length = 32
  signingFingerprint : c.agentSigningFingerprint.length = 32
  expiry : 0 ≤ c.expiresAtUnixSeconds
  nonce : Bounded (utf8 c.requestNonce)
  role : Bounded (utf8 c.role)
  deployment : c.deploymentId.isSome = true ∧ c.deploymentRevisionId.isSome = true
  target : c.agentTargetKind = .existing
  levels : c.allowedAccessLevels = [.write]
  mappings : c.mappings = []
  binding : p.binding.WellFormed
  decision : FollowsDecision c p

/-! ## The checks on the binding and on the correspondence -/

theorem nodup_iff_card_toFinset {α : Type} [DecidableEq α] {l : List α} :
    l.Nodup ↔ l.toFinset.card = l.length :=
  ⟨List.toFinset_card_of_nodup, nodup_of_card_toFinset⟩

/-- A list with the elements of `m` and as many entries as `m` has elements is a permutation. -/
theorem perm_iff_toFinset {α : Type} [DecidableEq α] {l m : List α} (hm : m.Nodup) :
    l.Perm m ↔ m.toFinset = l.toFinset ∧ l.length = m.toFinset.card := by
  constructor
  · intro h
    rw [List.toFinset_card_of_nodup hm]
    exact ⟨(List.toFinset_eq_of_perm _ _ h).symm, h.length_eq⟩
  · rintro ⟨helements, hlength⟩
    have hl : l.Nodup := by
      rw [nodup_iff_card_toFinset, ← helements, hlength]
    exact List.perm_of_nodup_nodup_toFinset_eq hl hm helements.symm

theorem validateText_eq_ok {value message : String} :
    validateText value message = .ok () ↔ Bounded (utf8 value) := by
  rw [validateText, rejectIf_eq_ok, Bounded, maxTextBytes]
  omega

theorem VaultProvisioningBinding.validate_eq_ok {binding : VaultProvisioningBinding} :
    binding.validate = .ok () ↔ binding.WellFormed := by
  simp only [validate, rejectIf_eq_ok, not_or, not_not, List.any_eq_true, not_exists, not_and,
    Bool.or_eq_true, decide_eq_true_eq, List.all_eq_true, List.isEmpty_iff, Nat.not_lt]
  simp only [maxProvisionedVaults, maxTextBytes]
  constructor
  · rintro ⟨hne, hmax, hcount, hkeys, hdistinct, hlength, hhex⟩
    have hpos : binding.keys.length ≠ 0 := fun h => hne (List.length_eq_zero_iff.mp h)
    exact ⟨⟨by omega, hmax⟩, nodup_of_card_toFinset hdistinct, hkeys, hcount.symm, hlength, hhex⟩
  · rintro ⟨⟨hpos, hmax⟩, hdistinct, hkeys, hcount, hlength, hhex⟩
    have hne : binding.keys ≠ [] := fun h => absurd hpos (by simp [h])
    exact ⟨hne, hmax, hcount.symm, hkeys, List.toFinset_card_of_nodup hdistinct, hlength, hhex⟩

/-- The comparisons of sets and lengths, in the order of the code. -/
def MatchesGrants (c : AgentDelegationContribution) (p : AgentDelegationVaultProvisioning) :
    Prop :=
  p.binding.keys.toFinset = (p.provisionedVaults.map (·.key)).toFinset ∧
  p.provisionedVaults.length = p.binding.keys.toFinset.card ∧
  (p.provisionedVaults.map (·.vaultId)).toFinset.card = p.binding.keys.toFinset.card ∧
  c.vaultGrants.length = p.binding.keys.toFinset.card ∧
  (p.provisionedVaults.map (·.vaultId)).toFinset = (c.vaultGrants.map (·.vaultId)).toFinset ∧
  ∀ grant ∈ c.vaultGrants, grant.accessLevel = .write

theorem matchesGrants_iff {c : AgentDelegationContribution} {p : AgentDelegationVaultProvisioning}
    (hkeys : p.binding.keys.Nodup) :
    MatchesGrants c p ↔ OneToOne p.binding.keys p.provisionedVaults c.vaultGrants := by
  constructor
  · rintro ⟨hset, hlength, hvaults, hgrants, hgranted, hwrite⟩
    have hdistinct : (p.provisionedVaults.map (·.vaultId)).Nodup := by
      rw [nodup_iff_card_toFinset, List.length_map, hvaults, hlength]
    refine ⟨?_, hdistinct, ?_, hwrite⟩
    · exact (perm_iff_toFinset hkeys).mpr ⟨hset, by rw [List.length_map, hlength]⟩
    · exact (perm_iff_toFinset hdistinct).mpr
        ⟨hgranted, by rw [List.length_map, hgrants, hvaults]⟩
  · rintro ⟨hkeysPerm, hdistinct, hgrantsPerm, hwrite⟩
    obtain ⟨hset, hlength⟩ := (perm_iff_toFinset hkeys).mp hkeysPerm
    obtain ⟨hgranted, hgrants⟩ := (perm_iff_toFinset hdistinct).mp hgrantsPerm
    have hvaults := List.toFinset_card_of_nodup hdistinct
    rw [List.length_map] at hlength hgrants hvaults
    exact ⟨hset, hlength, hvaults.trans hlength, hgrants.trans (hvaults.trans hlength), hgranted,
      hwrite⟩

theorem validateVaultProvisioning_eq_ok {c : AgentDelegationContribution}
    {p : AgentDelegationVaultProvisioning} :
    validateVaultProvisioning c p = .ok () ↔
      p.binding.WellFormed ∧
      ((c.deploymentId.isSome = true ∧ c.deploymentRevisionId.isSome = true) ∧
        c.agentTargetKind = .existing ∧ c.allowedAccessLevels = [.write] ∧ c.mappings = []) ∧
      ((c.decision = .decline ∧ p.provisionedVaults = [] ∧ c.vaultGrants = []) ∨
        (c.decision = .approve ∧ OneToOne p.binding.keys p.provisionedVaults c.vaultGrants)) := by
  rw [validateVaultProvisioning, Except.bind_unit_eq_ok, Except.bind_unit_eq_ok,
    VaultProvisioningBinding.validate_eq_ok]
  refine and_congr_right fun hbinding => and_congr ?_ ?_
  · simp only [rejectIf_eq_ok, not_or, not_not, List.isEmpty_iff, and_assoc,
      Option.isNone_iff_eq_none, ← Option.isSome_iff_ne_none, ← ne_eq]
  · cases hdecision : c.decision with
    | decline =>
        simp only [if_true, rejectIf_eq_ok, not_or, not_not, List.isEmpty_iff, true_and,
          reduceCtorEq, false_and, or_false]
    | approve =>
        rw [← matchesGrants_iff hbinding.distinct]
        simp only [MatchesGrants, reduceCtorEq, if_false, rejectIf_eq_ok, not_or, not_not,
          List.any_eq_true, decide_eq_true_eq, not_exists, not_and, false_and, true_and, false_or]

theorem validateGrant_eq_ok {grant : AgentDelegationVaultGrant} :
    validateGrant [.write] grant = .ok () ↔
      grant.accessLevel = .write ∧ Bounded grant.wrappedVaultKey ∧
        Bounded grant.grantedSignature := by
  have hbounded : ∀ bytes : Bytes,
      ¬ (bytes.isEmpty = true ∨ 4096 < bytes.length) ↔ Bounded bytes := by
    intro bytes
    rw [Bounded, List.isEmpty_iff, ← List.length_eq_zero_iff]
    omega
  rw [validateGrant, Except.bind_unit_eq_ok, Except.bind_unit_eq_ok, rejectIf_eq_ok,
    rejectIf_eq_ok, rejectIf_eq_ok, maxOpaqueWrapBytes, maxSignatureBytes, hbounded, hbounded,
    not_not, List.mem_singleton]

/-- What is checked of the grants one by one is what the decision leaves open. -/
theorem followsDecision_iff {c : AgentDelegationContribution}
    {p : AgentDelegationVaultProvisioning} :
    FollowsDecision c p ↔
      ((c.decision = .decline ∧ p.provisionedVaults = [] ∧ c.vaultGrants = []) ∨
        (c.decision = .approve ∧ OneToOne p.binding.keys p.provisionedVaults c.vaultGrants)) ∧
      ∀ grant ∈ c.vaultGrants, validateGrant [.write] grant = .ok () := by
  simp only [validateGrant_eq_ok]
  constructor
  · rintro (⟨hdecision, hvaults, hgrants⟩ | ⟨hdecision, honeToOne, hbounded⟩)
    · exact ⟨.inl ⟨hdecision, hvaults, hgrants⟩, by simp [hgrants]⟩
    · exact ⟨.inr ⟨hdecision, honeToOne⟩,
        fun grant hgrant => ⟨honeToOne.write grant hgrant, hbounded grant hgrant⟩⟩
  · rintro ⟨hdeclined | ⟨hdecision, honeToOne⟩, hgrants⟩
    · exact .inl hdeclined
    · exact .inr ⟨hdecision, honeToOne, fun grant hgrant => (hgrants grant hgrant).2⟩

/-! ## Accepted exactly when well formed -/

/-- A declined or one-to-one contribution has at most as many grants as the binding has keys. -/
theorem FollowsDecision.length_vaultGrants {c : AgentDelegationContribution}
    {p : AgentDelegationVaultProvisioning} (h : FollowsDecision c p) :
    c.vaultGrants.length ≤ p.binding.keys.length := by
  rcases h with ⟨-, -, hgrants⟩ | ⟨-, honeToOne, -⟩
  · simp [hgrants]
  · have hgranted := honeToOne.granted.length_eq
    have hkeyed := honeToOne.keyed.length_eq
    simp only [List.length_map] at hgranted hkeyed
    omega

theorem FollowsDecision.nodup_vaultGrants {c : AgentDelegationContribution}
    {p : AgentDelegationVaultProvisioning} (h : FollowsDecision c p) :
    (c.vaultGrants.map (·.vaultId)).Nodup := by
  rcases h with ⟨-, -, hgrants⟩ | ⟨-, honeToOne, -⟩
  · simp [hgrants]
  · exact honeToOne.granted.nodup_iff.mpr honeToOne.distinct

theorem validateScope_eq_ok {c : AgentDelegationContribution}
    {p : AgentDelegationVaultProvisioning} (hp : c.vaultProvisioning = some p) :
    validateScope c = .ok () ↔
      c.scopeKind = .vaultAccess ∧ validateVaultProvisioning c p = .ok () := by
  rw [validateScope]
  cases c.scopeKind with
  | secretFields => simp [hp]
  | vaultAccess => simp [hp]

/-- **Provisioning contributions are accepted exactly when they are well formed.** -/
theorem payload_ok_iff_wellFormed (unstable : Sorter) {c : AgentDelegationContribution}
    {p : AgentDelegationVaultProvisioning} (hp : c.vaultProvisioning = some p) :
    (∃ bytes, agentDelegationContributionPayload unstable c = .ok bytes) ↔
      WellFormedProvisioning c p := by
  simp only [payload_eq_ok, exists_and_left, exists_eq', and_true, rejectDuplicates_canonicalize,
    validateContribution, Except.bind_unit_eq_ok, rejectIf_eq_ok, not_not, Except.forM_eq_ok,
    validateScope_eq_ok hp, validateVaultProvisioning_eq_ok, validateText_eq_ok]
  constructor
  · rintro ⟨⟨hkem, hsigning, ⟨hscope, hbinding, ⟨hdeployment, htarget, hlevels, hmappings⟩,
      hdecision⟩, hexpiry, hnonce, hrole, -, -, -, hgrants⟩, -⟩
    rw [hlevels] at hgrants
    exact ⟨hscope, hkem, hsigning, Int64.not_lt.mp hexpiry, hnonce, hrole, hdeployment, htarget,
      hlevels, hmappings, hbinding, followsDecision_iff.mpr ⟨hdecision, hgrants⟩⟩
  · rintro ⟨hscope, hkem, hsigning, hexpiry, hnonce, hrole, hdeployment, htarget, hlevels,
      hmappings, hbinding, hdecision⟩
    obtain ⟨hfollows, hgrants⟩ := followsDecision_iff.mp hdecision
    have hcount := hdecision.length_vaultGrants
    have hmax := hbinding.count.2
    refine ⟨⟨hkem, hsigning, ⟨hscope, hbinding, ⟨hdeployment, htarget, hlevels, hmappings⟩,
      hfollows⟩, Int64.not_lt.mpr hexpiry, hnonce, hrole, ?_, ?_, ?_, ?_⟩, ?_, ?_,
      hdecision.nodup_vaultGrants⟩
    · simp [hmappings]
    · rw [maxVaultGrants]
      omega
    · simp [hmappings]
    · rwa [hlevels]
    · simp [hlevels]
    · simp [hmappings]

/-- A provisioning block for one vault. -/
def exampleProvisioning : AgentDelegationVaultProvisioning where
  binding :=
    { keys := ["production"], vaultCount := 1, payloadDigest := String.ofList (.replicate 64 'a') }
  grantLifetime := .untilRevoked
  provisionedVaults := [{ key := "production", vaultId := .replicate 16 20, adopted := false }]

/-- An approval that grants the vault. -/
def exampleProvisioningContribution : AgentDelegationContribution :=
  { exampleContribution [] with
    scopeKind := .vaultAccess
    allowedAccessLevels := [.write]
    vaultGrants :=
      [{ vaultId := .replicate 16 20, accessLevel := .write, wrappedVaultKey := [1],
         grantedSignature := [2] }]
    vaultProvisioning := some exampleProvisioning }

theorem payload_ok_iff_wellFormed_approved :
    exampleProvisioningContribution.vaultProvisioning = some exampleProvisioning ∧
    ((∃ bytes, agentDelegationContributionPayload .stable exampleProvisioningContribution
        = .ok bytes) ↔
      WellFormedProvisioning exampleProvisioningContribution exampleProvisioning) ∧
    ∃ bytes, agentDelegationContributionPayload .stable exampleProvisioningContribution
      = .ok bytes :=
  ⟨rfl, payload_ok_iff_wellFormed .stable rfl,
    _, payload_eq_ok.mpr ⟨by decide, rejectDuplicates_canonicalize.mpr (by decide), rfl⟩⟩

end SerenSecrets
