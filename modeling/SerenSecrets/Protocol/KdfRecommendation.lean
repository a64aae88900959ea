import SerenSecrets.Protocol.Account
import Mathlib.Data.Bool.AllAny

set_option autoImplicit false

/-! # Choosing derivation parameters

A device that cannot afford the default profile runs a cheap probe, and the time it took decides
among the approved profiles. The estimate multiplies a measured 64-bit time and saturates; dividing
a saturated product still gives more than any 32-bit budget, so the choice is the one that unbounded
arithmetic makes (`estimatedMs_le_iff`). What is chosen is always an approved profile, and it can
only get stronger with a larger budget or a faster probe (`recommendParamsForThroughput_sound`). -/

namespace SerenSecrets

/-! ## The recommendation -/

def minRecommendedMemoryKib : UInt32 := 19 * 1024

def minRecommendedTimeCost : UInt32 := 2

def probeMemoryKib : UInt32 := 8 * 1024

def probeTimeCost : UInt32 := 1

/-- The product of 64-bit numbers, or the largest one when it does not fit. -/
def saturatingMul (a b : UInt64) : UInt64 := UInt64.ofNat (min (a.toNat * b.toNat) (2 ^ 64 - 1))

def estimatedMs (probeMs : UInt64) (profile : UInt32 × UInt32) : UInt64 :=
  saturatingMul probeMs (profile.1.toUInt64 * profile.2.toUInt64)
    / (probeMemoryKib.toUInt64 * probeTimeCost.toUInt64)

/-- The loop over the profiles, which stops at the first that fits. -/
def chooseProfile (probeMs budget : UInt64) (chosen : UInt32 × UInt32) :
    List (UInt32 × UInt32) → UInt32 × UInt32
  | [] => chosen
  | profile :: rest =>
      if estimatedMs probeMs profile ≤ budget then profile
      else chooseProfile probeMs budget chosen rest

def recommendParamsForThroughput (salt : FixedBytes 16) (probeMs : UInt64) (targetMs : UInt32) :
    KdfParams :=
  let chosen := chooseProfile (max probeMs 1) targetMs.toUInt64
    (minRecommendedMemoryKib, minRecommendedTimeCost) profiles
  { version := 1
    algorithm := .argon2id
    memoryKib := chosen.1
    timeCost := chosen.2
    parallelism := 1
    outputLen := 32
    salt := salt.toBytes }

/-! ## Unbounded arithmetic -/

/-- The memory and time cost together. -/
def strength (profile : UInt32 × UInt32) : ℕ := profile.1.toNat * profile.2.toNat

/-- The estimate that the code approximates. -/
def costEstimate (probeMs : ℕ) (profile : UInt32 × UInt32) : ℕ :=
  max probeMs 1 * strength profile / 8192

theorem toNat_units (profile : UInt32 × UInt32) :
    (profile.1.toUInt64 * profile.2.toUInt64).toNat = strength profile := by
  have hmemory := profile.1.toNat_lt
  have htime := profile.2.toNat_lt
  have hproduct : strength profile < 2 ^ 64 := by
    calc profile.1.toNat * profile.2.toNat < 2 ^ 32 * 2 ^ 32 := Nat.mul_lt_mul'' hmemory htime
      _ = 2 ^ 64 := by decide
  rw [UInt64.toNat_mul, UInt32.toNat_toUInt64, UInt32.toNat_toUInt64]
  exact Nat.mod_eq_of_lt hproduct

theorem toNat_saturatingMul (a b : UInt64) :
    (saturatingMul a b).toNat = min (a.toNat * b.toNat) (2 ^ 64 - 1) := by
  rw [saturatingMul, UInt64.toNat_ofNat']
  exact Nat.mod_eq_of_lt (by omega)

theorem toNat_max_one (probeMs : UInt64) : (max probeMs 1).toNat = max probeMs.toNat 1 := by
  show (if probeMs ≤ 1 then 1 else probeMs).toNat = max probeMs.toNat 1
  split_ifs with h
  · have h' : probeMs.toNat ≤ 1 := h
    rw [max_eq_right h']
    rfl
  · have h' : ¬ probeMs.toNat ≤ 1 := h
    rw [max_eq_left (by omega)]

/-- Saturation never makes a profile affordable: the saturated quotient exceeds every budget. -/
theorem estimatedMs_le_iff (probeMs : UInt64) (targetMs : UInt32) (profile : UInt32 × UInt32) :
    estimatedMs (max probeMs 1) profile ≤ targetMs.toUInt64 ↔
      costEstimate probeMs.toNat profile ≤ targetMs.toNat := by
  have htarget := targetMs.toNat_lt
  have hprobe : (probeMemoryKib.toUInt64 * probeTimeCost.toUInt64).toNat = 8192 := by decide
  rw [UInt64.le_iff_toNat_le, estimatedMs, UInt64.toNat_div, toNat_saturatingMul, toNat_units,
    toNat_max_one, hprobe, UInt32.toNat_toUInt64, costEstimate]
  omega

/-! ## The choice -/

/-- The weakest profile that is ever recommended. -/
def floorProfile : UInt32 × UInt32 := (19 * 1024, 2)

/-- The first profile whose estimate fits the budget, or the weakest one. -/
def firstAffordable (probeMs targetMs : ℕ) : UInt32 × UInt32 :=
  (profiles.find? fun profile => decide (costEstimate probeMs profile ≤ targetMs)).getD floorProfile

theorem chooseProfile_eq (probeMs : UInt64) (targetMs : UInt32) (chosen : UInt32 × UInt32)
    (candidates : List (UInt32 × UInt32)) :
    chooseProfile (max probeMs 1) targetMs.toUInt64 chosen candidates =
      (candidates.find? fun profile =>
        decide (costEstimate probeMs.toNat profile ≤ targetMs.toNat)).getD chosen := by
  induction candidates with
  | nil => rfl
  | cons profile rest ih =>
      rw [chooseProfile, List.find?_cons]
      by_cases h : costEstimate probeMs.toNat profile ≤ targetMs.toNat
      · rw [if_pos ((estimatedMs_le_iff probeMs targetMs profile).mpr h)]
        simp [h]
      · rw [if_neg (fun hfits => h ((estimatedMs_le_iff probeMs targetMs profile).mp hfits)), ih]
        simp [h]

theorem firstAffordable_mem (probeMs targetMs : ℕ) :
    firstAffordable probeMs targetMs ∈ profiles := by
  unfold firstAffordable
  cases hfound : profiles.find? fun profile => decide (costEstimate probeMs profile ≤ targetMs) with
  | none => exact (by decide : floorProfile ∈ profiles)
  | some profile => exact List.mem_of_find?_eq_some hfound

/-- In a list that only gets weaker, a test that passes more stops no later. -/
theorem strength_find?_mono {candidates : List (UInt32 × UInt32)} {floor : UInt32 × UInt32}
    {p q : UInt32 × UInt32 → Bool}
    (hsorted : candidates.Pairwise (fun a b => strength b ≤ strength a))
    (hfloor : ∀ profile ∈ candidates, strength floor ≤ strength profile)
    (hpq : ∀ profile, p profile = true → q profile = true) :
    strength ((candidates.find? p).getD floor) ≤ strength ((candidates.find? q).getD floor) := by
  induction candidates with
  | nil => exact le_refl _
  | cons profile rest ih =>
      obtain ⟨hhead, htail⟩ := List.pairwise_cons.mp hsorted
      rw [List.find?_cons, List.find?_cons]
      by_cases hq : q profile = true
      · by_cases hp : p profile = true
        · simp [hp, hq]
        · -- The stricter test goes on, to something that is no stronger.
          simp only [hp, hq, Option.getD_some]
          cases hfound : rest.find? p with
          | none => exact hfloor profile (List.mem_cons_self ..)
          | some found => exact hhead found (List.mem_of_find?_eq_some hfound)
      · have hp : ¬ p profile = true := fun hp => hq (hpq profile hp)
        simp only [hp, hq]
        exact ih htail (fun profile' h => hfloor profile' (List.mem_cons_of_mem _ h))

/-- The recommended strength follows the set of affordable profiles. -/
theorem strength_firstAffordable_mono {probeMs probeMs' targetMs targetMs' : ℕ}
    (h : ∀ profile, costEstimate probeMs profile ≤ targetMs →
      costEstimate probeMs' profile ≤ targetMs') :
    strength (firstAffordable probeMs targetMs)
      ≤ strength (firstAffordable probeMs' targetMs') := by
  have hfloor : ∀ profile ∈ profiles, strength floorProfile ≤ strength profile :=
    List.all_iff_forall_prop.mp (by decide)
  refine strength_find?_mono (by decide) hfloor ?_
  intro profile hfits
  exact decide_eq_true (h profile (of_decide_eq_true hfits))

theorem costEstimate_mono {probeMs probeMs' : ℕ} (h : probeMs ≤ probeMs')
    (profile : UInt32 × UInt32) : costEstimate probeMs profile ≤ costEstimate probeMs' profile := by
  unfold costEstimate
  exact Nat.div_le_div_right (Nat.mul_le_mul_right _ (by omega))

/-! ## Acceptance -/

def KdfParams.profile (params : KdfParams) : UInt32 × UInt32 := (params.memoryKib, params.timeCost)

/-- The parameters are fixed but for the profile. -/
theorem recommendParamsForThroughput_eq (salt : FixedBytes 16) (probeMs : UInt64)
    (targetMs : UInt32) :
    ∃ profile, profile = firstAffordable probeMs.toNat targetMs.toNat ∧
      recommendParamsForThroughput salt probeMs targetMs
        = ⟨1, .argon2id, profile.1, profile.2, 1, 32, salt.toBytes⟩ :=
  ⟨_, chooseProfile_eq probeMs targetMs (minRecommendedMemoryKib, minRecommendedTimeCost) profiles,
    rfl⟩

theorem profile_recommendParamsForThroughput (salt : FixedBytes 16) (probeMs : UInt64)
    (targetMs : UInt32) :
    (recommendParamsForThroughput salt probeMs targetMs).profile
      = firstAffordable probeMs.toNat targetMs.toNat := by
  obtain ⟨profile, hprofile, heq⟩ := recommendParamsForThroughput_eq salt probeMs targetMs
  rw [heq, ← hprofile]
  rfl

/-- What is recommended passes the check of stored parameters. -/
theorem validateStoredParams_recommendParamsForThroughput {salt : FixedBytes 16}
    (h : salt.toBytes.all (· == 0) = false) (probeMs : UInt64) (targetMs : UInt32) :
    validateStoredParams (recommendParamsForThroughput salt probeMs targetMs) = .ok () := by
  obtain ⟨profile, hprofile, heq⟩ := recommendParamsForThroughput_eq salt probeMs targetMs
  have hmem : profile ∈ profiles := hprofile ▸ firstAffordable_mem probeMs.toNat targetMs.toNat
  rw [heq]
  simp only [validateStoredParams, Except.bind_unit_eq_ok, rejectIf_eq_ok]
  refine ⟨not_not_intro rfl, not_not_intro rfl, not_not_intro rfl, not_not_intro rfl, ?_, ?_,
    not_not_intro ?_⟩
  · exact not_not_intro salt.length_toBytes
  · simp only [h, Bool.false_eq_true, not_false_eq_true]
  · refine List.any_eq_true.mpr ⟨profile, hmem, ?_⟩
    simp only [beq_self_eq_true, Bool.and_self]

section Accounts

variable {A : Aead} {K : Argon2} {X : IdentityCurves} {draw : SetupDraw} {password : Bytes}
  {params recoveryParams : KdfParams}

/-- With approved parameters a setup fails only where Argon2id does. -/
theorem exists_accountSetupWithParams_eq_ok (hparams : validateStoredParams params = .ok ())
    (hrecovery : validateStoredParams recoveryParams = .ok ()) :
    (∃ bundle, accountSetupWithParams A K X draw password params recoveryParams = .ok bundle) ↔
      K.Succeeds 0 password params ∧
        K.Succeeds 1 draw.recoveryKey.asBytes.toBytes recoveryParams := by
  rw [← exists_deriveMasterKey_eq_ok (outputLen_of_validateStoredParams hparams),
    ← exists_deriveRecoveryKey_eq_ok (outputLen_of_validateStoredParams hrecovery)]
  simp only [accountSetupWithParams, hparams, hrecovery, Except.bind_eq_ok]
  constructor
  · rintro ⟨_, _, -, _, -, master, hmaster, derived, hderived, -⟩
    exact ⟨⟨master, hmaster⟩, derived, hderived⟩
  · rintro ⟨⟨master, hmaster⟩, derived, hderived⟩
    exact ⟨_, (), trivial, (), trivial, master, hmaster, derived, hderived, rfl⟩

/-- The password of a setup unlocks it. -/
theorem unlockAccount_accountSetupWithParams (hA : A.Correct) (hK : K.Deterministic)
    {bundle : AccountSetupBundle}
    (h : accountSetupWithParams A K X draw password params recoveryParams = .ok bundle) :
    unlockAccount A K X password bundle.secrets
      = .ok ⟨draw.accountKey, draw.kemPrivate, draw.signingPrivate⟩ := by
  obtain ⟨hinv, hkemPair, hsigningPair, hkemWrap, hsigningWrap, hkemPub, hsigningPub⟩ :=
    accountSetup_ok hK h
  exact unlockAccount_latest hA hinv.master hkemWrap hsigningWrap (by rw [hkemPub, hkemPair])
    (by rw [hsigningPub, hsigningPair])

end Accounts

/-- **The recommendation is sound for all timings.** It is the first approved profile that is
    affordable in unbounded arithmetic, or the weakest; with a salt that is not all zero it is
    approved, so setting up and unlocking an account take it; and it only gets stronger when the
    budget grows or the probe gets faster. -/
theorem recommendParamsForThroughput_sound (salt : FixedBytes 16) (probeMs : UInt64)
    (targetMs : UInt32) :
    (recommendParamsForThroughput salt probeMs targetMs).profile =
        (profiles.find? fun profile => decide
          (max probeMs.toNat 1 * (profile.1.toNat * profile.2.toNat) / 8192 ≤ targetMs.toNat)).getD
          (19 * 1024, 2) ∧
    (salt.toBytes.all (· == 0) = false →
      validateStoredParams (recommendParamsForThroughput salt probeMs targetMs) = .ok () ∧
      ∀ (recoverySalt : FixedBytes 16) (probeMs' : UInt64) (targetMs' : UInt32),
        recoverySalt.toBytes.all (· == 0) = false →
        ∀ (A : Aead) (K : Argon2) (X : IdentityCurves) (draw : SetupDraw) (password : Bytes),
          let params := recommendParamsForThroughput salt probeMs targetMs
          let recoveryParams := recommendParamsForThroughput recoverySalt probeMs' targetMs'
          ((∃ bundle, accountSetupWithParams A K X draw password params recoveryParams
              = .ok bundle) ↔
            K.Succeeds 0 password params ∧
              K.Succeeds 1 draw.recoveryKey.asBytes.toBytes recoveryParams) ∧
          (A.Correct → K.Deterministic → ∀ bundle,
            accountSetupWithParams A K X draw password params recoveryParams = .ok bundle →
            unlockAccount A K X password bundle.secrets
              = .ok ⟨draw.accountKey, draw.kemPrivate, draw.signingPrivate⟩)) ∧
    (∀ (salt' : FixedBytes 16) (targetMs' : UInt32), targetMs ≤ targetMs' →
      strength (recommendParamsForThroughput salt probeMs targetMs).profile ≤
        strength (recommendParamsForThroughput salt' probeMs targetMs').profile) ∧
    (∀ (salt' : FixedBytes 16) (probeMs' : UInt64), probeMs ≤ probeMs' →
      strength (recommendParamsForThroughput salt' probeMs' targetMs).profile ≤
        strength (recommendParamsForThroughput salt probeMs targetMs).profile) := by
  refine ⟨profile_recommendParamsForThroughput salt probeMs targetMs, ?_, ?_, ?_⟩
  · intro hsalt
    have hvalid := validateStoredParams_recommendParamsForThroughput hsalt probeMs targetMs
    refine ⟨hvalid, ?_⟩
    intro recoverySalt probeMs' targetMs' hrecoverySalt A K X draw password params recoveryParams
    have hrecovery :=
      validateStoredParams_recommendParamsForThroughput hrecoverySalt probeMs' targetMs'
    refine ⟨exists_accountSetupWithParams_eq_ok hvalid hrecovery, ?_⟩
    intro hA hK bundle hbundle
    exact unlockAccount_accountSetupWithParams hA hK hbundle
  · intro salt' targetMs' htarget
    rw [profile_recommendParamsForThroughput, profile_recommendParamsForThroughput]
    refine strength_firstAffordable_mono fun profile hfits => ?_
    exact Nat.le_trans hfits (UInt32.le_iff_toNat_le.mp htarget)
  · intro salt' probeMs' hprobe
    rw [profile_recommendParamsForThroughput, profile_recommendParamsForThroughput]
    refine strength_firstAffordable_mono fun profile hfits => ?_
    exact Nat.le_trans (costEstimate_mono (UInt64.le_iff_toNat_le.mp hprobe) profile) hfits

/-- A probe of 100 ms and a budget of 800 ms lead to the second profile, which an account can be set
    up with and unlocked. -/
theorem recommendParamsForThroughput_sound_second :
    (recommendParamsForThroughput (.replicate 16 1) 100 800).profile = (64 * 1024, 1) ∧
    ∃ bundle,
      accountSetupWithParams .transparent argon2Padding ⟨id, id⟩ exampleSetupDraw (utf8 "first")
        (recommendParamsForThroughput (.replicate 16 1) 100 800)
        (recommendParamsForThroughput (.replicate 16 2) 100 800) = .ok bundle ∧
      unlockAccount .transparent argon2Padding ⟨id, id⟩ (utf8 "first") bundle.secrets
        = .ok ⟨⟨.replicate 32 10⟩, ⟨.replicate 32 11⟩, ⟨.replicate 32 12⟩⟩ := by
  obtain ⟨hprofile, haccepted, -, -⟩ :=
    recommendParamsForThroughput_sound (.replicate 16 1) 100 800
  obtain ⟨hsetup, hunlock⟩ := (haccepted (by decide)).2 (.replicate 16 2) 100 800 (by decide)
    .transparent argon2Padding ⟨id, id⟩ exampleSetupDraw (utf8 "first")
  obtain ⟨bundle, hbundle⟩ := hsetup.mpr ⟨⟨rfl, rfl⟩, rfl, rfl⟩
  exact ⟨hprofile.trans (by decide), bundle, hbundle,
    hunlock Aead.transparent_ideal.correct (fun _ _ _ => rfl) bundle hbundle⟩

end SerenSecrets
