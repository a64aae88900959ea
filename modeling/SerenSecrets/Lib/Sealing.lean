import SerenSecrets.Lib.Bytes

set_option autoImplicit false

/-! # Authenticated encryption and sealed boxes, idealised

`Aead` and `SealedBox` are the interfaces of the two primitives. Their `Ideal` laws say what an
application relies on: a ciphertext opens to what was sealed, and it opens under no other key and
no other associated data. Computationally these hold up to forgery, here they hold outright.

The laws do not bound the length of a ciphertext from above. An exact tag length would contradict
them, since a short ciphertext cannot name every key. Where lengths matter and keys do not, `Exact`
takes their place. All laws can be met (`Aead.transparent_ideal`, `Aead.padding_exact`,
`SealedBox.transparent_ideal`). -/

/-! ## Authenticated encryption -/

/-- Authenticated encryption with 32-byte keys and 24-byte nonces. A ciphertext holds its tag. -/
structure Aead where
  encrypt (key : FixedBytes 32) (nonce : FixedBytes 24) (aad plaintext : Bytes) : Bytes
  decrypt (key : FixedBytes 32) (nonce : FixedBytes 24) (aad ciphertext : Bytes) : Option Bytes

namespace Aead

structure Ideal (S : Aead) : Prop where
  decrypt_encrypt : ∀ key nonce aad plaintext,
    S.decrypt key nonce aad (S.encrypt key nonce aad plaintext) = some plaintext
  opens_only : ∀ key nonce aad plaintext key' aad' plaintext',
    S.decrypt key' nonce aad' (S.encrypt key nonce aad plaintext) = some plaintext' →
      key' = key ∧ aad' = aad
  tag_length : ∀ key nonce aad plaintext, 16 ≤ (S.encrypt key nonce aad plaintext).length

/-- The part of the laws that reading back what was written relies on. -/
structure Correct (S : Aead) : Prop where
  decrypt_encrypt : ∀ key nonce aad plaintext,
    S.decrypt key nonce aad (S.encrypt key nonce aad plaintext) = some plaintext
  tag_length : ∀ key nonce aad plaintext, 16 ≤ (S.encrypt key nonce aad plaintext).length

/-- A ciphertext is exactly a tag longer than its plaintext. -/
structure Exact (S : Aead) : Prop where
  decrypt_encrypt : ∀ key nonce aad plaintext,
    S.decrypt key nonce aad (S.encrypt key nonce aad plaintext) = some plaintext
  length_encrypt : ∀ key nonce aad plaintext,
    (S.encrypt key nonce aad plaintext).length = plaintext.length + 16

variable {S : Aead}

theorem Ideal.correct (hS : S.Ideal) : S.Correct := ⟨hS.decrypt_encrypt, hS.tag_length⟩

theorem Exact.correct (hS : S.Exact) : S.Correct where
  decrypt_encrypt := hS.decrypt_encrypt
  tag_length key nonce aad plaintext := by
    rw [hS.length_encrypt]
    omega

/-- What opens is what was sealed, under its own key and associated data. -/
theorem Ideal.opened (hS : S.Ideal) {key key' : FixedBytes 32} {nonce : FixedBytes 24}
    {aad aad' plaintext plaintext' : Bytes}
    (h : S.decrypt key' nonce aad' (S.encrypt key nonce aad plaintext) = some plaintext') :
    key' = key ∧ aad' = aad ∧ plaintext' = plaintext := by
  obtain ⟨rfl, rfl⟩ := hS.opens_only _ _ _ _ _ _ _ h
  rw [hS.decrypt_encrypt] at h
  exact ⟨rfl, rfl, (Option.some.inj h).symm⟩

/-- A ciphertext determines its key, associated data and plaintext. -/
theorem Ideal.encrypt_inj (hS : S.Ideal) {key key' : FixedBytes 32} {nonce : FixedBytes 24}
    {aad aad' plaintext plaintext' : Bytes}
    (h : S.encrypt key nonce aad plaintext = S.encrypt key' nonce aad' plaintext') :
    key = key' ∧ aad = aad' ∧ plaintext = plaintext' := by
  have hopen := hS.decrypt_encrypt key nonce aad plaintext
  rw [h] at hopen
  exact hS.opened hopen

end Aead

/-! ## Sealed boxes -/

/-- Anonymous encryption to a public key: a fresh sender key is agreed with the recipient's. -/
structure SealedBox where
  publicOf (secret : FixedBytes 32) : FixedBytes 32
  contributory (secret theirPublic : FixedBytes 32) : Bool
  nonce (ephemeralPublic recipientPublic : FixedBytes 32) : FixedBytes 24
  encrypt (theirPublic mySecret : FixedBytes 32) (nonce : FixedBytes 24) (plaintext : Bytes) : Bytes
  decrypt (theirPublic mySecret : FixedBytes 32) (nonce : FixedBytes 24) (ciphertext : Bytes) :
    Option Bytes

namespace SealedBox

/-- Only the recipient's secret opens what was sealed under a fresh sender secret. -/
structure Ideal (B : SealedBox) : Prop where
  opens_only : ∀ recipient ephemeral plaintext secret plaintext',
    B.decrypt (B.publicOf ephemeral) secret (B.nonce (B.publicOf ephemeral) (B.publicOf secret))
      (B.encrypt recipient ephemeral (B.nonce (B.publicOf ephemeral) recipient) plaintext)
        = some plaintext' →
      B.publicOf secret = recipient ∧ plaintext' = plaintext
  tag_length : ∀ recipient ephemeral nonce plaintext,
    16 ≤ (B.encrypt recipient ephemeral nonce plaintext).length

/-- The recipient opens what was sealed to it under a fresh sender secret. -/
structure Correct (B : SealedBox) : Prop where
  contributory_publicOf : ∀ secret ephemeral, B.contributory secret (B.publicOf ephemeral) = true
  decrypt_encrypt : ∀ secret ephemeral nonce plaintext,
    B.decrypt (B.publicOf ephemeral) secret nonce
      (B.encrypt (B.publicOf secret) ephemeral nonce plaintext) = some plaintext
  tag_length : ∀ recipient ephemeral nonce plaintext,
    16 ≤ (B.encrypt recipient ephemeral nonce plaintext).length

end SealedBox

/-! ## The laws can be met -/

/-- A byte string behind its length in unary, which makes it self-delimiting. -/
def framed (bytes : Bytes) : Bytes := List.replicate bytes.length 1 ++ (0 :: bytes)

theorem framed_selfDelimiting : SelfDelimiting framed := by
  intro a b x y h
  simp only [framed, List.append_assoc, List.cons_append] at h
  obtain ⟨hcount, hrest⟩ := append_terminator_inj
    (fun hmem => absurd (List.eq_of_mem_replicate hmem) (by decide))
    (fun hmem => absurd (List.eq_of_mem_replicate hmem) (by decide)) h
  have hlength : a.length = b.length := by simpa using congrArg List.length hcount
  exact List.append_inj hrest hlength

/-- Strip a known start off a byte string. -/
def stripLead? (lead bytes : Bytes) : Option Bytes :=
  if lead <+: bytes then some (bytes.drop lead.length) else none

@[simp] theorem stripLead?_append (lead bytes : Bytes) :
    stripLead? lead (lead ++ bytes) = some bytes := by
  simp [stripLead?]

theorem eq_append_of_stripLead? {lead bytes rest : Bytes}
    (h : stripLead? lead bytes = some rest) : bytes = lead ++ rest := by
  unfold stripLead? at h
  split at h
  · rename_i hlead
    obtain ⟨t, rfl⟩ := hlead
    rw [List.drop_left] at h
    rw [Option.some.inj h]
  · exact absurd h (by simp)

/-- The scheme that spells key and associated data out in front of the plaintext. -/
def Aead.transparent : Aead where
  encrypt key _ aad plaintext := key.toBytes ++ (framed aad ++ plaintext)
  decrypt key _ aad ciphertext :=
    (stripLead? key.toBytes ciphertext).bind (stripLead? (framed aad))

theorem Aead.transparent_ideal : Aead.transparent.Ideal where
  decrypt_encrypt key nonce aad plaintext := by
    simp [transparent]
  opens_only key nonce aad plaintext key' aad' plaintext' h := by
    obtain ⟨rest, hkey, haad⟩ := Option.bind_eq_some_iff.mp h
    obtain ⟨rfl, hrest⟩ := (FixedBytes.selfDelimiting 32).split (eq_append_of_stripLead? hkey)
    obtain ⟨rfl, -⟩ := framed_selfDelimiting.split (hrest.trans (eq_append_of_stripLead? haad))
    exact ⟨rfl, rfl⟩
  tag_length key nonce aad plaintext := by
    simp only [transparent, List.length_append, FixedBytes.length_toBytes]
    omega

/-- The scheme that appends sixteen bytes to the plaintext. -/
def Aead.padding : Aead where
  encrypt _ _ _ plaintext := plaintext ++ List.replicate 16 0
  decrypt _ _ _ ciphertext := some (ciphertext.take (ciphertext.length - 16))

theorem Aead.padding_exact : Aead.padding.Exact where
  decrypt_encrypt key nonce aad plaintext := by
    simp [padding]
  length_encrypt key nonce aad plaintext := by
    simp [padding]

/-- The place of a use in a list, counted from one; zero for what is not in it. -/
def placeOf (key : FixedBytes 32) (aad : Bytes) : List (FixedBytes 32 × Bytes) → ℕ
  | [] => 0
  | use :: uses => if use = (key, aad) then uses.length + 1 else placeOf key aad uses

/-- The scheme whose tag tells the uses of a list apart, and nothing else. -/
def Aead.tagged (uses : List (FixedBytes 32 × Bytes)) : Aead where
  encrypt key _ aad plaintext := plaintext ++ List.replicate 16 (UInt8.ofNat (placeOf key aad uses))
  decrypt key _ aad ciphertext :=
    if ciphertext.drop (ciphertext.length - 16)
        = List.replicate 16 (UInt8.ofNat (placeOf key aad uses))
    then some (ciphertext.take (ciphertext.length - 16)) else none

theorem Aead.tagged_exact (uses : List (FixedBytes 32 × Bytes)) : (Aead.tagged uses).Exact where
  decrypt_encrypt key nonce aad plaintext := by
    simp [tagged]
  length_encrypt key nonce aad plaintext := by
    simp [tagged]

theorem placeOf_le (key : FixedBytes 32) (aad : Bytes) (uses : List (FixedBytes 32 × Bytes)) :
    placeOf key aad uses ≤ uses.length := by
  induction uses with
  | nil => exact Nat.le_refl 0
  | cons use uses ih =>
      rw [placeOf, List.length_cons]
      split <;> omega

/-- Only the use of a place has it. -/
theorem eq_of_placeOf {key key' : FixedBytes 32} {aad aad' : Bytes}
    {uses : List (FixedBytes 32 × Bytes)} (hmem : (key, aad) ∈ uses)
    (h : placeOf key' aad' uses = placeOf key aad uses) : key' = key ∧ aad' = aad := by
  induction uses with
  | nil => exact absurd hmem List.not_mem_nil
  | cons use uses ih =>
      have hle := placeOf_le key' aad' uses
      have hle' := placeOf_le key aad uses
      by_cases huse : use = (key, aad)
      · by_cases huse' : use = (key', aad')
        · exact Prod.mk.inj (huse'.symm.trans huse)
        · rw [placeOf, if_neg huse', placeOf, if_pos huse] at h
          omega
      · by_cases huse' : use = (key', aad')
        · rw [placeOf, if_pos huse', placeOf, if_neg huse] at h
          omega
        · rw [placeOf, if_neg huse', placeOf, if_neg huse] at h
          exact ih ((List.mem_cons.mp hmem).resolve_left (Ne.symm huse)) h

/-- What was sealed in one of the listed uses opens in no other. -/
theorem Aead.tagged_opened {uses : List (FixedBytes 32 × Bytes)} (hlength : uses.length < 256)
    {key key' : FixedBytes 32} {nonce nonce' : FixedBytes 24} {aad aad' plaintext opened : Bytes}
    (huse : (key, aad) ∈ uses)
    (h : (Aead.tagged uses).decrypt key' nonce' aad'
      ((Aead.tagged uses).encrypt key nonce aad plaintext) = some opened) :
    key' = key ∧ aad' = aad ∧ opened = plaintext := by
  simp only [tagged, List.length_append, List.length_replicate, Nat.add_sub_cancel,
    List.drop_left, List.take_left, Option.ite_none_right_eq_some, Option.some.injEq] at h
  obtain ⟨htag, hopened⟩ := h
  have hplaces := congrArg UInt8.toNat (List.replicate_right_injective (by decide) htag)
  have hle := placeOf_le key' aad' uses
  have hle' := placeOf_le key aad uses
  rw [UInt8.toNat_ofNat', UInt8.toNat_ofNat', Nat.mod_eq_of_lt (by omega),
    Nat.mod_eq_of_lt (by omega)] at hplaces
  obtain ⟨rfl, rfl⟩ := eq_of_placeOf huse hplaces.symm
  exact ⟨rfl, rfl, hopened.symm⟩

/-- The box that spells the recipient out in front of the plaintext. -/
def SealedBox.transparent : SealedBox where
  publicOf secret := secret
  contributory _ _ := true
  nonce _ _ := .replicate 24 0
  encrypt theirPublic _ _ plaintext := theirPublic.toBytes ++ plaintext
  decrypt _ mySecret _ ciphertext := stripLead? mySecret.toBytes ciphertext

theorem SealedBox.transparent_ideal : SealedBox.transparent.Ideal where
  opens_only recipient ephemeral plaintext secret plaintext' h := by
    obtain ⟨rfl, rfl⟩ := (FixedBytes.selfDelimiting 32).split (eq_append_of_stripLead? h)
    exact ⟨rfl, rfl⟩
  tag_length recipient ephemeral nonce plaintext := by
    simp only [transparent, List.length_append, FixedBytes.length_toBytes]
    omega

theorem SealedBox.transparent_correct : SealedBox.transparent.Correct where
  contributory_publicOf _ _ := rfl
  decrypt_encrypt secret _ _ plaintext := stripLead?_append secret.toBytes plaintext
  tag_length := transparent_ideal.tag_length
