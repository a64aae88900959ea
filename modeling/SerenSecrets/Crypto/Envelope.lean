import SerenSecrets.Crypto.Wire
import SerenSecrets.Lib.Except
import SerenSecrets.Lib.Sealing

set_option autoImplicit false

/-! # AEAD envelopes and sealed boxes on the wire

An AEAD envelope is `version || tag || nonce(24) || ciphertext`, a sealed box is
`version || tag || ephemeral public key(32) || ciphertext`. Opening checks the tag and the length
before it hands the rest to the primitive; random nonces and ephemeral keys are arguments.

With ideal primitives an envelope opens under its own key and associated data only, and a sealed box
for its own recipient only. -/

namespace SerenSecrets

/-! ## AEAD envelopes -/

def nonceLen : ℕ := 24

def aeadTagLen : ℕ := 16

/-- Encrypt under a fresh nonce and wrap the result as a versioned envelope. -/
def xchacha20EncryptWithAad (A : Aead) (key : FixedBytes 32) (nonce : FixedBytes 24)
    (plaintext aad : Bytes) : Bytes :=
  encode .aeadXChaCha (nonce.toBytes ++ A.encrypt key nonce aad plaintext)

def xchacha20DecryptWithAad (A : Aead) (key : FixedBytes 32) (blob aad : Bytes) :
    CryptoResult Bytes := do
  let payload ← decodeExpecting blob .aeadXChaCha
  if h : payload.length < nonceLen + aeadTagLen then .error .invalidCiphertext
  else
    let nonce : FixedBytes 24 := ⟨payload.take 24, by
      simp only [nonceLen, aeadTagLen] at h
      rw [List.length_take]
      omega⟩
    match A.decrypt key nonce aad (payload.drop 24) with
    | some plaintext => .ok plaintext
    | none => .error .authFailure

/-- Encrypt without associated data. -/
def xchacha20Encrypt (A : Aead) (key : FixedBytes 32) (nonce : FixedBytes 24) (plaintext : Bytes) :
    Bytes :=
  xchacha20EncryptWithAad A key nonce plaintext []

def xchacha20Decrypt (A : Aead) (key : FixedBytes 32) (blob : Bytes) : CryptoResult Bytes :=
  xchacha20DecryptWithAad A key blob []

section Aead

variable {A : Aead} {key key' : FixedBytes 32} {nonce nonce' : FixedBytes 24}
  {plaintext plaintext' aad aad' : Bytes}

/-- Opening an envelope is opening its ciphertext. -/
theorem xchacha20Decrypt_encrypt (hA : A.Correct) :
    xchacha20DecryptWithAad A key' (xchacha20EncryptWithAad A key nonce plaintext aad) aad' =
      match A.decrypt key' nonce aad' (A.encrypt key nonce aad plaintext) with
      | some p => .ok p
      | none => .error .authFailure := by
  have hlen := hA.tag_length key nonce aad plaintext
  have hdecode : decodeExpecting (xchacha20EncryptWithAad A key nonce plaintext aad) .aeadXChaCha
      = .ok (nonce.toBytes ++ A.encrypt key nonce aad plaintext) :=
    decodeExpecting_encode_self _ _
  have htake : (nonce.toBytes ++ A.encrypt key nonce aad plaintext).take 24 = nonce.toBytes :=
    List.take_left' nonce.length_toBytes
  have hdrop : (nonce.toBytes ++ A.encrypt key nonce aad plaintext).drop 24
      = A.encrypt key nonce aad plaintext :=
    List.drop_left' nonce.length_toBytes
  have hlong : ¬ (nonce.toBytes ++ A.encrypt key nonce aad plaintext).length
      < nonceLen + aeadTagLen := by
    simp only [List.length_append, FixedBytes.length_toBytes, nonceLen, aeadTagLen]
    omega
  simp only [xchacha20DecryptWithAad, hdecode, bind, Except.bind, dif_neg hlong, htake, hdrop]

theorem xchacha20Decrypt_encrypt_self (hA : A.Correct) :
    xchacha20DecryptWithAad A key (xchacha20EncryptWithAad A key nonce plaintext aad) aad
      = .ok plaintext := by
  rw [xchacha20Decrypt_encrypt hA, hA.decrypt_encrypt]

/-- Two version bytes, the nonce and the tag come on top of the plaintext. -/
theorem length_xchacha20Encrypt (hA : A.Exact) :
    (xchacha20EncryptWithAad A key nonce plaintext aad).length = plaintext.length + 42 := by
  simp only [xchacha20EncryptWithAad, encode, List.length_cons, List.length_append,
    FixedBytes.length_toBytes, hA.length_encrypt]
  omega

variable (hA : A.Ideal)

include hA

/-- What opens is what was sealed, under its own key and associated data. -/
theorem xchacha20Decrypt_encrypt_ok
    (h : xchacha20DecryptWithAad A key' (xchacha20EncryptWithAad A key nonce plaintext aad) aad'
      = .ok plaintext') : key' = key ∧ aad' = aad ∧ plaintext' = plaintext := by
  rw [xchacha20Decrypt_encrypt hA.correct] at h
  split at h
  · rename_i p hopen
    obtain ⟨hkey, haad, hp⟩ := hA.opened hopen
    exact ⟨hkey, haad, (Except.ok.inj h).symm.trans hp⟩
  · exact absurd h (by simp)

/-- An envelope is refused under any other key or associated data. -/
theorem xchacha20Decrypt_encrypt_authFailure (h : key' ≠ key ∨ aad' ≠ aad) :
    xchacha20DecryptWithAad A key' (xchacha20EncryptWithAad A key nonce plaintext aad) aad'
      = .error .authFailure := by
  rw [xchacha20Decrypt_encrypt hA.correct]
  split
  · rename_i p hopen
    obtain ⟨hkey, haad, -⟩ := hA.opened hopen
    rcases h with h | h
    · exact absurd hkey h
    · exact absurd haad h
  · rfl

/-- An envelope determines its key, nonce, plaintext and associated data. -/
theorem xchacha20Encrypt_inj
    (h : xchacha20EncryptWithAad A key nonce plaintext aad
      = xchacha20EncryptWithAad A key' nonce' plaintext' aad') :
    key = key' ∧ nonce = nonce' ∧ plaintext = plaintext' ∧ aad = aad' := by
  simp only [xchacha20EncryptWithAad, encode, List.cons.injEq, true_and] at h
  obtain ⟨rfl, hct⟩ := (FixedBytes.selfDelimiting 24).split h
  obtain ⟨hkey, haad, hp⟩ := hA.encrypt_inj hct
  exact ⟨hkey, rfl, hp, haad⟩

end Aead

/-! ### Texts and keys in an envelope -/

/-- Encrypt the UTF-8 bytes of a text. -/
def encryptText (A : Aead) (key : FixedBytes 32) (aad : Bytes) (nonce : FixedBytes 24)
    (text : String) : Bytes :=
  xchacha20EncryptWithAad A key nonce (utf8 text) aad

def decryptText (A : Aead) (key : FixedBytes 32) (aad blob : Bytes) : CryptoResult String := do
  let pt ← xchacha20DecryptWithAad A key blob aad
  match fromUtf8? pt with
  | some text => .ok text
  | none => .error .invalidCiphertext

theorem decryptText_encryptText {A : Aead} (hA : A.Correct) {key : FixedBytes 32} {aad : Bytes}
    {nonce : FixedBytes 24} {text : String} :
    decryptText A key aad (encryptText A key aad nonce text) = .ok text := by
  have hopen : xchacha20DecryptWithAad A key (encryptText A key aad nonce text) aad
      = .ok (utf8 text) :=
    xchacha20Decrypt_encrypt_self hA
  simp only [decryptText, hopen, bind, Except.bind, fromUtf8?_utf8]

/-- Decrypt exactly 32 bytes; any other length is the error `wrongLength`. -/
def decryptArray32 (A : Aead) (wrongLength : CryptoError) (key : FixedBytes 32) (aad blob : Bytes) :
    CryptoResult (FixedBytes 32) := do
  let pt ← xchacha20DecryptWithAad A key blob aad
  array32FromSlice wrongLength pt

theorem decryptArray32_eq_ok {A : Aead} {e : CryptoError} {key out : FixedBytes 32}
    {aad blob : Bytes} :
    decryptArray32 A e key aad blob = .ok out ↔
      xchacha20DecryptWithAad A key blob aad = .ok out.toBytes := by
  simp only [decryptArray32, Except.bind_eq_ok, array32FromSlice_eq_ok, exists_eq_right]

/-! ## Sealed boxes -/

def ephemeralPublicLen : ℕ := 32

/-- Encrypt to the holder of the recipient's private key. -/
def kemSeal (B : SealedBox) (recipient : IdentityKemPublicKey) (ephemeral : FixedBytes 32)
    (plaintext : Bytes) : Bytes :=
  let ephemeralPk := B.publicOf ephemeral
  let nonce := B.nonce ephemeralPk recipient.asBytes
  encode .sealedBox (ephemeralPk.toBytes ++ B.encrypt recipient.asBytes ephemeral nonce plaintext)

def kemUnseal (B : SealedBox) (privateKey : IdentityKemPrivateKey) (blob : Bytes) :
    CryptoResult Bytes := do
  let payload ← decodeExpecting blob .sealedBox
  if h : payload.length < ephemeralPublicLen + aeadTagLen then .error .invalidCiphertext
  else
    let ephemeral : FixedBytes 32 := ⟨payload.take 32, by
      simp only [ephemeralPublicLen, aeadTagLen] at h
      rw [List.length_take]
      omega⟩
    if !B.contributory privateKey.asBytes ephemeral then
      .error (.invalidKey "low-order ephemeral public key")
    else
      let recipientPk := B.publicOf privateKey.asBytes
      match B.decrypt ephemeral privateKey.asBytes (B.nonce ephemeral recipientPk)
        (payload.drop 32) with
      | some plaintext => .ok plaintext
      | none => .error .authFailure

/-- What a private key unseals was sealed to its public key. -/
theorem kemUnseal_kemSeal_ok {B : SealedBox} (hB : B.Ideal) {recipient : IdentityKemPublicKey}
    {ephemeral : FixedBytes 32} {plaintext plaintext' : Bytes}
    {privateKey : IdentityKemPrivateKey}
    (h : kemUnseal B privateKey (kemSeal B recipient ephemeral plaintext) = .ok plaintext') :
    recipient = ⟨B.publicOf privateKey.asBytes⟩ ∧ plaintext' = plaintext := by
  generalize hct : B.encrypt recipient.asBytes ephemeral
    (B.nonce (B.publicOf ephemeral) recipient.asBytes) plaintext = ct at h
  have hlen : 16 ≤ ct.length := hct ▸ hB.tag_length ..
  have hdecode : decodeExpecting (kemSeal B recipient ephemeral plaintext) .sealedBox
      = .ok ((B.publicOf ephemeral).toBytes ++ ct) := by
    rw [← hct]
    exact decodeExpecting_encode_self _ _
  have htake : ((B.publicOf ephemeral).toBytes ++ ct).take 32 = (B.publicOf ephemeral).toBytes :=
    List.take_left' (FixedBytes.length_toBytes _)
  have hdrop : ((B.publicOf ephemeral).toBytes ++ ct).drop 32 = ct :=
    List.drop_left' (FixedBytes.length_toBytes _)
  have hlong : ¬ ((B.publicOf ephemeral).toBytes ++ ct).length
      < ephemeralPublicLen + aeadTagLen := by
    simp only [List.length_append, FixedBytes.length_toBytes, ephemeralPublicLen, aeadTagLen]
    omega
  simp only [kemUnseal, hdecode, bind, Except.bind, dif_neg hlong, htake, hdrop] at h
  -- What remains can fail at the low-order check of the shared secret, and then at the tag.
  split at h
  · exact absurd h (by simp)
  · split at h
    · rename_i p hopen
      subst hct
      obtain ⟨hrecipient, hp⟩ := hB.opens_only _ _ _ _ _ hopen
      refine ⟨?_, (Except.ok.inj h).symm.trans hp⟩
      rw [hrecipient]
    · exact absurd h (by simp)

/-- A private key unseals what was sealed to its public key. -/
theorem kemUnseal_kemSeal {B : SealedBox} (hB : B.Correct) (privateKey : IdentityKemPrivateKey)
    (ephemeral : FixedBytes 32) (plaintext : Bytes) :
    kemUnseal B privateKey (kemSeal B ⟨B.publicOf privateKey.asBytes⟩ ephemeral plaintext)
      = .ok plaintext := by
  generalize hct : B.encrypt (B.publicOf privateKey.asBytes) ephemeral
    (B.nonce (B.publicOf ephemeral) (B.publicOf privateKey.asBytes)) plaintext = ct
  have hlen : 16 ≤ ct.length := hct ▸ hB.tag_length ..
  have hdecode : decodeExpecting (kemSeal B ⟨B.publicOf privateKey.asBytes⟩ ephemeral plaintext)
      .sealedBox = .ok ((B.publicOf ephemeral).toBytes ++ ct) := by
    rw [← hct]
    exact decodeExpecting_encode_self _ _
  have htake : ((B.publicOf ephemeral).toBytes ++ ct).take 32 = (B.publicOf ephemeral).toBytes :=
    List.take_left' (FixedBytes.length_toBytes _)
  have hdrop : ((B.publicOf ephemeral).toBytes ++ ct).drop 32 = ct :=
    List.drop_left' (FixedBytes.length_toBytes _)
  have hlong : ¬ ((B.publicOf ephemeral).toBytes ++ ct).length
      < ephemeralPublicLen + aeadTagLen := by
    simp only [List.length_append, FixedBytes.length_toBytes, ephemeralPublicLen, aeadTagLen]
    omega
  have hopen := hB.decrypt_encrypt privateKey.asBytes ephemeral
    (B.nonce (B.publicOf ephemeral) (B.publicOf privateKey.asBytes)) plaintext
  rw [hct] at hopen
  simp only [kemUnseal, hdecode, bind, Except.bind, dif_neg hlong, htake, hdrop,
    hB.contributory_publicOf, Bool.not_true, Bool.false_eq_true, if_false, hopen]

/-! ## The two kinds of blob exclude each other -/

theorem kemUnseal_encrypt (A : Aead) (B : SealedBox) (privateKey : IdentityKemPrivateKey)
    (key : FixedBytes 32) (nonce : FixedBytes 24) (plaintext aad : Bytes) :
    kemUnseal B privateKey (xchacha20EncryptWithAad A key nonce plaintext aad)
      = .error (.malformedWire "unexpected tag") := by
  have hdecode : decodeExpecting (xchacha20EncryptWithAad A key nonce plaintext aad) .sealedBox
      = .error (.malformedWire "unexpected tag") :=
    decodeExpecting_encode_of_ne (by decide) _
  simp only [kemUnseal, hdecode, bind, Except.bind]

theorem xchacha20Decrypt_kemSeal (A : Aead) (B : SealedBox) (key : FixedBytes 32) (aad : Bytes)
    (recipient : IdentityKemPublicKey) (ephemeral : FixedBytes 32) (plaintext : Bytes) :
    xchacha20DecryptWithAad A key (kemSeal B recipient ephemeral plaintext) aad
      = .error (.malformedWire "unexpected tag") := by
  have hdecode : decodeExpecting (kemSeal B recipient ephemeral plaintext) .aeadXChaCha
      = .error (.malformedWire "unexpected tag") :=
    decodeExpecting_encode_of_ne (by decide) _
  simp only [xchacha20DecryptWithAad, hdecode, bind, Except.bind]

end SerenSecrets
