import SerenSecrets.Crypto.Export
import SerenSecrets.Resolver.Attachments

set_option autoImplicit false

/-! # Size gates over base64 text

Two readers bound what they decode by the length of the base64 text, before the bytes exist.
`boundedDecode` compares it with the length of the longest encoding that fits, and checks the bytes
again (`boundedDecodeWith_exact`). The reader of a backup rounds its cap down to a whole number of
quanta instead, and so refuses the last one or two lengths that fit
(`decryptBackupInner_tooLarge_iff`). Both compute in 64 bits, where a large cap wraps. -/

namespace SerenSecrets

/-! ## Attachments -/

/-- Division rounded up, on 64-bit numbers. -/
def divCeil (n d : UInt64) : UInt64 := if n % d > 0 then n / d + 1 else n / d

/-- The length of an encoding as the code computes it, in arithmetic that wraps. -/
def base64LenUsize (bytes : UInt64) : UInt64 := divCeil bytes 3 * 4

theorem toNat_base64LenUsize {bytes : UInt64} (h : base64Len bytes.toNat < 2 ^ 64) :
    (base64LenUsize bytes).toNat = base64Len bytes.toNat := by
  have hceil : (divCeil bytes 3).toNat = (bytes.toNat + 2) / 3 := by
    have hbytes := bytes.toNat_lt
    unfold divCeil
    split_ifs with hrem
    · have hrem' : 0 < bytes.toNat % 3 := hrem
      rw [UInt64.toNat_add, UInt64.toNat_div]
      simp only [UInt64.reduceToNat]
      omega
    · have hrem' : ¬ 0 < bytes.toNat % 3 := hrem
      rw [UInt64.toNat_div]
      simp only [UInt64.reduceToNat]
      omega
  rw [base64LenUsize, UInt64.toNat_mul, hceil]
  exact Nat.mod_eq_of_lt h

/-- `boundedDecode` on 64-bit numbers, for any decoder. -/
def boundedDecodeWith (decode : String → Option Bytes) (encoded : String) (limit : UInt64) :
    ResolverResult Bytes := do
  rejectIf ((utf8 encoded).length > (base64LenUsize limit).toNat) (.malformed "attachment size")
  let decoded ← orMalformed "attachment encoding" (decode encoded)
  rejectIf (decoded.length > limit.toNat) (.malformed "attachment size")
  return decoded

/-- As long as the length does not wrap, this is the reader of the attachments. -/
theorem boundedDecodeWith_eq {limit : UInt64} (h : base64Len limit.toNat < 2 ^ 64)
    (encoded : String) :
    boundedDecodeWith Base64.decode encoded limit = boundedDecode encoded limit.toNat := by
  have hdecode : orMalformed "attachment encoding" (Base64.decode encoded)
      = b64Decode encoded "attachment encoding" := by
    unfold orMalformed b64Decode
    cases Base64.decode encoded <;> rfl
  rw [boundedDecodeWith, boundedDecode, toNat_base64LenUsize h, hdecode]

/-- A text has at least as many bytes as characters. -/
theorem length_le_length_utf8 (s : String) : s.toList.length ≤ (utf8 s).length := by
  obtain ⟨l, rfl⟩ : ∃ l, s = String.ofList l := ⟨s.toList, (String.ofList_toList ..).symm⟩
  rw [String.toList_ofList]
  induction l with
  | nil => simp
  | cons c l ih =>
      have hc : 0 < (String.utf8EncodeChar c).length :=
        List.length_pos_of_ne_nil String.utf8EncodeChar_ne_nil
      rw [utf8_ofList_cons, List.length_append, List.length_cons]
      omega

/-- **The gate of the attachments is exact.** An encoding is accepted exactly when its bytes fit,
    whatever is accepted fits, the check of the length turns away no text whose bytes would fit, and
    a text longer than the encoding of `limit` bytes is refused without asking the decoder. -/
theorem boundedDecodeWith_exact {limit : UInt64} (hlimit : base64Len limit.toNat < 2 ^ 64) :
    (∀ bytes, boundedDecodeWith Base64.decode (Base64.encode bytes) limit = .ok bytes ↔
      bytes.length ≤ limit.toNat) ∧
    (∀ encoded bytes, boundedDecodeWith Base64.decode encoded limit = .ok bytes →
      bytes.length ≤ limit.toNat) ∧
    (∀ encoded bytes, Base64.decode encoded = some bytes → bytes.length ≤ limit.toNat →
      (utf8 encoded).length ≤ (base64LenUsize limit).toNat) ∧
    (∀ encoded, 4 * ((limit.toNat + 2) / 3) < encoded.toList.length ∨
        4 * ((limit.toNat + 2) / 3) < (utf8 encoded).length →
      ∀ decode,
        boundedDecodeWith decode encoded limit = .error (.malformed "attachment size")) := by
  refine ⟨?_, ?_, ?_, ?_⟩
  · intro bytes
    rw [boundedDecodeWith_eq hlimit]
    exact boundedDecode_encode
  · intro encoded bytes h
    rw [boundedDecodeWith_eq hlimit] at h
    exact (boundedDecode_eq_ok.mp h).2.2
  · intro encoded bytes hdecode hfits
    rw [← Base64.encode_of_decode hdecode, length_utf8_encode, toNat_base64LenUsize hlimit]
    exact base64Len_mono hfits
  · intro encoded hlong decode
    have hbytes := length_le_length_utf8 encoded
    have hgate : (utf8 encoded).length > (base64LenUsize limit).toNat := by
      rw [toNat_base64LenUsize hlimit, base64Len]
      omega
    rw [boundedDecodeWith, rejectIf, if_pos hgate]
    rfl

/-- At the limit of the metadata. -/
theorem boundedDecodeWith_exact_metadata :
    boundedDecodeWith Base64.decode (Base64.encode (utf8 "report.pdf")) 65536
      = .ok (utf8 "report.pdf") ∧
    ∀ bytes, boundedDecodeWith Base64.decode (Base64.encode bytes) 65536 = .ok bytes ↔
      bytes.length ≤ maxMetadataBytes := by
  have hexact := (@boundedDecodeWith_exact 65536 (by decide)).1
  exact ⟨(hexact _).mpr (by decide), hexact⟩

/-! ## Backups -/

/-- What the reader of a backup checks before it looks at the ciphertext. -/
structure ReadableEnvelope (envelope : BackupEnvelope) : Prop where
  format : envelope.format = backupFormat
  version : envelope.version = backupVersion
  kdf : validateDecryptKdf envelope.kdf = .ok ()

section Errors

variable {A : Aead} {K : Argon2} {what : String}

theorem deriveKey_ne_importFailure {call : ℕ} {password : Bytes} {params : KdfParams} :
    deriveKey K call password params ≠ .error (.importFailure what) := by
  intro h
  simp only [deriveKey, Except.bind_eq_error, rejectIf_eq_error] at h
  rcases h with ⟨-, h⟩ | ⟨_, -, ⟨-, h⟩ | ⟨_, -, h⟩⟩
  · cases h
  · cases h
  · split at h <;> cases h

theorem decodeExpecting_ne_importFailure {blob : Bytes} {tag : Tag} :
    decodeExpecting blob tag ≠ .error (.importFailure what) := by
  intro h
  rw [decodeExpecting, Except.bind_eq_error] at h
  rcases h with h | ⟨_, -, h⟩
  · fun_cases decode blob with
    | case1 => simp_all [decode]
    | case2 version tag payload hversion =>
        rw [decode, if_neg hversion, Except.bind_eq_error] at h
        rcases h with h | ⟨_, -, h⟩
        · unfold Tag.fromU8 at h
          split_ifs at h
          cases h
        · cases h
    | case3 => simp_all [decode]
  · dsimp only at h
    split_ifs at h
    · cases h
    · cases h

theorem xchacha20Decrypt_ne_importFailure {key : FixedBytes 32} {blob : Bytes} :
    xchacha20Decrypt A key blob ≠ .error (.importFailure what) := by
  intro h
  rw [xchacha20Decrypt, xchacha20DecryptWithAad, Except.bind_eq_error] at h
  rcases h with h | ⟨payload, -, h⟩
  · exact decodeExpecting_ne_importFailure h
  · split_ifs at h
    · cases h
    · dsimp only at h
      split at h <;> cases h

end Errors

section Gate

variable {A : Aead} {K : Argon2} {json : Bytes → Option Json} {call : ℕ} {passphrase : Bytes}
  {envelope : BackupEnvelope}

/-- The complaint about the size comes from the gate alone: every later step fails differently. -/
theorem decryptBackupInner_eq_tooLarge (h : ReadableEnvelope envelope) (cap : UInt64) :
    decryptBackupInner A K json call passphrase envelope cap
        = .error (.importFailure "backup ciphertext too large") ↔
      (utf8 envelope.ciphertextB64).length > (cap / 3 * 4).toNat := by
  by_cases hgate : (utf8 envelope.ciphertextB64).length > (cap / 3 * 4).toNat
  · refine ⟨fun _ => hgate, fun _ => ?_⟩
    simp only [decryptBackupInner, rejectIf, h.format, h.version, h.kdf, ne_eq, not_true_eq_false,
      if_false, if_pos hgate, bind, Except.bind]
  · refine ⟨fun hopen => ?_, fun hlong => absurd hlong hgate⟩
    simp only [decryptBackupInner, h.format, h.version, h.kdf, Except.bind_eq_error,
      rejectIf_eq_error, ne_eq, not_true_eq_false, false_and, hgate, reduceCtorEq, false_or]
      at hopen
    obtain ⟨_, -, _, -, _, -, _, -, hopen⟩ := hopen
    cases hdecode : Base64.decode envelope.ciphertextB64 with
    | none => simp [hdecode, bind, Except.bind] at hopen
    | some ct =>
        simp only [hdecode, Except.bind_eq_error, reduceCtorEq, false_or, Except.ok.injEq,
          exists_eq_left'] at hopen
        rcases hopen with hderive | ⟨keyBytes, -, hkey | ⟨key, -, hseal | ⟨pt, -, hbody⟩⟩⟩
        · exact absurd hderive deriveKey_ne_importFailure
        · unfold array32FromSlice at hkey
          split at hkey <;> simp at hkey
        · exact absurd hseal xchacha20Decrypt_ne_importFailure
        · split at hbody <;> simp at hbody

/-- **When the size gate of a backup is exact**: a ciphertext is refused as too large exactly when
    it exceeds the cap, unless it fits and is longer than the whole quanta that the gate counts. From
    a cap of `3 * 2 ^ 62` on the count wraps, and the gate refuses most of what fits. -/
theorem decryptBackupInner_tooLarge_iff (h : ReadableEnvelope envelope) (cap : UInt64)
    {bytes : Bytes} (hbytes : envelope.ciphertextB64 = Base64.encode bytes) :
    (decryptBackupInner A K json call passphrase envelope cap
        = .error (.importFailure "backup ciphertext too large") ↔ cap.toNat < bytes.length) ↔
      ¬ (cap.toNat / 3 % 2 ^ 62 * 3 < bytes.length ∧ bytes.length ≤ cap.toNat) := by
  rw [decryptBackupInner_eq_tooLarge h cap, hbytes, Base64.length_utf8_encode, toNat_sizeGate]
  omega

end Gate

/-- Nothing to export. -/
def emptyBackup : BackupBody := ⟨[], "2026-01-01T00:00:00Z", .null⟩

/-- The ciphertext of a backup of nothing, 107 bytes long. -/
def emptyBackupCiphertext : Bytes :=
  xchacha20Encrypt .padding (.replicate 32 7) (.replicate 24 0)
    (BackupBody.codec.write emptyBackup).write

def emptyBackupEnvelope : BackupEnvelope where
  format := backupFormat
  version := backupVersion
  kdf := defaultParams (.replicate 16 1)
  ciphertextB64 := Base64.encode emptyBackupCiphertext

theorem encryptBackup_emptyBackup :
    encryptBackup .padding argon2Constant 0 (.replicate 16 1) (.replicate 24 0)
      (utf8 "passphrase") emptyBackup = .ok emptyBackupEnvelope :=
  encryptBackup_eq_ok.mpr ⟨.replicate 32 7, rfl, rfl⟩

theorem readable_emptyBackupEnvelope : ReadableEnvelope emptyBackupEnvelope :=
  ⟨rfl, rfl, validateDecryptKdf_defaultParams _⟩

theorem length_write_emptyBackup : (BackupBody.codec.write emptyBackup).write.length = 65 := by
  decide +kernel

theorem length_emptyBackupCiphertext : emptyBackupCiphertext.length = 107 := by
  rw [emptyBackupCiphertext, xchacha20Encrypt, length_xchacha20Encrypt Aead.padding_exact,
    length_write_emptyBackup]

/-- A cap of 108 bytes is a multiple of three, and the backup of nothing is not too large for it. -/
theorem decryptBackupInner_tooLarge_iff_empty :
    decryptBackupInner .padding argon2Constant (readCompact 127) 0 (utf8 "passphrase")
        emptyBackupEnvelope 108 = .error (.importFailure "backup ciphertext too large") ↔
      108 < emptyBackupCiphertext.length := by
  refine (decryptBackupInner_tooLarge_iff readable_emptyBackupEnvelope 108 rfl).mpr ?_
  rw [length_emptyBackupCiphertext]
  decide

/-- **The gate refuses a backup that fits**: 107 bytes under a cap of 107. One more byte of cap and
    the same backup is restored. -/
theorem decryptBackupInner_refuses_fitting :
    ReadableEnvelope emptyBackupEnvelope ∧
    emptyBackupEnvelope.ciphertextB64 = Base64.encode emptyBackupCiphertext ∧
    emptyBackupCiphertext.length ≤ 107 ∧
    decryptBackupInner .padding argon2Constant (readCompact 127) 0 (utf8 "passphrase")
      emptyBackupEnvelope 107 = .error (.importFailure "backup ciphertext too large") ∧
    decryptBackupInner .padding argon2Constant (readCompact 127) 0 (utf8 "passphrase")
      emptyBackupEnvelope 108 = .ok emptyBackup := by
  have hread : ∀ cap, decryptBackupInner .padding argon2Constant (readCompact 127) 0
      (utf8 "passphrase") emptyBackupEnvelope cap = _ := fun cap =>
    decryptBackupInner_encryptBackup Aead.padding_exact argon2Constant_deterministic
      encryptBackup_emptyBackup cap
  refine ⟨readable_emptyBackupEnvelope, rfl, Nat.le_of_eq length_emptyBackupCiphertext, ?_, ?_⟩
  · rw [hread, length_write_emptyBackup]
    rfl
  · rw [hread, length_write_emptyBackup,
      (readCompact_reader 127).read_codec_floatFree BackupBody.codec (by decide) rfl]
    rfl

end SerenSecrets
