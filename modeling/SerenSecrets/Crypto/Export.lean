import SerenSecrets.Crypto.Envelope
import SerenSecrets.Crypto.Kdf
import SerenSecrets.Lib.Reader
import SerenSecrets.Lib.Base64
import SerenSecrets.Protocol.ItemContent

set_option autoImplicit false

/-! # Encrypted backups

A backup is the JSON of the exported items, sealed under a key derived from a passphrase, next to the
parameters of the derivation. Reading one bounds the cost of the derivation and the size of the
ciphertext before it does any work, and the JSON reader bounds how deep the body may be nested.

Writing knows neither of the last two bounds. A backup can be restored exactly when its body stays
within them (`decryptBackup_encryptBackup_iff`); others are written without complaint and lost
(`encryptBackup_unreadable`). -/

namespace SerenSecrets

/-! ## The file -/

structure BackupEnvelope where
  format : String
  version : UInt8
  kdf : KdfParams
  ciphertextB64 : String

/-- An exported item, with what helps an importer to place it. -/
structure BackupItem where
  title : String
  content : ItemContent
  tags : List String
  favorite : Bool
  sourceVault : Option String

def BackupItem.record : JsonRecord BackupItem :=
  .ofFields
    (.and (.required "title" (·.title) .string) <|
      .and (.required "content" (·.content) ItemContent.codec) <|
      .and (.defaulted "tags" (·.tags) (.list .string) []) <|
      .and (.defaulted "favorite" (·.favorite) .bool false) <|
      .skipNone "source_vault" (·.sourceVault) .string JsonCodec.string_write_ne_null)
    (fun (title, content, tags, favorite, sourceVault) =>
      { title, content, tags, favorite, sourceVault })
    (fun _ => rfl) (fun _ => rfl) (by decide)

structure BackupBody where
  items : List BackupItem
  exportedAt : String
  metadata : JsonValue

def BackupBody.record : JsonRecord BackupBody :=
  .ofFields
    (.and (.required "items" (·.items) (.list BackupItem.record.codec)) <|
      .and (.required "exported_at" (·.exportedAt) .string) <|
      .required "metadata" (·.metadata) JsonValue.codec)
    (fun (items, exportedAt, metadata) => { items, exportedAt, metadata })
    (fun _ => rfl) (fun _ => rfl) (by decide)

def BackupBody.codec : JsonCodec BackupBody := BackupBody.record.codec

def backupFormat : String := "seren-secrets-backup"

def backupVersion : UInt8 := 1

/-! ## Limits of reading -/

/-- One gibibyte. -/
def maxDecryptMemoryKib : UInt32 := 1024 * 1024

def maxDecryptTimeCost : UInt32 := 32

def maxDecryptParallelism : UInt32 := 64

def requiredKeyLen : UInt32 := 32

def maxSaltLen : ℕ := 1024

def maxCiphertextDecodedBytes : UInt64 := 512 * 1024 * 1024

def validateDecryptKdf (kdf : KdfParams) : CryptoResult Unit := do
  rejectIf (kdf.outputLen ≠ requiredKeyLen) (.importFailure "backup kdf output_len must be 32")
  rejectIf (kdf.memoryKib > maxDecryptMemoryKib) (.importFailure "backup kdf memory_kib too large")
  rejectIf (kdf.timeCost > maxDecryptTimeCost) (.importFailure "backup kdf time_cost too large")
  rejectIf (kdf.parallelism = 0 ∨ kdf.parallelism > maxDecryptParallelism)
    (.importFailure "backup kdf parallelism out of range")
  rejectIf (kdf.salt.length > maxSaltLen) (.importFailure "backup kdf salt too long")

/-- What a backup is written with is within the limits of reading one. -/
theorem validateDecryptKdf_defaultParams (salt : FixedBytes 16) :
    validateDecryptKdf (defaultParams salt) = .ok () := by
  have hsalt : ¬ (defaultParams salt).salt.length > maxSaltLen := by
    rw [defaultParams, salt.length_toBytes]
    decide
  simp only [validateDecryptKdf, Except.bind_unit_eq_ok, rejectIf_eq_ok]
  refine ⟨?_, ?_, ?_, ?_, hsalt⟩ <;> simp only [defaultParams] <;> decide

/-! ## Writing and reading -/

section Backup

variable (A : Aead) (K : Argon2)

/-- Seal the body under the passphrase. Its JSON can always be written. -/
def encryptBackup (call : ℕ) (salt : FixedBytes 16) (nonce : FixedBytes 24) (passphrase : Bytes)
    (body : BackupBody) : CryptoResult BackupEnvelope := do
  let kdf := defaultParams salt
  let keyBytes ← deriveKey K call passphrase kdf
  let key ← array32FromSlice (.exportFailure "kdf produced wrong key length") keyBytes
  let plaintext := (BackupBody.codec.write body).write
  let ct := xchacha20Encrypt A key nonce plaintext
  return { format := backupFormat, version := backupVersion, kdf, ciphertextB64 := Base64.encode ct }

variable (json : Bytes → Option Json)

def decryptBackupInner (call : ℕ) (passphrase : Bytes) (envelope : BackupEnvelope)
    (maxDecodedBytes : UInt64) : CryptoResult BackupBody := do
  rejectIf (envelope.format ≠ backupFormat) (.importFailure "backup format mismatch")
  rejectIf (envelope.version ≠ backupVersion) (.importFailure "unsupported backup version")
  validateDecryptKdf envelope.kdf
  -- the product wraps from a cap of `3 * 2 ^ 62` on; a build with overflow checks panics there
  rejectIf ((utf8 envelope.ciphertextB64).length > (maxDecodedBytes / 3 * 4).toNat)
    (.importFailure "backup ciphertext too large")
  let ct ← match Base64.decode envelope.ciphertextB64 with
    | some ct => .ok ct
    | none => .error (.importFailure "ciphertext base64")
  let keyBytes ← deriveKey K call passphrase envelope.kdf
  let key ← array32FromSlice (.importFailure "kdf produced wrong key length") keyBytes
  let pt ← xchacha20Decrypt A key ct
  match (json pt).bind BackupBody.codec.read with
  | some body => .ok body
  | none => .error (.importFailure "body json")

def decryptBackup (call : ℕ) (passphrase : Bytes) (envelope : BackupEnvelope) :
    CryptoResult BackupBody :=
  decryptBackupInner A K json call passphrase envelope maxCiphertextDecodedBytes

end Backup

/-- The characters that the size gate admits: whole quanta, counted modulo `2 ^ 62`. -/
theorem toNat_sizeGate (cap : UInt64) : (cap / 3 * 4).toNat = cap.toNat / 3 % 2 ^ 62 * 4 := by
  rw [UInt64.toNat_mul, UInt64.toNat_div]
  simp only [UInt64.reduceToNat]
  omega

example : (0xc000000000000000 : UInt64) / 3 * 4 = 0 := by decide

section RoundTrip

variable {A : Aead} {K : Argon2} {json : Bytes → Option Json} {call call' : ℕ}
  {salt : FixedBytes 16} {nonce : FixedBytes 24} {passphrase : Bytes} {body : BackupBody}
  {envelope : BackupEnvelope}

/-- What a written backup is. -/
theorem encryptBackup_eq_ok :
    encryptBackup A K call salt nonce passphrase body = .ok envelope ↔
      ∃ key : FixedBytes 32, deriveKey K call passphrase (defaultParams salt) = .ok key.toBytes ∧
        envelope =
          { format := backupFormat
            version := backupVersion
            kdf := defaultParams salt
            ciphertextB64 := Base64.encode
              (xchacha20Encrypt A key nonce (BackupBody.codec.write body).write) } := by
  simp only [encryptBackup, Except.bind_eq_ok, array32FromSlice_eq_ok, Except.pure_eq_ok]
  constructor
  · rintro ⟨keyBytes, hderive, key, rfl, rfl⟩
    exact ⟨key, hderive, rfl⟩
  · rintro ⟨key, hderive, rfl⟩
    exact ⟨_, hderive, key, rfl, rfl⟩

/-- **What reading a written backup comes down to**: the size gate and the JSON reader. -/
theorem decryptBackupInner_encryptBackup (hA : A.Exact) (hK : K.Deterministic)
    (h : encryptBackup A K call salt nonce passphrase body = .ok envelope) (cap : UInt64) :
    decryptBackupInner A K json call' passphrase envelope cap =
      if (BackupBody.codec.write body).write.length + 42 ≤ cap.toNat / 3 % 2 ^ 62 * 3 then
        match (json (BackupBody.codec.write body).write).bind BackupBody.codec.read with
        | some body => .ok body
        | none => .error (.importFailure "body json")
      else .error (.importFailure "backup ciphertext too large") := by
  obtain ⟨key, hderive, rfl⟩ := encryptBackup_eq_ok.mp h
  have hopen : xchacha20Decrypt A key
      (xchacha20Encrypt A key nonce (BackupBody.codec.write body).write)
      = .ok (BackupBody.codec.write body).write :=
    xchacha20Decrypt_encrypt_self hA.correct
  have hlength : (xchacha20Encrypt A key nonce (BackupBody.codec.write body).write).length
      = (BackupBody.codec.write body).write.length + 42 :=
    length_xchacha20Encrypt hA
  rw [hK.deriveKey_eq call call'] at hderive
  simp only [decryptBackupInner, validateDecryptKdf_defaultParams, Base64.length_utf8_encode,
    Base64.decode_encode, hderive, hlength, array32FromSlice_toBytes, hopen, toNat_sizeGate, bind,
    Except.bind]
  by_cases hfits : (BackupBody.codec.write body).write.length + 42 ≤ cap.toNat / 3 % 2 ^ 62 * 3
  · have hgate : ¬ ((BackupBody.codec.write body).write.length + 42 + 2) / 3 * 4
        > cap.toNat / 3 % 2 ^ 62 * 4 := by omega
    simp only [rejectIf, ne_eq, not_true_eq_false, if_false, if_neg hgate, if_pos hfits]
  · have hgate : ((BackupBody.codec.write body).write.length + 42 + 2) / 3 * 4
        > cap.toNat / 3 % 2 ^ 62 * 4 := by omega
    simp only [rejectIf, ne_eq, not_true_eq_false, if_false, if_pos hgate, if_neg hfits]

theorem decryptBackup_encryptBackup (hA : A.Exact) (hK : K.Deterministic)
    (h : encryptBackup A K call salt nonce passphrase body = .ok envelope) :
    decryptBackup A K json call' passphrase envelope =
      if (BackupBody.codec.write body).write.length + 42 ≤ maxCiphertextDecodedBytes.toNat / 3 * 3 then
        match (json (BackupBody.codec.write body).write).bind BackupBody.codec.read with
        | some body => .ok body
        | none => .error (.importFailure "body json")
      else .error (.importFailure "backup ciphertext too large") :=
  decryptBackupInner_encryptBackup hA hK h maxCiphertextDecodedBytes

end RoundTrip

/-- **A backup can be restored exactly when it stays within the limits of reading one**: its JSON is
    nested at most as deep as the reader follows, and its ciphertext passes the size gate. -/
theorem decryptBackup_encryptBackup_iff {A : Aead} (hA : A.Exact) {K : Argon2}
    (hK : K.Deterministic) {json : Bytes → Option Json} (hjson : JsonReader json 127)
    {call call' : ℕ} {salt : FixedBytes 16} {nonce : FixedBytes 24} {passphrase : Bytes}
    {body : BackupBody} (hfloat : (BackupBody.codec.write body).floatFree = true)
    {envelope : BackupEnvelope}
    (h : encryptBackup A K call salt nonce passphrase body = .ok envelope) :
    decryptBackup A K json call' passphrase envelope = .ok body ↔
      (BackupBody.codec.write body).depth ≤ 127 ∧
        (BackupBody.codec.write body).write.length + 42 ≤ maxCiphertextDecodedBytes.toNat / 3 * 3 := by
  rw [decryptBackup_encryptBackup hA hK h]
  by_cases hfits : (BackupBody.codec.write body).write.length + 42
      ≤ maxCiphertextDecodedBytes.toNat / 3 * 3
  · rw [if_pos hfits]
    by_cases hdepth : (BackupBody.codec.write body).depth ≤ 127
    · rw [hjson.read_codec_floatFree BackupBody.codec hdepth hfloat]
      exact ⟨fun _ => ⟨hdepth, hfits⟩, fun _ => rfl⟩
    · rw [hjson.too_deep (by omega)]
      constructor
      · intro hread
        cases hread
      · rintro ⟨hread, -⟩
        exact absurd hread hdepth
  · rw [if_neg hfits]
    constructor
    · intro hread
      cases hread
    · rintro ⟨-, hread⟩
      exact absurd hread hfits

/-! ## Two backups -/

/-- A derivation whose output does not depend on its inputs. -/
def argon2Constant : Argon2 where
  paramsValid _ _ _ _ := true
  hashPasswordInto _ _ _ := some (.replicate _ 7)

theorem argon2Constant_deterministic : argon2Constant.Deterministic := fun _ _ _ => rfl

/-- Writing a backup succeeds with it. -/
theorem exists_encryptBackup_argon2Constant (body : BackupBody) :
    ∃ envelope, encryptBackup .padding argon2Constant 0 (.replicate 16 1) (.replicate 24 0)
      (utf8 "passphrase") body = .ok envelope :=
  ⟨_, encryptBackup_eq_ok.mpr ⟨.replicate 32 7, rfl, rfl⟩⟩

/-- A note of the household, and where it was exported from. -/
def doorBackup : BackupBody where
  items := [⟨"Door", doorNote, ["home", "keys"], true, some "Family"⟩]
  exportedAt := "2026-01-01T00:00:00Z"
  metadata := ⟨.obj [("client", .str "desktop"), ("vaults", .arr [.str "Family"])], by decide,
    by decide⟩

/-- The backup of the note can be restored. -/
theorem decryptBackup_encryptBackup_door :
    ∃ envelope, encryptBackup .padding argon2Constant 0 (.replicate 16 1) (.replicate 24 0)
        (utf8 "passphrase") doorBackup = .ok envelope ∧
      decryptBackup .padding argon2Constant (readCompact 127) 1 (utf8 "passphrase") envelope
        = .ok doorBackup := by
  obtain ⟨envelope, henvelope⟩ := exists_encryptBackup_argon2Constant doorBackup
  refine ⟨envelope, henvelope, ?_⟩
  refine (decryptBackup_encryptBackup_iff Aead.padding_exact argon2Constant_deterministic
    (readCompact_reader 127) (by decide) henvelope).mpr ⟨by decide, ?_⟩
  decide +kernel

/-- Arrays within arrays. -/
def nestedArrays : ℕ → Json
  | 0 => .arr []
  | n + 1 => .arr [nestedArrays n]

theorem depth_nestedArrays (n : ℕ) : (nestedArrays n).depth = n + 1 := by
  induction n with
  | zero => rfl
  | succ n ih => rw [nestedArrays, Json.depth, Json.depthElems, Json.depthElems, ih, Nat.max_zero]

theorem all_nestedArrays {p : Json → Bool} (hp : ∀ elems, p (.arr elems) = true) (n : ℕ) :
    (nestedArrays n).all p = true := by
  induction n with
  | zero => exact Json.all_arr.mpr ⟨hp _, by simp⟩
  | succ n ih => exact Json.all_arr.mpr ⟨hp _, by simpa using ih⟩

/-- Metadata of 127 nested arrays, which the JSON reader still takes. -/
def deepMetadata : JsonValue :=
  ⟨nestedArrays 126, all_nestedArrays (fun _ => rfl) 126, all_nestedArrays (fun _ => rfl) 126⟩

def deepBackup : BackupBody := ⟨[], "2026-01-01T00:00:00Z", deepMetadata⟩

theorem write_deepBackup :
    BackupBody.codec.write deepBackup
      = .obj [("items", .arr []), ("exported_at", .str "2026-01-01T00:00:00Z"),
          ("metadata", nestedArrays 126)] := rfl

theorem floatFree_deepBackup : (BackupBody.codec.write deepBackup).floatFree = true := by
  rw [write_deepBackup, Json.floatFree_obj]
  intro m hm
  simp only [List.mem_cons, List.not_mem_nil, or_false] at hm
  rcases hm with rfl | rfl | rfl
  · rfl
  · rfl
  · exact all_nestedArrays (fun _ => rfl) 126

theorem depth_deepBackup : (BackupBody.codec.write deepBackup).depth = 128 := by
  rw [write_deepBackup]
  simp only [Json.depth, Json.depthMembers, Json.depthElems, depth_nestedArrays]
  decide

/-- **Not every backup that is written can be read**: the body adds one level to metadata that just
    fits, and the writer does not object. -/
theorem encryptBackup_unreadable :
    ¬ ∀ (A : Aead) (K : Argon2) (json : Bytes → Option Json) (call call' : ℕ)
      (salt : FixedBytes 16) (nonce : FixedBytes 24) (passphrase : Bytes) (body : BackupBody)
      (envelope : BackupEnvelope), A.Exact → K.Deterministic → JsonReader json 127 →
      (BackupBody.codec.write body).floatFree = true →
      encryptBackup A K call salt nonce passphrase body = .ok envelope →
      decryptBackup A K json call' passphrase envelope = .ok body := by
  intro hclaim
  obtain ⟨envelope, henvelope⟩ := exists_encryptBackup_argon2Constant deepBackup
  have hread := hclaim .padding argon2Constant (readCompact 127) 0 1 _ _ _ deepBackup envelope
    Aead.padding_exact argon2Constant_deterministic (readCompact_reader 127) floatFree_deepBackup
    henvelope
  rw [decryptBackup_encryptBackup Aead.padding_exact argon2Constant_deterministic henvelope,
    (readCompact_reader 127).too_deep (by rw [depth_deepBackup]; decide)] at hread
  split at hread <;> cases hread

end SerenSecrets
