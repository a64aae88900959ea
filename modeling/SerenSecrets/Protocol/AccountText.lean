import SerenSecrets.Lib.ByteCodec
import SerenSecrets.Protocol.Account

set_option autoImplicit false

/-! # Account secrets as JSON

The stored secrets of an account travel as JSON. Salts and wraps are base64 texts, the public keys
lists of 32 numbers. The codecs are lossless, so a text that a client writes stands for its secrets,
in whatever order the service gives the fields back. -/

namespace SerenSecrets

def KdfAlgorithm.name : KdfAlgorithm → String
  | argon2id => "argon2id"

def KdfAlgorithm.codec : JsonCodec KdfAlgorithm :=
  .variants name [("argon2id", argon2id)] (fun | argon2id => rfl)

def KdfParams.record : JsonRecord KdfParams :=
  .ofFields
    (.and (.required "version" (·.version) .u8) <|
      .and (.required "algorithm" (·.algorithm) KdfAlgorithm.codec) <|
      .and (.required "memory_kib" (·.memoryKib) .u32) <|
      .and (.required "time_cost" (·.timeCost) .u32) <|
      .and (.required "parallelism" (·.parallelism) .u32) <|
      .and (.required "output_len" (·.outputLen) .u32) <|
      .required "salt" (·.salt) .base64)
    (fun (version, algorithm, memoryKib, timeCost, parallelism, outputLen, salt) =>
      { version, algorithm, memoryKib, timeCost, parallelism, outputLen, salt })
    (fun _ => rfl) (fun _ => rfl) (by decide)

def KdfParams.codec : JsonCodec KdfParams := KdfParams.record.codec

def IdentityKemPublicKey.codec : JsonCodec IdentityKemPublicKey :=
  .via (.fixedBytes 32) (·.asBytes) (fun bytes => some ⟨bytes⟩) fun bytes key => by
    cases key
    simp [eq_comm]

def IdentitySigningPublicKey.codec : JsonCodec IdentitySigningPublicKey :=
  .via (.fixedBytes 32) (·.asBytes) (fun bytes => some ⟨bytes⟩) fun bytes key => by
    cases key
    simp [eq_comm]

def AccountSecrets.record : JsonRecord AccountSecrets :=
  .ofFields
    (.and (.required "kdf_params" (·.kdfParams) KdfParams.codec) <|
      .and (.required "recovery_kdf_params" (·.recoveryKdfParams) KdfParams.codec) <|
      .and (.required "account_key_wrap" (·.accountKeyWrap) .base64) <|
      .and (.required "account_kem_private_wrap" (·.accountKemPrivateWrap) .base64) <|
      .and (.required "account_signing_private_wrap" (·.accountSigningPrivateWrap) .base64) <|
      .and (.required "recovery_key_wrap" (·.recoveryKeyWrap) .base64) <|
      .and (.required "kem_public_key" (·.kemPublicKey) IdentityKemPublicKey.codec) <|
      .required "signing_public_key" (·.signingPublicKey) IdentitySigningPublicKey.codec)
    (fun (kdfParams, recoveryKdfParams, accountKeyWrap, accountKemPrivateWrap,
        accountSigningPrivateWrap, recoveryKeyWrap, kemPublicKey, signingPublicKey) =>
      { kdfParams, recoveryKdfParams, accountKeyWrap, accountKemPrivateWrap,
        accountSigningPrivateWrap, recoveryKeyWrap, kemPublicKey, signingPublicKey })
    (fun _ => rfl) (fun _ => rfl) (by decide)

def AccountSecrets.codec : JsonCodec AccountSecrets := AccountSecrets.record.codec

theorem KdfParams.floatFree_codec : KdfParams.codec.FloatFree := by
  have hnumber : ∀ {name : String} {get : KdfParams → UInt32},
      (JsonFields.required name get JsonCodec.u32).FloatFree :=
    JsonFields.floatFree_required JsonCodec.floatFree_unsigned
  refine JsonFields.FloatFree.codec (R := KdfParams.record) ?_
  refine .and (JsonFields.floatFree_required JsonCodec.floatFree_unsigned) (.and ?_ (.and hnumber
    (.and hnumber (.and hnumber (.and hnumber ?_)))))
  · exact JsonFields.floatFree_required fun _ => rfl
  · exact JsonFields.floatFree_required JsonCodec.floatFree_base64

theorem AccountSecrets.floatFree_codec : AccountSecrets.codec.FloatFree := by
  have hwrap : ∀ {name : String} {get : AccountSecrets → Bytes},
      (JsonFields.required name get JsonCodec.base64).FloatFree :=
    JsonFields.floatFree_required JsonCodec.floatFree_base64
  have hparams : ∀ {name : String} {get : AccountSecrets → KdfParams},
      (JsonFields.required name get KdfParams.codec).FloatFree :=
    JsonFields.floatFree_required KdfParams.floatFree_codec
  refine JsonFields.FloatFree.codec (R := AccountSecrets.record) ?_
  refine .and hparams (.and hparams (.and hwrap (.and hwrap (.and hwrap (.and hwrap
    (.and ?_ ?_))))))
  · exact JsonFields.floatFree_required (JsonCodec.floatFree_fixedBytes 32).via
  · exact JsonFields.floatFree_required (JsonCodec.floatFree_fixedBytes 32).via

theorem KdfParams.depth_write (params : KdfParams) : (KdfParams.codec.write params).depth ≤ 1 := by
  refine Json.depth_obj_le.mpr fun m hm => ?_
  simp only [KdfParams.record, JsonRecord.members, JsonRecord.ofFields, JsonFields.and,
    JsonFields.required, JsonFields.single, List.mem_append, Bool.false_eq_true, if_false,
    List.mem_singleton] at hm
  rcases hm with rfl | rfl | rfl | rfl | rfl | rfl | rfl <;> exact Nat.le_refl 0

theorem AccountSecrets.depth_write (secrets : AccountSecrets) :
    (AccountSecrets.codec.write secrets).depth ≤ 2 := by
  have hkey : ∀ key : FixedBytes 32, ((JsonCodec.fixedBytes 32).write key).depth ≤ 1 := fun key =>
    Json.depth_arr_le.mpr (List.forall_mem_map.mpr fun _ _ => Nat.le_refl 0)
  refine Json.depth_obj_le.mpr fun m hm => ?_
  simp only [AccountSecrets.record, JsonRecord.members, JsonRecord.ofFields, JsonFields.and,
    JsonFields.required, JsonFields.single, List.mem_append, Bool.false_eq_true, if_false,
    List.mem_singleton] at hm
  rcases hm with rfl | rfl | rfl | rfl | rfl | rfl | rfl | rfl
  · exact KdfParams.depth_write _
  · exact KdfParams.depth_write _
  · exact Nat.zero_le 1
  · exact Nat.zero_le 1
  · exact Nat.zero_le 1
  · exact Nat.zero_le 1
  · exact hkey _
  · exact hkey _

end SerenSecrets
