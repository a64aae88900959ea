import SerenSecrets.Crypto.Envelope
import SerenSecrets.Lib.Serde

set_option autoImplicit false

/-! # Item bodies, titles, tags and metadata

Each part of an item is sealed under its own associated data, a constant label followed by the item
id. The body is sealed under a content key of the item, and the content key under the vault key;
titles, tags, metadata and last-use times are sealed under the vault key directly.

How a content becomes bytes is a parameter (`ContentCodec`), as is the JSON reader. -/

namespace SerenSecrets

/-! ## Associated data -/

/-- A label followed by one id. -/
def idAad (label : String) (id : Bytes) : Bytes := utf8 label ++ id

def bodyAad (itemId : Bytes) : Bytes := idAad "body:" itemId

def titleAad (itemId : Bytes) : Bytes := idAad "title:" itemId

def tagsAad (itemId : Bytes) : Bytes := idAad "tags:" itemId

def metadataAad (itemId : Bytes) : Bytes := idAad "item-metadata:" itemId

def lastUsedAad (itemId : Bytes) : Bytes := idAad "last_used:" itemId

def contentKeyWrapAad (itemId : Bytes) : Bytes := idAad "item-content-key:" itemId

/-! ## Content keys -/

variable (A : Aead)

/-- Seal the content key under the vault key. -/
def wrapItemContentKey (vaultKey : VaultKey) (itemId : Bytes) (nonce : FixedBytes 24)
    (contentKey : ItemContentKey) : Bytes :=
  xchacha20EncryptWithAad A vaultKey.asBytes nonce contentKey.asBytes.toBytes
    (contentKeyWrapAad itemId)

def unwrapItemContentKey (vaultKey : VaultKey) (itemId blob : Bytes) :
    CryptoResult ItemContentKey :=
  SymmetricKey.mk <$>
    decryptArray32 A .invalidCiphertext vaultKey.asBytes (contentKeyWrapAad itemId) blob

/-! ## Bodies -/

/-- How item contents are written to and read from bytes. -/
structure ContentCodec (Content : Type) where
  toVec : Content → Option Bytes
  fromSlice : Bytes → Option Content

variable {Content : Type} (codec : ContentCodec Content)

def encryptItemWithContentKey (contentKey : ItemContentKey) (itemId : Bytes)
    (nonce : FixedBytes 24) (content : Content) : CryptoResult Bytes :=
  match codec.toVec content with
  | some json => .ok (xchacha20EncryptWithAad A contentKey.asBytes nonce json (bodyAad itemId))
  | none => .error (.exportFailure "item content json")

def decryptItemWithContentKey (contentKey : ItemContentKey) (itemId blob : Bytes) :
    CryptoResult Content := do
  let pt ← xchacha20DecryptWithAad A contentKey.asBytes blob (bodyAad itemId)
  match codec.fromSlice pt with
  | some content => .ok content
  | none => .error (.importFailure "item content json")

/-! ## Titles, tags, metadata and last-use times -/

def encryptTitle (vaultKey : VaultKey) (itemId : Bytes) : FixedBytes 24 → String → Bytes :=
  encryptText A vaultKey.asBytes (titleAad itemId)

def decryptTitle (vaultKey : VaultKey) (itemId : Bytes) : Bytes → CryptoResult String :=
  decryptText A vaultKey.asBytes (titleAad itemId)

def encryptMetadataJson (vaultKey : VaultKey) (itemId : Bytes) : FixedBytes 24 → String → Bytes :=
  encryptText A vaultKey.asBytes (metadataAad itemId)

def decryptMetadataJson (vaultKey : VaultKey) (itemId : Bytes) : Bytes → CryptoResult String :=
  decryptText A vaultKey.asBytes (metadataAad itemId)

def encryptLastUsed (vaultKey : VaultKey) (itemId : Bytes) : FixedBytes 24 → String → Bytes :=
  encryptText A vaultKey.asBytes (lastUsedAad itemId)

def decryptLastUsed (vaultKey : VaultKey) (itemId : Bytes) : Bytes → CryptoResult String :=
  decryptText A vaultKey.asBytes (lastUsedAad itemId)

/-- The JSON array of the tags. -/
def tagsToVec (tags : List String) : Bytes := (Json.array .str tags).write

/-- Read a JSON array of strings. -/
def tagsOfJson : Json → Option (List String)
  | .arr elems => elems.mapM (fun | .str s => some s | _ => none)
  | _ => none

def encryptTags (vaultKey : VaultKey) (itemId : Bytes) (nonce : FixedBytes 24)
    (tags : List String) : Bytes :=
  xchacha20EncryptWithAad A vaultKey.asBytes nonce (tagsToVec tags) (tagsAad itemId)

def decryptTags (parseJson : Bytes → Option Json) (vaultKey : VaultKey) (itemId blob : Bytes) :
    CryptoResult (List String) := do
  let pt ← xchacha20DecryptWithAad A vaultKey.asBytes blob (tagsAad itemId)
  match (parseJson pt).bind tagsOfJson with
  | some tags => .ok tags
  | none => .error (.importFailure "tags json")

/-! ## What opens -/

section Opening

variable {A : Aead} {Content : Type} {codec : ContentCodec Content}

theorem unwrapItemContentKey_eq_ok {vaultKey : VaultKey} {itemId blob : Bytes}
    {contentKey : ItemContentKey} :
    unwrapItemContentKey A vaultKey itemId blob = .ok contentKey ↔
      xchacha20DecryptWithAad A vaultKey.asBytes blob (contentKeyWrapAad itemId)
        = .ok contentKey.asBytes.toBytes := by
  unfold unwrapItemContentKey
  simp only [Except.map_eq_ok, decryptArray32_eq_ok]
  constructor
  · rintro ⟨key, hkey, rfl⟩
    exact hkey
  · intro h
    exact ⟨_, h, rfl⟩

theorem decryptItemWithContentKey_eq_ok {contentKey : ItemContentKey} {itemId blob : Bytes}
    {content : Content} :
    decryptItemWithContentKey A codec contentKey itemId blob = .ok content ↔
      ∃ json, xchacha20DecryptWithAad A contentKey.asBytes blob (bodyAad itemId) = .ok json ∧
        codec.fromSlice json = some content := by
  unfold decryptItemWithContentKey
  rw [Except.bind_eq_ok]
  refine exists_congr fun json => and_congr_right fun _ => ?_
  cases codec.fromSlice json <;> simp

/-! ### Opening what was sealed -/

variable (hA : A.Ideal)

include hA

theorem unwrapItemContentKey_wrap {vaultKey : VaultKey} {itemId : Bytes} {nonce : FixedBytes 24}
    {contentKey : ItemContentKey} :
    unwrapItemContentKey A vaultKey itemId (wrapItemContentKey A vaultKey itemId nonce contentKey)
      = .ok contentKey :=
  unwrapItemContentKey_eq_ok.mpr (xchacha20Decrypt_encrypt_self hA.correct)

theorem decryptItem_encryptItem {contentKey : ItemContentKey} {itemId blob : Bytes}
    {nonce : FixedBytes 24} {content : Content}
    (h : encryptItemWithContentKey A codec contentKey itemId nonce content = .ok blob)
    (hcodec : ∀ json, codec.toVec content = some json → codec.fromSlice json = some content) :
    decryptItemWithContentKey A codec contentKey itemId blob = .ok content := by
  unfold encryptItemWithContentKey at h
  split at h
  · rename_i json hjson
    rw [← Except.ok.inj h]
    exact decryptItemWithContentKey_eq_ok.mpr
      ⟨json, xchacha20Decrypt_encrypt_self hA.correct, hcodec json hjson⟩
  · exact absurd h (by simp)

theorem decryptTags_encryptTags {parseJson : Bytes → Option Json} {vaultKey : VaultKey}
    {itemId : Bytes} {nonce : FixedBytes 24} {tags : List String}
    (hparse : (parseJson (tagsToVec tags)).bind tagsOfJson = some tags) :
    decryptTags A parseJson vaultKey itemId (encryptTags A vaultKey itemId nonce tags)
      = .ok tags := by
  have hopen : xchacha20DecryptWithAad A vaultKey.asBytes
      (encryptTags A vaultKey itemId nonce tags) (tagsAad itemId) = .ok (tagsToVec tags) :=
    xchacha20Decrypt_encrypt_self hA.correct
  simp only [decryptTags, hopen, bind, Except.bind, hparse]

end Opening

end SerenSecrets
