import SerenSecrets.Protocol.Item

set_option autoImplicit false

/-! # Vault keys and vault metadata

A vault key reaches each member as a sealed box to the member's identity; the vault's texts are
sealed under the vault key, each with its own associated data. Sealed boxes carry no associated
data, so `unwrapVaultKey` takes any 32 bytes that were sealed to the identity. -/

namespace SerenSecrets

/-! ## Vault keys -/

/-- Seal the vault key to the recipient's identity. -/
def wrapVaultKeyForIdentity (B : SealedBox) (vaultKey : VaultKey)
    (recipient : IdentityKemPublicKey) (ephemeral : FixedBytes 32) : Bytes :=
  kemSeal B recipient ephemeral vaultKey.asBytes.toBytes

def unwrapVaultKey (B : SealedBox) (privateKey : IdentityKemPrivateKey) (wrapped : Bytes) :
    CryptoResult VaultKey := do
  let bytes ← kemUnseal B privateKey wrapped
  SymmetricKey.mk <$> array32FromSlice (.invalidKey "wrapped vault key was not 32 bytes") bytes

theorem unwrapVaultKey_eq_ok {B : SealedBox} {sk : IdentityKemPrivateKey} {blob : Bytes}
    {vaultKey : VaultKey} :
    unwrapVaultKey B sk blob = .ok vaultKey ↔
      kemUnseal B sk blob = .ok vaultKey.asBytes.toBytes := by
  unfold unwrapVaultKey
  simp only [Except.bind_eq_ok, Except.map_eq_ok, array32FromSlice_eq_ok]
  constructor
  · rintro ⟨bytes, hbytes, key, rfl, rfl⟩
    exact hbytes
  · intro h
    exact ⟨_, h, _, rfl, rfl⟩

/-! ## Associated data -/

/-- A label followed by two ids with a colon between them. -/
def pairAad (label : String) (first second : Bytes) : Bytes :=
  utf8 label ++ (first ++ (utf8 ":" ++ second))

def vaultNameAad (vaultId : Bytes) : Bytes := idAad "vault-name:" vaultId

def vaultDescriptionAad (vaultId : Bytes) : Bytes := idAad "vault-description:" vaultId

def vaultInvitationEmailAad (vaultId invitationId : Bytes) : Bytes :=
  pairAad "vault-invitation-email:" vaultId invitationId

def liveShareRecipientEmailAad (vaultId shareId : Bytes) : Bytes :=
  pairAad "live-share-recipient-email:" vaultId shareId

/-! ## Vault texts -/

variable (A : Aead)

def encryptVaultName (vaultKey : VaultKey) (vaultId : Bytes) : FixedBytes 24 → String → Bytes :=
  encryptText A vaultKey.asBytes (vaultNameAad vaultId)

def decryptVaultName (vaultKey : VaultKey) (vaultId : Bytes) : Bytes → CryptoResult String :=
  decryptText A vaultKey.asBytes (vaultNameAad vaultId)

def encryptVaultDescription (vaultKey : VaultKey) (vaultId : Bytes) :
    FixedBytes 24 → String → Bytes :=
  encryptText A vaultKey.asBytes (vaultDescriptionAad vaultId)

def decryptVaultDescription (vaultKey : VaultKey) (vaultId : Bytes) :
    Bytes → CryptoResult String :=
  decryptText A vaultKey.asBytes (vaultDescriptionAad vaultId)

def encryptVaultInvitationEmail (vaultKey : VaultKey) (vaultId invitationId : Bytes) :
    FixedBytes 24 → String → Bytes :=
  encryptText A vaultKey.asBytes (vaultInvitationEmailAad vaultId invitationId)

def decryptVaultInvitationEmail (vaultKey : VaultKey) (vaultId invitationId : Bytes) :
    Bytes → CryptoResult String :=
  decryptText A vaultKey.asBytes (vaultInvitationEmailAad vaultId invitationId)

def encryptLiveShareRecipientEmail (vaultKey : VaultKey) (vaultId shareId : Bytes) :
    FixedBytes 24 → String → Bytes :=
  encryptText A vaultKey.asBytes (liveShareRecipientEmailAad vaultId shareId)

def decryptLiveShareRecipientEmail (vaultKey : VaultKey) (vaultId shareId : Bytes) :
    Bytes → CryptoResult String :=
  decryptText A vaultKey.asBytes (liveShareRecipientEmailAad vaultId shareId)

/-! ## Attachments

Each attachment has its own key, wrapped under the vault key; the file and the digest of its
plaintext are sealed under the attachment key, filename and content type under the vault key. -/

def wrapAad (itemId attachmentId : Bytes) : Bytes :=
  pairAad "attachment-content-key:" itemId attachmentId

def blobAad (itemId attachmentId : Bytes) : Bytes :=
  pairAad "attachment-blob:" itemId attachmentId

def filenameAad (itemId attachmentId : Bytes) : Bytes :=
  pairAad "attachment-filename:" itemId attachmentId

def contentTypeAad (itemId attachmentId : Bytes) : Bytes :=
  pairAad "attachment-content-type:" itemId attachmentId

def digestAad (itemId attachmentId : Bytes) : Bytes :=
  pairAad "attachment-digest:" itemId attachmentId

def wrapAttachmentKey (vaultKey : VaultKey) (itemId attachmentId : Bytes)
    (nonce : FixedBytes 24) (attachmentKey : AttachmentKey) : Bytes :=
  xchacha20EncryptWithAad A vaultKey.asBytes nonce attachmentKey.asBytes.toBytes
    (wrapAad itemId attachmentId)

def unwrapAttachmentKey (vaultKey : VaultKey) (itemId attachmentId wrapped : Bytes) :
    CryptoResult AttachmentKey :=
  SymmetricKey.mk <$>
    decryptArray32 A (.invalidKey "attachment key must be 32 bytes") vaultKey.asBytes
      (wrapAad itemId attachmentId) wrapped

def encryptDigest (attachmentKey : AttachmentKey) (itemId attachmentId : Bytes)
    (nonce : FixedBytes 24) (digest : FixedBytes 32) : Bytes :=
  xchacha20EncryptWithAad A attachmentKey.asBytes nonce digest.toBytes
    (digestAad itemId attachmentId)

def decryptDigest (attachmentKey : AttachmentKey) (itemId attachmentId ciphertext : Bytes) :
    CryptoResult (FixedBytes 32) :=
  decryptArray32 A .invalidCiphertext attachmentKey.asBytes (digestAad itemId attachmentId)
    ciphertext

def encryptBlob (attachmentKey : AttachmentKey) (itemId attachmentId : Bytes)
    (nonce : FixedBytes 24) (plaintext : Bytes) : Bytes :=
  xchacha20EncryptWithAad A attachmentKey.asBytes nonce plaintext (blobAad itemId attachmentId)

def decryptBlob (attachmentKey : AttachmentKey) (itemId attachmentId blob : Bytes) :
    CryptoResult Bytes :=
  xchacha20DecryptWithAad A attachmentKey.asBytes blob (blobAad itemId attachmentId)

def encryptFilename (vaultKey : VaultKey) (itemId attachmentId : Bytes) :
    FixedBytes 24 → String → Bytes :=
  encryptText A vaultKey.asBytes (filenameAad itemId attachmentId)

def decryptFilename (vaultKey : VaultKey) (itemId attachmentId : Bytes) :
    Bytes → CryptoResult String :=
  decryptText A vaultKey.asBytes (filenameAad itemId attachmentId)

def encryptContentType (vaultKey : VaultKey) (itemId attachmentId : Bytes) :
    FixedBytes 24 → String → Bytes :=
  encryptText A vaultKey.asBytes (contentTypeAad itemId attachmentId)

def decryptContentType (vaultKey : VaultKey) (itemId attachmentId : Bytes) :
    Bytes → CryptoResult String :=
  decryptText A vaultKey.asBytes (contentTypeAad itemId attachmentId)

section Opening

variable {A : Aead} {vaultKey : VaultKey} {key key' : AttachmentKey}
  {itemId attachmentId itemId' attachmentId' : Bytes} {nonce : FixedBytes 24}
  {digest digest' : FixedBytes 32}

theorem unwrapAttachmentKey_wrap (hA : A.Correct) :
    unwrapAttachmentKey A vaultKey itemId attachmentId
      (wrapAttachmentKey A vaultKey itemId attachmentId nonce key) = .ok key := by
  unfold unwrapAttachmentKey
  simp only [Except.map_eq_ok, decryptArray32_eq_ok]
  exact ⟨key.asBytes, xchacha20Decrypt_encrypt_self hA, rfl⟩

theorem decryptDigest_encryptDigest (hA : A.Correct) :
    decryptDigest A key itemId attachmentId (encryptDigest A key itemId attachmentId nonce digest)
      = .ok digest :=
  decryptArray32_eq_ok.mpr (xchacha20Decrypt_encrypt_self hA)

/-- A digest seal opens to nothing but its digest, under whatever key and ids. -/
theorem decryptDigest_encryptDigest_ok (hA : A.Ideal)
    (h : decryptDigest A key' itemId' attachmentId'
      (encryptDigest A key itemId attachmentId nonce digest) = .ok digest') : digest' = digest := by
  obtain ⟨-, -, hbytes⟩ := xchacha20Decrypt_encrypt_ok hA (decryptArray32_eq_ok.mp h)
  exact FixedBytes.toBytes_inj.mp hbytes

end Opening

end SerenSecrets
