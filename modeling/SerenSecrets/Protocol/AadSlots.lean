import SerenSecrets.Protocol.Account
import SerenSecrets.Protocol.Vault

set_option autoImplicit false

/-! # Associated-data slots

Every ciphertext of the library belongs to one of nineteen slots: six of an item, five of an
attachment, four of a vault and four of an account. A slot with its ids fixes the associated data
(`AadSlot.aad`): a label that ends in its only colon, and then the raw ids.

The associated data determines slot and ids (`AadSlot.aad_injective`), because the label is read up
to its first colon and the ids have fixed length. So a blob sealed for one slot or row is refused by
every other one (`slots_never_mix`). -/

namespace SerenSecrets

/-! ## Slots -/

inductive ItemSlot where
  | body
  | title
  | tags
  | metadata
  | lastUsed
  | contentKey
  deriving DecidableEq

inductive AttachmentSlot where
  | contentKey
  | blob
  | filename
  | contentType
  | digest
  deriving DecidableEq

inductive VaultSlot where
  | name
  | description
  deriving DecidableEq

inductive VaultEmailSlot where
  | invitation
  | liveShare
  deriving DecidableEq

inductive AccountSlot where
  | accountKey
  | recoveryKey
  | kemPrivate
  | signingPrivate
  deriving DecidableEq

/-- A slot together with the ids of its row. -/
inductive AadSlot where
  | item (slot : ItemSlot) (itemId : FixedBytes 16)
  | attachment (slot : AttachmentSlot) (itemId attachmentId : FixedBytes 16)
  | vault (slot : VaultSlot) (vaultId : FixedBytes 16)
  | vaultEmail (slot : VaultEmailSlot) (vaultId rowId : FixedBytes 16)
  | account (slot : AccountSlot)
  deriving DecidableEq

/-- The associated data the library uses for a slot. -/
def AadSlot.aad : AadSlot → Bytes
  | item .body i => bodyAad i.toBytes
  | item .title i => titleAad i.toBytes
  | item .tags i => tagsAad i.toBytes
  | item .metadata i => metadataAad i.toBytes
  | item .lastUsed i => lastUsedAad i.toBytes
  | item .contentKey i => contentKeyWrapAad i.toBytes
  | attachment .contentKey i a => wrapAad i.toBytes a.toBytes
  | attachment .blob i a => blobAad i.toBytes a.toBytes
  | attachment .filename i a => filenameAad i.toBytes a.toBytes
  | attachment .contentType i a => contentTypeAad i.toBytes a.toBytes
  | attachment .digest i a => digestAad i.toBytes a.toBytes
  | vault .name v => vaultNameAad v.toBytes
  | vault .description v => vaultDescriptionAad v.toBytes
  | vaultEmail .invitation v r => vaultInvitationEmailAad v.toBytes r.toBytes
  | vaultEmail .liveShare v r => liveShareRecipientEmailAad v.toBytes r.toBytes
  | account .accountKey => accountKeyWrapAad
  | account .recoveryKey => recoveryKeyWrapAad
  | account .kemPrivate => accountKemPrivateWrapAad
  | account .signingPrivate => accountSigningPrivateWrapAad

/-! ## The associated data determines the slot -/

namespace AadSlot

/-- A slot without its ids. -/
inductive Kind where
  | item (slot : ItemSlot)
  | attachment (slot : AttachmentSlot)
  | vault (slot : VaultSlot)
  | vaultEmail (slot : VaultEmailSlot)
  | account (slot : AccountSlot)
  deriving DecidableEq

def kind : AadSlot → Kind
  | item s _ => .item s
  | attachment s _ _ => .attachment s
  | vault s _ => .vault s
  | vaultEmail s _ _ => .vaultEmail s
  | account s => .account s

/-- The label of a slot without its colon. -/
def Kind.label : Kind → String
  | item .body => "body"
  | item .title => "title"
  | item .tags => "tags"
  | item .metadata => "item-metadata"
  | item .lastUsed => "last_used"
  | item .contentKey => "item-content-key"
  | attachment .contentKey => "attachment-content-key"
  | attachment .blob => "attachment-blob"
  | attachment .filename => "attachment-filename"
  | attachment .contentType => "attachment-content-type"
  | attachment .digest => "attachment-digest"
  | vault .name => "vault-name"
  | vault .description => "vault-description"
  | vaultEmail .invitation => "vault-invitation-email"
  | vaultEmail .liveShare => "live-share-recipient-email"
  | account .accountKey => "account-key-wrap"
  | account .recoveryKey => "recovery-key-wrap"
  | account .kemPrivate => "account-kem-private-wrap"
  | account .signingPrivate => "account-signing-private-wrap"

/-- Read a label back. -/
def Kind.ofLabel? (label : String) : Option Kind :=
  ([.item .body, .item .title, .item .tags, .item .metadata, .item .lastUsed, .item .contentKey,
    .attachment .contentKey, .attachment .blob, .attachment .filename, .attachment .contentType,
    .attachment .digest, .vault .name, .vault .description, .vaultEmail .invitation,
    .vaultEmail .liveShare, .account .accountKey, .account .recoveryKey, .account .kemPrivate,
    .account .signingPrivate] : List Kind).find? (fun k => k.label == label)

theorem Kind.ofLabel?_label (k : Kind) : ofLabel? k.label = some k := by
  rcases k with s | s | s | s | s <;> cases s <;> decide

theorem Kind.label_injective : Function.Injective label := by
  intro k k' h
  have hread := congrArg ofLabel? h
  rw [ofLabel?_label, ofLabel?_label] at hread
  exact Option.some.inj hread

theorem Kind.colon_notMem_label (k : Kind) : (58 : UInt8) ∉ utf8 k.label := by
  rcases k with s | s | s | s | s <;> cases s <;> decide

/-- What follows the label. -/
def ids : AadSlot → Bytes
  | item _ i => i.toBytes
  | attachment _ i a => i.toBytes ++ (utf8 ":" ++ a.toBytes)
  | vault _ v => v.toBytes
  | vaultEmail _ v r => v.toBytes ++ (utf8 ":" ++ r.toBytes)
  | account _ => []

theorem aad_eq (s : AadSlot) : s.aad = utf8 s.kind.label ++ 58 :: s.ids := by
  rcases s with ⟨s, i⟩ | ⟨s, i, a⟩ | ⟨s, v⟩ | ⟨s, v, r⟩ | s <;> cases s <;> rfl

/-- Slots of one kind are told apart by their ids. -/
theorem eq_of_kind_of_ids {s t : AadSlot} (hkind : s.kind = t.kind) (hids : s.ids = t.ids) :
    s = t := by
  -- The separator may also occur in an id; the ids are told apart by their width.
  have hpair : ∀ {i a j b : FixedBytes 16}, i.toBytes ++ (utf8 ":" ++ a.toBytes)
      = j.toBytes ++ (utf8 ":" ++ b.toBytes) → i = j ∧ a = b := by
    intro i a j b h
    obtain ⟨hi, h⟩ := (FixedBytes.selfDelimiting 16).split h
    exact ⟨hi, FixedBytes.toBytes_injective (List.append_cancel_left h)⟩
  cases s with
  | item slot i =>
      cases t with
      | item slot' i' =>
          rw [Kind.item.inj hkind, FixedBytes.toBytes_injective hids]
      | _ => exact absurd hkind (by simp [kind])
  | attachment slot i a =>
      cases t with
      | attachment slot' i' a' =>
          obtain ⟨rfl, rfl⟩ := hpair hids
          rw [Kind.attachment.inj hkind]
      | _ => exact absurd hkind (by simp [kind])
  | vault slot v =>
      cases t with
      | vault slot' v' =>
          rw [Kind.vault.inj hkind, FixedBytes.toBytes_injective hids]
      | _ => exact absurd hkind (by simp [kind])
  | vaultEmail slot v r =>
      cases t with
      | vaultEmail slot' v' r' =>
          obtain ⟨rfl, rfl⟩ := hpair hids
          rw [Kind.vaultEmail.inj hkind]
      | _ => exact absurd hkind (by simp [kind])
  | account slot =>
      cases t with
      | account slot' => rw [Kind.account.inj hkind]
      | _ => exact absurd hkind (by simp [kind])

/-- **The associated data determines slot and ids**, whatever bytes the ids hold. -/
theorem aad_injective : Function.Injective aad := by
  intro s t h
  rw [aad_eq, aad_eq] at h
  obtain ⟨hlabel, hids⟩ := append_terminator_inj s.kind.colon_notMem_label
    t.kind.colon_notMem_label h
  exact eq_of_kind_of_ids (Kind.label_injective (utf8_injective hlabel)) hids

end AadSlot

/-! ## Sealing and opening a slot -/

/-- What is sealed in a slot. -/
def AadSlot.Plain (Content : Type) : AadSlot → Type
  | item .body _ => Content
  | item .title _ => String
  | item .tags _ => List String
  | item .metadata _ => String
  | item .lastUsed _ => String
  | item .contentKey _ => ItemContentKey
  | attachment .contentKey _ _ => AttachmentKey
  | attachment .blob _ _ => Bytes
  | attachment .filename _ _ => String
  | attachment .contentType _ _ => String
  | attachment .digest _ _ => FixedBytes 32
  | vault _ _ => String
  | vaultEmail _ _ _ => String
  | account .accountKey => AccountKey
  | account .recoveryKey => AccountKey
  | account .kemPrivate => IdentityKemPrivateKey
  | account .signingPrivate => IdentitySigningPrivateKey

section Dispatch

variable {Content : Type} (A : Aead) (codec : ContentCodec Content)
  (parseJson : Bytes → Option Json)

/-- The library's function that seals a slot. The account wraps are made inline by the account
    operations. -/
def sealSlot : (s : AadSlot) → FixedBytes 32 → FixedBytes 24 → s.Plain Content → CryptoResult Bytes
  | .item .body i, key, nonce, content =>
      encryptItemWithContentKey A codec ⟨key⟩ i.toBytes nonce content
  | .item .title i, key, nonce, title => .ok (encryptTitle A ⟨key⟩ i.toBytes nonce title)
  | .item .tags i, key, nonce, tags => .ok (encryptTags A ⟨key⟩ i.toBytes nonce tags)
  | .item .metadata i, key, nonce, json =>
      .ok (encryptMetadataJson A ⟨key⟩ i.toBytes nonce json)
  | .item .lastUsed i, key, nonce, time => .ok (encryptLastUsed A ⟨key⟩ i.toBytes nonce time)
  | .item .contentKey i, key, nonce, contentKey =>
      .ok (wrapItemContentKey A ⟨key⟩ i.toBytes nonce contentKey)
  | .attachment .contentKey i a, key, nonce, attachmentKey =>
      .ok (wrapAttachmentKey A ⟨key⟩ i.toBytes a.toBytes nonce attachmentKey)
  | .attachment .blob i a, key, nonce, plaintext =>
      .ok (encryptBlob A ⟨key⟩ i.toBytes a.toBytes nonce plaintext)
  | .attachment .filename i a, key, nonce, name =>
      .ok (encryptFilename A ⟨key⟩ i.toBytes a.toBytes nonce name)
  | .attachment .contentType i a, key, nonce, contentType =>
      .ok (encryptContentType A ⟨key⟩ i.toBytes a.toBytes nonce contentType)
  | .attachment .digest i a, key, nonce, digest =>
      .ok (encryptDigest A ⟨key⟩ i.toBytes a.toBytes nonce digest)
  | .vault .name v, key, nonce, name => .ok (encryptVaultName A ⟨key⟩ v.toBytes nonce name)
  | .vault .description v, key, nonce, description =>
      .ok (encryptVaultDescription A ⟨key⟩ v.toBytes nonce description)
  | .vaultEmail .invitation v r, key, nonce, email =>
      .ok (encryptVaultInvitationEmail A ⟨key⟩ v.toBytes r.toBytes nonce email)
  | .vaultEmail .liveShare v r, key, nonce, email =>
      .ok (encryptLiveShareRecipientEmail A ⟨key⟩ v.toBytes r.toBytes nonce email)
  | .account .accountKey, key, nonce, accountKey => .ok (wrapAccountKey A ⟨key⟩ nonce accountKey)
  | .account .recoveryKey, key, nonce, accountKey =>
      .ok (wrapAccountKeyForRecovery A ⟨key⟩ nonce accountKey)
  | .account .kemPrivate, key, nonce, kemPrivate =>
      .ok (xchacha20EncryptWithAad A key nonce kemPrivate.asBytes.toBytes accountKemPrivateWrapAad)
  | .account .signingPrivate, key, nonce, signingPrivate =>
      .ok (xchacha20EncryptWithAad A key nonce signingPrivate.asBytes.toBytes
        accountSigningPrivateWrapAad)

/-- The library's function that opens a slot. Recovery and unlock open the recovery wrap and the
    KEM wrap inline. -/
def openSlot : (s : AadSlot) → FixedBytes 32 → Bytes → CryptoResult (s.Plain Content)
  | .item .body i, key, blob => decryptItemWithContentKey A codec ⟨key⟩ i.toBytes blob
  | .item .title i, key, blob => decryptTitle A ⟨key⟩ i.toBytes blob
  | .item .tags i, key, blob => decryptTags A parseJson ⟨key⟩ i.toBytes blob
  | .item .metadata i, key, blob => decryptMetadataJson A ⟨key⟩ i.toBytes blob
  | .item .lastUsed i, key, blob => decryptLastUsed A ⟨key⟩ i.toBytes blob
  | .item .contentKey i, key, blob => unwrapItemContentKey A ⟨key⟩ i.toBytes blob
  | .attachment .contentKey i a, key, blob =>
      unwrapAttachmentKey A ⟨key⟩ i.toBytes a.toBytes blob
  | .attachment .blob i a, key, blob => decryptBlob A ⟨key⟩ i.toBytes a.toBytes blob
  | .attachment .filename i a, key, blob => decryptFilename A ⟨key⟩ i.toBytes a.toBytes blob
  | .attachment .contentType i a, key, blob =>
      decryptContentType A ⟨key⟩ i.toBytes a.toBytes blob
  | .attachment .digest i a, key, blob => decryptDigest A ⟨key⟩ i.toBytes a.toBytes blob
  | .vault .name v, key, blob => decryptVaultName A ⟨key⟩ v.toBytes blob
  | .vault .description v, key, blob => decryptVaultDescription A ⟨key⟩ v.toBytes blob
  | .vaultEmail .invitation v r, key, blob =>
      decryptVaultInvitationEmail A ⟨key⟩ v.toBytes r.toBytes blob
  | .vaultEmail .liveShare v r, key, blob =>
      decryptLiveShareRecipientEmail A ⟨key⟩ v.toBytes r.toBytes blob
  | .account .accountKey, key, blob => unwrapAccountKey A ⟨key⟩ blob
  | .account .recoveryKey, key, blob =>
      SymmetricKey.mk <$> decryptArray32 A (.invalidKey "recovered account key wrong length") key
        recoveryKeyWrapAad blob
  | .account .kemPrivate, key, blob =>
      IdentityKemPrivateKey.mk <$> decryptArray32 A
        (.invalidKey "X25519 private key must be 32 bytes") key accountKemPrivateWrapAad blob
  | .account .signingPrivate, key, blob => unwrapAccountSigningPrivateKey A ⟨key⟩ blob

end Dispatch

section NeverMix

variable {Content : Type} {A : Aead} {codec : ContentCodec Content}
  {parseJson : Bytes → Option Json}

/-- Whatever a slot seals is an envelope with the slot's associated data. -/
theorem sealSlot_ok {s : AadSlot} {key : FixedBytes 32} {nonce : FixedBytes 24}
    {plain : s.Plain Content} {blob : Bytes} (h : sealSlot A codec s key nonce plain = .ok blob) :
    ∃ pt, blob = xchacha20EncryptWithAad A key nonce pt s.aad := by
  rcases s with ⟨s, i⟩ | ⟨s, i, a⟩ | ⟨s, v⟩ | ⟨s, v, r⟩ | s <;> cases s
  -- Only the body can fail to be written.
  case item.body =>
      simp only [sealSlot, encryptItemWithContentKey] at h
      split at h
      · exact ⟨_, (Except.ok.inj h).symm⟩
      · exact absurd h (by simp)
  all_goals exact ⟨_, (Except.ok.inj h).symm⟩

/-- A slot fails as its envelope does. -/
theorem openSlot_error {s : AadSlot} {key : FixedBytes 32} {blob : Bytes} {e : CryptoError}
    (h : xchacha20DecryptWithAad A key blob s.aad = .error e) :
    openSlot A codec parseJson s key blob = .error e := by
  rcases s with ⟨s, i⟩ | ⟨s, i, a⟩ | ⟨s, v⟩ | ⟨s, v, r⟩ | s <;> cases s
  all_goals
    simp only [AadSlot.aad] at h
    simp only [openSlot, decryptItemWithContentKey, decryptTitle, decryptTags, decryptMetadataJson,
      decryptLastUsed, unwrapItemContentKey, unwrapAttachmentKey, decryptBlob, decryptFilename,
      decryptContentType, decryptDigest, decryptVaultName, decryptVaultDescription,
      decryptVaultInvitationEmail, decryptLiveShareRecipientEmail, unwrapAccountKey,
      unwrapAccountSigningPrivateKey, decryptText, decryptArray32, h]
    rfl

end NeverMix

/-- **Ciphertext slots never mix**: the associated data determines slot and ids, and under an ideal
    AEAD what was sealed for one slot and row is refused as `AuthFailure` by every other, whatever
    the keys. -/
theorem slots_never_mix {Content : Type} {A : Aead} (hA : A.Ideal) (codec : ContentCodec Content)
    (parseJson : Bytes → Option Json) :
    (∀ s t : AadSlot, s.aad = t.aad → s = t) ∧
      ∀ (s t : AadSlot), s ≠ t → ∀ (key key' : FixedBytes 32) (nonce : FixedBytes 24)
        (plain : s.Plain Content) (blob : Bytes), sealSlot A codec s key nonce plain = .ok blob →
          openSlot A codec parseJson t key' blob = .error .authFailure := by
  refine ⟨fun s t h => AadSlot.aad_injective h, ?_⟩
  intro s t hne key key' nonce plain blob hseal
  obtain ⟨pt, rfl⟩ := sealSlot_ok hseal
  apply openSlot_error
  apply xchacha20Decrypt_encrypt_authFailure hA
  right
  intro haad
  exact hne (AadSlot.aad_injective haad).symm

/-- A text codec, for which a content is its own UTF-8 bytes. -/
def textCodec : ContentCodec String where
  toVec text := some (utf8 text)
  fromSlice := fromUtf8?

/-- A title moved to the tags slot of the same item is refused. -/
theorem slots_never_mix_title :
    openSlot .transparent textCodec (fun _ => none)
      (.item .tags (.replicate 16 58)) (.replicate 32 1)
      (encryptTitle .transparent ⟨.replicate 32 1⟩ (List.replicate 16 58) (.replicate 24 0) "bank")
      = .error .authFailure :=
  (slots_never_mix Aead.transparent_ideal textCodec (fun _ => none)).2
    (.item .title (.replicate 16 58)) (.item .tags (.replicate 16 58)) (by decide)
    (.replicate 32 1) (.replicate 32 1) (.replicate 24 0) "bank" _ rfl

end SerenSecrets
