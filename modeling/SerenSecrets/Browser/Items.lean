import SerenSecrets.Browser.Account
import SerenSecrets.Resolver.ItemRuns
import SerenSecrets.Resolver.Resolve

set_option autoImplicit false

/-! # Items in the browser

A page seals and opens the parts of an item one by one: title, tags, metadata, content key and body.
Contents and tags are JSON texts for it, in whatever form the page has them. The native client seals
and opens the row as a whole, with typed contents.

Both look at the same rows. On every row, whoever made it, they agree: the client opens it to an item
exactly if the bindings open its parts to the texts of that item (`decryptItemRecord_iff_pageReads`).
And what a page writes is what the client and an agent that resolves references read
(`page_item_shared`). -/

namespace SerenSecrets.Browser

/-! ## Bindings -/

section Bindings

variable (A : Aead) (B : SealedBox) (P : Parsers)

def itemIdArg (itemId : Bytes) : JsResult Uuid :=
  fixedArg 16 "item_id must be 16 bytes (UUID)" itemId

def itemTitleEncrypt (vaultKey : VaultKey) (itemId : Bytes) (nonce : FixedBytes 24)
    (title : String) : JsResult Bytes := do
  let id ← itemIdArg itemId
  return encryptTitle A vaultKey id.toBytes nonce title

def itemTitleDecrypt (vaultKey : VaultKey) (itemId blob : Bytes) : JsResult String := do
  let id ← itemIdArg itemId
  js (decryptTitle A vaultKey id.toBytes blob)

def itemTagsEncrypt (vaultKey : VaultKey) (itemId : Bytes) (nonce : FixedBytes 24)
    (tagsJson : Bytes) : JsResult Bytes := do
  let id ← itemIdArg itemId
  match (P.json tagsJson).bind tagsOfJson with
  | some tags => return encryptTags A vaultKey id.toBytes nonce tags
  | none => .error "invalid tags JSON"

def itemTagsDecrypt (vaultKey : VaultKey) (itemId blob : Bytes) : JsResult Bytes := do
  let id ← itemIdArg itemId
  let tags ← js (decryptTags A P.json vaultKey id.toBytes blob)
  return tagsToVec tags

/-- The text is sealed as it is, if it is JSON at all. -/
def itemMetadataEncrypt (vaultKey : VaultKey) (itemId : Bytes) (nonce : FixedBytes 24)
    (metadataJson : String) : JsResult Bytes := do
  let id ← itemIdArg itemId
  let _ ← valueFromJson P.json "invalid metadata JSON" (utf8 metadataJson)
  return encryptMetadataJson A vaultKey id.toBytes nonce metadataJson

def itemMetadataDecrypt (vaultKey : VaultKey) (itemId blob : Bytes) : JsResult String := do
  let id ← itemIdArg itemId
  js (decryptMetadataJson A vaultKey id.toBytes blob)

def itemContentKeyWrap (vaultKey : VaultKey) (itemId : Bytes) (nonce : FixedBytes 24)
    (contentKey : ItemContentKey) : JsResult Bytes := do
  let id ← itemIdArg itemId
  return wrapItemContentKey A vaultKey id.toBytes nonce contentKey

def itemContentKeyUnwrap (vaultKey : VaultKey) (itemId blob : Bytes) : JsResult ItemContentKey := do
  let id ← itemIdArg itemId
  js (unwrapItemContentKey A vaultKey id.toBytes blob)

def itemContentKeyWrapForIdentity (ephemeral : FixedBytes 32) (contentKey : ItemContentKey)
    (recipientPublicKey : Bytes) : JsResult Bytes := do
  let recipient ← fixedArg 32 "Recipient KEM public key must be 32 bytes" recipientPublicKey
  return SerenSecrets.itemContentKeyWrapForIdentity B contentKey ⟨recipient⟩ ephemeral

def itemContentKeyUnwrapForIdentity (kemPrivateKey : IdentityKemPrivateKey)
    (wrappedContentKey : Bytes) : JsResult ItemContentKey := do
  let bytes ← js (kemUnseal B kemPrivateKey wrappedContentKey)
  let raw ← fixedArg 32 "Content key must be 32 bytes" bytes
  return ⟨raw⟩

def itemBodyEncryptWithContentKey (contentKey : ItemContentKey) (itemId : Bytes)
    (nonce : FixedBytes 24) (contentJson : Bytes) : JsResult Bytes := do
  let id ← itemIdArg itemId
  match (P.json contentJson).bind ItemContent.codec.read with
  | some content => js (encryptItemWithContentKey A (itemCodec P).toContentCodec contentKey
      id.toBytes nonce content)
  | none => .error "invalid item content JSON"

def itemBodyDecryptWithContentKey (contentKey : ItemContentKey) (itemId blob : Bytes) :
    JsResult Bytes := do
  let id ← itemIdArg itemId
  let content ← js (decryptItemWithContentKey A (itemCodec P).toContentCodec contentKey id.toBytes
    blob)
  return (ItemContent.codec.write content).write

end Bindings

/-! ## Rows -/

/-- An item as a page has it. -/
structure PageItem where
  title : String
  tagsJson : Option Bytes
  metadataJson : String
  contentJson : Bytes

section Rows

variable (A : Aead) (P : Parsers) (vaultKey : VaultKey) (itemId : Uuid)

/-- The bindings open the parts of the row to the page's texts. -/
structure PageReads (record : ItemRecord) (item : PageItem) : Prop where
  title : ∃ blob, Base64.decode record.titleCiphertext = some blob ∧
    itemTitleDecrypt A vaultKey itemId.toBytes blob = .ok item.title
  tags : (record.tagsCiphertext = none ∧ item.tagsJson = none) ∨
    ∃ text blob json, record.tagsCiphertext = some text ∧ Base64.decode text = some blob ∧
      itemTagsDecrypt A P vaultKey itemId.toBytes blob = .ok json ∧ item.tagsJson = some json
  metadata : ∃ blob, Base64.decode record.metadataCiphertext = some blob ∧
    itemMetadataDecrypt A vaultKey itemId.toBytes blob = .ok item.metadataJson
  content : ∃ wrap blob contentKey, Base64.decode record.contentKeyWrap = some wrap ∧
    Base64.decode record.contentCiphertext = some blob ∧
    itemContentKeyUnwrap A vaultKey itemId.toBytes wrap = .ok contentKey ∧
    itemBodyDecryptWithContentKey A P contentKey itemId.toBytes blob = .ok item.contentJson

/-- The row holds what the bindings made of the page's texts. -/
structure PageWrites (draw : CreateDraw) (item : PageItem) (record : ItemRecord) : Prop where
  title : ∃ blob, itemTitleEncrypt A vaultKey itemId.toBytes draw.titleNonce item.title = .ok blob ∧
    record.titleCiphertext = Base64.encode blob
  tags : (item.tagsJson = none ∧ record.tagsCiphertext = none) ∨
    ∃ json blob, item.tagsJson = some json ∧
      itemTagsEncrypt A P vaultKey itemId.toBytes draw.tagsNonce json = .ok blob ∧
      record.tagsCiphertext = some (Base64.encode blob)
  metadata : ∃ blob,
    itemMetadataEncrypt A P vaultKey itemId.toBytes draw.metadataNonce item.metadataJson = .ok blob ∧
    record.metadataCiphertext = Base64.encode blob
  contentKey : ∃ wrap,
    itemContentKeyWrap A vaultKey itemId.toBytes draw.contentKeyNonce draw.contentKey = .ok wrap ∧
    record.contentKeyWrap = Base64.encode wrap
  content : ∃ blob, itemBodyEncryptWithContentKey A P draw.contentKey itemId.toBytes
      draw.contentNonce item.contentJson = .ok blob ∧
    record.contentCiphertext = Base64.encode blob

end Rows

/-- The texts of an item that the client has opened. -/
def pageItem (item : DecryptedItem ItemContent) (record : ItemRecord) : PageItem where
  title := item.title
  tagsJson := record.tagsCiphertext.map fun _ => tagsToVec item.tags
  metadataJson := item.metadataJson
  contentJson := (ItemContent.codec.write item.content).write

section Agreement

variable {A : Aead} {P : Parsers} {vaultKey : VaultKey} {itemId : Uuid}

@[simp] theorem itemIdArg_toBytes (itemId : Uuid) : itemIdArg itemId.toBytes = .ok itemId :=
  fixedArg_toBytes _ itemId

theorem itemTitleDecrypt_eq_ok {blob : Bytes} {title : String} :
    itemTitleDecrypt A vaultKey itemId.toBytes blob = .ok title ↔
      decryptTitle A vaultKey itemId.toBytes blob = .ok title := by
  simp [itemTitleDecrypt, Except.bind_eq_ok]

theorem itemMetadataDecrypt_eq_ok {blob : Bytes} {metadata : String} :
    itemMetadataDecrypt A vaultKey itemId.toBytes blob = .ok metadata ↔
      decryptMetadataJson A vaultKey itemId.toBytes blob = .ok metadata := by
  simp [itemMetadataDecrypt, Except.bind_eq_ok]

theorem itemContentKeyUnwrap_eq_ok {blob : Bytes} {contentKey : ItemContentKey} :
    itemContentKeyUnwrap A vaultKey itemId.toBytes blob = .ok contentKey ↔
      unwrapItemContentKey A vaultKey itemId.toBytes blob = .ok contentKey := by
  simp [itemContentKeyUnwrap, Except.bind_eq_ok]

theorem tagsToVec_injective : Function.Injective tagsToVec := by
  intro tags tags' h
  exact Json.array_injective (fun _ _ => Json.str.inj) (Json.write_injective h)

/-- The text of the tags determines them. -/
theorem itemTagsDecrypt_eq_ok {blob : Bytes} {tags : List String} :
    itemTagsDecrypt A P vaultKey itemId.toBytes blob = .ok (tagsToVec tags) ↔
      decryptTags A P.json vaultKey itemId.toBytes blob = .ok tags := by
  simp only [itemTagsDecrypt, itemIdArg_toBytes, Except.bind_eq_ok, Except.ok.injEq,
    exists_eq_left', js_eq_ok, Except.pure_eq_ok]
  constructor
  · rintro ⟨tags', hopen, htext⟩
    rw [← tagsToVec_injective htext]
    exact hopen
  · intro hopen
    exact ⟨tags, hopen, rfl⟩

theorem write_write_injective {content content' : ItemContent}
    (h : (ItemContent.codec.write content).write = (ItemContent.codec.write content').write) :
    content = content' := by
  have hread := ItemContent.codec.read_write_self content
  rw [Json.write_injective h, ItemContent.codec.read_write_self] at hread
  exact (Option.some.inj hread).symm

/-- The text of the body determines its content. -/
theorem itemBodyDecrypt_eq_ok {contentKey : ItemContentKey} {blob : Bytes} {content : ItemContent} :
    itemBodyDecryptWithContentKey A P contentKey itemId.toBytes blob
        = .ok (ItemContent.codec.write content).write ↔
      decryptItemWithContentKey A (itemCodec P).toContentCodec contentKey itemId.toBytes blob
        = .ok content := by
  simp only [itemBodyDecryptWithContentKey, itemIdArg_toBytes, Except.bind_eq_ok, Except.ok.injEq,
    exists_eq_left', js_eq_ok, Except.pure_eq_ok]
  constructor
  · rintro ⟨content', hopen, htext⟩
    rw [← write_write_injective htext]
    exact hopen
  · intro hopen
    exact ⟨content, hopen, rfl⟩

/-- The tags of a row: no ciphertext stands for no tags. -/
theorem openTags_iff {tagsCiphertext : Option String} {tags : List String} :
    openTags A P vaultKey itemId tagsCiphertext = .ok tags ↔
      (tagsCiphertext = none ∧ tags = []) ∨ ∃ text blob, tagsCiphertext = some text ∧
        Base64.decode text = some blob ∧
        itemTagsDecrypt A P vaultKey itemId.toBytes blob = .ok (tagsToVec tags) := by
  cases tagsCiphertext with
  | none =>
      simp only [openTags, Except.ok.injEq, true_and, reduceCtorEq, false_and, exists_false, or_false]
      exact eq_comm
  | some text =>
      simp only [openTags, Except.bind_eq_ok, b64Decode_eq_ok, fromCrypto_eq_ok, reduceCtorEq,
        false_and, false_or, Option.some.injEq, itemTagsDecrypt_eq_ok]
      constructor
      · rintro ⟨blob, hblob, htags⟩
        exact ⟨text, blob, rfl, hblob, htags⟩
      · rintro ⟨_, blob, rfl, hblob, htags⟩
        exact ⟨blob, hblob, htags⟩

theorem pageReads_of_decryptItemRecord {vaultId : Uuid} {record : ItemRecord}
    {item : DecryptedItem ItemContent}
    (h : decryptItemRecord A (itemCodec P) P vaultKey vaultId itemId record = .ok item) :
    (record.itemId = itemId ∧ record.vaultId = vaultId) ∧
      (item.itemId = itemId ∧ item.sensitive = record.sensitive ∧
        item.updatedAt = record.updatedAt ∧ itemTrashedAt P record.trashedAt = .ok item.trashedAt) ∧
      (record.tagsCiphertext = none → item.tags = []) ∧
      PageReads A P vaultKey itemId record (pageItem item record) := by
  simp only [decryptItemRecord, Except.bind_eq_ok, ensureRecordMatches_eq_ok, b64Decode_eq_ok,
    fromCrypto_eq_ok, Except.pure_eq_ok] at h
  obtain ⟨_, hids, _, htime, wrap, hwrap, blob, hblob, titleCt, htitleCt, metadataCt, hmetadataCt,
    contentKey, hkey, content, hcontent, title, htitle, tags, htags, metadata, hmetadata, rfl⟩ := h
  refine ⟨hids, ⟨rfl, rfl, rfl, htime⟩, ?_, ⟨titleCt, htitleCt, itemTitleDecrypt_eq_ok.mpr htitle⟩,
    ?_, ⟨metadataCt, hmetadataCt, itemMetadataDecrypt_eq_ok.mpr hmetadata⟩, wrap, blob, contentKey,
    hwrap, hblob, itemContentKeyUnwrap_eq_ok.mpr hkey, itemBodyDecrypt_eq_ok.mpr hcontent⟩
  · intro hnone
    rcases openTags_iff.mp htags with ⟨-, hempty⟩ | ⟨text, _, htext, -⟩
    · exact hempty
    · exact absurd (hnone.symm.trans htext) (by simp)
  · rcases openTags_iff.mp htags with ⟨hnone, -⟩ | ⟨text, tagsCt, htext, htagsCt, hopen⟩
    · exact .inl ⟨hnone, by simp [pageItem, hnone]⟩
    · exact .inr ⟨text, tagsCt, _, htext, htagsCt, hopen, by simp [pageItem, htext]⟩

theorem decryptItemRecord_of_pageReads {vaultId : Uuid} {record : ItemRecord}
    {item : DecryptedItem ItemContent}
    (hids : record.itemId = itemId ∧ record.vaultId = vaultId)
    (hrow : item.itemId = itemId ∧ item.sensitive = record.sensitive ∧
      item.updatedAt = record.updatedAt ∧ itemTrashedAt P record.trashedAt = .ok item.trashedAt)
    (hnone : record.tagsCiphertext = none → item.tags = [])
    (hreads : PageReads A P vaultKey itemId record (pageItem item record)) :
    decryptItemRecord A (itemCodec P) P vaultKey vaultId itemId record = .ok item := by
  obtain ⟨id, title, tags, sensitive, content, metadataJson, updatedAt, trashedAt⟩ := item
  obtain ⟨rfl, rfl, rfl, htime⟩ := hrow
  obtain ⟨⟨titleCt, htitleCt, htitle⟩, htags, ⟨metadataCt, hmetadataCt, hmetadata⟩, wrap, blob,
    contentKey, hwrap, hblob, hkey, hcontent⟩ := hreads
  have hopen : openTags A P vaultKey id record.tagsCiphertext = .ok tags := by
    refine openTags_iff.mpr ?_
    rcases htags with ⟨hcipher, -⟩ | ⟨text, tagsCt, json, htext, htagsCt, hopen, hjson⟩
    · exact .inl ⟨hcipher, hnone hcipher⟩
    · simp only [pageItem, htext, Option.map_some, Option.some.injEq] at hjson
      exact .inr ⟨text, tagsCt, htext, htagsCt, hjson ▸ hopen⟩
  simp only [decryptItemRecord, Except.bind_eq_ok, ensureRecordMatches_eq_ok, b64Decode_eq_ok,
    fromCrypto_eq_ok, Except.pure_eq_ok]
  exact ⟨(), hids, trashedAt, htime, wrap, hwrap, blob, hblob, titleCt, htitleCt, metadataCt,
    hmetadataCt, contentKey, itemContentKeyUnwrap_eq_ok.mp hkey, content,
    itemBodyDecrypt_eq_ok.mp hcontent, title, itemTitleDecrypt_eq_ok.mp htitle, tags, hopen,
    metadataJson, itemMetadataDecrypt_eq_ok.mp hmetadata, rfl⟩

/-- **The page and the client agree on every row.** The client opens a row to an item exactly if it
    is the row that was asked for and the bindings open its parts to the texts of the item. -/
theorem decryptItemRecord_iff_pageReads {vaultId : Uuid} {record : ItemRecord}
    {item : DecryptedItem ItemContent} :
    decryptItemRecord A (itemCodec P) P vaultKey vaultId itemId record = .ok item ↔
      (record.itemId = itemId ∧ record.vaultId = vaultId) ∧
      (item.itemId = itemId ∧ item.sensitive = record.sensitive ∧
        item.updatedAt = record.updatedAt ∧ itemTrashedAt P record.trashedAt = .ok item.trashedAt) ∧
      (record.tagsCiphertext = none → item.tags = []) ∧
      PageReads A P vaultKey itemId record (pageItem item record) := by
  constructor
  · exact pageReads_of_decryptItemRecord
  · rintro ⟨hids, hrow, hnone, hreads⟩
    exact decryptItemRecord_of_pageReads hids hrow hnone hreads

end Agreement

/-! ## What a page writes -/

section Writing

variable {A : Aead} {B : SealedBox} {P : Parsers} {vaultKey : VaultKey} {itemId : Uuid}

/-- The tags that a text stands for; no text stands for no tags. -/
def TagsOf (P : Parsers) (tagsJson : Option Bytes) (tags : List String) : Prop :=
  (tagsJson = none ∧ tags = []) ∨
    ∃ json, tagsJson = some json ∧ (P.json json).bind tagsOfJson = some tags

theorem itemBodyEncrypt_ok {contentKey : ItemContentKey} {nonce : FixedBytes 24}
    {contentJson blob : Bytes}
    (h : itemBodyEncryptWithContentKey A P contentKey itemId.toBytes nonce contentJson = .ok blob) :
    ∃ content, (P.json contentJson).bind ItemContent.codec.read = some content ∧
      encryptItemWithContentKey A (itemCodec P).toContentCodec contentKey itemId.toBytes nonce content
        = .ok blob := by
  simp only [itemBodyEncryptWithContentKey, itemIdArg_toBytes, Except.bind_eq_ok, Except.ok.injEq,
    exists_eq_left'] at h
  split at h
  · rename_i content hcontent
    exact ⟨content, hcontent, js_eq_ok.mp h⟩
  · exact absurd h (by simp)

theorem itemTagsEncrypt_ok {nonce : FixedBytes 24} {tagsJson blob : Bytes}
    (h : itemTagsEncrypt A P vaultKey itemId.toBytes nonce tagsJson = .ok blob) :
    ∃ tags, (P.json tagsJson).bind tagsOfJson = some tags ∧
      blob = encryptTags A vaultKey itemId.toBytes nonce tags := by
  simp only [itemTagsEncrypt, itemIdArg_toBytes, Except.bind_eq_ok, Except.ok.injEq,
    exists_eq_left'] at h
  split at h
  · rename_i tags htags
    exact ⟨tags, htags, (Except.ok.inj h).symm⟩
  · exact absurd h (by simp)

/-- A content that was read from a text is written no deeper than the reader follows, so that it is
    read again from its own text. -/
theorem content_read_again (hP : JsonReader P.json 127) {contentJson : Bytes}
    {content : ItemContent}
    (hread : (P.json contentJson).bind ItemContent.codec.read = some content)
    (hnumbers : ∀ n ∈ (ItemContent.codec.write content).numbers, P.json n.write = some (.num n)) :
    (itemCodec P).fromSlice (ItemContent.codec.write content).write = some content :=
  hP.read_codec _ (hP.depth_write_le _ (by decide) hread) hnumbers

/-- What a page has written, the bindings read back as the texts of what it stands for. -/
theorem PageWrites.reads (hA : A.Ideal) (hP : JsonReader P.json 127) {draw : CreateDraw}
    {item : PageItem} {record : ItemRecord} {content : ItemContent}
    (hwrites : PageWrites A P vaultKey itemId draw item record)
    (hcontent : (P.json item.contentJson).bind ItemContent.codec.read = some content)
    (hnumbers : ∀ n ∈ (ItemContent.codec.write content).numbers, P.json n.write = some (.num n)) :
    ∃ tags, TagsOf P item.tagsJson tags ∧ (record.tagsCiphertext = none → tags = []) ∧
      PageReads A P vaultKey itemId record
        ⟨item.title, record.tagsCiphertext.map fun _ => tagsToVec tags, item.metadataJson,
          (ItemContent.codec.write content).write⟩ ∧
      ∃ blob, Base64.decode record.contentCiphertext = some blob ∧
        decryptItemWithContentKey A (itemCodec P).toContentCodec draw.contentKey itemId.toBytes blob
          = .ok content := by
  obtain ⟨⟨titleCt, htitle, hrecordTitle⟩, htags, ⟨metadataCt, hmetadata, hrecordMetadata⟩,
    ⟨wrap, hwrap, hrecordWrap⟩, blob, hblob, hrecordContent⟩ := hwrites
  simp only [itemTitleEncrypt, itemMetadataEncrypt, itemContentKeyWrap, itemIdArg_toBytes,
    Except.bind_eq_ok, Except.ok.injEq, exists_eq_left', Except.pure_eq_ok] at htitle hmetadata hwrap
  obtain ⟨_, -, rfl⟩ := hmetadata
  subst htitle hwrap
  obtain ⟨content', hcontent', hseal⟩ := itemBodyEncrypt_ok hblob
  cases hcontent.symm.trans hcontent'
  have hbody : decryptItemWithContentKey A (itemCodec P).toContentCodec draw.contentKey
      itemId.toBytes blob = .ok content := by
    refine decryptItem_encryptItem hA hseal fun json hjson => ?_
    rw [← Option.some.inj hjson]
    exact content_read_again hP hcontent hnumbers
  have hopened : Base64.decode record.contentCiphertext = some blob := by
    rw [hrecordContent, Base64.decode_encode]
  have hreads : ∀ tagsJson, ((record.tagsCiphertext = none ∧ tagsJson = none) ∨
      ∃ text blob json, record.tagsCiphertext = some text ∧ Base64.decode text = some blob ∧
        itemTagsDecrypt A P vaultKey itemId.toBytes blob = .ok json ∧ tagsJson = some json) →
      PageReads A P vaultKey itemId record ⟨item.title, tagsJson, item.metadataJson,
        (ItemContent.codec.write content).write⟩ := by
    intro tagsJson htagsJson
    have htitleCt : Base64.decode record.titleCiphertext
        = some (encryptTitle A vaultKey itemId.toBytes draw.titleNonce item.title) := by
      rw [hrecordTitle, Base64.decode_encode]
    have hmetadataCt : Base64.decode record.metadataCiphertext = some
        (encryptMetadataJson A vaultKey itemId.toBytes draw.metadataNonce item.metadataJson) := by
      rw [hrecordMetadata, Base64.decode_encode]
    have hwrapped : Base64.decode record.contentKeyWrap = some
        (wrapItemContentKey A vaultKey itemId.toBytes draw.contentKeyNonce draw.contentKey) := by
      rw [hrecordWrap, Base64.decode_encode]
    exact ⟨⟨_, htitleCt, itemTitleDecrypt_eq_ok.mpr (decryptText_encryptText hA.correct)⟩, htagsJson,
      ⟨_, hmetadataCt, itemMetadataDecrypt_eq_ok.mpr (decryptText_encryptText hA.correct)⟩, _, blob,
      draw.contentKey, hwrapped, hopened,
      itemContentKeyUnwrap_eq_ok.mpr (unwrapItemContentKey_wrap hA),
      itemBodyDecrypt_eq_ok.mpr hbody⟩
  rcases htags with ⟨hjson, hcipher⟩ | ⟨json, tagsCt, hjson, htagsCt, hcipher⟩
  · refine ⟨[], .inl ⟨hjson, rfl⟩, fun _ => rfl, hreads _ (.inl ⟨hcipher, ?_⟩), blob, hopened, hbody⟩
    rw [hcipher]
    rfl
  · obtain ⟨tags, htags, rfl⟩ := itemTagsEncrypt_ok htagsCt
    refine ⟨tags, .inr ⟨json, hjson, htags⟩, ?_, hreads _ (.inr ⟨_, _, tagsToVec tags, hcipher,
      Base64.decode_encode _, ?_, ?_⟩), blob, hopened, hbody⟩
    · intro hnone
      exact absurd (hnone.symm.trans hcipher) (by simp)
    · exact itemTagsDecrypt_eq_ok.mpr (decryptTags_encryptTags hA (tags_read hP tags))
    · rw [hcipher]
      rfl

/-- **What a page writes is shared.** The native client reads the row as the content, the tags, the
    title and the metadata that the page's texts stand for; an agent that holds the vault key resolves
    its fields from this content; and whoever is handed the content key reads the same body in a page
    of their own. -/
theorem page_item_shared (hA : A.Ideal) (hB : B.Correct) (hP : JsonReader P.json 127)
    {vaultId : Uuid} {draw : CreateDraw} {item : PageItem} {record : ItemRecord}
    (hids : record.itemId = itemId ∧ record.vaultId = vaultId)
    {trashedAt : Option ServiceTimestamp}
    (htime : itemTrashedAt P record.trashedAt = .ok trashedAt)
    (hwrites : PageWrites A P vaultKey itemId draw item record) {content : ItemContent}
    (hcontent : (P.json item.contentJson).bind ItemContent.codec.read = some content)
    (hnumbers : ∀ n ∈ (ItemContent.codec.write content).numbers, P.json n.write = some (.num n)) :
    (∃ tags, TagsOf P item.tagsJson tags ∧
      decryptItemRecord A (itemCodec P) P vaultKey vaultId itemId record = .ok
        { itemId, title := item.title, tags, sensitive := record.sensitive, content,
          metadataJson := item.metadataJson, updatedAt := record.updatedAt, trashedAt }) ∧
    (∀ (sk : IdentityKemPrivateKey) (ephemeral : FixedBytes 32) (field : String),
      decryptResolvePayload A B (itemCodec P).toContentCodec
        ⟨vaultId, itemId, field, record.contentCiphertext, record.contentKeyWrap, Base64.encode
          (wrapVaultKeyForIdentity B vaultKey ⟨B.publicOf sk.asBytes⟩ ephemeral)⟩
        vaultId itemId field sk = .ok content) ∧
    ∀ (sk : IdentityKemPrivateKey) (ephemeral : FixedBytes 32), ∃ wrapped key blob,
      itemContentKeyWrapForIdentity B ephemeral draw.contentKey (B.publicOf sk.asBytes).toBytes
        = .ok wrapped ∧
      itemContentKeyUnwrapForIdentity B sk wrapped = .ok key ∧
      Base64.decode record.contentCiphertext = some blob ∧
      itemBodyDecryptWithContentKey A P key itemId.toBytes blob
        = .ok (ItemContent.codec.write content).write := by
  obtain ⟨tags, htags, hnone, hreads, blob, hblob, hbody⟩ := hwrites.reads hA hP hcontent hnumbers
  refine ⟨⟨tags, htags, ?_⟩, ?_, ?_⟩
  · exact decryptItemRecord_of_pageReads hids ⟨rfl, rfl, rfl, htime⟩ hnone hreads
  · intro sk ephemeral field
    obtain ⟨wrap, blob', contentKey, hwrap, hblob', hkey, hbody'⟩ := hreads.content
    refine decryptResolvePayload_eq_ok.mpr ⟨⟨rfl, rfl, rfl⟩, _, wrap, blob', Base64.decode_encode _,
      hwrap, hblob', vaultKey, contentKey, ?_, itemContentKeyUnwrap_eq_ok.mp hkey,
      itemBodyDecrypt_eq_ok.mp hbody'⟩
    exact unwrapVaultKey_eq_ok.mpr (kemUnseal_kemSeal hB sk ephemeral _)
  · intro sk ephemeral
    refine ⟨SerenSecrets.itemContentKeyWrapForIdentity B draw.contentKey ⟨B.publicOf sk.asBytes⟩
      ephemeral, draw.contentKey, blob, ?_, ?_, hblob, itemBodyDecrypt_eq_ok.mpr hbody⟩
    · rw [itemContentKeyWrapForIdentity, fixedArg_toBytes]
      rfl
    · simp only [itemContentKeyUnwrapForIdentity, SerenSecrets.itemContentKeyWrapForIdentity,
        kemUnseal_kemSeal hB, Except.bind_eq_ok, js_eq_ok, Except.ok.injEq, exists_eq_left',
        fixedArg_toBytes]
      rfl

end Writing

/-- The texts of the note. -/
def notePage : PageItem where
  title := "Door"
  tagsJson := some (tagsToVec ["home", "keys"])
  metadataJson := metadataText .secureNote true true false
  contentJson := (ItemContent.codec.write doorNote).write

theorem bounded_doorNote :
    (Parsers.bounded.json notePage.contentJson).bind ItemContent.codec.read = some doorNote := by
  have hdepth : (ItemContent.codec.write doorNote).depth ≤ 127 := by decide +kernel
  have hread : Parsers.bounded.json notePage.contentJson = some (ItemContent.codec.write doorNote) :=
    readCompact_write hdepth
  rw [hread, Option.bind_some, ItemContent.codec.read_write_self]

/-- A page writes the note row. -/
theorem pageWrites_updatedNote :
    PageWrites .transparent .bounded ⟨.replicate 32 3⟩ (.replicate 16 2) noteDraw notePage
      updatedNote := by
  have hmetadata : (Parsers.bounded.json (utf8 notePage.metadataJson)).bind JsonValue.ofJson?
      ≠ none := by
    have hread : Parsers.bounded.json (utf8 notePage.metadataJson)
        = some (.obj (metadataMembers .secureNote true true false)) := by
      rw [notePage, utf8_metadataText]
      exact readCompact_write (by decide)
    rw [hread]
    decide
  obtain ⟨value, hvalue⟩ := Option.ne_none_iff_exists'.mp hmetadata
  have htags := tags_read Parsers.bounded_reader ["home", "keys"]
  refine ⟨⟨_, ?_, rfl⟩, .inr ⟨_, _, rfl, ?_, rfl⟩, ⟨_, ?_, rfl⟩, ⟨_, ?_, rfl⟩, _, ?_, rfl⟩
  · rw [itemTitleEncrypt, itemIdArg_toBytes]
    rfl
  · rw [itemTagsEncrypt, itemIdArg_toBytes]
    simp only [htags]
    rfl
  · rw [itemMetadataEncrypt, itemIdArg_toBytes]
    simp only [valueFromJson, hvalue]
    rfl
  · rw [itemContentKeyWrap, itemIdArg_toBytes]
    rfl
  · rw [itemBodyEncryptWithContentKey, itemIdArg_toBytes]
    simp only [bounded_doorNote]
    rfl

/-- The note that the page has written is read by the client, resolved by an agent and opened in the
    page of whoever is handed its content key. -/
theorem page_item_shared_note :
    decryptItemRecord .transparent (itemCodec .bounded) .bounded ⟨.replicate 32 3⟩
      (.replicate 16 1) (.replicate 16 2) updatedNote = .ok
        { itemId := .replicate 16 2, title := "Door", tags := ["home", "keys"], sensitive := true,
          content := doorNote, metadataJson := metadataText .secureNote true true false,
          updatedAt := ⟨"2026-01-02T00:00:00Z"⟩, trashedAt := none } ∧
    decryptResolvePayload .transparent .transparent (itemCodec .bounded).toContentCodec
      ⟨.replicate 16 1, .replicate 16 2, "code", updatedNote.contentCiphertext,
        updatedNote.contentKeyWrap, Base64.encode (wrapVaultKeyForIdentity .transparent
          ⟨.replicate 32 3⟩ ⟨SealedBox.transparent.publicOf (.replicate 32 5)⟩ (.replicate 32 6))⟩
      (.replicate 16 1) (.replicate 16 2) "code" ⟨.replicate 32 5⟩ = .ok doorNote ∧
    ∃ wrapped key blob,
      itemContentKeyWrapForIdentity .transparent (.replicate 32 6) ⟨.replicate 32 4⟩
        (SealedBox.transparent.publicOf (.replicate 32 5)).toBytes = .ok wrapped ∧
      itemContentKeyUnwrapForIdentity .transparent ⟨.replicate 32 5⟩ wrapped = .ok key ∧
      Base64.decode updatedNote.contentCiphertext = some blob ∧
      itemBodyDecryptWithContentKey .transparent .bounded key (FixedBytes.replicate 16 2).toBytes blob
        = .ok (ItemContent.codec.write doorNote).write := by
  have hnumbers : ∀ n ∈ (ItemContent.codec.write doorNote).numbers,
      Parsers.bounded.json n.write = some (.num n) := by
    have hnone : (ItemContent.codec.write doorNote).numbers = [] := by decide +kernel
    rw [hnone]
    simp
  have htime : itemTrashedAt .bounded updatedNote.trashedAt = .ok none := rfl
  obtain ⟨⟨tags, htags, hread⟩, hresolve, hhanded⟩ := page_item_shared Aead.transparent_ideal
    SealedBox.transparent_correct Parsers.bounded_reader updatedNote_ids htime pageWrites_updatedNote
    bounded_doorNote hnumbers
  rcases htags with ⟨hjson, -⟩ | ⟨json, hjson, htags⟩
  · cases hjson
  · obtain rfl : tagsToVec ["home", "keys"] = json := Option.some.inj hjson
    rw [tags_read Parsers.bounded_reader] at htags
    obtain rfl := Option.some.inj htags
    exact ⟨hread, hresolve ⟨.replicate 32 5⟩ (.replicate 32 6) "code",
      hhanded ⟨.replicate 32 5⟩ (.replicate 32 6)⟩

end SerenSecrets.Browser
