import SerenSecrets.Lib.Client
import SerenSecrets.Protocol.Vault
import SerenSecrets.Resolver.Http
import SerenSecrets.Resolver.Items

set_option autoImplicit false

/-! # Attachments of an item

An upload is sealed under a key of its own, which is wrapped under the vault key; all of it is bound to
the item and the attachment. A guarded write names the revision of the parent item, and a guarded
deletion also the exact digest ciphertext that the row must hold.

Reading a listing checks every record. A digest that is missing or does not open makes its file
unverifiable and nothing else. -/

namespace SerenSecrets

/-! ## Sizes -/

def maxEncryptedBytes : ℕ := 100 * 1024 * 1024

def maxItemEncryptedBytes : ℕ := 500 * 1024 * 1024

def maxMetadataBytes : ℕ := 64 * 1024

/-- Two version bytes, a nonce and a tag. -/
def envelopeBytes : ℕ := 2 + 24 + 16

def maxAttachmentPlaintextBytes : ℕ := maxEncryptedBytes - envelopeBytes

def base64Len (bytes : ℕ) : ℕ := (bytes + 2) / 3 * 4

theorem base64Len_mono {m n : ℕ} (h : m ≤ n) : base64Len m ≤ base64Len n := by
  unfold base64Len
  omega

theorem length_utf8_encode (bytes : Bytes) :
    (utf8 (Base64.encode bytes)).length = base64Len bytes.length :=
  Base64.length_utf8_encode bytes

def maxDownloadResponseBytes : ℕ :=
  base64Len maxEncryptedBytes + 3 * base64Len maxMetadataBytes + 64 * 1024

/-- The sum of two 64-bit numbers, unless it overflows. -/
def checkedAdd (a b : ℕ) : Option ℕ := if a + b < 2 ^ 64 then some (a + b) else none

def boundedDecode (encoded : String) (limit : ℕ) : ResolverResult Bytes := do
  rejectIf ((utf8 encoded).length > base64Len limit) (.malformed "attachment size")
  let decoded ← b64Decode encoded "attachment encoding"
  rejectIf (decoded.length > limit) (.malformed "attachment size")
  return decoded

theorem boundedDecode_eq_ok {encoded : String} {limit : ℕ} {bytes : Bytes} :
    boundedDecode encoded limit = .ok bytes ↔
      (utf8 encoded).length ≤ base64Len limit ∧ Base64.decode encoded = some bytes ∧
        bytes.length ≤ limit := by
  simp [boundedDecode, Except.bind_eq_ok]

/-- An encoding is accepted exactly when its bytes fit. -/
theorem boundedDecode_encode {limit : ℕ} {bytes : Bytes} :
    boundedDecode (Base64.encode bytes) limit = .ok bytes ↔ bytes.length ≤ limit := by
  rw [boundedDecode_eq_ok, Base64.length_utf8_encode, Base64.decode_encode, base64Len]
  constructor
  · rintro ⟨-, -, hfits⟩
    exact hfits
  · intro hfits
    exact ⟨by omega, rfl, hfits⟩

/-- The service's count of encrypted bytes. -/
def encryptedSize (size : ℤ) : ResolverResult ℕ :=
  if size < 0 then .error (.malformed "attachment size")
  else if size.toNat < envelopeBytes ∨ size.toNat > maxEncryptedBytes then
    .error (.malformed "attachment size")
  else .ok size.toNat

def validateUpload (bytes filename : ℕ) (contentType : Option ℕ) (total : ℕ) :
    ResolverResult Unit :=
  rejectIf (bytes > maxAttachmentPlaintextBytes ∨ filename = 0
      ∨ filename > maxMetadataBytes - envelopeBytes
      ∨ contentType.any (fun size => size == 0 || size > maxMetadataBytes - envelopeBytes)
      ∨ (checkedAdd total (bytes + envelopeBytes)).all (fun total => total > maxItemEncryptedBytes))
    (.invalidInput "attachment size")

/-! ## Records -/

structure AttachmentUpload where
  filename : String
  contentType : Option String
  bytes : Bytes

structure AttachmentSummary where
  attachmentId : Uuid
  itemId : Uuid
  filename : String
  contentType : Option String
  sizeBytes : ℕ
  encryptedSizeBytes : ℕ
  createdAt : ServiceTimestamp
  sha256 : Option (FixedBytes 32)

structure DecryptedAttachment where
  summary : AttachmentSummary
  bytes : Bytes

inductive AttachmentPutOutcome where
  | created (summary : AttachmentSummary)
  | alreadyPresent
  | idConflict
  | stale

inductive AttachmentDeleteOutcome where
  | deleted
  | alreadyAbsent
  | mismatch
  | stale
  deriving DecidableEq, Repr

/-- The outcome of a guarded write, with the parent revision the service reported for it. -/
structure AttachmentWrite (T : Type) where
  outcome : T
  itemUpdatedAt : Option ItemRevision

structure AttachmentRecord where
  attachmentId : Uuid
  itemId : Uuid
  filenameCiphertext : String
  contentTypeCiphertext : String
  wrappedContentKey : String
  sizeBytes : ℤ
  createdAt : String
  digestCiphertext : Option String
  deriving DecidableEq

namespace AttachmentRecord

def ofFields (fields : String → Option Json) : Option AttachmentRecord := do
  let attachmentId ← Json.field fields "attachment_id" Json.asUuid?
  let itemId ← Json.field fields "item_id" Json.asUuid?
  let filenameCiphertext ← Json.field fields "filename_ciphertext" Json.asStr?
  let contentTypeCiphertext ← Json.field fields "content_type_ciphertext" Json.asStr?
  let wrappedContentKey ← Json.field fields "wrapped_content_key" Json.asStr?
  let sizeBytes ← Json.field fields "size_bytes" (Json.asInt? (-2 ^ 63) (2 ^ 63 - 1))
  let createdAt ← Json.field fields "created_at" Json.asStr?
  let digestCiphertext ← Json.fieldOr fields "digest_ciphertext" (Json.nullable Json.asStr?) none
  return { attachmentId, itemId, filenameCiphertext, contentTypeCiphertext, wrappedContentKey,
           sizeBytes, createdAt, digestCiphertext }

def ofJson (value : Json) : Option AttachmentRecord :=
  (value.record? ["attachment_id", "item_id", "filename_ciphertext", "content_type_ciphertext",
    "wrapped_content_key", "size_bytes", "created_at", "digest_ciphertext"]).bind ofFields

/-- The service's JSON form of a record. -/
def toJson (record : AttachmentRecord) : Json :=
  .obj
    [("attachment_id", .uuid record.attachmentId), ("item_id", .uuid record.itemId),
      ("filename_ciphertext", .str record.filenameCiphertext),
      ("content_type_ciphertext", .str record.contentTypeCiphertext),
      ("wrapped_content_key", .str record.wrappedContentKey),
      ("size_bytes", .int record.sizeBytes), ("created_at", .str record.createdAt),
      ("digest_ciphertext", .orNull .str record.digestCiphertext)]

/-- What the service writes is read back. -/
theorem ofJson_toJson {record : AttachmentRecord}
    (hsize : -2 ^ 63 ≤ record.sizeBytes ∧ record.sizeBytes ≤ 2 ^ 63 - 1) :
    ofJson record.toJson = some record := by
  obtain ⟨attachmentId, itemId, filename, contentType, key, size, createdAt, digest⟩ := record
  have hnumber : Json.asInt? (-9223372036854775808) 9223372036854775807 (.int size) = some size :=
    if_pos hsize
  have hdigest : Json.nullable Json.asStr? (.orNull .str digest) = some digest := by
    cases digest <;> rfl
  simp [ofJson, ofFields, toJson, Json.record?, Json.get?, Json.field, Json.fieldOr, hnumber,
    hdigest, Json.asStr?]

end AttachmentRecord

def attachmentRecordsOfJson : Json → Option (List AttachmentRecord)
  | .arr elems => elems.mapM AttachmentRecord.ofJson
  | _ => none

/-- An object that holds the fields of a record besides its own. -/
def flatFields : Json → Option (String → Option Json)
  | .obj members => some (fun key => (Json.obj members).get? key)
  | _ => none

structure AttachmentWithBlob where
  record : AttachmentRecord
  blob : String

def AttachmentWithBlob.ofJson (value : Json) : Option AttachmentWithBlob := do
  let fields ← flatFields value
  let blob ← Json.field fields "blob" Json.asStr?
  let record ← AttachmentRecord.ofFields fields
  return { record, blob }

structure CreatedAttachment where
  record : AttachmentRecord
  itemUpdatedAt : String

def CreatedAttachment.ofJson (value : Json) : Option CreatedAttachment := do
  let fields ← flatFields value
  let itemUpdatedAt ← Json.field fields "item_updated_at" Json.asStr?
  let record ← AttachmentRecord.ofFields fields
  return { record, itemUpdatedAt }

inductive ConditionalDeleteState where
  | deleted
  | alreadyAbsent
  deriving DecidableEq, Repr

def ConditionalDeleteState.outcome : ConditionalDeleteState → AttachmentDeleteOutcome
  | deleted => .deleted
  | alreadyAbsent => .alreadyAbsent

structure ConditionalDeleteResponse where
  state : ConditionalDeleteState
  itemUpdatedAt : String
  deriving DecidableEq

def ConditionalDeleteResponse.ofJson (value : Json) : Option ConditionalDeleteResponse := do
  let fields ← value.record? ["state", "item_updated_at"]
  let state ← Json.field fields "state"
    (Json.unitVariant? [("deleted", .deleted), ("already_absent", .alreadyAbsent)])
  let itemUpdatedAt ← Json.field fields "item_updated_at" Json.asStr?
  return { state, itemUpdatedAt }

def parseItemUpdatedAt (P : Parsers) (value : String) : ResolverResult ItemRevision :=
  orMalformed "attachment item_updated_at" (ItemRevision.new P value).toOption

/-- The encrypted payload of an upload. -/
structure AttachmentRequest where
  attachmentId : Uuid
  blob : String
  filenameCiphertext : String
  contentTypeCiphertext : String
  wrappedContentKey : String
  digestCiphertext : Option String
  deriving DecidableEq

structure PendingAttachmentUpload where
  request : AttachmentRequest
  key : AttachmentKey
  itemId : Uuid
  bytes : Bytes

/-- The random values of an upload. -/
structure UploadDraw where
  key : AttachmentKey
  filenameNonce : FixedBytes 24
  contentTypeNonce : FixedBytes 24
  keyNonce : FixedBytes 24
  digestNonce : FixedBytes 24
  blobNonce : FixedBytes 24

section Sealing

variable (A : Aead) (P : Parsers)

/-! ## Reading a record -/

/-- The digest of a record, if there is one and it opens. -/
def openDigest (key : AttachmentKey) (itemId : Uuid) (record : AttachmentRecord) :
    Option (FixedBytes 32) := do
  let encoded ← record.digestCiphertext
  let ciphertext ← (boundedDecode encoded maxMetadataBytes).toOption
  (decryptDigest A key itemId.toBytes record.attachmentId.toBytes ciphertext).toOption

def attachmentSummary (vaultKey : VaultKey) (itemId : Uuid) (record : AttachmentRecord) :
    ResolverResult AttachmentSummary := do
  rejectIf (record.itemId ≠ itemId) .responseMismatch
  let size ← encryptedSize record.sizeBytes
  let id := record.attachmentId.toBytes
  let wrapped ← boundedDecode record.wrappedContentKey maxMetadataBytes
  let key ← fromCrypto (unwrapAttachmentKey A vaultKey itemId.toBytes id wrapped)
  let sha256 := openDigest A key itemId record
  let filenameCt ← boundedDecode record.filenameCiphertext maxMetadataBytes
  let filename ← fromCrypto (decryptFilename A vaultKey itemId.toBytes id filenameCt)
  let contentTypeCt ← boundedDecode record.contentTypeCiphertext maxMetadataBytes
  let contentType ← fromCrypto (decryptContentType A vaultKey itemId.toBytes id contentTypeCt)
  let createdAt ← orMalformed "attachment created_at"
    (ServiceTimestamp.new P record.createdAt).toOption
  return {
    attachmentId := record.attachmentId
    itemId := itemId
    filename := filename
    contentType := if contentType.isEmpty then none else some contentType
    sizeBytes := size - envelopeBytes
    encryptedSizeBytes := size
    createdAt := createdAt
    sha256 := sha256 }

/-- The loop over the records of a listing: `seen` are the ids so far, `total` their sizes. -/
def openRecords (vaultKey : VaultKey) (itemId : Uuid) (seen : List Uuid) (total : ℕ) :
    List AttachmentRecord → ResolverResult (List (AttachmentRecord × AttachmentSummary))
  | [] => .ok []
  | record :: records => do
      rejectIf (record.attachmentId ∈ seen) .responseMismatch
      let summary ← attachmentSummary A P vaultKey itemId record
      let total ← orMalformed "attachment total size" (checkedAdd total summary.encryptedSizeBytes)
      rejectIf (total > maxItemEncryptedBytes) (.malformed "attachment total size")
      let rest ← openRecords vaultKey itemId (record.attachmentId :: seen) total records
      return (record, summary) :: rest

/-! ## Sealing an upload -/

def prepareUpload (draw : UploadDraw) (vaultKey : VaultKey) (itemId attachmentId : Uuid)
    (upload : AttachmentUpload) (sha256 : Option (FixedBytes 32)) :
    ResolverResult PendingAttachmentUpload := do
  validateUpload upload.bytes.length (utf8 upload.filename).length
    (upload.contentType.map fun value => (utf8 value).length) 0
  let item := itemId.toBytes
  let id := attachmentId.toBytes
  let request : AttachmentRequest := {
    attachmentId := attachmentId
    blob := ""
    filenameCiphertext :=
      Base64.encode (encryptFilename A vaultKey item id draw.filenameNonce upload.filename)
    contentTypeCiphertext := Base64.encode (encryptContentType A vaultKey item id
      draw.contentTypeNonce (upload.contentType.getD ""))
    wrappedContentKey :=
      Base64.encode (wrapAttachmentKey A vaultKey item id draw.keyNonce draw.key)
    digestCiphertext := sha256.map fun digest =>
      Base64.encode (encryptDigest A draw.key item id draw.digestNonce digest) }
  return { request, key := draw.key, itemId, bytes := upload.bytes }

def PendingAttachmentUpload.encrypt (draw : UploadDraw) (pending : PendingAttachmentUpload) :
    AttachmentRequest :=
  let encrypted := encryptBlob A pending.key pending.itemId.toBytes
    pending.request.attachmentId.toBytes draw.blobNonce pending.bytes
  { pending.request with blob := Base64.encode encrypted }

def buildAttachmentRequest (draw : UploadDraw) (vaultKey : VaultKey) (itemId attachmentId : Uuid)
    (upload : AttachmentUpload) (sha256 : Option (FixedBytes 32)) :
    ResolverResult AttachmentRequest :=
  PendingAttachmentUpload.encrypt A draw <$>
    prepareUpload A draw vaultKey itemId attachmentId upload sha256

/-- Open a blob whose length must be the one the service reported. -/
def decryptEncryptedBlob (key : AttachmentKey) (itemId attachmentId : Uuid) (blob : Bytes)
    (limit : ℕ) : ResolverResult Bytes := do
  rejectIf (blob.length ≠ limit) (.malformed "attachment blob size")
  let bytes ← fromCrypto (decryptBlob A key itemId.toBytes attachmentId.toBytes blob)
  rejectIf (bytes.length + envelopeBytes ≠ limit) (.malformed "attachment plaintext size")
  return bytes

/-- Open an encoded blob of the reported length. -/
def Attachments.decryptBlob (key : AttachmentKey) (itemId attachmentId : Uuid) (encoded : String)
    (encryptedSize : ℕ) : ResolverResult Bytes := do
  rejectIf (encryptedSize < envelopeBytes ∨ encryptedSize > maxEncryptedBytes)
    (.malformed "attachment blob size")
  let blob ← boundedDecode encoded encryptedSize
  decryptEncryptedBlob A key itemId attachmentId blob encryptedSize

end Sealing

/-! ## Client operations -/

/-- A request about attachments, with its body and its optional `If-Match` revision. -/
inductive AttachmentCall where
  | listAttachments (vaultId itemId : Uuid)
  | getAttachment (vaultId itemId attachmentId : Uuid)
  | createAttachment (vaultId itemId : Uuid) (body : AttachmentRequest)
      (ifMatch : Option ItemRevision)
  | deleteAttachment (vaultId itemId attachmentId : Uuid)
  | conditionalDelete (vaultId itemId attachmentId : Uuid) (expectedDigestCiphertext : String)
      (ifMatch : ItemRevision)

namespace AttachmentCall

def method : AttachmentCall → Method
  | listAttachments _ _ => .get
  | getAttachment _ _ _ => .get
  | createAttachment _ _ _ _ => .post
  | deleteAttachment _ _ _ => .delete
  | conditionalDelete _ _ _ _ _ => .post

def attachmentsPath (vaultId itemId : Uuid) : String :=
  ItemCall.itemPath vaultId itemId ++ "/attachments"

def path : AttachmentCall → String
  | listAttachments v i => attachmentsPath v i
  | getAttachment v i a => attachmentsPath v i ++ "/" ++ a.toText
  | createAttachment v i _ _ => attachmentsPath v i
  | deleteAttachment v i a => attachmentsPath v i ++ "/" ++ a.toText
  | conditionalDelete v i a _ _ => attachmentsPath v i ++ "/" ++ a.toText ++ "/deletion"

end AttachmentCall

/-- Programs that talk to the attachment routes. -/
abbrev AttachmentClient (α : Type) := Client AttachmentCall HttpReply ResolverError α

/-- The error is a refusal with this status. -/
def hasStatus (error : ResolverError) (status : UInt16) : Bool :=
  match error with
  | .serverError got _ => got == status
  | _ => false

/-- A digest seal under a key that is used for nothing else. -/
structure ThrowawayDraw where
  key : AttachmentKey
  nonce : FixedBytes 24

section Operations

variable (A : Aead) (sha256 : Bytes → FixedBytes 32) (P : Parsers)

def callWithOptions (request : AttachmentCall) (responseCap : ℕ) : AttachmentClient Json :=
  Client.ask (readReply P responseCap) request

/-- The listed records, each beside its verified summary. -/
def listAttachmentRecords (vaultId itemId : Uuid) (vaultKey : VaultKey) :
    AttachmentClient (List (AttachmentRecord × AttachmentSummary)) := do
  let value ← callWithOptions P (.listAttachments vaultId itemId) maxGatewayBody
  let records ← .ofExcept (orMalformed "attachment list" (attachmentRecordsOfJson value))
  .ofExcept (openRecords A P vaultKey itemId [] 0 records)

def listAttachments (vaultId itemId : Uuid) (vaultKey : VaultKey) :
    AttachmentClient (List AttachmentSummary) := do
  let listed ← listAttachmentRecords A P vaultId itemId vaultKey
  return listed.map Prod.snd

def getAttachment (vaultId itemId attachmentId : Uuid) (vaultKey : VaultKey) :
    AttachmentClient DecryptedAttachment := do
  let value ← callWithOptions P (.getAttachment vaultId itemId attachmentId)
    maxDownloadResponseBytes
  .ofExcept do
    let response ← orMalformed "attachment record" (AttachmentWithBlob.ofJson value)
    rejectIf (response.record.attachmentId ≠ attachmentId) .responseMismatch
    let summary ← attachmentSummary A P vaultKey itemId response.record
    let wrapped ← boundedDecode response.record.wrappedContentKey maxMetadataBytes
    let key ← fromCrypto
      (unwrapAttachmentKey A vaultKey itemId.toBytes attachmentId.toBytes wrapped)
    let limit := summary.encryptedSizeBytes
    let encrypted ← boundedDecode response.blob limit
    let bytes ← decryptEncryptedBlob A key itemId attachmentId encrypted limit
    return { summary, bytes }

/-- Upload under a new id, without guards and without a digest. -/
def putAttachment (newAttachmentId : Uuid) (draw : UploadDraw) (vaultId itemId : Uuid)
    (vaultKey : VaultKey) (upload : AttachmentUpload) : AttachmentClient AttachmentSummary := do
  let expectedSize := upload.bytes.length + envelopeBytes
  let body ← .ofExcept
    (buildAttachmentRequest A draw vaultKey itemId newAttachmentId upload none)
  let value ← (callWithOptions P (.createAttachment vaultId itemId body none)
    maxGatewayBody).mapErr itemWriteError
  .ofExcept do
    let record ← orMalformed "created attachment" (AttachmentRecord.ofJson value)
    rejectIf (record.attachmentId ≠ newAttachmentId) .responseMismatch
    let summary ← attachmentSummary A P vaultKey itemId record
    rejectIf (summary.encryptedSizeBytes ≠ expectedSize) (.malformed "created attachment size")
    return summary

def deleteAttachment (vaultId itemId attachmentId : Uuid) : AttachmentClient Unit := do
  let _ ← (callWithOptions P (.deleteAttachment vaultId itemId attachmentId)
    maxGatewayBody).mapErr itemWriteError
  return ()

/-- What a guarded upload makes of the record that was created. -/
def acceptCreated (vaultKey : VaultKey) (itemId attachmentId : Uuid) (digest : FixedBytes 32)
    (sizeBytes : ℕ) (value : Json) : ResolverResult (AttachmentWrite AttachmentPutOutcome) := do
  let created ← orMalformed "created attachment" (CreatedAttachment.ofJson value)
  rejectIf (created.record.attachmentId ≠ attachmentId) .responseMismatch
  let summary ← attachmentSummary A P vaultKey itemId created.record
  rejectIf (summary.encryptedSizeBytes ≠ sizeBytes + envelopeBytes)
    (.malformed "created attachment size")
  rejectIf (summary.sha256 ≠ some digest) .responseMismatch
  let revision ← parseItemUpdatedAt P created.itemUpdatedAt
  return { outcome := .created summary, itemUpdatedAt := some revision }

/-- The parent revision in the refusal of a duplicate. -/
def duplicateRevision (error : ResolverError) : ResolverResult ItemRevision := do
  let details ← orMalformed "attachment duplicate response"
    (codedServerError P.json error 409 "attachment_already_exists")
  let revision ← orMalformed "attachment duplicate revision"
    ((details.get? "item_updated_at").bind Json.asStr?)
  parseItemUpdatedAt P revision

/-- Upload under the caller's id, while the parent item is at the given revision. -/
def putAttachmentWithId (draw : UploadDraw) (vaultId itemId attachmentId : Uuid)
    (vaultKey : VaultKey) (upload : AttachmentUpload) (ifMatchItemUpdatedAt : ItemRevision) :
    AttachmentClient (AttachmentWrite AttachmentPutOutcome) := do
  let digest := sha256 upload.bytes
  let sizeBytes := upload.bytes.length
  let body ← .ofExcept
    (buildAttachmentRequest A draw vaultKey itemId attachmentId upload (some digest))
  let result ← (callWithOptions P
    (.createAttachment vaultId itemId body (some ifMatchItemUpdatedAt)) maxGatewayBody).attempt
  match result with
  | .ok value => .ofExcept (acceptCreated A P vaultKey itemId attachmentId digest sizeBytes value)
  | .error error =>
      if hasStatus error 412 then return { outcome := .stale, itemUpdatedAt := none }
      else if isCodedServerError P.json error 409 "attachment_already_exists" then do
        let listed ← listAttachments A P vaultId itemId vaultKey
        let sameFile := listed.any (fun summary => summary.attachmentId == attachmentId
          && summary.sha256 == some digest && summary.filename == upload.filename
          && summary.sizeBytes == sizeBytes)
        if sameFile then do
          let revision ← .ofExcept (duplicateRevision P error)
          return { outcome := .alreadyPresent, itemUpdatedAt := some revision }
        else return { outcome := .idConflict, itemUpdatedAt := none }
      else if isCodedServerError P.json error 409 "attachment_id_conflict" then
        return { outcome := .idConflict, itemUpdatedAt := none }
      else .ofExcept (.error (itemWriteError error))

/-- The digest ciphertext that a guarded deletion names: the listed one if it opens to the expected
    digest, else a seal that no row holds. -/
def expectedDigestCiphertext (draw : ThrowawayDraw) (itemId attachmentId : Uuid)
    (expectedSha256 : FixedBytes 32) (listed : List (AttachmentRecord × AttachmentSummary)) :
    String :=
  let stored := (listed.find? (fun (record, summary) =>
    record.attachmentId == attachmentId && summary.sha256 == some expectedSha256)).bind
      (fun (record, _) => record.digestCiphertext)
  stored.getD (Base64.encode
    (encryptDigest A draw.key itemId.toBytes attachmentId.toBytes draw.nonce expectedSha256))

/-- What a guarded deletion makes of its reply. -/
def deletionOutcome (result : ResolverResult Json) :
    ResolverResult (AttachmentWrite AttachmentDeleteOutcome) :=
  match result with
  | .ok value => do
      let response ← orMalformed "attachment deletion outcome"
        (ConditionalDeleteResponse.ofJson value)
      let revision ← parseItemUpdatedAt P response.itemUpdatedAt
      return { outcome := response.state.outcome, itemUpdatedAt := some revision }
  | .error error =>
      if hasStatus error 412 then .ok { outcome := .stale, itemUpdatedAt := none }
      else if isCodedServerError P.json error 409 "attachment_digest_mismatch" then
        .ok { outcome := .mismatch, itemUpdatedAt := none }
      else .error (itemWriteError error)

/-- Delete the attachment while the parent item is at the given revision and the attachment holds the
    expected file. -/
def conditionalDeleteAttachment (draw : ThrowawayDraw) (vaultId itemId attachmentId : Uuid)
    (vaultKey : VaultKey) (expectedSha256 : FixedBytes 32) (ifMatchItemUpdatedAt : ItemRevision) :
    AttachmentClient (AttachmentWrite AttachmentDeleteOutcome) := do
  let listed ← listAttachmentRecords A P vaultId itemId vaultKey
  let expected := expectedDigestCiphertext A draw itemId attachmentId expectedSha256 listed
  let result ← (callWithOptions P
    (.conditionalDelete vaultId itemId attachmentId expected ifMatchItemUpdatedAt)
    maxGatewayBody).attempt
  .ofExcept (deletionOutcome P result)

end Operations

/-! ## Reading back an upload -/

/-- The record holds the ciphertexts of an upload. -/
structure AttachmentRecord.Holds (record : AttachmentRecord) (itemId : Uuid)
    (request : AttachmentRequest) : Prop where
  attachmentId : record.attachmentId = request.attachmentId
  itemId : record.itemId = itemId
  filename : record.filenameCiphertext = request.filenameCiphertext
  contentType : record.contentTypeCiphertext = request.contentTypeCiphertext
  key : record.wrappedContentKey = request.wrappedContentKey
  digest : record.digestCiphertext = request.digestCiphertext

/-- A request that was built holds the seals of the upload, and its digest if one was given. -/
theorem buildAttachmentRequest_eq_ok {A : Aead} {draw : UploadDraw} {vaultKey : VaultKey}
    {itemId attachmentId : Uuid} {upload : AttachmentUpload} {digest : Option (FixedBytes 32)}
    {request : AttachmentRequest}
    (h : buildAttachmentRequest A draw vaultKey itemId attachmentId upload digest = .ok request) :
    request =
      { attachmentId := attachmentId
        blob := Base64.encode (encryptBlob A draw.key itemId.toBytes attachmentId.toBytes
          draw.blobNonce upload.bytes)
        filenameCiphertext := Base64.encode (encryptFilename A vaultKey itemId.toBytes
          attachmentId.toBytes draw.filenameNonce upload.filename)
        contentTypeCiphertext := Base64.encode (encryptContentType A vaultKey itemId.toBytes
          attachmentId.toBytes draw.contentTypeNonce (upload.contentType.getD ""))
        wrappedContentKey := Base64.encode (wrapAttachmentKey A vaultKey itemId.toBytes
          attachmentId.toBytes draw.keyNonce draw.key)
        digestCiphertext := digest.map fun digest => Base64.encode (encryptDigest A draw.key
          itemId.toBytes attachmentId.toBytes draw.digestNonce digest) } := by
  simp only [buildAttachmentRequest, prepareUpload, Except.map_eq_ok, Except.bind_eq_ok,
    Except.pure_eq_ok] at h
  obtain ⟨pending, ⟨-, -, rfl⟩, rfl⟩ := h
  rfl

/-- **The record of an upload opens to what was uploaded**, if its ciphertexts fit. -/
theorem attachmentSummary_uploaded {A : Aead} (hA : A.Correct) {P : Parsers} {draw : UploadDraw}
    {vaultKey : VaultKey} {itemId attachmentId : Uuid} {upload : AttachmentUpload}
    {digest : Option (FixedBytes 32)} {request : AttachmentRequest}
    (hrequest : buildAttachmentRequest A draw vaultKey itemId attachmentId upload digest
      = .ok request) {record : AttachmentRecord} (hholds : record.Holds itemId request) {size : ℕ}
    (hsize : encryptedSize record.sizeBytes = .ok size) {createdAt : ServiceTimestamp}
    (htime : ServiceTimestamp.new P record.createdAt = .ok createdAt)
    (hkey : (wrapAttachmentKey A vaultKey itemId.toBytes attachmentId.toBytes draw.keyNonce
      draw.key).length ≤ maxMetadataBytes)
    (hname : (encryptFilename A vaultKey itemId.toBytes attachmentId.toBytes draw.filenameNonce
      upload.filename).length ≤ maxMetadataBytes)
    (htype : (encryptContentType A vaultKey itemId.toBytes attachmentId.toBytes
      draw.contentTypeNonce (upload.contentType.getD "")).length ≤ maxMetadataBytes)
    (hdigest : ∀ d ∈ digest, (encryptDigest A draw.key itemId.toBytes attachmentId.toBytes
      draw.digestNonce d).length ≤ maxMetadataBytes) :
    attachmentSummary A P vaultKey itemId record = .ok
      { attachmentId, itemId, filename := upload.filename
        contentType := if (upload.contentType.getD "").isEmpty then none
          else some (upload.contentType.getD "")
        sizeBytes := size - envelopeBytes, encryptedSizeBytes := size, createdAt
        sha256 := digest } := by
  obtain rfl := buildAttachmentRequest_eq_ok hrequest
  have hunwrap : unwrapAttachmentKey A vaultKey itemId.toBytes attachmentId.toBytes
      (wrapAttachmentKey A vaultKey itemId.toBytes attachmentId.toBytes draw.keyNonce draw.key)
      = .ok draw.key :=
    unwrapAttachmentKey_wrap hA
  have hfilename : decryptFilename A vaultKey itemId.toBytes attachmentId.toBytes
      (encryptFilename A vaultKey itemId.toBytes attachmentId.toBytes draw.filenameNonce
        upload.filename) = .ok upload.filename :=
    decryptText_encryptText hA
  have hcontentType : decryptContentType A vaultKey itemId.toBytes attachmentId.toBytes
      (encryptContentType A vaultKey itemId.toBytes attachmentId.toBytes draw.contentTypeNonce
        (upload.contentType.getD "")) = .ok (upload.contentType.getD "") :=
    decryptText_encryptText hA
  have hsha256 : openDigest A draw.key itemId record = digest := by
    cases digest with
    | none => simp [openDigest, hholds.digest]
    | some d =>
        have hopen : decryptDigest A draw.key itemId.toBytes attachmentId.toBytes
            (encryptDigest A draw.key itemId.toBytes attachmentId.toBytes draw.digestNonce d)
            = .ok d :=
          decryptDigest_encryptDigest hA
        simp [openDigest, hholds.digest, hholds.attachmentId, Except.toOption, hopen,
          boundedDecode_encode.mpr (hdigest d rfl)]
  simp only [attachmentSummary, hholds.attachmentId, hholds.itemId, hholds.filename,
    hholds.contentType, hholds.key, hsize, boundedDecode_encode.mpr hkey,
    boundedDecode_encode.mpr hname, boundedDecode_encode.mpr htype, hunwrap, hfilename,
    hcontentType, hsha256, htime, fromCrypto_eq_ok, Except.bind_eq_ok, rejectIf_eq_ok,
    orMalformed_eq_ok, Except.toOption_eq_some, Except.ok.injEq, Except.pure_eq_ok,
    exists_eq_left', ne_eq, not_true_eq_false, not_false_eq_true, true_and]
  exact ⟨(), trivial⟩

/-- An upload that was prepared kept to the limits, and its request is the built one. -/
theorem prepareUpload_eq_ok {A : Aead} {draw : UploadDraw} {vaultKey : VaultKey}
    {itemId attachmentId : Uuid} {upload : AttachmentUpload} {digest : Option (FixedBytes 32)}
    {pending : PendingAttachmentUpload}
    (h : prepareUpload A draw vaultKey itemId attachmentId upload digest = .ok pending) :
    validateUpload upload.bytes.length (utf8 upload.filename).length
        (upload.contentType.map fun value => (utf8 value).length) 0 = .ok () ∧
      buildAttachmentRequest A draw vaultKey itemId attachmentId upload digest
        = .ok (pending.encrypt A draw) := by
  refine ⟨?_, by rw [buildAttachmentRequest, h]; rfl⟩
  simp only [prepareUpload, Except.bind_eq_ok] at h
  obtain ⟨_, hvalid, -⟩ := h
  exact hvalid

/-- The limits of an upload, in bytes of plaintext. -/
structure AttachmentUpload.Fits (upload : AttachmentUpload) : Prop where
  bytes : upload.bytes.length ≤ maxAttachmentPlaintextBytes
  filename : (utf8 upload.filename).length ≤ maxMetadataBytes - envelopeBytes
  contentType : (utf8 (upload.contentType.getD "")).length ≤ maxMetadataBytes - envelopeBytes
  /-- Absence is sealed as the empty text, so a type that is given is not empty. -/
  present : upload.contentType ≠ some ""

theorem AttachmentUpload.fits_of_validateUpload {upload : AttachmentUpload} {total : ℕ}
    (h : validateUpload upload.bytes.length (utf8 upload.filename).length
      (upload.contentType.map fun value => (utf8 value).length) total = .ok ()) :
    upload.Fits := by
  rw [validateUpload, rejectIf_eq_ok] at h
  simp only [not_or, Nat.not_lt, gt_iff_lt] at h
  obtain ⟨hbytes, -, hfilename, htype, -⟩ := h
  cases hcontentType : upload.contentType with
  | none =>
      refine ⟨hbytes, hfilename, ?_, by simp [hcontentType]⟩
      rw [hcontentType]
      exact Nat.zero_le _
  | some value =>
      simp only [hcontentType, Option.map_some, Option.any_some, Bool.or_eq_true, beq_iff_eq,
        decide_eq_true_eq, not_or, Nat.not_lt] at htype
      refine ⟨hbytes, hfilename, ?_, ?_⟩
      · rw [hcontentType]
        exact htype.2
      · rw [hcontentType]
        rintro hempty
        obtain rfl := Option.some.inj hempty
        exact htype.1 rfl

/-- An absent content type is told apart from every one that is given. -/
theorem AttachmentUpload.Fits.contentType_getD {upload : AttachmentUpload} (h : upload.Fits) :
    (if (upload.contentType.getD "").isEmpty then none else some (upload.contentType.getD ""))
      = upload.contentType := by
  have hpresent := h.present
  cases hcontentType : upload.contentType with
  | none => rfl
  | some value =>
      rw [hcontentType] at hpresent
      have hvalue : value ≠ "" := fun hempty => hpresent (congrArg some hempty)
      rw [Option.getD_some, if_neg (by simpa [String.isEmpty_iff] using hvalue)]

section Lengths

variable {A : Aead} (hA : A.Exact) {vaultKey : VaultKey} {key : AttachmentKey}
  {itemId attachmentId : Uuid} {nonce : FixedBytes 24}

include hA

theorem length_encryptBlob {bytes : Bytes} :
    (encryptBlob A key itemId.toBytes attachmentId.toBytes nonce bytes).length
      = bytes.length + envelopeBytes :=
  length_xchacha20Encrypt hA

theorem length_encryptFilename {filename : String} :
    (encryptFilename A vaultKey itemId.toBytes attachmentId.toBytes nonce filename).length
      = (utf8 filename).length + envelopeBytes :=
  length_xchacha20Encrypt hA

theorem length_encryptContentType {contentType : String} :
    (encryptContentType A vaultKey itemId.toBytes attachmentId.toBytes nonce contentType).length
      = (utf8 contentType).length + envelopeBytes :=
  length_xchacha20Encrypt hA

theorem length_wrapAttachmentKey :
    (wrapAttachmentKey A vaultKey itemId.toBytes attachmentId.toBytes nonce key).length
      = 32 + envelopeBytes := by
  rw [wrapAttachmentKey, length_xchacha20Encrypt hA, FixedBytes.length_toBytes, envelopeBytes]

theorem length_encryptDigest {digest : FixedBytes 32} :
    (encryptDigest A key itemId.toBytes attachmentId.toBytes nonce digest).length
      = 32 + envelopeBytes := by
  rw [encryptDigest, length_xchacha20Encrypt hA, FixedBytes.length_toBytes, envelopeBytes]

/-- A sealed file opens at its own length. -/
theorem decryptEncryptedBlob_encryptBlob {bytes : Bytes} :
    decryptEncryptedBlob A key itemId attachmentId
      (encryptBlob A key itemId.toBytes attachmentId.toBytes nonce bytes)
      (bytes.length + envelopeBytes) = .ok bytes := by
  have hopen : decryptBlob A key itemId.toBytes attachmentId.toBytes
      (encryptBlob A key itemId.toBytes attachmentId.toBytes nonce bytes) = .ok bytes :=
    xchacha20Decrypt_encrypt_self hA.correct
  simp [decryptEncryptedBlob, Except.bind_eq_ok, length_encryptBlob hA, hopen]

end Lengths

theorem encryptedSize_natCast {size : ℕ} (hlow : envelopeBytes ≤ size)
    (hhigh : size ≤ maxEncryptedBytes) : encryptedSize size = .ok size := by
  rw [encryptedSize, if_neg (by omega), Int.toNat_natCast, if_neg (by omega)]

/-- An encoded blob of admissible length opens as its bytes do. -/
theorem Attachments.decryptBlob_encode {A : Aead} {key : AttachmentKey} {itemId attachmentId : Uuid}
    {blob : Bytes} (hlow : envelopeBytes ≤ blob.length) (hhigh : blob.length ≤ maxEncryptedBytes) :
    Attachments.decryptBlob A key itemId attachmentId (Base64.encode blob) blob.length
      = decryptEncryptedBlob A key itemId attachmentId blob blob.length := by
  have hlimit : ¬ (blob.length < envelopeBytes ∨ blob.length > maxEncryptedBytes) := by omega
  rw [Attachments.decryptBlob, rejectIf, if_neg hlimit, boundedDecode_encode.mpr (Nat.le_refl _)]
  rfl

/-- The encoded fields of an upload that fits, with 64 KiB for the rest of the reply, fit into a
    download. -/
theorem AttachmentUpload.Fits.length_request {A : Aead} (hA : A.Exact) {draw : UploadDraw}
    {vaultKey : VaultKey} {itemId attachmentId : Uuid} {upload : AttachmentUpload}
    (hfits : upload.Fits) {digest : Option (FixedBytes 32)} {request : AttachmentRequest}
    (hrequest : buildAttachmentRequest A draw vaultKey itemId attachmentId upload digest
      = .ok request) :
    (utf8 request.blob).length + (utf8 request.filenameCiphertext).length
        + (utf8 request.contentTypeCiphertext).length + (utf8 request.wrappedContentKey).length
        + (request.digestCiphertext.elim 0 fun text => (utf8 text).length) + 64 * 1024
      ≤ maxDownloadResponseBytes := by
  obtain rfl := buildAttachmentRequest_eq_ok hrequest
  obtain ⟨hbytes, hname, htype, -⟩ := hfits
  have hdigest : ((digest.map fun digest => Base64.encode (encryptDigest A draw.key itemId.toBytes
      attachmentId.toBytes draw.digestNonce digest)).elim 0 fun text => (utf8 text).length)
      ≤ base64Len (32 + envelopeBytes) := by
    cases digest with
    | none => exact Nat.zero_le _
    | some digest =>
        refine Nat.le_of_eq ?_
        rw [Option.map_some, Option.elim_some, length_utf8_encode, length_encryptDigest hA]
  have hlarge : envelopeBytes ≤ maxMetadataBytes ∧ maxMetadataBytes ≤ maxEncryptedBytes := by decide
  have hkeys : base64Len (32 + envelopeBytes) + base64Len (32 + envelopeBytes)
      ≤ base64Len maxMetadataBytes := by decide
  have hblobLen : base64Len (upload.bytes.length + envelopeBytes) ≤ base64Len maxEncryptedBytes :=
    base64Len_mono (by rw [maxAttachmentPlaintextBytes] at hbytes; omega)
  have hnameLen : base64Len ((utf8 upload.filename).length + envelopeBytes)
      ≤ base64Len maxMetadataBytes := base64Len_mono (by omega)
  have htypeLen : base64Len ((utf8 (upload.contentType.getD "")).length + envelopeBytes)
      ≤ base64Len maxMetadataBytes := base64Len_mono (by omega)
  unfold maxDownloadResponseBytes
  refine Nat.add_le_add_right ?_ _
  simp only [length_utf8_encode, length_encryptBlob hA, length_encryptFilename hA,
    length_encryptContentType hA, length_wrapAttachmentKey hA]
  omega

/-- **An upload that is accepted can be read back.** The record that holds its seals is accepted with
    everything that was uploaded, its key opens the blob to the same bytes, and the encoded fields
    leave 64 KiB of a download for the rest of the reply. -/
theorem prepareUpload_readBack {A : Aead} (hA : A.Exact) {P : Parsers} {draw : UploadDraw}
    {vaultKey : VaultKey} {itemId attachmentId : Uuid} {upload : AttachmentUpload}
    {digest : Option (FixedBytes 32)} {pending : PendingAttachmentUpload}
    (hprepared : prepareUpload A draw vaultKey itemId attachmentId upload digest = .ok pending)
    {request : AttachmentRequest} (hrequest : pending.encrypt A draw = request)
    {record : AttachmentRecord} (hholds : record.Holds itemId request) {blob : Bytes}
    (hblob : Base64.decode request.blob = some blob) (hsize : record.sizeBytes = blob.length)
    {createdAt : ServiceTimestamp}
    (htime : ServiceTimestamp.new P record.createdAt = .ok createdAt) :
    ∃ summary wrapped key,
      attachmentSummary A P vaultKey itemId record = .ok summary ∧
      summary.attachmentId = attachmentId ∧ summary.filename = upload.filename ∧
      summary.contentType = upload.contentType ∧ summary.sizeBytes = upload.bytes.length ∧
      summary.sha256 = digest ∧
      boundedDecode record.wrappedContentKey maxMetadataBytes = .ok wrapped ∧
      unwrapAttachmentKey A vaultKey itemId.toBytes attachmentId.toBytes wrapped = .ok key ∧
      decryptEncryptedBlob A key itemId attachmentId blob summary.encryptedSizeBytes
        = .ok upload.bytes ∧
      Attachments.decryptBlob A key itemId attachmentId request.blob summary.encryptedSizeBytes
        = .ok upload.bytes ∧
      (utf8 request.blob).length + (utf8 request.filenameCiphertext).length
          + (utf8 request.contentTypeCiphertext).length + (utf8 request.wrappedContentKey).length
          + (request.digestCiphertext.elim 0 fun text => (utf8 text).length) + 64 * 1024
        ≤ maxDownloadResponseBytes := by
  obtain ⟨hvalid, hbuilt⟩ := prepareUpload_eq_ok hprepared
  rw [hrequest] at hbuilt
  have hfits := AttachmentUpload.fits_of_validateUpload hvalid
  have hlength := hfits.length_request hA hbuilt
  have hseals := buildAttachmentRequest_eq_ok hbuilt
  have hbytes := hfits.bytes
  have hname := hfits.filename
  have htype := hfits.contentType
  rw [maxAttachmentPlaintextBytes] at hbytes
  have henvelope : 32 + envelopeBytes ≤ maxMetadataBytes := by decide
  have hmetadata : maxMetadataBytes ≤ maxEncryptedBytes := by decide
  obtain rfl : encryptBlob A draw.key itemId.toBytes attachmentId.toBytes draw.blobNonce
      upload.bytes = blob := by
    rw [hseals, Base64.decode_encode] at hblob
    exact Option.some.inj hblob
  rw [length_encryptBlob hA] at hsize
  have hkeyFits : (wrapAttachmentKey A vaultKey itemId.toBytes attachmentId.toBytes draw.keyNonce
      draw.key).length ≤ maxMetadataBytes := by
    rw [length_wrapAttachmentKey hA]
    omega
  have hsummary := attachmentSummary_uploaded hA.correct hbuilt hholds
    (by rw [hsize]; exact encryptedSize_natCast (by omega) (by omega)) htime hkeyFits
    (by rw [length_encryptFilename hA]; omega) (by rw [length_encryptContentType hA]; omega)
    (fun d _ => by rw [length_encryptDigest hA]; omega)
  have hblobFits : (encryptBlob A draw.key itemId.toBytes attachmentId.toBytes draw.blobNonce
      upload.bytes).length ≤ maxEncryptedBytes := by
    rw [length_encryptBlob hA]
    omega
  refine ⟨_, wrapAttachmentKey A vaultKey itemId.toBytes attachmentId.toBytes draw.keyNonce draw.key,
    draw.key, hsummary, rfl, rfl, hfits.contentType_getD, Nat.add_sub_cancel _ _, rfl, ?_,
    unwrapAttachmentKey_wrap hA.correct, decryptEncryptedBlob_encryptBlob hA, ?_, hlength⟩
  · rw [hholds.key, hseals]
    exact boundedDecode_encode.mpr hkeyFits
  · have hencoded := @Attachments.decryptBlob_encode A draw.key itemId attachmentId _
      (by rw [length_encryptBlob hA]; omega) hblobFits
    rw [length_encryptBlob hA, decryptEncryptedBlob_encryptBlob hA] at hencoded
    rw [hseals]
    exact hencoded

/-- The record under which a request is stored. -/
def AttachmentRequest.stored (request : AttachmentRequest) (itemId : Uuid) (sizeBytes : ℤ)
    (createdAt : String) : AttachmentRecord where
  attachmentId := request.attachmentId
  itemId := itemId
  filenameCiphertext := request.filenameCiphertext
  contentTypeCiphertext := request.contentTypeCiphertext
  wrappedContentKey := request.wrappedContentKey
  sizeBytes := sizeBytes
  createdAt := createdAt
  digestCiphertext := request.digestCiphertext

theorem AttachmentRequest.stored_holds (request : AttachmentRequest) (itemId : Uuid)
    (sizeBytes : ℤ) (createdAt : String) :
    (request.stored itemId sizeBytes createdAt).Holds itemId request :=
  ⟨rfl, rfl, rfl, rfl, rfl, rfl⟩

/-- A short report. -/
def reportUpload : AttachmentUpload := ⟨"report.txt", some "text/plain", utf8 "All doors locked."⟩

/-- SHA-256 of the report. -/
def reportDigest : FixedBytes 32 :=
  ⟨[0xe3, 0x6c, 0xa2, 0x85, 0x8a, 0x91, 0x20, 0x88, 0xab, 0x84, 0x8f, 0xf6, 0xba, 0x84, 0x7a, 0xdb,
    0xbf, 0x97, 0xbc, 0xbb, 0xdf, 0xf5, 0x34, 0xab, 0x78, 0x77, 0xd9, 0x2a, 0x8c, 0x01, 0xab, 0xe9],
    rfl⟩

def reportDraw : UploadDraw where
  key := ⟨.replicate 32 4⟩
  filenameNonce := .replicate 24 0
  contentTypeNonce := .replicate 24 1
  keyNonce := .replicate 24 2
  digestNonce := .replicate 24 3
  blobNonce := .replicate 24 4

/-- The report is accepted, listed with its name, type, size and digest, and its blob is opened again
    with the key of its record. -/
theorem prepareUpload_readBack_report :
    ∃ pending blob, prepareUpload .padding reportDraw ⟨.replicate 32 3⟩ (.replicate 16 2)
        (.replicate 16 5) reportUpload (some reportDigest) = .ok pending ∧
      Base64.decode (pending.encrypt .padding reportDraw).blob = some blob ∧
      ∃ summary wrapped key, attachmentSummary .padding ⟨fun _ => none, fun _ => true⟩
          ⟨.replicate 32 3⟩ (.replicate 16 2) ((pending.encrypt .padding reportDraw).stored
            (.replicate 16 2) blob.length "2026-01-01T00:00:00Z") = .ok summary ∧
        summary.filename = "report.txt" ∧ summary.contentType = some "text/plain" ∧
        summary.sizeBytes = 17 ∧ summary.sha256 = some reportDigest ∧
        unwrapAttachmentKey .padding ⟨.replicate 32 3⟩ (FixedBytes.replicate 16 2).toBytes
          (FixedBytes.replicate 16 5).toBytes wrapped = .ok key ∧
        decryptEncryptedBlob .padding key (.replicate 16 2) (.replicate 16 5) blob
          summary.encryptedSizeBytes = .ok (utf8 "All doors locked.") ∧
        Attachments.decryptBlob .padding key (.replicate 16 2) (.replicate 16 5)
          (pending.encrypt .padding reportDraw).blob summary.encryptedSizeBytes
          = .ok (utf8 "All doors locked.") := by
  obtain ⟨pending, hprepared⟩ : ∃ pending, prepareUpload .padding reportDraw
      ⟨.replicate 32 3⟩ (.replicate 16 2) (.replicate 16 5) reportUpload (some reportDigest)
      = .ok pending :=
    ⟨_, rfl⟩
  have hblob : Base64.decode (pending.encrypt .padding reportDraw).blob = some _ :=
    Base64.decode_encode _
  have htime : ServiceTimestamp.new ⟨fun _ => none, fun _ => true⟩ "2026-01-01T00:00:00Z"
      = .ok ⟨"2026-01-01T00:00:00Z"⟩ := rfl
  obtain ⟨summary, wrapped, key, hsummary, -, hname, htype, hsize, hdigest, -, hkey, hopen, hdecode,
      -⟩ :=
    prepareUpload_readBack Aead.padding_exact hprepared rfl
      (AttachmentRequest.stored_holds _ _ _ _) hblob rfl htime
  exact ⟨pending, _, hprepared, hblob, summary, wrapped, key, hsummary, hname, htype, hsize,
    hdigest, hkey, hopen, hdecode⟩

/-! ## What a guarded deletion names -/

section Guard

variable {A : Aead} {P : Parsers} {vaultKey : VaultKey} {itemId attachmentId : Uuid}
  {expected : FixedBytes 32}

/-- Every listed summary was read from its record. -/
theorem openRecords_summary {seen : List Uuid} {total : ℕ} {records : List AttachmentRecord}
    {listed : List (AttachmentRecord × AttachmentSummary)}
    (h : openRecords A P vaultKey itemId seen total records = .ok listed) :
    ∀ entry ∈ listed, attachmentSummary A P vaultKey itemId entry.1 = .ok entry.2 := by
  induction records generalizing seen total listed with
  | nil =>
      cases h
      intro entry hmem
      exact absurd hmem List.not_mem_nil
  | cons record records ih =>
      unfold openRecords at h
      simp only [Except.bind_eq_ok, Except.pure_eq_ok] at h
      obtain ⟨-, -, summary, hsummary, total', -, -, -, rest, hrest, rfl⟩ := h
      intro entry hmem
      rcases List.mem_cons.mp hmem with rfl | hmem
      · exact hsummary
      · exact ih hrest entry hmem

/-- A digest in a summary was opened from the record's own ciphertext. -/
theorem attachmentSummary_sha256 {record : AttachmentRecord} {summary : AttachmentSummary}
    (h : attachmentSummary A P vaultKey itemId record = .ok summary)
    (hdigest : summary.sha256 = some expected) :
    ∃ text ciphertext key, record.digestCiphertext = some text ∧
      Base64.decode text = some ciphertext ∧
      decryptDigest A key itemId.toBytes record.attachmentId.toBytes ciphertext = .ok expected := by
  unfold attachmentSummary at h
  simp only [Except.bind_eq_ok, Except.pure_eq_ok] at h
  obtain ⟨-, -, size, -, wrapped, -, key, -, filenameCt, -, filename, -, contentTypeCt, -,
    contentType, -, createdAt, -, hsummary⟩ := h
  rw [← hsummary] at hdigest
  simp only [openDigest, Option.bind_eq_bind, Option.bind_eq_some_iff] at hdigest
  obtain ⟨text, htext, ciphertext, hciphertext, hopen⟩ := hdigest
  refine ⟨text, ciphertext, key, htext, ?_, ?_⟩
  · exact (boundedDecode_eq_ok.mp (Except.toOption_eq_some.mp hciphertext)).2.1
  · exact Except.toOption_eq_some.mp hopen

/-- **The named ciphertext opens to the expected digest**, be it the listed one or a seal of the
    client's own. -/
theorem expectedDigestCiphertext_opens (hA : A.Ideal) {draw : ThrowawayDraw}
    {listed : List (AttachmentRecord × AttachmentSummary)}
    (hlisted : ∀ entry ∈ listed, attachmentSummary A P vaultKey itemId entry.1 = .ok entry.2) :
    ∃ ciphertext key,
      Base64.decode (expectedDigestCiphertext A draw itemId attachmentId expected listed)
        = some ciphertext ∧
      decryptDigest A key itemId.toBytes attachmentId.toBytes ciphertext = .ok expected := by
  unfold expectedDigestCiphertext
  cases hfound : listed.find? (fun (record, summary) =>
      record.attachmentId == attachmentId && summary.sha256 == some expected) with
  | none => exact ⟨_, draw.key, Base64.decode_encode _, decryptDigest_encryptDigest hA.correct⟩
  | some entry =>
      obtain ⟨record, summary⟩ := entry
      have hmatch := List.find?_some hfound
      simp only [Bool.and_eq_true, beq_iff_eq] at hmatch
      obtain ⟨hid, hdigest⟩ := hmatch
      obtain ⟨text, ciphertext, key, htext, hdecode, hopen⟩ :=
        attachmentSummary_sha256 (hlisted _ (List.mem_of_find?_eq_some hfound)) hdigest
      refine ⟨ciphertext, key, ?_, ?_⟩
      · have hstored : record.digestCiphertext = some text := htext
        simp only [Option.bind_some, hstored, Option.getD_some, hdecode]
      · rw [← hid]
        exact hopen

end Guard

end SerenSecrets
