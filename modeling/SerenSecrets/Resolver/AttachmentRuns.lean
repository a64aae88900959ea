import SerenSecrets.Resolver.AttachmentOutcomes
import SerenSecrets.Resolver.Resolve

set_option autoImplicit false

/-! # Files against a service that lies

Clients upload files, and the service stores them. What it returns is up to it: it may swap the
ciphertexts of files, ids and times, leave digests out, repeat what was deleted and make up whatever
opens under no key of the clients (`Authentic`).

The key of a file is drawn for one upload, so what it opens is the file and the digest of this upload.
Name and content type are sealed under the vault key, and the ids in the associated data are all that
ties them to the file: where one id was used for two uploads, the service may show the name of one
with the file of the other. That is the only confusion there is (`attachments_come_from_uploads`). -/

namespace SerenSecrets

/-! ## Uploads -/

/-- An upload of a client, with its random draws. -/
structure FileUpload where
  vaultKey : VaultKey
  itemId : Uuid
  attachmentId : Uuid
  upload : AttachmentUpload
  /-- Whether the digest of the file is sent along. -/
  guarded : Bool
  draw : UploadDraw

/-- The upload was made for this attachment, under this vault key. -/
def FileUpload.For (u : FileUpload) (vaultKey : VaultKey) (itemId attachmentId : Uuid) : Prop :=
  u.vaultKey = vaultKey ∧ u.itemId = itemId ∧ u.attachmentId = attachmentId

section Uploads

variable (A : Aead) (sha256 : Bytes → FixedBytes 32) {Content : Type}

def FileUpload.request (u : FileUpload) : ResolverResult AttachmentRequest :=
  buildAttachmentRequest A u.draw u.vaultKey u.itemId u.attachmentId u.upload
    (if u.guarded then some (sha256 u.upload.bytes) else none)

/-- What an upload seals, with the blobs of its request. -/
def FileUpload.seals (u : FileUpload) : List (Sealing Content × Bytes) :=
  let item := u.itemId.toBytes
  let id := u.attachmentId.toBytes
  [(.slot (.attachment .filename u.itemId u.attachmentId) u.vaultKey.asBytes u.draw.filenameNonce
      u.upload.filename,
    encryptFilename A u.vaultKey item id u.draw.filenameNonce u.upload.filename),
  (.slot (.attachment .contentType u.itemId u.attachmentId) u.vaultKey.asBytes
      u.draw.contentTypeNonce (u.upload.contentType.getD ""),
    encryptContentType A u.vaultKey item id u.draw.contentTypeNonce
      (u.upload.contentType.getD "")),
  (.slot (.attachment .contentKey u.itemId u.attachmentId) u.vaultKey.asBytes u.draw.keyNonce
      u.draw.key,
    wrapAttachmentKey A u.vaultKey item id u.draw.keyNonce u.draw.key),
  (.slot (.attachment .blob u.itemId u.attachmentId) u.draw.key.asBytes u.draw.blobNonce
      u.upload.bytes,
    encryptBlob A u.draw.key item id u.draw.blobNonce u.upload.bytes)] ++
  if u.guarded then
    [(.slot (.attachment .digest u.itemId u.attachmentId) u.draw.key.asBytes u.draw.digestNonce
        (sha256 u.upload.bytes),
      encryptDigest A u.draw.key item id u.draw.digestNonce (sha256 u.upload.bytes))]
  else []

/-- What an upload seals in each slot of its attachment, and under which key. -/
def FileUpload.Puts (u : FileUpload) (itemId attachmentId : Uuid) :
    (slot : AttachmentSlot) → FixedBytes 32 →
      AadSlot.Plain Content (.attachment slot itemId attachmentId) → Prop
  | .filename, key, name => key = u.vaultKey.asBytes ∧ name = u.upload.filename
  | .contentType, key, text => key = u.vaultKey.asBytes ∧ text = u.upload.contentType.getD ""
  | .contentKey, key, fileKey => key = u.vaultKey.asBytes ∧ fileKey = u.draw.key
  | .blob, key, bytes => key = u.draw.key.asBytes ∧ bytes = u.upload.bytes
  | .digest, key, digest => key = u.draw.key.asBytes ∧ digest = sha256 u.upload.bytes

end Uploads

/-! ## Runs of honest clients -/

/-- The operation seals a part of a file. -/
def Sealing.OfFile {Content : Type} : Sealing Content → Prop
  | .slot (.attachment _ _ _) _ _ _ => True
  | _ => False

/-- What honest clients have generated, sealed and uploaded. -/
structure FileState (Content : Type) extends HonestState Content where
  uploads : List FileUpload

section Runs

variable {Content : Type} (A : Aead) (B : SealedBox) (codec : ContentCodec Content)
  (sha256 : Bytes → FixedBytes 32)

/-- A step of some honest client: generate a key, seal anything but a file, upload a file under a key
    of its own, or seal a digest under a key that is used for nothing else. The requests of the client
    that is looked at are its steps too, taken before they are served. -/
inductive FileStep : FileState Content → FileState Content → Prop
  | generate {st : FileState Content} {role : KeyRole} {key : FixedBytes 32}
      (hfresh : ∀ r, (r, key) ∉ st.keys) :
      FileStep st { st with keys := (role, key) :: st.keys }
  | sealing {st : FileState Content} {op : Sealing Content} {blob : Bytes} (hother : ¬ op.OfFile)
      (hkey : op.key ∈ st.keys) (hblob : op.run A B codec = .ok blob) :
      FileStep st { st with sealed := (op, blob) :: st.sealed }
  | upload {st : FileState Content} {u : FileUpload} {request : AttachmentRequest}
      (hvault : (.vault, u.vaultKey.asBytes) ∈ st.keys)
      (hfresh : ∀ r, (r, u.draw.key.asBytes) ∉ st.keys)
      (hrequest : u.request A sha256 = .ok request) :
      FileStep st
        { keys := (.attachment, u.draw.key.asBytes) :: st.keys
          sealed := u.seals A sha256 ++ st.sealed
          uploads := u :: st.uploads }
  | throwaway {st : FileState Content} {draw : ThrowawayDraw} {itemId attachmentId : Uuid}
      {digest : FixedBytes 32} (hfresh : ∀ r, (r, draw.key.asBytes) ∉ st.keys) :
      FileStep st
        { st with
          keys := (.attachment, draw.key.asBytes) :: st.keys
          sealed := (.slot (.attachment .digest itemId attachmentId) draw.key.asBytes draw.nonce
            digest, encryptDigest A draw.key itemId.toBytes attachmentId.toBytes draw.nonce digest)
              :: st.sealed }

/-- The invariant of these runs: what is sealed for a file comes from an upload, or is a digest under
    a key that belongs to none; and no two uploads share a key. -/
structure FileInv (st : FileState Content) : Prop where
  honest : HonestInv A B codec st.toHonestState
  made : ∀ {slot itemId attachmentId key nonce plain blob},
    (.slot (.attachment slot itemId attachmentId) key nonce plain, blob) ∈ st.sealed →
      (∃ u ∈ st.uploads, u.itemId = itemId ∧ u.attachmentId = attachmentId ∧
        u.Puts sha256 itemId attachmentId slot key plain) ∨
      slot = .digest ∧ ∀ u ∈ st.uploads, u.draw.key.asBytes ≠ key
  known : ∀ u ∈ st.uploads, (.attachment, u.draw.key.asBytes) ∈ st.keys
  distinct : ∀ u ∈ st.uploads, ∀ u' ∈ st.uploads, u.draw.key = u'.draw.key → u = u'
  fits : ∀ u ∈ st.uploads, u.upload.Fits

end Runs

section Steps

variable {Content : Type} {A : Aead} {B : SealedBox} {codec : ContentCodec Content}
  {sha256 : Bytes → FixedBytes 32} {st st' : FileState Content} {u : FileUpload}

/-- What is uploaded has kept to the limits. -/
theorem FileUpload.fits_of_request {request : AttachmentRequest}
    (h : u.request A sha256 = .ok request) : u.upload.Fits := by
  simp only [FileUpload.request, buildAttachmentRequest, Except.map_eq_ok] at h
  obtain ⟨pending, hprepared, -⟩ := h
  exact AttachmentUpload.fits_of_validateUpload (prepareUpload_eq_ok hprepared).1

/-- Sealing more under known keys keeps the invariant of honest runs. -/
theorem HonestInv.append {keys : List (KeyRole × FixedBytes 32)}
    {sealed new : List (Sealing Content × Bytes)} (hinv : HonestInv A B codec ⟨keys, sealed⟩)
    (hnew : ∀ entry ∈ new, entry.1.key ∈ keys ∧ entry.1.run A B codec = .ok entry.2) :
    HonestInv A B codec ⟨keys, new ++ sealed⟩ where
  role_unique := hinv.role_unique
  made := by
    intro op blob hmem
    rcases List.mem_append.mp hmem with hmem | hmem
    · exact hnew _ hmem
    · exact hinv.made hmem

/-- The seals of an upload are made by the library's functions, under its two keys. -/
theorem FileUpload.run_of_mem_seals (B : SealedBox) (codec : ContentCodec Content)
    {entry : Sealing Content × Bytes} (h : entry ∈ u.seals A sha256) :
    (entry.1.key = (.vault, u.vaultKey.asBytes) ∨ entry.1.key = (.attachment, u.draw.key.asBytes)) ∧
      entry.1.run A B codec = .ok entry.2 := by
  rcases List.mem_append.mp h with h | h
  · simp only [List.mem_cons, List.not_mem_nil, or_false] at h
    rcases h with rfl | rfl | rfl | rfl
    · exact ⟨.inl rfl, rfl⟩
    · exact ⟨.inl rfl, rfl⟩
    · exact ⟨.inl rfl, rfl⟩
    · exact ⟨.inr rfl, rfl⟩
  · by_cases hguarded : u.guarded = true
    · rw [if_pos hguarded, List.mem_singleton] at h
      rw [h]
      exact ⟨.inr rfl, rfl⟩
    · rw [if_neg hguarded] at h
      exact absurd h List.not_mem_nil

theorem FileUpload.puts_of_mem_seals {slot : AttachmentSlot} {itemId attachmentId : Uuid}
    {key : FixedBytes 32} {nonce : FixedBytes 24}
    {plain : AadSlot.Plain Content (.attachment slot itemId attachmentId)} {blob : Bytes}
    (h : (.slot (.attachment slot itemId attachmentId) key nonce plain, blob) ∈ u.seals A sha256) :
    u.itemId = itemId ∧ u.attachmentId = attachmentId ∧
      u.Puts sha256 itemId attachmentId slot key plain := by
  rcases List.mem_append.mp h with h | h
  · simp only [List.mem_cons, List.not_mem_nil, or_false] at h
    rcases h with h | h | h | h
    all_goals
      cases h
      exact ⟨rfl, rfl, rfl, rfl⟩
  · by_cases hguarded : u.guarded = true
    · rw [if_pos hguarded, List.mem_singleton] at h
      cases h
      exact ⟨rfl, rfl, rfl, rfl⟩
    · rw [if_neg hguarded] at h
      exact absurd h List.not_mem_nil

theorem FileInv.step (hinv : FileInv A B codec sha256 st) (hstep : FileStep A B codec sha256 st st') :
    FileInv A B codec sha256 st' := by
  cases hstep with
  | generate hfresh =>
      refine ⟨hinv.honest.step (.generate hfresh), hinv.made, ?_, hinv.distinct, hinv.fits⟩
      intro u hu
      exact List.mem_cons_of_mem _ (hinv.known u hu)
  | sealing hother hkey hblob =>
      refine ⟨hinv.honest.step (.sealing hkey hblob), ?_, hinv.known, hinv.distinct, hinv.fits⟩
      intro slot itemId attachmentId key nonce plain blob' hmem
      rcases List.mem_cons.mp hmem with heq | hmem
      · cases heq
        exact absurd trivial hother
      · exact hinv.made hmem
  | @upload u request hvault hfresh hrequest =>
      have hgenerated := hinv.honest.step (.generate hfresh : HonestStep A B codec _
        { st.toHonestState with keys := (.attachment, u.draw.key.asBytes) :: st.keys })
      -- A key that was known before is not the fresh one.
      have hold : ∀ key : FixedBytes 32, (KeyRole.attachment, key) ∈ st.keys →
          u.draw.key.asBytes ≠ key := by
        rintro key hmem rfl
        exact hfresh _ hmem
      refine ⟨hgenerated.append ?_, ?_, ?_, ?_, ?_⟩
      · intro entry hentry
        obtain ⟨hkey, hrun⟩ := FileUpload.run_of_mem_seals B codec hentry
        refine ⟨?_, hrun⟩
        rcases hkey with hkey | hkey
        · rw [hkey]
          exact List.mem_cons_of_mem _ hvault
        · rw [hkey]
          exact List.mem_cons_self
      · intro slot itemId attachmentId key nonce plain blob hmem
        rcases List.mem_append.mp hmem with hmem | hmem
        · exact .inl ⟨u, List.mem_cons_self, FileUpload.puts_of_mem_seals hmem⟩
        · rcases hinv.made hmem with ⟨u', hu', hputs⟩ | ⟨rfl, hnone⟩
          · exact .inl ⟨u', List.mem_cons_of_mem _ hu', hputs⟩
          · refine .inr ⟨rfl, ?_⟩
            exact List.forall_mem_cons.mpr ⟨hold _ (hinv.honest.made hmem).1, hnone⟩
      · refine List.forall_mem_cons.mpr ⟨List.mem_cons_self, ?_⟩
        intro u' hu'
        exact List.mem_cons_of_mem _ (hinv.known u' hu')
      · intro u₁ h₁ u₂ h₂ hkeys
        rcases List.mem_cons.mp h₁ with rfl | hold₁ <;> rcases List.mem_cons.mp h₂ with rfl | hold₂
        · rfl
        · exact absurd (congrArg SymmetricKey.asBytes hkeys) (hold _ (hinv.known u₂ hold₂))
        · exact absurd (congrArg SymmetricKey.asBytes hkeys.symm) (hold _ (hinv.known u₁ hold₁))
        · exact hinv.distinct u₁ hold₁ u₂ hold₂ hkeys
      · refine List.forall_mem_cons.mpr ⟨?_, hinv.fits⟩
        exact FileUpload.fits_of_request hrequest
  | @throwaway draw itemId attachmentId digest hfresh =>
      have hgenerated := hinv.honest.step (.generate hfresh : HonestStep A B codec _
        { st.toHonestState with keys := (.attachment, draw.key.asBytes) :: st.keys })
      refine ⟨hgenerated.step (.sealing List.mem_cons_self rfl), ?_, ?_, hinv.distinct, hinv.fits⟩
      · intro slot itemId attachmentId key nonce plain blob hmem
        rcases List.mem_cons.mp hmem with heq | hmem
        · cases heq
          refine .inr ⟨rfl, ?_⟩
          intro u hu hkey
          exact hfresh _ (hkey ▸ hinv.known u hu)
        · exact hinv.made hmem
      · intro u hu
        exact List.mem_cons_of_mem _ (hinv.known u hu)

/-- A run keeps the invariant, and forgets nothing. -/
theorem FileInv.run (hinv : FileInv A B codec sha256 st)
    (hrun : Relation.ReflTransGen (FileStep A B codec sha256) st st') :
    FileInv A B codec sha256 st' := by
  induction hrun with
  | refl => exact hinv
  | tail _ hstep ih => exact ih.step hstep

theorem FileStep.grows (hrun : Relation.ReflTransGen (FileStep A B codec sha256) st st') :
    (∀ key ∈ st.keys, key ∈ st'.keys) ∧ ∀ u ∈ st.uploads, u ∈ st'.uploads := by
  induction hrun with
  | refl => exact ⟨fun _ h => h, fun _ h => h⟩
  | tail _ hstep ih =>
      obtain ⟨hkeys, huploads⟩ := ih
      cases hstep with
      | generate hfresh => exact ⟨fun key h => List.mem_cons_of_mem _ (hkeys key h), huploads⟩
      | sealing hother hkey hblob => exact ⟨hkeys, huploads⟩
      | upload hvault hfresh hrequest =>
          exact ⟨fun key h => List.mem_cons_of_mem _ (hkeys key h),
            fun u h => List.mem_cons_of_mem _ (huploads u h)⟩
      | throwaway hfresh => exact ⟨fun key h => List.mem_cons_of_mem _ (hkeys key h), huploads⟩

end Steps

/-! ## What the service may say -/

section Replies

variable {Content : Type} (A : Aead)

/-- Whatever opens under a key of the clients was sealed so by one of them. -/
def HonestState.Authentic (st : HonestState Content) (text : String) : Prop :=
  ∀ blob, Base64.decode text = some blob → ∀ role key aad plaintext, (role, key) ∈ st.keys →
    xchacha20DecryptWithAad A key blob aad = .ok plaintext →
      ∃ s nonce plain, (.slot s key nonce plain, blob) ∈ st.sealed ∧ s.aad = aad ∧
        blob = xchacha20EncryptWithAad A key nonce plaintext aad

/-- So it is with all texts of what a reply is read as. -/
def HonestState.AuthenticReply (P : Parsers) (st : HonestState Content) (rep : HttpReply) : Prop :=
  ∀ cap value, readReply P cap rep = .ok value → ∀ text, value.Has text → st.Authentic A text

/-- Every part of a record is authentic. -/
structure AttachmentRecord.Authentic (st : HonestState Content) (record : AttachmentRecord) :
    Prop where
  wrappedContentKey : st.Authentic A record.wrappedContentKey
  filename : st.Authentic A record.filenameCiphertext
  contentType : st.Authentic A record.contentTypeCiphertext
  digest : ∀ text, record.digestCiphertext = some text → st.Authentic A text

end Replies

section Reading

variable {Content : Type} {A : Aead} {P : Parsers} {st : HonestState Content}

/-- The texts of a record stand in the value it is read from. -/
theorem AttachmentRecord.authentic_of_ofFields {value : Json} {fields : String → Option Json}
    {record : AttachmentRecord}
    (hfields : ∀ name inner text, fields name = some inner → inner.Has text → value.Has text)
    (hvalue : ∀ text, value.Has text → st.Authentic A text)
    (h : AttachmentRecord.ofFields fields = some record) : record.Authentic A st := by
  have hstr : ∀ name text, Json.field fields name Json.asStr? = some text → st.Authentic A text := by
    intro name text htext
    obtain ⟨inner, hinner, hread⟩ := Option.bind_eq_some_iff.mp htext
    exact hvalue text (hfields name inner text hinner (Json.has_of_asStr? hread))
  simp only [AttachmentRecord.ofFields, Option.bind_eq_bind, Option.bind_eq_some_iff,
    Option.pure_def, Option.some.injEq] at h
  obtain ⟨_, -, _, -, filename, hfilename, contentType, hcontentType, key, hkey, _, -, _, -, digest,
    hdigest, rfl⟩ := h
  refine ⟨hstr _ _ hkey, hstr _ _ hfilename, hstr _ _ hcontentType, ?_⟩
  intro text htext
  obtain rfl : digest = some text := htext
  unfold Json.fieldOr at hdigest
  split at hdigest
  · rename_i inner hinner
    by_cases hnull : inner = .null
    · rw [hnull] at hdigest
      cases hdigest
    · rw [Json.nullable_of_ne hnull] at hdigest
      obtain ⟨_, hread, hsome⟩ := Option.map_eq_some_iff.mp hdigest
      cases hsome
      exact hvalue text (hfields _ _ text hinner (Json.has_of_asStr? hread))
  · cases hdigest

theorem AttachmentRecord.authentic_of_ofJson {value : Json} {record : AttachmentRecord}
    (hvalue : ∀ text, value.Has text → st.Authentic A text)
    (h : AttachmentRecord.ofJson value = some record) : record.Authentic A st := by
  obtain ⟨fields, hrecord, hfields⟩ := Option.bind_eq_some_iff.mp h
  refine AttachmentRecord.authentic_of_ofFields ?_ hvalue hfields
  intro name inner text hinner htext
  exact Json.has_of_record? hrecord hinner htext

/-- A listing is read record by record. -/
theorem AttachmentRecord.authentic_of_listing {value : Json} {records : List AttachmentRecord}
    (hvalue : ∀ text, value.Has text → st.Authentic A text)
    (h : attachmentRecordsOfJson value = some records) {record : AttachmentRecord}
    (hmem : record ∈ records) : record.Authentic A st := by
  cases value with
  | arr elems =>
      obtain ⟨elem, helem, hrecord⟩ := Option.exists_of_mapM_eq_some h hmem
      exact AttachmentRecord.authentic_of_ofJson
        (fun text htext => hvalue text (.elem helem htext)) hrecord
  | _ => cases h

theorem flatFields_has {value : Json} {fields : String → Option Json}
    (h : flatFields value = some fields) (name : String) (inner : Json) (text : String)
    (hinner : fields name = some inner) (htext : inner.Has text) : value.Has text := by
  cases value with
  | obj members =>
      cases h
      exact Json.has_of_get? hinner htext
  | _ => cases h

theorem AttachmentWithBlob.authentic {value : Json} {response : AttachmentWithBlob}
    (hvalue : ∀ text, value.Has text → st.Authentic A text)
    (h : AttachmentWithBlob.ofJson value = some response) :
    response.record.Authentic A st ∧ st.Authentic A response.blob := by
  simp only [AttachmentWithBlob.ofJson, Option.bind_eq_bind, Option.bind_eq_some_iff,
    Option.pure_def, Option.some.injEq] at h
  obtain ⟨fields, hfields, blob, hblob, record, hrecord, rfl⟩ := h
  refine ⟨AttachmentRecord.authentic_of_ofFields (flatFields_has hfields) hvalue hrecord, ?_⟩
  obtain ⟨inner, hinner, hread⟩ := Option.bind_eq_some_iff.mp hblob
  exact hvalue blob (flatFields_has hfields _ _ _ hinner (Json.has_of_asStr? hread))

theorem CreatedAttachment.authentic {value : Json} {created : CreatedAttachment}
    (hvalue : ∀ text, value.Has text → st.Authentic A text)
    (h : CreatedAttachment.ofJson value = some created) : created.record.Authentic A st := by
  simp only [CreatedAttachment.ofJson, Option.bind_eq_bind, Option.bind_eq_some_iff,
    Option.pure_def, Option.some.injEq] at h
  obtain ⟨fields, hfields, itemUpdatedAt, -, record, hrecord, rfl⟩ := h
  exact AttachmentRecord.authentic_of_ofFields (flatFields_has hfields) hvalue hrecord

/-- A client reads the record from the value: on its own, with the revision of its item, or in a
    listing. -/
inductive HoldsRecord (value : Json) : AttachmentRecord → Prop
  | created {record : AttachmentRecord} (h : AttachmentRecord.ofJson value = some record) :
      HoldsRecord value record
  | guarded {response : CreatedAttachment} (h : CreatedAttachment.ofJson value = some response) :
      HoldsRecord value response.record
  | listed {records : List AttachmentRecord} {record : AttachmentRecord}
      (h : attachmentRecordsOfJson value = some records) (hmem : record ∈ records) :
      HoldsRecord value record

theorem HoldsRecord.authentic {value : Json} {record : AttachmentRecord}
    (h : HoldsRecord value record) (hvalue : ∀ text, value.Has text → st.Authentic A text) :
    record.Authentic A st := by
  cases h with
  | created h => exact AttachmentRecord.authentic_of_ofJson hvalue h
  | guarded h => exact CreatedAttachment.authentic hvalue h
  | listed h hmem => exact AttachmentRecord.authentic_of_listing hvalue h hmem

end Reading

/-! ## What a client makes of it -/

section Opening

variable {Content : Type} {A : Aead} {B : SealedBox} {codec : ContentCodec Content}
  {sha256 : Bytes → FixedBytes 32} {P : Parsers} {st : FileState Content} {vaultKey : VaultKey}
  {itemId : Uuid}

theorem xchacha20Encrypt_plaintext_inj (hA : A.Correct) {key : FixedBytes 32}
    {nonce : FixedBytes 24} {aad plaintext plaintext' : Bytes}
    (h : xchacha20EncryptWithAad A key nonce plaintext aad
      = xchacha20EncryptWithAad A key nonce plaintext' aad) : plaintext = plaintext' := by
  have hopen : xchacha20DecryptWithAad A key (xchacha20EncryptWithAad A key nonce plaintext aad) aad
      = .ok plaintext := xchacha20Decrypt_encrypt_self hA
  rw [h, xchacha20Decrypt_encrypt_self hA] at hopen
  exact (Except.ok.inj hopen).symm

theorem decryptText_eq_ok {key : FixedBytes 32} {aad blob : Bytes} {text : String} :
    decryptText A key aad blob = .ok text ↔
      xchacha20DecryptWithAad A key blob aad = .ok (utf8 text) := by
  simp only [decryptText, Except.bind_eq_ok]
  constructor
  · rintro ⟨pt, hopen, hread⟩
    split at hread
    · rename_i hutf8
      cases hread
      rw [hopen, utf8_of_fromUtf8? hutf8]
    · cases hread
  · intro hopen
    exact ⟨_, hopen, by rw [fromUtf8?_utf8]⟩

/-- The summary tells of a file that was uploaded under its id. Its digest is the one of the file; its
    name and its content type are those of uploads under the same id. -/
structure AttachmentSummary.Shows (sha256 : Bytes → FixedBytes 32) (st : FileState Content)
    (vaultKey : VaultKey) (summary : AttachmentSummary) (u : FileUpload) : Prop where
  uploaded : u ∈ st.uploads
  mine : u.For vaultKey summary.itemId summary.attachmentId
  digest : ∀ digest, summary.sha256 = some digest → digest = sha256 u.upload.bytes
  filename : ∃ named ∈ st.uploads, named.For vaultKey summary.itemId summary.attachmentId ∧
    summary.filename = named.upload.filename
  contentType : ∃ typed ∈ st.uploads, typed.For vaultKey summary.itemId summary.attachmentId ∧
    summary.contentType = typed.upload.contentType

/-- What opens in a slot of a file was put there by an upload, or is a digest under a key that belongs
    to none. -/
theorem FileInv.opened (hinv : FileInv A B codec sha256 st) (slot : AttachmentSlot)
    {itemId attachmentId : Uuid} {text : String} (htext : st.Authentic A text) {blob : Bytes}
    (hblob : Base64.decode text = some blob) {role : KeyRole} {key : FixedBytes 32}
    (hkey : (role, key) ∈ st.keys) {plaintext : Bytes}
    (h : xchacha20DecryptWithAad A key blob (AadSlot.attachment slot itemId attachmentId).aad
      = .ok plaintext) :
    ∃ nonce plain, sealSlot A codec (.attachment slot itemId attachmentId) key nonce plain
        = .ok (xchacha20EncryptWithAad A key nonce plaintext
            (AadSlot.attachment slot itemId attachmentId).aad) ∧
      ((∃ u ∈ st.uploads, u.itemId = itemId ∧ u.attachmentId = attachmentId ∧
        u.Puts sha256 itemId attachmentId slot key plain) ∨
      slot = .digest ∧ ∀ u ∈ st.uploads, u.draw.key.asBytes ≠ key) := by
  obtain ⟨s, nonce, plain, hsealed, haad, rfl⟩ := htext blob hblob role key _ plaintext hkey h
  obtain rfl := AadSlot.aad_injective haad
  exact ⟨nonce, plain, (hinv.honest.made hsealed).2, hinv.made hsealed⟩

variable {attachmentId : Uuid} {text : String} {blob : Bytes}

/-- The key of a file is the one that was drawn for an upload. -/
theorem FileInv.of_unwrapAttachmentKey (hinv : FileInv A B codec sha256 st) (hA : A.Correct)
    (hvault : (.vault, vaultKey.asBytes) ∈ st.keys) (htext : st.Authentic A text)
    (hblob : Base64.decode text = some blob) {key : AttachmentKey}
    (h : unwrapAttachmentKey A vaultKey itemId.toBytes attachmentId.toBytes blob = .ok key) :
    ∃ u ∈ st.uploads, u.For vaultKey itemId attachmentId ∧ u.draw.key = key := by
  simp only [unwrapAttachmentKey, Except.map_eq_ok, decryptArray32_eq_ok] at h
  obtain ⟨bytes, hopen, rfl⟩ := h
  obtain ⟨nonce, plain, hseal, ⟨u, hu, hitem, hid, hkey, rfl⟩ | ⟨hslot, -⟩⟩ :=
    hinv.opened .contentKey htext hblob hvault hopen
  · have hbytes := xchacha20Encrypt_plaintext_inj hA (Except.ok.inj hseal)
    exact ⟨u, hu, ⟨congrArg SymmetricKey.mk hkey.symm, hitem, hid⟩,
      SymmetricKey.eq_of_toBytes hbytes⟩
  · cases hslot

theorem FileInv.of_decryptFilename (hinv : FileInv A B codec sha256 st) (hA : A.Correct)
    (hvault : (.vault, vaultKey.asBytes) ∈ st.keys) (htext : st.Authentic A text)
    (hblob : Base64.decode text = some blob) {name : String}
    (h : decryptFilename A vaultKey itemId.toBytes attachmentId.toBytes blob = .ok name) :
    ∃ u ∈ st.uploads, u.For vaultKey itemId attachmentId ∧ name = u.upload.filename := by
  have hopen := decryptText_eq_ok.mp h
  obtain ⟨nonce, plain, hseal, ⟨u, hu, hitem, hid, hkey, rfl⟩ | ⟨hslot, -⟩⟩ :=
    hinv.opened .filename htext hblob hvault hopen
  · have hbytes := xchacha20Encrypt_plaintext_inj hA (Except.ok.inj hseal)
    exact ⟨u, hu, ⟨congrArg SymmetricKey.mk hkey.symm, hitem, hid⟩, (utf8_injective hbytes).symm⟩
  · cases hslot

/-- An absent content type was sealed as the empty text. -/
theorem FileInv.of_decryptContentType (hinv : FileInv A B codec sha256 st) (hA : A.Correct)
    (hvault : (.vault, vaultKey.asBytes) ∈ st.keys) (htext : st.Authentic A text)
    (hblob : Base64.decode text = some blob) {contentType : String}
    (h : decryptContentType A vaultKey itemId.toBytes attachmentId.toBytes blob = .ok contentType) :
    ∃ u ∈ st.uploads, u.For vaultKey itemId attachmentId ∧
      (if contentType.isEmpty then none else some contentType) = u.upload.contentType := by
  have hopen := decryptText_eq_ok.mp h
  obtain ⟨nonce, plain, hseal, ⟨u, hu, hitem, hid, hkey, rfl⟩ | ⟨hslot, -⟩⟩ :=
    hinv.opened .contentType htext hblob hvault hopen
  · have hbytes := xchacha20Encrypt_plaintext_inj hA (Except.ok.inj hseal)
    refine ⟨u, hu, ⟨congrArg SymmetricKey.mk hkey.symm, hitem, hid⟩, ?_⟩
    rw [← utf8_injective hbytes]
    exact (hinv.fits u hu).contentType_getD
  · cases hslot

/-- Under the key of an upload only its own file opens. -/
theorem FileInv.of_decryptBlob (hinv : FileInv A B codec sha256 st) (hA : A.Correct)
    {u : FileUpload} (hu : u ∈ st.uploads) (htext : st.Authentic A text)
    (hblob : Base64.decode text = some blob) {bytes : Bytes}
    (h : decryptBlob A u.draw.key itemId.toBytes attachmentId.toBytes blob = .ok bytes) :
    bytes = u.upload.bytes := by
  obtain ⟨nonce, plain, hseal, ⟨u', hu', -, -, hkey, rfl⟩ | ⟨hslot, -⟩⟩ :=
    hinv.opened .blob htext hblob (hinv.known u hu) h
  · obtain rfl := hinv.distinct u hu u' hu' (congrArg SymmetricKey.mk hkey)
    exact (xchacha20Encrypt_plaintext_inj hA (Except.ok.inj hseal)).symm
  · cases hslot

/-- And only the digest of this file. -/
theorem FileInv.of_decryptDigest (hinv : FileInv A B codec sha256 st) (hA : A.Correct)
    {u : FileUpload} (hu : u ∈ st.uploads) (htext : st.Authentic A text)
    (hblob : Base64.decode text = some blob) {digest : FixedBytes 32}
    (h : decryptDigest A u.draw.key itemId.toBytes attachmentId.toBytes blob = .ok digest) :
    digest = sha256 u.upload.bytes := by
  obtain ⟨nonce, plain, hseal, ⟨u', hu', -, -, hkey, rfl⟩ | ⟨-, hnone⟩⟩ :=
    hinv.opened .digest htext hblob (hinv.known u hu) (decryptArray32_eq_ok.mp h)
  · obtain rfl := hinv.distinct u hu u' hu' (congrArg SymmetricKey.mk hkey)
    exact FixedBytes.toBytes_inj.mp
      (xchacha20Encrypt_plaintext_inj hA (Except.ok.inj hseal)).symm
  · exact absurd rfl (hnone u hu)

/-- A summary is put together from what its record opens to. -/
theorem attachmentSummary_opens {record : AttachmentRecord} {summary : AttachmentSummary}
    (h : attachmentSummary A P vaultKey itemId record = .ok summary) :
    summary.itemId = itemId ∧ ∃ wrapped key filenameCt contentTypeCt contentType,
      Base64.decode record.wrappedContentKey = some wrapped ∧
      unwrapAttachmentKey A vaultKey itemId.toBytes record.attachmentId.toBytes wrapped = .ok key ∧
      summary.sha256 = openDigest A key itemId record ∧
      Base64.decode record.filenameCiphertext = some filenameCt ∧
      decryptFilename A vaultKey itemId.toBytes record.attachmentId.toBytes filenameCt
        = .ok summary.filename ∧
      Base64.decode record.contentTypeCiphertext = some contentTypeCt ∧
      decryptContentType A vaultKey itemId.toBytes record.attachmentId.toBytes contentTypeCt
        = .ok contentType ∧
      summary.contentType = if contentType.isEmpty then none else some contentType := by
  simp only [attachmentSummary, Except.bind_eq_ok, Except.pure_eq_ok, fromCrypto_eq_ok,
    boundedDecode_eq_ok] at h
  obtain ⟨_, -, size, -, wrapped, ⟨-, hwrapped, -⟩, key, hkey, filenameCt, ⟨-, hfilenameCt, -⟩,
    filename, hfilename, contentTypeCt, ⟨-, hcontentTypeCt, -⟩, contentType, hcontentType, _, -,
    rfl⟩ := h
  exact ⟨rfl, wrapped, key, filenameCt, contentTypeCt, contentType, hwrapped, hkey, rfl, hfilenameCt,
    hfilename, hcontentTypeCt, hcontentType, rfl⟩

/-- The summary of an authentic record shows the upload that its key was drawn for. -/
theorem FileInv.shows (hinv : FileInv A B codec sha256 st) (hA : A.Correct)
    (hvault : (.vault, vaultKey.asBytes) ∈ st.keys) {record : AttachmentRecord}
    (hrecord : record.Authentic A st.toHonestState) {summary : AttachmentSummary}
    (h : attachmentSummary A P vaultKey itemId record = .ok summary) :
    ∃ u wrapped, Base64.decode record.wrappedContentKey = some wrapped ∧
      unwrapAttachmentKey A vaultKey itemId.toBytes record.attachmentId.toBytes wrapped
        = .ok u.draw.key ∧ summary.Shows sha256 st vaultKey u := by
  obtain ⟨hitem, wrapped, key, filenameCt, contentTypeCt, contentType, hwrapped, hkey, hsha256,
    hfilenameCt, hfilename, hcontentTypeCt, hcontentType, htype⟩ := attachmentSummary_opens h
  obtain ⟨-, hid, -, -⟩ := attachmentSummary_facts h
  obtain ⟨u, hu, hfor, rfl⟩ :=
    hinv.of_unwrapAttachmentKey hA hvault hrecord.wrappedContentKey hwrapped hkey
  obtain ⟨named, hnamed, hnamedFor, hname⟩ :=
    hinv.of_decryptFilename hA hvault hrecord.filename hfilenameCt hfilename
  obtain ⟨typed, htyped, htypedFor, htypeOf⟩ :=
    hinv.of_decryptContentType hA hvault hrecord.contentType hcontentTypeCt hcontentType
  rw [← hitem, ← hid] at hfor hnamedFor htypedFor
  refine ⟨u, wrapped, hwrapped, hkey, hu, hfor, ?_, ⟨named, hnamed, hnamedFor, hname⟩,
    ⟨typed, htyped, htypedFor, htype.trans htypeOf⟩⟩
  intro digest hdigest
  simp only [hsha256, openDigest, Option.bind_eq_bind, Option.bind_eq_some_iff,
    Except.toOption_eq_some, boundedDecode_eq_ok] at hdigest
  obtain ⟨text, htext, ciphertext, ⟨-, hciphertext, -⟩, hopen⟩ := hdigest
  exact hinv.of_decryptDigest hA hu (hrecord.digest text htext) hciphertext hopen

/-- What is shown stays shown. -/
theorem AttachmentSummary.Shows.mono {st' : FileState Content} {summary : AttachmentSummary}
    {u : FileUpload} (h : summary.Shows sha256 st vaultKey u)
    (hgrows : ∀ u ∈ st.uploads, u ∈ st'.uploads) : summary.Shows sha256 st' vaultKey u := by
  obtain ⟨named, hnamed, hname⟩ := h.filename
  obtain ⟨typed, htyped, htype⟩ := h.contentType
  exact ⟨hgrows u h.uploaded, h.mine, h.digest, ⟨named, hgrows named hnamed, hname⟩,
    ⟨typed, hgrows typed htyped, htype⟩⟩

/-- Where an id was used once, all that is shown is of the one upload. -/
theorem AttachmentSummary.Shows.once {summary : AttachmentSummary} {u : FileUpload}
    (h : summary.Shows sha256 st vaultKey u)
    (honce : ∀ other ∈ st.uploads, other.For vaultKey summary.itemId summary.attachmentId →
      other = u) :
    summary.filename = u.upload.filename ∧ summary.contentType = u.upload.contentType := by
  obtain ⟨named, hnamed, hnamedFor, hname⟩ := h.filename
  obtain ⟨typed, htyped, htypedFor, htype⟩ := h.contentType
  rw [honce named hnamed hnamedFor] at hname
  rw [honce typed htyped htypedFor] at htype
  exact ⟨hname, htype⟩

end Opening

/-! ## Executions against the service -/

section Executions

variable {Content : Type} (A : Aead) (B : SealedBox) (codec : ContentCodec Content)
  (sha256 : Bytes → FixedBytes 32) (P : Parsers)

/-- The service replies as it likes, after any steps of honest clients. -/
def LyingService (st : FileState Content) (_ : AttachmentCall) (rep : HttpReply)
    (st' : FileState Content) : Prop :=
  Relation.ReflTransGen (FileStep A B codec sha256) st st' ∧
    st'.AuthenticReply A P rep

/-- Some reply of the run shows the record. -/
def ServedRecord {σ : Type} (es : List (Event σ AttachmentCall HttpReply))
    (record : AttachmentRecord) : Prop :=
  ∃ req rep cap value, (req, rep) ∈ exchanges es ∧ readReply P cap rep = .ok value ∧
    HoldsRecord value record

end Executions

section Results

variable {Content : Type} {A : Aead} {B : SealedBox} {codec : ContentCodec Content}
  {sha256 : Bytes → FixedBytes 32} {P : Parsers} {st st' : FileState Content} {vaultKey : VaultKey}
  {vaultId itemId attachmentId : Uuid}
  {es : List (Event (FileState Content) AttachmentCall HttpReply)}

/-- A download is one request, whose reply is opened. -/
theorem exec_getAttachment {σ : Type} {handle : σ → AttachmentCall → HttpReply → σ → Prop}
    {foreign : σ → σ → Prop} {s u : σ} {es : List (Event σ AttachmentCall HttpReply)}
    {file : DecryptedAttachment}
    (h : Exec handle foreign (getAttachment A P vaultId itemId attachmentId vaultKey) s es (.ok file)
      u) :
    ∃ rep value response wrapped key encrypted,
      (.getAttachment vaultId itemId attachmentId, rep) ∈ exchanges es ∧
      readReply P maxDownloadResponseBytes rep = .ok value ∧
      AttachmentWithBlob.ofJson value = some response ∧
      response.record.attachmentId = attachmentId ∧
      attachmentSummary A P vaultKey itemId response.record = .ok file.summary ∧
      Base64.decode response.record.wrappedContentKey = some wrapped ∧
      unwrapAttachmentKey A vaultKey itemId.toBytes attachmentId.toBytes wrapped = .ok key ∧
      Base64.decode response.blob = some encrypted ∧
      decryptBlob A key itemId.toBytes attachmentId.toBytes encrypted = .ok file.bytes ∧
      file.bytes.length + envelopeBytes = file.summary.encryptedSizeBytes := by
  obtain ⟨pre, _, rep, _, post, value, rfl, -, -, hvalue, hrest⟩ := Exec.ask_bind_ok h
  obtain ⟨hresult, -⟩ := Exec.done_inv hrest
  simp only [decryptEncryptedBlob, eq_comm (a := Except.ok file), Except.bind_eq_ok,
    Except.pure_eq_ok, orMalformed_eq_ok, rejectIf_eq_ok, ne_eq, not_not, fromCrypto_eq_ok,
    boundedDecode_eq_ok] at hresult
  obtain ⟨response, hresponse, -, hid, summary, hsummary, wrapped, ⟨-, hwrapped, -⟩, key, hkey,
    encrypted, ⟨-, hencrypted, -⟩, bytes, ⟨-, -, opened, hopen, -, hlength, rfl⟩, rfl⟩ := hresult
  refine ⟨rep, value, response, wrapped, key, encrypted, ?_, hvalue, hresponse, hid, hsummary,
    hwrapped, hkey, hencrypted, hopen, hlength⟩
  simp [exchanges]

/-- Every reply is authentic in a state of the run, and what was uploaded by then stays. -/
theorem LyingService.replied {α : Type} {c : AttachmentClient α} {result : ResolverResult α}
    (hinv : FileInv A B codec sha256 st) (hvault : (.vault, vaultKey.asBytes) ∈ st.keys)
    (hexec : Exec (LyingService A B codec sha256 P) (FileStep A B codec sha256) c st es result st')
    {req : AttachmentCall} {rep : HttpReply} (hmem : (req, rep) ∈ exchanges es) :
    ∃ t : FileState Content, FileInv A B codec sha256 t ∧ (.vault, vaultKey.asBytes) ∈ t.keys ∧
      t.AuthenticReply A P rep ∧ ∀ u ∈ t.uploads, u ∈ st'.uploads := by
  obtain ⟨before, after, hbefore, ⟨hsteps, hreply⟩, hafter⟩ :=
    hexec.exchanged (fun h => .single h) (fun h => h.1) hmem
  have hreached := hbefore.trans hsteps
  exact ⟨after, hinv.run hreached, (FileStep.grows hreached).1 _ hvault, hreply,
    (FileStep.grows hafter).2⟩

theorem getAttachment_shows (hA : A.Correct) (hinv : FileInv A B codec sha256 st)
    (hvault : (.vault, vaultKey.asBytes) ∈ st.keys) {file : DecryptedAttachment}
    (hexec : Exec (LyingService A B codec sha256 P) (FileStep A B codec sha256)
      (getAttachment A P vaultId itemId attachmentId vaultKey) st es (.ok file) st') :
    ∃ u, file.summary.Shows sha256 st' vaultKey u ∧ file.summary.itemId = itemId ∧
      file.summary.attachmentId = attachmentId ∧ file.bytes = u.upload.bytes ∧
      file.summary.sizeBytes = file.bytes.length := by
  obtain ⟨rep, value, response, wrapped, key, encrypted, hmem, hvalue, hresponse, hid, hsummary,
    hwrapped, hkey, hencrypted, hopen, hlength⟩ := exec_getAttachment hexec
  obtain ⟨t, ht, htvault, hreply, hgrows⟩ := LyingService.replied hinv hvault hexec hmem
  obtain ⟨hrecord, hblob⟩ := AttachmentWithBlob.authentic (hreply _ _ hvalue) hresponse
  obtain ⟨u, wrapped', hwrapped', hkey', hshows⟩ := ht.shows hA htvault hrecord hsummary
  -- The key that opened the summary's digest is the one that opens the blob.
  cases hwrapped.symm.trans hwrapped'
  rw [hid] at hkey'
  cases hkey.symm.trans hkey'
  obtain ⟨-, hsummaryId, -, hsize⟩ := attachmentSummary_facts hsummary
  refine ⟨u, hshows.mono hgrows, (attachmentSummary_opens hsummary).1, hsummaryId.trans hid, ?_, ?_⟩
  · exact ht.of_decryptBlob hA hshows.uploaded hblob hencrypted hopen
  · rw [hsize, ← hlength, Nat.add_sub_cancel]

/-- A record that was shown and opens tells of a file that was uploaded under its id. -/
theorem ServedRecord.shows {α : Type} {c : AttachmentClient α} {result : ResolverResult α}
    (hA : A.Correct) (hinv : FileInv A B codec sha256 st)
    (hvault : (.vault, vaultKey.asBytes) ∈ st.keys)
    (hexec : Exec (LyingService A B codec sha256 P) (FileStep A B codec sha256) c st es result st')
    {record : AttachmentRecord} (hserved : ServedRecord P es record) {summary : AttachmentSummary}
    (hopens : attachmentSummary A P vaultKey itemId record = .ok summary) :
    ∃ u, summary.Shows sha256 st' vaultKey u := by
  obtain ⟨req, rep, cap, value, hmem, hvalue, hrecord⟩ := hserved
  obtain ⟨t, ht, htvault, hreply, hgrows⟩ := LyingService.replied hinv hvault hexec hmem
  obtain ⟨u, -, -, -, hshows⟩ := ht.shows hA htvault (hrecord.authentic (hreply _ _ hvalue)) hopens
  exact ⟨u, hshows.mono hgrows⟩

theorem listAttachments_shows (hA : A.Correct) (hinv : FileInv A B codec sha256 st)
    (hvault : (.vault, vaultKey.asBytes) ∈ st.keys) {summaries : List AttachmentSummary}
    (hexec : Exec (LyingService A B codec sha256 P) (FileStep A B codec sha256)
      (listAttachments A P vaultId itemId vaultKey) st es (.ok summaries) st') :
    (summaries.map AttachmentSummary.attachmentId).Nodup ∧
      ∀ summary ∈ summaries, summary.itemId = itemId ∧
        ∃ u, summary.Shows sha256 st' vaultKey u := by
  obtain ⟨listing, value, records, listed, hes, hvalue, hrecords, hopened, rfl⟩ :=
    exec_listAttachments hexec
  have haccepted := (openRecords_eq_ok (Nat.zero_le _)).mp hopened
  constructor
  · have hids : (listed.map Prod.snd).map AttachmentSummary.attachmentId
        = records.map AttachmentRecord.attachmentId := by
      rw [← haccepted.inOrder, List.map_map, List.map_map]
      apply List.map_congr_left
      intro entry hentry
      exact (attachmentSummary_facts (haccepted.opens entry hentry)).2.1
    rw [hids]
    exact haccepted.distinct
  · intro summary hsummary
    obtain ⟨⟨record, _⟩, hentry, rfl⟩ := List.mem_map.mp hsummary
    have hmem : record ∈ records := by
      rw [← haccepted.inOrder]
      exact List.mem_map_of_mem hentry
    have hserved : ServedRecord P es record :=
      ⟨_, _, _, _, hes ▸ List.mem_singleton_self _, hvalue, .listed hrecords hmem⟩
    have hopens := haccepted.opens _ hentry
    exact ⟨(attachmentSummary_opens hopens).1, hserved.shows hA hinv hvault hexec hopens⟩

/-- An upload that returns was answered with a record of its id and its size. -/
theorem exec_putAttachment {σ : Type} {handle : σ → AttachmentCall → HttpReply → σ → Prop}
    {foreign : σ → σ → Prop} {s u : σ} {es : List (Event σ AttachmentCall HttpReply)}
    {draw : UploadDraw} {upload : AttachmentUpload} {summary : AttachmentSummary}
    (h : Exec handle foreign (putAttachment A P attachmentId draw vaultId itemId vaultKey upload) s es
      (.ok summary) u) :
    ∃ record, ServedRecord P es record ∧ record.attachmentId = attachmentId ∧
      attachmentSummary A P vaultKey itemId record = .ok summary ∧
      summary.encryptedSizeBytes = upload.bytes.length + envelopeBytes := by
  obtain ⟨body, -, h⟩ := Exec.ofExcept_bind_ok h
  rw [callWithOptions, Client.mapErr_ask] at h
  obtain ⟨pre, _, rep, _, post, value, rfl, -, -, hvalue, hrest⟩ := Exec.ask_bind_ok h
  obtain ⟨hresult, -⟩ := Exec.done_inv hrest
  simp only [eq_comm (a := Except.ok summary), Except.bind_eq_ok, Except.pure_eq_ok,
    orMalformed_eq_ok, rejectIf_eq_ok, ne_eq, not_not] at hresult
  obtain ⟨record, hrecord, -, hid, opened, hopens, -, hsize, rfl⟩ := hresult
  have hread := Except.mapError_eq_ok.mp hvalue
  refine ⟨record, ⟨.createAttachment vaultId itemId body none, rep, _, value, ?_, hread,
    .created hrecord⟩, hid, hopens, hsize⟩
  simp [exchanges]

/-- So was an upload that is reported as done, or as there already: the record opens to its digest. -/
theorem exec_putAttachmentWithId (hP : P.Faithful) {σ : Type}
    {handle : σ → AttachmentCall → HttpReply → σ → Prop} {foreign : σ → σ → Prop} {s u : σ}
    {es : List (Event σ AttachmentCall HttpReply)} {draw : UploadDraw} {upload : AttachmentUpload}
    {ifMatch : ItemRevision} {write : AttachmentWrite AttachmentPutOutcome}
    (h : Exec handle foreign
      (putAttachmentWithId A sha256 P draw vaultId itemId attachmentId vaultKey upload ifMatch)
      s es (.ok write) u)
    (hdone : write.outcome = .alreadyPresent ∨ ∃ summary, write.outcome = .created summary) :
    ∃ record summary, ServedRecord P es record ∧ record.attachmentId = attachmentId ∧
      attachmentSummary A P vaultKey itemId record = .ok summary ∧
      summary.sha256 = some (sha256 upload.bytes) ∧
      ∀ created, write.outcome = .created created → created = summary := by
  obtain ⟨body, own, later, hes, hconfirmed⟩ := putAttachmentWithId_confirmed hP h
  rcases hdone with hpresent | ⟨summary, hcreated⟩
  · obtain ⟨_, _, _, -, -, -, -, -, listing, value, records, rfl, hvalue, hrecords, record, hmem,
      summary, hsame⟩ := hconfirmed.alreadyPresent hpresent
    have hserved : ServedRecord P es record :=
      ⟨_, _, _, _, hes ▸ List.mem_cons_of_mem _ (List.mem_singleton_self _), hvalue,
        .listed hrecords hmem⟩
    refine ⟨record, summary, hserved, hsame.attachmentId, hsame.opens, hsame.sha256, ?_⟩
    intro created hcreated
    cases hpresent.symm.trans hcreated
  · obtain ⟨value, response, hvalue, hresponse, -, hid, hopens, -, hdigest⟩ :=
      hconfirmed.created summary hcreated
    have hserved : ServedRecord P es response.record :=
      ⟨_, _, _, _, hes ▸ List.mem_cons_self, hvalue, .guarded hresponse⟩
    refine ⟨response.record, summary, hserved, hid, hopens, hdigest, ?_⟩
    intro created hother
    cases hcreated.symm.trans hother
    rfl

/-- **Attachments come from uploads.** In every run of honest clients against a service that says what
    it likes, except for what opens under their keys: a download has the bytes, the size and the
    digest of one file that was uploaded under its id, and its name and content type too if the id was
    used once. A listing has one entry for an id, of a file that was uploaded under it. An upload
    returns the summary of such a file, and one that is reported as created or present was shown the
    record of a file under its id that has its digest. -/
theorem attachments_come_from_uploads (hA : A.Correct) (hP : P.Faithful)
    (hrun : Relation.ReflTransGen (FileStep A B codec sha256) ⟨⟨[], []⟩, []⟩ st)
    (hvault : (.vault, vaultKey.asBytes) ∈ st.keys) :
    (∀ vaultId itemId attachmentId es st' file,
      Exec (LyingService A B codec sha256 P) (FileStep A B codec sha256)
        (getAttachment A P vaultId itemId attachmentId vaultKey) st es (.ok file) st' →
      ∃ u ∈ st'.uploads, u.For vaultKey itemId attachmentId ∧ file.bytes = u.upload.bytes ∧
        file.summary.sizeBytes = file.bytes.length ∧
        (∀ digest, file.summary.sha256 = some digest → digest = sha256 file.bytes) ∧
        ((∀ other ∈ st'.uploads, other.For vaultKey itemId attachmentId → other = u) →
          file.summary.filename = u.upload.filename ∧
            file.summary.contentType = u.upload.contentType)) ∧
    (∀ vaultId itemId es st' summaries,
      Exec (LyingService A B codec sha256 P) (FileStep A B codec sha256)
        (listAttachments A P vaultId itemId vaultKey) st es (.ok summaries) st' →
      (summaries.map AttachmentSummary.attachmentId).Nodup ∧
        ∀ summary ∈ summaries, summary.itemId = itemId ∧
          ∃ u, summary.Shows sha256 st' vaultKey u) ∧
    (∀ vaultId itemId attachmentId draw upload es st' summary,
      Exec (LyingService A B codec sha256 P) (FileStep A B codec sha256)
        (putAttachment A P attachmentId draw vaultId itemId vaultKey upload) st es (.ok summary)
        st' →
      summary.itemId = itemId ∧ summary.attachmentId = attachmentId ∧
        summary.sizeBytes = upload.bytes.length ∧ ∃ u, summary.Shows sha256 st' vaultKey u) ∧
    ∀ vaultId itemId attachmentId draw upload ifMatch es st' write,
      Exec (LyingService A B codec sha256 P) (FileStep A B codec sha256)
        (putAttachmentWithId A sha256 P draw vaultId itemId attachmentId vaultKey upload ifMatch)
        st es (.ok write) st' →
      (write.outcome = .alreadyPresent ∨ ∃ summary, write.outcome = .created summary) →
        ∃ record summary u, ServedRecord P es record ∧
          attachmentSummary A P vaultKey itemId record = .ok summary ∧
          (∀ created, write.outcome = .created created → created = summary) ∧
          summary.Shows sha256 st' vaultKey u ∧ u.For vaultKey itemId attachmentId ∧
          sha256 u.upload.bytes = sha256 upload.bytes := by
  have hinv : FileInv A B codec sha256 st := by
    refine FileInv.run ⟨⟨?_, ?_⟩, ?_, ?_, ?_, ?_⟩ hrun <;> simp
  refine ⟨?_, ?_, ?_, ?_⟩
  · intro vaultId itemId attachmentId es st' file hexec
    obtain ⟨u, hshows, rfl, rfl, hbytes, hsize⟩ := getAttachment_shows hA hinv hvault hexec
    refine ⟨u, hshows.uploaded, hshows.mine, hbytes, hsize, ?_, hshows.once⟩
    intro digest hdigest
    rw [hbytes]
    exact hshows.digest digest hdigest
  · intro vaultId itemId es st' summaries hexec
    exact listAttachments_shows hA hinv hvault hexec
  · intro vaultId itemId attachmentId draw upload es st' summary hexec
    obtain ⟨record, hserved, hid, hopens, hsent⟩ := exec_putAttachment hexec
    obtain ⟨-, hsummaryId, -, hsize⟩ := attachmentSummary_facts hopens
    refine ⟨(attachmentSummary_opens hopens).1, hsummaryId.trans hid, ?_,
      hserved.shows hA hinv hvault hexec hopens⟩
    rw [hsize, hsent, Nat.add_sub_cancel]
  · intro vaultId itemId attachmentId draw upload ifMatch es st' write hexec hdone
    obtain ⟨record, summary, hserved, hid, hopens, hdigest, hcreated⟩ :=
      exec_putAttachmentWithId hP hexec hdone
    obtain ⟨u, hshows⟩ := hserved.shows hA hinv hvault hexec hopens
    have hfor := hshows.mine
    rw [(attachmentSummary_opens hopens).1, (attachmentSummary_facts hopens).2.1, hid] at hfor
    exact ⟨record, summary, u, hserved, hopens, hcreated, hshows, hfor,
      (hshows.digest _ hdigest).symm⟩

end Results

/-! ### Two files of an item -/

/-- With tags for all uses, every blob of the clients is authentic. -/
theorem HonestState.authentic_of_sealed {Content : Type} (codec : ContentCodec Content)
    {uses : List (FixedBytes 32 × Bytes)} (hlength : uses.length < 256) {st : HonestState Content}
    {s : AadSlot} {key : FixedBytes 32} {nonce : FixedBytes 24} {plain : s.Plain Content}
    {blob : Bytes} (hmem : (.slot s key nonce plain, blob) ∈ st.sealed)
    (hseal : sealSlot (.tagged uses) codec s key nonce plain = .ok blob)
    (huse : (key, s.aad) ∈ uses) : st.Authentic (.tagged uses) (Base64.encode blob) := by
  intro blob' hblob role key' aad plaintext _ hopen
  rw [Base64.decode_encode] at hblob
  cases hblob
  obtain ⟨sealed, rfl⟩ := sealSlot_ok hseal
  rw [xchacha20Decrypt_encrypt (Aead.tagged_exact uses).correct] at hopen
  split at hopen
  · rename_i opened htag
    cases hopen
    obtain ⟨rfl, rfl, rfl⟩ := Aead.tagged_opened hlength huse htag
    exact ⟨s, nonce, plain, hmem, rfl, rfl⟩
  · cases hopen

/-- A text that is no encoding is authentic. -/
theorem HonestState.authentic_of_decode {Content : Type} {A : Aead} {st : HonestState Content}
    {text : String} (h : Base64.decode text = none) : st.Authentic A text := by
  intro blob hblob
  cases h.symm.trans hblob

/-- What an upload uses its keys for. -/
def FileUpload.uses (u : FileUpload) : List (FixedBytes 32 × Bytes) :=
  let aad slot := (AadSlot.attachment slot u.itemId u.attachmentId).aad
  [(u.vaultKey.asBytes, aad .filename), (u.vaultKey.asBytes, aad .contentType),
    (u.vaultKey.asBytes, aad .contentKey), (u.draw.key.asBytes, aad .blob),
    (u.draw.key.asBytes, aad .digest)]

theorem FileUpload.authentic_of_seals {Content : Type} (codec : ContentCodec Content)
    {sha256 : Bytes → FixedBytes 32} {u : FileUpload} {uses : List (FixedBytes 32 × Bytes)}
    (hlength : uses.length < 256) (huses : ∀ use ∈ u.uses, use ∈ uses) {st : HonestState Content}
    (hsealed : ∀ entry ∈ u.seals (.tagged uses) sha256, entry ∈ st.sealed)
    {entry : Sealing Content × Bytes} (h : entry ∈ u.seals (.tagged uses) sha256) :
    st.Authentic (.tagged uses) (Base64.encode entry.2) := by
  have hmem := hsealed entry h
  rcases List.mem_append.mp h with h | h
  · simp only [List.mem_cons, List.not_mem_nil, or_false] at h
    rcases h with rfl | rfl | rfl | rfl
    all_goals
      exact HonestState.authentic_of_sealed codec hlength hmem rfl
        (huses _ (by simp [FileUpload.uses]))
  · by_cases hguarded : u.guarded = true
    · rw [if_pos hguarded, List.mem_singleton] at h
      subst h
      exact HonestState.authentic_of_sealed codec hlength hmem rfl
        (huses _ (by simp [FileUpload.uses]))
    · rw [if_neg hguarded] at h
      exact absurd h List.not_mem_nil

section Stored

variable (A : Aead) (sha256 : Bytes → FixedBytes 32)

/-- What an upload sends. -/
def FileUpload.sent (u : FileUpload) : AttachmentRequest :=
  let item := u.itemId.toBytes
  let id := u.attachmentId.toBytes
  { attachmentId := u.attachmentId
    blob := Base64.encode (encryptBlob A u.draw.key item id u.draw.blobNonce u.upload.bytes)
    filenameCiphertext :=
      Base64.encode (encryptFilename A u.vaultKey item id u.draw.filenameNonce u.upload.filename)
    contentTypeCiphertext := Base64.encode (encryptContentType A u.vaultKey item id
      u.draw.contentTypeNonce (u.upload.contentType.getD ""))
    wrappedContentKey :=
      Base64.encode (wrapAttachmentKey A u.vaultKey item id u.draw.keyNonce u.draw.key)
    digestCiphertext := if u.guarded then
      some (Base64.encode (encryptDigest A u.draw.key item id u.draw.digestNonce
        (sha256 u.upload.bytes)))
      else none }

/-- The record of an upload. -/
def FileUpload.stored (u : FileUpload) (createdAt : String) : AttachmentRecord :=
  (u.sent A sha256).stored u.itemId (u.upload.bytes.length + envelopeBytes : ℕ) createdAt

/-- The summary of an upload. -/
def FileUpload.summary (u : FileUpload) (createdAt : ServiceTimestamp) : AttachmentSummary where
  attachmentId := u.attachmentId
  itemId := u.itemId
  filename := u.upload.filename
  contentType := u.upload.contentType
  sizeBytes := u.upload.bytes.length
  encryptedSizeBytes := u.upload.bytes.length + envelopeBytes
  createdAt := createdAt
  sha256 := if u.guarded then some (sha256 u.upload.bytes) else none

/-- The service's JSON form of a record with its blob. -/
def AttachmentWithBlob.toJson (response : AttachmentWithBlob) : Json :=
  match response.record.toJson with
  | .obj members => .obj (("blob", .str response.blob) :: members)
  | value => value

theorem AttachmentWithBlob.ofJson_toJson {response : AttachmentWithBlob}
    (hsize : -2 ^ 63 ≤ response.record.sizeBytes ∧ response.record.sizeBytes ≤ 2 ^ 63 - 1) :
    ofJson response.toJson = some response := by
  obtain ⟨record, blob⟩ := response
  obtain ⟨attachmentId, itemId, filename, contentType, key, size, createdAt, digest⟩ := record
  have hnumber : Json.asInt? (-9223372036854775808) 9223372036854775807 (.int size) = some size :=
    if_pos hsize
  have hdigest : Json.nullable Json.asStr? (.orNull .str digest) = some digest := by
    cases digest <;> rfl
  simp [ofJson, toJson, flatFields, AttachmentRecord.ofFields, AttachmentRecord.toJson, Json.get?,
    Json.field, Json.fieldOr, hnumber, hdigest, Json.asStr?]

theorem AttachmentWithBlob.has_toJson {response : AttachmentWithBlob} {text : String}
    (h : response.toJson.Has text) : text = response.blob ∨ response.record.toJson.Has text := by
  cases h with
  | member hmem h =>
      rcases List.mem_cons.mp hmem with heq | hmem
      · cases heq
        exact .inl (Json.has_str h)
      · exact .inr (.member hmem h)

variable {A sha256}

/-- The texts of a record are the ids, the time and what was sealed for the upload. -/
theorem FileUpload.has_stored (Content : Type) {u : FileUpload} {createdAt text : String}
    (h : (u.stored A sha256 createdAt).toJson.Has text) :
    text = u.attachmentId.toText ∨ text = u.itemId.toText ∨ text = createdAt ∨
      ∃ entry ∈ (u.seals A sha256 : List (Sealing Content × Bytes)), text = Base64.encode entry.2 := by
  cases h with
  | member hmem h =>
      simp only [List.mem_cons, List.not_mem_nil, or_false, Prod.mk.injEq] at hmem
      rcases hmem with ⟨-, rfl⟩ | ⟨-, rfl⟩ | ⟨-, rfl⟩ | ⟨-, rfl⟩ | ⟨-, rfl⟩ | ⟨-, rfl⟩ | ⟨-, rfl⟩ |
        ⟨-, rfl⟩
      · exact .inl (Json.has_str h)
      · exact .inr (.inl (Json.has_str h))
      · exact .inr (.inr (.inr ⟨_, .head _, Json.has_str h⟩))
      · exact .inr (.inr (.inr ⟨_, .tail _ (.head _), Json.has_str h⟩))
      · exact .inr (.inr (.inr ⟨_, .tail _ (.tail _ (.head _)), Json.has_str h⟩))
      · cases h
      · exact .inr (.inr (.inl (Json.has_str h)))
      · by_cases hguarded : u.guarded = true
        · simp only [stored, AttachmentRequest.stored, sent, if_pos hguarded] at h
          have hdigest : ((.slot (.attachment .digest u.itemId u.attachmentId) u.draw.key.asBytes
              u.draw.digestNonce (sha256 u.upload.bytes), encryptDigest A u.draw.key u.itemId.toBytes
                u.attachmentId.toBytes u.draw.digestNonce (sha256 u.upload.bytes)) :
              Sealing Content × Bytes) ∈ u.seals A sha256 := by
            refine List.mem_append_right _ ?_
            rw [if_pos hguarded]
            exact List.mem_singleton_self _
          exact .inr (.inr (.inr ⟨_, hdigest, Json.has_str h⟩))
        · simp only [stored, AttachmentRequest.stored, sent, if_neg hguarded] at h
          cases h

/-- The record of an upload opens to what was uploaded. -/
theorem FileUpload.attachmentSummary_stored (hA : A.Exact) {P : Parsers} {u : FileUpload}
    (hrequest : u.request A sha256 = .ok (u.sent A sha256)) {createdAt : String}
    {time : ServiceTimestamp} (htime : ServiceTimestamp.new P createdAt = .ok time) :
    attachmentSummary A P u.vaultKey u.itemId (u.stored A sha256 createdAt)
      = .ok (u.summary sha256 time) := by
  have hfits := FileUpload.fits_of_request hrequest
  have hbytes := hfits.bytes
  have hname := hfits.filename
  have htype := hfits.contentType
  rw [maxAttachmentPlaintextBytes] at hbytes
  have henvelope : 32 + envelopeBytes ≤ maxMetadataBytes := by decide
  have hmetadata : maxMetadataBytes ≤ maxEncryptedBytes := by decide
  have hsize : encryptedSize (u.stored A sha256 createdAt).sizeBytes
      = .ok (u.upload.bytes.length + envelopeBytes) := encryptedSize_natCast (by omega) (by omega)
  have hopens := attachmentSummary_uploaded hA.correct hrequest
    (AttachmentRequest.stored_holds _ u.itemId _ createdAt) hsize htime
    (by rw [length_wrapAttachmentKey hA]; exact henvelope)
    (by rw [length_encryptFilename hA]; omega) (by rw [length_encryptContentType hA]; omega)
    (fun d _ => by rw [length_encryptDigest hA]; omega)
  rw [hfits.contentType_getD, Nat.add_sub_cancel] at hopens
  exact hopens

/-- It is downloaded from a service that shows it. -/
theorem FileUpload.exec_getAttachment (hA : A.Exact) {P : Parsers} {u : FileUpload}
    (hrequest : u.request A sha256 = .ok (u.sent A sha256)) {createdAt : String}
    {time : ServiceTimestamp} (htime : ServiceTimestamp.new P createdAt = .ok time) {σ : Type}
    {handle : σ → AttachmentCall → HttpReply → σ → Prop} {foreign : σ → σ → Prop} {s t : σ}
    {vaultId : Uuid} {rep : HttpReply} {value : Json}
    (hhandle : handle s (.getAttachment vaultId u.itemId u.attachmentId) rep t)
    (hvalue : readReply P maxDownloadResponseBytes rep = .ok value)
    (hresponse : AttachmentWithBlob.ofJson value
      = some ⟨u.stored A sha256 createdAt, (u.sent A sha256).blob⟩) :
    Exec handle foreign (getAttachment A P vaultId u.itemId u.attachmentId u.vaultKey) s
      [.served s (.getAttachment vaultId u.itemId u.attachmentId) rep t]
      (.ok ⟨u.summary sha256 time, u.upload.bytes⟩) t := by
  have henvelope : 32 + envelopeBytes ≤ maxMetadataBytes := by decide
  have hid : rejectIf ((u.stored A sha256 createdAt).attachmentId ≠ u.attachmentId)
      ResolverError.responseMismatch = .ok () := rejectIf_eq_ok.mpr fun h => h rfl
  have hwrapped : boundedDecode (u.stored A sha256 createdAt).wrappedContentKey maxMetadataBytes
      = .ok (wrapAttachmentKey A u.vaultKey u.itemId.toBytes u.attachmentId.toBytes u.draw.keyNonce
        u.draw.key) :=
    boundedDecode_encode.mpr (by rw [length_wrapAttachmentKey hA]; exact henvelope)
  have hkey : unwrapAttachmentKey A u.vaultKey u.itemId.toBytes u.attachmentId.toBytes
      (wrapAttachmentKey A u.vaultKey u.itemId.toBytes u.attachmentId.toBytes u.draw.keyNonce
        u.draw.key) = .ok u.draw.key := unwrapAttachmentKey_wrap hA.correct
  have hencrypted : boundedDecode (u.sent A sha256).blob (u.upload.bytes.length + envelopeBytes)
      = .ok (encryptBlob A u.draw.key u.itemId.toBytes u.attachmentId.toBytes u.draw.blobNonce
        u.upload.bytes) :=
    boundedDecode_encode.mpr (by rw [length_encryptBlob hA])
  refine Exec.ask_bind hhandle hvalue (Exec.ofExcept ?_)
  exact Except.bind_eq_ok.mpr ⟨_, orMalformed_eq_ok.mpr hresponse, Except.bind_eq_ok.mpr ⟨(), hid,
    Except.bind_eq_ok.mpr ⟨_, FileUpload.attachmentSummary_stored hA hrequest htime,
      Except.bind_eq_ok.mpr ⟨_, hwrapped, Except.bind_eq_ok.mpr ⟨_, fromCrypto_eq_ok.mpr hkey,
        Except.bind_eq_ok.mpr ⟨_, hencrypted, Except.bind_eq_ok.mpr
          ⟨_, decryptEncryptedBlob_encryptBlob hA, rfl⟩⟩⟩⟩⟩⟩⟩

end Stored

section Showing

variable {Content : Type} {st : HonestState Content} {uses : List (FixedBytes 32 × Bytes)}
  {sha256 : Bytes → FixedBytes 32} {u : FileUpload} {createdAt : String}

/-- The record of an upload is authentic, if its ids and its time are no encodings. -/
theorem FileUpload.authentic_stored (codec : ContentCodec Content) (hlength : uses.length < 256)
    (huses : ∀ use ∈ u.uses, use ∈ uses)
    (hsealed : ∀ entry ∈ u.seals (.tagged uses) sha256, entry ∈ st.sealed)
    (hid : Base64.decode u.attachmentId.toText = none)
    (hitem : Base64.decode u.itemId.toText = none) (htime : Base64.decode createdAt = none)
    {text : String} (h : (u.stored (.tagged uses) sha256 createdAt).toJson.Has text) :
    st.Authentic (.tagged uses) text := by
  rcases FileUpload.has_stored Content h with rfl | rfl | rfl | ⟨entry, hentry, rfl⟩
  · exact HonestState.authentic_of_decode hid
  · exact HonestState.authentic_of_decode hitem
  · exact HonestState.authentic_of_decode htime
  · exact FileUpload.authentic_of_seals codec hlength huses hsealed hentry

theorem HonestState.authenticReply_direct {A : Aead} {value : Json} (hbare : Bare value)
    (h : ∀ text, value.Has text → st.Authentic A text) :
    st.AuthenticReply A .compact (directReply value) := by
  intro cap read hread text htext
  rw [(delivers_directReply hbare).eq_of_readReply hread] at htext
  exact h text htext

end Showing

/-- The empty file and the report, as attachments 5 and 6 of item 2. -/
def emptyFile : FileUpload :=
  ⟨⟨.replicate 32 3⟩, .replicate 16 2, .replicate 16 5, fileUpload, true, fileDraw⟩

def reportFile : FileUpload :=
  ⟨⟨.replicate 32 3⟩, .replicate 16 2, .replicate 16 6, reportUpload, true,
    { reportDraw with key := ⟨.replicate 32 6⟩ }⟩

/-- The report once more, under a new key. -/
def reportAgain : FileUpload :=
  { reportFile with draw := { reportDraw with key := ⟨.replicate 32 7⟩ } }

/-- A digest function that is right about both files. -/
def filesSha256 (bytes : Bytes) : FixedBytes 32 :=
  if bytes = [] then emptyDigest else reportDigest

/-- A scheme that tells the uses for both files apart. -/
def filesAead : Aead := .tagged (emptyFile.uses ++ reportFile.uses)

def filesState : FileState String where
  keys := [(.attachment, .replicate 32 6), (.attachment, .replicate 32 4), (.vault, .replicate 32 3)]
  sealed := reportFile.seals filesAead filesSha256 ++ (emptyFile.seals filesAead filesSha256 ++ [])
  uploads := [reportFile, emptyFile]

def againState : FileState String where
  keys := (.attachment, .replicate 32 7) :: filesState.keys
  sealed := reportAgain.seals filesAead filesSha256 ++ filesState.sealed
  uploads := reportAgain :: filesState.uploads

theorem request_files :
    emptyFile.request filesAead filesSha256 = .ok (emptyFile.sent filesAead filesSha256) ∧
      reportFile.request filesAead filesSha256 = .ok (reportFile.sent filesAead filesSha256) ∧
      reportAgain.request filesAead filesSha256 = .ok (reportAgain.sent filesAead filesSha256) :=
  ⟨rfl, rfl, rfl⟩

/-- A key is fresh if it differs from all that are known. -/
theorem fresh_of_ne {keys : List (KeyRole × FixedBytes 32)} {key : FixedBytes 32}
    (h : ∀ entry ∈ keys, entry.2 ≠ key) (r : KeyRole) : (r, key) ∉ keys :=
  fun hmem => h _ hmem rfl

theorem filesState_reached :
    Relation.ReflTransGen (FileStep filesAead .transparent textCodec filesSha256)
      ⟨⟨[], []⟩, []⟩ filesState := by
  have hvault : FileStep filesAead .transparent textCodec filesSha256 ⟨⟨[], []⟩, []⟩
      ⟨⟨[(.vault, .replicate 32 3)], []⟩, []⟩ := .generate (by simp)
  exact .tail (.tail (.single hvault) (.upload (u := emptyFile) List.mem_cons_self
    (fresh_of_ne (by decide)) request_files.1)) (.upload (u := reportFile)
      (List.mem_cons_of_mem _ List.mem_cons_self) (fresh_of_ne (by decide)) request_files.2.1)

theorem againState_reached :
    FileStep filesAead .transparent textCodec filesSha256 filesState againState :=
  .upload (u := reportAgain) (by decide) (fresh_of_ne (by decide)) request_files.2.2

/-- Their records and summaries. -/
def emptyStored : AttachmentRecord :=
  emptyFile.stored filesAead filesSha256 "2026-07-17T10:11:12Z"

def reportStored : AttachmentRecord :=
  reportFile.stored filesAead filesSha256 "2026-07-17T10:11:13Z"

def emptyShown : AttachmentSummary := emptyFile.summary filesSha256 ⟨"2026-07-17T10:11:12Z"⟩

def reportShown : AttachmentSummary := reportFile.summary filesSha256 ⟨"2026-07-17T10:11:13Z"⟩

theorem attachmentSummary_emptyStored :
    attachmentSummary filesAead .compact ⟨.replicate 32 3⟩ (.replicate 16 2) emptyStored
      = .ok emptyShown :=
  FileUpload.attachmentSummary_stored (Aead.tagged_exact _) request_files.1 rfl

theorem attachmentSummary_reportStored :
    attachmentSummary filesAead .compact ⟨.replicate 32 3⟩ (.replicate 16 2) reportStored
      = .ok reportShown :=
  FileUpload.attachmentSummary_stored (Aead.tagged_exact _) request_files.2.1 rfl

/-- The listing of both files, and the report with its blob. -/
def filesListing : Json := .arr [emptyStored.toJson, reportStored.toJson]

def reportResponse : AttachmentWithBlob :=
  ⟨reportStored, (reportFile.sent filesAead filesSha256).blob⟩

theorem bare_reportResponse : Bare reportResponse.toJson := by
  simp [Bare, reportResponse, AttachmentWithBlob.toJson, AttachmentRecord.toJson, Json.get?]

theorem readReply_filesListing :
    readReply .compact maxGatewayBody (directReply filesListing) = .ok filesListing := by
  apply readReply_directReply ⟨rfl, rfl, rfl⟩
  simp only [filesListing, AttachmentRecord.toJson, emptyStored, reportStored, FileUpload.stored,
    AttachmentRequest.stored, FileUpload.sent, emptyFile, reportFile, if_true, Json.uuid,
    Json.orNull, Json.int, Json.write, Json.writeElems, Json.writeMembers, writeString,
    Base64.utf8_encode]
  decide +kernel

theorem readReply_reportResponse :
    readReply .compact maxDownloadResponseBytes (directReply reportResponse.toJson)
      = .ok reportResponse.toJson := by
  apply readReply_directReply bare_reportResponse
  simp only [reportResponse, AttachmentWithBlob.toJson, AttachmentRecord.toJson, reportStored,
    FileUpload.stored, AttachmentRequest.stored, FileUpload.sent, reportFile, if_true, Json.uuid,
    Json.orNull, Json.int, Json.write, Json.writeMembers, writeString, Base64.utf8_encode]
  decide +kernel

theorem attachmentRecordsOfJson_filesListing :
    attachmentRecordsOfJson filesListing = some [emptyStored, reportStored] := by
  have hempty : AttachmentRecord.ofJson emptyStored.toJson = some emptyStored :=
    AttachmentRecord.ofJson_toJson (by decide)
  have hreport : AttachmentRecord.ofJson reportStored.toJson = some reportStored :=
    AttachmentRecord.ofJson_toJson (by decide)
  simp [attachmentRecordsOfJson, filesListing, hempty, hreport]

theorem openRecords_files :
    openRecords filesAead .compact ⟨.replicate 32 3⟩ (.replicate 16 2) []
      0 [emptyStored, reportStored]
      = .ok [(emptyStored, emptyShown), (reportStored, reportShown)] := by
  refine (openRecords_eq_ok (Nat.zero_le _)).mpr ⟨rfl, ?_, by decide, ?_, by decide⟩
  · intro entry hentry
    rcases List.mem_pair.mp hentry with rfl | rfl
    · exact attachmentSummary_emptyStored
    · exact attachmentSummary_reportStored
  · intro record _
    exact List.not_mem_nil

section Served

variable {st : FileState String}

/-- Whoever has sealed both files may be shown them. -/
theorem authentic_files (hsealed : ∀ entry ∈ filesState.sealed, entry ∈ st.sealed) {text : String}
    (h : emptyStored.toJson.Has text ∨ reportStored.toJson.Has text ∨ text = reportResponse.blob) :
    st.Authentic filesAead text := by
  have hlength : (emptyFile.uses ++ reportFile.uses).length < 256 := by decide
  have hempty : ∀ entry ∈ emptyFile.seals filesAead filesSha256, entry ∈ st.sealed := fun entry h =>
    hsealed entry (List.mem_append_right _ (List.mem_append_left _ h))
  have hreport : ∀ entry ∈ reportFile.seals filesAead filesSha256, entry ∈ st.sealed :=
    fun entry h => hsealed entry (List.mem_append_left _ h)
  have huses : ∀ use ∈ reportFile.uses, use ∈ emptyFile.uses ++ reportFile.uses :=
    fun use h => List.mem_append_right _ h
  rcases h with h | h | rfl
  · exact FileUpload.authentic_stored textCodec hlength (fun use h => List.mem_append_left _ h) hempty
      (by decide +kernel) (by decide +kernel) (by decide +kernel) h
  · exact FileUpload.authentic_stored textCodec hlength huses hreport
      (by decide +kernel) (by decide +kernel) (by decide +kernel) h
  · have hblob := @FileUpload.authentic_of_seals _ textCodec _ reportFile _ hlength huses _ hreport _
      (.tail _ (.tail _ (.tail _ (.head _))))
    exact hblob

theorem lying_filesListing (hsealed : ∀ entry ∈ filesState.sealed, entry ∈ st.sealed)
    (req : AttachmentCall) :
    LyingService filesAead .transparent textCodec filesSha256 .compact st req
      (directReply filesListing) st := by
  refine ⟨.refl, HonestState.authenticReply_direct ⟨rfl, rfl, rfl⟩ ?_⟩
  intro text htext
  cases htext with
  | elem hmem h =>
      rcases List.mem_pair.mp hmem with rfl | rfl
      · exact authentic_files hsealed (.inl h)
      · exact authentic_files hsealed (.inr (.inl h))

theorem lying_reportResponse (hsealed : ∀ entry ∈ filesState.sealed, entry ∈ st.sealed)
    (req : AttachmentCall) :
    LyingService filesAead .transparent textCodec filesSha256 .compact st req
      (directReply reportResponse.toJson) st := by
  refine ⟨.refl, HonestState.authenticReply_direct bare_reportResponse ?_⟩
  intro text htext
  rcases AttachmentWithBlob.has_toJson htext with h | h
  · exact authentic_files hsealed (.inr (.inr h))
  · exact authentic_files hsealed (.inr (.inl h))

/-- The report is sealed once more, and refused. -/
theorem lying_duplicate (req : AttachmentCall) :
    LyingService filesAead .transparent textCodec filesSha256 .compact filesState req duplicateReply
      againState := by
  refine ⟨.single againState_reached, ?_⟩
  intro cap value hvalue
  exact absurd hvalue (readReply_refusal (by decide) value)

theorem exec_listFiles (hsealed : ∀ entry ∈ filesState.sealed, entry ∈ st.sealed) :
    Exec (LyingService filesAead .transparent textCodec filesSha256 .compact)
      (FileStep filesAead .transparent textCodec filesSha256)
      (listAttachments filesAead .compact (.replicate 16 1) (.replicate 16 2) ⟨.replicate 32 3⟩) st
      [.served st (.listAttachments (.replicate 16 1) (.replicate 16 2)) (directReply filesListing)
        st] (.ok [emptyShown, reportShown]) st := by
  have hrecords : Exec (LyingService filesAead .transparent textCodec filesSha256 .compact)
      (FileStep filesAead .transparent textCodec filesSha256)
      (listAttachmentRecords filesAead .compact (.replicate 16 1) (.replicate 16 2)
        ⟨.replicate 32 3⟩) st
      [.served st (.listAttachments (.replicate 16 1) (.replicate 16 2)) (directReply filesListing)
        st] (.ok [(emptyStored, emptyShown), (reportStored, reportShown)]) st :=
    Exec.ask_bind (lying_filesListing hsealed _) readReply_filesListing (Exec.ofExcept_bind
      (orMalformed_eq_ok.mpr attachmentRecordsOfJson_filesListing) (Exec.ofExcept openRecords_files))
  exact Exec.bind hrecords .done

end Served

/-- What is downloaded. -/
def reportDownload : DecryptedAttachment := ⟨reportShown, reportUpload.bytes⟩

theorem exec_getReport :
    Exec (LyingService filesAead .transparent textCodec filesSha256 .compact)
      (FileStep filesAead .transparent textCodec filesSha256)
      (getAttachment filesAead .compact (.replicate 16 1) (.replicate 16 2) (.replicate 16 6)
        ⟨.replicate 32 3⟩) filesState
      [.served filesState (.getAttachment (.replicate 16 1) (.replicate 16 2) (.replicate 16 6))
        (directReply reportResponse.toJson) filesState] (.ok reportDownload) filesState := by
  have hresponse : AttachmentWithBlob.ofJson reportResponse.toJson = some reportResponse :=
    AttachmentWithBlob.ofJson_toJson (by decide)
  exact FileUpload.exec_getAttachment (Aead.tagged_exact _) request_files.2.1 rfl
    (lying_reportResponse (fun _ h => h) _) readReply_reportResponse hresponse

/-- The events of the second upload of the report. -/
def againEvents : List (Event (FileState String) AttachmentCall HttpReply) :=
  [.served filesState (.createAttachment (.replicate 16 1) (.replicate 16 2)
      (reportAgain.sent filesAead filesSha256) (some ⟨"2026-01-01T00:00:00Z"⟩)) duplicateReply
      againState,
    .served againState (.listAttachments (.replicate 16 1) (.replicate 16 2))
      (directReply filesListing) againState]

theorem exec_putAgain :
    Exec (LyingService filesAead .transparent textCodec filesSha256 .compact)
      (FileStep filesAead .transparent textCodec filesSha256)
      (putAttachmentWithId filesAead filesSha256 .compact reportAgain.draw (.replicate 16 1)
        (.replicate 16 2) (.replicate 16 6) ⟨.replicate 32 3⟩ reportUpload
        ⟨"2026-01-01T00:00:00Z"⟩)
      filesState againEvents (.ok ⟨.alreadyPresent, some ⟨"2026-01-02T00:00:00Z"⟩⟩) againState := by
  have hrequest : buildAttachmentRequest filesAead reportAgain.draw ⟨.replicate 32 3⟩
      (.replicate 16 2) (.replicate 16 6) reportUpload (some (filesSha256 reportUpload.bytes))
      = .ok (reportAgain.sent filesAead filesSha256) := request_files.2.2
  refine Exec.ofExcept_bind hrequest (Exec.ask_bind (lying_duplicate _)
    (congrArg Except.ok readReply_duplicateReply) ?_)
  show Exec _ _ (if hasStatus _ 412 = true then _ else _) _ _ _ _
  rw [if_neg (by decide), if_pos isCodedServerError_duplicate]
  refine Exec.bind (exec_listFiles fun _ h => List.mem_append_right _ h) ?_
  show Exec _ _ (if _ = true then _ else _) _ _ _ _
  rw [if_pos (by decide)]
  exact Exec.ofExcept_bind duplicateRevision_duplicate .done

/-- The report is downloaded, listed with the empty file, and found when it is uploaded again. -/
theorem attachments_come_from_uploads_report :
    (Exec (LyingService filesAead .transparent textCodec filesSha256 .compact)
        (FileStep filesAead .transparent textCodec filesSha256)
        (getAttachment filesAead .compact (.replicate 16 1) (.replicate 16 2) (.replicate 16 6)
          ⟨.replicate 32 3⟩) filesState
        [.served filesState (.getAttachment (.replicate 16 1) (.replicate 16 2) (.replicate 16 6))
          (directReply reportResponse.toJson) filesState] (.ok reportDownload) filesState ∧
      ∃ u ∈ filesState.uploads, u.For ⟨.replicate 32 3⟩ (.replicate 16 2) (.replicate 16 6) ∧
        reportDownload.bytes = u.upload.bytes ∧
        reportShown.filename = u.upload.filename ∧
        reportShown.contentType = u.upload.contentType) ∧
    (Exec (LyingService filesAead .transparent textCodec filesSha256 .compact)
        (FileStep filesAead .transparent textCodec filesSha256)
        (listAttachments filesAead .compact (.replicate 16 1) (.replicate 16 2) ⟨.replicate 32 3⟩)
        filesState
        [.served filesState (.listAttachments (.replicate 16 1) (.replicate 16 2))
          (directReply filesListing) filesState] (.ok [emptyShown, reportShown]) filesState ∧
      ∀ summary ∈ [emptyShown, reportShown],
        ∃ u, summary.Shows filesSha256 filesState ⟨.replicate 32 3⟩ u) ∧
    Exec (LyingService filesAead .transparent textCodec filesSha256 .compact)
        (FileStep filesAead .transparent textCodec filesSha256)
        (putAttachmentWithId filesAead filesSha256 .compact reportAgain.draw (.replicate 16 1)
          (.replicate 16 2) (.replicate 16 6) ⟨.replicate 32 3⟩ reportUpload
          ⟨"2026-01-01T00:00:00Z"⟩)
        filesState againEvents (.ok ⟨.alreadyPresent, some ⟨"2026-01-02T00:00:00Z"⟩⟩) againState ∧
      ∃ record summary u, ServedRecord .compact againEvents record ∧
        attachmentSummary filesAead .compact ⟨.replicate 32 3⟩ (.replicate 16 2) record
          = .ok summary ∧
        summary.Shows filesSha256 againState ⟨.replicate 32 3⟩ u ∧
        filesSha256 u.upload.bytes = reportDigest := by
  have hvault : (.vault, (⟨.replicate 32 3⟩ : VaultKey).asBytes) ∈ filesState.keys := by decide
  have hlisted := exec_listFiles fun _ (h : _ ∈ filesState.sealed) => h
  obtain ⟨hget, hlist, -, hput⟩ := attachments_come_from_uploads (Aead.tagged_exact _).correct
    Parsers.compact_faithful filesState_reached hvault
  refine ⟨⟨exec_getReport, ?_⟩, ⟨hlisted, ?_⟩, exec_putAgain, ?_⟩
  · obtain ⟨u, hu, hfor, hbytes, -, -, honce⟩ := hget _ _ _ _ _ _ exec_getReport
    refine ⟨u, hu, hfor, hbytes, honce ?_⟩
    -- The id 6 was used for the report only.
    have hreport : ∀ other ∈ filesState.uploads,
        other.For ⟨.replicate 32 3⟩ (.replicate 16 2) (.replicate 16 6) → other = reportFile := by
      intro other hother hotherFor
      rcases List.mem_pair.mp hother with rfl | rfl
      · rfl
      · exact absurd hotherFor.2.2 (by decide)
    intro other hother hotherFor
    rw [hreport other hother hotherFor, hreport u hu hfor]
  · intro summary hsummary
    exact ((hlist _ _ _ _ _ hlisted).2 summary hsummary).2
  · obtain ⟨record, summary, u, hserved, hopens, -, hshows, -, hdigest⟩ :=
      hput _ _ _ _ _ _ _ _ _ exec_putAgain (.inl rfl)
    exact ⟨record, summary, u, hserved, hopens, hshows, hdigest⟩

end SerenSecrets
