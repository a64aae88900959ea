import SerenSecrets.Resolver.Attachments

set_option autoImplicit false

/-! # The attachment service, and deletions that are guarded by a digest

The service keeps the rows of each item. A row is what some client uploaded: it remembers the file and
its digest ciphertext, if one was sent, seals the digest of that file (`StoredAttachment.uploaded`).
All else of a row may change, its wrapped key with a rotation for one.

A guarded deletion is decided in one step (`decideDeletion`): a stale revision is refused first, and a
row is removed only if it holds the very bytes that were sent. What the client sends comes from a
listing that is out of date by then, or was wrong in the first place. It opens to the expected digest
all the same, so a row that holds it holds the expected file (`conditional_delete_guarded`). Neither
the truth of the listing nor the freshness of the client's own seal is needed for that. -/

namespace SerenSecrets

/-! ## Rows -/

/-- How the digest ciphertext and the blob of a row came about: by a guarded upload, which seals the
    digest of the file, or by one without a digest. -/
inductive Uploaded (A : Aead) (sha256 : Bytes → FixedBytes 32) (itemId attachmentId : Uuid)
    (file : Bytes) : Option String → String → Prop
  | guarded {draw : UploadDraw} {vaultKey : VaultKey} {upload : AttachmentUpload}
      {request : AttachmentRequest} (hfile : upload.bytes = file)
      (hrequest : buildAttachmentRequest A draw vaultKey itemId attachmentId upload
        (some (sha256 upload.bytes)) = .ok request) :
      Uploaded A sha256 itemId attachmentId file request.digestCiphertext request.blob
  | unguarded {draw : UploadDraw} {vaultKey : VaultKey} {upload : AttachmentUpload}
      {request : AttachmentRequest} (hfile : upload.bytes = file)
      (hrequest : buildAttachmentRequest A draw vaultKey itemId attachmentId upload none
        = .ok request) :
      Uploaded A sha256 itemId attachmentId file request.digestCiphertext request.blob

/-- The row of an attachment. -/
structure StoredAttachment (A : Aead) (sha256 : Bytes → FixedBytes 32)
    (itemId attachmentId : Uuid) where
  record : AttachmentRecord
  blob : String
  file : Bytes
  uploaded : Uploaded A sha256 itemId attachmentId file record.digestCiphertext blob

/-- The revision of each item, by vault, and the rows of its attachments. -/
structure AttachmentStore (A : Aead) (sha256 : Bytes → FixedBytes 32) where
  revision : Uuid → Uuid → Option ItemRevision
  rows : (vaultId itemId attachmentId : Uuid) → Option (StoredAttachment A sha256 itemId attachmentId)

section Rows

variable {A : Aead} {sha256 : Bytes → FixedBytes 32} {itemId attachmentId : Uuid}

/-- The digest ciphertext of a row seals the digest of its file. -/
theorem Uploaded.digest {file : Bytes} {text blob : String}
    (h : Uploaded A sha256 itemId attachmentId file (some text) blob) :
    ∃ key nonce, Base64.decode text
      = some (encryptDigest A key itemId.toBytes attachmentId.toBytes nonce (sha256 file)) := by
  generalize hdigest : some text = digest at h
  cases h with
  | @guarded draw _ _ _ hfile hrequest =>
      rw [buildAttachmentRequest_eq_ok hrequest, hfile] at hdigest
      rw [Option.some.inj hdigest]
      exact ⟨draw.key, draw.digestNonce, Base64.decode_encode _⟩
  | unguarded _ hrequest =>
      rw [buildAttachmentRequest_eq_ok hrequest] at hdigest
      cases hdigest

end Rows

/-! ## The service -/

section Service

variable {A : Aead} {sha256 : Bytes → FixedBytes 32}

/-- The row holds exactly the bytes that were sent. -/
def StoredAttachment.holds {itemId attachmentId : Uuid}
    (row : StoredAttachment A sha256 itemId attachmentId) (sent : String) : Bool :=
  match row.record.digestCiphertext.bind Base64.decode, Base64.decode sent with
  | some stored, some bytes => stored == bytes
  | _, _ => false

theorem StoredAttachment.holds_self {itemId attachmentId : Uuid}
    {row : StoredAttachment A sha256 itemId attachmentId} {text : String} {bytes : Bytes}
    (hdigest : row.record.digestCiphertext = some text) (hdecode : Base64.decode text = some bytes) :
    row.holds text = true := by
  simp [holds, hdigest, hdecode]

/-- What the service decides about a guarded deletion. -/
def AttachmentStore.decideDeletion (s : AttachmentStore A sha256) (v i a : Uuid) (sent : String)
    (ifMatch : ItemRevision) : AttachmentDeleteOutcome :=
  if s.revision v i ≠ some ifMatch then .stale
  else
    match s.rows v i a with
    | none => .alreadyAbsent
    | some row => if row.holds sent then .deleted else .mismatch

def AttachmentStore.remove (s : AttachmentStore A sha256) (v i a : Uuid) :
    AttachmentStore A sha256 where
  revision := s.revision
  rows v' i' a' := if (v', i', a') = (v, i, a) then none else s.rows v' i' a'

@[simp] theorem AttachmentStore.remove_rows_self (s : AttachmentStore A sha256) (v i a : Uuid) :
    (s.remove v i a).rows v i a = none := if_pos rfl

/-- The transaction of a guarded deletion. -/
def AttachmentStore.deleteGuarded (s : AttachmentStore A sha256) (v i a : Uuid) (sent : String)
    (ifMatch : ItemRevision) : AttachmentStore A sha256 :=
  match s.decideDeletion v i a sent ifMatch with
  | .deleted => s.remove v i a
  | _ => s

theorem AttachmentStore.deleteGuarded_of_deleted {s : AttachmentStore A sha256} {v i a : Uuid}
    {sent : String} {ifMatch : ItemRevision}
    (h : s.decideDeletion v i a sent ifMatch = .deleted) :
    s.deleteGuarded v i a sent ifMatch = s.remove v i a := by
  unfold deleteGuarded
  rw [h]

/-- How the service reports what it has decided, with the revision of the item. -/
def Reports (P : Parsers) (revision : ItemRevision) (rep : HttpReply) :
    AttachmentDeleteOutcome → Prop
  | .deleted => Answers P (fun payload =>
      ConditionalDeleteResponse.ofJson payload = some ⟨.deleted, revision.asStr⟩) rep
  | .alreadyAbsent => Answers P (fun payload =>
      ConditionalDeleteResponse.ofJson payload = some ⟨.alreadyAbsent, revision.asStr⟩) rep
  | .mismatch => Lost rep ∨ ∃ body, Refuses P 409 (some body) rep ∧
      errorKind body = some "attachment_digest_mismatch"
  | .stale => Lost rep ∨ ∃ body, Refuses P 412 body rep

/-- A refusal that reports the decision about a guarded deletion. -/
def IsDecision (status : UInt16) (body : Option Json) : Prop :=
  status = 412 ∨ (status = 409 ∧ body.bind errorKind = some "attachment_digest_mismatch")

/-- The new state differs from the old one in one row. -/
def StoresRow (s t : AttachmentStore A sha256) (v i a : Uuid)
    (row : StoredAttachment A sha256 i a) : Prop :=
  t.revision = s.revision ∧ t.rows v i a = some row ∧
    ∀ v' i' a', (v', i', a') ≠ (v, i, a) → t.rows v' i' a' = s.rows v' i' a'

/-- How the service takes one request. -/
inductive AttachmentHandles (P : Parsers) :
    AttachmentStore A sha256 → AttachmentCall → HttpReply → AttachmentStore A sha256 → Prop
  | refused {s : AttachmentStore A sha256} {request : AttachmentCall} {rep : HttpReply}
      {status : UInt16} {body : Option Json} (hrep : Refuses P status body rep)
      (hother : ∀ v i a sent r, request = .conditionalDelete v i a sent r →
        ¬ IsDecision status body) : AttachmentHandles P s request rep s
  | undelivered {s : AttachmentStore A sha256} {request : AttachmentCall} {rep : HttpReply}
      (hrep : Lost rep) : AttachmentHandles P s request rep s
  | listAttachments {s : AttachmentStore A sha256} {v i : Uuid} {rep : HttpReply}
      (hrep : Answers P (fun payload => ∀ records, attachmentRecordsOfJson payload = some records →
        ∀ record, record ∈ records ↔ ∃ a row, s.rows v i a = some row ∧ record = row.record) rep) :
      AttachmentHandles P s (.listAttachments v i) rep s
  | getAttachment {s : AttachmentStore A sha256} {v i a : Uuid}
      {row : StoredAttachment A sha256 i a} {rep : HttpReply} (hrow : s.rows v i a = some row)
      (hrep : Answers P (fun payload =>
        AttachmentWithBlob.ofJson payload = some ⟨row.record, row.blob⟩) rep) :
      AttachmentHandles P s (.getAttachment v i a) rep s
  | createAttachment {s t : AttachmentStore A sha256} {v i : Uuid} {body : AttachmentRequest}
      {ifMatch : Option ItemRevision} {row : StoredAttachment A sha256 i body.attachmentId}
      {rep : HttpReply} (hmatch : ∀ r ∈ ifMatch, s.revision v i = some r)
      (habsent : ∀ v' i', s.rows v' i' body.attachmentId = none)
      (hholds : row.record.Holds i body) (hblob : row.blob = body.blob)
      (hstores : StoresRow s t v i body.attachmentId row)
      (hrep : Answers P (fun payload => AttachmentRecord.ofJson payload = some row.record) rep) :
      AttachmentHandles P s (.createAttachment v i body ifMatch) rep t
  | deleteAttachment {s : AttachmentStore A sha256} {v i a : Uuid} {rep : HttpReply}
      (hrep : Answers P (fun _ => True) rep) :
      AttachmentHandles P s (.deleteAttachment v i a) rep (s.remove v i a)
  | conditionalDelete {s : AttachmentStore A sha256} {v i a : Uuid} {sent : String}
      {ifMatch revision : ItemRevision} {rep : HttpReply}
      (hrevision : s.revision v i = some revision)
      (hrep : Reports P revision rep (s.decideDeletion v i a sent ifMatch)) :
      AttachmentHandles P s (.conditionalDelete v i a sent ifMatch) rep
        (s.deleteGuarded v i a sent ifMatch)

/-- Executions against the service. Between two requests of the client anything may happen to the
    rows and the revisions. -/
abbrev AttachmentExec (P : Parsers) {α : Type} :
    AttachmentClient α → AttachmentStore A sha256 →
      List (Event (AttachmentStore A sha256) AttachmentCall HttpReply) → ResolverResult α →
      AttachmentStore A sha256 → Prop :=
  Exec (AttachmentHandles P) (fun _ _ => True)

end Service

/-! ## Guarded deletions -/

section Deletion

variable {A : Aead} {sha256 : Bytes → FixedBytes 32} {P : Parsers} {v i a : Uuid}

/-- The transaction changes nothing but the named row, which it removes if the row holds the bytes
    that were sent. -/
theorem AttachmentStore.deleteGuarded_rows {s : AttachmentStore A sha256} {sent : String}
    {ifMatch : ItemRevision} {v' i' a' : Uuid}
    (h : (s.deleteGuarded v i a sent ifMatch).rows v' i' a' ≠ s.rows v' i' a') :
    (v', i', a') = (v, i, a) ∧ (s.deleteGuarded v i a sent ifMatch).rows v i a = none ∧
      ∃ row, s.rows v i a = some row ∧ row.holds sent = true := by
  cases hdecide : s.decideDeletion v i a sent ifMatch with
  | deleted =>
      rw [deleteGuarded_of_deleted hdecide] at h ⊢
      by_cases hkey : (v', i', a') = (v, i, a)
      · refine ⟨hkey, s.remove_rows_self v i a, ?_⟩
        -- Only a row that holds the bytes leads to this decision.
        unfold decideDeletion at hdecide
        split at hdecide
        · cases hdecide
        · cases hrow : s.rows v i a with
          | none => simp [hrow] at hdecide
          | some row =>
              refine ⟨row, rfl, ?_⟩
              by_contra hholds
              simp [hrow, hholds] at hdecide
      · exact absurd (if_neg hkey) h
  | alreadyAbsent | mismatch | stale =>
      unfold deleteGuarded at h
      rw [hdecide] at h
      exact absurd rfl h

/-- A row that holds a ciphertext that opens to a digest has the file of that digest. -/
theorem StoredAttachment.file_of_holds (hA : A.Ideal) {row : StoredAttachment A sha256 i a}
    {sent : String} {ciphertext : Bytes} {key : AttachmentKey} {expected : FixedBytes 32}
    (hholds : row.holds sent = true) (hsent : Base64.decode sent = some ciphertext)
    (hopen : decryptDigest A key i.toBytes a.toBytes ciphertext = .ok expected) :
    sha256 row.file = expected := by
  unfold holds at hholds
  have huploaded := row.uploaded
  cases htext : row.record.digestCiphertext with
  | none => simp [htext] at hholds
  | some text =>
      rw [htext] at huploaded hholds
      obtain ⟨sealKey, nonce, hstored⟩ := huploaded.digest
      rw [Option.bind_some, hstored, hsent] at hholds
      rw [← eq_of_beq hholds] at hopen
      exact (decryptDigest_encryptDigest_ok hA hopen).symm

/-- The requests of a guarded deletion: a listing, and a deletion that names a ciphertext of the
    expected digest. -/
def DeletionRequest (A : Aead) (v i a : Uuid) (expected : FixedBytes 32) (ifMatch : ItemRevision) :
    AttachmentCall → Prop
  | .listAttachments v' i' => v' = v ∧ i' = i
  | .conditionalDelete v' i' a' sent r => v' = v ∧ i' = i ∧ a' = a ∧ r = ifMatch ∧
      ∃ ciphertext key, Base64.decode sent = some ciphertext ∧
        decryptDigest A key i.toBytes a.toBytes ciphertext = .ok expected
  | _ => False

/-- Whatever the service lists, the deletion names a ciphertext of the expected digest. -/
theorem conditionalDeleteAttachment_meets (hA : A.Ideal) {draw : ThrowawayDraw}
    {vaultKey : VaultKey} {expected : FixedBytes 32} {ifMatch : ItemRevision} :
    (conditionalDeleteAttachment A P draw v i a vaultKey expected ifMatch).Meets
      (DeletionRequest A v i a expected ifMatch) (fun _ => True) := by
  unfold conditionalDeleteAttachment
  refine Client.Meets.bind (R := fun listed => ∀ entry ∈ listed,
    attachmentSummary A P vaultKey i entry.1 = .ok entry.2) ?_ ?_
  · unfold listAttachmentRecords callWithOptions
    refine Client.Meets.bind (R := fun _ => True) (Client.meets_ask ⟨rfl, rfl⟩ fun _ _ _ => trivial) ?_
    intro value _
    refine Client.Meets.bind (R := fun _ => True) (Client.meets_ofExcept fun _ _ => trivial) ?_
    intro records _
    exact Client.meets_ofExcept fun listed hlisted => openRecords_summary hlisted
  · intro listed hlisted
    have hrequest : DeletionRequest A v i a expected ifMatch (.conditionalDelete v i a
        (expectedDigestCiphertext A draw i a expected listed) ifMatch) :=
      ⟨rfl, rfl, rfl, rfl, expectedDigestCiphertext_opens hA hlisted⟩
    exact Client.Meets.bind (R := fun _ => True) (Client.meets_ask hrequest fun _ _ _ => trivial)
      fun _ _ => Client.meets_ofExcept fun _ _ => trivial

/-- How the client comes to each outcome of a deletion. -/
theorem deletionOutcome_cases {result : ResolverResult Json}
    {write : AttachmentWrite AttachmentDeleteOutcome} (h : deletionOutcome P result = .ok write) :
    (∃ value response, result = .ok value ∧
      ConditionalDeleteResponse.ofJson value = some response ∧
      write.outcome = response.state.outcome) ∨
    (∃ text, result = .error (.serverError 412 text) ∧ write.outcome = .stale) ∨
    (∃ text value, result = .error (.serverError 409 text) ∧ P.json (utf8 text) = some value ∧
      errorKind value = some "attachment_digest_mismatch" ∧ write.outcome = .mismatch) := by
  cases result with
  | ok value =>
      simp only [deletionOutcome, Except.bind_eq_ok, orMalformed_eq_ok, Except.pure_eq_ok] at h
      obtain ⟨response, hresponse, revision, -, rfl⟩ := h
      exact .inl ⟨value, response, rfl, hresponse, rfl⟩
  | error error =>
      simp only [deletionOutcome] at h
      split at h
      · rename_i hstale
        cases h
        cases error with
        | serverError got text =>
            have hgot : got = 412 := eq_of_beq hstale
            exact .inr (.inl ⟨text, by rw [hgot], rfl⟩)
        | _ => cases hstale
      · split at h
        · rename_i hcoded
          cases h
          obtain ⟨text, value, rfl, hvalue, hkind⟩ := isCodedServerError_iff.mp hcoded
          exact .inr (.inr ⟨text, value, rfl, hvalue, hkind, rfl⟩)
        · cases h

/-- A refusal that the client takes for stale or mismatched is a decision of the service. -/
theorem Refuses.isDecision (hP : P.Faithful) {status : UInt16} {body : Option Json}
    {rep : HttpReply} {cap : ℕ} (h : Refuses P status body rep) :
    (∀ text, readReply P cap rep = .error (.serverError 412 text) → status = 412) ∧
    (∀ text value, readReply P cap rep = .error (.serverError 409 text) →
      P.json (utf8 text) = some value → errorKind value = some "attachment_digest_mismatch" →
      status = 409 ∧ body.bind errorKind = some "attachment_digest_mismatch") := by
  constructor
  · intro text hread
    exact (h.of_serverError hP hread).1.symm
  · intro text value hread hvalue hkind
    obtain ⟨hstatus, hsame⟩ := h.of_serverError hP hread
    obtain ⟨sent, rfl, hsent⟩ := hsame value hvalue
    exact ⟨hstatus.symm, by rw [Option.bind_some, ← hsent, hkind]⟩

/-- There is no outcome without a reply. -/
theorem Lost.deletionOutcome_ne_ok {rep : HttpReply} {cap : ℕ} (h : Lost rep)
    (write : AttachmentWrite AttachmentDeleteOutcome) :
    deletionOutcome P (readReply P cap rep) ≠ .ok write := by
  intro houtcome
  rcases deletionOutcome_cases houtcome with ⟨value, _, hread, -⟩ | ⟨text, hread, -⟩ |
    ⟨text, _, hread, -⟩
  · exact h.readReply_ne_ok value hread
  · exact h.readReply_ne_serverError 412 text hread
  · exact h.readReply_ne_serverError 409 text hread

/-- The outcome of a success is the state it reports. -/
theorem Answers.outcome_eq {rep : HttpReply} {cap : ℕ} {state : ConditionalDeleteState}
    {revision : String} {write : AttachmentWrite AttachmentDeleteOutcome}
    (h : Answers P (fun payload =>
      ConditionalDeleteResponse.ofJson payload = some ⟨state, revision⟩) rep)
    (houtcome : deletionOutcome P (readReply P cap rep) = .ok write) :
    write.outcome = state.outcome := by
  rcases deletionOutcome_cases houtcome with ⟨value, response, hread, hresponse, hwrite⟩ |
    ⟨text, hread, -⟩ | ⟨text, _, hread, -⟩
  · cases hresponse.symm.trans (h.of_readReply hread)
    exact hwrite
  · exact absurd hread (h.readReply_ne_serverError 412 text)
  · exact absurd hread (h.readReply_ne_serverError 409 text)

/-- What the client makes of a report is what was reported. -/
theorem Reports.outcome_eq (hP : P.Faithful) {revision : ItemRevision} {rep : HttpReply} {cap : ℕ}
    {decision : AttachmentDeleteOutcome} {write : AttachmentWrite AttachmentDeleteOutcome}
    (h : Reports P revision rep decision)
    (houtcome : deletionOutcome P (readReply P cap rep) = .ok write) :
    write.outcome = decision := by
  cases decision with
  | deleted => exact Answers.outcome_eq h houtcome
  | alreadyAbsent => exact Answers.outcome_eq h houtcome
  | mismatch =>
      rcases h with hlost | ⟨body, hrefuses, -⟩
      · exact absurd houtcome (hlost.deletionOutcome_ne_ok write)
      · rcases deletionOutcome_cases houtcome with ⟨value, _, hread, -⟩ | ⟨text, hread, -⟩ |
          ⟨text, value, hread, hvalue, hkind, hwrite⟩
        · exact absurd hread (hrefuses.readReply_ne_ok value)
        · exact absurd ((hrefuses.isDecision hP).1 text hread) (by decide)
        · exact hwrite
  | stale =>
      rcases h with hlost | ⟨body, hrefuses⟩
      · exact absurd houtcome (hlost.deletionOutcome_ne_ok write)
      · rcases deletionOutcome_cases houtcome with ⟨value, _, hread, -⟩ | ⟨text, hread, hwrite⟩ |
          ⟨text, value, hread, hvalue, hkind, -⟩
        · exact absurd hread (hrefuses.readReply_ne_ok value)
        · exact hwrite
        · exact absurd ((hrefuses.isDecision hP).2 text value hread hvalue hkind).1 (by decide)

/-- If the client comes to an outcome, the deletion took place, and the outcome is its decision. -/
theorem AttachmentHandles.outcome_eq (hP : P.Faithful) {s t : AttachmentStore A sha256}
    {sent : String} {ifMatch : ItemRevision} {rep : HttpReply} {cap : ℕ}
    {write : AttachmentWrite AttachmentDeleteOutcome}
    (h : AttachmentHandles P s (.conditionalDelete v i a sent ifMatch) rep t)
    (houtcome : deletionOutcome P (readReply P cap rep) = .ok write) :
    t = s.deleteGuarded v i a sent ifMatch ∧
      write.outcome = s.decideDeletion v i a sent ifMatch := by
  cases h with
  | refused hrep hother =>
      -- A refusal that the client takes for an outcome has the status and the kind of a decision.
      exfalso
      apply hother v i a sent ifMatch rfl
      rcases deletionOutcome_cases houtcome with ⟨value, _, hread, -⟩ | ⟨text, hread, -⟩ |
        ⟨text, value, hread, hvalue, hkind, -⟩
      · exact absurd hread (hrep.readReply_ne_ok value)
      · exact .inl ((hrep.isDecision hP).1 text hread)
      · exact .inr ((hrep.isDecision hP).2 text value hread hvalue hkind)
  | undelivered hrep => exact absurd houtcome (hrep.deletionOutcome_ne_ok write)
  | conditionalDelete _ hrep => exact ⟨rfl, hrep.outcome_eq hP houtcome⟩

end Deletion

/-- **A guarded deletion removes only the expected file.** Whatever others do between the listing and
    the deletion, the requests of the client change no row except that they may remove the named one,
    and only if the digest of its file is the expected one. The outcome, if there is one, is what the
    service has decided in the transaction of the deletion. -/
theorem conditional_delete_guarded {A : Aead} (hA : A.Ideal) {sha256 : Bytes → FixedBytes 32}
    {P : Parsers} (hP : P.Faithful) {draw : ThrowawayDraw} {v i a : Uuid} {vaultKey : VaultKey}
    {expected : FixedBytes 32} {ifMatch : ItemRevision} {s u : AttachmentStore A sha256}
    {es : List (Event (AttachmentStore A sha256) AttachmentCall HttpReply)}
    {result : ResolverResult (AttachmentWrite AttachmentDeleteOutcome)}
    (hexec : AttachmentExec P (conditionalDeleteAttachment A P draw v i a vaultKey expected ifMatch)
      s es result u) :
    (∀ before request rep after, .served before request rep after ∈ es →
      ∀ v' i' a', after.rows v' i' a' ≠ before.rows v' i' a' →
        (v', i', a') = (v, i, a) ∧ after.rows v i a = none ∧
        ∃ row, before.rows v i a = some row ∧ sha256 row.file = expected) ∧
    (∀ write, result = .ok write → ∃ before sent rep after,
      .served before (.conditionalDelete v i a sent ifMatch) rep after ∈ es ∧
      after = before.deleteGuarded v i a sent ifMatch ∧
      write.outcome = before.decideDeletion v i a sent ifMatch) := by
  constructor
  · intro before request rep after hmem v' i' a' hchanged
    obtain ⟨hhandles, hrequest⟩ :=
      hexec.served_of_meets (conditionalDeleteAttachment_meets hA) hmem
    cases hhandles with
    | refused | undelivered | listAttachments | getAttachment => exact absurd rfl hchanged
    | createAttachment | deleteAttachment => exact hrequest.elim
    | conditionalDelete hrevision hrep =>
        -- The bytes come from the listing or are the client's own seal; both open to `expected`.
        obtain ⟨rfl, rfl, rfl, rfl, ciphertext, key, hsent, hopen⟩ := hrequest
        obtain ⟨hkey, hnone, row, hrow, hholds⟩ := AttachmentStore.deleteGuarded_rows hchanged
        exact ⟨hkey, hnone, row, hrow, row.file_of_holds hA hholds hsent hopen⟩
  · rintro write rfl
    unfold conditionalDeleteAttachment at hexec
    obtain ⟨esList, esDelete, listed, t, hes, -, hdelete⟩ := hexec.bind_ok
    simp only [callWithOptions, Client.attempt_ask] at hdelete
    obtain ⟨pre, before, rep, after, post, read, hesDelete, -, hhandles, hread, hrest⟩ :=
      hdelete.ask_bind_ok
    obtain ⟨hwrite, -⟩ := Exec.done_inv hrest
    cases hread
    refine ⟨before, _, rep, after, ?_, hhandles.outcome_eq hP hwrite.symm⟩
    rw [hes, hesDelete]
    simp

/-! ### A file that is deleted -/

/-- SHA-256 of the empty file. -/
def emptyDigest : FixedBytes 32 :=
  ⟨[0xe3, 0xb0, 0xc4, 0x42, 0x98, 0xfc, 0x1c, 0x14, 0x9a, 0xfb, 0xf4, 0xc8, 0x99, 0x6f, 0xb9, 0x24,
    0x27, 0xae, 0x41, 0xe4, 0x64, 0x9b, 0x93, 0x4c, 0xa4, 0x95, 0x99, 0x1b, 0x78, 0x52, 0xb8, 0x55],
    rfl⟩

/-- A digest function that is right about the empty file. -/
def emptySha256 (_ : Bytes) : FixedBytes 32 := emptyDigest

def fileDraw : UploadDraw where
  key := ⟨.replicate 32 4⟩
  filenameNonce := .replicate 24 0
  contentTypeNonce := .replicate 24 0
  keyNonce := .replicate 24 0
  digestNonce := .replicate 24 0
  blobNonce := .replicate 24 0

def fileUpload : AttachmentUpload := ⟨"empty.txt", none, []⟩

/-- The upload of an empty file as attachment 5 of item 2. -/
def fileRequest : AttachmentRequest where
  attachmentId := .replicate 16 5
  blob := Base64.encode (encryptBlob .transparent ⟨.replicate 32 4⟩
    (FixedBytes.replicate 16 2).toBytes (FixedBytes.replicate 16 5).toBytes (.replicate 24 0) [])
  filenameCiphertext := Base64.encode (encryptFilename .transparent ⟨.replicate 32 3⟩
    (FixedBytes.replicate 16 2).toBytes (FixedBytes.replicate 16 5).toBytes (.replicate 24 0)
    "empty.txt")
  contentTypeCiphertext := Base64.encode (encryptContentType .transparent ⟨.replicate 32 3⟩
    (FixedBytes.replicate 16 2).toBytes (FixedBytes.replicate 16 5).toBytes (.replicate 24 0) "")
  wrappedContentKey := Base64.encode (wrapAttachmentKey .transparent ⟨.replicate 32 3⟩
    (FixedBytes.replicate 16 2).toBytes (FixedBytes.replicate 16 5).toBytes (.replicate 24 0)
    ⟨.replicate 32 4⟩)
  digestCiphertext := some (Base64.encode (encryptDigest .transparent ⟨.replicate 32 4⟩
    (FixedBytes.replicate 16 2).toBytes (FixedBytes.replicate 16 5).toBytes (.replicate 24 0)
    emptyDigest))

theorem buildAttachmentRequest_fileRequest :
    buildAttachmentRequest .transparent fileDraw ⟨.replicate 32 3⟩ (.replicate 16 2)
      (.replicate 16 5) fileUpload (some emptyDigest) = .ok fileRequest := rfl

def fileRecord : AttachmentRecord where
  attachmentId := .replicate 16 5
  itemId := .replicate 16 2
  filenameCiphertext := fileRequest.filenameCiphertext
  contentTypeCiphertext := fileRequest.contentTypeCiphertext
  wrappedContentKey := fileRequest.wrappedContentKey
  sizeBytes := 42
  createdAt := "2026-07-17T10:11:12Z"
  digestCiphertext := fileRequest.digestCiphertext

def fileSummary : AttachmentSummary where
  attachmentId := .replicate 16 5
  itemId := .replicate 16 2
  filename := "empty.txt"
  contentType := none
  sizeBytes := 0
  encryptedSizeBytes := 42
  createdAt := ⟨"2026-07-17T10:11:12Z"⟩
  sha256 := some emptyDigest

theorem attachmentSummary_fileRecord :
    attachmentSummary .transparent .compact ⟨.replicate 32 3⟩ (.replicate 16 2) fileRecord
      = .ok fileSummary := by
  have hholds : fileRecord.Holds (.replicate 16 2) fileRequest := by constructor <;> rfl
  have hsize : encryptedSize fileRecord.sizeBytes = .ok 42 := rfl
  have htime : ServiceTimestamp.new .compact fileRecord.createdAt
      = .ok ⟨"2026-07-17T10:11:12Z"⟩ := rfl
  refine attachmentSummary_uploaded Aead.transparent_ideal.correct buildAttachmentRequest_fileRequest
    hholds hsize htime ?_ ?_ ?_ ?_
  · decide +kernel
  · decide +kernel
  · decide +kernel
  · intro d hd
    cases hd
    decide +kernel

def fileRow : StoredAttachment .transparent emptySha256 (.replicate 16 2) (.replicate 16 5) where
  record := fileRecord
  blob := fileRequest.blob
  file := []
  uploaded := .guarded rfl buildAttachmentRequest_fileRequest

/-- The store that holds the file as the only row. -/
def fileStore : AttachmentStore .transparent emptySha256 where
  revision _ _ := some ⟨"2026-01-01T00:00:00Z"⟩
  rows _ i a :=
    if h : i = .replicate 16 2 ∧ a = .replicate 16 5 then
      some (by
        obtain ⟨rfl, rfl⟩ := h
        exact fileRow)
    else none

theorem fileStore_rows :
    fileStore.rows (.replicate 16 1) (.replicate 16 2) (.replicate 16 5) = some fileRow := rfl

/-- The listing of the file, and the report of its deletion. -/
def fileListing : Json := .arr [fileRecord.toJson]

def deletedJson : Json :=
  .obj [("state", .str "deleted"), ("item_updated_at", .str "2026-01-01T00:00:00Z")]

theorem bare_fileListing : Bare fileListing := ⟨rfl, rfl, rfl⟩

theorem bare_deletedJson : Bare deletedJson := by
  simp [Bare, deletedJson, Json.get?]

theorem readReply_fileListing :
    readReply .compact maxGatewayBody (directReply fileListing) = .ok fileListing := by
  apply readReply_directReply bare_fileListing
  simp only [fileListing, AttachmentRecord.toJson, fileRecord, fileRequest, Json.uuid, Json.orNull,
    Json.int, Json.write, Json.writeElems, Json.writeMembers, writeString, Base64.utf8_encode]
  decide +kernel

theorem readReply_deletedJson :
    readReply .compact maxGatewayBody (directReply deletedJson) = .ok deletedJson :=
  readReply_directReply bare_deletedJson (by decide +kernel)

theorem attachmentRecordsOfJson_fileListing :
    attachmentRecordsOfJson fileListing = some [fileRecord] := by
  have hrecord : AttachmentRecord.ofJson fileRecord.toJson = some fileRecord :=
    AttachmentRecord.ofJson_toJson (by decide)
  simp [attachmentRecordsOfJson, fileListing, hrecord]

theorem handles_fileListing :
    AttachmentHandles .compact fileStore (.listAttachments (.replicate 16 1) (.replicate 16 2))
      (directReply fileListing) fileStore := by
  refine .listAttachments (.inr ⟨_, delivers_directReply bare_fileListing, ?_⟩)
  intro records hrecords record
  cases hrecords.symm.trans attachmentRecordsOfJson_fileListing
  rw [List.mem_singleton]
  constructor
  · rintro rfl
    exact ⟨.replicate 16 5, fileRow, fileStore_rows, rfl⟩
  · rintro ⟨a, row, hrow, rfl⟩
    by_cases ha : a = .replicate 16 5
    · subst ha
      rw [fileStore_rows] at hrow
      rw [← Option.some.inj hrow]
      rfl
    · have hnone : fileStore.rows (.replicate 16 1) (.replicate 16 2) a = none :=
        dif_neg fun h => ha h.2
      rw [hnone] at hrow
      cases hrow

/-- The digest ciphertext of the file. -/
def fileDigestText : String :=
  Base64.encode (encryptDigest .transparent ⟨.replicate 32 4⟩ (FixedBytes.replicate 16 2).toBytes
    (FixedBytes.replicate 16 5).toBytes (.replicate 24 0) emptyDigest)

theorem fileRow_holds : fileRow.holds fileDigestText = true :=
  StoredAttachment.holds_self rfl (Base64.decode_encode _)

theorem decideDeletion_file :
    fileStore.decideDeletion (.replicate 16 1) (.replicate 16 2) (.replicate 16 5) fileDigestText
      ⟨"2026-01-01T00:00:00Z"⟩ = .deleted := by
  have hrevision : fileStore.revision (.replicate 16 1) (.replicate 16 2)
      = some ⟨"2026-01-01T00:00:00Z"⟩ := rfl
  simp [AttachmentStore.decideDeletion, hrevision, fileStore_rows, fileRow_holds]

theorem handles_deletion :
    AttachmentHandles .compact fileStore (.conditionalDelete (.replicate 16 1) (.replicate 16 2)
      (.replicate 16 5) fileDigestText ⟨"2026-01-01T00:00:00Z"⟩) (directReply deletedJson)
      (fileStore.deleteGuarded (.replicate 16 1) (.replicate 16 2) (.replicate 16 5) fileDigestText
        ⟨"2026-01-01T00:00:00Z"⟩) := by
  refine .conditionalDelete rfl ?_
  rw [decideDeletion_file]
  exact .inr ⟨_, delivers_directReply bare_deletedJson, rfl⟩

/-- The deletion of the file. -/
def deleteFile (P : Parsers) : AttachmentClient (AttachmentWrite AttachmentDeleteOutcome) :=
  conditionalDeleteAttachment .transparent P ⟨⟨.replicate 32 8⟩, .replicate 24 0⟩ (.replicate 16 1)
    (.replicate 16 2) (.replicate 16 5) ⟨.replicate 32 3⟩ emptyDigest ⟨"2026-01-01T00:00:00Z"⟩

def deleteEvents : List (Event (AttachmentStore .transparent emptySha256) AttachmentCall HttpReply) :=
  [.served fileStore (.listAttachments (.replicate 16 1) (.replicate 16 2))
      (directReply fileListing) fileStore,
    .served fileStore (.conditionalDelete (.replicate 16 1) (.replicate 16 2) (.replicate 16 5)
      fileDigestText ⟨"2026-01-01T00:00:00Z"⟩) (directReply deletedJson)
      (fileStore.deleteGuarded (.replicate 16 1) (.replicate 16 2) (.replicate 16 5) fileDigestText
        ⟨"2026-01-01T00:00:00Z"⟩)]

theorem exec_deleteFile :
    AttachmentExec .compact (deleteFile .compact) fileStore deleteEvents
      (.ok ⟨.deleted, some ⟨"2026-01-01T00:00:00Z"⟩⟩)
      (fileStore.deleteGuarded (.replicate 16 1) (.replicate 16 2) (.replicate 16 5) fileDigestText
        ⟨"2026-01-01T00:00:00Z"⟩) := by
  have hopen : openRecords .transparent .compact ⟨.replicate 32 3⟩ (.replicate 16 2) [] 0
      [fileRecord] = .ok [(fileRecord, fileSummary)] := by
    unfold openRecords
    rw [attachmentSummary_fileRecord]
    rfl
  have hlist : AttachmentExec .compact (listAttachmentRecords .transparent .compact
      (.replicate 16 1) (.replicate 16 2) ⟨.replicate 32 3⟩) fileStore
      [.served fileStore (.listAttachments (.replicate 16 1) (.replicate 16 2))
        (directReply fileListing) fileStore] (.ok [(fileRecord, fileSummary)]) fileStore :=
    Exec.ask_bind handles_fileListing readReply_fileListing (Exec.ofExcept_bind
      (orMalformed_eq_ok.mpr attachmentRecordsOfJson_fileListing) (Exec.ofExcept hopen))
  have hnamed : expectedDigestCiphertext .transparent ⟨⟨.replicate 32 8⟩, .replicate 24 0⟩
      (.replicate 16 2) (.replicate 16 5) emptyDigest [(fileRecord, fileSummary)]
      = fileDigestText := rfl
  have houtcome : deletionOutcome .compact (.ok deletedJson)
      = .ok ⟨.deleted, some ⟨"2026-01-01T00:00:00Z"⟩⟩ := rfl
  refine Exec.bind hlist ?_
  rw [hnamed]
  exact Exec.ask_bind handles_deletion (congrArg Except.ok readReply_deletedJson)
    (Exec.ofExcept houtcome)

/-- The row that the deletion removes has the expected file. -/
theorem conditional_delete_guarded_file :
    AttachmentExec .compact (deleteFile .compact) fileStore deleteEvents
      (.ok ⟨.deleted, some ⟨"2026-01-01T00:00:00Z"⟩⟩)
      (fileStore.deleteGuarded (.replicate 16 1) (.replicate 16 2) (.replicate 16 5) fileDigestText
        ⟨"2026-01-01T00:00:00Z"⟩) ∧
    ∃ row, fileStore.rows (.replicate 16 1) (.replicate 16 2) (.replicate 16 5) = some row ∧
      emptySha256 row.file = emptyDigest := by
  refine ⟨exec_deleteFile, ?_⟩
  have hguarded := (conditional_delete_guarded Aead.transparent_ideal Parsers.compact_faithful
    exec_deleteFile).1
  refine (hguarded fileStore _ _ _ (List.mem_cons_of_mem _ List.mem_cons_self) (.replicate 16 1)
    (.replicate 16 2) (.replicate 16 5) ?_).2.2
  have hremoved : (fileStore.deleteGuarded (.replicate 16 1) (.replicate 16 2) (.replicate 16 5)
      fileDigestText ⟨"2026-01-01T00:00:00Z"⟩).rows (.replicate 16 1) (.replicate 16 2)
      (.replicate 16 5) = none := by
    rw [AttachmentStore.deleteGuarded_of_deleted decideDeletion_file]
    exact fileStore.remove_rows_self _ _ _
  rw [hremoved, fileStore_rows]
  exact (Option.some_ne_none _).symm

end SerenSecrets
