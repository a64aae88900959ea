import SerenSecrets.Resolver.AttachmentListing
import SerenSecrets.Resolver.Metered

set_option autoImplicit false

/-! # What guarded attachment writes report

A guarded upload and a guarded deletion report a revision of the parent item with some of their
outcomes. A later write is guarded by that revision, so it must be the one that the service gave in
the very reply that decided the outcome. This holds in every execution, whatever the service replies
and whatever else happens to it (`guarded_writes_report_confirmed`): the revision of an upload comes
from the created record or from the refusal of a duplicate, and that of a deletion from its own
response. A listing can only decide whether a duplicate is the same file. -/

namespace SerenSecrets

/-! ## The body of a refusal -/

/-- A refusal with the JSON value of its error body, directly or in the metered envelope. -/
inductive RefusedWith (P : Parsers) (body : Json) : HttpReply → Prop
  | direct {status : UInt16} {chunks : List Bytes} {broken : Option TransportErrorKind}
      (hstatus : ¬ isSuccess status)
      (hbody : P.json (utf8 (fromUtf8Lossy chunks.flatten)) = some body) :
      RefusedWith P body (.response status chunks broken)
  | metered {status : UInt16} {chunks : List Bytes} {value outer : Json} {inner : ℕ}
      (hstatus : isSuccess status) (hvalue : P.json chunks.flatten = some value)
      (houter : value.get? "data" = some outer)
      (hinner : (outer.get? "status").bind Json.asU64? = some inner)
      (hrefusal : ¬ (200 ≤ inner ∧ inner < 300)) (hbody : body = refusalBody outer) :
      RefusedWith P body (.response status chunks none)

/-- What an envelope makes the client fail with is said by the refusal in it. -/
theorem unwrapMetered_eq_serverError {value : Json} {status : UInt16} {text : String}
    (h : unwrapMetered value = .error (.serverError status text)) :
    ∃ outer inner, value.get? "data" = some outer ∧
      (outer.get? "status").bind Json.asU64? = some inner ∧ ¬ (200 ≤ inner ∧ inner < 300) ∧
      text = truncateErrorBody (refusalBody outer).toText := by
  cases houter : value.get? "data" with
  | none => simp [unwrapMetered, houter] at h
  | some outer =>
      cases hinner : (outer.get? "status").bind Json.asU64? with
      | none => simp [unwrapMetered, houter, hinner] at h
      | some inner =>
          by_cases hsuccess : 200 ≤ inner ∧ inner < 300
          · simp [unwrapMetered, houter, hinner, hsuccess] at h
          · rw [unwrapMetered_refusal houter hinner hsuccess] at h
            refine ⟨outer, inner, rfl, hinner, hsuccess, ?_⟩
            split at h
            · cases h
            · obtain ⟨-, htext⟩ := ResolverError.serverError.inj (Except.error.inj h)
              exact htext.symm

/-- Where the body of a server error can be read, the reply was a refusal, and its own body has the
    same texts. -/
theorem refusedWith_of_serverError {P : Parsers} (hP : P.Faithful) {cap : ℕ} {rep : HttpReply}
    {status : UInt16} {text : String} {again : Json}
    (hread : readReply P cap rep = .error (.serverError status text))
    (hagain : P.json (utf8 text) = some again) :
    ∃ body, RefusedWith P body rep ∧ ∀ key, errorText key again = errorText key body := by
  cases rep with
  | failed kind => simp [readReply] at hread
  | response outerStatus chunks broken =>
      by_cases hsuccess : isSuccess outerStatus
      · obtain ⟨rfl, value, hvalue, hunwrap⟩ := readReply_success_error hsuccess hread
        obtain ⟨outer, inner, houter, hinner, hrefusal, rfl⟩ := unwrapMetered_eq_serverError hunwrap
        refine ⟨_, .metered hsuccess hvalue houter hinner hrefusal rfl, ?_⟩
        rw [hP.truncateErrorBody_eq hagain] at hagain
        exact errorText_congr (hP.envelopeBody_agrees hvalue houter hagain)
      · simp only [readReply, if_neg hsuccess] at hread
        split at hread
        · cases hread
        · obtain ⟨rfl, rfl⟩ := ResolverError.serverError.inj (Except.error.inj hread)
          rw [hP.truncateErrorBody_eq hagain] at hagain
          rw [hP.readCappedText_eq hagain] at hagain
          exact ⟨again, .direct hsuccess hagain, fun _ => rfl⟩

/-! ## What is confirmed -/

section Confirmed

variable (A : Aead) (sha256 : Bytes → FixedBytes 32) (P : Parsers)

/-- The record of a listing is the same file as the upload, under the same id. -/
structure SameFile (vaultKey : VaultKey) (itemId attachmentId : Uuid) (upload : AttachmentUpload)
    (record : AttachmentRecord) (summary : AttachmentSummary) : Prop where
  opens : attachmentSummary A P vaultKey itemId record = .ok summary
  attachmentId : record.attachmentId = attachmentId
  sha256 : summary.sha256 = some (sha256 upload.bytes)
  filename : summary.filename = upload.filename
  sizeBytes : summary.sizeBytes = upload.bytes.length

/-- The outcome of an upload, as the service confirmed it: `own` is the reply to the write itself,
    `later` what was asked after it. -/
structure PutConfirmed (vaultId itemId attachmentId : Uuid) (vaultKey : VaultKey)
    (upload : AttachmentUpload) (own : HttpReply) (later : List (AttachmentCall × HttpReply))
    (write : AttachmentWrite AttachmentPutOutcome) : Prop where
  revision_iff : write.itemUpdatedAt.isSome ↔
    (∃ summary, write.outcome = .created summary) ∨ write.outcome = .alreadyPresent
  created : ∀ summary, write.outcome = .created summary → ∃ payload response,
    readReply P maxGatewayBody own = .ok payload ∧
    CreatedAttachment.ofJson payload = some response ∧
    write.itemUpdatedAt = some ⟨response.itemUpdatedAt⟩ ∧
    response.record.attachmentId = attachmentId ∧
    attachmentSummary A P vaultKey itemId response.record = .ok summary ∧
    summary.sizeBytes = upload.bytes.length ∧ summary.sha256 = some (sha256 upload.bytes)
  alreadyPresent : write.outcome = .alreadyPresent → ∃ body object text,
    RefusedWith P body own ∧ errorObject body = some object ∧
    object.get? "kind" = some (.str "attachment_already_exists") ∧
    object.get? "item_updated_at" = some (.str text) ∧ write.itemUpdatedAt = some ⟨text⟩ ∧
    ∃ listing value records, later = [(.listAttachments vaultId itemId, listing)] ∧
      readReply P maxGatewayBody listing = .ok value ∧
      attachmentRecordsOfJson value = some records ∧
      ∃ record ∈ records, ∃ summary,
        SameFile A sha256 P vaultKey itemId attachmentId upload record summary

/-- The outcome of a deletion, as its own reply confirmed it. -/
structure DeleteConfirmed (own : HttpReply) (write : AttachmentWrite AttachmentDeleteOutcome) :
    Prop where
  revision_iff : write.itemUpdatedAt.isSome ↔
    write.outcome = .deleted ∨ write.outcome = .alreadyAbsent
  response : ∀ revision, write.itemUpdatedAt = some revision → ∃ payload response,
    readReply P maxGatewayBody own = .ok payload ∧
    ConditionalDeleteResponse.ofJson payload = some response ∧
    revision.asStr = response.itemUpdatedAt ∧ write.outcome = response.state.outcome

end Confirmed

/-! ## Reading the own reply -/

section Own

variable {A : Aead} {sha256 : Bytes → FixedBytes 32} {P : Parsers} {vaultKey : VaultKey}
  {vaultId itemId attachmentId : Uuid} {upload : AttachmentUpload}

theorem parseItemUpdatedAt_eq_ok {value : String} {revision : ItemRevision}
    (h : parseItemUpdatedAt P value = .ok revision) : revision = ⟨value⟩ := by
  rw [parseItemUpdatedAt, orMalformed_eq_ok, Except.toOption_eq_some, ItemRevision.new] at h
  split at h
  · exact (Except.ok.inj h).symm
  · cases h

/-- The parent revision of a duplicate is that of the refusal. -/
theorem duplicateRevision_eq_ok {error : ResolverError} {revision : ItemRevision}
    (h : duplicateRevision P error = .ok revision) :
    ∃ text again, error = .serverError 409 text ∧ P.json (utf8 text) = some again ∧
      errorText "item_updated_at" again = some revision.asStr := by
  simp only [duplicateRevision, Except.bind_eq_ok, orMalformed_eq_ok] at h
  obtain ⟨details, hdetails, value, hvalue, hrevision⟩ := h
  obtain rfl := parseItemUpdatedAt_eq_ok hrevision
  cases error with
  | serverError got text =>
      rw [codedServerError, Option.filter_eq_some_iff, Option.bind_eq_some_iff] at hdetails
      obtain ⟨⟨again, hagain, hobject⟩, hmatch⟩ := hdetails
      rw [Bool.and_eq_true, beq_iff_eq] at hmatch
      obtain ⟨rfl, -⟩ := hmatch
      refine ⟨text, again, rfl, hagain, ?_⟩
      rw [errorText, hobject, Option.bind_some, hvalue]
  | _ => cases hdetails

theorem acceptCreated_confirmed {own : HttpReply} {payload : Json}
    {write : AttachmentWrite AttachmentPutOutcome}
    (hown : readReply P maxGatewayBody own = .ok payload)
    (h : acceptCreated A P vaultKey itemId attachmentId (sha256 upload.bytes) upload.bytes.length
      payload = .ok write) :
    PutConfirmed A sha256 P vaultId itemId attachmentId vaultKey upload own [] write := by
  simp only [acceptCreated, Except.bind_eq_ok, orMalformed_eq_ok, rejectIf_eq_ok,
    Except.pure_eq_ok, exists_const, ne_eq, not_not] at h
  obtain ⟨response, hresponse, hid, summary, hsummary, hsize, hdigest, revision, hrevision, rfl⟩ := h
  obtain rfl := parseItemUpdatedAt_eq_ok hrevision
  obtain ⟨-, -, -, hplain⟩ := attachmentSummary_facts hsummary
  refine ⟨by simp, ?_, ?_⟩
  · intro summary' hcreated
    obtain rfl := AttachmentPutOutcome.created.inj hcreated
    exact ⟨payload, response, hown, hresponse, rfl, hid, hsummary, by omega, hdigest⟩
  · intro hpresent
    cases hpresent

/-- An outcome without a revision claims nothing. -/
theorem putConfirmed_none {own : HttpReply} {later : List (AttachmentCall × HttpReply)}
    {outcome : AttachmentPutOutcome} (hcreated : ∀ summary, outcome ≠ .created summary)
    (hpresent : outcome ≠ .alreadyPresent) :
    PutConfirmed A sha256 P vaultId itemId attachmentId vaultKey upload own later
      ⟨outcome, none⟩ := by
  refine ⟨?_, fun summary h => absurd h (hcreated summary), fun h => absurd h hpresent⟩
  simp [hcreated, hpresent]

end Own

/-! ## Executions -/

section Executions

variable {A : Aead} {sha256 : Bytes → FixedBytes 32} {P : Parsers} {vaultKey : VaultKey}
  {vaultId itemId attachmentId : Uuid} {upload : AttachmentUpload}
  {σ : Type} {handle : σ → AttachmentCall → HttpReply → σ → Prop} {foreign : σ → σ → Prop}
  {s u : σ} {es : List (Event σ AttachmentCall HttpReply)}

theorem exec_listAttachmentRecords {listed : List (AttachmentRecord × AttachmentSummary)}
    (h : Exec handle foreign (listAttachmentRecords A P vaultId itemId vaultKey) s es (.ok listed)
      u) :
    ∃ listing value records, exchanges es = [(.listAttachments vaultId itemId, listing)] ∧
      readReply P maxGatewayBody listing = .ok value ∧
      attachmentRecordsOfJson value = some records ∧
      openRecords A P vaultKey itemId [] 0 records = .ok listed := by
  obtain ⟨pre, _, listing, _, post, value, rfl, hpre, -, hvalue, hrest⟩ := Exec.ask_bind_ok h
  obtain ⟨records, hrecords, hrest⟩ := Exec.ofExcept_bind_ok hrest
  obtain ⟨hopened, hpost⟩ := Exec.done_inv hrest
  refine ⟨listing, value, records, ?_, hvalue, orMalformed_eq_ok.mp hrecords, hopened.symm⟩
  simp [exchanges, hpre.exchanges_eq, hpost.exchanges_eq]

theorem exec_listAttachments {summaries : List AttachmentSummary}
    (h : Exec handle foreign (listAttachments A P vaultId itemId vaultKey) s es (.ok summaries) u) :
    ∃ listing value records listed, exchanges es = [(.listAttachments vaultId itemId, listing)] ∧
      readReply P maxGatewayBody listing = .ok value ∧
      attachmentRecordsOfJson value = some records ∧
      openRecords A P vaultKey itemId [] 0 records = .ok listed ∧
      summaries = listed.map Prod.snd := by
  obtain ⟨es₁, es₂, listed, _, rfl, hlisted, hrest⟩ := Exec.bind_ok h
  obtain ⟨hsummaries, hpost⟩ := Exec.done_inv hrest
  obtain ⟨listing, value, records, hes, hvalue, hrecords, hopened⟩ :=
    exec_listAttachmentRecords hlisted
  refine ⟨listing, value, records, listed, ?_, hvalue, hrecords, hopened,
    Except.ok.inj hsummaries⟩
  simp [hes, hpost.exchanges_eq]

/-- A listed summary that matches the upload is that of a record of the reply. -/
theorem exists_sameFile {records : List AttachmentRecord}
    {listed : List (AttachmentRecord × AttachmentSummary)}
    (hopened : openRecords A P vaultKey itemId [] 0 records = .ok listed)
    (hany : (listed.map Prod.snd).any (fun summary => summary.attachmentId == attachmentId
      && summary.sha256 == some (sha256 upload.bytes) && summary.filename == upload.filename
      && summary.sizeBytes == upload.bytes.length) = true) :
    ∃ record ∈ records, ∃ summary,
      SameFile A sha256 P vaultKey itemId attachmentId upload record summary := by
  have haccepted := (openRecords_eq_ok (Nat.zero_le _)).mp hopened
  obtain ⟨summary, hmem, hmatch⟩ := List.any_eq_true.mp hany
  obtain ⟨⟨record, _⟩, hentry, rfl⟩ := List.mem_map.mp hmem
  simp only [Bool.and_eq_true, beq_iff_eq] at hmatch
  obtain ⟨⟨⟨hid, hdigest⟩, hname⟩, hsize⟩ := hmatch
  have hopens := haccepted.opens _ hentry
  refine ⟨record, ?_, _, hopens, ?_, hdigest, hname, hsize⟩
  · rw [← haccepted.inOrder]
    exact List.mem_map_of_mem hentry
  · rw [← hid, (attachmentSummary_facts hopens).2.1]

/-- What the client makes of a duplicate is what the service said in its refusal. -/
theorem alreadyPresent_confirmed (hP : P.Faithful) {own : HttpReply} {error : ResolverError}
    (hown : readReply P maxGatewayBody own = .error error)
    (hkind : isCodedServerError P.json error 409 "attachment_already_exists" = true)
    {revision : ItemRevision} (hrevision : duplicateRevision P error = .ok revision)
    {listing : HttpReply} {value : Json} {records : List AttachmentRecord}
    (hvalue : readReply P maxGatewayBody listing = .ok value)
    (hrecords : attachmentRecordsOfJson value = some records)
    (hsame : ∃ record ∈ records, ∃ summary,
      SameFile A sha256 P vaultKey itemId attachmentId upload record summary) :
    PutConfirmed A sha256 P vaultId itemId attachmentId vaultKey upload own
      [(.listAttachments vaultId itemId, listing)] ⟨.alreadyPresent, some revision⟩ := by
  obtain ⟨text, again, rfl, hagain, htext⟩ := duplicateRevision_eq_ok hrevision
  obtain ⟨text', again', herror, hagain', hkind⟩ := isCodedServerError_iff.mp hkind
  obtain ⟨-, rfl⟩ := ResolverError.serverError.inj herror
  cases hagain.symm.trans hagain'
  obtain ⟨body, hrefused, hbody⟩ := refusedWith_of_serverError hP hown hagain
  -- Both texts stand in the same object of the body that was sent.
  obtain ⟨object, hobject, hupdated⟩ := errorText_eq_some.mp ((hbody _).symm.trans htext)
  obtain ⟨object', hobject', hsent⟩ := errorText_eq_some.mp ((hbody "kind").symm.trans hkind)
  cases hobject.symm.trans hobject'
  refine ⟨by simp, ?_, fun _ => ?_⟩
  · intro summary hcreated
    cases hcreated
  · exact ⟨body, object, revision.asStr, hrefused, hobject, hsent, hupdated, rfl, listing, value,
      records, rfl, hvalue, hrecords, hsame⟩

/-- Every outcome of an upload is confirmed. -/
theorem putAttachmentWithId_confirmed (hP : P.Faithful) {draw : UploadDraw}
    {ifMatch : ItemRevision} {write : AttachmentWrite AttachmentPutOutcome}
    (h : Exec handle foreign
      (putAttachmentWithId A sha256 P draw vaultId itemId attachmentId vaultKey upload ifMatch)
      s es (.ok write) u) :
    ∃ body own later,
      exchanges es = (.createAttachment vaultId itemId body (some ifMatch), own) :: later ∧
      PutConfirmed A sha256 P vaultId itemId attachmentId vaultKey upload own later write := by
  unfold putAttachmentWithId callWithOptions at h
  obtain ⟨body, -, h⟩ := Exec.ofExcept_bind_ok h
  rw [Client.attempt_ask] at h
  obtain ⟨pre, _, own, _, post, result, rfl, hpre, -, hown, h⟩ := Exec.ask_bind_ok h
  obtain rfl := Except.ok.inj hown
  refine ⟨body, own, exchanges post, by simp [exchanges, hpre.exchanges_eq], ?_⟩
  cases hread : readReply P maxGatewayBody own with
  | ok value =>
      rw [hread] at h
      obtain ⟨hwrite, hpost⟩ := Exec.done_inv h
      rw [hpost.exchanges_eq]
      exact acceptCreated_confirmed hread hwrite.symm
  | error error =>
      rw [hread] at h
      simp only at h
      split at h
      · obtain ⟨hwrite, hpost⟩ := Exec.done_inv h
        cases hwrite
        exact putConfirmed_none (by simp) (by simp)
      · split at h
        · rename_i hkind
          obtain ⟨es₁, es₂, summaries, _, rfl, hlist, h⟩ := Exec.bind_ok h
          obtain ⟨listing, value, records, listed, hes, hvalue, hrecords, hopened, rfl⟩ :=
            exec_listAttachments hlist
          split at h
          · rename_i hany
            obtain ⟨revision, hrevision, h⟩ := Exec.ofExcept_bind_ok h
            obtain ⟨hwrite, hpost⟩ := Exec.done_inv h
            cases hwrite
            rw [exchanges_append, hes, hpost.exchanges_eq, List.append_nil]
            exact alreadyPresent_confirmed hP hread hkind hrevision hvalue hrecords
              (exists_sameFile hopened hany)
          · obtain ⟨hwrite, hpost⟩ := Exec.done_inv h
            cases hwrite
            exact putConfirmed_none (by simp) (by simp)
        · split at h
          · obtain ⟨hwrite, hpost⟩ := Exec.done_inv h
            cases hwrite
            exact putConfirmed_none (by simp) (by simp)
          · obtain ⟨hwrite, -⟩ := Exec.done_inv h
            cases hwrite

/-- So is every outcome of a deletion. -/
theorem deletionOutcome_confirmed {own : HttpReply}
    {write : AttachmentWrite AttachmentDeleteOutcome}
    (h : deletionOutcome P (readReply P maxGatewayBody own) = .ok write) :
    DeleteConfirmed P own write := by
  cases hread : readReply P maxGatewayBody own with
  | ok value =>
      rw [hread] at h
      simp only [deletionOutcome, Except.bind_eq_ok, orMalformed_eq_ok, Except.pure_eq_ok] at h
      obtain ⟨response, hresponse, revision, hrevision, rfl⟩ := h
      obtain rfl := parseItemUpdatedAt_eq_ok hrevision
      refine ⟨?_, ?_⟩
      · cases hstate : response.state <;> simp [ConditionalDeleteState.outcome]
      · intro revision hsome
        obtain rfl := Option.some.inj hsome
        exact ⟨value, response, hread, hresponse, rfl, rfl⟩
  | error error =>
      rw [hread] at h
      simp only [deletionOutcome] at h
      split at h
      · cases h
        exact ⟨by simp, by simp⟩
      · split at h
        · cases h
          exact ⟨by simp, by simp⟩
        · cases h

theorem conditionalDeleteAttachment_confirmed {draw : ThrowawayDraw} {expected : FixedBytes 32}
    {ifMatch : ItemRevision} {write : AttachmentWrite AttachmentDeleteOutcome}
    (h : Exec handle foreign
      (conditionalDeleteAttachment A P draw vaultId itemId attachmentId vaultKey expected ifMatch)
      s es (.ok write) u) :
    ∃ earlier sent own, exchanges es
        = earlier ++ [(.conditionalDelete vaultId itemId attachmentId sent ifMatch, own)] ∧
      DeleteConfirmed P own write := by
  unfold conditionalDeleteAttachment callWithOptions at h
  obtain ⟨es₁, es₂, listed, _, rfl, -, h⟩ := Exec.bind_ok h
  simp only [Client.attempt_ask] at h
  obtain ⟨pre, _, own, _, post, result, rfl, hpre, -, hown, h⟩ := Exec.ask_bind_ok h
  obtain rfl := Except.ok.inj hown
  obtain ⟨hwrite, hpost⟩ := Exec.done_inv h
  refine ⟨exchanges es₁, expectedDigestCiphertext A draw itemId attachmentId expected listed, own,
    ?_, deletionOutcome_confirmed hwrite.symm⟩
  simp [exchanges, hpre.exchanges_eq, hpost.exchanges_eq]

/-- **Guarded writes report only what the service confirmed.** In every execution, an upload that
    returns has sent the guarded write first, and reports a revision exactly for a created record and
    for a duplicate of the same file, which is the one in the reply to that write; a deletion that
    returns has sent the guarded write last, and reports the revision in its response, exactly when
    the attachment is gone. -/
theorem guarded_writes_report_confirmed (hP : P.Faithful) :
    (∀ draw ifMatch s es write u,
      Exec handle foreign
        (putAttachmentWithId A sha256 P draw vaultId itemId attachmentId vaultKey upload ifMatch)
        s es (.ok write) u →
      ∃ body own later,
        exchanges es = (.createAttachment vaultId itemId body (some ifMatch), own) :: later ∧
        PutConfirmed A sha256 P vaultId itemId attachmentId vaultKey upload own later write) ∧
    ∀ draw expected ifMatch s es write u,
      Exec handle foreign
        (conditionalDeleteAttachment A P draw vaultId itemId attachmentId vaultKey expected ifMatch)
        s es (.ok write) u →
      ∃ earlier sent own, exchanges es
          = earlier ++ [(.conditionalDelete vaultId itemId attachmentId sent ifMatch, own)] ∧
        DeleteConfirmed P own write := by
  refine ⟨?_, ?_⟩
  · intro draw ifMatch s es write u hexec
    exact putAttachmentWithId_confirmed hP hexec
  · intro draw expected ifMatch s es write u hexec
    exact conditionalDeleteAttachment_confirmed hexec

end Executions

/-! ## A file that is there already -/

def duplicateJson : Json :=
  .obj [("error", .obj [("kind", .str "attachment_already_exists"),
    ("item_updated_at", .str "2026-01-02T00:00:00Z")])]

def duplicateText : String :=
  "\x7b\"error\":\x7b\"kind\":\"attachment_already_exists\","
    ++ "\"item_updated_at\":\"2026-01-02T00:00:00Z\"\x7d\x7d"

theorem utf8_duplicateText : utf8 duplicateText = duplicateJson.write := by
  decide +kernel

def duplicateReply : HttpReply := .response 409 [utf8 duplicateText] none

theorem json_duplicateText : Parsers.compact.json (utf8 duplicateText) = some duplicateJson := by
  rw [utf8_duplicateText, Parsers.compact_json_write]

theorem readReply_duplicateReply :
    readReply .compact maxGatewayBody duplicateReply = .error (.serverError 409 duplicateText) := by
  have hsuccess : isSuccess 409 = false := rfl
  have hread : readCappedText maxErrorBody [utf8 duplicateText] none = duplicateText := by
    have hcapped : readCapped maxErrorBody [utf8 duplicateText] none = .ok (utf8 duplicateText) := by
      decide +kernel
    simp only [readCappedText, hcapped, fromUtf8Lossy, fromUtf8?_utf8]
  have hshort : truncateErrorBody duplicateText = duplicateText := if_neg (by decide +kernel)
  simp only [readReply, duplicateReply, hsuccess, hread, hshort]
  rfl

theorem isCodedServerError_duplicate :
    isCodedServerError Parsers.compact.json (.serverError 409 duplicateText) 409
      "attachment_already_exists" = true :=
  isCodedServerError_iff.mpr ⟨duplicateText, duplicateJson, rfl, json_duplicateText, rfl⟩

theorem duplicateRevision_duplicate :
    duplicateRevision .compact (.serverError 409 duplicateText)
      = .ok ⟨"2026-01-02T00:00:00Z"⟩ := by
  rw [duplicateRevision, codedServerError, json_duplicateText]
  rfl

/-- A service that refuses uploads as duplicates and lists the file. -/
def duplicateHandles (_ : Unit) (request : AttachmentCall) (rep : HttpReply) (_ : Unit) : Prop :=
  match request with
  | .createAttachment _ _ _ _ => rep = duplicateReply
  | _ => rep = directReply fileListing

/-- The upload of a file that the item has already. -/
theorem exec_putDuplicate :
    Exec duplicateHandles (fun _ _ => False)
      (putAttachmentWithId .transparent emptySha256 .compact fileDraw (.replicate 16 1)
        (.replicate 16 2) (.replicate 16 5) ⟨.replicate 32 3⟩ fileUpload ⟨"2026-01-01T00:00:00Z"⟩)
      () [.served () (.createAttachment (.replicate 16 1) (.replicate 16 2) fileRequest
          (some ⟨"2026-01-01T00:00:00Z"⟩)) duplicateReply (),
        .served () (.listAttachments (.replicate 16 1) (.replicate 16 2)) (directReply fileListing) ()]
      (.ok ⟨.alreadyPresent, some ⟨"2026-01-02T00:00:00Z"⟩⟩) () := by
  have hbuild : buildAttachmentRequest .transparent fileDraw ⟨.replicate 32 3⟩ (.replicate 16 2)
      (.replicate 16 5) fileUpload (some (emptySha256 fileUpload.bytes)) = .ok fileRequest :=
    buildAttachmentRequest_fileRequest
  have hrecords : Exec duplicateHandles (fun _ _ => False) (listAttachmentRecords .transparent
      .compact (.replicate 16 1) (.replicate 16 2) ⟨.replicate 32 3⟩) ()
      [.served () (.listAttachments (.replicate 16 1) (.replicate 16 2)) (directReply fileListing) ()]
      (.ok [(fileRecord, fileSummary)]) () :=
    Exec.ask_bind rfl readReply_fileListing (Exec.ofExcept_bind
      (orMalformed_eq_ok.mpr attachmentRecordsOfJson_fileListing)
      (Exec.ofExcept openRecords_fileRecord))
  have hlist : Exec duplicateHandles (fun _ _ => False) (listAttachments .transparent .compact
      (.replicate 16 1) (.replicate 16 2) ⟨.replicate 32 3⟩) ()
      [.served () (.listAttachments (.replicate 16 1) (.replicate 16 2)) (directReply fileListing) ()]
      (.ok [fileSummary]) () :=
    Exec.bind hrecords .done
  refine Exec.ofExcept_bind hbuild (Exec.ask_bind rfl (congrArg Except.ok readReply_duplicateReply) ?_)
  show Exec _ _ (if hasStatus _ 412 = true then _ else _) _ _ _ _
  rw [if_neg (by decide), if_pos isCodedServerError_duplicate]
  refine Exec.bind hlist ?_
  show Exec _ _ (if _ = true then _ else _) _ _ _ _
  rw [if_pos (by decide)]
  exact Exec.ofExcept_bind duplicateRevision_duplicate .done

/-- The revision that the upload of a duplicate reports is that of the refusal, and the deletion of a
    file reports the one of its response. -/
theorem guarded_writes_report_confirmed_file :
    PutConfirmed .transparent emptySha256 .compact (.replicate 16 1) (.replicate 16 2)
        (.replicate 16 5) ⟨.replicate 32 3⟩ fileUpload duplicateReply
        [(.listAttachments (.replicate 16 1) (.replicate 16 2), directReply fileListing)]
        ⟨.alreadyPresent, some ⟨"2026-01-02T00:00:00Z"⟩⟩ ∧
      DeleteConfirmed .compact (directReply deletedJson)
        ⟨.deleted, some ⟨"2026-01-01T00:00:00Z"⟩⟩ := by
  constructor
  · obtain ⟨body, own, later, hes, hconfirmed⟩ :=
      (guarded_writes_report_confirmed Parsers.compact_faithful).1 _ _ _ _ _ _ exec_putDuplicate
    cases hes
    exact hconfirmed
  · obtain ⟨earlier, sent, own, hes, hconfirmed⟩ :=
      (@guarded_writes_report_confirmed .transparent emptySha256 .compact ⟨.replicate 32 3⟩
        (.replicate 16 1) (.replicate 16 2) (.replicate 16 5) fileUpload _ _ _
        Parsers.compact_faithful).2 _ _ _ _ _ _ _ exec_deleteFile
    have hevents : exchanges deleteEvents
        = [(.listAttachments (.replicate 16 1) (.replicate 16 2), directReply fileListing)]
          ++ [(.conditionalDelete (.replicate 16 1) (.replicate 16 2) (.replicate 16 5)
            fileDigestText ⟨"2026-01-01T00:00:00Z"⟩, directReply deletedJson)] := rfl
    obtain ⟨-, hlast⟩ := List.append_inj' (hevents.symm.trans hes) (by simp)
    rw [(Prod.mk.inj (List.cons.inj hlast).1).2]
    exact hconfirmed

end SerenSecrets
