import Mathlib.Algebra.BigOperators.Ring.Finset
import SerenSecrets.Resolver.AttachmentService

set_option autoImplicit false

/-! # Listings of attachments

A listing is accepted record by record. `openRecords` carries the ids it has seen and the sum of the
sizes so far; what it accepts is said once, for the whole loop, by `openRecords_eq_ok`. A sum that is
still within the limit leaves room for any further record in 64 bits, so the additions do not
overflow, however long the list is.

The digest of a record is opened on the side. Two listings that differ only in digest ciphertexts take
the same course, and what they report differs in the digests alone
(`listAttachmentRecords_consistent`). -/

namespace SerenSecrets

/-! ## One record -/

section Record

variable {A : Aead} {P : Parsers} {vaultKey : VaultKey} {itemId : Uuid}

theorem encryptedSize_eq_ok {size : ℤ} {n : ℕ} :
    encryptedSize size = .ok n ↔ size = n ∧ envelopeBytes ≤ n ∧ n ≤ maxEncryptedBytes := by
  constructor
  · intro h
    unfold encryptedSize at h
    split at h
    · cases h
    · split at h
      · cases h
      · cases h
        omega
  · rintro ⟨rfl, hlow, hhigh⟩
    exact encryptedSize_natCast hlow hhigh

/-- A record that opens belongs to the item, and its sizes are those of its summary. -/
theorem attachmentSummary_facts {record : AttachmentRecord} {summary : AttachmentSummary}
    (h : attachmentSummary A P vaultKey itemId record = .ok summary) :
    record.itemId = itemId ∧ summary.attachmentId = record.attachmentId ∧
      encryptedSize record.sizeBytes = .ok summary.encryptedSizeBytes ∧
      summary.sizeBytes = summary.encryptedSizeBytes - envelopeBytes := by
  simp only [attachmentSummary, rejectIf_eq_ok, Except.bind_eq_ok, Except.pure_eq_ok, ne_eq,
    not_not] at h
  obtain ⟨_, hitem, size, hsize, _, -, _, -, _, -, _, -, _, -, _, -, _, -, rfl⟩ := h
  exact ⟨hitem, rfl, hsize, rfl⟩

/-- The summaries differ in their digest at most. -/
def AttachmentSummary.SameButDigest (summary summary' : AttachmentSummary) : Prop :=
  summary' = { summary with sha256 := summary'.sha256 }

/-- The records differ in their digest ciphertext at most. -/
def AttachmentRecord.SameButDigest (record record' : AttachmentRecord) : Prop :=
  record' = { record with digestCiphertext := record'.digestCiphertext }

/-- The digest ciphertext decides on the digest and on nothing else. -/
theorem attachmentSummary_sameButDigest {record record' : AttachmentRecord}
    (h : record.SameButDigest record') :
    Except.Rel AttachmentSummary.SameButDigest (attachmentSummary A P vaultKey itemId record)
      (attachmentSummary A P vaultKey itemId record') := by
  rw [h]
  generalize record'.digestCiphertext = digest
  unfold attachmentSummary
  refine .bind_same fun _ => .bind_same fun size => .bind_same fun wrapped => ?_
  refine .bind_same fun key => .bind_same fun filenameCt => .bind_same fun filename => ?_
  refine .bind_same fun contentTypeCt => .bind_same fun contentType => ?_
  exact .bind_same fun createdAt => .ok rfl

/-- The same record gives the same summary. -/
theorem attachmentSummary_rel {record record' : AttachmentRecord}
    (h : record.SameButDigest record') :
    Except.Rel (fun summary summary' => summary.SameButDigest summary' ∧
        (record' = record → summary' = summary))
      (attachmentSummary A P vaultKey itemId record)
      (attachmentSummary A P vaultKey itemId record') := by
  by_cases hequal : record' = record
  · rw [hequal]
    cases attachmentSummary A P vaultKey itemId record with
    | error e => exact .error e
    | ok summary => exact .ok ⟨rfl, fun _ => rfl⟩
  · refine (attachmentSummary_sameButDigest h).imp ?_
    intro summary summary' hsummary
    exact ⟨hsummary, fun hsame => absurd hsame hequal⟩

end Record

/-! ## The loop -/

section Loop

variable {A : Aead} {P : Parsers} {vaultKey : VaultKey} {itemId : Uuid}

/-- The encrypted sizes of the opened records, summed up. -/
def totalSize (listed : List (AttachmentRecord × AttachmentSummary)) : ℕ :=
  (listed.map fun entry => entry.2.encryptedSizeBytes).sum

/-- What the loop has checked of the records it went through. -/
structure Accepted (A : Aead) (P : Parsers) (vaultKey : VaultKey) (itemId : Uuid)
    (seen : List Uuid) (total : ℕ) (records : List AttachmentRecord)
    (listed : List (AttachmentRecord × AttachmentSummary)) : Prop where
  inOrder : listed.map Prod.fst = records
  opens : ∀ entry ∈ listed, attachmentSummary A P vaultKey itemId entry.1 = .ok entry.2
  distinct : (records.map AttachmentRecord.attachmentId).Nodup
  unseen : ∀ record ∈ records, record.attachmentId ∉ seen
  withinLimit : total + totalSize listed ≤ maxItemEncryptedBytes

/-- As long as the sum is within the limit, any further record can be added to it in 64 bits. -/
theorem checkedAdd_summary {total : ℕ} (htotal : total ≤ maxItemEncryptedBytes)
    {record : AttachmentRecord} {summary : AttachmentSummary}
    (h : attachmentSummary A P vaultKey itemId record = .ok summary) :
    checkedAdd total summary.encryptedSizeBytes = some (total + summary.encryptedSizeBytes) := by
  obtain ⟨-, -, hsize, -⟩ := attachmentSummary_facts h
  obtain ⟨-, -, hhigh⟩ := encryptedSize_eq_ok.mp hsize
  unfold maxItemEncryptedBytes at htotal
  unfold maxEncryptedBytes at hhigh
  exact if_pos (by omega)

theorem totalSize_cons (record : AttachmentRecord) (summary : AttachmentSummary)
    (listed : List (AttachmentRecord × AttachmentSummary)) :
    totalSize ((record, summary) :: listed) = summary.encryptedSizeBytes + totalSize listed := rfl

theorem Accepted.cons {seen : List Uuid} {total : ℕ} {record : AttachmentRecord}
    {summary : AttachmentSummary} {records : List AttachmentRecord}
    {listed : List (AttachmentRecord × AttachmentSummary)}
    (h : Accepted A P vaultKey itemId (record.attachmentId :: seen)
      (total + summary.encryptedSizeBytes) records listed)
    (hopens : attachmentSummary A P vaultKey itemId record = .ok summary)
    (hseen : record.attachmentId ∉ seen) :
    Accepted A P vaultKey itemId seen total (record :: records) ((record, summary) :: listed) where
  inOrder := congrArg (record :: ·) h.inOrder
  opens := List.forall_mem_cons.mpr ⟨hopens, h.opens⟩
  distinct := by
    rw [List.map_cons, List.nodup_cons]
    refine ⟨?_, h.distinct⟩
    intro hmem
    obtain ⟨other, hother, hid⟩ := List.mem_map.mp hmem
    exact h.unseen other hother (hid ▸ List.mem_cons_self)
  unseen := by
    refine List.forall_mem_cons.mpr ⟨hseen, ?_⟩
    intro other hother hmem
    exact h.unseen other hother (List.mem_cons_of_mem _ hmem)
  withinLimit := by
    have hlimit := h.withinLimit
    rw [totalSize_cons]
    omega

theorem Accepted.uncons {seen : List Uuid} {total : ℕ} {record : AttachmentRecord}
    {records : List AttachmentRecord} {listed : List (AttachmentRecord × AttachmentSummary)}
    (h : Accepted A P vaultKey itemId seen total (record :: records) listed) :
    ∃ summary rest, listed = (record, summary) :: rest ∧
      attachmentSummary A P vaultKey itemId record = .ok summary ∧ record.attachmentId ∉ seen ∧
      Accepted A P vaultKey itemId (record.attachmentId :: seen)
        (total + summary.encryptedSizeBytes) records rest := by
  obtain ⟨hinOrder, hopens, hdistinct, hunseen, hlimit⟩ := h
  obtain ⟨⟨_, summary⟩, rest, rfl, rfl, hrest⟩ := List.map_eq_cons_iff.mp hinOrder
  rw [List.map_cons, List.nodup_cons] at hdistinct
  rw [List.forall_mem_cons] at hopens hunseen
  rw [totalSize_cons] at hlimit
  refine ⟨summary, rest, rfl, hopens.1, hunseen.1, hrest, hopens.2, hdistinct.2, ?_, by omega⟩
  intro other hother hmem
  rcases List.mem_cons.mp hmem with hsame | hseen
  · exact hdistinct.1 (hsame ▸ List.mem_map_of_mem hother)
  · exact hunseen.2 other hother hseen

/-- What the loop accepts. -/
theorem openRecords_eq_ok {seen : List Uuid} {total : ℕ} (htotal : total ≤ maxItemEncryptedBytes)
    {records : List AttachmentRecord} {listed : List (AttachmentRecord × AttachmentSummary)} :
    openRecords A P vaultKey itemId seen total records = .ok listed ↔
      Accepted A P vaultKey itemId seen total records listed := by
  induction records generalizing seen total listed with
  | nil =>
      constructor
      · intro h
        cases h
        exact ⟨rfl, by simp, by simp, by simp, htotal⟩
      · intro h
        have hnil : listed = [] := List.map_eq_nil_iff.mp h.inOrder
        rw [hnil]
        rfl
  | cons record records ih =>
      simp only [openRecords, Except.bind_eq_ok, rejectIf_eq_ok, orMalformed_eq_ok,
        Except.pure_eq_ok, exists_const, Nat.not_lt, gt_iff_lt]
      constructor
      · rintro ⟨hseen, summary, hopens, total', hadd, hlimit, rest, hrest, rfl⟩
        rw [checkedAdd_summary htotal hopens] at hadd
        obtain rfl := Option.some.inj hadd
        exact ((ih hlimit).mp hrest).cons hopens hseen
      · intro h
        obtain ⟨summary, rest, rfl, hopens, hseen, hrest⟩ := h.uncons
        have hlimit := Nat.le_trans (Nat.le_add_right _ _) hrest.withinLimit
        exact ⟨hseen, summary, hopens, _, checkedAdd_summary htotal hopens, hlimit, rest,
          (ih hlimit).mpr hrest, rfl⟩

/-- Two opened records that differ in the digest at most, and not at all for the same record. -/
def SameEntry (entry entry' : AttachmentRecord × AttachmentSummary) : Prop :=
  entry.1.SameButDigest entry'.1 ∧ entry.2.SameButDigest entry'.2 ∧
    (entry'.1 = entry.1 → entry'.2 = entry.2)

/-- Records that differ in their digest ciphertexts take the same course through the loop. -/
theorem openRecords_sameButDigest {seen : List Uuid} {total : ℕ}
    {records records' : List AttachmentRecord}
    (h : List.Forall₂ AttachmentRecord.SameButDigest records records') :
    Except.Rel (List.Forall₂ SameEntry) (openRecords A P vaultKey itemId seen total records)
      (openRecords A P vaultKey itemId seen total records') := by
  induction h generalizing seen total with
  | nil => exact .ok .nil
  | @cons record record' records records' hsame _ ih =>
      have hid : record'.attachmentId = record.attachmentId := by rw [hsame]
      simp only [openRecords, hid]
      refine .bind_same fun _ => .bind (attachmentSummary_rel hsame) ?_
      rintro summary summary' ⟨hsummary, hequal⟩
      have hsize : summary'.encryptedSizeBytes = summary.encryptedSizeBytes := by rw [hsummary]
      rw [hsize]
      refine .bind_same fun total' => .bind_same fun _ => .bind ih ?_
      intro listed listed' hlisted
      exact .ok (.cons ⟨hsame, hsummary, hequal⟩ hlisted)

end Loop

/-! ## The listing -/

/-- A listing that is consistent with the records of the service: for each record, in order, the
    summary that it opens to, with the sizes that the service counts. -/
structure ConsistentListing (A : Aead) (P : Parsers) (vaultKey : VaultKey) (itemId : Uuid)
    (records : List AttachmentRecord) (listed : List (AttachmentRecord × AttachmentSummary)) :
    Prop where
  inOrder : listed.map Prod.fst = records
  opens : ∀ entry ∈ listed, attachmentSummary A P vaultKey itemId entry.1 = .ok entry.2
  distinct : (records.map AttachmentRecord.attachmentId).Nodup
  item : ∀ record ∈ records, record.itemId = itemId
  size : ∀ record ∈ records, 42 ≤ record.sizeBytes ∧ record.sizeBytes ≤ 100 * 1024 * 1024
  sizeBytes : ∀ entry ∈ listed, (entry.2.sizeBytes : ℤ) = entry.1.sizeBytes - 42
  total : (records.map AttachmentRecord.sizeBytes).sum ≤ 500 * 1024 * 1024

/-- Wherever the loop has come, the next addition is within 64 bits. -/
def NeverOverflows (A : Aead) (P : Parsers) (vaultKey : VaultKey) (itemId : Uuid)
    (records : List AttachmentRecord) : Prop :=
  ∀ earlier record later, records = earlier ++ record :: later →
    ∀ listed, openRecords A P vaultKey itemId [] 0 earlier = .ok listed →
    ∀ summary, attachmentSummary A P vaultKey itemId record = .ok summary →
      totalSize listed + summary.encryptedSizeBytes < 2 ^ 64

section Listing

variable {A : Aead} {P : Parsers} {vaultKey : VaultKey} {vaultId itemId : Uuid}

theorem Accepted.size_eq {seen : List Uuid} {total : ℕ} {records : List AttachmentRecord}
    {listed : List (AttachmentRecord × AttachmentSummary)}
    (h : Accepted A P vaultKey itemId seen total records listed)
    {entry : AttachmentRecord × AttachmentSummary} (hmem : entry ∈ listed) :
    entry.1.sizeBytes = entry.2.encryptedSizeBytes ∧
      envelopeBytes ≤ entry.2.encryptedSizeBytes ∧
      entry.2.encryptedSizeBytes ≤ maxEncryptedBytes := by
  obtain ⟨-, -, hsize, -⟩ := attachmentSummary_facts (h.opens entry hmem)
  exact encryptedSize_eq_ok.mp hsize

/-- The service's count of all records is the sum that the loop has kept. -/
theorem Accepted.sum_eq {seen : List Uuid} {total : ℕ} {records : List AttachmentRecord}
    {listed : List (AttachmentRecord × AttachmentSummary)}
    (h : Accepted A P vaultKey itemId seen total records listed) :
    (records.map AttachmentRecord.sizeBytes).sum = totalSize listed := by
  have hsizes : listed.map (fun entry => entry.1.sizeBytes)
      = listed.map (fun entry => (entry.2.encryptedSizeBytes : ℤ)) :=
    List.map_congr_left fun entry hmem => (h.size_eq hmem).1
  rw [← h.inOrder, List.map_map, totalSize, Nat.cast_list_sum, List.map_map]
  exact congrArg List.sum hsizes

theorem Accepted.consistent {records : List AttachmentRecord}
    {listed : List (AttachmentRecord × AttachmentSummary)}
    (h : Accepted A P vaultKey itemId [] 0 records listed) :
    ConsistentListing A P vaultKey itemId records listed := by
  have hentry : ∀ record ∈ records, ∃ entry ∈ listed, entry.1 = record := by
    intro record hmem
    rw [← h.inOrder] at hmem
    exact List.mem_map.mp hmem
  refine ⟨h.inOrder, h.opens, h.distinct, ?_, ?_, ?_, ?_⟩
  · intro record hmem
    obtain ⟨entry, hlisted, rfl⟩ := hentry record hmem
    exact (attachmentSummary_facts (h.opens entry hlisted)).1
  · intro record hmem
    obtain ⟨entry, hlisted, rfl⟩ := hentry record hmem
    obtain ⟨hsize, hlow, hhigh⟩ := h.size_eq hlisted
    unfold envelopeBytes at hlow
    unfold maxEncryptedBytes at hhigh
    omega
  · intro entry hlisted
    obtain ⟨-, -, -, hplain⟩ := attachmentSummary_facts (h.opens entry hlisted)
    obtain ⟨hsize, hlow, -⟩ := h.size_eq hlisted
    unfold envelopeBytes at hlow hplain
    omega
  · have hlimit := h.withinLimit
    unfold maxItemEncryptedBytes at hlimit
    rw [h.sum_eq]
    omega

theorem neverOverflows (records : List AttachmentRecord) :
    NeverOverflows A P vaultKey itemId records := by
  intro earlier record later _ listed hlisted summary hsummary
  have hlimit := ((openRecords_eq_ok (Nat.zero_le _)).mp hlisted).withinLimit
  rw [Nat.zero_add] at hlimit
  have hadd := checkedAdd_summary hlimit hsummary
  rw [checkedAdd, Option.ite_none_right_eq_some] at hadd
  exact hadd.1

/-- A listing is what the loop makes of the records in the reply. -/
theorem run_listAttachmentRecords {rep : HttpReply} {value : Json} {records : List AttachmentRecord}
    (hvalue : readReply P maxGatewayBody rep = .ok value)
    (hrecords : attachmentRecordsOfJson value = some records) :
    (listAttachmentRecords A P vaultId itemId vaultKey).run (fun _ => rep)
      = openRecords A P vaultKey itemId [] 0 records := by
  simp only [listAttachmentRecords, callWithOptions, Client.run_bind]
  simp only [Client.ask, Client.ofExcept, Client.run, hvalue, bind, Except.bind, hrecords,
    orMalformed]

/-- **Listings are consistent, and tolerate any digest.** A listing that succeeds is consistent with
    the records of the reply; no sum overflows, whether it succeeds or not; and other digest
    ciphertexts change nothing but the digests they belong to. -/
theorem listAttachmentRecords_consistent {rep : HttpReply} {value : Json}
    {records : List AttachmentRecord} (hvalue : readReply P maxGatewayBody rep = .ok value)
    (hrecords : attachmentRecordsOfJson value = some records) :
    (∀ listed, (listAttachmentRecords A P vaultId itemId vaultKey).run (fun _ => rep) = .ok listed →
      ConsistentListing A P vaultKey itemId records listed) ∧
    NeverOverflows A P vaultKey itemId records ∧
    ∀ rep' value' records', readReply P maxGatewayBody rep' = .ok value' →
      attachmentRecordsOfJson value' = some records' →
      List.Forall₂ AttachmentRecord.SameButDigest records records' →
      Except.Rel (List.Forall₂ SameEntry)
        ((listAttachmentRecords A P vaultId itemId vaultKey).run fun _ => rep)
        ((listAttachmentRecords A P vaultId itemId vaultKey).run fun _ => rep') := by
  refine ⟨?_, neverOverflows records, ?_⟩
  · intro listed hlisted
    rw [run_listAttachmentRecords hvalue hrecords] at hlisted
    exact ((openRecords_eq_ok (Nat.zero_le _)).mp hlisted).consistent
  · intro rep' value' records' hvalue' hrecords' hsame
    rw [run_listAttachmentRecords hvalue hrecords, run_listAttachmentRecords hvalue' hrecords']
    exact openRecords_sameButDigest hsame

/-- The loop over a single record that opens. -/
theorem openRecords_fileRecord :
    openRecords .transparent .compact ⟨.replicate 32 3⟩ (.replicate 16 2) [] 0 [fileRecord]
      = .ok [(fileRecord, fileSummary)] := by
  refine (openRecords_eq_ok (Nat.zero_le _)).mpr ⟨rfl, ?_, List.nodup_singleton _, ?_, by decide⟩
  · intro entry hentry
    obtain rfl := List.mem_singleton.mp hentry
    exact attachmentSummary_fileRecord
  · intro record _
    exact List.not_mem_nil

/-- The upload of the report as attachment 6 of item 2. -/
def reportRequest : AttachmentRequest where
  attachmentId := .replicate 16 6
  blob := Base64.encode (encryptBlob .transparent ⟨.replicate 32 4⟩
    (FixedBytes.replicate 16 2).toBytes (FixedBytes.replicate 16 6).toBytes (.replicate 24 4)
    (utf8 "All doors locked."))
  filenameCiphertext := Base64.encode (encryptFilename .transparent ⟨.replicate 32 3⟩
    (FixedBytes.replicate 16 2).toBytes (FixedBytes.replicate 16 6).toBytes (.replicate 24 0)
    "report.txt")
  contentTypeCiphertext := Base64.encode (encryptContentType .transparent ⟨.replicate 32 3⟩
    (FixedBytes.replicate 16 2).toBytes (FixedBytes.replicate 16 6).toBytes (.replicate 24 1)
    "text/plain")
  wrappedContentKey := Base64.encode (wrapAttachmentKey .transparent ⟨.replicate 32 3⟩
    (FixedBytes.replicate 16 2).toBytes (FixedBytes.replicate 16 6).toBytes (.replicate 24 2)
    ⟨.replicate 32 4⟩)
  digestCiphertext := none

theorem buildAttachmentRequest_reportRequest :
    buildAttachmentRequest .transparent reportDraw ⟨.replicate 32 3⟩ (.replicate 16 2)
      (.replicate 16 6) reportUpload none = .ok reportRequest := rfl

def reportRecord : AttachmentRecord :=
  reportRequest.stored (.replicate 16 2) 59 "2026-07-17T10:11:13Z"

def reportSummary : AttachmentSummary where
  attachmentId := .replicate 16 6
  itemId := .replicate 16 2
  filename := "report.txt"
  contentType := some "text/plain"
  sizeBytes := 17
  encryptedSizeBytes := 59
  createdAt := ⟨"2026-07-17T10:11:13Z"⟩
  sha256 := none

theorem attachmentSummary_reportRecord :
    attachmentSummary .transparent .compact ⟨.replicate 32 3⟩ (.replicate 16 2) reportRecord
      = .ok reportSummary := by
  have hsize : encryptedSize reportRecord.sizeBytes = .ok 59 := rfl
  have htime : ServiceTimestamp.new .compact reportRecord.createdAt
      = .ok ⟨"2026-07-17T10:11:13Z"⟩ := rfl
  refine attachmentSummary_uploaded Aead.transparent_ideal.correct
    buildAttachmentRequest_reportRequest (AttachmentRequest.stored_holds _ _ _ _) hsize htime
    ?_ ?_ ?_ ?_
  · decide +kernel
  · decide +kernel
  · decide +kernel
  · intro d hd
    cases hd

/-- The empty file with some text in place of its digest. -/
def undigestedRecord : AttachmentRecord := { fileRecord with digestCiphertext := some "?" }

/-- The listing of one of the two and the report. -/
def twoFiles (first : AttachmentRecord) : Json := .arr [first.toJson, reportRecord.toJson]

theorem readReply_twoFiles {first : AttachmentRecord}
    (h : first = fileRecord ∨ first = undigestedRecord) :
    readReply .compact maxGatewayBody (directReply (twoFiles first)) = .ok (twoFiles first) := by
  apply readReply_directReply ⟨rfl, rfl, rfl⟩
  rcases h with rfl | rfl <;>
  · simp only [twoFiles, AttachmentRecord.toJson, undigestedRecord, fileRecord, fileRequest,
      reportRecord, AttachmentRequest.stored, reportRequest, Json.uuid, Json.orNull, Json.int,
      Json.write, Json.writeElems, Json.writeMembers, writeString, Base64.utf8_encode]
    decide +kernel

theorem attachmentRecordsOfJson_twoFiles {first : AttachmentRecord}
    (h : first = fileRecord ∨ first = undigestedRecord) :
    attachmentRecordsOfJson (twoFiles first) = some [first, reportRecord] := by
  have hfirst : AttachmentRecord.ofJson first.toJson = some first := by
    rcases h with rfl | rfl
    · exact AttachmentRecord.ofJson_toJson (by decide)
    · exact AttachmentRecord.ofJson_toJson (by decide)
  have hreport : AttachmentRecord.ofJson reportRecord.toJson = some reportRecord :=
    AttachmentRecord.ofJson_toJson (by decide)
  simp [attachmentRecordsOfJson, twoFiles, hfirst, hreport]

theorem openRecords_twoFiles :
    openRecords .transparent .compact ⟨.replicate 32 3⟩ (.replicate 16 2) []
      0 [fileRecord, reportRecord]
      = .ok [(fileRecord, fileSummary), (reportRecord, reportSummary)] := by
  refine (openRecords_eq_ok (Nat.zero_le _)).mpr ⟨rfl, ?_, by decide, ?_, by decide⟩
  · intro entry hentry
    rcases List.mem_pair.mp hentry with rfl | rfl
    · exact attachmentSummary_fileRecord
    · exact attachmentSummary_reportRecord
  · intro record _
    exact List.not_mem_nil

/-- The listing of two files is consistent, and spoiling the digest of the first one leaves a listing
    that differs in that digest alone. -/
theorem listAttachmentRecords_consistent_files :
    (listAttachmentRecords .transparent .compact (.replicate 16 1) (.replicate 16 2)
        ⟨.replicate 32 3⟩).run (fun _ => directReply (twoFiles fileRecord))
      = .ok [(fileRecord, fileSummary), (reportRecord, reportSummary)] ∧
    ConsistentListing .transparent .compact ⟨.replicate 32 3⟩ (.replicate 16 2)
      [fileRecord, reportRecord] [(fileRecord, fileSummary), (reportRecord, reportSummary)] ∧
    ∃ listed, (listAttachmentRecords .transparent .compact (.replicate 16 1) (.replicate 16 2)
        ⟨.replicate 32 3⟩).run (fun _ => directReply (twoFiles undigestedRecord)) = .ok listed ∧
      List.Forall₂ SameEntry [(fileRecord, fileSummary), (reportRecord, reportSummary)] listed := by
  have hrun : (listAttachmentRecords .transparent .compact (.replicate 16 1) (.replicate 16 2)
      ⟨.replicate 32 3⟩).run (fun _ => directReply (twoFiles fileRecord))
      = .ok [(fileRecord, fileSummary), (reportRecord, reportSummary)] := by
    rw [run_listAttachmentRecords (readReply_twoFiles (.inl rfl))
      (attachmentRecordsOfJson_twoFiles (.inl rfl))]
    exact openRecords_twoFiles
  obtain ⟨hconsistent, -, hdigests⟩ :=
    @listAttachmentRecords_consistent .transparent .compact ⟨.replicate 32 3⟩ (.replicate 16 1)
      (.replicate 16 2) _ _ _ (readReply_twoFiles (.inl rfl))
      (attachmentRecordsOfJson_twoFiles (.inl rfl))
  have hrel := hdigests _ _ _ (readReply_twoFiles (.inr rfl))
    (attachmentRecordsOfJson_twoFiles (.inr rfl)) (.cons rfl (.cons rfl .nil))
  rw [hrun] at hrel
  refine ⟨hrun, hconsistent _ hrun, ?_⟩
  generalize (listAttachmentRecords .transparent .compact (.replicate 16 1) (.replicate 16 2)
    ⟨.replicate 32 3⟩).run (fun _ => directReply (twoFiles undigestedRecord)) = other at hrel ⊢
  cases hrel with
  | @ok _ listed hsame => exact ⟨listed, rfl, hsame⟩

end Listing

end SerenSecrets
