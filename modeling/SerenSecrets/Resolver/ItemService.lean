import SerenSecrets.Lib.Versioned
import SerenSecrets.Resolver.Items

set_option autoImplicit false

/-! # The item service, and updates that are conditional on a revision

The service keeps one record per vault and item and takes each request in one step (`ItemHandles`).
It gives every write a revision the row never had, checks `If-Match` exactly when a request carries
it, may refuse anything, and its replies tell the truth when they arrive. Other clients and the
service itself may change any rows between two requests of a client (`VersionedStore.Evolves`).

`updateItem` reads the flags and the content-key wrap that it writes back in a request of its own,
whose revision it never compares. Still, a conditional update that succeeds overwrote the revision it
was conditional on, with the flags and the wrap of that very revision (`conditional_update_atomic`):
had the read seen another version, the row could not show the old revision again. -/

namespace SerenSecrets

/-! ## The service -/

/-- The records by vault and item, with all revisions each has had. -/
abbrev ItemStore := VersionedStore (Uuid × Uuid) ItemRecord ItemRevision ItemRecord.updatedAt

/-- The same record in another lifecycle state. -/
def ItemRecord.moved (record : ItemRecord) (trashedAt : Option String) (revision : ItemRevision) :
    ItemRecord :=
  { record with trashedAt := trashedAt, updatedAt := revision }

/-- How the service takes one request. -/
inductive ItemHandles (P : Parsers) : ItemStore → ItemCall → HttpReply → ItemStore → Prop
  | refused {s : ItemStore} {request : ItemCall} {rep : HttpReply} {status : UInt16}
      {body : Option Json} (hrep : Refuses P status body rep) : ItemHandles P s request rep s
  | undelivered {s : ItemStore} {request : ItemCall} {rep : HttpReply} (hrep : Lost rep) :
      ItemHandles P s request rep s
  | listItems {s : ItemStore} {v : Uuid} {state : ItemListState} {rep : HttpReply}
      (hrep : Answers P (fun payload => ∀ summaries, summariesOfJson P payload = some summaries →
        ∀ summary ∈ summaries, ∃ row, s.rows (v, summary.itemId) = some row ∧
          summary.updatedAt = row.updatedAt) rep) :
      ItemHandles P s (.listItems v state) rep s
  | getItem {s : ItemStore} {v i : Uuid} {row : ItemRecord} {rep : HttpReply}
      (hrow : s.rows (v, i) = some row)
      (hrep : Answers P (fun payload => ItemRecord.ofJson P payload = some row) rep) :
      ItemHandles P s (.getItem v i) rep s
  | createItem {s : ItemStore} {v : Uuid} {body : CreateItemRequest} {row : ItemRecord}
      {rep : HttpReply} (habsent : s.rows (v, body.itemId) = none) (hvault : row.vaultId = v)
      (hitem : row.itemId = body.itemId) (hholds : row.Holds body.toItemFields)
      (hfresh : row.updatedAt ∉ s.history (v, body.itemId))
      (hrep : Answers P (fun payload => ItemRecord.ofJson P payload = some row) rep) :
      ItemHandles P s (.createItem v body) rep (s.put (v, body.itemId) row)
  | updateItem {s : ItemStore} {v i : Uuid} {body : UpdateItemRequest}
      {ifMatch : Option ItemRevision} {row row' : ItemRecord} {rep : HttpReply}
      (hrow : s.rows (v, i) = some row) (hmatch : ∀ r ∈ ifMatch, row.updatedAt = r)
      (hvault : row'.vaultId = row.vaultId) (hitem : row'.itemId = row.itemId)
      (hholds : row'.Holds body.toItemFields) (hfresh : row'.updatedAt ∉ s.history (v, i))
      (hrep : Answers P (fun payload => ItemRecord.ofJson P payload = some row') rep) :
      ItemHandles P s (.updateItem v i body ifMatch) rep (s.put (v, i) row')
  | trashItem {s : ItemStore} {v i : Uuid} {ifMatch : Option ItemRevision} {row : ItemRecord}
      {time : String} {revision : ItemRevision} {rep : HttpReply} (hrow : s.rows (v, i) = some row)
      (hactive : row.trashedAt = none) (hmatch : ∀ r ∈ ifMatch, row.updatedAt = r)
      (hfresh : revision ∉ s.history (v, i))
      (hrep : Answers P (fun payload => TrashResult.ofJson P payload = some ⟨.trashed, revision⟩)
        rep) :
      ItemHandles P s (.trashItem v i ifMatch) rep
        (s.put (v, i) (row.moved (some time) revision))
  | trashTrashed {s : ItemStore} {v i : Uuid} {ifMatch : Option ItemRevision} {row : ItemRecord}
      {rep : HttpReply} (hrow : s.rows (v, i) = some row) (htrashed : row.trashedAt.isSome)
      (hmatch : ∀ r ∈ ifMatch, row.updatedAt = r)
      (hrep : Answers P
        (fun payload => TrashResult.ofJson P payload = some ⟨.alreadyTrashed, row.updatedAt⟩) rep) :
      ItemHandles P s (.trashItem v i ifMatch) rep s
  | deleteItem {s : ItemStore} {v i : Uuid} {row : ItemRecord} {time : String}
      {revision : ItemRevision} {rep : HttpReply} (hrow : s.rows (v, i) = some row)
      (hactive : row.trashedAt = none) (hfresh : revision ∉ s.history (v, i))
      (hrep : Answers P (fun _ => True) rep) :
      ItemHandles P s (.deleteItem v i) rep (s.put (v, i) (row.moved (some time) revision))
  | deleteTrashed {s : ItemStore} {v i : Uuid} {row : ItemRecord} {rep : HttpReply}
      (hrow : s.rows (v, i) = some row) (htrashed : row.trashedAt.isSome)
      (hrep : Answers P (fun _ => True) rep) :
      ItemHandles P s (.deleteItem v i) rep (s.remove (v, i))
  | restoreItem {s : ItemStore} {v i : Uuid} {row : ItemRecord} {revision : ItemRevision}
      {rep : HttpReply} (hrow : s.rows (v, i) = some row) (hfresh : revision ∉ s.history (v, i))
      (hrep : Answers P (fun _ => True) rep) :
      ItemHandles P s (.restoreItem v i) rep (s.put (v, i) (row.moved none revision))

abbrev ItemEvent := Event ItemStore ItemCall HttpReply

/-- Executions against the service, among steps of others. -/
abbrev ItemExec (P : Parsers) {α : Type} :
    ItemClient α → ItemStore → List ItemEvent → ResolverResult α → ItemStore → Prop :=
  Exec (ItemHandles P) VersionedStore.Evolves

section Service

variable {P : Parsers} {s t : ItemStore} {request : ItemCall} {rep : HttpReply} {value : Json}

/-- Every request is a step of the store. -/
theorem ItemHandles.evolves (h : ItemHandles P s request rep t) : s.Evolves t := by
  cases h with
  | refused | undelivered | listItems | getItem | trashTrashed => exact .refl s
  | createItem _ _ _ _ hfresh _ => exact .put hfresh
  | updateItem _ _ _ _ _ hfresh _ => exact .put hfresh
  | trashItem _ _ _ hfresh _ => exact .put hfresh
  | deleteItem _ _ hfresh _ => exact .put hfresh
  | deleteTrashed => exact .remove s _
  | restoreItem _ hfresh _ => exact .put hfresh

/-- A read that is answered shows the stored row. -/
theorem ItemHandles.getItem_inv {v i : Uuid} {cap : ℕ}
    (h : ItemHandles P s (.getItem v i) rep t) (hread : readReply P cap rep = .ok value) :
    t = s ∧ ∃ row, s.rows (v, i) = some row ∧ ItemRecord.ofJson P value = some row := by
  cases h with
  | refused hrep => exact absurd hread (hrep.readReply_ne_ok value)
  | undelivered hrep => exact absurd hread (hrep.readReply_ne_ok value)
  | getItem hrow hrep => exact ⟨rfl, _, hrow, hrep.of_readReply hread⟩

/-- An update that is answered was applied to a row at the revision of its `If-Match`. -/
theorem ItemHandles.updateItem_inv {v i : Uuid} {body : UpdateItemRequest}
    {ifMatch : Option ItemRevision} {cap : ℕ}
    (h : ItemHandles P s (.updateItem v i body ifMatch) rep t)
    (hread : readReply P cap rep = .ok value) :
    ∃ row row', s.rows (v, i) = some row ∧ (∀ r ∈ ifMatch, row.updatedAt = r) ∧
      t = s.put (v, i) row' ∧ row'.Holds body.toItemFields ∧
      ItemRecord.ofJson P value = some row' := by
  cases h with
  | refused hrep => exact absurd hread (hrep.readReply_ne_ok value)
  | undelivered hrep => exact absurd hread (hrep.readReply_ne_ok value)
  | updateItem hrow hmatch _ _ hholds _ hrep =>
      exact ⟨_, _, hrow, hmatch, rfl, hholds, hrep.of_readReply hread⟩

/-- A create that is answered stored a record with the fields of the request. -/
theorem ItemHandles.createItem_inv {v : Uuid} {body : CreateItemRequest} {cap : ℕ}
    (h : ItemHandles P s (.createItem v body) rep t) (hread : readReply P cap rep = .ok value) :
    ∃ row, s.rows (v, body.itemId) = none ∧ row.vaultId = v ∧ row.itemId = body.itemId ∧
      row.Holds body.toItemFields ∧ t = s.put (v, body.itemId) row ∧
      ItemRecord.ofJson P value = some row := by
  cases h with
  | refused hrep => exact absurd hread (hrep.readReply_ne_ok value)
  | undelivered hrep => exact absurd hread (hrep.readReply_ne_ok value)
  | createItem habsent hvault hitem hholds _ hrep =>
      exact ⟨_, habsent, hvault, hitem, hholds, rfl, hrep.of_readReply hread⟩

/-- A trash that is answered found the row, and its reply carries the row's revision. -/
theorem ItemHandles.trashItem_inv {v i : Uuid} {ifMatch : Option ItemRevision} {cap : ℕ}
    (h : ItemHandles P s (.trashItem v i ifMatch) rep t)
    (hread : readReply P cap rep = .ok value) :
    ∃ row row' outcome, s.rows (v, i) = some row ∧ (∀ r ∈ ifMatch, row.updatedAt = r) ∧
      t.rows (v, i) = some row' ∧ row'.trashedAt.isSome ∧
      TrashResult.ofJson P value = some ⟨outcome, row'.updatedAt⟩ := by
  cases h with
  | refused hrep => exact absurd hread (hrep.readReply_ne_ok value)
  | undelivered hrep => exact absurd hread (hrep.readReply_ne_ok value)
  | trashItem hrow _ hmatch _ hrep =>
      exact ⟨_, _, .trashed, hrow, hmatch, s.put_rows_self _ _, rfl, hrep.of_readReply hread⟩
  | trashTrashed hrow htrashed hmatch hrep =>
      exact ⟨_, _, .alreadyTrashed, hrow, hmatch, hrow, htrashed, hrep.of_readReply hread⟩

/-! ## Revisions from replies -/

/-- The reply to a request showed the revision of an item. -/
inductive ShowsRevision (P : Parsers) (v i : Uuid) (r : ItemRevision) : ItemCall → Json → Prop
  | listItems {state : ItemListState} {value : Json} {summaries : List ItemSummary}
      {summary : ItemSummary} (hsummaries : summariesOfJson P value = some summaries)
      (hsummary : summary ∈ summaries) (hitem : summary.itemId = i) (hr : summary.updatedAt = r) :
      ShowsRevision P v i r (.listItems v state) value
  | getItem {value : Json} {record : ItemRecord} (hrecord : ItemRecord.ofJson P value = some record)
      (hr : record.updatedAt = r) : ShowsRevision P v i r (.getItem v i) value
  | createItem {value : Json} {record : ItemRecord} {body : CreateItemRequest}
      (hrecord : ItemRecord.ofJson P value = some record) (hitem : body.itemId = i)
      (hr : record.updatedAt = r) : ShowsRevision P v i r (.createItem v body) value
  | updateItem {value : Json} {record : ItemRecord} {body : UpdateItemRequest}
      {ifMatch : Option ItemRevision} (hrecord : ItemRecord.ofJson P value = some record)
      (hr : record.updatedAt = r) : ShowsRevision P v i r (.updateItem v i body ifMatch) value
  | trashItem {value : Json} {result : TrashResult} {ifMatch : Option ItemRevision}
      (hresult : TrashResult.ofJson P value = some result) (hr : result.updatedAt = r) :
      ShowsRevision P v i r (.trashItem v i ifMatch) value

/-- A revision that was read from an earlier reply of the service. -/
def Obtained (P : Parsers) (v i : Uuid) (r : ItemRevision) (now : ItemStore) : Prop :=
  ∃ s request rep t cap value, ItemHandles P s request rep t ∧
    readReply P cap rep = .ok value ∧ ShowsRevision P v i r request value ∧
    Relation.ReflTransGen VersionedStore.Evolves t now

/-- What a reply shows, the row has had. -/
theorem ItemHandles.mem_history {v i : Uuid} {r : ItemRevision} {cap : ℕ}
    (h : ItemHandles P s request rep t) (hread : readReply P cap rep = .ok value)
    (hshows : ShowsRevision P v i r request value) : r ∈ t.history (v, i) := by
  -- Each reply that shows a revision shows the one of a row the store has then.
  cases hshows with
  | listItems hsummaries hsummary hitem hr =>
      cases h with
      | refused hrep => exact absurd hread (hrep.readReply_ne_ok value)
      | undelivered hrep => exact absurd hread (hrep.readReply_ne_ok value)
      | listItems hrep =>
          obtain ⟨row, hrow, hdate⟩ := hrep.of_readReply hread _ hsummaries _ hsummary
          rw [← hr, hdate, ← hitem]
          exact s.dated hrow
  | getItem hrecord hr =>
      obtain ⟨rfl, row, hrow, hvalue⟩ := h.getItem_inv hread
      cases hrecord.symm.trans hvalue
      exact hr ▸ t.dated hrow
  | createItem hrecord hitem hr =>
      obtain ⟨row, -, -, -, -, rfl, hvalue⟩ := h.createItem_inv hread
      cases hrecord.symm.trans hvalue
      rw [← hr, ← hitem]
      exact (s.put _ _).dated (s.put_rows_self _ _)
  | updateItem hrecord hr =>
      obtain ⟨-, row', -, -, rfl, -, hvalue⟩ := h.updateItem_inv hread
      cases hrecord.symm.trans hvalue
      exact hr ▸ (s.put _ _).dated (s.put_rows_self _ _)
  | trashItem hresult hr =>
      obtain ⟨-, row', outcome, -, -, hrow', -, hvalue⟩ := h.trashItem_inv hread
      cases hresult.symm.trans hvalue
      exact hr ▸ t.dated hrow'

theorem Obtained.mem_history {v i : Uuid} {r : ItemRevision} {now : ItemStore}
    (h : Obtained P v i r now) : r ∈ now.history (v, i) := by
  obtain ⟨s, request, rep, t, cap, value, hhandles, hread, hshows, hrun⟩ := h
  exact VersionedStore.mem_history_of_run hrun (hhandles.mem_history hread hshows)

end Service

/-! ## Conditional updates -/

section Update

variable {Content : Type} {A : Aead} {codec : ItemCodec Content} {P : Parsers}

/-- The metadata text of a record. -/
def openMetadata (A : Aead) (vaultKey : VaultKey) (itemId : Uuid) (record : ItemRecord) :
    ResolverResult String := do
  let bytes ← b64Decode record.metadataCiphertext "metadata_ciphertext"
  fromCrypto (decryptMetadataJson A vaultKey itemId.toBytes bytes)

/-- What an update writes over a record it has read: the same key wrap, and metadata with the stored
    flags, `favorite` apart when one is given. -/
structure Rewrites (A : Aead) (P : Parsers) (vaultKey : VaultKey) (itemId : Uuid) (kind : ItemKind)
    (favorite : Option Bool) (sensitive : Bool) (row row' : ItemRecord) : Prop where
  contentKeyWrap : row'.contentKeyWrap = row.contentKeyWrap
  metadata : ∃ stored, openMetadata A vaultKey itemId row = .ok stored ∧
    openMetadata A vaultKey itemId row' = .ok (metadataText kind
      (favorite.getD (metadataFlags P stored).1) sensitive (metadataFlags P stored).2)

/-- The flags of the written metadata are the stored ones. -/
theorem Rewrites.flags {vaultKey : VaultKey} {itemId : Uuid} {kind : ItemKind}
    {favorite : Option Bool} {sensitive : Bool} {row row' : ItemRecord}
    (h : Rewrites A P vaultKey itemId kind favorite sensitive row row') (hP : P.ReadsFlat) :
    ∃ stored written, openMetadata A vaultKey itemId row = .ok stored ∧
      openMetadata A vaultKey itemId row' = .ok written ∧
      metadataFlags P written
        = (favorite.getD (metadataFlags P stored).1, (metadataFlags P stored).2) := by
  obtain ⟨stored, hstored, hwritten⟩ := h.metadata
  exact ⟨stored, _, hstored, hwritten, metadataFlags_metadataText hP _ _ _ _⟩

variable {draw : UpdateDraw} {v i : Uuid} {vaultKey : VaultKey} {content : Content} {title : String}
  {tags : List String} {favorite : Option Bool} {sensitive : Bool} {version : ℤ}

theorem openMetadata_of_sealed (hA : A.Ideal) {nonce : FixedBytes 24} {text : String}
    {record : ItemRecord} (h : record.metadataCiphertext
      = Base64.encode (encryptMetadataJson A vaultKey i.toBytes nonce text)) :
    openMetadata A vaultKey i record = .ok text := by
  have hopen : decryptMetadataJson A vaultKey i.toBytes
      (encryptMetadataJson A vaultKey i.toBytes nonce text) = .ok text :=
    decryptText_encryptText hA.correct
  simp only [openMetadata, Except.bind_eq_ok, b64Decode_eq_ok, fromCrypto_eq_ok, h,
    Base64.decode_encode, Option.some.injEq, exists_eq_left', hopen]

/-- What a write returned is the record's revision, and the record has the ids that were asked for. -/
theorem writtenUpdatedAt_eq_ok {value : Json} {record : ItemRecord} {revision : ItemRevision}
    (hvalue : ItemRecord.ofJson P value = some record) :
    writtenUpdatedAt P v i value = .ok revision ↔
      record.itemId = i ∧ record.vaultId = v ∧ record.updatedAt = revision := by
  simp only [writtenUpdatedAt, Except.bind_eq_ok, parseRecord_eq_ok, hvalue, Option.some.injEq,
    exists_eq_left', Except.pure_eq_ok, ensureRecordMatches_eq_ok, exists_const, and_assoc]

/-- The two requests of a successful update: it read some version of the record, and later its
    request was applied with what it had read. -/
theorem updateItem_steps {ifMatch : Option ItemRevision} {s u : ItemStore} {es : List ItemEvent}
    {revision : ItemRevision}
    (h : ItemExec P (updateItem A codec P draw v i vaultKey content title tags favorite sensitive
      version ifMatch) s es (.ok revision) u) :
    ∃ pre seen rep₁ mid before rep₂ row' post record wrapBytes contentKey stored request row,
      es = pre ++ .served seen (.getItem v i) rep₁ seen :: (mid ++
        .served before (.updateItem v i request ifMatch) rep₂ (before.put (v, i) row') :: post) ∧
      Foreigns VersionedStore.Evolves pre s seen ∧ Foreigns VersionedStore.Evolves mid seen before ∧
      Foreigns VersionedStore.Evolves post (before.put (v, i) row') u ∧
      seen.rows (v, i) = some record ∧ record.itemId = i ∧ record.vaultId = v ∧
      Base64.decode record.contentKeyWrap = some wrapBytes ∧
      unwrapItemContentKey A vaultKey i.toBytes wrapBytes = .ok contentKey ∧
      openMetadata A vaultKey i record = .ok stored ∧
      buildUpdateRequest A codec draw vaultKey i contentKey record.contentKeyWrap content title tags
        sensitive (favorite.getD (metadataFlags P stored).1) (metadataFlags P stored).2 version
        = .ok request ∧
      before.rows (v, i) = some row ∧ (∀ r ∈ ifMatch, row.updatedAt = r) ∧
      row'.Holds request.toItemFields ∧ row'.itemId = i ∧ row'.vaultId = v ∧
      row'.updatedAt = revision := by
  unfold updateItem call at h
  obtain ⟨pre, seen, rep₁, seen', post, value, hes, hpre, hget, hread, h⟩ := h.ask_bind_ok
  obtain ⟨hseen', record, hrecord, hvalue⟩ := hget.getItem_inv hread
  rw [hseen'] at h hes
  obtain ⟨record', hparse, h⟩ := h.ofExcept_bind_ok
  cases (parseRecord_eq_ok.mp hparse).symm.trans hvalue
  obtain ⟨_, hids, h⟩ := h.ofExcept_bind_ok
  obtain ⟨hitem, hvault⟩ := ensureRecordMatches_eq_ok.mp hids
  obtain ⟨wrapBytes, hwrapBytes, h⟩ := h.ofExcept_bind_ok
  obtain ⟨contentKey, hcontentKey, h⟩ := h.ofExcept_bind_ok
  obtain ⟨metadataBytes, hmetadataBytes, h⟩ := h.ofExcept_bind_ok
  obtain ⟨stored, hstored, h⟩ := h.ofExcept_bind_ok
  obtain ⟨request, hrequest, h⟩ := h.ofExcept_bind_ok
  rw [Client.mapErr_ask] at h
  obtain ⟨mid, before, rep₂, after, post', value', hes', hmid, hpatch, hread', h⟩ :=
    h.ask_bind_ok
  obtain ⟨row, row', hrow, hmatch, hafter, hholds, hvalue'⟩ :=
    hpatch.updateItem_inv (Except.mapError_eq_ok.mp hread')
  rw [hafter] at h hes'
  -- The reply to the patch is the record that was written.
  obtain ⟨hwritten, hpost⟩ := Exec.done_inv h
  obtain ⟨hitem', hvault', hrevision⟩ := (writtenUpdatedAt_eq_ok hvalue').mp hwritten.symm
  have hopen : openMetadata A vaultKey i record = .ok stored := by
    simp only [openMetadata, Except.bind_eq_ok]
    exact ⟨metadataBytes, hmetadataBytes, hstored⟩
  refine ⟨pre, seen, rep₁, mid, before, rep₂, row', post', record, wrapBytes, contentKey, stored,
    request, row, ?_, hpre, hmid, hpost, hrecord, hitem, hvault, b64Decode_eq_ok.mp hwrapBytes,
    fromCrypto_eq_ok.mp hcontentKey, hopen, hrequest, hrow, hmatch, hholds, hitem', hvault',
    hrevision⟩
  rw [hes, hes']

/-- A row that holds the request of an update rewrites the record it was built from. -/
theorem rewrites_of_request (hA : A.Ideal) {record row : ItemRecord} {stored : String}
    {contentKey : ItemContentKey} {request : UpdateItemRequest}
    (hopen : openMetadata A vaultKey i record = .ok stored)
    (hrequest : buildUpdateRequest A codec draw vaultKey i contentKey record.contentKeyWrap content
      title tags sensitive (favorite.getD (metadataFlags P stored).1) (metadataFlags P stored).2
      version = .ok request)
    (hholds : row.Holds request.toItemFields) :
    Rewrites A P vaultKey i (codec.kind content) favorite sensitive record row := by
  simp only [buildUpdateRequest, Except.bind_eq_ok, Except.pure_eq_ok, sealFields_eq_ok] at hrequest
  obtain ⟨fields, ⟨contentCt, -, rfl⟩, rfl⟩ := hrequest
  exact ⟨hholds.contentKeyWrap, stored, hopen, openMetadata_of_sealed hA hholds.metadata⟩

/-- What a successful update wrote rewrites a version that it had read. -/
theorem updateItem_served (hA : A.Ideal) {ifMatch : Option ItemRevision} {s u : ItemStore}
    {es : List ItemEvent} {revision : ItemRevision}
    (h : ItemExec P (updateItem A codec P draw v i vaultKey content title tags favorite sensitive
      version ifMatch) s es (.ok revision) u) :
    ∃ seen record before request rep after row row',
      Relation.ReflTransGen VersionedStore.Evolves s seen ∧ seen.rows (v, i) = some record ∧
      Relation.ReflTransGen VersionedStore.Evolves seen before ∧
      .served before (.updateItem v i request ifMatch) rep after ∈ es ∧
      before.rows (v, i) = some row ∧ (∀ r ∈ ifMatch, row.updatedAt = r) ∧
      after = before.put (v, i) row' ∧ row'.Holds request.toItemFields ∧
      row'.updatedAt = revision ∧
      Rewrites A P vaultKey i (codec.kind content) favorite sensitive record row' := by
  obtain ⟨pre, seen, rep₁, mid, before, rep₂, row', post, record, wrapBytes, contentKey, stored,
    request, row, hes, hpre, hmid, -, hrecord, -, -, -, -, hopen, hrequest, hrow, hmatch, hholds,
    -, -, hrevision⟩ := updateItem_steps h
  have hrewrites := rewrites_of_request hA hopen hrequest hholds
  refine ⟨seen, record, before, request, rep₂, _, row, row', hpre.reflTransGen, hrecord,
    hmid.reflTransGen, ?_, hrow, hmatch, rfl, hholds, hrevision, hrewrites⟩
  rw [hes]
  simp

end Update

/-- **Conditional updates are atomic.** However the steps of others fall between its requests, an
    update that is conditional on a revision read from an earlier reply and succeeds has overwritten
    exactly that revision of the row, and it has written back the content-key wrap and the flags
    that are stored in that revision (the favorite flag when none is given). -/
theorem conditional_update_atomic {Content : Type} {A : Aead} (hA : A.Ideal)
    {codec : ItemCodec Content} {P : Parsers} {draw : UpdateDraw} {v i : Uuid} {vaultKey : VaultKey}
    {content : Content} {title : String} {tags : List String} {favorite : Option Bool}
    {sensitive : Bool} {version : ℤ} {r revision : ItemRevision} {s u : ItemStore}
    {es : List ItemEvent} (hobtained : Obtained P v i r s)
    (hexec : ItemExec P (updateItem A codec P draw v i vaultKey content title tags favorite
      sensitive version (some r)) s es (.ok revision) u) :
    ∃ before request rep after row row',
      .served before (.updateItem v i request (some r)) rep after ∈ es ∧
      before.rows (v, i) = some row ∧ row.updatedAt = r ∧
      after.rows (v, i) = some row' ∧ row'.updatedAt = revision ∧
      row'.Holds request.toItemFields ∧ row'.contentKeyWrap = row.contentKeyWrap ∧
      (∃ stored, openMetadata A vaultKey i row = .ok stored ∧
        openMetadata A vaultKey i row' = .ok (metadataText (codec.kind content)
          (favorite.getD (metadataFlags P stored).1) sensitive (metadataFlags P stored).2)) ∧
      (P.ReadsFlat → ∃ stored written, openMetadata A vaultKey i row = .ok stored ∧
        openMetadata A vaultKey i row' = .ok written ∧
        metadataFlags P written
          = (favorite.getD (metadataFlags P stored).1, (metadataFlags P stored).2)) := by
  obtain ⟨seen, record, before, request, rep, after, row, row', hseen, hrecord, hbefore, hserved,
    hrow, hmatch, rfl, hholds, hrevision, hrewrites⟩ := updateItem_served hA hexec
  have hr : row.updatedAt = r := hmatch r rfl
  -- The row still shows `r`, so the read saw the same version.
  have hold : row.updatedAt ∈ seen.history (v, i) := by
    rw [hr]
    exact VersionedStore.mem_history_of_run hseen hobtained.mem_history
  have hsame := VersionedStore.rows_eq_of_revision hbefore hrow hold
  rw [hrecord] at hsame
  cases hsame
  exact ⟨before, request, rep, _, record, row', hserved, hrow, hr, before.put_rows_self _ _,
    hrevision, hholds, hrewrites.contentKeyWrap, hrewrites.metadata, hrewrites.flags⟩

/-! ## A note that is renamed -/

/-- Notes whose body is their own text. -/
def noteCodec : ItemCodec String where
  toVec text := some (utf8 text)
  fromSlice := fromUtf8?
  kind _ := .secureNote

def exampleDraw : UpdateDraw := ⟨.replicate 24 0, .replicate 24 0, .replicate 24 0, .replicate 24 0⟩

/-- A note sealed under fixed keys. -/
def exampleFields (vaultKey : VaultKey) (itemId : Uuid) (title : String)
    (favorite reprompt : Bool) : ItemFields where
  titleCiphertext :=
    Base64.encode (encryptTitle .transparent vaultKey itemId.toBytes (.replicate 24 0) title)
  contentCiphertext := Base64.encode (xchacha20EncryptWithAad .transparent (.replicate 32 4)
    (.replicate 24 0) (utf8 "body") (bodyAad itemId.toBytes))
  tagsCiphertext := none
  titleBlindIndex := ""
  contentKeyWrap := Base64.encode (wrapItemContentKey .transparent vaultKey itemId.toBytes
    (.replicate 24 0) ⟨.replicate 32 4⟩)
  metadataCiphertext := Base64.encode (encryptMetadataJson .transparent vaultKey
    itemId.toBytes (.replicate 24 0) (metadataText .secureNote favorite false reprompt))
  sensitive := false
  wrappingKeyVersion := some 1

theorem sealFields_exampleFields (vaultKey : VaultKey) (itemId : Uuid) (title : String)
    (favorite reprompt : Bool) :
    sealFields .transparent noteCodec exampleDraw vaultKey itemId ⟨.replicate 32 4⟩
      (exampleFields vaultKey itemId title favorite reprompt).contentKeyWrap "body" title [] false
      favorite reprompt 1 = .ok (exampleFields vaultKey itemId title favorite reprompt) := rfl

/-- The note as a record. -/
def exampleRecord (vaultKey : VaultKey) (vaultId itemId : Uuid) (title revision : String)
    (favorite reprompt : Bool) : ItemRecord :=
  (exampleFields vaultKey itemId title favorite reprompt).record vaultId itemId "" ⟨revision⟩

theorem Parsers.compact_readsFlat : Parsers.compact.ReadsFlat := by
  intro members _ _
  exact ⟨.obj members, Parsers.compact_json_write _, fun _ => rfl⟩

section Example

variable {vaultKey : VaultKey} {vaultId itemId : Uuid} {title revision : String}
  {favorite reprompt : Bool}

theorem exampleRecord_vaultId :
    (exampleRecord vaultKey vaultId itemId title revision favorite reprompt).vaultId = vaultId := rfl

theorem exampleRecord_itemId :
    (exampleRecord vaultKey vaultId itemId title revision favorite reprompt).itemId = itemId := rfl

theorem exampleRecord_holds :
    (exampleRecord vaultKey vaultId itemId title revision favorite reprompt).Holds
      (exampleFields vaultKey itemId title favorite reprompt) :=
  ItemFields.holds_record _ _ _ _ _

theorem ofJson_exampleRecord (hrevision : validRfc3339 .compact revision = true) :
    ItemRecord.ofJson .compact
        (exampleRecord vaultKey vaultId itemId title revision favorite reprompt).toJson
      = some (exampleRecord vaultKey vaultId itemId title revision favorite reprompt) := by
  refine ItemRecord.ofJson_toJson hrevision ?_
  intro n hn
  cases hn
  decide

/-- The reply that carries the note answers with it. -/
theorem answers_exampleRecord (hrevision : validRfc3339 .compact revision = true) :
    Answers .compact (fun payload => ItemRecord.ofJson .compact payload
        = some (exampleRecord vaultKey vaultId itemId title revision favorite reprompt))
      (directReply
        (exampleRecord vaultKey vaultId itemId title revision favorite reprompt).toJson) :=
  .inr ⟨_, delivers_directReply (ItemRecord.bare_toJson _), ofJson_exampleRecord hrevision⟩

theorem openMetadata_exampleRecord :
    openMetadata .transparent vaultKey itemId
        (exampleRecord vaultKey vaultId itemId title revision favorite reprompt)
      = .ok (metadataText .secureNote favorite false reprompt) :=
  openMetadata_of_sealed Aead.transparent_ideal rfl

end Example

/-- Note 2 in vault 1. -/
def sourceRecord (title revision : String) : ItemRecord :=
  exampleRecord ⟨.replicate 32 3⟩ (.replicate 16 1) (.replicate 16 2) title revision true true

def oldSource : ItemRecord := sourceRecord "old" "2026-01-01T00:00:00Z"

def newSource : ItemRecord := sourceRecord "new" "2026-01-02T00:00:00Z"

theorem readReply_oldSource :
    readReply .compact maxGatewayBody (directReply oldSource.toJson) = .ok oldSource.toJson := by
  apply readReply_directReply (ItemRecord.bare_toJson _)
  simp only [oldSource, sourceRecord, exampleRecord, ItemFields.record, exampleFields,
    ItemRecord.toJson, Json.uuid, Json.orNull, Json.int, Json.write, Json.writeMembers, writeString,
    Base64.utf8_encode]
  decide +kernel

theorem readReply_newSource :
    readReply .compact maxGatewayBody (directReply newSource.toJson) = .ok newSource.toJson := by
  apply readReply_directReply (ItemRecord.bare_toJson _)
  simp only [newSource, sourceRecord, exampleRecord, ItemFields.record, exampleFields,
    ItemRecord.toJson, Json.uuid, Json.orNull, Json.int, Json.write, Json.writeMembers, writeString,
    Base64.utf8_encode]
  decide +kernel

/-- The rename of the note by a conditional update. -/
def renameNote (P : Parsers) : ItemClient ItemRevision :=
  updateItem .transparent noteCodec P exampleDraw (.replicate 16 1) (.replicate 16 2)
    ⟨.replicate 32 3⟩ "body" "new" [] none false 1 (some ⟨"2026-01-01T00:00:00Z"⟩)

/-- The requests of the rename. -/
def renameEvents (s : ItemStore) : List ItemEvent :=
  [.served s (.getItem (.replicate 16 1) (.replicate 16 2)) (directReply oldSource.toJson) s,
    .served s (.updateItem (.replicate 16 1) (.replicate 16 2)
      ⟨exampleFields ⟨.replicate 32 3⟩ (.replicate 16 2) "new" true true⟩
      (some ⟨"2026-01-01T00:00:00Z"⟩))
      (directReply newSource.toJson) (s.put (.replicate 16 1, .replicate 16 2) newSource)]

/-- A version of the note that the rename can start from: it has the first revision, the sealed key
    and a metadata text with both flags. -/
structure Renamable (old : ItemRecord) (text : String) : Prop where
  record : ItemRecord.ofJson .compact old.toJson = some old
  reply : readReply .compact maxGatewayBody (directReply old.toJson) = .ok old.toJson
  ids : old.itemId = .replicate 16 2 ∧ old.vaultId = .replicate 16 1
  wrap : old.contentKeyWrap
    = (exampleFields ⟨.replicate 32 3⟩ (.replicate 16 2) "old" true true).contentKeyWrap
  revision : old.updatedAt = ⟨"2026-01-01T00:00:00Z"⟩
  metadata : openMetadata .transparent ⟨.replicate 32 3⟩ (.replicate 16 2) old = .ok text
  flags : metadataFlags .compact text = (true, true)

theorem renamable_oldSource : Renamable oldSource (metadataText .secureNote true false true) where
  record := ofJson_exampleRecord rfl
  reply := readReply_oldSource
  ids := ⟨exampleRecord_itemId, exampleRecord_vaultId⟩
  wrap := rfl
  revision := rfl
  metadata := openMetadata_exampleRecord
  flags := metadataFlags_metadataText Parsers.compact_readsFlat _ _ _ _

section Rename

variable {s : ItemStore}

theorem handles_readNote {old : ItemRecord} {text : String} (hold : Renamable old text)
    (hrow : s.rows (.replicate 16 1, .replicate 16 2) = some old) :
    ItemHandles .compact s (.getItem (.replicate 16 1) (.replicate 16 2)) (directReply old.toJson) s :=
  .getItem hrow (.inr ⟨_, delivers_directReply (ItemRecord.bare_toJson _), hold.record⟩)

theorem handles_readSource (hrow : s.rows (.replicate 16 1, .replicate 16 2) = some oldSource) :
    ItemHandles .compact s (.getItem (.replicate 16 1) (.replicate 16 2))
      (directReply oldSource.toJson) s :=
  handles_readNote renamable_oldSource hrow

theorem handles_renameNote {old : ItemRecord} {text : String} (hold : Renamable old text)
    (hrow : s.rows (.replicate 16 1, .replicate 16 2) = some old)
    (hfresh : newSource.updatedAt ∉ s.history (.replicate 16 1, .replicate 16 2)) :
    ItemHandles .compact s (.updateItem (.replicate 16 1) (.replicate 16 2)
      ⟨exampleFields ⟨.replicate 32 3⟩ (.replicate 16 2) "new" true true⟩
      (some ⟨"2026-01-01T00:00:00Z"⟩))
      (directReply newSource.toJson) (s.put (.replicate 16 1, .replicate 16 2) newSource) := by
  have hvault : newSource.vaultId = old.vaultId := exampleRecord_vaultId.trans hold.ids.2.symm
  have hitem : newSource.itemId = old.itemId := exampleRecord_itemId.trans hold.ids.1.symm
  refine .updateItem hrow ?_ hvault hitem exampleRecord_holds hfresh (answers_exampleRecord rfl)
  intro r hr
  rw [hold.revision]
  exact Option.some.inj hr

/-- The note is renamed from any state of the store that holds such a version of it. -/
theorem exec_rename {old : ItemRecord} {text : String} (hold : Renamable old text)
    (hrow : s.rows (.replicate 16 1, .replicate 16 2) = some old)
    (hfresh : newSource.updatedAt ∉ s.history (.replicate 16 1, .replicate 16 2)) :
    ItemExec .compact (renameNote .compact) s
      [.served s (.getItem (.replicate 16 1) (.replicate 16 2)) (directReply old.toJson) s,
        .served s (.updateItem (.replicate 16 1) (.replicate 16 2)
          ⟨exampleFields ⟨.replicate 32 3⟩ (.replicate 16 2) "new" true true⟩
          (some ⟨"2026-01-01T00:00:00Z"⟩))
          (directReply newSource.toJson) (s.put (.replicate 16 1, .replicate 16 2) newSource)]
      (.ok newSource.updatedAt) (s.put (.replicate 16 1, .replicate 16 2) newSource) := by
  have hmetadata := hold.metadata
  simp only [openMetadata, Except.bind_eq_ok] at hmetadata
  obtain ⟨bytes, hbytes, hopen⟩ := hmetadata
  have hnew : ItemRecord.ofJson .compact newSource.toJson = some newSource :=
    ofJson_exampleRecord rfl
  have hids : ensureRecordMatches (.replicate 16 1) (.replicate 16 2) old = .ok () :=
    ensureRecordMatches_eq_ok.mpr hold.ids
  have hids' : ensureRecordMatches (.replicate 16 1) (.replicate 16 2) newSource = .ok () :=
    ensureRecordMatches_eq_ok.mpr ⟨exampleRecord_itemId, exampleRecord_vaultId⟩
  unfold renameNote updateItem
  refine Exec.ask_bind (handles_readNote hold hrow) hold.reply ?_
  refine Exec.ofExcept_bind (parseRecord_eq_ok.mpr hold.record) ?_
  refine Exec.ofExcept_bind hids ?_
  rw [hold.wrap]
  refine Exec.ofExcept_bind (b64Decode_eq_ok.mpr (Base64.decode_encode _)) ?_
  refine Exec.ofExcept_bind
    (fromCrypto_eq_ok.mpr (unwrapItemContentKey_wrap Aead.transparent_ideal)) ?_
  refine Exec.ofExcept_bind hbytes (Exec.ofExcept_bind hopen ?_)
  rw [hold.flags]
  refine Exec.ofExcept_bind
    (a := ⟨exampleFields ⟨.replicate 32 3⟩ (.replicate 16 2) "new" true true⟩) rfl ?_
  refine Exec.ask_bind (handles_renameNote hold hrow hfresh)
    (Except.mapError_eq_ok.mpr readReply_newSource) (Exec.ofExcept ?_)
  simp only [writtenUpdatedAt, Except.bind_eq_ok, parseRecord_eq_ok, hnew]
  exact ⟨newSource, rfl, (), hids', rfl⟩

theorem handles_renameSource (hrow : s.rows (.replicate 16 1, .replicate 16 2) = some oldSource)
    (hfresh : newSource.updatedAt ∉ s.history (.replicate 16 1, .replicate 16 2)) :
    ItemHandles .compact s (.updateItem (.replicate 16 1) (.replicate 16 2)
      ⟨exampleFields ⟨.replicate 32 3⟩ (.replicate 16 2) "new" true true⟩
      (some ⟨"2026-01-01T00:00:00Z"⟩))
      (directReply newSource.toJson) (s.put (.replicate 16 1, .replicate 16 2) newSource) :=
  handles_renameNote renamable_oldSource hrow hfresh

theorem exec_renameNote (hrow : s.rows (.replicate 16 1, .replicate 16 2) = some oldSource)
    (hfresh : newSource.updatedAt ∉ s.history (.replicate 16 1, .replicate 16 2)) :
    ItemExec .compact (renameNote .compact) s (renameEvents s) (.ok newSource.updatedAt)
      (s.put (.replicate 16 1, .replicate 16 2) newSource) :=
  exec_rename renamable_oldSource hrow hfresh

end Rename

/-- The store that holds nothing yet. -/
def emptyStore : ItemStore := ⟨fun _ => none, fun _ => [], fun h => by simp at h⟩

/-- The store that holds the note. -/
def noteStore : ItemStore := emptyStore.put (.replicate 16 1, .replicate 16 2) oldSource

theorem noteStore_rows : noteStore.rows (.replicate 16 1, .replicate 16 2) = some oldSource :=
  emptyStore.put_rows_self _ _

theorem noteStore_fresh :
    newSource.updatedAt ∉ noteStore.history (.replicate 16 1, .replicate 16 2) := by
  unfold noteStore
  rw [VersionedStore.put_history_self]
  decide

/-- The renamed note keeps its flags. -/
theorem conditional_update_atomic_rename :
    ∃ (u : ItemStore) (row row' : ItemRecord) (written : String),
      ItemExec .compact (renameNote .compact) noteStore (renameEvents noteStore)
        (.ok newSource.updatedAt) u ∧
      row.updatedAt = ⟨"2026-01-01T00:00:00Z"⟩ ∧ row'.contentKeyWrap = row.contentKeyWrap ∧
      openMetadata .transparent ⟨.replicate 32 3⟩ (.replicate 16 2) row' = .ok written ∧
      ∃ stored, openMetadata .transparent ⟨.replicate 32 3⟩ (.replicate 16 2) row = .ok stored ∧
        metadataFlags .compact written = metadataFlags .compact stored := by
  have hobtained : Obtained .compact (.replicate 16 1) (.replicate 16 2)
      ⟨"2026-01-01T00:00:00Z"⟩ noteStore :=
    ⟨noteStore, _, _, noteStore, maxGatewayBody, _, handles_readSource noteStore_rows,
      readReply_oldSource, .getItem (ofJson_exampleRecord rfl) rfl, .refl⟩
  have hexec := exec_renameNote noteStore_rows noteStore_fresh
  obtain ⟨before, request, rep, after, row, row', -, -, hr, -, -, -, hwrap, -, hflags⟩ :=
    conditional_update_atomic Aead.transparent_ideal hobtained hexec
  obtain ⟨stored, written, hrowStored, hwritten, heq⟩ := hflags Parsers.compact_readsFlat
  exact ⟨_, row, row', written, hexec, hr, hwrap, hwritten, stored, hrowStored, heq⟩

end SerenSecrets
