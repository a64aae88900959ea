import SerenSecrets.Lib.Reader
import SerenSecrets.Protocol.ItemContent
import SerenSecrets.Resolver.ItemService

set_option autoImplicit false

/-! # Items over whole runs

A create and any number of updates write an item; a read opens it. Each of them seals or opens five
fields on its own, and an update takes the content key, its wrap and the flags from the version it
has read. What carries from write to write is `SealedRow`: the stored row holds the seals of the last
write, under the content key of the create.

So a read returns what was written last, with the flags as they were last set
(`item_run_reads_last_write`). -/

namespace SerenSecrets

/-! ## Contents on the wire -/

def ItemContent.itemKind : ItemContent → ItemKind
  | login _ => .login
  | secureNote _ => .secureNote
  | apiCredential _ => .apiCredential
  | card _ => .card
  | identity _ => .identity
  | document _ => .document
  | sshKey _ => .sshKey
  | server _ => .server
  | database _ => .database
  | bankAccount _ => .bankAccount
  | passport _ => .passport
  | driverLicense _ => .driverLicense
  | cryptoWallet _ => .cryptoWallet

/-- Contents as JSON texts. -/
def itemCodec (P : Parsers) : ItemCodec ItemContent where
  toVec content := some (ItemContent.codec.write content).write
  fromSlice text := (P.json text).bind ItemContent.codec.read
  kind := ItemContent.itemKind

theorem tagsOfJson_arr {elems : List Json} {tags : List String}
    (h : List.Forall₂ (fun j tag => JsonCodec.string.read j = some tag) elems tags) :
    tagsOfJson (.arr elems) = some tags := by
  show elems.mapM _ = some tags
  induction h with
  | nil => rfl
  | @cons j tag _ _ htag _ ih =>
      cases j with
      | str s =>
          obtain rfl := Option.some.inj htag
          rw [List.mapM_cons, ih]
          rfl
      | _ => cases htag

section Reading

variable {P : Parsers} (hP : JsonReader P.json 127)

include hP

/-- Tags are flat texts, so they are always read back. -/
theorem tags_read (tags : List String) : (P.json (tagsToVec tags)).bind tagsOfJson = some tags := by
  have hdepth : ((JsonCodec.list .string).write tags).depth ≤ 127 :=
    Json.depth_arr_le.mpr (List.forall_mem_map.mpr fun _ _ => Nat.zero_le _)
  have hfloat : ((JsonCodec.list .string).write tags).floatFree = true :=
    Json.floatFree_arr.mpr (List.forall_mem_map.mpr fun _ _ => rfl)
  obtain ⟨j, hj, hread⟩ :=
    Option.bind_eq_some_iff.mp (hP.read_codec_floatFree (.list .string) hdepth hfloat)
  refine Option.bind_eq_some_iff.mpr ⟨j, hj, ?_⟩
  cases j with
  | arr elems => exact tagsOfJson_arr (JsonCodec.readElems_eq_some.mp hread).flip
  | _ => cases hread

theorem readsFlat_of_reader : P.ReadsFlat := by
  intro members hkeys hflat
  have hatom : ∀ m ∈ members, m.2.distinctKeys = true ∧ m.2.depth = 0 ∧ m.2.numbers = [] ∧
      ∀ b, m.2.Reordered b → b = m.2 := by
    intro m hm
    obtain ⟨k, a⟩ := m
    rcases hflat _ hm with ⟨s, rfl⟩ | ⟨b, rfl⟩
    · exact ⟨rfl, rfl, rfl, fun b hb => by rwa [Json.Reordered] at hb⟩
    · exact ⟨rfl, rfl, rfl, fun b hb => by rwa [Json.Reordered] at hb⟩
  have hdistinct : (Json.obj members).distinctKeys = true :=
    Json.distinctKeys_obj.mpr ⟨hkeys, fun m hm => (hatom m hm).1⟩
  obtain ⟨value, hvalue, hreordered⟩ := hP.reads hdistinct
    (Json.depth_obj_le.mpr fun m hm => by rw [(hatom m hm).2.1]; exact Nat.zero_le _)
    (fun n hn => by
      obtain ⟨m, hm, hnm⟩ := Json.mem_numbersMembers.mp hn
      rw [(hatom m hm).2.2.1] at hnm
      exact absurd hnm List.not_mem_nil)
  refine ⟨value, hvalue, ?_⟩
  intro key
  have hrel := hreordered.get? hdistinct key
  generalize value.get? key = found at hrel
  cases hget : (Json.obj members).get? key with
  | none =>
      rw [hget] at hrel
      cases hrel
      rfl
  | some a =>
      have hmem := (Json.get?_eq_some_iff hkeys).mp hget
      rw [hget] at hrel
      cases hrel with
      | some hab => rw [(hatom _ hmem).2.2.2 _ hab]

end Reading

/-! ## Writes of an item -/

/-- What a create or an update writes; `favorite` is absent where an update keeps the flag. -/
structure ItemWrite (Content : Type) where
  content : Content
  title : String
  tags : List String
  favorite : Option Bool
  sensitive : Bool

/-- The favorite flag that was given last, the latest write first. -/
def lastFavorite {Content : Type} : List (ItemWrite Content) → Bool
  | [] => false
  | w :: earlier => w.favorite.getD (lastFavorite earlier)

/-- No step of others touches the item. -/
def Quiet (v i : Uuid) (es : List ItemEvent) : Prop :=
  ∀ before after, .foreign before after ∈ es → after.rows (v, i) = before.rows (v, i)

section Runs

variable {Content : Type} (A : Aead) (codec : ItemCodec Content) (P : Parsers)
  (vaultKey : VaultKey) (v i : Uuid)

/-- A create and then updates of one item, all successful: the store after the create, the writes
    with the latest first, and the store at the end. -/
inductive ItemRun : ItemStore → List (ItemWrite Content) → ItemStore → Prop
  | create {draw : CreateDraw} {content : Content} {title : String} {tags : List String}
      {favorite sensitive : Bool} {version : ℤ} {revision : ItemRevision} {s u : ItemStore}
      {es : List ItemEvent}
      (hexec : ItemExec P (createItemWithId A codec P draw v i vaultKey content title tags favorite
        sensitive version) s es (.ok revision) u)
      (hquiet : Quiet v i es) :
      ItemRun u [⟨content, title, tags, some favorite, sensitive⟩] u
  | update {created : ItemStore} {earlier : List (ItemWrite Content)} {s u : ItemStore}
      {draw : UpdateDraw} {content : Content} {title : String} {tags : List String}
      {favorite : Option Bool} {sensitive : Bool} {version : ℤ} {ifMatch : Option ItemRevision}
      {revision : ItemRevision} {es : List ItemEvent} (hrun : ItemRun created earlier s)
      (hexec : ItemExec P (updateItem A codec P draw v i vaultKey content title tags favorite
        sensitive version ifMatch) s es (.ok revision) u)
      (hquiet : Quiet v i es) :
      ItemRun created (⟨content, title, tags, favorite, sensitive⟩ :: earlier) u

/-- The row holds the seals of a write under a content key, which is wrapped under a nonce. -/
structure SealedRow (contentKey : ItemContentKey) (nonce : FixedBytes 24) (w : ItemWrite Content)
    (favorite : Bool) (row : ItemRecord) : Prop where
  itemId : row.itemId = i
  vaultId : row.vaultId = v
  holds : ∃ draw version fields, sealFields A codec draw vaultKey i contentKey
    (Base64.encode (wrapItemContentKey A vaultKey i.toBytes nonce contentKey)) w.content w.title
    w.tags w.sensitive favorite false version = .ok fields ∧ row.Holds fields

end Runs

section Invariant

variable {Content : Type} {A : Aead} {codec : ItemCodec Content} {P : Parsers}
  {vaultKey : VaultKey} {v i : Uuid} {s u : ItemStore} {es : List ItemEvent}

theorem Quiet.rows_eq (h : Foreigns VersionedStore.Evolves es s u) (hquiet : Quiet v i es) :
    u.rows (v, i) = s.rows (v, i) := by
  refine h.invariant (I := fun t => t.rows (v, i) = s.rows (v, i)) ?_ rfl
  intro before after hmem _ hbefore
  rw [hquiet before after hmem, hbefore]

theorem SealedRow.contentKeyWrap {contentKey : ItemContentKey} {nonce : FixedBytes 24}
    {w : ItemWrite Content} {favorite : Bool} {row : ItemRecord}
    (h : SealedRow A codec vaultKey v i contentKey nonce w favorite row) :
    row.contentKeyWrap
      = Base64.encode (wrapItemContentKey A vaultKey i.toBytes nonce contentKey) := by
  obtain ⟨draw, version, fields, hseal, hholds⟩ := h.holds
  obtain ⟨contentCt, -, rfl⟩ := sealFields_eq_ok.mp hseal
  exact hholds.contentKeyWrap

theorem SealedRow.openMetadata (hA : A.Ideal) {contentKey : ItemContentKey}
    {nonce : FixedBytes 24} {w : ItemWrite Content} {favorite : Bool} {row : ItemRecord}
    (h : SealedRow A codec vaultKey v i contentKey nonce w favorite row) :
    SerenSecrets.openMetadata A vaultKey i row
      = .ok (metadataText (codec.kind w.content) favorite w.sensitive false) := by
  obtain ⟨draw, version, fields, hseal, hholds⟩ := h.holds
  obtain ⟨contentCt, -, rfl⟩ := sealFields_eq_ok.mp hseal
  exact openMetadata_of_sealed hA hholds.metadata

/-- A successful create stores the seals of what it was given. -/
theorem createItemWithId_sealed {draw : CreateDraw} {content : Content} {title : String}
    {tags : List String} {favorite sensitive : Bool} {version : ℤ} {revision : ItemRevision}
    (hexec : ItemExec P (createItemWithId A codec P draw v i vaultKey content title tags favorite
      sensitive version) s es (.ok revision) u) (hquiet : Quiet v i es) :
    ∃ row, u.rows (v, i) = some row ∧
      SealedRow A codec vaultKey v i draw.contentKey draw.contentKeyNonce
        ⟨content, title, tags, some favorite, sensitive⟩ favorite row := by
  unfold createItemWithId call at hexec
  obtain ⟨body, hbody, h⟩ := hexec.ofExcept_bind_ok
  simp only [buildCreateRequest, Except.bind_eq_ok, Except.pure_eq_ok] at hbody
  obtain ⟨fields, hseal, rfl⟩ := hbody
  rw [Client.mapErr_ask] at h
  obtain ⟨pre, before, rep, after, post, value, hes, -, hcreate, hread, h⟩ := h.ask_bind_ok
  obtain ⟨row, -, hvault, hitem, hholds, hafter, -⟩ :=
    hcreate.createItem_inv (Except.mapError_eq_ok.mp hread)
  rw [hafter] at h
  obtain ⟨-, hpost⟩ := Exec.done_inv h
  refine ⟨row, ?_, hitem, hvault, draw.toUpdateDraw, version, fields, hseal, hholds⟩
  have hquietPost : Quiet v i post := by
    intro x y hxy
    exact hquiet x y (by rw [hes]; simp [hxy])
  rw [hquietPost.rows_eq hpost]
  exact before.put_rows_self _ _

/-- A successful update replaces the seals of a write by those of its own, under the same content
    key and with the flags it does not set. -/
theorem updateItem_sealed (hA : A.Ideal) (hP : P.ReadsFlat) {contentKey : ItemContentKey}
    {nonce : FixedBytes 24} {w : ItemWrite Content} {stored : Bool} {row : ItemRecord}
    (hrow : s.rows (v, i) = some row)
    (hsealed : SealedRow A codec vaultKey v i contentKey nonce w stored row) {draw : UpdateDraw}
    {content : Content} {title : String} {tags : List String} {favorite : Option Bool}
    {sensitive : Bool} {version : ℤ} {ifMatch : Option ItemRevision} {revision : ItemRevision}
    (hexec : ItemExec P (updateItem A codec P draw v i vaultKey content title tags favorite
      sensitive version ifMatch) s es (.ok revision) u) (hquiet : Quiet v i es) :
    ∃ row', u.rows (v, i) = some row' ∧
      SealedRow A codec vaultKey v i contentKey nonce ⟨content, title, tags, favorite, sensitive⟩
        (favorite.getD stored) row' := by
  obtain ⟨pre, seen, rep₁, mid, before, rep₂, row', post, record, wrapBytes, contentKey', metadata,
    request, -, hes, hpre, -, hpost, hrecord, -, -, hwrapBytes, hcontentKey, hmetadata, hrequest,
    -, -, hholds, hitem, hvault, -⟩ := updateItem_steps hexec
  have hquietPre : Quiet v i pre := fun x y hxy => hquiet x y (by rw [hes]; simp [hxy])
  have hquietPost : Quiet v i post := fun x y hxy => hquiet x y (by rw [hes]; simp [hxy])
  -- The update has read the row that the previous write left.
  rw [hquietPre.rows_eq hpre, hrow] at hrecord
  obtain rfl := Option.some.inj hrecord
  rw [hsealed.contentKeyWrap, Base64.decode_encode] at hwrapBytes
  rw [← Option.some.inj hwrapBytes, unwrapItemContentKey_wrap hA] at hcontentKey
  obtain rfl := Except.ok.inj hcontentKey
  rw [hsealed.openMetadata hA] at hmetadata
  obtain rfl := Except.ok.inj hmetadata
  rw [metadataFlags_metadataText hP, hsealed.contentKeyWrap] at hrequest
  simp only [buildUpdateRequest, Except.bind_eq_ok, Except.pure_eq_ok] at hrequest
  obtain ⟨fields, hseal, rfl⟩ := hrequest
  refine ⟨row', ?_, hitem, hvault, draw, version, fields, hseal, hholds⟩
  rw [hquietPost.rows_eq hpost]
  exact before.put_rows_self _ _

/-- **After every run the stored row holds the seals of the last write**, with the wrap of the
    create. -/
theorem ItemRun.sealed (hA : A.Ideal) (hP : P.ReadsFlat) {created : ItemStore}
    {writes : List (ItemWrite Content)} (hrun : ItemRun A codec P vaultKey v i created writes s) :
    ∃ contentKey nonce w earlier row₀ row, writes = w :: earlier ∧
      created.rows (v, i) = some row₀ ∧ s.rows (v, i) = some row ∧
      row₀.contentKeyWrap
        = Base64.encode (wrapItemContentKey A vaultKey i.toBytes nonce contentKey) ∧
      SealedRow A codec vaultKey v i contentKey nonce w (lastFavorite writes) row := by
  induction hrun with
  | create hexec hquiet =>
      obtain ⟨row, hrow, hsealed⟩ := createItemWithId_sealed hexec hquiet
      exact ⟨_, _, _, [], row, row, rfl, hrow, hrow, hsealed.contentKeyWrap, hsealed⟩
  | update _ hexec hquiet ih =>
      obtain ⟨contentKey, nonce, w, earlier, row₀, row, -, hrow₀, hrow, hwrap, hsealed⟩ := ih
      obtain ⟨row', hrow', hsealed'⟩ := updateItem_sealed hA hP hrow hsealed hexec hquiet
      exact ⟨contentKey, nonce, _, _, row₀, row', rfl, hrow₀, hrow', hwrap, hsealed'⟩

end Invariant

/-! ## Reading an item -/

/-- The kind in a metadata text. -/
def metadataKind (P : Parsers) (metadataJson : String) : Option String := do
  let value ← P.json (utf8 metadataJson)
  let kind ← value.get? "item_kind"
  kind.asStr?

section Reads

variable {Content : Type} {A : Aead} {codec : ItemCodec Content} {P : Parsers}
  {vaultKey : VaultKey} {v i : Uuid} {s t : ItemStore}

theorem metadataKind_metadataText (hP : P.ReadsFlat) (kind : ItemKind)
    (favorite sensitive reprompt : Bool) :
    metadataKind P (metadataText kind favorite sensitive reprompt) = some kind.str := by
  obtain ⟨value, hvalue, hget⟩ := hP (metadataMembers kind favorite sensitive reprompt)
    (by simp [metadataMembers]) (by simp [metadataMembers])
  unfold metadataKind
  rw [utf8_metadataText, hvalue]
  simp only [Option.bind_eq_bind, Option.bind_some, hget]
  rfl

/-- A read whose reply carries a record opens that record. -/
theorem run_getItem_record {rep : HttpReply} {value : Json} {record : ItemRecord}
    (hread : readReply P maxGatewayBody rep = .ok value)
    (hrecord : ItemRecord.ofJson P value = some record) :
    (getItem A codec P v i vaultKey).run (fun _ => rep)
      = decryptItemRecord A codec P vaultKey v i record := by
  have hparse : parseRecord P "item record" value = .ok record := parseRecord_eq_ok.mpr hrecord
  simp only [getItem, call, Client.run_bind]
  simp only [Client.ask, Client.ofExcept, Client.run, hread, hparse, bind, Except.bind]

/-- A read that is answered opens the stored row. -/
theorem run_getItem {rep : HttpReply} {value : Json} {row : ItemRecord}
    (hget : ItemHandles P s (.getItem v i) rep t)
    (hread : readReply P maxGatewayBody rep = .ok value) (hrow : s.rows (v, i) = some row) :
    (getItem A codec P v i vaultKey).run (fun _ => rep)
      = decryptItemRecord A codec P vaultKey v i row := by
  obtain ⟨-, row', hrow', hvalue⟩ := hget.getItem_inv hread
  cases hrow.symm.trans hrow'
  exact run_getItem_record hread hvalue

/-- A record with the seals of a content opens to it, if the text of the content is read back. -/
theorem decryptItemRecord_itemCodec (hA : A.Ideal) (hP : JsonReader P.json 127)
    {draw : UpdateDraw} {contentKey : ItemContentKey} {nonce : FixedBytes 24}
    {content : ItemContent} {title : String} {tags : List String}
    {sensitive favorite reprompt : Bool} {version : ℤ} {fields : ItemFields}
    (hseal : sealFields A (itemCodec P) draw vaultKey i contentKey
      (Base64.encode (wrapItemContentKey A vaultKey i.toBytes nonce contentKey)) content title tags
      sensitive favorite reprompt version = .ok fields)
    {record : ItemRecord} (hholds : record.Holds fields) (hitem : record.itemId = i)
    (hvault : record.vaultId = v) {trashedAt : Option ServiceTimestamp}
    (htime : itemTrashedAt P record.trashedAt = .ok trashedAt)
    (hcontent : (itemCodec P).fromSlice (ItemContent.codec.write content).write = some content) :
    decryptItemRecord A (itemCodec P) P vaultKey v i record = .ok
      { itemId := i, title, tags, sensitive, content,
        metadataJson := metadataText content.itemKind favorite sensitive reprompt,
        updatedAt := record.updatedAt, trashedAt } := by
  obtain ⟨contentCt, -, hfields⟩ := sealFields_eq_ok.mp hseal
  obtain rfl : record.sensitive = sensitive := by rw [hholds.sensitive, hfields]
  refine decryptItemRecord_sealed hA hseal hholds hitem hvault htime ?_ (.inr (tags_read hP tags))
  intro json hjson
  rw [← Option.some.inj hjson]
  exact hcontent

end Reads

/-! ## Records of other items -/

/-- The reply carries a record of another vault or item. -/
def Mismatched (P : Parsers) (v i : Uuid) (rep : HttpReply) : Prop :=
  ∃ value record, readReply P maxGatewayBody rep = .ok value ∧
    ItemRecord.ofJson P value = some record ∧ (record.itemId ≠ i ∨ record.vaultId ≠ v)

section Refusing

variable {Content : Type} {A : Aead} {codec : ItemCodec Content} {P : Parsers}
  {vaultKey : VaultKey} {v i : Uuid}

theorem ensureRecordMatches_mismatch {record : ItemRecord}
    (h : record.itemId ≠ i ∨ record.vaultId ≠ v) :
    ensureRecordMatches v i record = .error .responseMismatch := if_pos h

theorem writtenUpdatedAt_mismatch {value : Json} {record : ItemRecord}
    (hvalue : ItemRecord.ofJson P value = some record)
    (h : record.itemId ≠ i ∨ record.vaultId ≠ v) :
    writtenUpdatedAt P v i value = .error .responseMismatch := by
  rw [writtenUpdatedAt, parseRecord_eq_ok.mpr hvalue]
  show (ensureRecordMatches v i record >>= fun _ => pure record.updatedAt) = _
  rw [ensureRecordMatches_mismatch h]
  rfl

theorem getItem_refuses :
    (getItem A codec P v i vaultKey).Refuses (Mismatched P v i) .responseMismatch := by
  unfold getItem call
  refine Client.refuses_ask_bind ?_ ?_
  · rintro rep ⟨value, record, hread, hrecord, hids⟩
    refine ⟨value, hread, ?_⟩
    rw [parseRecord_eq_ok.mpr hrecord]
    show Client.ofExcept (decryptItemRecord A codec P vaultKey v i record) = _
    rw [decryptItemRecord, ensureRecordMatches_mismatch hids]
    rfl
  · intro value
    exact Client.refuses_ofExcept_bind fun record _ => Client.refuses_ofExcept _

/-- The last step of both writes: whatever the error is turned into, a success with a record of
    another item is refused. -/
theorem write_refuses (request : ItemCall) (onError : ResolverError → ResolverError) :
    (do
      let value ← (call P request).mapErr onError
      .ofExcept (writtenUpdatedAt P v i value) : ItemClient ItemRevision).Refuses
        (Mismatched P v i) .responseMismatch := by
  rw [call, Client.mapErr_ask]
  refine Client.refuses_ask_bind ?_ fun value => Client.refuses_ofExcept _
  rintro rep ⟨value, record, hread, hrecord, hids⟩
  refine ⟨value, Except.mapError_eq_ok.mpr hread, ?_⟩
  rw [writtenUpdatedAt_mismatch hrecord hids]
  rfl

theorem createItemWithId_refuses {draw : CreateDraw} {content : Content} {title : String}
    {tags : List String} {favorite sensitive : Bool} {version : ℤ} :
    (createItemWithId A codec P draw v i vaultKey content title tags favorite sensitive
      version).Refuses (Mismatched P v i) .responseMismatch := by
  unfold createItemWithId
  exact Client.refuses_ofExcept_bind fun request _ => write_refuses (.createItem v request) _

theorem updateItem_refuses {draw : UpdateDraw} {content : Content} {title : String}
    {tags : List String} {favorite : Option Bool} {sensitive : Bool} {version : ℤ}
    {ifMatch : Option ItemRevision} :
    (updateItem A codec P draw v i vaultKey content title tags favorite sensitive version
      ifMatch).Refuses (Mismatched P v i) .responseMismatch := by
  unfold updateItem call
  refine Client.refuses_ask_bind ?_ ?_
  · rintro rep ⟨value, record, hread, hrecord, hids⟩
    refine ⟨value, hread, ?_⟩
    rw [parseRecord_eq_ok.mpr hrecord]
    show (Client.ofExcept (ensureRecordMatches v i record) >>= _) = _
    rw [ensureRecordMatches_mismatch hids]
    rfl
  · intro value
    refine Client.refuses_ofExcept_bind fun record _ => ?_
    refine Client.refuses_ofExcept_bind fun _ _ => ?_
    refine Client.refuses_ofExcept_bind fun wrapBytes _ => ?_
    refine Client.refuses_ofExcept_bind fun contentKey _ => ?_
    refine Client.refuses_ofExcept_bind fun metadataBytes _ => ?_
    refine Client.refuses_ofExcept_bind fun metadata _ => ?_
    refine Client.refuses_ofExcept_bind fun request _ => ?_
    exact write_refuses (.updateItem v i request ifMatch) _

end Refusing

/-! ## Runs and reads -/

/-- **Create, update and read agree.** After a create and any updates that succeeded, a read that is
    answered returns the last content, title, tags and sensitive flag; its metadata has the favorite
    flag that was given last, no reprompt, and the kind of the last content; and the content-key wrap
    is the one of the create. A record of another vault or item is refused by all three. -/
theorem item_run_reads_last_write {A : Aead} (hA : A.Ideal) {P : Parsers}
    (hP : JsonReader P.json 127) {vaultKey : VaultKey} {v i : Uuid} :
    (∀ {created s : ItemStore} {w : ItemWrite ItemContent} {earlier : List (ItemWrite ItemContent)},
      ItemRun A (itemCodec P) P vaultKey v i created (w :: earlier) s →
      (ItemContent.codec.write w.content).floatFree = true →
      (ItemContent.codec.write w.content).depth ≤ 127 →
      ∃ row₀ row, created.rows (v, i) = some row₀ ∧ s.rows (v, i) = some row ∧
        row.contentKeyWrap = row₀.contentKeyWrap ∧
        ∀ trashedAt rep t value, itemTrashedAt P row.trashedAt = .ok trashedAt →
          ItemHandles P s (.getItem v i) rep t → readReply P maxGatewayBody rep = .ok value →
          ∃ item, (getItem A (itemCodec P) P v i vaultKey).run (fun _ => rep) = .ok item ∧
            item.itemId = i ∧ item.content = w.content ∧ item.title = w.title ∧
            item.tags = w.tags ∧ item.sensitive = w.sensitive ∧
            metadataFlags P item.metadataJson = (lastFavorite (w :: earlier), false) ∧
            metadataKind P item.metadataJson = some w.content.itemKind.str) ∧
    (∀ {σ : Type} {handle : σ → ItemCall → HttpReply → σ → Prop} {foreign : σ → σ → Prop}
      {s before after u : σ} {es : List (Event σ ItemCall HttpReply)} {request : ItemCall}
      {rep : HttpReply}, .served before request rep after ∈ es → Mismatched P v i rep →
      (∀ {result}, Exec handle foreign (getItem A (itemCodec P) P v i vaultKey) s es result u →
        result = .error .responseMismatch) ∧
      (∀ {draw content title tags favorite sensitive version result},
        Exec handle foreign (createItemWithId A (itemCodec P) P draw v i vaultKey content title tags
          favorite sensitive version) s es result u → result = .error .responseMismatch) ∧
      ∀ {draw content title tags favorite sensitive version ifMatch result},
        Exec handle foreign (updateItem A (itemCodec P) P draw v i vaultKey content title tags
          favorite sensitive version ifMatch) s es result u →
        result = .error .responseMismatch) := by
  have hflat := readsFlat_of_reader hP
  refine ⟨?_, ?_⟩
  · intro created s w earlier hrun hfloat hdepth
    obtain ⟨contentKey, nonce, w', earlier', row₀, row, hwrites, hrow₀, hrow, hwrap, hsealed⟩ :=
      hrun.sealed hA hflat
    obtain ⟨rfl, rfl⟩ := List.cons.inj hwrites
    refine ⟨row₀, row, hrow₀, hrow, hsealed.contentKeyWrap.trans hwrap.symm, ?_⟩
    intro trashedAt rep t value htime hget hread
    obtain ⟨draw, version, fields, hseal, hholds⟩ := hsealed.holds
    have hopen := decryptItemRecord_itemCodec hA hP hseal hholds hsealed.itemId hsealed.vaultId htime
      (hP.read_codec_floatFree ItemContent.codec hdepth hfloat)
    refine ⟨_, (run_getItem hget hread hrow).trans hopen, rfl, rfl, rfl, rfl, rfl,
      metadataFlags_metadataText hflat _ _ _ _, metadataKind_metadataText hflat _ _ _ _⟩
  · intro σ handle foreign s before after u es request rep hmem hbad
    exact ⟨fun hexec => hexec.refuses getItem_refuses hmem hbad,
      fun hexec => hexec.refuses createItemWithId_refuses hmem hbad,
      fun hexec => hexec.refuses updateItem_refuses hmem hbad⟩

/-! ## A note that is created, updated and read -/

/-- The compact reader with the nesting limit, and no calendar. -/
noncomputable def Parsers.bounded : Parsers := ⟨readCompact 127, fun _ => true⟩

theorem Parsers.bounded_reader : JsonReader Parsers.bounded.json 127 := readCompact_reader 127

/-- A record is an object of texts, numbers and flags. -/
theorem depth_toJson (record : ItemRecord) : record.toJson.depth ≤ 1 := by
  have htext (text : Option String) : (Json.orNull .str text).depth = 0 := by cases text <;> rfl
  have hint (n : Option ℤ) : (Json.orNull Json.int n).depth = 0 := by cases n <;> rfl
  refine Json.depth_obj_le.mpr ?_
  simp [htext, hint, Json.uuid, Json.depth]

theorem bounded_json_record (record : ItemRecord) :
    Parsers.bounded.json (Json.obj [("data", record.toJson)]).write
      = some (.obj [("data", record.toJson)]) := by
  apply readCompact_write
  refine Nat.le_trans (Json.depth_obj_le.mpr ?_) (by decide : 2 ≤ 127)
  simpa using depth_toJson record

/-- An empty secure note. -/
def emptyNote : ItemContent :=
  .secureNote { body := .empty, bodyText := "", customFields := [], sections := [],
                rawImport := .null }

def noteDraw : CreateDraw := ⟨exampleDraw, ⟨.replicate 32 4⟩, .replicate 24 0⟩

/-- The fields of the note, sealed under fixed keys. -/
def noteFields (vaultKey : VaultKey) (itemId : Uuid) (favorite reprompt : Bool) : ItemFields where
  titleCiphertext :=
    Base64.encode (encryptTitle .transparent vaultKey itemId.toBytes (.replicate 24 0) "note")
  contentCiphertext := Base64.encode (xchacha20EncryptWithAad .transparent (.replicate 32 4)
    (.replicate 24 0) (ItemContent.codec.write emptyNote).write (bodyAad itemId.toBytes))
  tagsCiphertext := none
  titleBlindIndex := ""
  contentKeyWrap := Base64.encode (wrapItemContentKey .transparent vaultKey itemId.toBytes
    (.replicate 24 0) ⟨.replicate 32 4⟩)
  metadataCiphertext := Base64.encode (encryptMetadataJson .transparent vaultKey itemId.toBytes
    (.replicate 24 0) (metadataText .secureNote favorite false reprompt))
  sensitive := false
  wrappingKeyVersion := some 1

theorem buildCreateRequest_note (vaultKey : VaultKey) (itemId : Uuid) (favorite : Bool) :
    buildCreateRequest .transparent (itemCodec .bounded) noteDraw vaultKey itemId emptyNote "note" []
      favorite false 1 = .ok ⟨noteFields vaultKey itemId favorite false, itemId⟩ := rfl

def noteRecord (vaultKey : VaultKey) (vaultId itemId : Uuid) (favorite reprompt : Bool) :
    ItemRecord :=
  (noteFields vaultKey itemId favorite reprompt).record vaultId itemId "" ⟨"2026-01-01T00:00:00Z"⟩

theorem ofJson_noteRecord (vaultKey : VaultKey) (vaultId itemId : Uuid)
    (favorite reprompt : Bool) :
    ItemRecord.ofJson .bounded (noteRecord vaultKey vaultId itemId favorite reprompt).toJson
      = some (noteRecord vaultKey vaultId itemId favorite reprompt) := by
  refine ItemRecord.ofJson_toJson rfl ?_
  intro n hn
  cases hn
  decide

/-- The reply with the note answers with it. -/
theorem answers_noteRecord (vaultKey : VaultKey) (vaultId itemId : Uuid)
    (favorite reprompt : Bool) :
    Answers .bounded (fun payload => ItemRecord.ofJson .bounded payload
        = some (noteRecord vaultKey vaultId itemId favorite reprompt))
      (directReply (noteRecord vaultKey vaultId itemId favorite reprompt).toJson) :=
  .inr ⟨_, delivers_directReply_of_json (ItemRecord.bare_toJson _) (bounded_json_record _),
    ofJson_noteRecord _ _ _ _ _⟩

/-- Note 2 in vault 1, as it was created. -/
def createdNote : ItemRecord :=
  noteRecord ⟨.replicate 32 3⟩ (.replicate 16 1) (.replicate 16 2) true false

theorem readReply_createdNote :
    readReply .bounded maxGatewayBody (directReply createdNote.toJson) = .ok createdNote.toJson := by
  apply readReply_directReply_of_json (ItemRecord.bare_toJson _) (bounded_json_record _)
  simp only [createdNote, noteRecord, ItemFields.record, noteFields, ItemRecord.toJson, Json.uuid,
    Json.orNull, Json.int, Json.write, Json.writeMembers, writeString, Base64.utf8_encode]
  decide +kernel

/-- The store that holds nothing but the note. -/
def createdStore : ItemStore := emptyStore.put (.replicate 16 1, .replicate 16 2) createdNote

/-- The create of the note is a run. -/
theorem run_createNote :
    ItemRun .transparent (itemCodec .bounded) .bounded ⟨.replicate 32 3⟩ (.replicate 16 1)
      (.replicate 16 2) createdStore [⟨emptyNote, "note", [], some true, false⟩] createdStore := by
  have hhandles : ItemHandles .bounded emptyStore
      (.createItem (.replicate 16 1)
        ⟨noteFields ⟨.replicate 32 3⟩ (.replicate 16 2) true false, .replicate 16 2⟩)
      (directReply createdNote.toJson) createdStore :=
    .createItem rfl rfl rfl (ItemFields.holds_record _ _ _ _ _) List.not_mem_nil
      (answers_noteRecord _ _ _ _ _)
  have hexec : ItemExec .bounded (createItemWithId .transparent (itemCodec .bounded) .bounded
      noteDraw (.replicate 16 1) (.replicate 16 2) ⟨.replicate 32 3⟩ emptyNote "note" [] true false 1)
      emptyStore [.served emptyStore (.createItem (.replicate 16 1)
          ⟨noteFields ⟨.replicate 32 3⟩ (.replicate 16 2) true false, .replicate 16 2⟩)
        (directReply createdNote.toJson) createdStore] (.ok createdNote.updatedAt) createdStore := by
    unfold createItemWithId call
    refine Exec.ofExcept_bind (buildCreateRequest_note _ _ _) ?_
    refine Exec.ask_bind hhandles (Except.mapError_eq_ok.mpr readReply_createdNote)
      (Exec.ofExcept ?_)
    exact (writtenUpdatedAt_eq_ok (ofJson_noteRecord _ _ _ _ _)).mpr ⟨rfl, rfl, rfl⟩
  refine .create hexec ?_
  intro before after hmem
  simp at hmem

/-- The fields of an update of the note, under its content key and its wrap. -/
def doorFields : ItemFields where
  titleCiphertext := Base64.encode (encryptTitle .transparent ⟨.replicate 32 3⟩
    (FixedBytes.replicate 16 2).toBytes (.replicate 24 0) "Door")
  contentCiphertext := Base64.encode (xchacha20EncryptWithAad .transparent (.replicate 32 4)
    (.replicate 24 0) (ItemContent.codec.write doorNote).write
    (bodyAad (FixedBytes.replicate 16 2).toBytes))
  tagsCiphertext := some (Base64.encode (encryptTags .transparent ⟨.replicate 32 3⟩
    (FixedBytes.replicate 16 2).toBytes (.replicate 24 0) ["home", "keys"]))
  titleBlindIndex := ""
  contentKeyWrap := createdNote.contentKeyWrap
  metadataCiphertext := Base64.encode (encryptMetadataJson .transparent ⟨.replicate 32 3⟩
    (FixedBytes.replicate 16 2).toBytes (.replicate 24 0) (metadataText .secureNote true true false))
  sensitive := true
  wrappingKeyVersion := some 1

/-- The note after the update. -/
def updatedNote : ItemRecord :=
  doorFields.record (.replicate 16 1) (.replicate 16 2) "" ⟨"2026-01-02T00:00:00Z"⟩

theorem createdNote_ids :
    createdNote.itemId = .replicate 16 2 ∧ createdNote.vaultId = .replicate 16 1 := ⟨rfl, rfl⟩

theorem updatedNote_ids :
    updatedNote.itemId = .replicate 16 2 ∧ updatedNote.vaultId = .replicate 16 1 := ⟨rfl, rfl⟩

theorem ofJson_updatedNote : ItemRecord.ofJson .bounded updatedNote.toJson = some updatedNote := by
  refine ItemRecord.ofJson_toJson rfl ?_
  intro n hn
  cases hn
  decide

theorem answers_updatedNote :
    Answers .bounded (fun payload => ItemRecord.ofJson .bounded payload = some updatedNote)
      (directReply updatedNote.toJson) :=
  .inr ⟨_, delivers_directReply_of_json (ItemRecord.bare_toJson _) (bounded_json_record _),
    ofJson_updatedNote⟩

theorem readReply_updatedNote :
    readReply .bounded maxGatewayBody (directReply updatedNote.toJson) = .ok updatedNote.toJson := by
  apply readReply_directReply_of_json (ItemRecord.bare_toJson _) (bounded_json_record _)
  simp only [updatedNote, createdNote, noteRecord, ItemFields.record, doorFields, noteFields,
    ItemRecord.toJson, Json.uuid, Json.orNull, Json.int, Json.write, Json.writeMembers, writeString,
    Base64.utf8_encode]
  decide +kernel

def updatedStore : ItemStore := createdStore.put (.replicate 16 1, .replicate 16 2) updatedNote

theorem rows_createdStore :
    createdStore.rows (.replicate 16 1, .replicate 16 2) = some createdNote :=
  emptyStore.put_rows_self _ _

theorem rows_updatedStore :
    updatedStore.rows (.replicate 16 1, .replicate 16 2) = some updatedNote :=
  createdStore.put_rows_self _ _

/-- The update of the note names no favorite flag, and keeps the one it finds. -/
theorem exec_updateNote :
    ItemExec .bounded (updateItem .transparent (itemCodec .bounded) .bounded exampleDraw
      (.replicate 16 1) (.replicate 16 2) ⟨.replicate 32 3⟩ doorNote "Door" ["home", "keys"] none true
      1 none) createdStore
      [.served createdStore (.getItem (.replicate 16 1) (.replicate 16 2))
          (directReply createdNote.toJson) createdStore,
        .served createdStore (.updateItem (.replicate 16 1) (.replicate 16 2) ⟨doorFields⟩ none)
          (directReply updatedNote.toJson) updatedStore] (.ok updatedNote.updatedAt)
      updatedStore := by
  have hfresh : updatedNote.updatedAt
      ∉ createdStore.history (.replicate 16 1, .replicate 16 2) := by
    unfold createdStore
    rw [VersionedStore.put_history_self]
    decide
  have hhandles : ItemHandles .bounded createdStore
      (.updateItem (.replicate 16 1) (.replicate 16 2) ⟨doorFields⟩ none)
      (directReply updatedNote.toJson) updatedStore := by
    refine .updateItem rows_createdStore ?_ (updatedNote_ids.2.trans createdNote_ids.2.symm)
      (updatedNote_ids.1.trans createdNote_ids.1.symm) (ItemFields.holds_record _ _ _ _ _) hfresh
      answers_updatedNote
    intro r hr
    cases hr
  have hopen : fromCrypto (decryptMetadataJson .transparent ⟨.replicate 32 3⟩
      (FixedBytes.replicate 16 2).toBytes (encryptMetadataJson .transparent ⟨.replicate 32 3⟩
        (FixedBytes.replicate 16 2).toBytes (.replicate 24 0)
        (metadataText .secureNote true false false)))
      = .ok (metadataText .secureNote true false false) :=
    fromCrypto_eq_ok.mpr (decryptText_encryptText Aead.transparent_ideal.correct)
  have hflags : metadataFlags .bounded (metadataText .secureNote true false false) = (true, false) :=
    metadataFlags_metadataText (readsFlat_of_reader Parsers.bounded_reader) _ _ _ _
  unfold updateItem call
  refine Exec.ask_bind (.getItem rows_createdStore (answers_noteRecord _ _ _ _ _))
    readReply_createdNote ?_
  refine Exec.ofExcept_bind (parseRecord_eq_ok.mpr (ofJson_noteRecord _ _ _ _ _)) ?_
  refine Exec.ofExcept_bind (a := ()) (ensureRecordMatches_eq_ok.mpr createdNote_ids) ?_
  refine Exec.ofExcept_bind (b64Decode_eq_ok.mpr (Base64.decode_encode _)) ?_
  refine Exec.ofExcept_bind
    (fromCrypto_eq_ok.mpr (unwrapItemContentKey_wrap Aead.transparent_ideal)) ?_
  refine Exec.ofExcept_bind (b64Decode_eq_ok.mpr (Base64.decode_encode _)) ?_
  refine Exec.ofExcept_bind hopen ?_
  rw [hflags]
  refine Exec.ofExcept_bind (a := ⟨doorFields⟩) rfl ?_
  refine Exec.ask_bind hhandles (Except.mapError_eq_ok.mpr readReply_updatedNote)
    (Exec.ofExcept ?_)
  exact (writtenUpdatedAt_eq_ok ofJson_updatedNote).mpr ⟨rfl, rfl, rfl⟩

/-- The create and the update of the note are a run. -/
theorem run_updateNote :
    ItemRun .transparent (itemCodec .bounded) .bounded ⟨.replicate 32 3⟩ (.replicate 16 1)
      (.replicate 16 2) createdStore
      [⟨doorNote, "Door", ["home", "keys"], none, true⟩, ⟨emptyNote, "note", [], some true, false⟩]
      updatedStore := by
  refine .update run_createNote exec_updateNote ?_
  intro before after hmem
  simp at hmem

/-- The updated note is read back with its content and tags, and with the flag of the create. -/
theorem item_run_reads_last_write_note :
    updatedNote.contentKeyWrap = createdNote.contentKeyWrap ∧
    ∃ item, (getItem .transparent (itemCodec .bounded) .bounded (.replicate 16 1) (.replicate 16 2)
        ⟨.replicate 32 3⟩).run (fun _ => directReply updatedNote.toJson) = .ok item ∧
      item.content = doorNote ∧ item.title = "Door" ∧ item.tags = ["home", "keys"] ∧
      item.sensitive = true ∧ metadataFlags .bounded item.metadataJson = (true, false) ∧
      metadataKind .bounded item.metadataJson = some "secure_note" := by
  obtain ⟨row₀, row, hrow₀, hrow, hwrap, hreads⟩ :=
    (item_run_reads_last_write Aead.transparent_ideal Parsers.bounded_reader).1 run_updateNote
      (by decide) (by decide)
  cases rows_createdStore.symm.trans hrow₀
  cases rows_updatedStore.symm.trans hrow
  obtain ⟨item, hitem, -, hcontent, htitle, htags, hsensitive, hflags, hkind⟩ :=
    hreads none _ _ _ rfl (.getItem hrow answers_updatedNote) readReply_updatedNote
  exact ⟨hwrap, item, hitem, hcontent, htitle, htags, hsensitive, hflags, hkind⟩

end SerenSecrets
