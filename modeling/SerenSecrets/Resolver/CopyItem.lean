import SerenSecrets.Resolver.ItemRuns
import SerenSecrets.Resolver.MoveItem

set_option autoImplicit false

/-! # What a copy of an item keeps

`copyItem` and `moveItem` open the source and create the copy from what they got: content, title,
tags and the sensitive flag. The metadata text is not among it. The create writes one of its own, in
which neither flag is set, so a copy of an item that is a favorite or asks for the password again is
not the whole item: it is exactly when neither flag of the source is set and the text of its content
is read back (`copyItem_preserves_iff`). -/

namespace SerenSecrets

section Copy

variable {Content : Type} (A : Aead) (codec : ItemCodec Content) (P : Parsers)

/-- The two items have the same content, title, tags and flags. -/
structure SameItem (item item' : DecryptedItem Content) : Prop where
  content : item'.content = item.content
  title : item'.title = item.title
  tags : item'.tags = item.tags
  sensitive : item'.sensitive = item.sensitive
  flags : metadataFlags P item'.metadataJson = metadataFlags P item.metadataJson

/-- Among the events, the source was read as `item` and the copy was stored as `row`. -/
def CopiedAs (sourceVaultId itemId : Uuid) (sourceVaultKey : VaultKey)
    (targetVaultId newItemId : Uuid) (es : List ItemEvent) (item : DecryptedItem Content)
    (row : ItemRecord) : Prop :=
  ∃ seen rep seen' before body rep' after,
    .served seen (.getItem sourceVaultId itemId) rep seen' ∈ es ∧
    Opens A codec P sourceVaultKey sourceVaultId itemId seen item ∧
    .served before (.createItem targetVaultId body) rep' after ∈ es ∧
    after.rows (targetVaultId, newItemId) = some row

/-- The one copy among the events: the row holds what was built from the item, and the target's
    ids. -/
structure CopyOf (sourceVaultId sourceItemId : Uuid) (sourceVaultKey : VaultKey)
    (targetVaultId newItemId : Uuid) (targetVaultKey : VaultKey) (draw : CreateDraw) (version : ℤ)
    (es : List ItemEvent) (item : DecryptedItem Content) (row : ItemRecord) : Prop where
  copied : CopiedAs A codec P sourceVaultId sourceItemId sourceVaultKey targetVaultId newItemId es
    item row
  unique : ∀ item' row', CopiedAs A codec P sourceVaultId sourceItemId sourceVaultKey targetVaultId
    newItemId es item' row' → item' = item ∧ row' = row
  holds : ∃ body, buildCreateRequest A codec draw targetVaultKey newItemId item.content item.title
    item.tags false item.sensitive version = .ok body ∧ row.Holds body.toItemFields
  vaultId : row.vaultId = targetVaultId
  itemId : row.itemId = newItemId

end Copy

section CopyRuns

variable {Content : Type} {A : Aead} {codec : ItemCodec Content} {P : Parsers} {v i n : Uuid}
  {sourceKey : VaultKey} {targetVault newItemId : Uuid} {targetKey : VaultKey} {draw : CreateDraw}
  {version : ℤ} {s u : ItemStore} {es : List ItemEvent}

/-- The two requests of a successful copy. -/
theorem copyItem_steps
    (h : ItemExec P (copyItem A codec P newItemId draw v i sourceKey targetVault targetKey version)
      s es (.ok n) u) :
    n = newItemId ∧ ∃ pre seen rep mid before body rep' row post item,
      es = pre ++ .served seen (.getItem v i) rep seen :: (mid ++
        .served before (.createItem targetVault body) rep' (before.put (targetVault, n) row) ::
          post) ∧
      Foreigns VersionedStore.Evolves pre s seen ∧ Foreigns VersionedStore.Evolves mid seen before ∧
      Foreigns VersionedStore.Evolves post (before.put (targetVault, n) row) u ∧
      Opens A codec P sourceKey v i seen item ∧
      buildCreateRequest A codec draw targetKey n item.content item.title item.tags false
        item.sensitive version = .ok body ∧
      row.Holds body.toItemFields ∧ row.vaultId = targetVault ∧ row.itemId = n := by
  unfold copyItem at h
  obtain ⟨esGet, esCreate, item, read, rfl, hget, hcreate⟩ := h.bind_ok
  obtain ⟨pre, seen, rep, post₀, rfl, hpre, hpost₀, hopens⟩ := getItem_served hget
  obtain ⟨rfl, pre₁, before, body, rep', row, post, rfl, hpre₁, hpost, hbody, -, hholds, hvault,
    hitem⟩ := createItem_served hcreate
  refine ⟨rfl, pre, seen, rep, post₀ ++ pre₁, before, body, rep', row, post, item, by simp, hpre, ?_,
    hpost, hopens, hbody, hholds, hvault, hitem⟩
  exact hpost₀.append hpre₁

/-- A successful move is a copy and then a trash. -/
theorem moveItem_steps
    (h : ItemExec P (moveItem A codec P newItemId draw v i sourceKey targetVault targetKey version)
      s es (.ok n) u) :
    ∃ esCopy rest copied, es = esCopy ++ rest ∧
      ItemExec P (copyItem A codec P newItemId draw v i sourceKey targetVault targetKey version) s
        esCopy (.ok n) copied ∧
      ∀ before request rep after, .served before request rep after ∈ rest →
        request = .trashItem v i none := by
  unfold moveItem at h
  obtain ⟨esCopy, rest, n', copied, rfl, hcopy, hrest⟩ := h.bind_ok
  obtain ⟨esTrash, esEnd, result, trashed, rfl, htrash, hend⟩ := hrest.bind_ok
  obtain ⟨pre, last, rep, after, post, rfl, hpre, hpost⟩ := trashItem_served htrash
  obtain ⟨hn, hquiet⟩ := Exec.done_inv hend
  obtain rfl := Except.ok.inj hn
  refine ⟨esCopy, _, copied, rfl, hcopy, ?_⟩
  intro x request rep' y hmem
  simp only [List.mem_append, List.mem_cons, hpre.not_served, hpost.not_served, hquiet.not_served,
    false_or, or_false, Event.served.injEq] at hmem
  exact hmem.2.1

/-- A copy stores one row, the one that was built from the item it has read. -/
theorem copyItem_copyOf
    (h : ItemExec P (copyItem A codec P newItemId draw v i sourceKey targetVault targetKey version)
      s es (.ok n) u) :
    ∃ item row, CopyOf A codec P v i sourceKey targetVault n targetKey draw version es item row := by
  obtain ⟨-, pre, seen, rep, mid, before, body, rep', row, post, item, rfl, hpre, hmid, hpost,
    hopens, hbody, hholds, hvault, hitem⟩ := copyItem_steps h
  refine ⟨item, row, ?_, ?_, ⟨body, hbody, hholds⟩, hvault, hitem⟩
  · exact ⟨seen, rep, seen, before, body, rep', _, by simp, hopens, by simp,
      before.put_rows_self _ _⟩
  · rintro item' row' ⟨seen', _, _, _, _, _, after, hget, hopens', hcreate, hrow⟩
    simp only [List.mem_append, List.mem_cons, hpre.not_served, hmid.not_served, hpost.not_served,
      false_or, or_false, Event.served.injEq, reduceCtorEq, false_and, and_false] at hget hcreate
    obtain ⟨rfl, -, -, -⟩ := hget
    obtain ⟨-, -, -, rfl⟩ := hcreate
    rw [before.put_rows_self] at hrow
    obtain ⟨source, hsource, hopen⟩ := hopens
    obtain ⟨source', hsource', hopen'⟩ := hopens'
    cases hsource.symm.trans hsource'
    exact ⟨Except.ok.inj (hopen'.symm.trans hopen), (Option.some.inj hrow).symm⟩

/-- What follows after the copy does not count, if it is no read and no create. -/
theorem CopyOf.append {esCopy rest : List ItemEvent} {item : DecryptedItem Content}
    {row : ItemRecord}
    (h : CopyOf A codec P v i sourceKey targetVault n targetKey draw version esCopy item row)
    (hrest : ∀ before request rep after, .served before request rep after ∈ rest →
      request = .trashItem v i none) :
    CopyOf A codec P v i sourceKey targetVault n targetKey draw version (esCopy ++ rest) item
      row := by
  refine ⟨?_, ?_, h.holds, h.vaultId, h.itemId⟩
  · obtain ⟨seen, rep, seen', before, body, rep', after, hget, hopens, hcreate, hrow⟩ := h.copied
    exact ⟨seen, rep, seen', before, body, rep', after, List.mem_append_left _ hget, hopens,
      List.mem_append_left _ hcreate, hrow⟩
  · rintro item' row' ⟨seen, rep, seen', before, body, rep', after, hget, hopens, hcreate, hrow⟩
    have hread := (List.mem_append.mp hget).resolve_right fun hmem =>
      absurd (hrest _ _ _ _ hmem) (by simp)
    have hstored := (List.mem_append.mp hcreate).resolve_right fun hmem =>
      absurd (hrest _ _ _ _ hmem) (by simp)
    exact h.unique item' row' ⟨seen, rep, seen', before, body, rep', after, hread, hopens, hstored,
      hrow⟩

/-- A move stores what a copy does. -/
theorem copyOf_of_exec {program : ItemClient Uuid}
    (hprogram :
      program = copyItem A codec P newItemId draw v i sourceKey targetVault targetKey version ∨
      program = moveItem A codec P newItemId draw v i sourceKey targetVault targetKey version)
    (h : ItemExec P program s es (.ok n) u) :
    ∃ item row, CopyOf A codec P v i sourceKey targetVault n targetKey draw version es item row := by
  rcases hprogram with rfl | rfl
  · exact copyItem_copyOf h
  · obtain ⟨esCopy, rest, copied, rfl, hcopy, hrest⟩ := moveItem_steps h
    obtain ⟨item, row, hcopyOf⟩ := copyItem_copyOf hcopy
    exact ⟨item, row, hcopyOf.append hrest⟩

end CopyRuns

/-! ## Reading the copy -/

/-- The JSON text of a content is read as that content. -/
def Rereads (P : Parsers) (content : ItemContent) : Prop :=
  (itemCodec P).fromSlice (ItemContent.codec.write content).write = some content

section ReadCopy

variable {A : Aead} {P : Parsers} {vaultKey : VaultKey} {v i : Uuid}

/-- Contents that came out of a record are never too deep, so without floats they are read back once
    they are written again. -/
theorem rereads_of_opened (hP : JsonReader P.json 127) {record : ItemRecord}
    {item : DecryptedItem ItemContent}
    (hopen : decryptItemRecord A (itemCodec P) P vaultKey v i record = .ok item)
    (hfloat : (ItemContent.codec.write item.content).floatFree = true) :
    Rereads P item.content := by
  obtain ⟨wrap, blob, contentKey, -, -, -, hbody⟩ := decryptItemRecord_content hopen
  obtain ⟨json, -, hread⟩ := decryptItemWithContentKey_eq_ok.mp hbody
  have hdepth : (ItemContent.codec.write item.content).depth ≤ 127 :=
    hP.depth_write_le ItemContent.codec (by decide) hread
  exact hP.read_codec_floatFree ItemContent.codec hdepth hfloat

/-- A sealed record opens to the content that its text is read as. -/
theorem fromSlice_of_sealed {Content : Type} {codec : ItemCodec Content} (hA : A.Ideal)
    {draw : UpdateDraw} {contentKey : ItemContentKey} {nonce : FixedBytes 24} {content : Content}
    {title : String} {tags : List String} {sensitive favorite reprompt : Bool} {version : ℤ}
    {fields : ItemFields}
    (hseal : sealFields A codec draw vaultKey i contentKey
      (Base64.encode (wrapItemContentKey A vaultKey i.toBytes nonce contentKey)) content title tags
      sensitive favorite reprompt version = .ok fields)
    {record : ItemRecord} (hholds : record.Holds fields) {item : DecryptedItem Content}
    (hopen : decryptItemRecord A codec P vaultKey v i record = .ok item) {json : Bytes}
    (hjson : codec.toVec content = some json) : codec.fromSlice json = some item.content := by
  obtain ⟨contentCt, hencrypt, rfl⟩ := sealFields_eq_ok.mp hseal
  obtain ⟨wrap, blob, contentKey', hwrap, hblob, hkey, hbody⟩ := decryptItemRecord_content hopen
  rw [hholds.contentKeyWrap, Base64.decode_encode] at hwrap
  rw [hholds.content, Base64.decode_encode] at hblob
  rw [← Option.some.inj hwrap, unwrapItemContentKey_wrap hA] at hkey
  obtain rfl := Except.ok.inj hkey
  obtain rfl := Option.some.inj hblob
  obtain ⟨json', hdecrypt, hread⟩ := decryptItemWithContentKey_eq_ok.mp hbody
  rw [encryptItemWithContentKey, hjson] at hencrypt
  rw [← Except.ok.inj hencrypt, xchacha20Decrypt_encrypt_self hA.correct] at hdecrypt
  rw [Except.ok.inj hdecrypt, hread]

end ReadCopy

/-- **A copy is the whole item exactly when neither flag of the source is set.** Whatever a
    successful copy or move has read from the source and stored in the target: a read of the stored
    row gives back the content, title, tags and flags of the source if and only if the source is
    neither a favorite nor asks for the password again, and the text of its content is read back.
    The latter is so for all contents without floats. -/
theorem copyItem_preserves_iff {A : Aead} (hA : A.Ideal) {P : Parsers}
    (hP : JsonReader P.json 127) {newItemId n v i targetVault : Uuid} {draw : CreateDraw}
    {sourceKey targetKey : VaultKey} {version : ℤ} {s u : ItemStore} {es : List ItemEvent}
    {program : ItemClient Uuid}
    (hprogram :
      program = copyItem A (itemCodec P) P newItemId draw v i sourceKey targetVault targetKey
        version ∨
      program = moveItem A (itemCodec P) P newItemId draw v i sourceKey targetVault targetKey
        version)
    (hexec : ItemExec P program s es (.ok n) u) :
    (∃ item row, CopiedAs A (itemCodec P) P v i sourceKey targetVault n es item row) ∧
    ∀ item row, CopiedAs A (itemCodec P) P v i sourceKey targetVault n es item row →
      ((ItemContent.codec.write item.content).floatFree = true → Rereads P item.content) ∧
      ∀ trashedAt rep value, itemTrashedAt P row.trashedAt = .ok trashedAt →
        readReply P maxGatewayBody rep = .ok value → ItemRecord.ofJson P value = some row →
        ((∃ item', (getItem A (itemCodec P) P targetVault n targetKey).run (fun _ => rep)
            = .ok item' ∧ SameItem P item item') ↔
          metadataFlags P item.metadataJson = (false, false) ∧ Rereads P item.content) := by
  obtain ⟨item, row, hcopyOf⟩ := copyOf_of_exec hprogram hexec
  refine ⟨⟨item, row, hcopyOf.copied⟩, ?_⟩
  intro item₀ row₀ hcopied₀
  obtain ⟨rfl, rfl⟩ := hcopyOf.unique item₀ row₀ hcopied₀
  refine ⟨?_, ?_⟩
  · obtain ⟨-, -, -, -, -, -, -, -, ⟨source, -, hopen⟩, -⟩ := hcopied₀
    exact rereads_of_opened hP hopen
  intro trashedAt rep value htime hread hvalue
  rw [run_getItem_record hread hvalue]
  obtain ⟨body, hbody, hholds⟩ := hcopyOf.holds
  simp only [buildCreateRequest, Except.bind_eq_ok, Except.pure_eq_ok] at hbody
  obtain ⟨fields, hseal, rfl⟩ := hbody
  -- The metadata of the copy is the one that the create has written.
  have hflags := metadataFlags_metadataText (readsFlat_of_reader hP) item₀.content.itemKind false
    item₀.sensitive false
  have hopens := decryptItemRecord_itemCodec hA hP hseal hholds hcopyOf.itemId hcopyOf.vaultId htime
  constructor
  · rintro ⟨item', hopen, hsame⟩
    have hreread : Rereads P item₀.content := by
      have hcontent := fromSlice_of_sealed hA hseal hholds hopen rfl
      rwa [hsame.content] at hcontent
    have hitem' := Except.ok.inj (hopen.symm.trans (hopens hreread))
    have hsource := hsame.flags
    rw [hitem', hflags] at hsource
    exact ⟨hsource.symm, hreread⟩
  · rintro ⟨hsource, hreread⟩
    exact ⟨_, hopens hreread, rfl, rfl, rfl, rfl, hflags.trans hsource.symm⟩

/-! ## The copy of a note -/

/-- What the note opens to. -/
def openedNote (itemId : Uuid) (favorite reprompt : Bool) : DecryptedItem ItemContent where
  itemId := itemId
  title := "note"
  tags := []
  sensitive := false
  content := emptyNote
  metadataJson := metadataText .secureNote favorite false reprompt
  updatedAt := ⟨"2026-01-01T00:00:00Z"⟩
  trashedAt := none

theorem rereads_emptyNote : Rereads .bounded emptyNote :=
  Parsers.bounded_reader.read_codec_floatFree ItemContent.codec (by decide) (by decide)

theorem decrypt_noteRecord (vaultKey : VaultKey) (vaultId itemId : Uuid)
    (favorite reprompt : Bool) :
    decryptItemRecord .transparent (itemCodec .bounded) .bounded vaultKey vaultId itemId
      (noteRecord vaultKey vaultId itemId favorite reprompt)
      = .ok (openedNote itemId favorite reprompt) := by
  have hseal : sealFields .transparent (itemCodec .bounded) exampleDraw vaultKey itemId
      ⟨.replicate 32 4⟩ (Base64.encode (wrapItemContentKey .transparent vaultKey itemId.toBytes
        (.replicate 24 0) ⟨.replicate 32 4⟩)) emptyNote "note" [] false favorite reprompt 1
      = .ok (noteFields vaultKey itemId favorite reprompt) := rfl
  exact decryptItemRecord_itemCodec Aead.transparent_ideal Parsers.bounded_reader hseal
    (ItemFields.holds_record _ _ _ _ _) rfl rfl rfl rereads_emptyNote

/-- Note 2 in vault 1, with both flags set or none. -/
def sourceNote (flag : Bool) : ItemRecord :=
  noteRecord ⟨.replicate 32 3⟩ (.replicate 16 1) (.replicate 16 2) flag flag

/-- Its copy, as note 6 in vault 5. -/
def copiedNote : ItemRecord :=
  noteRecord ⟨.replicate 32 7⟩ (.replicate 16 5) (.replicate 16 6) false false

theorem readReply_sourceNote (flag : Bool) :
    readReply .bounded maxGatewayBody (directReply (sourceNote flag).toJson)
      = .ok (sourceNote flag).toJson := by
  apply readReply_directReply_of_json (ItemRecord.bare_toJson _) (bounded_json_record _)
  simp only [sourceNote, noteRecord, ItemFields.record, noteFields, ItemRecord.toJson, Json.uuid,
    Json.orNull, Json.int, Json.write, Json.writeMembers, writeString, Base64.utf8_encode]
  revert flag
  decide +kernel

theorem readReply_copiedNote :
    readReply .bounded maxGatewayBody (directReply copiedNote.toJson) = .ok copiedNote.toJson := by
  apply readReply_directReply_of_json (ItemRecord.bare_toJson _) (bounded_json_record _)
  simp only [copiedNote, noteRecord, ItemFields.record, noteFields, ItemRecord.toJson, Json.uuid,
    Json.orNull, Json.int, Json.write, Json.writeMembers, writeString, Base64.utf8_encode]
  decide +kernel

/-- The store that holds nothing but the note. -/
def sourceStore (flag : Bool) : ItemStore :=
  emptyStore.put (.replicate 16 1, .replicate 16 2) (sourceNote flag)

/-- The copy of the note into vault 5. -/
noncomputable def copyFlaggedNote : ItemClient Uuid :=
  copyItem .transparent (itemCodec .bounded) .bounded (.replicate 16 6) noteDraw (.replicate 16 1)
    (.replicate 16 2) ⟨.replicate 32 3⟩ (.replicate 16 5) ⟨.replicate 32 7⟩ 1

def copyEvents (flag : Bool) : List ItemEvent :=
  [.served (sourceStore flag) (.getItem (.replicate 16 1) (.replicate 16 2))
      (directReply (sourceNote flag).toJson) (sourceStore flag),
    .served (sourceStore flag) (.createItem (.replicate 16 5)
      ⟨noteFields ⟨.replicate 32 7⟩ (.replicate 16 6) false false, .replicate 16 6⟩)
      (directReply copiedNote.toJson)
      ((sourceStore flag).put (.replicate 16 5, .replicate 16 6) copiedNote)]

theorem exec_copyFlaggedNote (flag : Bool) :
    ItemExec .bounded copyFlaggedNote (sourceStore flag) (copyEvents flag) (.ok (.replicate 16 6))
      ((sourceStore flag).put (.replicate 16 5, .replicate 16 6) copiedNote) := by
  have hrow : (sourceStore flag).rows (.replicate 16 1, .replicate 16 2)
      = some (sourceNote flag) := emptyStore.put_rows_self _ _
  have hcreate : ItemHandles .bounded (sourceStore flag) (.createItem (.replicate 16 5)
      ⟨noteFields ⟨.replicate 32 7⟩ (.replicate 16 6) false false, .replicate 16 6⟩)
      (directReply copiedNote.toJson)
      ((sourceStore flag).put (.replicate 16 5, .replicate 16 6) copiedNote) := by
    refine .createItem ?_ rfl rfl (ItemFields.holds_record _ _ _ _ _) ?_
      (answers_noteRecord _ _ _ _ _)
    · rw [sourceStore, VersionedStore.put_rows_of_ne _ (by decide)]
      rfl
    · rw [sourceStore, VersionedStore.put_history_of_ne _ (by decide)]
      exact List.not_mem_nil
  have hread : ItemExec .bounded (getItem .transparent (itemCodec .bounded) .bounded
      (.replicate 16 1) (.replicate 16 2) ⟨.replicate 32 3⟩) (sourceStore flag)
      [.served (sourceStore flag) (.getItem (.replicate 16 1) (.replicate 16 2))
        (directReply (sourceNote flag).toJson) (sourceStore flag)]
      (.ok (openedNote (.replicate 16 2) flag flag)) (sourceStore flag) :=
    Exec.ask_bind (.getItem hrow (answers_noteRecord _ _ _ _ _)) (readReply_sourceNote flag)
      (Exec.ofExcept_bind (parseRecord_eq_ok.mpr (ofJson_noteRecord _ _ _ _ _))
        (Exec.ofExcept (decrypt_noteRecord _ _ _ _ _)))
  refine Exec.bind hread ?_
  refine Exec.ofExcept_bind (buildCreateRequest_note _ _ _) ?_
  exact Exec.ask_bind hcreate readReply_copiedNote .done

theorem copiedAs_note (flag : Bool) :
    CopiedAs .transparent (itemCodec .bounded) .bounded (.replicate 16 1) (.replicate 16 2)
      ⟨.replicate 32 3⟩ (.replicate 16 5) (.replicate 16 6) (copyEvents flag)
      (openedNote (.replicate 16 2) flag flag) copiedNote :=
  ⟨_, _, _, _, _, _, _, .head _, ⟨sourceNote flag, emptyStore.put_rows_self _ _,
    decrypt_noteRecord _ _ _ _ _⟩, .tail _ (.head _), VersionedStore.put_rows_self _ _ _⟩

theorem run_getItem_copiedNote :
    (getItem .transparent (itemCodec .bounded) .bounded (.replicate 16 5) (.replicate 16 6)
      ⟨.replicate 32 7⟩).run (fun _ => directReply copiedNote.toJson)
      = .ok (openedNote (.replicate 16 6) false false) := by
  rw [run_getItem_record readReply_copiedNote (ofJson_noteRecord _ _ _ _ _)]
  exact decrypt_noteRecord _ _ _ _ _

/-- A note without flags is copied whole. -/
theorem copyItem_preserves_unflagged :
    ItemExec .bounded copyFlaggedNote (sourceStore false) (copyEvents false)
      (.ok (.replicate 16 6))
      ((sourceStore false).put (.replicate 16 5, .replicate 16 6) copiedNote) ∧
    ∃ item', (getItem .transparent (itemCodec .bounded) .bounded (.replicate 16 5)
        (.replicate 16 6) ⟨.replicate 32 7⟩).run (fun _ => directReply copiedNote.toJson)
        = .ok item' ∧
      SameItem .bounded (openedNote (.replicate 16 2) false false) item' := by
  have hexec := exec_copyFlaggedNote false
  refine ⟨hexec, ?_⟩
  obtain ⟨-, hcopied⟩ := copyItem_preserves_iff Aead.transparent_ideal Parsers.bounded_reader
    (.inl rfl) hexec
  obtain ⟨hreread, hread⟩ := hcopied _ _ (copiedAs_note false)
  refine (hread none _ _ rfl readReply_copiedNote (ofJson_noteRecord _ _ _ _ _)).mpr ⟨?_, ?_⟩
  · exact metadataFlags_metadataText (readsFlat_of_reader Parsers.bounded_reader) _ _ _ _
  · exact hreread (by decide)

/-- **A copy drops the flags.** The note is a favorite and asks for the password again. It is copied
    without an error, and the copy does neither. -/
theorem copyItem_drops_flags :
    ItemExec .bounded copyFlaggedNote (sourceStore true) (copyEvents true) (.ok (.replicate 16 6))
      ((sourceStore true).put (.replicate 16 5, .replicate 16 6) copiedNote) ∧
    ∃ item item', CopiedAs .transparent (itemCodec .bounded) .bounded (.replicate 16 1)
        (.replicate 16 2) ⟨.replicate 32 3⟩ (.replicate 16 5) (.replicate 16 6) (copyEvents true)
        item copiedNote ∧
      (getItem .transparent (itemCodec .bounded) .bounded (.replicate 16 5) (.replicate 16 6)
        ⟨.replicate 32 7⟩).run (fun _ => directReply copiedNote.toJson) = .ok item' ∧
      metadataFlags .bounded item.metadataJson = (true, true) ∧
      metadataFlags .bounded item'.metadataJson = (false, false) ∧
      ¬ SameItem .bounded item item' := by
  have hflat := readsFlat_of_reader Parsers.bounded_reader
  have hsource : metadataFlags .bounded (openedNote (.replicate 16 2) true true).metadataJson
      = (true, true) := metadataFlags_metadataText hflat _ _ _ _
  have hcopy : metadataFlags .bounded (openedNote (.replicate 16 6) false false).metadataJson
      = (false, false) := metadataFlags_metadataText hflat _ _ _ _
  refine ⟨exec_copyFlaggedNote true, _, _, copiedAs_note true, run_getItem_copiedNote, hsource,
    hcopy, ?_⟩
  intro hsame
  have hflags := hsame.flags
  rw [hsource, hcopy] at hflags
  exact absurd hflags (by decide)

end SerenSecrets
