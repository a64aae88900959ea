import SerenSecrets.Resolver.ItemService

set_option autoImplicit false

/-! # What an update does to the metadata of an item

Metadata is an object that the clients keep sealed at the service. `updateItem` reads two flags from
the stored object and writes a new one, with four keys. So the flags that the caller does not give are
kept, whatever else stands in the object, and no other key is (`updateItem_rebuilds_metadata`). -/

namespace SerenSecrets

/-- A flag of a metadata object; one that is missing or no boolean is off. -/
def metadataFlag (value : Json) (key : String) : Bool :=
  ((value.get? key).bind Json.asBool?).getD false

/-- The metadata that was written has the flags of the stored one, the given kind and sensitivity, and
    nothing else. -/
structure RebuildsMetadata (kind : ItemKind) (sensitive : Bool) (stored written : Json) : Prop where
  favorite : written.get? "favorite" = some (.bool (metadataFlag stored "favorite"))
  reprompt : written.get? "reprompt" = some (.bool (metadataFlag stored "reprompt"))
  itemKind : written.get? "item_kind" = some (.str kind.str)
  sensitive : written.get? "sensitive" = some (.bool sensitive)
  others : ∀ key ∉ ["favorite", "reprompt", "item_kind", "sensitive"], written.get? key = none

/-- The metadata that was written has the flags of the stored one, and the same value for each key
    that an update does not set. -/
structure LeavesMetadata (stored written : Json) : Prop where
  favorite : metadataFlag written "favorite" = metadataFlag stored "favorite"
  reprompt : metadataFlag written "reprompt" = metadataFlag stored "reprompt"
  others : ∀ key ∉ ["favorite", "reprompt", "item_kind", "sensitive"],
    written.get? key = stored.get? key

theorem metadataFlags_of_json {P : Parsers} {text : String} {value : Json}
    (h : P.json (utf8 text) = some value) :
    metadataFlags P text = (metadataFlag value "favorite", metadataFlag value "reprompt") := by
  simp only [metadataFlags, h, metadataFlag]

/-- The text that an update writes is read as an object with its four members. -/
theorem json_metadataText {P : Parsers} (hP : P.ReadsFlat) (kind : ItemKind)
    (favorite sensitive reprompt : Bool) :
    ∃ value, P.json (utf8 (metadataText kind favorite sensitive reprompt)) = some value ∧
      ∀ key, value.get? key
        = (Json.obj (metadataMembers kind favorite sensitive reprompt)).get? key := by
  rw [utf8_metadataText]
  exact hP _ (by simp [metadataMembers]) (by simp [metadataMembers])

theorem get?_metadataMembers_other {kind : ItemKind} {favorite sensitive reprompt : Bool}
    {key : String} (h : key ∉ ["favorite", "reprompt", "item_kind", "sensitive"]) :
    (Json.obj (metadataMembers kind favorite sensitive reprompt)).get? key = none := by
  simp only [List.mem_cons, List.not_mem_nil, or_false, not_or] at h
  obtain ⟨hfavorite, hreprompt, hkind, hsensitive⟩ := h
  simp [metadataMembers, Json.get?, Ne.symm hfavorite, Ne.symm hreprompt, Ne.symm hkind,
    Ne.symm hsensitive]

section Update

variable {Content : Type} {A : Aead} {codec : ItemCodec Content} {P : Parsers} {draw : UpdateDraw}
  {v i : Uuid} {vaultKey : VaultKey} {content : Content} {title : String} {tags : List String}
  {sensitive : Bool} {version : ℤ} {ifMatch : Option ItemRevision} {s u : ItemStore}
  {es : List ItemEvent} {revision : ItemRevision}

/-- The row that an update has read and the row that it has written, wherever they show in the
    execution. -/
theorem updateItem_rewrites (hA : A.Ideal) {favorite : Option Bool}
    (hexec : ItemExec P (updateItem A codec P draw v i vaultKey content title tags favorite sensitive
      version ifMatch) s es (.ok revision) u)
    {seen seen' : ItemStore} {rep : HttpReply} {record : ItemRecord}
    (hread : .served seen (.getItem v i) rep seen' ∈ es) (hrecord : seen.rows (v, i) = some record)
    {before after : ItemStore} {request : UpdateItemRequest} {rep' : HttpReply} {row : ItemRecord}
    (hwrite : .served before (.updateItem v i request ifMatch) rep' after ∈ es)
    (hrow : after.rows (v, i) = some row) :
    Rewrites A P vaultKey i (codec.kind content) favorite sensitive record row := by
  obtain ⟨pre, first, rep₁, mid, second, rep₂, row', post, record', wrapBytes, contentKey, stored,
    request', _, rfl, hpre, hmid, hpost, hrecord', -, -, -, -, hopen, hrequest, -, -, hholds, -⟩ :=
    updateItem_steps hexec
  -- Only these two requests were served; all else are steps of others.
  simp only [List.mem_append, List.mem_cons, hpre.not_served, hmid.not_served, hpost.not_served,
    Event.served.injEq, ItemCall.updateItem.injEq, reduceCtorEq, false_or,
    or_false, false_and, and_false, true_and] at hread hwrite
  obtain ⟨rfl, -, -⟩ := hread
  obtain ⟨-, ⟨rfl, -⟩, -, rfl⟩ := hwrite
  cases hrecord.symm.trans hrecord'
  cases hrow.symm.trans (second.put_rows_self _ _)
  exact rewrites_of_request hA hopen hrequest hholds

/-- **Updates rebuild the metadata.** An update that is not given a favorite flag writes an object
    with the stored favorite and reprompt flags, the kind of the new content and the given sensitive
    flag, and with no other key. -/
theorem updateItem_rebuilds_metadata (hA : A.Ideal) (hP : P.ReadsFlat)
    (hexec : ItemExec P (updateItem A codec P draw v i vaultKey content title tags none sensitive
      version ifMatch) s es (.ok revision) u)
    {seen seen' : ItemStore} {rep : HttpReply} {record : ItemRecord}
    (hread : .served seen (.getItem v i) rep seen' ∈ es) (hrecord : seen.rows (v, i) = some record)
    {before after : ItemStore} {request : UpdateItemRequest} {rep' : HttpReply} {row : ItemRecord}
    (hwrite : .served before (.updateItem v i request ifMatch) rep' after ∈ es)
    (hrow : after.rows (v, i) = some row) {text : String} {stored : Json}
    (htext : openMetadata A vaultKey i record = .ok text)
    (hstored : P.json (utf8 text) = some stored) :
    ∃ text' written, openMetadata A vaultKey i row = .ok text' ∧
      P.json (utf8 text') = some written ∧
      RebuildsMetadata (codec.kind content) sensitive stored written := by
  obtain ⟨-, text₀, htext₀, hwritten⟩ := updateItem_rewrites hA hexec hread hrecord hwrite hrow
  cases htext.symm.trans htext₀
  rw [Option.getD_none, metadataFlags_of_json hstored] at hwritten
  obtain ⟨written, hjson, hget⟩ := json_metadataText hP (codec.kind content)
    (metadataFlag stored "favorite") sensitive (metadataFlag stored "reprompt")
  refine ⟨_, written, hwritten, hjson, ?_, ?_, ?_, ?_, ?_⟩
  · rw [hget]
    rfl
  · rw [hget]
    rfl
  · rw [hget]
    rfl
  · rw [hget]
    rfl
  · intro key hkey
    rw [hget, get?_metadataMembers_other hkey]

end Update

/-! ## A note with a color -/

/-- The metadata of a client that also keeps a color. -/
def coloredMetadata : Json :=
  .obj [("item_kind", .str "secure_note"), ("favorite", .bool true), ("sensitive", .bool false),
    ("reprompt", .bool true), ("color", .str "red")]

def coloredText : String :=
  "\x7b\"item_kind\":\"secure_note\",\"favorite\":true,\"sensitive\":false,\"reprompt\":true,"
    ++ "\"color\":\"red\"\x7d"

theorem json_coloredText : Parsers.compact.json (utf8 coloredText) = some coloredMetadata := by
  have hwrite : utf8 coloredText = coloredMetadata.write := by decide +kernel
  rw [hwrite, Parsers.compact_json_write]

/-- Note 2 in vault 1 with this metadata. -/
def coloredSource : ItemRecord :=
  { oldSource with
    metadataCiphertext := Base64.encode (encryptMetadataJson .transparent ⟨.replicate 32 3⟩
      (FixedBytes.replicate 16 2).toBytes (.replicate 24 0) coloredText) }

theorem readReply_coloredSource :
    readReply .compact maxGatewayBody (directReply coloredSource.toJson)
      = .ok coloredSource.toJson := by
  apply readReply_directReply (ItemRecord.bare_toJson _)
  simp only [coloredSource, oldSource, sourceRecord, exampleRecord, ItemFields.record,
    exampleFields, ItemRecord.toJson, Json.uuid, Json.orNull, Json.int, Json.write,
    Json.writeMembers, writeString, Base64.utf8_encode]
  decide +kernel

theorem ofJson_coloredSource :
    ItemRecord.ofJson .compact coloredSource.toJson = some coloredSource := by
  have hrevision : validRfc3339 .compact coloredSource.updatedAt.asStr = true := by
    show validRfc3339 .compact "2026-01-01T00:00:00Z" = true
    rfl
  refine ItemRecord.ofJson_toJson hrevision ?_
  intro n hn
  have hversion : coloredSource.vaultKeyVersion = some 1 := rfl
  rw [hversion] at hn
  cases hn
  decide

theorem openMetadata_coloredSource :
    openMetadata .transparent ⟨.replicate 32 3⟩ (.replicate 16 2) coloredSource = .ok coloredText :=
  openMetadata_of_sealed Aead.transparent_ideal rfl

theorem renamable_coloredSource : Renamable coloredSource coloredText where
  record := ofJson_coloredSource
  reply := readReply_coloredSource
  ids := ⟨rfl, rfl⟩
  wrap := rfl
  revision := rfl
  metadata := openMetadata_coloredSource
  flags := metadataFlags_of_json json_coloredText

/-- The store that holds the note. -/
def coloredStore : ItemStore := emptyStore.put (.replicate 16 1, .replicate 16 2) coloredSource

theorem coloredStore_rows :
    coloredStore.rows (.replicate 16 1, .replicate 16 2) = some coloredSource :=
  emptyStore.put_rows_self _ _

theorem coloredStore_fresh :
    newSource.updatedAt ∉ coloredStore.history (.replicate 16 1, .replicate 16 2) := by
  unfold coloredStore
  rw [VersionedStore.put_history_self]
  decide

/-- The flags of the note are kept when it is renamed. -/
theorem updateItem_rebuilds_metadata_colored :
    ∃ text written,
      openMetadata .transparent ⟨.replicate 32 3⟩ (.replicate 16 2) newSource = .ok text ∧
      Parsers.compact.json (utf8 text) = some written ∧
      RebuildsMetadata .secureNote false coloredMetadata written :=
  updateItem_rebuilds_metadata Aead.transparent_ideal Parsers.compact_readsFlat
    (exec_rename renamable_coloredSource coloredStore_rows coloredStore_fresh) List.mem_cons_self
    coloredStore_rows (List.mem_cons_of_mem _ List.mem_cons_self)
    (coloredStore.put_rows_self _ _) renamable_coloredSource.metadata json_coloredText

/-- **A key that is lost**: the renamed note has no color any more. -/
theorem updateItem_not_leaves_metadata :
    ¬ ∀ (A : Aead) (codec : ItemCodec String) (P : Parsers) (draw : UpdateDraw) (v i : Uuid)
      (vaultKey : VaultKey) (content title : String) (tags : List String) (sensitive : Bool)
      (version : ℤ) (ifMatch : Option ItemRevision) (s u : ItemStore) (es : List ItemEvent)
      (revision : ItemRevision) (seen seen' before after : ItemStore) (rep rep' : HttpReply)
      (record row : ItemRecord) (request : UpdateItemRequest) (text text' : String)
      (members : List (String × Json)) (written : Json), A.Ideal → P.ReadsFlat →
      ItemExec P (updateItem A codec P draw v i vaultKey content title tags none sensitive version
        ifMatch) s es (.ok revision) u →
      .served seen (.getItem v i) rep seen' ∈ es → seen.rows (v, i) = some record →
      .served before (.updateItem v i request ifMatch) rep' after ∈ es →
      after.rows (v, i) = some row →
      openMetadata A vaultKey i record = .ok text → P.json (utf8 text) = some (.obj members) →
      openMetadata A vaultKey i row = .ok text' → P.json (utf8 text') = some written →
      LeavesMetadata (.obj members) written := by
  intro hclaim
  have hmetadata : openMetadata .transparent ⟨.replicate 32 3⟩ (.replicate 16 2) newSource
      = .ok (metadataText .secureNote true false true) := openMetadata_exampleRecord
  obtain ⟨written, hwritten, hget⟩ :=
    json_metadataText Parsers.compact_readsFlat .secureNote true false true
  have hleaves := hclaim .transparent noteCodec .compact exampleDraw (.replicate 16 1)
    (.replicate 16 2) ⟨.replicate 32 3⟩ "body" "new" [] false 1 (some ⟨"2026-01-01T00:00:00Z"⟩) _ _
    _ _ _ _ _ _ _ _ _ _ _ _ _ _ _ Aead.transparent_ideal Parsers.compact_readsFlat
    (exec_rename renamable_coloredSource coloredStore_rows coloredStore_fresh) List.mem_cons_self
    coloredStore_rows (List.mem_cons_of_mem _ List.mem_cons_self)
    (coloredStore.put_rows_self _ _) renamable_coloredSource.metadata json_coloredText
    hmetadata hwritten
  have hcolor := hleaves.others "color" (by decide)
  rw [hget] at hcolor
  cases hcolor

end SerenSecrets
