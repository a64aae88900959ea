import SerenSecrets.Lib.Client
import SerenSecrets.Protocol.Vault
import SerenSecrets.Resolver.Http

set_option autoImplicit false

/-! # Items of a vault: records, requests and client operations

An item is stored as a record of ciphertexts with a revision. The client seals and opens the
ciphertexts and talks to the service in single requests: moving an item is a read, a create and a
trash, updating one is a read and a patch. Random values are arguments (`CreateDraw`,
`UpdateDraw`). -/

namespace SerenSecrets

/-! ## Records and requests -/

/-- An item as the service stores and returns it. -/
structure ItemRecord where
  itemId : Uuid
  vaultId : Uuid
  titleCiphertext : String
  contentCiphertext : String
  tagsCiphertext : Option String
  titleBlindIndex : String
  contentKeyWrap : String
  metadataCiphertext : String
  sensitive : Bool
  vaultKeyVersion : Option ℤ
  createdAt : String
  updatedAt : ItemRevision
  archivedAt : Option String
  trashedAt : Option String
  deriving DecidableEq

def ItemRecord.fieldNames : List String :=
  ["item_id", "vault_id", "title_ciphertext", "content_ciphertext", "tags_ciphertext",
    "title_blind_index", "content_key_wrap", "metadata_ciphertext", "sensitive",
    "vault_key_version", "created_at", "updated_at", "archived_at", "trashed_at"]

def ItemRecord.ofJson (P : Parsers) (value : Json) : Option ItemRecord := do
  let fields ← value.record? fieldNames
  let itemId ← Json.field fields "item_id" Json.asUuid?
  let vaultId ← Json.field fields "vault_id" Json.asUuid?
  let titleCiphertext ← Json.field fields "title_ciphertext" Json.asStr?
  let contentCiphertext ← Json.field fields "content_ciphertext" Json.asStr?
  let tagsCiphertext ← Json.fieldOr fields "tags_ciphertext" (Json.nullable Json.asStr?) none
  let titleBlindIndex ← Json.field fields "title_blind_index" Json.asStr?
  let contentKeyWrap ← Json.field fields "content_key_wrap" Json.asStr?
  let metadataCiphertext ← Json.field fields "metadata_ciphertext" Json.asStr?
  let sensitive ← Json.fieldOr fields "sensitive" Json.asBool? false
  let vaultKeyVersion ←
    Json.fieldOr fields "vault_key_version" (Json.nullable (Json.asInt? (-2 ^ 31) (2 ^ 31 - 1))) none
  let createdAt ← Json.fieldOr fields "created_at" Json.asStr? ""
  let updatedAt ← Json.field fields "updated_at" (ItemRevision.ofJson P)
  let archivedAt ← Json.fieldOr fields "archived_at" (Json.nullable Json.asStr?) none
  let trashedAt ← Json.fieldOr fields "trashed_at" (Json.nullable Json.asStr?) none
  return { itemId, vaultId, titleCiphertext, contentCiphertext, tagsCiphertext, titleBlindIndex,
           contentKeyWrap, metadataCiphertext, sensitive, vaultKeyVersion, createdAt, updatedAt,
           archivedAt, trashedAt }

/-- A record as the service writes it. -/
def ItemRecord.toJson (record : ItemRecord) : Json :=
  .obj
    [("archived_at", Json.orNull .str record.archivedAt),
      ("content_ciphertext", .str record.contentCiphertext),
      ("content_key_wrap", .str record.contentKeyWrap),
      ("created_at", .str record.createdAt),
      ("item_id", Json.uuid record.itemId),
      ("metadata_ciphertext", .str record.metadataCiphertext),
      ("sensitive", .bool record.sensitive),
      ("tags_ciphertext", Json.orNull .str record.tagsCiphertext),
      ("title_blind_index", .str record.titleBlindIndex),
      ("title_ciphertext", .str record.titleCiphertext),
      ("trashed_at", Json.orNull .str record.trashedAt),
      ("updated_at", .str record.updatedAt.asStr),
      ("vault_id", Json.uuid record.vaultId),
      ("vault_key_version", Json.orNull Json.int record.vaultKeyVersion)]

theorem ItemRecord.bare_toJson (record : ItemRecord) : Bare record.toJson := by
  simp [Bare, toJson, Json.get?]

/-- What the service writes is read back, if the client accepts its revision. -/
theorem ItemRecord.ofJson_toJson {P : Parsers} {record : ItemRecord}
    (hrevision : validRfc3339 P record.updatedAt.asStr = true)
    (hversion : ∀ n ∈ record.vaultKeyVersion, -2 ^ 31 ≤ n ∧ n ≤ 2 ^ 31 - 1) :
    ofJson P record.toJson = some record := by
  generalize hvalue : record.toJson = value
  obtain ⟨itemId, vaultId, title, content, tags, blindIndex, wrap, metadata, sensitive, keyVersion,
    createdAt, ⟨revision⟩, archivedAt, trashedAt⟩ := record
  have htext : ∀ text : Option String,
      Json.nullable Json.asStr? (Json.orNull .str text) = some text := by
    intro text
    cases text <;> rfl
  have hnumber : Json.nullable (Json.asInt? (-2 ^ 31) (2 ^ 31 - 1)) (Json.orNull Json.int keyVersion)
      = some keyVersion := by
    cases keyVersion with
    | none => rfl
    | some n =>
        have hrange := hversion n rfl
        simp only [Json.orNull, Json.int, Json.nullable, Json.asInt?, if_pos hrange, Option.map_some]
  have hdate : ItemRevision.ofJson P (.str revision) = some ⟨revision⟩ := by
    simp only [ItemRevision.ofJson, ItemRevision.new, hrevision, if_true, Except.toOption]
  -- Each field is found under its own name.
  have hfields : value.record? fieldNames = some (fun name => value.get? name) := by
    subst hvalue
    rfl
  have hget : value.get? "item_id" = some (Json.uuid itemId) ∧
      value.get? "vault_id" = some (Json.uuid vaultId) ∧
      value.get? "title_ciphertext" = some (.str title) ∧
      value.get? "content_ciphertext" = some (.str content) ∧
      value.get? "tags_ciphertext" = some (Json.orNull .str tags) ∧
      value.get? "title_blind_index" = some (.str blindIndex) ∧
      value.get? "content_key_wrap" = some (.str wrap) ∧
      value.get? "metadata_ciphertext" = some (.str metadata) ∧
      value.get? "sensitive" = some (.bool sensitive) ∧
      value.get? "vault_key_version" = some (Json.orNull Json.int keyVersion) ∧
      value.get? "created_at" = some (.str createdAt) ∧
      value.get? "updated_at" = some (.str revision) ∧
      value.get? "archived_at" = some (Json.orNull .str archivedAt) ∧
      value.get? "trashed_at" = some (Json.orNull .str trashedAt) := by
    subst hvalue
    exact ⟨rfl, rfl, rfl, rfl, rfl, rfl, rfl, rfl, rfl, rfl, rfl, rfl, rfl, rfl⟩
  obtain ⟨h₁, h₂, h₃, h₄, h₅, h₆, h₇, h₈, h₉, h₁₀, h₁₁, h₁₂, h₁₃, h₁₄⟩ := hget
  refine Option.bind_eq_some_iff.mpr ⟨_, hfields, ?_⟩
  refine Option.bind_eq_some_iff.mpr ⟨_, Json.field_eq_some h₁ (Json.asUuid?_uuid itemId), ?_⟩
  refine Option.bind_eq_some_iff.mpr ⟨_, Json.field_eq_some h₂ (Json.asUuid?_uuid vaultId), ?_⟩
  refine Option.bind_eq_some_iff.mpr ⟨_, Json.field_eq_some h₃ rfl, ?_⟩
  refine Option.bind_eq_some_iff.mpr ⟨_, Json.field_eq_some h₄ rfl, ?_⟩
  refine Option.bind_eq_some_iff.mpr ⟨_, Json.fieldOr_eq_some h₅ (htext tags), ?_⟩
  refine Option.bind_eq_some_iff.mpr ⟨_, Json.field_eq_some h₆ rfl, ?_⟩
  refine Option.bind_eq_some_iff.mpr ⟨_, Json.field_eq_some h₇ rfl, ?_⟩
  refine Option.bind_eq_some_iff.mpr ⟨_, Json.field_eq_some h₈ rfl, ?_⟩
  refine Option.bind_eq_some_iff.mpr ⟨_, Json.fieldOr_eq_some h₉ rfl, ?_⟩
  refine Option.bind_eq_some_iff.mpr ⟨_, Json.fieldOr_eq_some h₁₀ hnumber, ?_⟩
  refine Option.bind_eq_some_iff.mpr ⟨_, Json.fieldOr_eq_some h₁₁ rfl, ?_⟩
  refine Option.bind_eq_some_iff.mpr ⟨_, Json.field_eq_some h₁₂ hdate, ?_⟩
  refine Option.bind_eq_some_iff.mpr ⟨_, Json.fieldOr_eq_some h₁₃ (htext archivedAt), ?_⟩
  exact Option.bind_eq_some_iff.mpr ⟨_, Json.fieldOr_eq_some h₁₄ (htext trashedAt), rfl⟩

/-- An item as it stands in a listing. -/
structure ItemSummary where
  itemId : Uuid
  vaultId : Uuid
  titleCiphertext : String
  tagsCiphertext : Option String
  metadataCiphertext : String
  titleBlindIndex : String
  updatedAt : ItemRevision
  trashedAt : Option String
  deriving DecidableEq

def ItemSummary.fieldNames : List String :=
  ["item_id", "vault_id", "title_ciphertext", "tags_ciphertext", "metadata_ciphertext",
    "title_blind_index", "updated_at", "trashed_at"]

def ItemSummary.ofJson (P : Parsers) (value : Json) : Option ItemSummary := do
  let fields ← value.record? fieldNames
  let itemId ← Json.field fields "item_id" Json.asUuid?
  let vaultId ← Json.field fields "vault_id" Json.asUuid?
  let titleCiphertext ← Json.field fields "title_ciphertext" Json.asStr?
  let tagsCiphertext ← Json.fieldOr fields "tags_ciphertext" (Json.nullable Json.asStr?) none
  let metadataCiphertext ← Json.field fields "metadata_ciphertext" Json.asStr?
  let titleBlindIndex ← Json.field fields "title_blind_index" Json.asStr?
  let updatedAt ← Json.field fields "updated_at" (ItemRevision.ofJson P)
  let trashedAt ← Json.fieldOr fields "trashed_at" (Json.nullable Json.asStr?) none
  return { itemId, vaultId, titleCiphertext, tagsCiphertext, metadataCiphertext, titleBlindIndex,
           updatedAt, trashedAt }

def summariesOfJson (P : Parsers) : Json → Option (List ItemSummary)
  | .arr elems => elems.mapM (ItemSummary.ofJson P)
  | _ => none

/-- The fields that a create and an update have in common. -/
structure ItemFields where
  titleCiphertext : String
  contentCiphertext : String
  tagsCiphertext : Option String
  titleBlindIndex : String
  contentKeyWrap : String
  metadataCiphertext : String
  sensitive : Bool
  wrappingKeyVersion : Option ℤ
  deriving DecidableEq

/-- The record holds the fields of a request. -/
structure ItemRecord.Holds (record : ItemRecord) (fields : ItemFields) : Prop where
  title : record.titleCiphertext = fields.titleCiphertext
  content : record.contentCiphertext = fields.contentCiphertext
  tags : record.tagsCiphertext = fields.tagsCiphertext
  titleBlindIndex : record.titleBlindIndex = fields.titleBlindIndex
  contentKeyWrap : record.contentKeyWrap = fields.contentKeyWrap
  metadata : record.metadataCiphertext = fields.metadataCiphertext
  sensitive : record.sensitive = fields.sensitive

/-- The active record of some fields. -/
def ItemFields.record (fields : ItemFields) (vaultId itemId : Uuid) (createdAt : String)
    (revision : ItemRevision) : ItemRecord where
  itemId := itemId
  vaultId := vaultId
  titleCiphertext := fields.titleCiphertext
  contentCiphertext := fields.contentCiphertext
  tagsCiphertext := fields.tagsCiphertext
  titleBlindIndex := fields.titleBlindIndex
  contentKeyWrap := fields.contentKeyWrap
  metadataCiphertext := fields.metadataCiphertext
  sensitive := fields.sensitive
  vaultKeyVersion := fields.wrappingKeyVersion
  createdAt := createdAt
  updatedAt := revision
  archivedAt := none
  trashedAt := none

theorem ItemFields.holds_record (fields : ItemFields) (vaultId itemId : Uuid) (createdAt : String)
    (revision : ItemRevision) : (fields.record vaultId itemId createdAt revision).Holds fields :=
  ⟨rfl, rfl, rfl, rfl, rfl, rfl, rfl⟩

structure CreateItemRequest extends ItemFields where
  itemId : Uuid
  deriving DecidableEq

structure UpdateItemRequest extends ItemFields where
  deriving DecidableEq

inductive Method where
  | get
  | post
  | patch
  | delete
  deriving DecidableEq, Repr

inductive ItemListState where
  | active
  | trashed
  deriving DecidableEq, Repr

/-- A request about items, with its body and its optional `If-Match` revision. -/
inductive ItemCall where
  | listItems (vaultId : Uuid) (state : ItemListState)
  | getItem (vaultId itemId : Uuid)
  | createItem (vaultId : Uuid) (body : CreateItemRequest)
  | updateItem (vaultId itemId : Uuid) (body : UpdateItemRequest) (ifMatch : Option ItemRevision)
  | trashItem (vaultId itemId : Uuid) (ifMatch : Option ItemRevision)
  | deleteItem (vaultId itemId : Uuid)
  | restoreItem (vaultId itemId : Uuid)

namespace ItemCall

def method : ItemCall → Method
  | listItems _ _ => .get
  | getItem _ _ => .get
  | createItem _ _ => .post
  | updateItem _ _ _ _ => .patch
  | trashItem _ _ _ => .post
  | deleteItem _ _ => .delete
  | restoreItem _ _ => .post

def itemPath (vaultId itemId : Uuid) : String :=
  "/vaults/" ++ vaultId.toText ++ "/items/" ++ itemId.toText

def path : ItemCall → String
  | listItems v .active => "/vaults/" ++ v.toText ++ "/items"
  | listItems v .trashed => "/vaults/" ++ v.toText ++ "/items?state=trashed"
  | getItem v i => itemPath v i
  | createItem v _ => "/vaults/" ++ v.toText ++ "/items"
  | updateItem v i _ _ => itemPath v i
  | trashItem v i _ => itemPath v i ++ "/trash"
  | deleteItem v i => itemPath v i
  | restoreItem v i => itemPath v i ++ "/restore"

end ItemCall

/-! ## Sealing requests -/

inductive ItemKind where
  | login
  | secureNote
  | apiCredential
  | card
  | identity
  | document
  | sshKey
  | server
  | database
  | bankAccount
  | passport
  | driverLicense
  | cryptoWallet
  deriving DecidableEq, Repr

def ItemKind.str : ItemKind → String
  | login => "login"
  | secureNote => "secure_note"
  | apiCredential => "api_credential"
  | card => "card"
  | identity => "identity"
  | document => "document"
  | sshKey => "ssh_key"
  | server => "server"
  | database => "database"
  | bankAccount => "bank_account"
  | passport => "passport"
  | driverLicense => "driver_license"
  | cryptoWallet => "crypto_wallet"

/-- How contents are written and read, and which kind each is. -/
structure ItemCodec (Content : Type) extends ContentCodec Content where
  kind : Content → ItemKind

def boolText (b : Bool) : String := if b then "true" else "false"

/-- The metadata of an item, as its JSON text. -/
def metadataText (kind : ItemKind) (favorite sensitive reprompt : Bool) : String :=
  String.join
    ["\x7b\"item_kind\":\"", kind.str, "\",\"favorite\":", boolText favorite,
      ",\"sensitive\":", boolText sensitive, ",\"reprompt\":", boolText reprompt, "\x7d"]

/-- The favorite and reprompt flags of a metadata text, false when they cannot be read. -/
def metadataFlags (P : Parsers) (metadataJson : String) : Bool × Bool :=
  match P.json (utf8 metadataJson) with
  | none => (false, false)
  | some value =>
      (((value.get? "favorite").bind Json.asBool?).getD false,
        ((value.get? "reprompt").bind Json.asBool?).getD false)

/-- The random values of an update. -/
structure UpdateDraw where
  titleNonce : FixedBytes 24
  contentNonce : FixedBytes 24
  tagsNonce : FixedBytes 24
  metadataNonce : FixedBytes 24

/-- The random values of a create. -/
structure CreateDraw extends UpdateDraw where
  contentKey : ItemContentKey
  contentKeyNonce : FixedBytes 24

section Requests

variable {Content : Type} (A : Aead) (codec : ItemCodec Content)

/-- Seal the fields of a request. -/
def sealFields (draw : UpdateDraw) (vaultKey : VaultKey) (itemId : Uuid)
    (contentKey : ItemContentKey) (contentKeyWrap : String) (content : Content) (title : String)
    (tags : List String) (sensitive favorite reprompt : Bool) (version : ℤ) :
    ResolverResult ItemFields := do
  let titleCt := encryptTitle A vaultKey itemId.toBytes draw.titleNonce title
  let contentCt ← fromCrypto (encryptItemWithContentKey A codec.toContentCodec contentKey
    itemId.toBytes draw.contentNonce content)
  let tagsCt := if tags.isEmpty then none
    else some (encryptTags A vaultKey itemId.toBytes draw.tagsNonce tags)
  let metadataJson := metadataText (codec.kind content) favorite sensitive reprompt
  let metadataCt := encryptMetadataJson A vaultKey itemId.toBytes draw.metadataNonce metadataJson
  return {
    titleCiphertext := Base64.encode titleCt
    contentCiphertext := Base64.encode contentCt
    tagsCiphertext := tagsCt.map Base64.encode
    titleBlindIndex := ""
    contentKeyWrap := contentKeyWrap
    metadataCiphertext := Base64.encode metadataCt
    sensitive := sensitive
    wrappingKeyVersion := some version }

def buildCreateRequest (draw : CreateDraw) (vaultKey : VaultKey) (itemId : Uuid)
    (content : Content) (title : String) (tags : List String) (favorite sensitive : Bool)
    (version : ℤ) : ResolverResult CreateItemRequest := do
  let ckWrap := wrapItemContentKey A vaultKey itemId.toBytes draw.contentKeyNonce draw.contentKey
  let fields ← sealFields A codec draw.toUpdateDraw vaultKey itemId draw.contentKey
    (Base64.encode ckWrap) content title tags sensitive favorite false version
  return { toItemFields := fields, itemId := itemId }

/-- The content key and its wrap are the item's own; the wrap is passed through. -/
def buildUpdateRequest (draw : UpdateDraw) (vaultKey : VaultKey) (itemId : Uuid)
    (contentKey : ItemContentKey) (contentKeyWrapB64 : String) (content : Content)
    (title : String) (tags : List String) (sensitive favorite reprompt : Bool) (version : ℤ) :
    ResolverResult UpdateItemRequest := do
  let fields ← sealFields A codec draw vaultKey itemId contentKey contentKeyWrapB64 content title
    tags sensitive favorite reprompt version
  return { toItemFields := fields }

end Requests

/-- What is in sealed fields. -/
theorem sealFields_eq_ok {Content : Type} {A : Aead} {codec : ItemCodec Content}
    {draw : UpdateDraw} {vaultKey : VaultKey} {itemId : Uuid} {contentKey : ItemContentKey}
    {wrap : String} {content : Content} {title : String} {tags : List String}
    {sensitive favorite reprompt : Bool} {version : ℤ} {fields : ItemFields} :
    sealFields A codec draw vaultKey itemId contentKey wrap content title tags sensitive favorite
        reprompt version = .ok fields ↔
      ∃ contentCt, encryptItemWithContentKey A codec.toContentCodec contentKey itemId.toBytes
          draw.contentNonce content = .ok contentCt ∧
        fields =
          { titleCiphertext :=
              Base64.encode (encryptTitle A vaultKey itemId.toBytes draw.titleNonce title)
            contentCiphertext := Base64.encode contentCt
            tagsCiphertext := (if tags.isEmpty then none
              else some (encryptTags A vaultKey itemId.toBytes draw.tagsNonce tags)).map
                Base64.encode
            titleBlindIndex := ""
            contentKeyWrap := wrap
            metadataCiphertext := Base64.encode (encryptMetadataJson A vaultKey itemId.toBytes
              draw.metadataNonce (metadataText (codec.kind content) favorite sensitive reprompt))
            sensitive := sensitive
            wrappingKeyVersion := some version } := by
  simp only [sealFields, Except.bind_eq_ok, fromCrypto_eq_ok, Except.pure_eq_ok]
  refine exists_congr fun contentCt => and_congr_right fun _ => ?_
  exact eq_comm

/-! ### The metadata text as JSON -/

/-- The JSON reader takes a flat object of texts and booleans for what it is, in some order of its
    members. -/
def Parsers.ReadsFlat (P : Parsers) : Prop :=
  ∀ members : List (String × Json), (members.map Prod.fst).Nodup →
    (∀ m ∈ members, (∃ s, m.2 = .str s) ∨ ∃ b, m.2 = .bool b) →
      ∃ value, P.json (Json.obj members).write = some value ∧
        ∀ key, value.get? key = (Json.obj members).get? key

def metadataMembers (kind : ItemKind) (favorite sensitive reprompt : Bool) : List (String × Json) :=
  [("item_kind", .str kind.str), ("favorite", .bool favorite), ("sensitive", .bool sensitive),
    ("reprompt", .bool reprompt)]

theorem writeString_kind (kind : ItemKind) :
    writeString kind.str = 0x22 :: (utf8 kind.str ++ [0x22]) := by
  cases kind <;> decide

theorem write_bool (b : Bool) : (Json.bool b).write = utf8 (boolText b) := by
  cases b <;> rfl

theorem utf8_metadataText (kind : ItemKind) (favorite sensitive reprompt : Bool) :
    utf8 (metadataText kind favorite sensitive reprompt)
      = (Json.obj (metadataMembers kind favorite sensitive reprompt)).write := by
  have hopen : utf8 "\x7b\"item_kind\":\"" = 0x7B :: (writeString "item_kind" ++ [0x3A, 0x22]) := by
    decide
  have hfavorite : utf8 "\",\"favorite\":" = 0x22 :: 0x2C :: (writeString "favorite" ++ [0x3A]) := by
    decide
  have hsensitive : utf8 ",\"sensitive\":" = 0x2C :: (writeString "sensitive" ++ [0x3A]) := by decide
  have hreprompt : utf8 ",\"reprompt\":" = 0x2C :: (writeString "reprompt" ++ [0x3A]) := by decide
  have hclose : utf8 "\x7d" = [0x7D] := by decide
  have hkind : (Json.str kind.str).write = 0x22 :: (utf8 kind.str ++ [0x22]) :=
    writeString_kind kind
  have hobject : ∀ members, (Json.obj members).write = 0x7B :: Json.writeMembers true members :=
    fun _ => rfl
  unfold metadataText
  rw [utf8_join, hobject]
  simp only [List.flatMap_cons, List.flatMap_nil, hopen, hfavorite, hsensitive, hreprompt, hclose,
    metadataMembers, Json.writeMembers, hkind, write_bool]
  simp

/-- The flags of a metadata text that the client wrote. -/
theorem metadataFlags_metadataText {P : Parsers} (hP : P.ReadsFlat) (kind : ItemKind)
    (favorite sensitive reprompt : Bool) :
    metadataFlags P (metadataText kind favorite sensitive reprompt) = (favorite, reprompt) := by
  obtain ⟨value, hvalue, hget⟩ := hP (metadataMembers kind favorite sensitive reprompt)
    (by simp [metadataMembers]) (by simp [metadataMembers])
  unfold metadataFlags
  rw [utf8_metadataText, hvalue]
  simp only [hget]
  rfl

/-! ## Opening records -/

structure DecryptedItem (Content : Type) where
  itemId : Uuid
  title : String
  tags : List String
  sensitive : Bool
  content : Content
  metadataJson : String
  updatedAt : ItemRevision
  trashedAt : Option ServiceTimestamp

structure DecryptedItemSummary where
  itemId : Uuid
  title : String
  updatedAt : ItemRevision
  trashedAt : Option ServiceTimestamp

def ensureRecordMatches (expectedVaultId expectedItemId : Uuid) (record : ItemRecord) :
    ResolverResult Unit :=
  rejectIf (record.itemId ≠ expectedItemId ∨ record.vaultId ≠ expectedVaultId) .responseMismatch

@[simp] theorem ensureRecordMatches_eq_ok {vaultId itemId : Uuid} {record : ItemRecord} {u : Unit} :
    ensureRecordMatches vaultId itemId record = .ok u ↔
      record.itemId = itemId ∧ record.vaultId = vaultId := by
  simp [ensureRecordMatches]

/-- The record in a reply; `what` names it when it cannot be read. -/
def parseRecord (P : Parsers) (what : String) (value : Json) : ResolverResult ItemRecord :=
  match ItemRecord.ofJson P value with
  | some record => .ok record
  | none => .error (.malformed what)

@[simp] theorem parseRecord_eq_ok {P : Parsers} {what : String} {value : Json}
    {record : ItemRecord} :
    parseRecord P what value = .ok record ↔ ItemRecord.ofJson P value = some record := by
  unfold parseRecord
  cases ItemRecord.ofJson P value <;> simp

def writtenUpdatedAt (P : Parsers) (expectedVaultId expectedItemId : Uuid) (value : Json) :
    ResolverResult ItemRevision := do
  let record ← parseRecord P "item record" value
  ensureRecordMatches expectedVaultId expectedItemId record
  return record.updatedAt

def itemTrashedAt (P : Parsers) (trashedAt : Option String) :
    ResolverResult (Option ServiceTimestamp) :=
  match trashedAt with
  | none => .ok none
  | some value =>
      match ServiceTimestamp.new P value with
      | .ok time => .ok (some time)
      | .error _ => .error (.malformed "item trashed_at")

section Opening

variable {Content : Type} (A : Aead) (codec : ItemCodec Content) (P : Parsers)

def openTags (vaultKey : VaultKey) (itemId : Uuid) (tagsCiphertext : Option String) :
    ResolverResult (List String) :=
  match tagsCiphertext with
  | none => .ok []
  | some tagsCt => do
      let bytes ← b64Decode tagsCt "tags_ciphertext"
      fromCrypto (decryptTags A P.json vaultKey itemId.toBytes bytes)

/-- Decrypt a record under the ids that were asked for. -/
def decryptItemRecord (vaultKey : VaultKey) (expectedVaultId expectedItemId : Uuid)
    (record : ItemRecord) : ResolverResult (DecryptedItem Content) := do
  ensureRecordMatches expectedVaultId expectedItemId record
  let trashedAt ← itemTrashedAt P record.trashedAt
  let itemId := expectedItemId
  let ckWrapBytes ← b64Decode record.contentKeyWrap "content_key_wrap"
  let contentCtBytes ← b64Decode record.contentCiphertext "content_ciphertext"
  let titleCtBytes ← b64Decode record.titleCiphertext "title_ciphertext"
  let metadataCtBytes ← b64Decode record.metadataCiphertext "metadata_ciphertext"
  let contentKey ← fromCrypto (unwrapItemContentKey A vaultKey itemId.toBytes ckWrapBytes)
  let content ← fromCrypto (decryptItemWithContentKey A codec.toContentCodec contentKey
    itemId.toBytes contentCtBytes)
  let title ← fromCrypto (decryptTitle A vaultKey itemId.toBytes titleCtBytes)
  let tags ← openTags A P vaultKey itemId record.tagsCiphertext
  let metadataJson ← fromCrypto (decryptMetadataJson A vaultKey itemId.toBytes metadataCtBytes)
  return { itemId, title, tags, sensitive := record.sensitive, content, metadataJson,
           updatedAt := record.updatedAt, trashedAt }

end Opening

/-- **A sealed record opens to what was sealed**, if the codec and the JSON reader read back its
    content and its tags. -/
theorem decryptItemRecord_sealed {Content : Type} {A : Aead} (hA : A.Ideal)
    {codec : ItemCodec Content} {P : Parsers} {draw : UpdateDraw} {vaultKey : VaultKey}
    {vaultId itemId : Uuid} {contentKey : ItemContentKey} {nonce : FixedBytes 24}
    {content : Content} {title : String} {tags : List String} {sensitive favorite reprompt : Bool}
    {version : ℤ} {fields : ItemFields}
    (hseal : sealFields A codec draw vaultKey itemId contentKey
      (Base64.encode (wrapItemContentKey A vaultKey itemId.toBytes nonce contentKey)) content title
      tags sensitive favorite reprompt version = .ok fields)
    {record : ItemRecord} (hholds : record.Holds fields) (hitem : record.itemId = itemId)
    (hvault : record.vaultId = vaultId) {trashedAt : Option ServiceTimestamp}
    (htime : itemTrashedAt P record.trashedAt = .ok trashedAt)
    (hcontent : ∀ json, codec.toVec content = some json → codec.fromSlice json = some content)
    (htags : tags = [] ∨ (P.json (tagsToVec tags)).bind tagsOfJson = some tags) :
    decryptItemRecord A codec P vaultKey vaultId itemId record = .ok
      { itemId, title, tags, sensitive := record.sensitive, content,
        metadataJson := metadataText (codec.kind content) favorite sensitive reprompt,
        updatedAt := record.updatedAt, trashedAt } := by
  obtain ⟨contentCt, hcontentCt, rfl⟩ := sealFields_eq_ok.mp hseal
  have hwrap : unwrapItemContentKey A vaultKey itemId.toBytes
      (wrapItemContentKey A vaultKey itemId.toBytes nonce contentKey) = .ok contentKey :=
    unwrapItemContentKey_wrap hA
  have hbody : decryptItemWithContentKey A codec.toContentCodec contentKey itemId.toBytes contentCt
      = .ok content :=
    decryptItem_encryptItem hA hcontentCt hcontent
  have htitle : decryptTitle A vaultKey itemId.toBytes
      (encryptTitle A vaultKey itemId.toBytes draw.titleNonce title) = .ok title :=
    decryptText_encryptText hA.correct
  have hmetadata : decryptMetadataJson A vaultKey itemId.toBytes
      (encryptMetadataJson A vaultKey itemId.toBytes draw.metadataNonce
        (metadataText (codec.kind content) favorite sensitive reprompt))
      = .ok (metadataText (codec.kind content) favorite sensitive reprompt) :=
    decryptText_encryptText hA.correct
  have htagsOpen : openTags A P vaultKey itemId record.tagsCiphertext = .ok tags := by
    rw [hholds.tags]
    -- An empty list of tags has no ciphertext.
    by_cases hempty : tags = []
    · subst hempty
      rfl
    · have hparse := htags.resolve_left hempty
      have hopen : decryptTags A P.json vaultKey itemId.toBytes
          (encryptTags A vaultKey itemId.toBytes draw.tagsNonce tags) = .ok tags :=
        decryptTags_encryptTags hA hparse
      simp only [List.isEmpty_iff, hempty, if_false, Option.map_some, openTags, Except.bind_eq_ok,
        b64Decode_eq_ok, Base64.decode_encode, Option.some.injEq, exists_eq_left', hopen, fromCrypto]
  simp only [decryptItemRecord, ensureRecordMatches, hitem, hvault, htime, hholds.contentKeyWrap,
    hholds.content, hholds.title, hholds.metadata, Except.bind_eq_ok, rejectIf_eq_ok,
    b64Decode_eq_ok, Base64.decode_encode, fromCrypto_eq_ok, Option.some.injEq, exists_eq_left',
    hwrap, hbody, htitle, hmetadata, htagsOpen, Except.ok.injEq, Except.pure_eq_ok]
  exact ⟨(), by simp, trivial⟩

/-- What was opened as the content of a record. -/
theorem decryptItemRecord_content {Content : Type} {A : Aead} {codec : ItemCodec Content}
    {P : Parsers} {vaultKey : VaultKey} {vaultId itemId : Uuid} {record : ItemRecord}
    {item : DecryptedItem Content}
    (h : decryptItemRecord A codec P vaultKey vaultId itemId record = .ok item) :
    ∃ wrap blob contentKey, Base64.decode record.contentKeyWrap = some wrap ∧
      Base64.decode record.contentCiphertext = some blob ∧
      unwrapItemContentKey A vaultKey itemId.toBytes wrap = .ok contentKey ∧
      decryptItemWithContentKey A codec.toContentCodec contentKey itemId.toBytes blob
        = .ok item.content := by
  simp only [decryptItemRecord, Except.bind_eq_ok, b64Decode_eq_ok, fromCrypto_eq_ok,
    Except.pure_eq_ok] at h
  obtain ⟨_, -, trashedAt, -, wrap, hwrap, blob, hblob, _, -, _, -, contentKey, hkey, content,
    hcontent, _, -, _, -, _, -, rfl⟩ := h
  exact ⟨wrap, blob, contentKey, hwrap, hblob, hkey, hcontent⟩

/-! ## Client operations -/

/-- Programs that talk to the item routes. -/
abbrev ItemClient (α : Type) := Client ItemCall HttpReply ResolverError α

inductive TrashOutcome where
  | trashed
  | alreadyTrashed
  deriving DecidableEq, Repr

structure TrashResult where
  outcome : TrashOutcome
  updatedAt : ItemRevision
  deriving DecidableEq

def TrashResult.ofJson (P : Parsers) (value : Json) : Option TrashResult := do
  let fields ← value.record? ["state", "updated_at"]
  let outcome ← Json.field fields "state"
    (Json.unitVariant? [("trashed", .trashed), ("already_trashed", .alreadyTrashed)])
  let updatedAt ← Json.field fields "updated_at" (ItemRevision.ofJson P)
  return { outcome, updatedAt }

section Operations

variable {Content : Type} (A : Aead) (codec : ItemCodec Content) (P : Parsers)

/-- Send a request and take the payload out of its reply. -/
def call (request : ItemCall) : ItemClient Json := Client.ask (readReply P maxGatewayBody) request

/-- Create an item under a new id. -/
def createItem (newItemId : Uuid) (draw : CreateDraw) (vaultId : Uuid) (vaultKey : VaultKey)
    (content : Content) (title : String) (tags : List String) (sensitive : Bool) (version : ℤ) :
    ItemClient Uuid := do
  let request ← .ofExcept (buildCreateRequest A codec draw vaultKey newItemId content title tags
    false sensitive version)
  let _ ← call P (.createItem vaultId request)
  return newItemId

def createItemWithId (draw : CreateDraw) (vaultId itemId : Uuid) (vaultKey : VaultKey)
    (content : Content) (title : String) (tags : List String) (favorite sensitive : Bool)
    (version : ℤ) : ItemClient ItemRevision := do
  let request ← .ofExcept (buildCreateRequest A codec draw vaultKey itemId content title tags
    favorite sensitive version)
  let value ← (call P (.createItem vaultId request)).mapErr (fun
    | .serverError status body => if status = 423 then .rotating else .serverError status body
    | other => other)
  .ofExcept (writtenUpdatedAt P vaultId itemId value)

/-- Open one row of a listing; its lifecycle must be the one that was asked for. -/
def openSummary (vaultId : Uuid) (vaultKey : VaultKey) (state : ItemListState)
    (summary : ItemSummary) : ResolverResult DecryptedItemSummary := do
  rejectIf (summary.vaultId ≠ vaultId) .responseMismatch
  let trashedAt ← itemTrashedAt P summary.trashedAt
  rejectIf (decide (state = .trashed) ≠ trashedAt.isSome) (.malformed "item summary lifecycle")
  let titleCt ← b64Decode summary.titleCiphertext "title_ciphertext"
  let title ← fromCrypto (decryptTitle A vaultKey summary.itemId.toBytes titleCt)
  return { itemId := summary.itemId, title, updatedAt := summary.updatedAt, trashedAt }

def listItemsInState (vaultId : Uuid) (vaultKey : VaultKey) (state : ItemListState) :
    ItemClient (List DecryptedItemSummary) := do
  let value ← call P (.listItems vaultId state)
  match summariesOfJson P value with
  | some summaries => .ofExcept (summaries.mapM (openSummary A P vaultId vaultKey state))
  | none => .ofExcept (.error (.malformed "item summaries"))

def getItem (vaultId itemId : Uuid) (vaultKey : VaultKey) : ItemClient (DecryptedItem Content) := do
  let value ← call P (.getItem vaultId itemId)
  let record ← .ofExcept (parseRecord P "item record" value)
  .ofExcept (decryptItemRecord A codec P vaultKey vaultId itemId record)

def copyItem (newItemId : Uuid) (draw : CreateDraw) (sourceVaultId itemId : Uuid)
    (sourceVaultKey : VaultKey) (targetVaultId : Uuid) (targetVaultKey : VaultKey)
    (targetKeyVersion : ℤ) : ItemClient Uuid := do
  let item ← getItem A codec P sourceVaultId itemId sourceVaultKey
  createItem A codec P newItemId draw targetVaultId targetVaultKey item.content item.title item.tags
    item.sensitive targetKeyVersion

def trashItem (vaultId itemId : Uuid) (ifMatchUpdatedAt : Option ItemRevision) :
    ItemClient TrashResult := do
  let response ← (call P (.trashItem vaultId itemId ifMatchUpdatedAt)).mapErr itemWriteError
  match TrashResult.ofJson P response with
  | some result => return result
  | none => .ofExcept (.error (.malformed "trash outcome"))

/-- Copy the item, then trash the source, whatever its revision is by then. -/
def moveItem (newItemId : Uuid) (draw : CreateDraw) (sourceVaultId itemId : Uuid)
    (sourceVaultKey : VaultKey) (targetVaultId : Uuid) (targetVaultKey : VaultKey)
    (targetKeyVersion : ℤ) : ItemClient Uuid := do
  let newItemId ← copyItem A codec P newItemId draw sourceVaultId itemId sourceVaultKey
    targetVaultId targetVaultKey targetKeyVersion
  let _ ← trashItem P sourceVaultId itemId none
  return newItemId

def updateItem (draw : UpdateDraw) (vaultId itemId : Uuid) (vaultKey : VaultKey)
    (content : Content) (title : String) (tags : List String) (favorite : Option Bool)
    (sensitive : Bool) (version : ℤ) (ifMatchUpdatedAt : Option ItemRevision) :
    ItemClient ItemRevision := do
  let value ← call P (.getItem vaultId itemId)
  let record ← .ofExcept (parseRecord P "item" value)
  .ofExcept (ensureRecordMatches vaultId itemId record)
  let wrapBytes ← .ofExcept (b64Decode record.contentKeyWrap "content_key_wrap")
  let contentKey ← .ofExcept (fromCrypto
    (unwrapItemContentKey A vaultKey itemId.toBytes wrapBytes))
  let metadataCtBytes ← .ofExcept (b64Decode record.metadataCiphertext "metadata_ciphertext")
  let existingMetadata ← .ofExcept (fromCrypto
    (decryptMetadataJson A vaultKey itemId.toBytes metadataCtBytes))
  let (storedFavorite, reprompt) := metadataFlags P existingMetadata
  let request ← .ofExcept (buildUpdateRequest A codec draw vaultKey itemId contentKey
    record.contentKeyWrap content title tags sensitive (favorite.getD storedFavorite) reprompt
    version)
  let value ← (call P (.updateItem vaultId itemId request ifMatchUpdatedAt)).mapErr (fun
    | .serverError status body =>
        if status = 409 then .keyVersion else itemWriteError (.serverError status body)
    | other => itemWriteError other)
  .ofExcept (writtenUpdatedAt P vaultId itemId value)

def deleteItem (vaultId itemId : Uuid) : ItemClient Unit := do
  let _ ← call P (.deleteItem vaultId itemId)
  return ()

def restoreItem (vaultId itemId : Uuid) : ItemClient Unit := do
  let _ ← call P (.restoreItem vaultId itemId)
  return ()

end Operations

end SerenSecrets
