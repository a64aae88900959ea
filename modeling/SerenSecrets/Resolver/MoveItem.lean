import SerenSecrets.Resolver.ItemService

set_option autoImplicit false

/-! # Moving an item to another vault

A move is three requests: read the source, create the copy, trash the source. Nothing ties the trash
to the version that was read: `moveItem` has its revision and sends none. So an update of the source
that is acknowledged in between is in neither the copy nor the active items
(`moveItem_loses_update`). As long as no step between the read and the trash changes what the source
opens to, the copy carries what the source had when it was trashed (`moveItem_intact`). -/

namespace SerenSecrets

/-! ## What the operations have done when they succeed -/

section Served

variable {Content : Type} {A : Aead} {codec : ItemCodec Content} {P : Parsers} {v i : Uuid}
  {vaultKey : VaultKey} {s u : ItemStore} {es : List ItemEvent}

/-- The stored row of an item opens to `item`. -/
def Opens (A : Aead) (codec : ItemCodec Content) (P : Parsers) (vaultKey : VaultKey) (v i : Uuid)
    (s : ItemStore) (item : DecryptedItem Content) : Prop :=
  ∃ row, s.rows (v, i) = some row ∧ decryptItemRecord A codec P vaultKey v i row = .ok item

theorem getItem_served {item : DecryptedItem Content}
    (h : ItemExec P (getItem A codec P v i vaultKey) s es (.ok item) u) :
    ∃ pre seen rep post, es = pre ++ .served seen (.getItem v i) rep seen :: post ∧
      Foreigns VersionedStore.Evolves pre s seen ∧ Foreigns VersionedStore.Evolves post seen u ∧
      Opens A codec P vaultKey v i seen item := by
  unfold getItem call at h
  obtain ⟨pre, seen, rep, seen', post, value, hes, hpre, hget, hread, h⟩ := h.ask_bind_ok
  obtain ⟨hseen', row, hrow, hvalue⟩ := hget.getItem_inv hread
  rw [hseen'] at h hes
  obtain ⟨record, hparse, h⟩ := h.ofExcept_bind_ok
  cases (parseRecord_eq_ok.mp hparse).symm.trans hvalue
  obtain ⟨hopen, hpost⟩ := Exec.done_inv h
  exact ⟨pre, seen, rep, post, hes, hpre, hpost, row, hrow, hopen.symm⟩

theorem createItem_served {newItemId n : Uuid} {draw : CreateDraw} {content : Content}
    {title : String} {tags : List String} {sensitive : Bool} {version : ℤ}
    (h : ItemExec P (createItem A codec P newItemId draw v vaultKey content title tags sensitive
      version) s es (.ok n) u) :
    n = newItemId ∧ ∃ pre before body rep row post,
      es = pre ++ .served before (.createItem v body) rep (before.put (v, newItemId) row) :: post ∧
      Foreigns VersionedStore.Evolves pre s before ∧
      Foreigns VersionedStore.Evolves post (before.put (v, newItemId) row) u ∧
      buildCreateRequest A codec draw vaultKey newItemId content title tags false sensitive version
        = .ok body ∧
      before.rows (v, newItemId) = none ∧ row.Holds body.toItemFields ∧ row.vaultId = v ∧
      row.itemId = newItemId := by
  unfold createItem call at h
  obtain ⟨body, hbody, h⟩ := h.ofExcept_bind_ok
  have hid : body.itemId = newItemId := by
    have hbuilt := hbody
    simp only [buildCreateRequest, Except.bind_eq_ok, Except.pure_eq_ok] at hbuilt
    obtain ⟨fields, -, rfl⟩ := hbuilt
    rfl
  obtain ⟨pre, before, rep, after, post, value, hes, hpre, hcreate, hread, h⟩ := h.ask_bind_ok
  obtain ⟨row, habsent, hvault, hitem, hholds, hafter, -⟩ := hcreate.createItem_inv hread
  rw [hid] at habsent hitem hafter
  rw [hafter] at h hes
  obtain ⟨hn, hpost⟩ := Exec.done_inv h
  exact ⟨Except.ok.inj hn, pre, before, body, rep, row, post, hes, hpre, hpost, hbody, habsent,
    hholds, hvault, hitem⟩

theorem trashItem_served {ifMatch : Option ItemRevision} {result : TrashResult}
    (h : ItemExec P (trashItem P v i ifMatch) s es (.ok result) u) :
    ∃ pre before rep after post,
      es = pre ++ .served before (.trashItem v i ifMatch) rep after :: post ∧
      Foreigns VersionedStore.Evolves pre s before ∧
      Foreigns VersionedStore.Evolves post after u := by
  unfold trashItem call at h
  rw [Client.mapErr_ask] at h
  obtain ⟨pre, before, rep, after, post, value, hes, hpre, -, -, h⟩ := h.ask_bind_ok
  refine ⟨pre, before, rep, after, post, hes, hpre, ?_⟩
  split at h
  · exact (Exec.done_inv h).2
  · exact absurd (Exec.done_inv h).1 (by simp)

end Served

/-! ## Moves that lose nothing -/

section Move

variable {Content : Type} (A : Aead) (codec : ItemCodec Content) (P : Parsers)

/-- The two items have the same title, tags and content. -/
def SameText (item item' : DecryptedItem Content) : Prop :=
  item'.title = item.title ∧ item'.tags = item.tags ∧ item'.content = item.content

/-- A step that leaves the title, the tags and the content that an item opens to as they are. -/
def KeepsText (vaultKey : VaultKey) (v i : Uuid) (before after : ItemStore) : Prop :=
  ∀ item, Opens A codec P vaultKey v i before item →
    ∃ item', Opens A codec P vaultKey v i after item' ∧ SameText item item'

/-- The record is sealed under the vault key with this content, title and tags. -/
def Carries (vaultKey : VaultKey) (itemId : Uuid) (row : ItemRecord) (content : Content)
    (title : String) (tags : List String) : Prop :=
  ∃ draw favorite sensitive version body,
    buildCreateRequest A codec draw vaultKey itemId content title tags favorite sensitive version
      = .ok body ∧ row.Holds body.toItemFields

/-- Between a read of an item and its trash, another client or the service takes a step. -/
def DuringMove (v i : Uuid) (es : List ItemEvent)
    (before after : ItemStore) : Prop :=
  ∃ pre s₀ rep₀ t₀ mid s₁ ifMatch rep₁ t₁ post,
    es = pre ++ .served s₀ (.getItem v i) rep₀ t₀ ::
      (mid ++ .served s₁ (.trashItem v i ifMatch) rep₁ t₁ :: post) ∧
    .foreign before after ∈ mid

/-- The copy was stored with the content, the title and the tags that the source had at the instant
    it was trashed. -/
def MovedIntact (sourceVaultId itemId : Uuid) (sourceVaultKey : VaultKey)
    (targetVaultId newItemId : Uuid) (targetVaultKey : VaultKey)
    (es : List ItemEvent) : Prop :=
  ∃ s₁ body rep₁ t₁ row s₂ ifMatch rep₂ t₂ item,
    .served s₁ (.createItem targetVaultId body) rep₁ t₁ ∈ es ∧
    t₁.rows (targetVaultId, newItemId) = some row ∧
    .served s₂ (.trashItem sourceVaultId itemId ifMatch) rep₂ t₂ ∈ es ∧
    Opens A codec P sourceVaultKey sourceVaultId itemId s₂ item ∧
    Carries A codec targetVaultKey newItemId row item.content item.title item.tags

end Move

section MoveRuns

variable {Content : Type} {A : Aead} {codec : ItemCodec Content} {P : Parsers} {v i : Uuid}
  {vaultKey : VaultKey}

/-- A new item leaves every other one as it is. -/
theorem keepsText_put {s : ItemStore} {k : Uuid × Uuid} (habsent : s.rows k = none)
    (row : ItemRecord) : KeepsText A codec P vaultKey v i s (s.put k row) := by
  intro item hopens
  obtain ⟨stored, hstored, hopen⟩ := hopens
  have hne : (v, i) ≠ k := by
    rintro rfl
    rw [habsent] at hstored
    cases hstored
  refine ⟨item, ⟨stored, ?_, hopen⟩, rfl, rfl, rfl⟩
  rw [s.put_rows_of_ne hne, hstored]

theorem KeepsText.trans {s t u : ItemStore} (h : KeepsText A codec P vaultKey v i s t)
    (h' : KeepsText A codec P vaultKey v i t u) : KeepsText A codec P vaultKey v i s u := by
  intro item hopens
  obtain ⟨item', hopens', htitle, htags, hcontent⟩ := h item hopens
  obtain ⟨item'', hopens'', htitle', htags', hcontent'⟩ := h' item' hopens'
  exact ⟨item'', hopens'', htitle'.trans htitle, htags'.trans htags, hcontent'.trans hcontent⟩

/-- If all steps of a stretch keep the text of an item, so does the stretch. -/
theorem keepsText_of_foreigns {s t : ItemStore} {es : List ItemEvent}
    (h : Foreigns VersionedStore.Evolves es s t)
    (hkeep : ∀ before after, .foreign before after ∈ es →
      KeepsText A codec P vaultKey v i before after) : KeepsText A codec P vaultKey v i s t := by
  refine h.invariant (I := fun x => KeepsText A codec P vaultKey v i s x) ?_ ?_
  · intro before after hmem _ hs
    exact hs.trans (hkeep before after hmem)
  · intro item hopens
    exact ⟨item, hopens, rfl, rfl, rfl⟩

end MoveRuns

/-- **A move loses no update that it does not race with.** In every run in which no step of others
    between the read of the source and its trash changes the title, the tags or the content that the
    source opens to, a move that succeeds has stored, under the id it returns, the content, title and
    tags that the source had when it was trashed. -/
theorem moveItem_intact {Content : Type} {A : Aead} {codec : ItemCodec Content} {P : Parsers}
    {newItemId n v i targetVault : Uuid} {draw : CreateDraw} {sourceKey targetKey : VaultKey}
    {version : ℤ} {s u : ItemStore} {es : List ItemEvent}
    (hexec : ItemExec P (moveItem A codec P newItemId draw v i sourceKey targetVault targetKey
      version) s es (.ok n) u)
    (hkeep : ∀ before after, DuringMove v i es before after →
      KeepsText A codec P sourceKey v i before after) :
    n = newItemId ∧ MovedIntact A codec P v i sourceKey targetVault n targetKey es := by
  unfold moveItem at hexec
  obtain ⟨esCopy, esTrash, n', copied, hes, hcopy, hrest⟩ := hexec.bind_ok
  unfold copyItem at hcopy
  obtain ⟨esGet, esCreate, item, read, hesCopy, hget, hcreate⟩ := hcopy.bind_ok
  obtain ⟨esTrash', esEnd, result, trashed, hesTrash, htrash, hend⟩ := hrest.bind_ok
  obtain ⟨pre₀, seen, rep₀, post₀, hesGet, -, hpost₀, hopens⟩ := getItem_served hget
  obtain ⟨hn', pre₁, before, body, rep₁, row, post₁, hesCreate, hpre₁, hpost₁, hbody, habsent,
    hholds, -⟩ := createItem_served hcreate
  obtain ⟨pre₂, last, rep₂, after, post₂, hesTrash', hpre₂, -⟩ := trashItem_served htrash
  have hn : n = n' := Except.ok.inj (Exec.done_inv hend).1
  subst hn hn' hes hesCopy hesTrash hesGet hesCreate hesTrash'
  -- Whatever falls between the read and the trash keeps the text, so the source still has it.
  have hduring : ∀ x y, (Event.foreign x y ∈ post₀ ∨ Event.foreign x y ∈ pre₁ ∨
      Event.foreign x y ∈ post₁ ∨ Event.foreign x y ∈ pre₂) →
      KeepsText A codec P sourceKey v i x y := by
    intro x y hxy
    apply hkeep
    refine ⟨pre₀, seen, rep₀, seen, post₀ ++ (pre₁ ++ .served before (.createItem targetVault body)
      rep₁ (before.put (targetVault, n) row) :: (post₁ ++ pre₂)), last, none, rep₂, after,
      post₂ ++ esEnd, by simp, ?_⟩
    simp only [List.mem_append, List.mem_cons]
    tauto
  have hkeeps : KeepsText A codec P sourceKey v i seen last := by
    have h₀ := keepsText_of_foreigns hpost₀ fun x y hxy => hduring x y (.inl hxy)
    have h₁ := keepsText_of_foreigns hpre₁ fun x y hxy => hduring x y (.inr (.inl hxy))
    have h₂ := keepsText_of_foreigns hpost₁ fun x y hxy => hduring x y (.inr (.inr (.inl hxy)))
    have h₃ := keepsText_of_foreigns hpre₂ fun x y hxy => hduring x y (.inr (.inr (.inr hxy)))
    exact (((h₀.trans h₁).trans (keepsText_put habsent row)).trans h₂).trans h₃
  obtain ⟨item', hopens', htitle, htags, hcontent⟩ := hkeeps item hopens
  refine ⟨rfl, before, body, rep₁, before.put (targetVault, n) row, row, last, none, rep₂, after,
    item', by simp, before.put_rows_self _ _, by simp, hopens', ?_⟩
  rw [htitle, htags, hcontent]
  exact ⟨draw, false, item.sensitive, version, body, hbody, hholds⟩

/-! ## A move that races with a rename -/

/-- The copy of the note, as note 6 in vault 5. -/
def copyRecord : ItemRecord :=
  exampleRecord ⟨.replicate 32 7⟩ (.replicate 16 5) (.replicate 16 6) "old" "2026-01-01T12:00:00Z"
    false false

theorem readReply_copyRecord :
    readReply .compact maxGatewayBody (directReply copyRecord.toJson) = .ok copyRecord.toJson := by
  apply readReply_directReply (ItemRecord.bare_toJson _)
  simp only [copyRecord, exampleRecord, ItemFields.record, exampleFields, ItemRecord.toJson,
    Json.uuid, Json.orNull, Json.int, Json.write, Json.writeMembers, writeString,
    Base64.utf8_encode]
  decide +kernel

/-- What the service says when it has trashed the note. -/
def trashedJson : Json :=
  .obj [("state", .str "trashed"), ("updated_at", .str "2026-01-03T00:00:00Z")]

theorem bare_trashedJson : Bare trashedJson := by
  simp [Bare, trashedJson, Json.get?]

theorem readReply_trashedJson :
    readReply .compact maxGatewayBody (directReply trashedJson) = .ok trashedJson :=
  readReply_directReply bare_trashedJson (by decide +kernel)

def moveNote (P : Parsers) : ItemClient Uuid :=
  moveItem .transparent noteCodec P (.replicate 16 6)
    ⟨exampleDraw, ⟨.replicate 32 4⟩, .replicate 24 0⟩ (.replicate 16 1) (.replicate 16 2)
    ⟨.replicate 32 3⟩ (.replicate 16 5) ⟨.replicate 32 7⟩ 1

/-- The store with the note and its copy. -/
def copiedStore : ItemStore := noteStore.put (.replicate 16 5, .replicate 16 6) copyRecord

/-- The row of a note that the service has trashed. -/
def trashedRecord (row : ItemRecord) : ItemRecord :=
  row.moved (some "2026-01-03T00:00:00Z") ⟨"2026-01-03T00:00:00Z"⟩

/-- The requests of the move, with the steps of others before the trash. -/
def moveEvents (foreigns : List ItemEvent) (s : ItemStore)
    (row : ItemRecord) : List ItemEvent :=
  .served noteStore (.getItem (.replicate 16 1) (.replicate 16 2)) (directReply oldSource.toJson)
      noteStore ::
    .served noteStore (.createItem (.replicate 16 5)
      ⟨exampleFields ⟨.replicate 32 7⟩ (.replicate 16 6) "old" false false, .replicate 16 6⟩)
      (directReply copyRecord.toJson) copiedStore ::
    (foreigns ++ [.served s (.trashItem (.replicate 16 1) (.replicate 16 2) none)
      (directReply trashedJson) (s.put (.replicate 16 1, .replicate 16 2)
        (trashedRecord row))])

/-- What the note opens to. -/
def openedSource (title revision : String) : DecryptedItem String where
  itemId := .replicate 16 2
  title := title
  tags := []
  sensitive := false
  content := "body"
  metadataJson := metadataText .secureNote true false true
  updatedAt := ⟨revision⟩
  trashedAt := none

theorem decrypt_sourceRecord (title revision : String) :
    decryptItemRecord .transparent noteCodec .compact ⟨.replicate 32 3⟩ (.replicate 16 1)
      (.replicate 16 2) (sourceRecord title revision) = .ok (openedSource title revision) := by
  refine decryptItemRecord_sealed Aead.transparent_ideal (sealFields_exampleFields _ _ _ _ _)
    exampleRecord_holds exampleRecord_itemId exampleRecord_vaultId rfl ?_ (.inl rfl)
  intro json hjson
  cases hjson
  exact fromUtf8?_utf8 "body"

theorem handles_copyNote :
    ItemHandles .compact noteStore (.createItem (.replicate 16 5)
      ⟨exampleFields ⟨.replicate 32 7⟩ (.replicate 16 6) "old" false false, .replicate 16 6⟩)
      (directReply copyRecord.toJson) copiedStore := by
  refine .createItem ?_ exampleRecord_vaultId exampleRecord_itemId exampleRecord_holds ?_
    (answers_exampleRecord rfl)
  · rw [noteStore, VersionedStore.put_rows_of_ne _ (by decide)]
    rfl
  · rw [noteStore, VersionedStore.put_history_of_ne _ (by decide)]
    exact List.not_mem_nil

theorem exec_copyNote :
    ItemExec .compact (copyItem .transparent noteCodec .compact (.replicate 16 6)
      ⟨exampleDraw, ⟨.replicate 32 4⟩, .replicate 24 0⟩ (.replicate 16 1) (.replicate 16 2)
      ⟨.replicate 32 3⟩ (.replicate 16 5) ⟨.replicate 32 7⟩ 1) noteStore
      [.served noteStore (.getItem (.replicate 16 1) (.replicate 16 2))
        (directReply oldSource.toJson) noteStore,
        .served noteStore (.createItem (.replicate 16 5)
          ⟨exampleFields ⟨.replicate 32 7⟩ (.replicate 16 6) "old" false false, .replicate 16 6⟩)
          (directReply copyRecord.toJson) copiedStore] (.ok (.replicate 16 6)) copiedStore := by
  have hold : ItemRecord.ofJson .compact oldSource.toJson = some oldSource :=
    ofJson_exampleRecord rfl
  have hread : ItemExec .compact (getItem .transparent noteCodec .compact (.replicate 16 1)
      (.replicate 16 2) ⟨.replicate 32 3⟩) noteStore
      [.served noteStore (.getItem (.replicate 16 1) (.replicate 16 2))
        (directReply oldSource.toJson) noteStore]
      (.ok (openedSource "old" "2026-01-01T00:00:00Z")) noteStore :=
    Exec.ask_bind (handles_readSource noteStore_rows) readReply_oldSource
      (Exec.ofExcept_bind (parseRecord_eq_ok.mpr hold) (Exec.ofExcept (decrypt_sourceRecord _ _)))
  refine Exec.bind hread ?_
  refine Exec.ofExcept_bind (a := ⟨exampleFields ⟨.replicate 32 7⟩ (.replicate 16 6) "old" false
    false, .replicate 16 6⟩) rfl ?_
  exact Exec.ask_bind handles_copyNote readReply_copyRecord .done

/-- The trash that carries no revision goes through on whatever row is there. -/
theorem exec_trashNote {s : ItemStore} {row : ItemRecord}
    (hrow : s.rows (.replicate 16 1, .replicate 16 2) = some row) (hactive : row.trashedAt = none)
    (hfresh : ⟨"2026-01-03T00:00:00Z"⟩ ∉ s.history (.replicate 16 1, .replicate 16 2)) :
    ItemExec .compact (trashItem .compact (.replicate 16 1) (.replicate 16 2) none) s
      [.served s (.trashItem (.replicate 16 1) (.replicate 16 2) none) (directReply trashedJson)
        (s.put (.replicate 16 1, .replicate 16 2) (trashedRecord row))]
      (.ok ⟨.trashed, ⟨"2026-01-03T00:00:00Z"⟩⟩)
      (s.put (.replicate 16 1, .replicate 16 2) (trashedRecord row)) := by
  have hhandles : ItemHandles .compact s (.trashItem (.replicate 16 1) (.replicate 16 2) none)
      (directReply trashedJson)
      (s.put (.replicate 16 1, .replicate 16 2) (trashedRecord row)) :=
    .trashItem hrow hactive (by simp) hfresh
      (.inr ⟨_, delivers_directReply bare_trashedJson, rfl⟩)
  have htrashed : TrashResult.ofJson .compact trashedJson
      = some ⟨.trashed, ⟨"2026-01-03T00:00:00Z"⟩⟩ := rfl
  refine Exec.ask_bind hhandles (Except.mapError_eq_ok.mpr readReply_trashedJson) ?_
  rw [htrashed]
  exact .done

/-- The note is moved whatever others do before the trash, as long as it stays active. -/
theorem exec_moveNote {foreigns : List ItemEvent} {s : ItemStore}
    {row : ItemRecord} (hforeigns : Foreigns VersionedStore.Evolves foreigns copiedStore s)
    (hrow : s.rows (.replicate 16 1, .replicate 16 2) = some row) (hactive : row.trashedAt = none)
    (hfresh : ⟨"2026-01-03T00:00:00Z"⟩ ∉ s.history (.replicate 16 1, .replicate 16 2)) :
    ItemExec .compact (moveNote .compact) noteStore (moveEvents foreigns s row)
      (.ok (.replicate 16 6)) (s.put (.replicate 16 1, .replicate 16 2)
        (trashedRecord row)) := by
  unfold moveNote moveItem moveEvents
  refine Exec.bind exec_copyNote (Exec.foreigns hforeigns ?_)
  exact Exec.bind (exec_trashNote hrow hactive hfresh) .done

theorem copiedStore_rows :
    copiedStore.rows (.replicate 16 1, .replicate 16 2) = some oldSource := by
  rw [copiedStore, VersionedStore.put_rows_of_ne _ (by decide), noteStore_rows]

theorem copiedStore_history :
    copiedStore.history (.replicate 16 1, .replicate 16 2) = [oldSource.updatedAt] := by
  rw [copiedStore, VersionedStore.put_history_of_ne _ (by decide), noteStore,
    VersionedStore.put_history_self]
  rfl

/-- The note is moved while nobody else touches it. -/
theorem moveItem_intact_alone :
    ItemExec .compact (moveNote .compact) noteStore (moveEvents [] copiedStore oldSource)
      (.ok (.replicate 16 6))
      (copiedStore.put (.replicate 16 1, .replicate 16 2) (trashedRecord oldSource)) ∧
    MovedIntact .transparent noteCodec .compact (.replicate 16 1) (.replicate 16 2)
      ⟨.replicate 32 3⟩ (.replicate 16 5) (.replicate 16 6) ⟨.replicate 32 7⟩
      (moveEvents [] copiedStore oldSource) := by
  have hexec := exec_moveNote .nil copiedStore_rows rfl (by rw [copiedStore_history]; decide)
  refine ⟨hexec, (moveItem_intact hexec ?_).2⟩
  rintro before after ⟨pre, s₀, rep₀, t₀, mid, s₁, ifMatch, rep₁, t₁, post, hes, hmem⟩
  have hall : Event.foreign before after ∈ moveEvents [] copiedStore oldSource := by
    rw [hes]
    simp [hmem]
  simp [moveEvents] at hall

/-- **A move may lose an update.** While the note is copied, another client renames it: its update is
    conditional on the revision it has read, and it is acknowledged. The move succeeds all the same.
    The copy has the old title, and the new one is only in the trash. -/
theorem moveItem_loses_update :
    ∃ (s renamed u : ItemStore) (es : List ItemEvent),
      ItemExec .compact (moveNote .compact) noteStore es (.ok (.replicate 16 6)) u ∧
      .foreign s renamed ∈ es ∧
      ItemExec .compact (renameNote .compact) s (renameEvents s) (.ok newSource.updatedAt)
        renamed ∧
      ¬ MovedIntact .transparent noteCodec .compact (.replicate 16 1) (.replicate 16 2)
        ⟨.replicate 32 3⟩ (.replicate 16 5) (.replicate 16 6) ⟨.replicate 32 7⟩ es := by
  let renamed := copiedStore.put (.replicate 16 1, .replicate 16 2) newSource
  have hfresh : newSource.updatedAt ∉ copiedStore.history (.replicate 16 1, .replicate 16 2) := by
    rw [copiedStore_history]
    decide
  have hrow : renamed.rows (.replicate 16 1, .replicate 16 2) = some newSource :=
    copiedStore.put_rows_self _ _
  have hfresh' : ⟨"2026-01-03T00:00:00Z"⟩
      ∉ renamed.history (.replicate 16 1, .replicate 16 2) := by
    rw [VersionedStore.put_history_self, copiedStore_history]
    decide
  have hstep : Foreigns VersionedStore.Evolves [(.foreign copiedStore renamed : ItemEvent)]
      copiedStore renamed :=
    .cons (handles_renameSource copiedStore_rows hfresh).evolves .nil
  refine ⟨copiedStore, renamed, _, _, exec_moveNote hstep hrow rfl hfresh', by simp [moveEvents],
    exec_renameNote copiedStore_rows hfresh, ?_⟩
  rintro ⟨s₁, body, rep₁, t₁, row, s₂, ifMatch, rep₂, t₂, item, hcreated, hcopy, htrashed,
    ⟨source, hsource, hopen⟩, hcarries⟩
  simp only [moveEvents, List.mem_cons, List.mem_append, List.not_mem_nil, or_false, reduceCtorEq,
    and_false, false_and, false_or, Event.served.injEq] at hcreated htrashed
  -- The trash found the new title, the create had stored the old one.
  obtain ⟨-, -, -, rfl⟩ := hcreated
  obtain ⟨rfl, -, -, -⟩ := htrashed
  rw [hrow] at hsource
  cases hsource
  rw [newSource, decrypt_sourceRecord] at hopen
  cases hopen
  rw [copiedStore, VersionedStore.put_rows_self] at hcopy
  cases hcopy
  obtain ⟨draw, favorite, sensitive, version, body', hbody, hholds⟩ := hcarries
  simp only [buildCreateRequest, Except.bind_eq_ok, Except.pure_eq_ok, sealFields_eq_ok] at hbody
  obtain ⟨fields, ⟨contentCt, -, rfl⟩, rfl⟩ := hbody
  have htitle := Base64.encode_inj.mp (exampleRecord_holds.title.symm.trans hholds.title)
  have hold : decryptTitle .transparent ⟨.replicate 32 7⟩ (FixedBytes.replicate 16 6).toBytes
      (encryptTitle .transparent ⟨.replicate 32 7⟩ (FixedBytes.replicate 16 6).toBytes
        (.replicate 24 0) "old") = .ok "old" :=
    decryptText_encryptText Aead.transparent_ideal.correct
  rw [htitle] at hold
  have hnew := hold.symm.trans (decryptText_encryptText Aead.transparent_ideal.correct)
  exact absurd (Except.ok.inj hnew) (by decide)

end SerenSecrets
