import SerenSecrets.Protocol.AadSlots
import SerenSecrets.Resolver.Error

set_option autoImplicit false

/-! # Opening a resolved item against a replaying server

The reply to a resolve request holds three blobs: the vault key sealed to the caller, the content key
wrapped under the vault key, and the item body. `decryptResolvePayload` opens them one inside the
other, with the item id it asked for.

Sealed boxes carry no associated data, so a content key that was handed to the caller passes for a
vault key. It opens nothing: content keys are wrapped under vault keys only, and no key has two
roles. So whatever honest blobs the server combines, an accepted reply is a content that was sealed
for the requested item (`resolve_resists_substitution`). -/

namespace SerenSecrets

/-! ## The client -/

structure ResolveResponseBody where
  vaultId : Uuid
  itemId : Uuid
  fieldName : String
  contentCiphertext : String
  contentKeyWrap : String
  wrappedVaultKey : String

section Client

variable {Content : Type} (A : Aead) (B : SealedBox) (codec : ContentCodec Content)

def decryptResolvePayload (payload : ResolveResponseBody) (expectedVaultId expectedItemId : Uuid)
    (requestedField : String) (kemPrivate : IdentityKemPrivateKey) : ResolverResult Content := do
  rejectIf (payload.vaultId ≠ expectedVaultId ∨ payload.itemId ≠ expectedItemId)
    (.malformed "response vault_id/item_id mismatch")
  rejectIf (payload.fieldName ≠ requestedField) (.malformed "response field_name mismatch")
  let wrappedVaultKey ← b64Decode payload.wrappedVaultKey "wrapped_vault_key base64"
  let contentKeyWrap ← b64Decode payload.contentKeyWrap "content_key_wrap base64"
  let contentCiphertext ← b64Decode payload.contentCiphertext "content_ciphertext base64"
  let vaultKey ← fromCrypto (unwrapVaultKey B kemPrivate wrappedVaultKey)
  let contentKey ← fromCrypto
    (unwrapItemContentKey A vaultKey expectedItemId.toBytes contentKeyWrap)
  fromCrypto
    (decryptItemWithContentKey A codec contentKey expectedItemId.toBytes contentCiphertext)

/-- Seal a content key to an identity, as an item is handed off. -/
def itemContentKeyWrapForIdentity (contentKey : ItemContentKey) (recipient : IdentityKemPublicKey)
    (ephemeral : FixedBytes 32) : Bytes :=
  kemSeal B recipient ephemeral contentKey.asBytes.toBytes

end Client

section Opening

variable {Content : Type} {A : Aead} {B : SealedBox} {codec : ContentCodec Content}

/-- An accepted reply names what was asked for, and its three blobs open one inside the other. -/
theorem decryptResolvePayload_eq_ok {payload : ResolveResponseBody} {vaultId itemId : Uuid}
    {field : String} {sk : IdentityKemPrivateKey} {content : Content} :
    decryptResolvePayload A B codec payload vaultId itemId field sk = .ok content ↔
      (payload.vaultId = vaultId ∧ payload.itemId = itemId ∧ payload.fieldName = field) ∧
      ∃ wrapped wrap ciphertext, Base64.decode payload.wrappedVaultKey = some wrapped ∧
        Base64.decode payload.contentKeyWrap = some wrap ∧
        Base64.decode payload.contentCiphertext = some ciphertext ∧
        ∃ vaultKey contentKey, unwrapVaultKey B sk wrapped = .ok vaultKey ∧
          unwrapItemContentKey A vaultKey itemId.toBytes wrap = .ok contentKey ∧
          decryptItemWithContentKey A codec contentKey itemId.toBytes ciphertext = .ok content := by
  unfold decryptResolvePayload
  simp only [Except.bind_unit_eq_ok, rejectIf_eq_ok, not_or, ne_eq, not_not]
  simp only [Except.bind_eq_ok, b64Decode_eq_ok, fromCrypto_eq_ok]
  constructor
  · rintro ⟨⟨hv, hi⟩, hf, wrapped, h1, wrap, h2, ciphertext, h3, vk, h4, ck, h5, h6⟩
    exact ⟨⟨hv, hi, hf⟩, wrapped, wrap, ciphertext, h1, h2, h3, vk, ck, h4, h5, h6⟩
  · rintro ⟨⟨hv, hi, hf⟩, wrapped, wrap, ciphertext, h1, h2, h3, vk, ck, h4, h5, h6⟩
    exact ⟨⟨hv, hi⟩, hf, wrapped, h1, wrap, h2, ciphertext, h3, vk, h4, ck, h5, h6⟩

end Opening

/-! ## Honest clients -/

/-- The role of the key a slot is sealed under. -/
def AadSlot.keyRole : AadSlot → KeyRole
  | item .body _ => .itemContent
  | item _ _ => .vault
  | attachment .blob _ _ => .attachment
  | attachment .digest _ _ => .attachment
  | attachment _ _ _ => .vault
  | vault _ _ => .vault
  | vaultEmail _ _ _ => .vault
  | account .accountKey => .master
  | account .recoveryKey => .recoveryDerived
  | account _ => .account

/-- A sealing operation with its random draws. -/
inductive Sealing (Content : Type) where
  | vaultKeyFor (recipient : IdentityKemPublicKey) (vaultKey : VaultKey)
      (ephemeral : FixedBytes 32)
  | contentKeyFor (recipient : IdentityKemPublicKey) (contentKey : ItemContentKey)
      (ephemeral : FixedBytes 32)
  | slot (s : AadSlot) (key : FixedBytes 32) (nonce : FixedBytes 24) (plain : s.Plain Content)

namespace Sealing

variable {Content : Type}

/-- The blob an operation makes. -/
def run (A : Aead) (B : SealedBox) (codec : ContentCodec Content) :
    Sealing Content → CryptoResult Bytes
  | vaultKeyFor recipient vaultKey ephemeral =>
      .ok (wrapVaultKeyForIdentity B vaultKey recipient ephemeral)
  | contentKeyFor recipient contentKey ephemeral =>
      .ok (itemContentKeyWrapForIdentity B contentKey recipient ephemeral)
  | slot s key nonce plain => sealSlot A codec s key nonce plain

/-- The key an operation is about, with the role it is used in. -/
def key : Sealing Content → KeyRole × FixedBytes 32
  | vaultKeyFor _ vaultKey _ => (.vault, vaultKey.asBytes)
  | contentKeyFor _ contentKey _ => (.itemContent, contentKey.asBytes)
  | slot s key _ _ => (s.keyRole, key)

end Sealing

/-- The keys honest clients have generated and what they have sealed. -/
structure HonestState (Content : Type) where
  keys : List (KeyRole × FixedBytes 32)
  sealed : List (Sealing Content × Bytes)

def HonestState.pool {Content : Type} (st : HonestState Content) : List Bytes :=
  st.sealed.map Prod.snd

/-- A step of some honest client: generate a key for one role, or seal under a key of the right
    role. -/
inductive HonestStep {Content : Type} (A : Aead) (B : SealedBox) (codec : ContentCodec Content) :
    HonestState Content → HonestState Content → Prop
  | generate {st : HonestState Content} {role : KeyRole} {key : FixedBytes 32}
      (hfresh : ∀ r, (r, key) ∉ st.keys) :
      HonestStep A B codec st { st with keys := (role, key) :: st.keys }
  | sealing {st : HonestState Content} {op : Sealing Content} {blob : Bytes} (hkey : op.key ∈ st.keys)
      (hblob : op.run A B codec = .ok blob) :
      HonestStep A B codec st { st with sealed := (op, blob) :: st.sealed }

/-- The states honest clients can reach. -/
def Honest {Content : Type} (A : Aead) (B : SealedBox) (codec : ContentCodec Content) :
    HonestState Content → Prop :=
  Relation.ReflTransGen (HonestStep A B codec) ⟨[], []⟩

/-- The invariant of honest runs: a key has one role, and every blob comes from an operation under
    a key of its role. -/
structure HonestInv {Content : Type} (A : Aead) (B : SealedBox) (codec : ContentCodec Content)
    (st : HonestState Content) : Prop where
  role_unique : ∀ {r r' key}, (r, key) ∈ st.keys → (r', key) ∈ st.keys → r = r'
  made : ∀ {op blob}, (op, blob) ∈ st.sealed → op.key ∈ st.keys ∧ op.run A B codec = .ok blob

section Runs

variable {Content : Type} {A : Aead} {B : SealedBox} {codec : ContentCodec Content}
  {st st' : HonestState Content}

theorem HonestInv.step (hinv : HonestInv A B codec st) (hstep : HonestStep A B codec st st') :
    HonestInv A B codec st' := by
  cases hstep with
  | generate hfresh =>
      refine ⟨?_, ?_⟩
      · intro r r' k h h'
        -- The new key against itself, against an old one, and two old ones.
        rcases List.mem_cons.mp h with h | h <;> rcases List.mem_cons.mp h' with h' | h'
        · rw [(Prod.mk.inj h).1, (Prod.mk.inj h').1]
        · rw [(Prod.mk.inj h).2] at h'
          exact absurd h' (hfresh r')
        · rw [(Prod.mk.inj h').2] at h
          exact absurd h (hfresh r)
        · exact hinv.role_unique h h'
      · intro op blob h
        obtain ⟨hkey, hblob⟩ := hinv.made h
        exact ⟨List.mem_cons_of_mem _ hkey, hblob⟩
  | sealing hkey hblob =>
      refine ⟨hinv.role_unique, ?_⟩
      intro op' blob' h
      rcases List.mem_cons.mp h with h | h
      · rw [(Prod.mk.inj h).1, (Prod.mk.inj h).2]
        exact ⟨hkey, hblob⟩
      · exact hinv.made h

theorem HonestInv.of_honest (h : Honest A B codec st) : HonestInv A B codec st := by
  induction h with
  | refl => exact ⟨by simp, by simp⟩
  | tail _ hstep ih => exact ih.step hstep

/-! ## What a blob of the pool can be -/

/-- Only a key sealed to the identity passes for a vault key: a vault key, or a content key. -/
theorem Sealing.of_unwrapVaultKey (hB : B.Ideal) {op : Sealing Content} {blob : Bytes}
    {sk : IdentityKemPrivateKey} {vaultKey : VaultKey} (hblob : op.run A B codec = .ok blob)
    (h : unwrapVaultKey B sk blob = .ok vaultKey) :
    (∃ ephemeral, op = .vaultKeyFor ⟨B.publicOf sk.asBytes⟩ vaultKey ephemeral) ∨
      ∃ ephemeral, op = .contentKeyFor ⟨B.publicOf sk.asBytes⟩ ⟨vaultKey.asBytes⟩ ephemeral := by
  rw [unwrapVaultKey_eq_ok] at h
  cases op with
  | vaultKeyFor recipient key ephemeral =>
      rw [← Except.ok.inj hblob] at h
      obtain ⟨hrecipient, hkey⟩ := kemUnseal_kemSeal_ok hB h
      exact .inl ⟨ephemeral, by rw [hrecipient, SymmetricKey.eq_of_toBytes hkey]⟩
  | contentKeyFor recipient key ephemeral =>
      rw [← Except.ok.inj hblob] at h
      obtain ⟨hrecipient, hkey⟩ := kemUnseal_kemSeal_ok hB h
      have hkey : (⟨vaultKey.asBytes⟩ : ItemContentKey) = key := SymmetricKey.eq_of_toBytes hkey
      exact .inr ⟨ephemeral, by rw [hrecipient, hkey]⟩
  | slot s key nonce plain =>
      obtain ⟨pt, rfl⟩ := sealSlot_ok hblob
      rw [kemUnseal_encrypt] at h
      exact absurd h (by simp)

/-- Only what was sealed for the slot and under the key opens there. -/
theorem Sealing.of_opens (hA : A.Ideal) {op : Sealing Content} {blob : Bytes} {s : AadSlot}
    {key : FixedBytes 32} {pt : Bytes} (hblob : op.run A B codec = .ok blob)
    (h : xchacha20DecryptWithAad A key blob s.aad = .ok pt) :
    ∃ nonce plain, op = .slot s key nonce plain ∧
      sealSlot A codec s key nonce plain = .ok (xchacha20EncryptWithAad A key nonce pt s.aad) := by
  cases op with
  | vaultKeyFor recipient vaultKey ephemeral =>
      rw [← Except.ok.inj hblob] at h
      exact absurd h (by rw [wrapVaultKeyForIdentity, xchacha20Decrypt_kemSeal]; simp)
  | contentKeyFor recipient contentKey ephemeral =>
      rw [← Except.ok.inj hblob] at h
      exact absurd h (by rw [itemContentKeyWrapForIdentity, xchacha20Decrypt_kemSeal]; simp)
  | slot s' key' nonce plain =>
      have hseal : sealSlot A codec s' key' nonce plain = .ok blob := hblob
      obtain ⟨pt', rfl⟩ := sealSlot_ok hseal
      obtain ⟨rfl, haad, rfl⟩ := xchacha20Decrypt_encrypt_ok hA h
      obtain rfl := AadSlot.aad_injective haad
      exact ⟨nonce, plain, rfl, hseal⟩

theorem Sealing.of_unwrapItemContentKey (hA : A.Ideal) {op : Sealing Content} {blob : Bytes}
    {vaultKey : VaultKey} {itemId : Uuid} {contentKey : ItemContentKey}
    (hblob : op.run A B codec = .ok blob)
    (h : unwrapItemContentKey A vaultKey itemId.toBytes blob = .ok contentKey) :
    ∃ nonce, op = .slot (.item .contentKey itemId) vaultKey.asBytes nonce contentKey := by
  rw [unwrapItemContentKey_eq_ok] at h
  obtain ⟨nonce, plain, rfl, hseal⟩ :=
    Sealing.of_opens (s := .item .contentKey itemId) hA hblob h
  obtain ⟨-, -, hkey, -⟩ := xchacha20Encrypt_inj hA (Except.ok.inj hseal)
  exact ⟨nonce, congrArg _ (SymmetricKey.eq_of_toBytes hkey)⟩

theorem Sealing.of_decryptItemWithContentKey (hA : A.Ideal) {op : Sealing Content} {blob : Bytes}
    {contentKey : ItemContentKey} {itemId : Uuid} {content : Content}
    (hblob : op.run A B codec = .ok blob)
    (h : decryptItemWithContentKey A codec contentKey itemId.toBytes blob = .ok content) :
    ∃ nonce original json, op = .slot (.item .body itemId) contentKey.asBytes nonce original ∧
      codec.toVec original = some json ∧ codec.fromSlice json = some content := by
  obtain ⟨json, hopen, hread⟩ := decryptItemWithContentKey_eq_ok.mp h
  obtain ⟨nonce, plain, rfl, hseal⟩ := Sealing.of_opens (s := .item .body itemId) hA hblob hopen
  refine ⟨nonce, plain, json, rfl, ?_, hread⟩
  simp only [sealSlot, encryptItemWithContentKey] at hseal
  split at hseal
  · rename_i json' hjson
    obtain ⟨-, -, rfl, -⟩ := xchacha20Encrypt_inj hA (Except.ok.inj hseal)
    exact hjson
  · exact absurd hseal (by simp)

/-- In an honest run a key that opens a content-key wrap is a vault key, so what was unsealed for
    it is no content key that was handed off. -/
theorem HonestInv.vault_key_sealed (hA : A.Ideal) (hB : B.Ideal) (hinv : HonestInv A B codec st)
    {wrapped wrap : Bytes} (hwrapped : wrapped ∈ st.pool) (hwrap : wrap ∈ st.pool)
    {sk : IdentityKemPrivateKey} {vaultKey : VaultKey} {itemId : Uuid} {contentKey : ItemContentKey}
    (hvault : unwrapVaultKey B sk wrapped = .ok vaultKey)
    (hcontent : unwrapItemContentKey A vaultKey itemId.toBytes wrap = .ok contentKey) :
    (∃ ephemeral, (.vaultKeyFor ⟨B.publicOf sk.asBytes⟩ vaultKey ephemeral, wrapped) ∈ st.sealed) ∧
      ∃ nonce, (.slot (.item .contentKey itemId) vaultKey.asBytes nonce contentKey, wrap)
        ∈ st.sealed := by
  obtain ⟨⟨op, b⟩, hop, rfl⟩ := List.mem_map.mp hwrapped
  obtain ⟨⟨op', b'⟩, hop', rfl⟩ := List.mem_map.mp hwrap
  obtain ⟨hkey, hmade⟩ := hinv.made hop
  obtain ⟨hkey', hmade'⟩ := hinv.made hop'
  obtain ⟨nonce, rfl⟩ := Sealing.of_unwrapItemContentKey hA hmade' hcontent
  refine ⟨?_, nonce, hop'⟩
  rcases Sealing.of_unwrapVaultKey hB hmade hvault with ⟨ephemeral, rfl⟩ | ⟨ephemeral, rfl⟩
  · exact ⟨ephemeral, hop⟩
  · -- The handed-off content key would have to be a vault key as well.
    have hrole : KeyRole.itemContent = KeyRole.vault := hinv.role_unique hkey hkey'
    exact absurd hrole (by decide)

/-- The three blobs of a reply are honest ones, whoever they were meant for. -/
structure ResolveResponseBody.FromPool (payload : ResolveResponseBody) (pool : List Bytes) :
    Prop where
  wrapped : ∀ blob, Base64.decode payload.wrappedVaultKey = some blob → blob ∈ pool
  wrap : ∀ blob, Base64.decode payload.contentKeyWrap = some blob → blob ∈ pool
  ciphertext : ∀ blob, Base64.decode payload.contentCiphertext = some blob → blob ∈ pool

/-- The content of an accepted reply was sealed for the item, under a content key that was wrapped
    for the item, under a vault key that was sealed to the caller. -/
theorem HonestInv.payload_sealed (hA : A.Ideal) (hB : B.Ideal) (hinv : HonestInv A B codec st)
    {payload : ResolveResponseBody} (hpool : payload.FromPool st.pool) {vaultId itemId : Uuid}
    {field : String} {sk : IdentityKemPrivateKey} {content : Content}
    (hok : decryptResolvePayload A B codec payload vaultId itemId field sk = .ok content) :
    ∃ vaultKey contentKey original json,
      (∃ ephemeral, .vaultKeyFor ⟨B.publicOf sk.asBytes⟩ vaultKey ephemeral
        ∈ st.sealed.map Prod.fst) ∧
      (∃ nonce, .slot (.item .contentKey itemId) vaultKey.asBytes nonce contentKey
        ∈ st.sealed.map Prod.fst) ∧
      (∃ nonce, .slot (.item .body itemId) contentKey.asBytes nonce original
        ∈ st.sealed.map Prod.fst) ∧
      codec.toVec original = some json ∧ codec.fromSlice json = some content := by
  obtain ⟨-, wrapped, wrap, ciphertext, h1, h2, h3, vaultKey, contentKey, hvault, hcontent,
    hbody⟩ := decryptResolvePayload_eq_ok.mp hok
  -- A content key handed off in a box would open too; it opens no content-key wrap.
  obtain ⟨⟨ephemeral, hsealed⟩, nonce, hwraps⟩ :=
    hinv.vault_key_sealed hA hB (hpool.wrapped _ h1) (hpool.wrap _ h2) hvault hcontent
  obtain ⟨⟨op, b⟩, hop, rfl⟩ := List.mem_map.mp (hpool.ciphertext _ h3)
  obtain ⟨nonce', original, json, rfl, hjson, hread⟩ :=
    Sealing.of_decryptItemWithContentKey hA (hinv.made hop).2 hbody
  refine ⟨vaultKey, contentKey, original, json, ⟨ephemeral, ?_⟩, ⟨nonce, ?_⟩, ⟨nonce', ?_⟩, hjson,
    hread⟩
  · exact List.mem_map_of_mem hsealed
  · exact List.mem_map_of_mem hwraps
  · exact List.mem_map_of_mem hop

end Runs

/-- **Resolve resists substitution.** Whatever honest clients have sealed and whatever of it the
    server puts into the three blobs of its reply, an accepted reply names the requested vault, item
    and field, and its content is what the codec reads from a content sealed for that item under a
    content key that was wrapped for that item under a vault key sealed to the caller. If the codec
    reads that content back, it is that content. -/
theorem resolve_resists_substitution {Content : Type} {A : Aead} (hA : A.Ideal) {B : SealedBox}
    (hB : B.Ideal) {codec : ContentCodec Content} {st : HonestState Content}
    (hrun : Honest A B codec st) {payload : ResolveResponseBody}
    (hwrapped : ∀ blob, Base64.decode payload.wrappedVaultKey = some blob → blob ∈ st.pool)
    (hwrap : ∀ blob, Base64.decode payload.contentKeyWrap = some blob → blob ∈ st.pool)
    (hciphertext : ∀ blob, Base64.decode payload.contentCiphertext = some blob → blob ∈ st.pool)
    {vaultId itemId : Uuid} {field : String} {sk : IdentityKemPrivateKey} {content : Content}
    (hok : decryptResolvePayload A B codec payload vaultId itemId field sk = .ok content) :
    (payload.vaultId = vaultId ∧ payload.itemId = itemId ∧ payload.fieldName = field) ∧
      ∃ vaultKey contentKey original json,
        (∃ ephemeral, .vaultKeyFor ⟨B.publicOf sk.asBytes⟩ vaultKey ephemeral
          ∈ st.sealed.map Prod.fst) ∧
        (∃ nonce, .slot (.item .contentKey itemId) vaultKey.asBytes nonce contentKey
          ∈ st.sealed.map Prod.fst) ∧
        (∃ nonce, .slot (.item .body itemId) contentKey.asBytes nonce original
          ∈ st.sealed.map Prod.fst) ∧
        codec.toVec original = some json ∧ codec.fromSlice json = some content ∧
        (codec.fromSlice json = some original → content = original) := by
  obtain ⟨hnames, -⟩ := decryptResolvePayload_eq_ok.mp hok
  obtain ⟨vaultKey, contentKey, original, json, hvault, hcontent, hbody, hjson, hread⟩ :=
    (HonestInv.of_honest hrun).payload_sealed hA hB ⟨hwrapped, hwrap, hciphertext⟩ hok
  refine ⟨hnames, vaultKey, contentKey, original, json, hvault, hcontent, hbody, hjson, hread, ?_⟩
  intro hback
  exact Option.some.inj (hread.symm.trans hback)

/-- The keys and sealings of one item whose content key was also handed off to the caller. -/
def exampleHonestState : HonestState String where
  keys := [(.itemContent, .replicate 32 2), (.vault, .replicate 32 1)]
  sealed :=
    [(.slot (.item .body (.replicate 16 7)) (.replicate 32 2) (.replicate 24 0) "secret",
      xchacha20EncryptWithAad .transparent (.replicate 32 2) (.replicate 24 0) (utf8 "secret")
        (bodyAad (List.replicate 16 7))),
    (.slot (.item .contentKey (.replicate 16 7)) (.replicate 32 1) (.replicate 24 0)
        (⟨.replicate 32 2⟩ : ItemContentKey),
      wrapItemContentKey .transparent ⟨.replicate 32 1⟩ (List.replicate 16 7) (.replicate 24 0)
        ⟨.replicate 32 2⟩),
    (.contentKeyFor ⟨.replicate 32 9⟩ ⟨.replicate 32 2⟩ (.replicate 32 4),
      itemContentKeyWrapForIdentity .transparent ⟨.replicate 32 2⟩ ⟨.replicate 32 9⟩
        (.replicate 32 4)),
    (.vaultKeyFor ⟨.replicate 32 9⟩ ⟨.replicate 32 1⟩ (.replicate 32 3),
      wrapVaultKeyForIdentity .transparent ⟨.replicate 32 1⟩ ⟨.replicate 32 9⟩
        (.replicate 32 3))]

theorem exampleHonestState_honest :
    Honest .transparent .transparent textCodec exampleHonestState := by
  have hkeys : Honest .transparent .transparent textCodec
      ⟨[(.itemContent, .replicate 32 2), (.vault, .replicate 32 1)], []⟩ :=
    (Relation.ReflTransGen.single (.generate (by simp))).tail
      (.generate (by intro r; cases r <;> decide))
  exact (((hkeys.tail (.sealing (by decide) rfl)).tail (.sealing (by decide) rfl)).tail
    (.sealing (by decide) rfl)).tail (.sealing (by decide) rfl)

/-- A reply made of three of these blobs is accepted, and the theorem finds where it comes from. -/
theorem resolve_resists_substitution_secret :
    ∃ payload : ResolveResponseBody,
      decryptResolvePayload .transparent .transparent textCodec payload (.replicate 16 5)
        (.replicate 16 7) "password" ⟨.replicate 32 9⟩ = .ok "secret" ∧
      ∃ vaultKey contentKey,
        (∃ ephemeral, (.vaultKeyFor ⟨.replicate 32 9⟩ vaultKey ephemeral :
          Sealing String) ∈ exampleHonestState.sealed.map Prod.fst) ∧
        (∃ nonce, .slot (.item .contentKey (.replicate 16 7)) vaultKey.asBytes nonce contentKey
          ∈ exampleHonestState.sealed.map Prod.fst) := by
  let payload : ResolveResponseBody :=
    { vaultId := .replicate 16 5
      itemId := .replicate 16 7
      fieldName := "password"
      contentCiphertext := Base64.encode (xchacha20EncryptWithAad .transparent (.replicate 32 2)
        (.replicate 24 0) (utf8 "secret") (bodyAad (List.replicate 16 7)))
      contentKeyWrap := Base64.encode (wrapItemContentKey .transparent ⟨.replicate 32 1⟩
        (List.replicate 16 7) (.replicate 24 0) ⟨.replicate 32 2⟩)
      wrappedVaultKey := Base64.encode (wrapVaultKeyForIdentity .transparent ⟨.replicate 32 1⟩
        ⟨.replicate 32 9⟩ (.replicate 32 3)) }
  have hpool : ∀ {s : String} {sent blob : Bytes}, s = Base64.encode sent →
      sent ∈ exampleHonestState.pool → Base64.decode s = some blob →
        blob ∈ exampleHonestState.pool := by
    intro s sent blob hs hsent hblob
    rw [hs, Base64.decode_encode] at hblob
    rw [← Option.some.inj hblob]
    exact hsent
  have hok : decryptResolvePayload .transparent .transparent textCodec payload (.replicate 16 5)
      (.replicate 16 7) "password" ⟨.replicate 32 9⟩ = .ok "secret" := by
    refine decryptResolvePayload_eq_ok.mpr ⟨⟨rfl, rfl, rfl⟩, _, _, _, Base64.decode_encode _,
      Base64.decode_encode _, Base64.decode_encode _, ⟨.replicate 32 1⟩, ⟨.replicate 32 2⟩, ?_,
      ?_, ?_⟩
    · decide +kernel
    · exact unwrapItemContentKey_eq_ok.mpr
        (xchacha20Decrypt_encrypt_self Aead.transparent_ideal.correct)
    · exact decryptItemWithContentKey_eq_ok.mpr ⟨utf8 "secret",
        xchacha20Decrypt_encrypt_self Aead.transparent_ideal.correct, fromUtf8?_utf8 "secret"⟩
  obtain ⟨-, vaultKey, contentKey, -, -, hvault, hwrap, -⟩ :=
    resolve_resists_substitution Aead.transparent_ideal SealedBox.transparent_ideal
      exampleHonestState_honest (fun _ => hpool rfl (by simp [HonestState.pool, exampleHonestState]))
      (fun _ => hpool rfl (by simp [HonestState.pool, exampleHonestState]))
      (fun _ => hpool rfl (by simp [HonestState.pool, exampleHonestState])) hok
  exact ⟨payload, hok, vaultKey, contentKey, hvault, hwrap⟩

end SerenSecrets
