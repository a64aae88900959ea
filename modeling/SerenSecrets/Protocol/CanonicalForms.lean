import SerenSecrets.Lib.Value
import SerenSecrets.Protocol.SignedForms

set_option autoImplicit false

/-! # Signed forms of free-form JSON

Three signed messages hold JSON that the caller chooses. The parameters of the key derivation enter
the digest of the account secrets through `canonicalJsonBytes`, a hand-written writer that sorts the
keys of every object; the provenance of an agent's keys enters the create-agent message as a value
of a sorted map type, in the host and in the browser.

The writer prints the sorted form of a value (`canonicalJsonBytes_eq`), so its output stands for the
value up to the order of keys. The digest frames its fields by labels and lengths, and is
unambiguous whatever bytes they hold. -/

namespace SerenSecrets

/-! ## Canonical JSON -/

/-- What appends to an output, or fails. -/
abbrev Writer := Bytes → CryptoResult Bytes

/-- Write the entries of a container one after another; all but the first follow a comma. -/
def writeSeparated (first : Bool) : List Writer → Writer
  | [], out => .ok out
  | item :: rest, out => do
      let out ← item (if first then out else out ++ [0x2C])
      writeSeparated false rest out

/-- The key of an entry, a colon and the entry's value. -/
def writeEntry (entry : String × Writer) : Writer := fun out =>
  entry.2 (out ++ writeString entry.1 ++ [0x3A])

mutual

def writeCanonicalJsonValue : Json → Writer
  | .null, out => .ok (out ++ utf8 "null")
  | .bool true, out => .ok (out ++ utf8 "true")
  | .bool false, out => .ok (out ++ utf8 "false")
  | .num (.float _), _ => .error (.canonicalization "non-integer json number")
  | .num (.int i), out => .ok (out ++ utf8 i.repr)
  | .str string, out => .ok (out ++ writeString string)
  | .arr values, out => do
      let out ← writeSeparated true (writeCanonicalValues values) (out ++ [0x5B])
      return out ++ [0x5D]
  | .obj map, out => do
      let entries :=
        Sorter.stable.sort (compareOn (fun entry => utf8 entry.1)) (writeCanonicalEntries map)
      let out ← writeSeparated true (entries.map writeEntry) (out ++ [0x7B])
      return out ++ [0x7D]

/-- The writers of an array's values. -/
def writeCanonicalValues : List Json → List Writer
  | [] => []
  | value :: rest => writeCanonicalJsonValue value :: writeCanonicalValues rest

/-- The entries of a map, each with the writer of its value. -/
def writeCanonicalEntries : List (String × Json) → List (String × Writer)
  | [] => []
  | (key, value) :: rest => (key, writeCanonicalJsonValue value) :: writeCanonicalEntries rest

end

def canonicalJsonBytes (value : Json) : CryptoResult Bytes := writeCanonicalJsonValue value []

theorem writeCanonicalValues_eq (values : List Json) :
    writeCanonicalValues values = values.map writeCanonicalJsonValue := by
  induction values with
  | nil => rfl
  | cons value rest ih => rw [writeCanonicalValues, ih, List.map_cons]

theorem writeCanonicalEntries_eq (map : List (String × Json)) :
    writeCanonicalEntries map = map.map (fun m => (m.1, writeCanonicalJsonValue m.2)) := by
  induction map with
  | nil => rfl
  | cons m rest ih => rw [writeCanonicalEntries, ih, List.map_cons]

/-- The writer appends the text if `ok`, and otherwise fails on a float. -/
def WritesIf (w : Writer) (ok : Bool) (text : Bytes) : Prop :=
  ∀ out, w out = if ok then .ok (out ++ text)
    else .error (.canonicalization "non-integer json number")

/-- Texts with commas between them. -/
def separated (first : Bool) : List Bytes → Bytes
  | [] => []
  | text :: rest => (if first then [] else [0x2C]) ++ (text ++ separated false rest)

theorem writeElems_eq_separated (first : Bool) (elems : List Json) :
    Json.writeElems first elems = separated first (elems.map Json.write) ++ [0x5D] := by
  induction elems generalizing first with
  | nil => rfl
  | cons a rest ih =>
      rw [Json.writeElems, ih, List.map_cons, separated, List.append_assoc, List.append_assoc]

/-- The text of one member of an object. -/
def memberText (m : String × Json) : Bytes := writeString m.1 ++ 0x3A :: m.2.write

theorem writeMembers_eq_separated (first : Bool) (members : List (String × Json)) :
    Json.writeMembers first members = separated first (members.map memberText) ++ [0x7D] := by
  induction members generalizing first with
  | nil => rfl
  | cons m rest ih =>
      rw [Json.writeMembers, ih, List.map_cons, separated, memberText]
      simp only [List.append_assoc, List.cons_append]

/-- Entries are all written, or the first bad one fails. -/
theorem writesIf_writeSeparated {α : Type} {w : α → Writer} {ok : α → Bool} {text : α → Bytes}
    {l : List α} (h : ∀ a ∈ l, WritesIf (w a) (ok a) (text a)) (first : Bool) :
    WritesIf (writeSeparated first (l.map w)) (l.all ok) (separated first (l.map text)) := by
  induction l generalizing first with
  | nil =>
      intro out
      simp only [List.map_nil, writeSeparated, List.all_nil, if_true, separated, List.append_nil]
  | cons a l ih =>
      intro out
      have hrest := ih (fun b hb => h b (List.mem_cons_of_mem _ hb)) false
      rw [List.map_cons, writeSeparated, h a List.mem_cons_self, List.all_cons]
      cases hok : ok a with
      | false => rfl
      | true =>
          show writeSeparated false (l.map w) ((if first then out else out ++ [0x2C]) ++ text a) = _
          rw [hrest, List.map_cons, separated, Bool.true_and]
          cases first <;> simp only [if_true, if_false, List.append_assoc, List.nil_append,
            Bool.false_eq_true]

theorem compareOn_eq {a b : String × Writer} :
    compareOn (fun entry : String × Writer => utf8 entry.1) a b = .eq ↔ a.1 = b.1 := by
  show compare (utf8 a.1) (utf8 b.1) = .eq ↔ _
  rw [Std.LawfulEqCmp.compare_eq_iff_eq, utf8_inj]

/-- The writer goes through the entries of a map in the order of its sorted form. -/
theorem sort_writeCanonicalEntries {map : List (String × Json)}
    (h : (map.map Prod.fst).Nodup) :
    Sorter.stable.sort (compareOn (fun entry => utf8 entry.1)) (writeCanonicalEntries map)
      = (Json.sortMembers map).map (fun m => (m.1, writeCanonicalJsonValue m.2)) := by
  have hperm := Json.sortMembers_perm h
  rw [writeCanonicalEntries_eq]
  refine Sorter.stable.sort_eq_of_sortedBy ?_ (hperm.symm.map _) ?_
  · intro a ha b hb hab
    obtain ⟨m, hm, rfl⟩ := List.mem_map.mp ha
    obtain ⟨n, hn, rfl⟩ := List.mem_map.mp hb
    rw [List.inj_on_of_nodup_map h hm hn (compareOn_eq.mp hab)]
  · refine List.pairwise_map.mpr ((Json.sortMembers_pairwise map).imp ?_)
    intro m n hmn
    show (compare (utf8 m.1) (utf8 n.1)).isLE = true
    rw [show compare (utf8 m.1) (utf8 n.1) = .lt from hmn]
    rfl

theorem writesIf_writeEntry {m : String × Json}
    (h : WritesIf (writeCanonicalJsonValue m.2) m.2.floatFree m.2.sorted.write) :
    WritesIf (writeEntry (m.1, writeCanonicalJsonValue m.2)) m.2.floatFree
      (memberText (m.1, m.2.sorted)) := by
  intro out
  show writeCanonicalJsonValue m.2 (out ++ writeString m.1 ++ [0x3A]) = _
  rw [h, memberText]
  simp only [List.append_assoc, List.cons_append, List.nil_append]

/-- **The writer prints the sorted form** of a value without floats. -/
theorem writesIf_writeCanonicalJsonValue {value : Json} (h : value.distinctKeys = true) :
    WritesIf (writeCanonicalJsonValue value) value.floatFree value.sorted.write := by
  induction value using Json.induction with
  | null => exact fun out => rfl
  | bool b => cases b <;> exact fun out => rfl
  | num n => cases n <;> exact fun out => rfl
  | str s => exact fun out => rfl
  | arr values ih =>
      intro out
      have hvalues := writesIf_writeSeparated
        (fun a ha => ih a ha (Json.distinctKeys_arr.mp h a ha)) true (out ++ [0x5B])
      rw [writeCanonicalJsonValue, writeCanonicalValues_eq, hvalues, Json.floatFree_arr_eq]
      cases values.all Json.floatFree with
      | false => rfl
      | true =>
          show Except.ok _ = Except.ok _
          rw [Json.sorted_arr, Json.write, writeElems_eq_separated, List.map_map]
          simp only [List.append_assoc, List.cons_append, List.nil_append, Function.comp_def]
  | obj map ih =>
      obtain ⟨hkeys, hmembers⟩ := Json.distinctKeys_obj.mp h
      have hperm := Json.sortMembers_perm hkeys
      intro out
      have hentries := writesIf_writeSeparated (l := Json.sortMembers map) (fun m hm =>
        writesIf_writeEntry (ih m (hperm.mem_iff.mp hm) (hmembers m (hperm.mem_iff.mp hm))))
        true (out ++ [0x7B])
      rw [writeCanonicalJsonValue, sort_writeCanonicalEntries hkeys, List.map_map,
        Function.comp_def, hentries, hperm.all_eq, ← Json.floatFree_obj_eq]
      cases (Json.obj map).floatFree with
      | false => rfl
      | true =>
          show Except.ok _ = Except.ok _
          rw [Json.sorted_obj, Json.sortMembers_map hkeys, Json.write, writeMembers_eq_separated,
            List.map_map]
          simp only [List.append_assoc, List.cons_append, List.nil_append, Function.comp_def]

theorem canonicalJsonBytes_eq {value : Json} (h : value.distinctKeys = true) :
    canonicalJsonBytes value = if value.floatFree then .ok value.sorted.write
      else .error (.canonicalization "non-integer json number") :=
  writesIf_writeCanonicalJsonValue h []

theorem canonicalJsonBytes_eq_ok {value : Json} {out : Bytes} (h : value.distinctKeys = true) :
    canonicalJsonBytes value = .ok out ↔ value.floatFree = true ∧ value.sorted.write = out := by
  rw [canonicalJsonBytes_eq h]
  cases value.floatFree <;> simp

/-- Equal output stands for equal values, up to the order of keys. -/
theorem reordered_of_canonicalJsonBytes_eq {v w : Json} {out : Bytes}
    (hv : v.distinctKeys = true) (hw : w.distinctKeys = true)
    (h : canonicalJsonBytes v = .ok out) (h' : canonicalJsonBytes w = .ok out) :
    v.Reordered w := by
  obtain ⟨-, rfl⟩ := (canonicalJsonBytes_eq_ok hv).mp h
  obtain ⟨-, hwrite⟩ := (canonicalJsonBytes_eq_ok hw).mp h'
  exact (Json.sorted_eq_sorted_iff hv hw).mp (Json.write_injective hwrite.symm)

/-- **`canonicalJsonBytes` is a canonical form**: it accepts the values without floats, gives two of
    them the same output exactly when they differ in the order of keys only, and its output is the
    compact text of such a reordering. -/
theorem canonicalJsonBytes_canonical {v w : Json} (hv : v.distinctKeys = true)
    (hw : w.distinctKeys = true) :
    ((∃ out, canonicalJsonBytes v = .ok out) ↔ v.floatFree = true) ∧
    (∀ out out', canonicalJsonBytes v = .ok out → canonicalJsonBytes w = .ok out' →
      (out = out' ↔ v.Reordered w)) ∧
    (∀ out, canonicalJsonBytes v = .ok out → ∃ j, v.Reordered j ∧ j.write = out) := by
  refine ⟨?_, ?_, ?_⟩
  · simp only [canonicalJsonBytes_eq_ok hv, exists_and_left, exists_eq', and_true]
  · intro out out' hout hout'
    constructor
    · rintro rfl
      exact reordered_of_canonicalJsonBytes_eq hv hw hout hout'
    · intro hvw
      obtain ⟨-, rfl⟩ := (canonicalJsonBytes_eq_ok hv).mp hout
      obtain ⟨-, rfl⟩ := (canonicalJsonBytes_eq_ok hw).mp hout'
      rw [hvw.sorted_eq hv]
  · intro out hout
    exact ⟨v.sorted, Json.reordered_sorted hv, ((canonicalJsonBytes_eq_ok hv).mp hout).2⟩

/-- Parameters of a key derivation, in the order of their fields. -/
def exampleKdfParams : Json :=
  .obj [("variant", .str "argon2id"), ("params", .obj [("m_cost", .int 65536), ("lanes", .int 4)])]

/-- The same parameters in byte order. -/
def exampleKdfParamsSorted : Json :=
  .obj [("params", .obj [("lanes", .int 4), ("m_cost", .int 65536)]), ("variant", .str "argon2id")]

theorem canonicalJsonBytes_canonical_kdfParams :
    ((∃ out, canonicalJsonBytes exampleKdfParams = .ok out) ↔ exampleKdfParams.floatFree = true) ∧
    (∀ out out', canonicalJsonBytes exampleKdfParams = .ok out →
      canonicalJsonBytes exampleKdfParamsSorted = .ok out' →
      (out = out' ↔ exampleKdfParams.Reordered exampleKdfParamsSorted)) ∧
    (∀ out, canonicalJsonBytes exampleKdfParams = .ok out →
      ∃ j, exampleKdfParams.Reordered j ∧ j.write = out) :=
  canonicalJsonBytes_canonical (by decide) (by decide)

/-! ## The digest of the account secrets -/

/-- The replacement blob that an update proof is made for. -/
structure AccountSecretsBlob where
  kdfParamsJson : Bytes
  recoveryKdfParamsJson : Bytes
  accountKeyWrap : Bytes
  accountKemPrivateWrap : Bytes
  accountSigningPrivateWrap : Bytes
  recoveryKeyWrap : Bytes
  deriving DecidableEq

namespace AccountSecretsBlob

/-- The fields with their labels, in the order they are hashed. -/
def fields (blob : AccountSecretsBlob) : List (Bytes × Bytes) :=
  [(utf8 "kdf_params", blob.kdfParamsJson),
    (utf8 "recovery_kdf_params", blob.recoveryKdfParamsJson),
    (utf8 "account_key_wrap", blob.accountKeyWrap),
    (utf8 "account_kem_private_wrap", blob.accountKemPrivateWrap),
    (utf8 "account_signing_private_wrap", blob.accountSigningPrivateWrap),
    (utf8 "recovery_key_wrap", blob.recoveryKeyWrap)]

/-- A label and a value, each after its length. -/
def frame (field : Bytes × Bytes) : Bytes := lengthPrefixed field.1 ++ lengthPrefixed field.2

/-- The bytes fed to the hash. -/
def digestInput (blob : AccountSecretsBlob) : Bytes :=
  utf8 "seren-account-secrets-blob\x00" ++ blob.fields.flatMap frame

/-- The lengths of all fields fit in 64 bits. -/
def Short (blob : AccountSecretsBlob) : Prop := ∀ field ∈ blob.fields, field.2.length < 2 ^ 64

instance (blob : AccountSecretsBlob) : Decidable blob.Short :=
  inferInstanceAs (Decidable (∀ field ∈ blob.fields, field.2.length < 2 ^ 64))

end AccountSecretsBlob

def digestAccountSecretsBlob (sha256 : Bytes → FixedBytes 32) (blob : AccountSecretsBlob) :
    FixedBytes 32 :=
  sha256 blob.digestInput

namespace AccountSecretsBlob

theorem frame_append_ne_nil (field : Bytes × Bytes) (x : Bytes) : frame field ++ x ≠ [] := by
  intro h
  exact lengthPrefixed_ne_nil _ (List.append_eq_nil_iff.mp (List.append_eq_nil_iff.mp h).1).1

/-- Frames are read off one after another, whatever the fields hold. -/
theorem flatMap_frame_inj {l m : List (Bytes × Bytes)}
    (hl : ∀ field ∈ l, field.1.length < 2 ^ 64 ∧ field.2.length < 2 ^ 64)
    (hm : ∀ field ∈ m, field.1.length < 2 ^ 64 ∧ field.2.length < 2 ^ 64)
    (h : l.flatMap frame = m.flatMap frame) : l = m := by
  induction l generalizing m with
  | nil =>
      cases m with
      | nil => rfl
      | cons field m => exact absurd h.symm (frame_append_ne_nil field _)
  | cons field l ih =>
      cases m with
      | nil => exact absurd h (frame_append_ne_nil field _)
      | cons field' m =>
          obtain ⟨hlabel, hvalue⟩ := hl field List.mem_cons_self
          obtain ⟨hlabel', hvalue'⟩ := hm field' List.mem_cons_self
          simp only [List.flatMap_cons, frame, List.append_assoc] at h
          obtain ⟨hfst, h⟩ := lengthPrefixed_split hlabel hlabel' h
          obtain ⟨hsnd, h⟩ := lengthPrefixed_split hvalue hvalue' h
          have hrest := ih (fun f hf => hl f (List.mem_cons_of_mem _ hf))
            (fun f hf => hm f (List.mem_cons_of_mem _ hf)) h
          rw [Prod.ext hfst hsnd, hrest]

theorem fields_injective : Function.Injective fields := by
  rintro ⟨a, b, c, d, e, f⟩ ⟨a', b', c', d', e', f'⟩ h
  simp only [fields, List.cons.injEq, Prod.mk.injEq, true_and, and_true] at h
  obtain ⟨rfl, rfl, rfl, rfl, rfl, rfl⟩ := h
  rfl

theorem length_label {blob : AccountSecretsBlob} {field : Bytes × Bytes}
    (h : field ∈ blob.fields) : field.1.length < 2 ^ 64 := by
  simp only [fields, List.mem_cons, List.not_mem_nil, or_false] at h
  rcases h with rfl | rfl | rfl | rfl | rfl | rfl <;> dsimp only <;> decide

theorem eq_of_digestInput_eq {a b : AccountSecretsBlob} (ha : a.Short) (hb : b.Short)
    (h : a.digestInput = b.digestInput) : a = b := by
  refine fields_injective (flatMap_frame_inj ?_ ?_ (List.append_cancel_left h))
  · exact fun field hfield => ⟨length_label hfield, ha field hfield⟩
  · exact fun field hfield => ⟨length_label hfield, hb field hfield⟩

end AccountSecretsBlob

/-- **The digest input is unambiguous**: equal streams come from one blob; with canonical JSON in
    the first two fields they come from the same JSON up to the order of keys; and two blobs behind
    one signed proof are the same blob, unless their streams collide under the hash. -/
theorem digestInput_unambiguous {Timestamp : Type} {timestampText : Timestamp → String}
    (hinj : Function.Injective timestampText) (hnl : ∀ t, '\n' ∉ (timestampText t).toList)
    (sha256 : Bytes → FixedBytes 32) {a b : AccountSecretsBlob} (ha : a.Short) (hb : b.Short) :
    (a.digestInput = b.digestInput → a = b) ∧
    (∀ kdf kdf' recovery recovery' : Json,
      kdf.distinctKeys = true → kdf'.distinctKeys = true →
      recovery.distinctKeys = true → recovery'.distinctKeys = true →
      canonicalJsonBytes kdf = .ok a.kdfParamsJson →
      canonicalJsonBytes kdf' = .ok b.kdfParamsJson →
      canonicalJsonBytes recovery = .ok a.recoveryKdfParamsJson →
      canonicalJsonBytes recovery' = .ok b.recoveryKdfParamsJson →
      a.digestInput = b.digestInput →
      kdf.Reordered kdf' ∧ recovery.Reordered recovery' ∧
        a.accountKeyWrap = b.accountKeyWrap ∧
        a.accountKemPrivateWrap = b.accountKemPrivateWrap ∧
        a.accountSigningPrivateWrap = b.accountSigningPrivateWrap ∧
        a.recoveryKeyWrap = b.recoveryKeyWrap) ∧
    (∀ proof proof' : AccountSecretsUpdateProof Timestamp,
      proof.blobDigest = digestAccountSecretsBlob sha256 a →
      proof'.blobDigest = digestAccountSecretsBlob sha256 b →
      accountSecretsUpdateCanonical timestampText proof
        = accountSecretsUpdateCanonical timestampText proof' →
      a = b ∨ (a.digestInput ≠ b.digestInput ∧ sha256 a.digestInput = sha256 b.digestInput)) := by
  have hunambiguous := AccountSecretsBlob.eq_of_digestInput_eq ha hb
  refine ⟨hunambiguous, ?_, ?_⟩
  · intro kdf kdf' recovery recovery' hk hk' hr hr' hkdf hkdf' hrec hrec' hinput
    obtain rfl := hunambiguous hinput
    exact ⟨reordered_of_canonicalJsonBytes_eq hk hk' hkdf hkdf',
      reordered_of_canonicalJsonBytes_eq hr hr' hrec hrec', rfl, rfl, rfl, rfl⟩
  · intro proof proof' hdigest hdigest' hsigned
    -- The signed bytes hold the digest itself, so both blobs hash to it.
    have hproof := accountSecretsUpdateCanonical_injective hinj hnl hsigned
    rw [← hproof, hdigest] at hdigest'
    by_cases hinput : a.digestInput = b.digestInput
    · exact .inl (hunambiguous hinput)
    · exact .inr ⟨hinput, hdigest'⟩

/-- A blob whose wraps hold a label and a length of their own. -/
def exampleAccountSecretsBlob : AccountSecretsBlob where
  kdfParamsJson := exampleKdfParamsSorted.write
  recoveryKdfParamsJson := exampleKdfParamsSorted.write
  accountKeyWrap := utf8 "account_kem_private_wrap" ++ beBytes 8 1
  accountKemPrivateWrap := [1]
  accountSigningPrivateWrap := []
  recoveryKeyWrap := utf8 "recovery_key_wrap"

theorem digestInput_unambiguous_smuggled :
    exampleAccountSecretsBlob.Short ∧
    (∀ b : AccountSecretsBlob, b.Short →
      (exampleAccountSecretsBlob.digestInput = b.digestInput → exampleAccountSecretsBlob = b)) := by
  have hinj : Function.Injective epochSecondText := by
    intro a b
    revert a b
    decide
  have hshort : exampleAccountSecretsBlob.Short := by decide
  refine ⟨hshort, fun b hb => ?_⟩
  exact (digestInput_unambiguous hinj (by decide) (fun _ => .replicate 32 0) hshort hb).1

/-! ## Create-agent messages -/

/-- The create-agent message of the browser, which leaves the KMS key out. -/
def browserCreateAgentJson (displayName : String) (kemPublicKey : IdentityKemPublicKey)
    (signingPublicKey : IdentitySigningPublicKey) (keyProvenance : Json) (issuedAt : Int64)
    (nonce : String) : Json :=
  .object
    [("display_name", .str displayName),
      ("kem_public_key", .base64 kemPublicKey.asBytes.toBytes),
      ("signing_public_key", .base64 signingPublicKey.asBytes.toBytes),
      ("key_provenance", keyProvenance),
      ("kms_key_id", .null),
      ("issued_at", .int issuedAt.toInt),
      ("nonce", .str nonce)]

def browserCanonicalCreateAgentBytes (displayName : String) (kemPublicKey : IdentityKemPublicKey)
    (signingPublicKey : IdentitySigningPublicKey) (keyProvenance : Json) (issuedAt : Int64)
    (nonce : String) : Bytes :=
  (browserCreateAgentJson displayName kemPublicKey signingPublicKey keyProvenance issuedAt
    nonce).write

/-- The request with its provenance collected into a sorted map. -/
def CreateAgentRequest.collected (r : CreateAgentRequest) : CreateAgentRequest :=
  { r with keyProvenance := r.keyProvenance.sorted }

theorem createAgentJson_eq (r : CreateAgentRequest) :
    createAgentJson r = .obj
      [("display_name", .str r.displayName),
        ("issued_at", .int r.issuedAt.toInt),
        ("kem_public_key", .base64 r.kemPublicKey.asBytes.toBytes),
        ("key_provenance", r.keyProvenance),
        ("kms_key_id", .orNull .str r.kmsKeyId),
        ("nonce", .str r.nonce),
        ("signing_public_key", .base64 r.signingPublicKey.asBytes.toBytes)] :=
  rfl

theorem createAgentJson_injective : Function.Injective createAgentJson := by
  rintro ⟨name, ⟨kem⟩, ⟨signing⟩, provenance, kms, issued, nonce⟩
    ⟨name', ⟨kem'⟩, ⟨signing'⟩, provenance', kms', issued', nonce'⟩ h
  rw [createAgentJson_eq, createAgentJson_eq] at h
  simp only [Json.obj.injEq, List.cons.injEq, Prod.mk.injEq, true_and, and_true, Json.str.injEq,
    Json.int_inj, Json.base64_inj, FixedBytes.toBytes_inj] at h
  obtain ⟨rfl, hissued, rfl, rfl, hkms, rfl, rfl⟩ := h
  obtain rfl := Int64.toInt_inj.mp hissued
  have hstr : Function.Injective Json.str := fun _ _ h => Json.str.inj h
  obtain rfl := Json.orNull_injective hstr (fun _ => by simp) hkms
  rfl

/-- **The browser and the host sign the same bytes**, whatever the order in which the provenance was
    put together, and the bytes determine the request up to that order. -/
theorem createAgentBytes_agree {r r' : CreateAgentRequest}
    (hr : r.keyProvenance.distinctKeys = true) (hr' : r'.keyProvenance.distinctKeys = true) :
    (∀ provenance, browserCanonicalCreateAgentBytes r.displayName r.kemPublicKey
        r.signingPublicKey provenance r.issuedAt r.nonce
      = canonicalCreateAgentBytes { r with keyProvenance := provenance, kmsKeyId := none }) ∧
    (∀ provenance, r.keyProvenance.Reordered provenance →
      browserCanonicalCreateAgentBytes r.displayName r.kemPublicKey r.signingPublicKey
          provenance.sorted r.issuedAt r.nonce
        = browserCanonicalCreateAgentBytes r.displayName r.kemPublicKey r.signingPublicKey
          r.keyProvenance.sorted r.issuedAt r.nonce ∧
      canonicalCreateAgentBytes { r with keyProvenance := provenance }.collected
        = canonicalCreateAgentBytes r.collected) ∧
    (canonicalCreateAgentBytes r.collected = canonicalCreateAgentBytes r'.collected →
      r.displayName = r'.displayName ∧ r.kemPublicKey = r'.kemPublicKey ∧
      r.signingPublicKey = r'.signingPublicKey ∧
      r.keyProvenance.Reordered r'.keyProvenance ∧ r.kmsKeyId = r'.kmsKeyId ∧
      r.issuedAt = r'.issuedAt ∧ r.nonce = r'.nonce) := by
  refine ⟨fun provenance => rfl, ?_, ?_⟩
  · intro provenance hprovenance
    have hsorted := hprovenance.sorted_eq hr
    refine ⟨by rw [hsorted], ?_⟩
    simp only [CreateAgentRequest.collected, hsorted]
  · intro hbytes
    have hcollected := createAgentJson_injective (Json.write_injective hbytes)
    simp only [CreateAgentRequest.collected, CreateAgentRequest.mk.injEq] at hcollected
    obtain ⟨hname, hkem, hsigning, hprovenance, hkms, hissued, hnonce⟩ := hcollected
    exact ⟨hname, hkem, hsigning, (Json.sorted_eq_sorted_iff hr hr').mp hprovenance, hkms,
      hissued, hnonce⟩

/-- A request whose provenance is nested and not in byte order. -/
def exampleCreateAgentRequest : CreateAgentRequest where
  displayName := "deploy"
  kemPublicKey := ⟨.replicate 32 1⟩
  signingPublicKey := ⟨.replicate 32 2⟩
  keyProvenance := .obj [("kind", .str "host"), ("host", .obj [("os", .null), ("arch", .null)])]
  kmsKeyId := none
  issuedAt := 1700000000
  nonce := "n"

theorem createAgentBytes_agree_nested :
    exampleCreateAgentRequest.keyProvenance.distinctKeys = true ∧
    (∀ provenance, exampleCreateAgentRequest.keyProvenance.Reordered provenance →
      canonicalCreateAgentBytes
          { exampleCreateAgentRequest with keyProvenance := provenance }.collected
        = canonicalCreateAgentBytes exampleCreateAgentRequest.collected) := by
  have hdistinct : exampleCreateAgentRequest.keyProvenance.distinctKeys = true := by decide
  refine ⟨hdistinct, fun provenance hprovenance => ?_⟩
  exact ((createAgentBytes_agree hdistinct hdistinct).2.1 provenance hprovenance).2

end SerenSecrets
