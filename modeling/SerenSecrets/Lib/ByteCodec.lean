import SerenSecrets.Lib.Base64
import SerenSecrets.Lib.Reader

set_option autoImplicit false

/-! # Bytes as JSON

A codec carries over to every type that sits in another one (`JsonCodec.via`). So bytes are written
as base64 texts, and arrays of a fixed length as lists of numbers. What is written without floats
(`JsonCodec.FloatFree`) is read back from its text by every reader. -/

variable {α β σ τ υ : Type}

namespace JsonCodec

/-- Write a `β` as the `α` it stands for; an `α` that stands for none is refused. -/
def via (c : JsonCodec α) (view : β → α) (of : α → Option β)
    (hof : ∀ a b, of a = some b ↔ view b = a) : JsonCodec β where
  write b := c.write (view b)
  read j := (c.read j).bind of
  base := c.base
  read_write := by
    intro b j h
    rw [c.read_write h, Option.bind_some]
    exact (hof _ _).mpr rfl
  distinctKeys_write b := c.distinctKeys_write (view b)
  intsFit_write b := c.intsFit_write (view b)
  depth_write := by
    intro j b d hread hbase hdepth
    obtain ⟨a, ha, hb⟩ := Option.bind_eq_some_iff.mp hread
    rw [(hof a b).mp hb]
    exact c.depth_write ha hbase hdepth

/-- Bytes as a base64 text. -/
def base64 : JsonCodec Bytes :=
  via .string Base64.encode Base64.decode fun _ bytes =>
    ⟨Base64.encode_of_decode, fun h => h ▸ Base64.decode_encode bytes⟩

/-- An array of `n` bytes as a list of numbers. -/
def fixedBytes (n : ℕ) : JsonCodec (FixedBytes n) :=
  via (.list .u8) FixedBytes.toBytes (FixedBytes.ofBytes? n) fun _ _ =>
    FixedBytes.ofBytes?_eq_some.trans eq_comm

/-! ## Without floats -/

/-- Nothing that the codec writes holds a float. -/
def FloatFree (c : JsonCodec α) : Prop := ∀ a, (c.write a).floatFree = true

theorem floatFree_string : string.FloatFree := fun _ => rfl

theorem floatFree_unsigned {toNat : α → ℕ} {ofNat : ℕ → α} {bound : ℕ} {hbound : bound ≤ 2 ^ 64}
    {hlt : ∀ a, toNat a < bound} {hofNat : ∀ a, ofNat (toNat a) = a} :
    (unsigned toNat ofNat bound hbound hlt hofNat).FloatFree := fun _ => rfl

theorem FloatFree.via {c : JsonCodec α} (h : c.FloatFree) {view : β → α} {of : α → Option β}
    {hof : ∀ a b, of a = some b ↔ view b = a} : (c.via view of hof).FloatFree :=
  fun b => h (view b)

theorem FloatFree.list {c : JsonCodec α} (h : c.FloatFree) : c.list.FloatFree :=
  fun _ => Json.floatFree_arr.mpr (List.forall_mem_map.mpr fun a _ => h a)

theorem floatFree_base64 : base64.FloatFree := floatFree_string.via

theorem floatFree_fixedBytes (n : ℕ) : (fixedBytes n).FloatFree := floatFree_unsigned.list.via

end JsonCodec

/-- No field holds a float. -/
def JsonFields.FloatFree (F : JsonFields σ τ) : Prop :=
  ∀ s, ∀ m ∈ F.members s, m.2.floatFree = true

theorem JsonFields.floatFree_required {name : String} {get : σ → α} {c : JsonCodec α}
    (h : c.FloatFree) : (required name get c).FloatFree := by
  intro s m hm
  rw [List.mem_singleton.mp (show m ∈ [(name, c.write (get s))] from hm)]
  exact h (get s)

theorem JsonFields.FloatFree.and {F : JsonFields σ τ} {G : JsonFields σ υ} (hF : F.FloatFree)
    (hG : G.FloatFree) : (F.and G).FloatFree := by
  intro s m hm
  rcases List.mem_append.mp hm with hm | hm
  · exact hF s m hm
  · exact hG s m hm

theorem JsonFields.FloatFree.codec {R : JsonRecord σ} (h : R.fields.FloatFree) :
    R.codec.FloatFree :=
  fun s => Json.floatFree_obj.mpr (h s)

/-! ## Written values in sorted maps -/

/-- A property of scalars does not depend on the order of keys. -/
theorem Json.Reordered.all_scalars {p : Json → Bool} (harr : ∀ elems, p (.arr elems) = true)
    (hobj : ∀ members, p (.obj members) = true) {a b : Json} (h : a.Reordered b)
    (ha : a.all p = true) : b.all p = true := by
  refine Json.Reordered.all ?_ h ha
  intro a b hab hnode
  cases a with
  | null | bool | num | str =>
      rw [Json.Reordered] at hab
      rwa [hab]
  | arr elems =>
      obtain ⟨elems', rfl, -⟩ := Json.reordered_arr.mp hab
      exact harr elems'
  | obj members =>
      obtain ⟨members', matched, rfl, -, -⟩ := Json.reordered_obj.mp hab
      exact hobj members'

theorem Json.Reordered.intsFit {a b : Json} (h : a.Reordered b) (ha : a.intsFit = true) :
    b.intsFit = true :=
  h.all_scalars (fun _ => rfl) (fun _ => rfl) ha

theorem Json.Reordered.floatFree {a b : Json} (h : a.Reordered b) (ha : a.floatFree = true) :
    b.floatFree = true :=
  h.all_scalars (fun _ => rfl) (fun _ => rfl) ha

theorem JsonCodec.reordered_sorted (c : JsonCodec α) (a : α) :
    (c.write a).Reordered (c.write a).sorted :=
  Json.reordered_sorted (c.distinctKeys_write a)

/-- What a codec writes, as a value of a sorted map type. -/
def JsonCodec.toValue (c : JsonCodec α) (a : α) : JsonValue where
  json := (c.write a).sorted
  sorted := Json.isSorted_sorted _
  fits := (c.reordered_sorted a).intsFit (c.intsFit_write a)

theorem JsonCodec.read_toValue (c : JsonCodec α) (a : α) : c.read (c.toValue a).json = some a :=
  c.read_write (c.reordered_sorted a)

/-- Data without floats is read back from its text, whatever order the reader leaves its keys in. -/
theorem JsonReader.reads_codec {read : Bytes → Option Json} {limit : ℕ}
    (hread : JsonReader read limit) {c : JsonCodec α} (hfloat : c.FloatFree) {a : α}
    (hdepth : (c.write a).depth ≤ limit) :
    ∃ j, read (c.write a).write = some j ∧ (c.write a).Reordered j :=
  hread.reads (c.distinctKeys_write a) hdepth (hread.reads_numbers (hfloat a) (c.intsFit_write a))
