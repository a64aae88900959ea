import SerenSecrets.Lib.Codec

set_option autoImplicit false

/-! # Readers of JSON texts

`JsonReader read limit` is what typed data relies on in a third-party reader: a written value is read
back up to the order of its keys, as long as it is nested at most `limit` deep and its numbers are
read back one by one. Integers of 64 bits are; of floats nothing is said, since a reader may be
content with an approximation. Texts that are nested deeper are refused.

Then data that a `JsonCodec` writes is read back from its text (`JsonReader.read_codec`). -/

namespace Json

/-! ## The numbers in a value -/

mutual

/-- All numbers inside a value. -/
def numbers : Json → List Number
  | .null => []
  | .bool _ => []
  | .num n => [n]
  | .str _ => []
  | .arr elems => numbersElems elems
  | .obj members => numbersMembers members

def numbersElems : List Json → List Number
  | [] => []
  | a :: rest => a.numbers ++ numbersElems rest

def numbersMembers : List (String × Json) → List Number
  | [] => []
  | (_, a) :: rest => a.numbers ++ numbersMembers rest

end

theorem mem_numbersElems {elems : List Json} {n : Number} :
    n ∈ numbersElems elems ↔ ∃ a ∈ elems, n ∈ a.numbers := by
  induction elems with
  | nil => simp [numbersElems]
  | cons a rest ih => rw [numbersElems, List.mem_append, ih, List.exists_mem_cons_iff]

theorem mem_numbersMembers {members : List (String × Json)} {n : Number} :
    n ∈ numbersMembers members ↔ ∃ m ∈ members, n ∈ m.2.numbers := by
  induction members with
  | nil => simp [numbersMembers]
  | cons m rest ih =>
      obtain ⟨k, a⟩ := m
      rw [numbersMembers, List.mem_append, ih, List.exists_mem_cons_iff]

/-- What holds everywhere in a value holds of its numbers. -/
theorem all_num_of_mem_numbers {p : Json → Bool} {a : Json} (h : a.all p = true) {n : Number}
    (hn : n ∈ a.numbers) : p (.num n) = true := by
  induction a using Json.induction with
  | null | bool | str => exact absurd hn List.not_mem_nil
  | num m =>
      obtain rfl := List.mem_singleton.mp hn
      exact h
  | arr elems ih =>
      obtain ⟨a, ha, hna⟩ := mem_numbersElems.mp hn
      exact ih a ha ((all_arr.mp h).2 a ha) hna
  | obj members ih =>
      obtain ⟨m, hm, hnm⟩ := mem_numbersMembers.mp hn
      exact ih m hm ((all_obj.mp h).2 m hm) hnm

/-- In a value without floats that has only 64-bit integers, these are all the numbers. -/
theorem int_of_mem_numbers {a : Json} (hfloat : a.floatFree = true) (hfit : a.intsFit = true)
    {n : Number} (hn : n ∈ a.numbers) : ∃ i, n = .int i ∧ -2 ^ 63 ≤ i ∧ i < 2 ^ 64 := by
  have hnofloat := all_num_of_mem_numbers hfloat hn
  have hrange := all_num_of_mem_numbers hfit hn
  cases n with
  | int i => exact ⟨i, rfl, of_decide_eq_true hrange⟩
  | float f => exact absurd hnofloat (by simp)

end Json

/-! ## Readers -/

/-- A reader of JSON texts that follows up to `limit` nested arrays and objects. -/
structure JsonReader (read : Bytes → Option Json) (limit : ℕ) : Prop where
  reads : ∀ {a : Json}, a.distinctKeys = true → a.depth ≤ limit →
    (∀ n ∈ a.numbers, read n.write = some (.num n)) → ∃ b, read a.write = some b ∧ a.Reordered b
  reads_int : ∀ {i : ℤ}, -2 ^ 63 ≤ i → i < 2 ^ 64 → read (Number.int i).write = some (.int i)
  too_deep : ∀ {a : Json}, limit < a.depth → read a.write = none
  depth_le : ∀ {text : Bytes} {a : Json}, read text = some a → a.depth ≤ limit

namespace JsonReader

variable {read : Bytes → Option Json} {limit : ℕ} {α : Type}

/-- Integers of 64 bits are read back wherever they stand. -/
theorem reads_numbers (hread : JsonReader read limit) {a : Json} (hfloat : a.floatFree = true)
    (hfit : a.intsFit = true) : ∀ n ∈ a.numbers, read n.write = some (.num n) := by
  intro n hn
  obtain ⟨i, rfl, hlow, hhigh⟩ := Json.int_of_mem_numbers hfloat hfit hn
  exact hread.reads_int hlow hhigh

/-- **Written data is read back from its text**, unless it is nested too deep. -/
theorem read_codec (hread : JsonReader read limit) (c : JsonCodec α) {a : α}
    (hdepth : (c.write a).depth ≤ limit)
    (hnumbers : ∀ n ∈ (c.write a).numbers, read n.write = some (.num n)) :
    (read (c.write a).write).bind c.read = some a := by
  obtain ⟨b, hb, hreordered⟩ := hread.reads (c.distinctKeys_write a) hdepth hnumbers
  rw [hb, Option.bind_some, c.read_write hreordered]

theorem read_codec_floatFree (hread : JsonReader read limit) (c : JsonCodec α) {a : α}
    (hdepth : (c.write a).depth ≤ limit) (hfloat : (c.write a).floatFree = true) :
    (read (c.write a).write).bind c.read = some a :=
  hread.read_codec c hdepth (hread.reads_numbers hfloat (c.intsFit_write a))

/-- Data that was read is written no deeper than the reader follows. -/
theorem depth_write_le (hread : JsonReader read limit) (c : JsonCodec α) (hbase : c.base ≤ limit)
    {text : Bytes} {a : α} (h : (read text).bind c.read = some a) :
    (c.write a).depth ≤ limit := by
  obtain ⟨j, hj, ha⟩ := Option.bind_eq_some_iff.mp h
  exact c.depth_write ha hbase (hread.depth_le hj)

end JsonReader

/-! ## The laws can be met -/

/-- The reader that knows exactly the compact texts of values within the limit. -/
noncomputable def readCompact (limit : ℕ) (text : Bytes) : Option Json :=
  open Classical in
  if h : ∃ a : Json, a.write = text ∧ a.depth ≤ limit then some h.choose else none

theorem readCompact_write {limit : ℕ} {a : Json} (hdepth : a.depth ≤ limit) :
    readCompact limit a.write = some a := by
  have h : ∃ b : Json, b.write = a.write ∧ b.depth ≤ limit := ⟨a, rfl, hdepth⟩
  rw [readCompact, dif_pos h]
  exact congrArg some (Json.write_injective h.choose_spec.1)

theorem readCompact_eq_some {limit : ℕ} {text : Bytes} {a : Json}
    (h : readCompact limit text = some a) : a.write = text ∧ a.depth ≤ limit := by
  unfold readCompact at h
  split at h
  · rename_i hwritten
    rw [← Option.some.inj h]
    exact hwritten.choose_spec
  · exact absurd h (by simp)

theorem readCompact_reader (limit : ℕ) : JsonReader (readCompact limit) limit where
  reads := by
    intro a _ hdepth _
    exact ⟨a, readCompact_write hdepth, .refl a⟩
  reads_int := by
    intro i _ _
    exact readCompact_write (a := .int i) (Nat.zero_le limit)
  too_deep := by
    intro a hdeep
    by_contra h
    obtain ⟨b, hb⟩ := Option.ne_none_iff_exists'.mp h
    obtain ⟨hwrite, hdepth⟩ := readCompact_eq_some hb
    rw [Json.write_injective hwrite] at hdepth
    omega
  depth_le h := (readCompact_eq_some h).2
