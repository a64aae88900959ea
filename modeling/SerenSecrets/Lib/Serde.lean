import SerenSecrets.Lib.Base64
import SerenSecrets.Lib.Json
import SerenSecrets.Lib.Uuid

set_option autoImplicit false

/-! # Data as JSON values

How the parts of a record become JSON: UUIDs and byte strings are strings, a missing value is
`null` or is left out, and a free-form object keeps its keys in byte order. Each of these maps is
injective, so that a record can be read off its value part by part. `Json.get?` and the `as`
functions read a value of unknown shape. -/

namespace Json

/-! ## Parts of a record -/

def uuid (u : Uuid) : Json := .str u.toText

/-- Bytes as standard base64 text. -/
def base64 (bytes : Bytes) : Json := .str (Base64.encode bytes)

def int (i : ℤ) : Json := .num (.int i)

/-- A value, or `null` in its absence. -/
def orNull {α : Type} (f : α → Json) : Option α → Json
  | none => .null
  | some a => f a

def array {α : Type} (f : α → Json) (l : List α) : Json := .arr (l.map f)

/-- A member that is left out in the absence of its value. -/
def optMember {α : Type} (key : String) (f : α → Json) : Option α → List (String × Json)
  | none => []
  | some a => [(key, f a)]

@[simp] theorem uuid_inj {u v : Uuid} : uuid u = uuid v ↔ u = v := by
  simp [uuid]

@[simp] theorem base64_inj {a b : Bytes} : base64 a = base64 b ↔ a = b := by
  simp [base64]

@[simp] theorem int_inj {i j : ℤ} : int i = int j ↔ i = j := by
  simp [int]

theorem orNull_injective {α : Type} {f : α → Json} (hf : Function.Injective f)
    (hnull : ∀ a, f a ≠ .null) : Function.Injective (orNull f) := by
  rintro (_ | a) (_ | b) h
  · rfl
  · exact absurd h.symm (hnull b)
  · exact absurd h (hnull a)
  · rw [hf h]

@[simp] theorem orNull_uuid_inj {u v : Option Uuid} : orNull uuid u = orNull uuid v ↔ u = v :=
  (orNull_injective (fun _ _ => uuid_inj.mp) (fun _ => by simp [uuid])).eq_iff

theorem array_injective {α : Type} {f : α → Json} (hf : Function.Injective f) :
    Function.Injective (array f) := by
  intro l m h
  exact hf.list_map (Json.arr.inj h)

theorem optMember_injective {α : Type} {key : String} {f : α → Json} (hf : Function.Injective f) :
    Function.Injective (optMember key f) := by
  rintro (_ | a) (_ | b) h
  · rfl
  · simp [optMember] at h
  · simp [optMember] at h
  · simp only [optMember, List.cons.injEq, Prod.mk.injEq, true_and, and_true] at h
    rw [hf h]

/-! ## Objects as ordered maps -/

/-- Add a member to an object kept in the byte order of its keys, replacing an equal key. -/
def insertMember (key : String) (value : Json) : List (String × Json) → List (String × Json)
  | [] => [(key, value)]
  | (k, v) :: rest =>
      match compare (utf8 key) (utf8 k) with
      | .lt => (key, value) :: (k, v) :: rest
      | .eq => (k, value) :: rest
      | .gt => (k, v) :: insertMember key value rest

/-- The object with the given members, its keys in byte order. -/
def object (members : List (String × Json)) : Json :=
  .obj (members.foldl (fun map m => insertMember m.1 m.2 map) [])

example (a b c : Json) : object [("b", a), ("a", b), ("b", c)] = .obj [("a", b), ("b", c)] := rfl

/-- The compact text of a value. -/
def toText (value : Json) : String := (fromUtf8? value.write).getD ""

/-! ## Reading values -/

/-- The value of a member; `none` for a missing key and for anything but an object. -/
def get? (key : String) : Json → Option Json
  | .obj members => (members.find? (fun m => m.1 == key)).map Prod.snd
  | _ => none

def asStr? : Json → Option String
  | .str s => some s
  | _ => none

def asBool? : Json → Option Bool
  | .bool b => some b
  | _ => none

/-- An integer that fits in 64 bits without a sign. -/
def asU64? : Json → Option ℕ
  | .num (.int i) => if 0 ≤ i ∧ i < 2 ^ 64 then some i.toNat else none
  | _ => none

def asInt? (low high : ℤ) : Json → Option ℤ
  | .num (.int i) => if low ≤ i ∧ i ≤ high then some i else none
  | _ => none

theorem asStr?_eq_some {value : Json} {s : String} : value.asStr? = some s ↔ value = .str s := by
  cases value <;> simp [asStr?]

theorem asU64?_eq_some {value : Json} {n : ℕ} :
    value.asU64? = some n ↔ value = .int n ∧ n < 2 ^ 64 := by
  constructor
  · intro h
    unfold asU64? at h
    split at h
    · rw [Option.ite_none_right_eq_some] at h
      obtain ⟨⟨hlow, hhigh⟩, hn⟩ := h
      obtain rfl := Option.some.inj hn
      rw [int, Int.toNat_of_nonneg hlow]
      exact ⟨rfl, by omega⟩
    · cases h
  · rintro ⟨rfl, hn⟩
    have hrange : (0 : ℤ) ≤ n ∧ (n : ℤ) < 2 ^ 64 := by omega
    simp only [int, asU64?, hrange, and_self, if_true, Int.toNat_natCast]

theorem asInt?_eq_some {low high i : ℤ} {value : Json} :
    value.asInt? low high = some i ↔ value = .int i ∧ low ≤ i ∧ i ≤ high := by
  constructor
  · intro h
    unfold asInt? at h
    split at h
    · rw [Option.ite_none_right_eq_some] at h
      obtain ⟨hrange, hi⟩ := h
      obtain rfl := Option.some.inj hi
      exact ⟨rfl, hrange⟩
    · cases h
  · rintro ⟨rfl, hrange⟩
    exact if_pos hrange

/-- Follow a list of keys into nested objects. -/
def path? : List String → Json → Option Json
  | [], value => some value
  | key :: keys, value => (value.get? key).bind (path? keys)

/-- The two values have the same keys, with the same strings. Their numbers may differ. -/
def Agrees (a b : Json) : Prop :=
  ∀ keys, (a.path? keys).map asStr? = (b.path? keys).map asStr?

/-! ## Reading records -/

/-- The fields of a record, from an object by name or from an array by position. -/
def record? (names : List String) : Json → Option (String → Option Json)
  | .obj members => some (fun key => (Json.obj members).get? key)
  | .arr elems =>
      if elems.length ≤ names.length then some (fun key => (names.zip elems).lookup key) else none
  | _ => none

/-- A field that must be there. -/
def field {α : Type} (fields : String → Option Json) (name : String) (read : Json → Option α) :
    Option α :=
  (fields name).bind read

/-- A field with a default for its absence. -/
def fieldOr {α : Type} (fields : String → Option Json) (name : String) (read : Json → Option α)
    (default : α) : Option α :=
  match fields name with
  | some value => read value
  | none => some default

theorem field_eq_some {α : Type} {fields : String → Option Json} {name : String}
    {read : Json → Option α} {value : Json} {a : α} (hvalue : fields name = some value)
    (hread : read value = some a) : field fields name read = some a := by
  rw [field, hvalue, Option.bind_some, hread]

theorem fieldOr_eq_some {α : Type} {fields : String → Option Json} {name : String}
    {read : Json → Option α} {value : Json} {a default : α} (hvalue : fields name = some value)
    (hread : read value = some a) : fieldOr fields name read default = some a := by
  simp only [fieldOr, hvalue, hread]

/-- A value that may be `null`. -/
def nullable {α : Type} (read : Json → Option α) : Json → Option (Option α)
  | .null => some none
  | value => (read value).map some

theorem nullable_of_ne {α : Type} {read : Json → Option α} {value : Json} (h : value ≠ .null) :
    nullable read value = (read value).map some := by
  cases value with
  | null => exact absurd rfl h
  | _ => rfl

def asUuid? (value : Json) : Option Uuid := value.asStr?.bind Uuid.parseStr

@[simp] theorem asUuid?_uuid (u : Uuid) : (uuid u).asUuid? = some u := by
  simp only [asUuid?, uuid, asStr?, Option.bind_some, Uuid.parseStr_toText]

/-- A variant without data: its name, or an object that maps its name to `null`. -/
def unitVariant? {α : Type} (variants : List (String × α)) : Json → Option α
  | .str name => variants.lookup name
  | .obj [(name, .null)] => variants.lookup name
  | _ => none

/-! ## Texts in a value -/

/-- The text stands somewhere in the value. -/
inductive Has (text : String) : Json → Prop
  | here : Has text (.str text)
  | elem {value : Json} {elems : List Json} (hmem : value ∈ elems) (h : Has text value) :
      Has text (.arr elems)
  | member {key : String} {value : Json} {members : List (String × Json)}
      (hmem : (key, value) ∈ members) (h : Has text value) : Has text (.obj members)

theorem has_str {text s : String} (h : (Json.str s).Has text) : text = s := by
  cases h
  rfl

theorem has_of_asStr? {value : Json} {text : String} (h : value.asStr? = some text) :
    value.Has text := by
  rw [asStr?_eq_some.mp h]
  exact .here

theorem has_of_get? {value inner : Json} {key text : String} (h : value.get? key = some inner)
    (htext : inner.Has text) : value.Has text := by
  cases value with
  | obj members =>
      rw [get?, Option.map_eq_some_iff] at h
      obtain ⟨⟨name, _⟩, hfound, rfl⟩ := h
      exact .member (List.mem_of_find?_eq_some hfound) htext
  | _ => cases h

/-- The fields of a record stand in its value, be it an object or an array. -/
theorem has_of_record? {value inner : Json} {names : List String} {fields : String → Option Json}
    {name text : String} (h : value.record? names = some fields) (hfield : fields name = some inner)
    (htext : inner.Has text) : value.Has text := by
  cases value with
  | obj members =>
      cases h
      exact has_of_get? hfield htext
  | arr elems =>
      rw [record?, Option.ite_none_right_eq_some] at h
      obtain ⟨-, hfields⟩ := h
      cases hfields
      obtain ⟨l₁, l₂, hzip, -⟩ := List.lookup_eq_some_iff.mp hfield
      have hmem : (name, inner) ∈ names.zip elems := by simp [hzip]
      exact .elem (List.of_mem_zip hmem).2 htext
  | _ => cases h

end Json
