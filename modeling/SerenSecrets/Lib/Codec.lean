import SerenSecrets.Lib.Value

set_option autoImplicit false

/-! # Typed data as JSON values

A `JsonCodec` writes the values of a type and reads them back, and carries the laws that make it
lossless: whatever order the keys of a written value arrive in, it is read as the same value. A
written value has distinct keys and 64-bit integers, and a value that was read is written no deeper
than it came, but for what its defaults need (`base`).

The fields of a record are put together one by one (`JsonFields`). A field is required or has a
default, and with a default some of its values may be left out; the laws ask that these are the
default itself. A record whose names are distinct is a codec (`JsonRecord.codec`), and also the body
of a variant of a tagged union (`Json.tag?`). -/

variable {α β σ τ υ : Type}

/-- A lossless way to write the values of a type as JSON. -/
structure JsonCodec (α : Type) where
  write : α → Json
  read : Json → Option α
  base : ℕ
  read_write : ∀ {a j}, (write a).Reordered j → read j = some a
  distinctKeys_write : ∀ a, (write a).distinctKeys = true
  intsFit_write : ∀ a, (write a).intsFit = true
  depth_write : ∀ {j a d}, read j = some a → base ≤ d → j.depth ≤ d → (write a).depth ≤ d

namespace JsonCodec

theorem read_write_self (c : JsonCodec α) (a : α) : c.read (c.write a) = some a :=
  c.read_write (.refl _)

/-- Written values are told apart, even up to the order of keys. -/
theorem eq_of_reordered (c : JsonCodec α) {a b : α} (h : (c.write a).Reordered (c.write b)) :
    a = b := by
  have hread := c.read_write h
  rw [c.read_write_self] at hread
  exact (Option.some.inj hread).symm

/-! ## Scalars -/

/-- A codec for data written as a value without parts. -/
def scalar (write : α → Json) (read : Json → Option α)
    (hatom : ∀ a j, (write a).Reordered j → j = write a)
    (hread : ∀ a, read (write a) = some a) (hdistinct : ∀ a, (write a).distinctKeys = true)
    (hfit : ∀ a, (write a).intsFit = true) (hdepth : ∀ a, (write a).depth = 0) : JsonCodec α where
  write := write
  read := read
  base := 0
  read_write := by
    intro a j h
    rw [hatom a j h, hread]
  distinctKeys_write := hdistinct
  intsFit_write := hfit
  depth_write := by
    intro j a d _ _ _
    rw [hdepth]
    exact Nat.zero_le d

def string : JsonCodec String :=
  scalar .str Json.asStr? (fun _ _ h => by rwa [Json.Reordered] at h) (fun _ => rfl)
    (fun _ => rfl) (fun _ => rfl) (fun _ => rfl)

theorem string_write_ne_null (s : String) : string.write s ≠ .null := nofun

def bool : JsonCodec Bool :=
  scalar .bool Json.asBool? (fun _ _ h => by rwa [Json.Reordered] at h) (fun _ => rfl)
    (fun _ => rfl) (fun _ => rfl) (fun _ => rfl)

section Unsigned

variable {toNat : α → ℕ} {ofNat : ℕ → α} {bound : ℕ}

theorem reordered_natCast (a : α) (j : Json) (h : (Json.int (toNat a)).Reordered j) :
    j = .int (toNat a) := by
  rwa [Json.int, Json.Reordered] at h

theorem read_natCast (hlt : ∀ a, toNat a < bound) (hofNat : ∀ a, ofNat (toNat a) = a) (a : α) :
    ((Json.int (toNat a)).asInt? 0 (bound - 1)).map (fun i => ofNat i.toNat) = some a := by
  have := hlt a
  rw [Json.int, Json.asInt?, if_pos (by omega), Option.map_some, Int.toNat_natCast, hofNat]

theorem intsFit_natCast (hbound : bound ≤ 2 ^ 64) (hlt : ∀ a, toNat a < bound) (a : α) :
    (Json.int (toNat a)).intsFit = true := by
  have := hlt a
  exact Json.intsFit_int (by omega) (by omega)

end Unsigned

/-- An unsigned integer below a bound of at most 64 bits. -/
def unsigned (toNat : α → ℕ) (ofNat : ℕ → α) (bound : ℕ) (hbound : bound ≤ 2 ^ 64)
    (hlt : ∀ a, toNat a < bound) (hofNat : ∀ a, ofNat (toNat a) = a) : JsonCodec α :=
  scalar (fun a => .int (toNat a))
    (fun j => (j.asInt? 0 (bound - 1)).map (fun i => ofNat i.toNat)) reordered_natCast
    (read_natCast hlt hofNat) (fun _ => rfl) (intsFit_natCast hbound hlt) (fun _ => rfl)

def u8 : JsonCodec UInt8 :=
  unsigned UInt8.toNat UInt8.ofNat (2 ^ 8) (by decide) UInt8.toNat_lt (fun _ => UInt8.ofNat_toNat)

def u32 : JsonCodec UInt32 :=
  unsigned UInt32.toNat UInt32.ofNat (2 ^ 32) (by decide) UInt32.toNat_lt
    (fun _ => UInt32.ofNat_toNat)

def u64 : JsonCodec UInt64 :=
  unsigned UInt64.toNat UInt64.ofNat (2 ^ 64) (by decide) UInt64.toNat_lt
    (fun _ => UInt64.ofNat_toNat)

/-- The variants of an enumeration without data, by their names. -/
def variants (name : α → String) (table : List (String × α))
    (htable : ∀ a, table.lookup (name a) = some a) : JsonCodec α :=
  scalar (fun a => .str (name a)) (Json.unitVariant? table)
    (fun _ _ h => by rwa [Json.Reordered] at h) htable (fun _ => rfl) (fun _ => rfl)
    (fun _ => rfl)

/-! ## Options and lists -/

/-- A value that may be `null`. -/
def option (c : JsonCodec α) (hnull : ∀ a, c.write a ≠ .null) : JsonCodec (Option α) where
  write := Json.orNull c.write
  read := Json.nullable c.read
  base := c.base
  read_write := by
    rintro (_ | a) j h
    · rw [Json.orNull, Json.Reordered] at h
      rw [h, Json.nullable]
    · have hj : j ≠ .null := by
        rintro rfl
        have hback := h.symm
        rw [Json.Reordered] at hback
        exact hnull a hback
      rw [Json.nullable_of_ne hj, c.read_write h, Option.map_some]
  distinctKeys_write := by
    rintro (_ | a)
    · rfl
    · exact c.distinctKeys_write a
  intsFit_write := by
    rintro (_ | a)
    · rfl
    · exact c.intsFit_write a
  depth_write := by
    rintro j (_ | a) d hread hbase hdepth
    · exact Nat.zero_le d
    · by_cases hj : j = .null
      · rw [hj, Json.nullable] at hread
        cases hread
      · rw [Json.nullable_of_ne hj, Option.map_eq_some_iff] at hread
        obtain ⟨b, hread, hb⟩ := hread
        exact c.depth_write (Option.some.inj hb ▸ hread) hbase hdepth

/-- Read every element. -/
def readElems (read : Json → Option α) : List Json → Option (List α)
  | [] => some []
  | j :: rest => (read j).bind fun a => (readElems read rest).map fun l => a :: l

theorem readElems_eq_some {read : Json → Option α} {elems : List Json} {l : List α} :
    readElems read elems = some l ↔ List.Forall₂ (fun a j => read j = some a) l elems := by
  induction elems generalizing l with
  | nil =>
      rw [readElems, List.forall₂_nil_right_iff, Option.some.injEq, eq_comm]
  | cons j rest ih =>
      simp only [readElems, Option.bind_eq_some_iff, Option.map_eq_some_iff, ih,
        List.forall₂_cons_right_iff]
      constructor
      · rintro ⟨a, ha, l', hl', rfl⟩
        exact ⟨a, l', ha, hl', rfl⟩
      · rintro ⟨a, l', ha, hl', rfl⟩
        exact ⟨a, ha, l', hl', rfl⟩

def list (c : JsonCodec α) : JsonCodec (List α) where
  write := Json.array c.write
  read
    | .arr elems => readElems c.read elems
    | _ => none
  base := c.base + 1
  read_write := by
    intro l j h
    obtain ⟨elems, rfl, helems⟩ := Json.reordered_arr.mp h
    rw [List.forall₂_map_left_iff] at helems
    exact readElems_eq_some.mpr (helems.imp fun _ _ h => c.read_write h)
  distinctKeys_write := by
    intro l
    exact Json.distinctKeys_arr.mpr (List.forall_mem_map.mpr fun a _ => c.distinctKeys_write a)
  intsFit_write := by
    intro l
    exact Json.all_arr.mpr ⟨rfl, List.forall_mem_map.mpr fun a _ => c.intsFit_write a⟩
  depth_write := by
    intro j l d hread hbase hdepth
    obtain ⟨d, rfl⟩ : ∃ d', d = d' + 1 := ⟨d - 1, by omega⟩
    cases j with
    | arr elems =>
        refine Json.depth_arr_le.mpr (List.forall_mem_map.mpr fun a ha => ?_)
        obtain ⟨j, hj, hread⟩ :=
          (readElems_eq_some.mp hread).exists_of_mem_left ha
        exact c.depth_write hread (by omega) (Json.depth_arr_le.mp hdepth j hj)
    | _ => cases hread

end JsonCodec

/-! ## Looking up members -/

namespace Json

theorem get?_append (k : String) (l m : List (String × Json)) :
    (Json.obj (l ++ m)).get? k = ((Json.obj l).get? k).or ((Json.obj m).get? k) := by
  rw [get?, get?, get?, List.find?_append]
  cases l.find? (fun n => n.1 == k) <;> rfl

theorem get?_eq_none {k : String} {members : List (String × Json)}
    (h : k ∉ members.map Prod.fst) : (Json.obj members).get? k = none := by
  rw [get?, Option.map_eq_none_iff, List.find?_eq_none]
  intro m hm hkey
  exact h (List.mem_map.mpr ⟨m, hm, by simpa using hkey⟩)

theorem mem_of_get?_eq_some {k : String} {members : List (String × Json)} {a : Json}
    (h : (Json.obj members).get? k = some a) : (k, a) ∈ members := by
  rw [get?, Option.map_eq_some_iff] at h
  obtain ⟨m, hfind, rfl⟩ := h
  have hkey : m.1 = k := by simpa using List.find?_some hfind
  rw [← hkey]
  exact List.mem_of_find?_eq_some hfind

/-- The fields of a record, from an object by name or from an array by position. A field may not
    occur twice. -/
def fields? (names : List String) : Json → Option (String → Option Json)
  | .obj members =>
      if names.any (fun name => 1 < members.countP (fun m => m.1 == name)) then none
      else some (fun name => (Json.obj members).get? name)
  | .arr elems =>
      if elems.length ≤ names.length then some (fun name => (names.zip elems).lookup name)
      else none
  | _ => none

theorem fields?_obj {names : List String} {members : List (String × Json)}
    (h : (members.map Prod.fst).Nodup) :
    fields? names (.obj members) = some (fun name => (Json.obj members).get? name) := by
  have hcount : ∀ name, members.countP (fun m => m.1 == name) ≤ 1 := by
    intro name
    have hmap : members.countP (fun m => m.1 == name) = (members.map Prod.fst).count name := by
      rw [List.count, List.countP_map]
      rfl
    rw [hmap]
    exact List.nodup_iff_count_le_one.mp h name
  rw [fields?, if_neg]
  rw [List.any_eq_true]
  rintro ⟨name, -, hname⟩
  exact absurd (of_decide_eq_true hname) (Nat.not_lt.mpr (hcount name))

theorem depth_of_fields? {names : List String} {j : Json} {f : String → Option Json}
    (hf : fields? names j = some f) {name : String} {a : Json} (ha : f name = some a) {d : ℕ}
    (hd : j.depth ≤ d + 1) : a.depth ≤ d := by
  cases j with
  | obj members =>
      rw [fields?] at hf
      split at hf
      · cases hf
      · obtain rfl := Option.some.inj hf
        exact depth_obj_le.mp hd _ (mem_of_get?_eq_some ha)
  | arr elems =>
      rw [fields?] at hf
      split at hf
      · obtain rfl := Option.some.inj hf
        obtain ⟨before, after, hzip, -⟩ := List.lookup_eq_some_iff.mp ha
        have hmem : (name, a) ∈ names.zip elems := by
          rw [hzip]
          exact List.mem_append_right _ List.mem_cons_self
        exact depth_arr_le.mp hd _ (List.of_mem_zip hmem).2
      · cases hf
  | _ => cases hf

end Json

/-! ## Fields -/

/-- Some of the fields of the records in `σ`, whose values make up a `τ`. -/
structure JsonFields (σ τ : Type) where
  names : List String
  value : σ → τ
  members : σ → List (String × Json)
  read : (String → Option Json) → Option τ
  base : ℕ
  keys_members : ∀ s, ((members s).map Prod.fst).Sublist names
  read_members : ∀ {s f}, names.Nodup →
    (∀ name ∈ names, Option.Rel Json.Reordered ((Json.obj (members s)).get? name) (f name)) →
    read f = some (value s)
  distinctKeys_members : ∀ s, ∀ m ∈ members s, m.2.distinctKeys = true
  intsFit_members : ∀ s, ∀ m ∈ members s, m.2.intsFit = true
  depth_members : ∀ {s f d}, read f = some (value s) → base ≤ d →
    (∀ name a, f name = some a → a.depth ≤ d) → ∀ m ∈ members s, m.2.depth ≤ d

namespace JsonFields

/-- One field. It is left out where `skip` holds, and read as the default where it is missing. -/
def single (name : String) (get : σ → α) (c : JsonCodec α) (default : Option α)
    (skip : α → Bool) (hskip : ∀ a, skip a = true → default = some a) : JsonFields σ α where
  names := [name]
  value := get
  members s := if skip (get s) then [] else [(name, c.write (get s))]
  read f :=
    match f name with
    | some j => c.read j
    | none => default
  base := max c.base ((default.map fun a => (c.write a).depth).getD 0)
  keys_members s := by
    split
    · exact List.nil_sublist _
    · exact List.Sublist.refl _
  read_members := by
    intro s f _ hf
    have hname := hf name List.mem_cons_self
    split at hname
    · rename_i hskipped
      have hnone : f name = none := by
        cases hget : f name with
        | none => rfl
        | some a =>
            rw [hget] at hname
            cases hname
      simp only [hnone]
      exact hskip _ hskipped
    · have hwritten : (Json.obj [(name, c.write (get s))]).get? name
          = some (c.write (get s)) := by
        simp [Json.get?]
      rw [hwritten] at hname
      cases hget : f name with
      | none =>
          rw [hget] at hname
          cases hname
      | some j =>
          rw [hget] at hname
          cases hname with
          | some hj => exact c.read_write hj
  distinctKeys_members := by
    intro s m hm
    split at hm
    · cases hm
    · rw [List.mem_singleton.mp hm]
      exact c.distinctKeys_write _
  intsFit_members := by
    intro s m hm
    split at hm
    · cases hm
    · rw [List.mem_singleton.mp hm]
      exact c.intsFit_write _
  depth_members := by
    intro s f d hread hbase hf m hm
    split at hm
    · cases hm
    · rw [List.mem_singleton.mp hm]
      cases hget : f name with
      | none =>
          simp only [hget] at hread
          rw [hread] at hbase
          exact Nat.le_trans (Nat.le_max_right _ _) hbase
      | some j =>
          simp only [hget] at hread
          exact c.depth_write hread (Nat.le_trans (Nat.le_max_left _ _) hbase) (hf name j hget)

/-- A field that is always written and must be there. -/
def required (name : String) (get : σ → α) (c : JsonCodec α) : JsonFields σ α :=
  single name get c none (fun _ => false) (fun _ h => by cases h)

/-- A field that is always written and has a default. -/
def defaulted (name : String) (get : σ → α) (c : JsonCodec α) (default : α) : JsonFields σ α :=
  single name get c (some default) (fun _ => false) (fun _ h => by cases h)

/-- A text that is left out when it is empty. -/
def skipEmptyText (name : String) (get : σ → String) : JsonFields σ String :=
  single name get .string (some "") (fun s => s == "") (fun s h => by rw [eq_of_beq h])

/-- A list that is left out when it is empty. -/
def skipEmptyList (name : String) (get : σ → List α) (c : JsonCodec α) : JsonFields σ (List α) :=
  single name get c.list (some []) List.isEmpty (fun l h => by rw [List.isEmpty_iff.mp h])

/-- An option that is left out when there is none. -/
def skipNone (name : String) (get : σ → Option α) (c : JsonCodec α)
    (hnull : ∀ a, c.write a ≠ .null) : JsonFields σ (Option α) :=
  single name get (c.option hnull) (some none) Option.isNone
    (fun o h => by rw [Option.isNone_iff_eq_none.mp h])

/-- The fields of `F` and then those of `G`. -/
def and (F : JsonFields σ τ) (G : JsonFields σ υ) : JsonFields σ (τ × υ) where
  names := F.names ++ G.names
  value s := (F.value s, G.value s)
  members s := F.members s ++ G.members s
  read f := (F.read f).bind fun t => (G.read f).map fun u => (t, u)
  base := max F.base G.base
  keys_members s := by
    rw [List.map_append]
    exact (F.keys_members s).append (G.keys_members s)
  read_members := by
    intro s f hnodup hf
    obtain ⟨hF, hG, hdisjoint⟩ := List.nodup_append.mp hnodup
    have hread := F.read_members (s := s) (f := f) hF ?_
    have hread' := G.read_members (s := s) (f := f) hG ?_
    · rw [hread, hread', Option.bind_some, Option.map_some]
    · intro name hname
      have hmissing : name ∉ (F.members s).map Prod.fst := fun hmem =>
        hdisjoint name ((F.keys_members s).subset hmem) name hname rfl
      have hboth := hf name (List.mem_append_right _ hname)
      rwa [Json.get?_append, Json.get?_eq_none hmissing, Option.none_or] at hboth
    · intro name hname
      have hmissing : name ∉ (G.members s).map Prod.fst := fun hmem =>
        hdisjoint name hname name ((G.keys_members s).subset hmem) rfl
      have hboth := hf name (List.mem_append_left _ hname)
      rwa [Json.get?_append, Json.get?_eq_none hmissing, Option.or_none] at hboth
  distinctKeys_members := by
    intro s m hm
    rcases List.mem_append.mp hm with hm | hm
    · exact F.distinctKeys_members s m hm
    · exact G.distinctKeys_members s m hm
  intsFit_members := by
    intro s m hm
    rcases List.mem_append.mp hm with hm | hm
    · exact F.intsFit_members s m hm
    · exact G.intsFit_members s m hm
  depth_members := by
    intro s f d hread hbase hf m hm
    simp only [Option.bind_eq_some_iff, Option.map_eq_some_iff, Prod.mk.injEq] at hread
    obtain ⟨t, ht, u, hu, rfl, rfl⟩ := hread
    rcases List.mem_append.mp hm with hm | hm
    · exact F.depth_members ht (Nat.le_trans (Nat.le_max_left _ _) hbase) hf m hm
    · exact G.depth_members hu (Nat.le_trans (Nat.le_max_right _ _) hbase) hf m hm

end JsonFields

/-! ## Records -/

/-- All fields of a record, with distinct names. -/
structure JsonRecord (σ : Type) where
  Values : Type
  fields : JsonFields σ Values
  build : Values → σ
  build_value : ∀ s, build (fields.value s) = s
  value_build : ∀ v, fields.value (build v) = v
  nodup_names : fields.names.Nodup

namespace JsonRecord

/-- A record from its fields and the function that puts their values together. -/
def ofFields {Values : Type} (fields : JsonFields σ Values) (build : Values → σ)
    (build_value : ∀ s, build (fields.value s) = s)
    (value_build : ∀ v, fields.value (build v) = v) (nodup_names : fields.names.Nodup) :
    JsonRecord σ :=
  ⟨Values, fields, build, build_value, value_build, nodup_names⟩

variable (R : JsonRecord σ)

def names : List String := R.fields.names

def members (s : σ) : List (String × Json) := R.fields.members s

theorem keys_members (s : σ) : ((R.members s).map Prod.fst).Sublist R.names :=
  R.fields.keys_members s

theorem nodup_members (s : σ) : ((R.members s).map Prod.fst).Nodup :=
  R.nodup_names.sublist (R.keys_members s)

def codec : JsonCodec σ where
  write s := .obj (R.members s)
  read j := ((Json.fields? R.names j).bind R.fields.read).map R.build
  base := R.fields.base + 1
  read_write := by
    intro s j h
    have hwritten : (Json.obj (R.members s)).distinctKeys = true :=
      Json.distinctKeys_obj.mpr ⟨R.nodup_members s, R.fields.distinctKeys_members s⟩
    have hj := h.distinctKeys hwritten
    have hget := h.get? hwritten
    obtain ⟨members, -, rfl, -, -⟩ := Json.reordered_obj.mp h
    rw [Json.fields?_obj (Json.distinctKeys_obj.mp hj).1, Option.bind_some,
      R.fields.read_members R.nodup_names (fun name _ => hget name), Option.map_some,
      R.build_value]
  distinctKeys_write s :=
    Json.distinctKeys_obj.mpr ⟨R.nodup_members s, R.fields.distinctKeys_members s⟩
  intsFit_write s := Json.all_obj.mpr ⟨rfl, R.fields.intsFit_members s⟩
  depth_write := by
    intro j s d hread hbase hdepth
    obtain ⟨d, rfl⟩ : ∃ d', d = d' + 1 := ⟨d - 1, by omega⟩
    simp only [Option.map_eq_some_iff, Option.bind_eq_some_iff] at hread
    obtain ⟨v, ⟨f, hf, hv⟩, rfl⟩ := hread
    rw [← R.value_build v] at hv
    refine Json.depth_obj_le.mpr (R.fields.depth_members hv (by omega) ?_)
    exact fun name a ha => Json.depth_of_fields? hf ha hdepth

theorem codec_write_ne_null (s : σ) : R.codec.write s ≠ .null := by
  intro h
  cases h

end JsonRecord

/-! ## Tagged unions -/

namespace Json

/-- The tag of a variant and the value that holds its fields: a member with the given key and the
    other members, or the first element of an array and the others. -/
def tag? (key : String) : Json → Option (String × Json)
  | .obj members =>
      match members.filter (fun m => m.1 == key) with
      | [(_, .str tag)] => some (tag, .obj (members.filter (fun m => m.1 != key)))
      | _ => none
  | .arr (.str tag :: rest) => some (tag, .arr rest)
  | _ => none

theorem tag?_reordered {key tag : String} {members : List (String × Json)} {j : Json}
    (h : (Json.obj ((key, .str tag) :: members)).Reordered j)
    (hkey : key ∉ members.map Prod.fst) :
    ∃ rest, tag? key j = some (tag, rest) ∧ (Json.obj members).Reordered rest := by
  obtain ⟨members', matched, rfl, hmatch, hperm⟩ := reordered_obj.mp h
  obtain ⟨⟨key', value⟩, matched', ⟨hkey', hvalue⟩, hmatch', rfl⟩ :=
    List.forall₂_cons_left_iff.mp hmatch
  obtain rfl : key = key' := hkey'
  rw [Reordered] at hvalue
  obtain rfl : value = .str tag := hvalue
  have hother : ∀ m ∈ matched', (m.1 == key) = false := by
    intro m hm
    rw [map_fst_eq_of_forall₂ hmatch'] at hkey
    simp only [beq_eq_false_iff_ne]
    rintro rfl
    exact hkey (List.mem_map_of_mem hm)
  have htag := hperm.filter (fun m => m.1 == key)
  have hrest := hperm.filter (fun m => m.1 != key)
  rw [List.filter_cons_of_pos (by simp), List.filter_eq_nil_iff.mpr (by simpa using hother)]
    at htag
  rw [List.filter_cons_of_neg (by simp), List.filter_eq_self.mpr (by simpa [bne] using hother)]
    at hrest
  refine ⟨_, ?_, reordered_obj.mpr ⟨_, matched', rfl, hmatch', hrest⟩⟩
  rw [tag?, ← List.singleton_perm.mp htag]

theorem depth_of_tag? {key tag : String} {j rest : Json} (h : tag? key j = some (tag, rest)) :
    rest.depth ≤ j.depth := by
  cases j with
  | obj members =>
      simp only [tag?] at h
      split at h
      · obtain ⟨-, rfl⟩ := Prod.mk.inj (Option.some.inj h)
        have hmembers := depth_obj_le.mp (Nat.le_refl (depthMembers members + 1))
        exact depth_obj_le.mpr fun m hm => hmembers m (List.mem_of_mem_filter hm)
      · cases h
  | arr elems =>
      cases elems with
      | nil => cases h
      | cons a elems =>
          cases a with
          | str s =>
              obtain ⟨-, rfl⟩ := Prod.mk.inj (Option.some.inj h)
              have helems := depth_arr_le.mp (Nat.le_refl (depthElems (.str s :: elems) + 1))
              exact depth_arr_le.mpr fun a ha => helems a (List.mem_cons_of_mem _ ha)
          | _ => cases h
  | _ => cases h

end Json

/-- A variant of a tagged union. -/
structure JsonVariant (β : Type) where
  tag : String
  Body : Type
  record : JsonRecord Body
  wrap : Body → β

namespace JsonCodec

/-- The depth that the defaults of the variants need. -/
def maxBase (variants : List (JsonVariant β)) : ℕ :=
  variants.foldr (fun v d => max v.record.codec.base d) 0

theorem le_maxBase {variants : List (JsonVariant β)} {v : JsonVariant β} (h : v ∈ variants) :
    v.record.codec.base ≤ maxBase variants := by
  induction variants with
  | nil => cases h
  | cons w rest ih =>
      rcases List.mem_cons.mp h with rfl | h
      · exact Nat.le_max_left _ _
      · exact Nat.le_trans (ih h) (Nat.le_max_right _ _)

/-- A union whose variants are records that name their variant under a key of its own. -/
def tagged (key : String) (variants : List (JsonVariant β))
    (variantOf : β → (v : JsonVariant β) × v.Body)
    (hwrap : ∀ b, (variantOf b).1.wrap (variantOf b).2 = b)
    (hof : ∀ v ∈ variants, ∀ body, variantOf (v.wrap body) = ⟨v, body⟩)
    (hfind : ∀ b, variants.find? (fun v => v.tag == (variantOf b).1.tag) = some (variantOf b).1)
    (hkey : ∀ b, key ∉ (variantOf b).1.record.names) : JsonCodec β where
  write b := .obj ((key, .str (variantOf b).1.tag) :: (variantOf b).1.record.members (variantOf b).2)
  read j := (Json.tag? key j).bind fun t =>
    (variants.find? (fun v => v.tag == t.1)).bind fun v => (v.record.codec.read t.2).map v.wrap
  base := maxBase variants
  read_write := by
    intro b j h
    have hmissing : key ∉ ((variantOf b).1.record.members (variantOf b).2).map Prod.fst :=
      fun hmem => hkey b (((variantOf b).1.record.keys_members _).subset hmem)
    obtain ⟨rest, htag, hrest⟩ := Json.tag?_reordered h hmissing
    rw [htag, Option.bind_some, hfind, Option.bind_some,
      (variantOf b).1.record.codec.read_write hrest, Option.map_some, hwrap]
  distinctKeys_write := by
    intro b
    obtain ⟨hnodup, hmembers⟩ := Json.distinctKeys_obj.mp
      ((variantOf b).1.record.codec.distinctKeys_write (variantOf b).2)
    have hmissing : key ∉ ((variantOf b).1.record.members (variantOf b).2).map Prod.fst :=
      fun hmem => hkey b (((variantOf b).1.record.keys_members _).subset hmem)
    exact Json.distinctKeys_obj.mpr
      ⟨List.nodup_cons.mpr ⟨hmissing, hnodup⟩, List.forall_mem_cons.mpr ⟨rfl, hmembers⟩⟩
  intsFit_write := by
    intro b
    have hbody := (variantOf b).1.record.codec.intsFit_write (variantOf b).2
    exact Json.all_obj.mpr ⟨rfl, List.forall_mem_cons.mpr ⟨rfl, (Json.all_obj.mp hbody).2⟩⟩
  depth_write := by
    intro j b d hread hbase hdepth
    simp only [Option.bind_eq_some_iff, Option.map_eq_some_iff] at hread
    obtain ⟨⟨tag, rest⟩, htag, v, hv, body, hbody, rfl⟩ := hread
    have hmem := List.mem_of_find?_eq_some hv
    rw [hof v hmem]
    have hdepthBody := v.record.codec.depth_write hbody
      (Nat.le_trans (le_maxBase hmem) hbase) (Nat.le_trans (Json.depth_of_tag? htag) hdepth)
    have hpos : 1 ≤ d :=
      Nat.le_trans (Nat.le_add_left 1 _) (Nat.le_trans (le_maxBase hmem) hbase)
    obtain ⟨d, rfl⟩ : ∃ d', d = d' + 1 := ⟨d - 1, by omega⟩
    exact Json.depth_obj_le.mpr
      (List.forall_mem_cons.mpr ⟨Nat.zero_le d, Json.depth_obj_le.mp hdepthBody⟩)

end JsonCodec

/-! ## Free-form values and maps of texts -/

/-- A value of a sorted map type with 64-bit integers. -/
structure JsonValue where
  json : Json
  sorted : json.isSorted = true
  fits : json.intsFit = true

namespace JsonValue

/-- Collect a value into sorted maps; of equal keys in an object, the last one stays. -/
def ofJson? (j : Json) : Option JsonValue :=
  if h : j.sorted.intsFit = true then some ⟨j.sorted, j.isSorted_sorted, h⟩ else none

def null : JsonValue := ⟨.null, rfl, rfl⟩

theorem ofJson?_reordered {v : JsonValue} {j : Json} (h : v.json.Reordered j) :
    ofJson? j = some v := by
  obtain ⟨json, hsorted, hfits⟩ := v
  have heq : j.sorted = json := by
    rw [← h.sorted_eq (Json.distinctKeys_of_isSorted hsorted), Json.sorted_of_isSorted hsorted]
  subst heq
  rw [ofJson?, dif_pos hfits]

theorem depth_of_ofJson? {j : Json} {v : JsonValue} (h : ofJson? j = some v) :
    v.json.depth ≤ j.depth := by
  rw [ofJson?] at h
  split at h
  · rw [← Option.some.inj h]
    exact j.depth_sorted_le
  · cases h

def codec : JsonCodec JsonValue where
  write v := v.json
  read := ofJson?
  base := 0
  read_write := ofJson?_reordered
  distinctKeys_write v := Json.distinctKeys_of_isSorted v.sorted
  intsFit_write v := v.fits
  depth_write hread _ hdepth := Nat.le_trans (depth_of_ofJson? hread) hdepth

end JsonValue

/-- A map from texts to texts, in the byte order of its keys. -/
structure StringMap where
  entries : List (String × String)
  sorted : entries.Pairwise (fun m n => compare (utf8 m.1) (utf8 n.1) = .lt)

namespace StringMap

def empty : StringMap := ⟨[], .nil⟩

def toMember (entry : String × String) : String × Json := (entry.1, .str entry.2)

def ofMember? (m : String × Json) : Option (String × String) := m.2.asStr?.map fun s => (m.1, s)

def ofMembers (members : List (String × Json)) : StringMap where
  entries := (Json.sortMembers members).filterMap ofMember?
  sorted := by
    refine (Json.sortMembers_pairwise members).filterMap _ ?_
    intro m n hmn entry hentry entry' hentry'
    obtain ⟨s, -, rfl⟩ := Option.map_eq_some_iff.mp hentry
    obtain ⟨s', -, rfl⟩ := Option.map_eq_some_iff.mp hentry'
    exact hmn

def ofJson? : Json → Option StringMap
  | .obj members =>
      if members.all (fun m => m.2.asStr?.isSome) then some (ofMembers members) else none
  | _ => none

/-- The values of a map of texts have no order of keys inside them. -/
theorem eq_of_reordered {entries : List (String × String)} {matched : List (String × Json)}
    (h : List.Forall₂ Json.MemberReordered (entries.map toMember) matched) :
    matched = entries.map toMember := by
  induction entries generalizing matched with
  | nil => exact List.forall₂_nil_left_iff.mp h
  | cons entry entries ih =>
      obtain ⟨⟨k, a⟩, rest, ⟨hk, ha⟩, hrest, rfl⟩ := List.forall₂_cons_left_iff.mp h
      rw [toMember, Json.Reordered] at ha
      have hentry : (k, a) = toMember entry := Prod.ext hk.symm ha
      rw [hentry, ih hrest, List.map_cons]

theorem ofJson?_reordered {map : StringMap} {j : Json}
    (h : (Json.obj (map.entries.map toMember)).Reordered j) : ofJson? j = some map := by
  obtain ⟨members, matched, rfl, hmatch, hperm⟩ := Json.reordered_obj.mp h
  rw [eq_of_reordered hmatch] at hperm
  have hordered : (map.entries.map toMember).Pairwise Json.KeyLt :=
    List.pairwise_map.mpr map.sorted
  have hkeys := ((hperm.map Prod.fst).nodup_iff).mp (Json.nodup_of_pairwise_keyLt hordered)
  have hsort : Json.sortMembers members = map.entries.map toMember :=
    Json.eq_of_perm_of_pairwise_keyLt (Json.sortMembers_pairwise _) hordered
      ((Json.sortMembers_perm hkeys).trans hperm.symm)
  have htexts : members.all (fun m => m.2.asStr?.isSome) = true := by
    rw [← hperm.all_eq, List.all_map, List.all_eq_true]
    exact fun _ _ => rfl
  have hentries : (ofMembers members).entries = map.entries := by
    show (Json.sortMembers members).filterMap ofMember? = map.entries
    rw [hsort, List.filterMap_map]
    exact List.filterMap_some
  rw [ofJson?, if_pos htexts]
  obtain ⟨entries, hsorted⟩ := map
  obtain rfl : (ofMembers members).entries = entries := hentries
  rfl

def codec : JsonCodec StringMap where
  write map := .obj (map.entries.map toMember)
  read := ofJson?
  base := 1
  read_write := ofJson?_reordered
  distinctKeys_write map :=
    Json.distinctKeys_obj.mpr ⟨Json.nodup_of_pairwise_keyLt (List.pairwise_map.mpr map.sorted),
      List.forall_mem_map.mpr fun _ _ => rfl⟩
  intsFit_write _ := Json.all_obj.mpr ⟨rfl, List.forall_mem_map.mpr fun _ _ => rfl⟩
  depth_write _ hbase _ := by
    refine Nat.le_trans (Json.depth_obj_le.mpr ?_) hbase
    exact List.forall_mem_map.mpr fun _ _ => Nat.le_refl 0

end StringMap
