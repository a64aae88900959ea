import SerenSecrets.Lib.Text

set_option autoImplicit false

/-! # UUIDs and their text

A UUID is 16 bytes. Its text is the lowercase hyphenated form `8-4-4-4-12`; reading also takes
uppercase digits, the form without hyphens, braces and the URN form. Reading the written text gives
the UUID back (`Uuid.parseStr_toText`), so the text is injective, and it has no newline in it. -/

/-! ## Hexadecimal text -/

/-- The lowercase digit of a value below 16. -/
def hexChar (n : ℕ) : Char := if n < 10 then Char.ofNat (48 + n) else Char.ofNat (87 + n)

/-- The value of a hexadecimal digit of either case. -/
def hexVal? (c : Char) : Option ℕ :=
  if '0' ≤ c ∧ c ≤ '9' then some (c.toNat - 48)
  else if 'a' ≤ c ∧ c ≤ 'f' then some (c.toNat - 87)
  else if 'A' ≤ c ∧ c ≤ 'F' then some (c.toNat - 55)
  else none

def hexChars (bytes : Bytes) : List Char :=
  bytes.flatMap (fun b => [hexChar (b.toNat / 16), hexChar (b.toNat % 16)])

def decodeHex : List Char → Option Bytes
  | [] => some []
  | [_] => none
  | hi :: lo :: rest => do
      let h ← hexVal? hi
      let l ← hexVal? lo
      let bytes ← decodeHex rest
      return UInt8.ofNat (h * 16 + l) :: bytes

theorem hexVal?_hexChar : ∀ n < 16, hexVal? (hexChar n) = some n := by decide

@[simp] theorem length_hexChars (bytes : Bytes) : (hexChars bytes).length = 2 * bytes.length := by
  induction bytes with
  | nil => rfl
  | cons b bytes ih =>
      rw [hexChars, List.flatMap_cons, ← hexChars, List.length_append, ih]
      simp only [List.length_cons, List.length_nil]
      omega

theorem hexChars_append (a b : Bytes) : hexChars (a ++ b) = hexChars a ++ hexChars b :=
  List.flatMap_append

theorem exists_of_mem_hexChars {c : Char} {bytes : Bytes} (h : c ∈ hexChars bytes) :
    ∃ n < 16, c = hexChar n := by
  obtain ⟨b, -, hb⟩ := List.mem_flatMap.mp h
  simp only [List.mem_cons, List.not_mem_nil, or_false] at hb
  rcases hb with hb | hb
  · exact ⟨b.toNat / 16, by have := b.toNat_lt; omega, hb⟩
  · exact ⟨b.toNat % 16, Nat.mod_lt _ (by decide), hb⟩

theorem newline_notMem_hexChars (bytes : Bytes) : '\n' ∉ hexChars bytes := by
  have hdigit : ∀ n < 16, '\n' ≠ hexChar n := by decide
  intro h
  obtain ⟨n, hn, heq⟩ := exists_of_mem_hexChars h
  exact hdigit n hn heq

theorem hexVal?_of_not_ascii {c : Char} (h : 128 ≤ c.toNat) : hexVal? c = none := by
  have hgt : ∀ d : Char, d.toNat < 128 → ¬ c ≤ d := by
    intro d hd hle
    have : c.toNat ≤ d.toNat := UInt32.le_iff_toNat_le.mp hle
    omega
  unfold hexVal?
  rw [if_neg (fun hc => hgt '9' (by decide) hc.2), if_neg (fun hc => hgt 'f' (by decide) hc.2),
    if_neg (fun hc => hgt 'F' (by decide) hc.2)]

theorem lt_of_hexVal? {c : Char} {n : ℕ} (h : hexVal? c = some n) : n < 16 := by
  refine forall_char_of_ascii ?_ ?_ c n h
  · show ∀ k < 128, ∀ n ∈ hexVal? (Char.ofNat k), n < 16
    decide +kernel
  · intro c hc n h
    rw [hexVal?_of_not_ascii hc] at h
    exact absurd h (by simp)

/-- The digits of a value are its lowercase digit in either case. -/
theorem hexVal?_eq_some {c : Char} {n : ℕ} :
    hexVal? c = some n ↔ n < 16 ∧ c.toLower = hexChar n := by
  have hdigit : ∀ n < 16, hexVal? c = some n ↔ c.toLower = hexChar n := by
    refine forall_char_of_ascii ?_ ?_ c
    · decide +kernel
    · intro c hc n hn
      have hsmall : ∀ n < 16, (hexChar n).toNat < 128 := by decide
      rw [hexVal?_of_not_ascii hc, toLower_of_not_ascii hc]
      constructor
      · intro h
        exact absurd h (by simp)
      · rintro rfl
        exact absurd (hsmall n hn) (Nat.not_lt_of_le hc)
  constructor
  · intro h
    have hn := lt_of_hexVal? h
    exact ⟨hn, (hdigit n hn).mp h⟩
  · rintro ⟨hn, h⟩
    exact (hdigit n hn).mpr h

theorem toLower_eq_hyphen {c : Char} : c.toLower = '-' ↔ c = '-' := by
  refine forall_char_of_ascii ?_ ?_ c
  · decide +kernel
  · intro c hc
    rw [toLower_of_not_ascii hc]

/-- **Hexadecimal text**: what decodes to some bytes is their lowercase text in either case. -/
theorem decodeHex_eq_some {cs : List Char} {bytes : Bytes} :
    decodeHex cs = some bytes ↔ cs.map Char.toLower = hexChars bytes := by
  induction cs using decodeHex.induct generalizing bytes with
  | case1 =>
      cases bytes with
      | nil => simp [decodeHex, hexChars]
      | cons b bytes => simp [decodeHex, hexChars]
  | case2 c =>
      cases bytes with
      | nil => simp [decodeHex, hexChars]
      | cons b bytes => simp [decodeHex, hexChars]
  | case3 hi lo rest ih =>
      cases bytes with
      | nil => simp [decodeHex, hexChars, Option.bind_eq_some_iff]
      | cons b bytes =>
          have hb : b.toNat / 16 < 16 := by have := b.toNat_lt; omega
          rw [hexChars, List.flatMap_cons, ← hexChars]
          simp only [decodeHex, Option.bind_eq_bind, Option.bind_eq_some_iff, Option.pure_def,
            Option.some.injEq, List.cons.injEq, List.map_cons, List.cons_append, List.nil_append,
            ih, hexVal?_eq_some]
          constructor
          · rintro ⟨h, ⟨hh, hhi⟩, l, ⟨hl, hlo⟩, rest', hrest, rfl, rfl⟩
            have hval : (UInt8.ofNat (h * 16 + l)).toNat = h * 16 + l := by
              rw [UInt8.toNat_ofNat']
              omega
            rw [hval, show (h * 16 + l) / 16 = h by omega, show (h * 16 + l) % 16 = l by omega]
            exact ⟨hhi, hlo, hrest⟩
          · rintro ⟨hhi, hlo, hrest⟩
            refine ⟨_, ⟨hb, hhi⟩, _, ⟨Nat.mod_lt _ (by decide), hlo⟩, bytes, hrest, ?_, rfl⟩
            rw [show b.toNat / 16 * 16 + b.toNat % 16 = b.toNat by omega, UInt8.ofNat_toNat]

theorem decodeHex_hexChars (bytes : Bytes) : decodeHex (hexChars bytes) = some bytes := by
  rw [decodeHex_eq_some]
  refine (List.map_congr_left ?_).trans (List.map_id _)
  intro c hc
  obtain ⟨n, hn, rfl⟩ := exists_of_mem_hexChars hc
  exact (hexVal?_eq_some.mp (hexVal?_hexChar n hn)).2

theorem length_of_decodeHex {cs : List Char} {bytes : Bytes} (h : decodeHex cs = some bytes) :
    cs.length = 2 * bytes.length := by
  rw [← length_hexChars, ← decodeHex_eq_some.mp h, List.length_map]


theorem isSome_hexVal?_of_decodeHex {cs : List Char} {bytes : Bytes}
    (h : decodeHex cs = some bytes) : ∀ c ∈ cs, (hexVal? c).isSome = true := by
  intro c hc
  have hmem : c.toLower ∈ hexChars bytes := by
    rw [← decodeHex_eq_some.mp h]
    exact List.mem_map_of_mem hc
  obtain ⟨n, hn, hlower⟩ := exists_of_mem_hexChars hmem
  rw [hexVal?_eq_some.mpr ⟨hn, hlower⟩, Option.isSome_some]

/-! ## UUIDs -/

abbrev Uuid := FixedBytes 16

namespace Uuid

/-- The `n` bytes of the UUID from position `i` on. -/
def slice (u : Uuid) (i n : ℕ) : Bytes := (u.toBytes.drop i).take n

/-- The characters of the hyphenated lowercase text. -/
def textChars (u : Uuid) : List Char :=
  hexChars (u.slice 0 4) ++ '-' :: (hexChars (u.slice 4 2) ++ '-' :: (hexChars (u.slice 6 2)
    ++ '-' :: (hexChars (u.slice 8 2) ++ '-' :: hexChars (u.slice 10 6))))

/-- The hyphenated lowercase text. -/
def toText (u : Uuid) : String := String.ofList u.textChars

/-- The first `n` characters and what follows the hyphen after them. -/
def takeGroup (n : ℕ) (cs : List Char) : Option (List Char × List Char) :=
  if cs[n]? = some '-' then some (cs.take n, cs.drop (n + 1)) else none

def parseHyphenated (cs : List Char) : Option Uuid := do
  let (g0, rest) ← takeGroup 8 cs
  let (g1, rest) ← takeGroup 4 rest
  let (g2, rest) ← takeGroup 4 rest
  let (g3, g4) ← takeGroup 4 rest
  let bytes ← decodeHex (g0 ++ (g1 ++ (g2 ++ (g3 ++ g4))))
  FixedBytes.ofBytes? 16 bytes

/-- Read a UUID in one of its four forms, told apart by their length. All characters of an
    accepted text are ASCII, so that counting characters is counting bytes. -/
def parseStr (s : String) : Option Uuid :=
  let cs := s.toList
  if cs.length = 32 then (decodeHex cs).bind (FixedBytes.ofBytes? 16)
  else if cs.length = 36 then parseHyphenated cs
  else if cs.length = 38 ∧ cs.head? = some '{' ∧ cs.getLast? = some '}' then
    parseHyphenated (cs.drop 1).dropLast
  else if cs.length = 45 ∧ cs.take 9 = "urn:uuid:".toList then parseHyphenated (cs.drop 9)
  else none

theorem length_slice (u : Uuid) {i n : ℕ} (h : i + n ≤ 16) : (u.slice i n).length = n := by
  simp only [slice, List.length_take, List.length_drop, FixedBytes.length_toBytes]
  omega

/-- The five groups of the text cover the 16 bytes. -/
theorem slices_append (u : Uuid) :
    u.slice 0 4 ++ (u.slice 4 2 ++ (u.slice 6 2 ++ (u.slice 8 2 ++ u.slice 10 6))) = u.toBytes := by
  have hlast : u.slice 10 6 = u.toBytes.drop 10 :=
    List.take_of_length_le (by simp)
  have hstep : ∀ i n, u.slice i n ++ u.toBytes.drop (i + n) = u.toBytes.drop i := by
    intro i n
    rw [slice, ← List.drop_drop, List.take_append_drop]
  rw [hlast, hstep 8 2, hstep 6 2, hstep 4 2, hstep 0 4, List.drop_zero]

theorem takeGroup_append {g rest : List Char} {n : ℕ} (h : g.length = n) :
    takeGroup n (g ++ '-' :: rest) = some (g, rest) := by
  subst h
  simp [takeGroup]

theorem parseHyphenated_textChars (u : Uuid) : parseHyphenated u.textChars = some u := by
  have hlen : ∀ i n, i + n ≤ 16 → (hexChars (u.slice i n)).length = 2 * n := by
    intro i n h
    rw [length_hexChars, u.length_slice h]
  have hdigits := decodeHex_hexChars u.toBytes
  rw [← u.slices_append] at hdigits
  simp only [hexChars_append] at hdigits
  simp only [parseHyphenated, textChars, takeGroup_append (hlen 0 4 (by decide)),
    takeGroup_append (hlen 4 2 (by decide)), takeGroup_append (hlen 6 2 (by decide)),
    takeGroup_append (hlen 8 2 (by decide)), Option.bind_eq_bind, Option.bind_some, hdigits,
    slices_append, FixedBytes.ofBytes?_toBytes]

/-! ## The hyphenated form -/

theorem takeGroup_eq_some {n : ℕ} {cs g rest : List Char} :
    takeGroup n cs = some (g, rest) ↔ g.length = n ∧ cs = g ++ '-' :: rest := by
  constructor
  · intro h
    rw [takeGroup, Option.ite_none_right_eq_some, Option.some.injEq, Prod.mk.injEq] at h
    obtain ⟨hsep, rfl, rfl⟩ := h
    obtain ⟨hlt, hget⟩ := List.getElem?_eq_some_iff.mp hsep
    refine ⟨List.length_take_of_le (Nat.le_of_lt hlt), ?_⟩
    rw [← hget, ← List.drop_eq_getElem_cons hlt, List.take_append_drop]
  · rintro ⟨hlen, rfl⟩
    exact takeGroup_append hlen

/-- A hyphenated text of the UUID: groups of 8, 4, 4, 4 and 12 hexadecimal digits of either case. -/
def IsHyphenated (cs : List Char) (u : Uuid) : Prop :=
  ∃ g0 g1 g2 g3 g4 : List Char,
    cs = g0 ++ '-' :: (g1 ++ '-' :: (g2 ++ '-' :: (g3 ++ '-' :: g4))) ∧
    g0.length = 8 ∧ g1.length = 4 ∧ g2.length = 4 ∧ g3.length = 4 ∧ g4.length = 12 ∧
    decodeHex (g0 ++ (g1 ++ (g2 ++ (g3 ++ g4)))) = some u.toBytes

theorem parseHyphenated_eq_some {cs : List Char} {u : Uuid} :
    parseHyphenated cs = some u ↔ IsHyphenated cs u := by
  simp only [parseHyphenated, Option.bind_eq_bind, Option.bind_eq_some_iff, Prod.exists,
    takeGroup_eq_some, FixedBytes.ofBytes?_eq_some]
  constructor
  · rintro ⟨g0, _, ⟨h0, rfl⟩, g1, _, ⟨h1, rfl⟩, g2, _, ⟨h2, rfl⟩, g3, g4, ⟨h3, rfl⟩, _, hdigits,
      rfl⟩
    refine ⟨g0, g1, g2, g3, g4, rfl, h0, h1, h2, h3, ?_, hdigits⟩
    have hlen := length_of_decodeHex hdigits
    simp only [List.length_append, FixedBytes.length_toBytes] at hlen
    omega
  · rintro ⟨g0, g1, g2, g3, g4, rfl, h0, h1, h2, h3, -, hdigits⟩
    exact ⟨g0, _, ⟨h0, rfl⟩, g1, _, ⟨h1, rfl⟩, g2, _, ⟨h2, rfl⟩, g3, g4, ⟨h3, rfl⟩, _, hdigits, rfl⟩

/-- The hyphenated texts of a UUID are its text up to letter case. -/
theorem isHyphenated_iff {cs : List Char} {u : Uuid} :
    IsHyphenated cs u ↔ cs.map Char.toLower = u.textChars := by
  have hlen : ∀ i n, i + n ≤ 16 → (hexChars (u.slice i n)).length = 2 * n := by
    intro i n h
    rw [length_hexChars, u.length_slice h]
  constructor
  · rintro ⟨g0, g1, g2, g3, g4, rfl, h0, h1, h2, h3, h4, hdigits⟩
    rw [decodeHex_eq_some, ← u.slices_append] at hdigits
    simp only [List.map_append, hexChars_append] at hdigits
    obtain ⟨e0, hdigits⟩ := List.append_inj hdigits (by simp [h0, hlen 0 4 (by decide)])
    obtain ⟨e1, hdigits⟩ := List.append_inj hdigits (by simp [h1, hlen 4 2 (by decide)])
    obtain ⟨e2, hdigits⟩ := List.append_inj hdigits (by simp [h2, hlen 6 2 (by decide)])
    obtain ⟨e3, e4⟩ := List.append_inj hdigits (by simp [h3, hlen 8 2 (by decide)])
    have hhyphen : Char.toLower '-' = '-' := by decide
    simp only [List.map_append, List.map_cons, hhyphen, e0, e1, e2, e3, e4, textChars]
  · intro h
    have hgroup : ∀ {cs g rest : List Char}, cs.map Char.toLower = g ++ '-' :: rest →
        ∃ g' rest', cs = g' ++ '-' :: rest' ∧ g'.map Char.toLower = g ∧
          rest'.map Char.toLower = rest := by
      intro cs g rest h
      obtain ⟨g', tail, rfl, hg, htail⟩ := List.map_eq_append_iff.mp h
      obtain ⟨c, rest', rfl, hc, hrest⟩ := List.map_eq_cons_iff.mp htail
      rw [toLower_eq_hyphen] at hc
      exact ⟨g', rest', by rw [hc], hg, hrest⟩
    obtain ⟨g0, _, rfl, e0, h⟩ := hgroup h
    obtain ⟨g1, _, rfl, e1, h⟩ := hgroup h
    obtain ⟨g2, _, rfl, e2, h⟩ := hgroup h
    obtain ⟨g3, g4, rfl, e3, e4⟩ := hgroup h
    have hlen' : ∀ {g : List Char} {i n : ℕ}, g.map Char.toLower = hexChars (u.slice i n) →
        i + n ≤ 16 → g.length = 2 * n := by
      intro g i n hg hin
      rw [← hlen i n hin, ← hg, List.length_map]
    refine ⟨g0, g1, g2, g3, g4, rfl, hlen' e0 (by decide), hlen' e1 (by decide),
      hlen' e2 (by decide), hlen' e3 (by decide), hlen' e4 (by decide), ?_⟩
    rw [decodeHex_eq_some, ← u.slices_append]
    simp only [List.map_append, hexChars_append, e0, e1, e2, e3, e4]

theorem map_toLower_textChars (u : Uuid) : u.textChars.map Char.toLower = u.textChars :=
  isHyphenated_iff.mp (parseHyphenated_eq_some.mp u.parseHyphenated_textChars)

theorem length_textChars (u : Uuid) : u.textChars.length = 36 := by
  simp [textChars, length_slice]

theorem IsHyphenated.hyphen_or_digit {cs : List Char} {u : Uuid} (h : IsHyphenated cs u) :
    ∀ c ∈ cs, c = '-' ∨ (hexVal? c).isSome = true := by
  obtain ⟨g0, g1, g2, g3, g4, rfl, -, -, -, -, -, hdigits⟩ := h
  intro c hc
  have hdigit := isSome_hexVal?_of_decodeHex hdigits c
  simp only [List.mem_append, List.mem_cons] at hc hdigit
  tauto

theorem IsHyphenated.length_eq {cs : List Char} {u : Uuid} (h : IsHyphenated cs u) :
    cs.length = 36 := by
  rw [← u.length_textChars, ← isHyphenated_iff.mp h, List.length_map]

theorem IsHyphenated.parseStr_eq {s : String} {u : Uuid} (h : IsHyphenated s.toList u) :
    parseStr s = some u := by
  rw [parseStr, h.length_eq]
  exact parseHyphenated_eq_some.mpr h

/-! ## Variants -/

inductive Variant where
  | ncs
  | rfc4122
  | microsoft
  | future
  deriving DecidableEq

/-- The layout a UUID announces in the high bits of its ninth byte. -/
def getVariant (u : Uuid) : Variant :=
  let x := u.toBytes.getD 8 0
  if x &&& 0x80 = 0x00 then .ncs
  else if x &&& 0xC0 = 0x80 then .rfc4122
  else if x &&& 0xE0 = 0xC0 then .microsoft
  else .future

/-! ## Writing and reading back -/

theorem parseStr_toText (u : Uuid) : parseStr u.toText = some u := by
  simp [parseStr, toText, length_textChars, parseHyphenated_textChars]

theorem toText_injective : Function.Injective toText := by
  intro u v h
  have hparse := congrArg parseStr h
  rw [parseStr_toText, parseStr_toText] at hparse
  exact Option.some.inj hparse

@[simp] theorem toText_inj {u v : Uuid} : u.toText = v.toText ↔ u = v :=
  toText_injective.eq_iff

theorem newline_notMem_toText (u : Uuid) : '\n' ∉ u.toText.toList := by
  simp [toText, textChars, newline_notMem_hexChars]

end Uuid
