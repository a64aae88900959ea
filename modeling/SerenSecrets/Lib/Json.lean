import SerenSecrets.Lib.Bytes
import Mathlib.Data.Int.Notation
import Mathlib.Tactic.SplitIfs

set_option autoImplicit false

/-! # JSON values and their compact text

`Json` is a JSON value whose objects list their members in writing order. `Json.write` prints it
without whitespace: strings with the minimal escapes, integers in decimal, members and elements
separated by commas.

The printed text determines the value (`Json.write_injective`). A number is not self-delimiting on
its own (`1` starts `12`), so the induction carries a `Delimited` remainder: whatever follows a
value in a longer text is empty or starts with `,`, `]` or `}`. -/

/-! ## Values -/

/-- A byte that can occur in the text of a number. -/
def isNumberByte (b : UInt8) : Bool :=
  (48 ≤ b && b ≤ 57) || b == 45 || b == 46 || b == 101 || b == 43

/-- A finite float, given by the decimal text it is printed as. The text has a point or an
    exponent, so that it is never the text of an integer. -/
structure FloatText where
  text : Bytes
  shape : text ≠ [] ∧ (∀ b ∈ text, isNumberByte b = true) ∧ (46 ∈ text ∨ 101 ∈ text)
  deriving DecidableEq

inductive Number where
  | int (i : ℤ)
  | float (f : FloatText)
  deriving DecidableEq

inductive Json where
  | null
  | bool (b : Bool)
  | num (n : Number)
  | str (s : String)
  | arr (elems : List Json)
  | obj (members : List (String × Json))

/-! ## Writing -/

/-- A lowercase hexadecimal digit. -/
def hexDigit (n : ℕ) : UInt8 := if n < 10 then UInt8.ofNat (48 + n) else UInt8.ofNat (87 + n)

/-- The text of one byte inside a string: quote, backslash and control characters are escaped. -/
def escapeByte (b : UInt8) : Bytes :=
  if b = 0x22 then [0x5C, 0x22]
  else if b = 0x5C then [0x5C, 0x5C]
  else if b = 0x08 then [0x5C, 0x62]
  else if b = 0x09 then [0x5C, 0x74]
  else if b = 0x0A then [0x5C, 0x6E]
  else if b = 0x0C then [0x5C, 0x66]
  else if b = 0x0D then [0x5C, 0x72]
  else if b < 0x20 then
    [0x5C, 0x75, 0x30, 0x30, hexDigit (b.toNat / 16), hexDigit (b.toNat % 16)]
  else [b]

/-- The quoted text of a string. -/
def writeString (s : String) : Bytes := 0x22 :: ((utf8 s).flatMap escapeByte ++ [0x22])

def Number.write : Number → Bytes
  | .int i => utf8 i.repr
  | .float f => f.text

mutual

/-- The compact text of a value. -/
def Json.write : Json → Bytes
  | .null => utf8 "null"
  | .bool true => utf8 "true"
  | .bool false => utf8 "false"
  | .num n => n.write
  | .str s => writeString s
  | .arr elems => 0x5B :: Json.writeElems true elems
  | .obj members => 0x7B :: Json.writeMembers true members

/-- The elements of an array with its closing bracket; all but the first follow a comma. -/
def Json.writeElems (first : Bool) : List Json → Bytes
  | [] => [0x5D]
  | a :: rest => (if first then [] else [0x2C]) ++ (a.write ++ Json.writeElems false rest)

/-- The members of an object with its closing brace; all but the first follow a comma. -/
def Json.writeMembers (first : Bool) : List (String × Json) → Bytes
  | [] => [0x7D]
  | (k, v) :: rest =>
      (if first then [] else [0x2C])
        ++ (writeString k ++ 0x3A :: (v.write ++ Json.writeMembers false rest))

end

example : (Json.obj [("a\"", .arr [.num (.int (-12)), .null]), ("b", .bool true)]).write
    = utf8 "\x7b\"a\\\"\":[-12,null],\"b\":true\x7d" := by decide

/-! ## Strings are self-delimiting -/

/-- Read back one escaped byte. -/
def unescapeByte : Bytes → Option (UInt8 × Bytes)
  | [] => none
  | b :: rest =>
      if b = 0x5C then
        match rest with
        | 0x75 :: _ :: _ :: hi :: lo :: rest =>
            some (UInt8.ofNat (hexValue hi * 16 + hexValue lo), rest)
        | c :: rest =>
            some (if c = 0x62 then 0x08 else if c = 0x74 then 0x09 else if c = 0x6E then 0x0A
              else if c = 0x66 then 0x0C else if c = 0x72 then 0x0D else c, rest)
        | [] => none
      else some (b, rest)
where
  hexValue (b : UInt8) : ℕ := if b < 0x3A then b.toNat - 48 else b.toNat - 87

theorem unescapeByte_escapeByte (b : UInt8) (x : Bytes) :
    unescapeByte (escapeByte b ++ x) = some (b, x) := by
  have hctrl : ∀ n : ℕ, n < 32 →
      UInt8.ofNat (unescapeByte.hexValue (hexDigit (n / 16)) * 16
        + unescapeByte.hexValue (hexDigit (n % 16))) = UInt8.ofNat n := by
    decide
  unfold escapeByte
  split_ifs with h1 h2 h3 h4 h5 h6 h7 h8
  all_goals try (subst b; rfl)
  · simpa [unescapeByte] using hctrl b.toNat h8
  · simp [unescapeByte, h2]

theorem escapeByte_selfDelimiting : SelfDelimiting escapeByte := by
  intro a b x y h
  have hread := congrArg unescapeByte h
  rw [unescapeByte_escapeByte, unescapeByte_escapeByte] at hread
  simpa using hread

/-- No escaped byte starts with a quote. -/
theorem escapeByte_append_ne_quote (b : UInt8) (x y : Bytes) :
    escapeByte b ++ x ≠ 0x22 :: y := by
  intro h
  have hread := congrArg unescapeByte h
  rw [unescapeByte_escapeByte] at hread
  simp only [unescapeByte, show (0x22 : UInt8) ≠ 0x5C by decide, if_false, Option.some.injEq,
    Prod.mk.injEq] at hread
  obtain ⟨rfl, rfl⟩ := hread
  simp [escapeByte] at h

theorem flatMap_escapeByte_inj (l m : Bytes) (x y : Bytes)
    (h : l.flatMap escapeByte ++ 0x22 :: x = m.flatMap escapeByte ++ 0x22 :: y) :
    l = m ∧ x = y := by
  induction l generalizing m with
  | nil =>
      cases m with
      | nil => simpa using h
      | cons c m =>
          simp only [List.flatMap_nil, List.nil_append, List.flatMap_cons, List.append_assoc] at h
          exact absurd h.symm (escapeByte_append_ne_quote c _ _)
  | cons b l ih =>
      cases m with
      | nil =>
          simp only [List.flatMap_nil, List.nil_append, List.flatMap_cons, List.append_assoc] at h
          exact absurd h (escapeByte_append_ne_quote b _ _)
      | cons c m =>
          simp only [List.flatMap_cons, List.append_assoc] at h
          obtain ⟨hbc, hrest⟩ := escapeByte_selfDelimiting.split h
          obtain ⟨hlm, hxy⟩ := ih m hrest
          exact ⟨by rw [hbc, hlm], hxy⟩

theorem writeString_selfDelimiting : SelfDelimiting writeString := by
  intro a b x y h
  simp only [writeString, List.cons_append, List.append_assoc, List.cons.injEq, true_and] at h
  obtain ⟨hab, hxy⟩ := flatMap_escapeByte_inj _ _ _ _ h
  exact ⟨utf8_injective hab, hxy⟩

/-! ## How long the text of a string is -/

/-- A byte that is escaped with one letter. -/
def isShortEscape (b : UInt8) : Bool :=
  ([0x22, 0x5C, 0x08, 0x09, 0x0A, 0x0C, 0x0D] : Bytes).contains b

/-- A control byte that is escaped with its number. -/
def isLongEscape (b : UInt8) : Bool := b < 0x20 && !isShortEscape b

/-- How much longer a string gets when it is escaped. -/
def escapeGrowth (s : String) : ℕ :=
  (utf8 s).countP isShortEscape + 5 * (utf8 s).countP isLongEscape

theorem length_escapeByte (b : UInt8) :
    (escapeByte b).length = 1 + (if isShortEscape b = true then 1 else 0)
      + 5 * (if isLongEscape b = true then 1 else 0) := by
  by_cases hshort : isShortEscape b = true
  · simp only [isShortEscape, List.contains_eq_mem, List.mem_cons, List.not_mem_nil, or_false,
      decide_eq_true_eq] at hshort
    rcases hshort with rfl | rfl | rfl | rfl | rfl | rfl | rfl <;> rfl
  · rw [if_neg hshort]
    simp only [isShortEscape, List.contains_eq_mem, List.mem_cons, List.not_mem_nil, or_false,
      decide_eq_true_eq, not_or] at hshort
    obtain ⟨h1, h2, h3, h4, h5, h6, h7⟩ := hshort
    rw [escapeByte, if_neg h1, if_neg h2, if_neg h3, if_neg h4, if_neg h5, if_neg h6, if_neg h7]
    by_cases hctrl : b < 0x20
    · simp [isLongEscape, isShortEscape, hctrl, h1, h2, h3, h4, h5, h6, h7]
    · simp [isLongEscape, hctrl]

theorem length_writeString (s : String) :
    (writeString s).length = (utf8 s).length + escapeGrowth s + 2 := by
  have hlength : ∀ bytes : Bytes, (bytes.flatMap escapeByte).length =
      bytes.length + (bytes.countP isShortEscape + 5 * bytes.countP isLongEscape) := by
    intro bytes
    induction bytes with
    | nil => rfl
    | cons b bytes ih =>
        rw [List.flatMap_cons, List.length_append, ih, length_escapeByte, List.countP_cons,
          List.countP_cons, List.length_cons]
        omega
  rw [writeString, List.length_cons, List.length_append, hlength, List.length_singleton,
    escapeGrowth]

/-! ## Numbers end where their digits end -/

theorem natRepr_eq_ofList (n : ℕ) : n.repr = String.ofList (Nat.toDigits 10 n) := by
  rw [← Nat.toList_repr, String.ofList_toList]

/-- The decimal text of a natural number is its digits. -/
theorem utf8_natRepr (n : ℕ) :
    utf8 n.repr = (Nat.toDigits 10 n).map Char.toUInt8 ∧
      ∀ b ∈ utf8 n.repr, 48 ≤ b ∧ b ≤ 57 := by
  have hdigit : ∀ c ∈ Nat.toDigits 10 n, 48 ≤ c.toNat ∧ c.toNat ≤ 57 := by
    intro c hc
    have hc := Nat.isDigit_of_mem_toDigits (by decide) (by decide) hc
    simp only [Char.isDigit, Bool.and_eq_true, decide_eq_true_eq] at hc
    exact ⟨UInt32.le_iff_toNat_le.mp hc.1, UInt32.le_iff_toNat_le.mp hc.2⟩
  have htext : utf8 n.repr = (Nat.toDigits 10 n).map Char.toUInt8 := by
    rw [natRepr_eq_ofList]
    exact utf8_ofList_ascii (fun c hc => by have := hdigit c hc; omega)
  refine ⟨htext, ?_⟩
  rw [htext]
  intro b hb
  obtain ⟨c, hc, rfl⟩ := List.mem_map.mp hb
  obtain ⟨hlo, hhi⟩ := hdigit c hc
  have hval : c.toUInt8.toNat = c.toNat := by
    simp only [Char.toUInt8, UInt32.toNat_toUInt8]
    exact Nat.mod_eq_of_lt (by simp only [Char.toNat] at hhi; omega)
  rw [UInt8.le_iff_toNat_le, UInt8.le_iff_toNat_le, hval]
  exact ⟨hlo, hhi⟩

theorem natRepr_injective : Function.Injective Nat.repr := by
  intro m n h
  rw [natRepr_eq_ofList, natRepr_eq_ofList, String.ofList_inj] at h
  rw [← Nat.ofDigitChars_ten_toDigits (n := m), h, Nat.ofDigitChars_ten_toDigits]

theorem natRepr_ne_nil (n : ℕ) : utf8 n.repr ≠ [] := by
  rw [(utf8_natRepr n).1]
  simp [Nat.toDigits_ne_nil]

theorem utf8_intRepr_negSucc (n : ℕ) :
    utf8 (Int.repr (.negSucc n)) = 45 :: utf8 (n + 1).repr := by
  rw [Int.repr, utf8_append]
  rfl

theorem Int.repr_bytes (i : ℤ) : utf8 i.repr ≠ [] ∧
    ∀ b ∈ utf8 i.repr, b = 45 ∨ 48 ≤ b ∧ b ≤ 57 := by
  cases i with
  | ofNat n => exact ⟨natRepr_ne_nil n, fun b hb => .inr ((utf8_natRepr n).2 b hb)⟩
  | negSucc n =>
      rw [utf8_intRepr_negSucc]
      refine ⟨by simp, fun b hb => ?_⟩
      rcases List.mem_cons.mp hb with rfl | hb
      · exact .inl rfl
      · exact .inr ((utf8_natRepr (n + 1)).2 b hb)

/-- A natural number's text does not start with a minus sign. -/
theorem utf8_natRepr_ne_minus (n : ℕ) (x : Bytes) : utf8 n.repr ≠ 45 :: x := by
  intro h
  have hminus := (utf8_natRepr n).2 45 (by rw [h]; exact List.mem_cons_self ..)
  exact absurd hminus (by decide)

theorem utf8_intRepr_injective : Function.Injective (fun i : ℤ => utf8 i.repr) := by
  intro i j h
  cases i with
  | ofNat m =>
      cases j with
      | ofNat n => rw [natRepr_injective (utf8_injective h)]
      | negSucc n =>
          simp only [utf8_intRepr_negSucc] at h
          exact absurd h (utf8_natRepr_ne_minus m _)
  | negSucc m =>
      cases j with
      | ofNat n =>
          simp only [utf8_intRepr_negSucc] at h
          exact absurd h.symm (utf8_natRepr_ne_minus n _)
      | negSucc n =>
          simp only [utf8_intRepr_negSucc, List.cons.injEq, true_and, utf8_inj] at h
          rw [Nat.succ.inj (natRepr_injective h)]

theorem Number.write_injective : Function.Injective Number.write := by
  have hne : ∀ (i : ℤ) (f : FloatText), utf8 i.repr ≠ f.text := by
    intro i f h
    have hbytes := (Int.repr_bytes i).2
    rw [h] at hbytes
    rcases f.shape.2.2 with hpoint | hexp
    · exact absurd (hbytes _ hpoint) (by decide)
    · exact absurd (hbytes _ hexp) (by decide)
  rintro (i | f) (j | g) h
  · exact congrArg Number.int (utf8_intRepr_injective h)
  · exact absurd h (hne i g)
  · exact absurd h.symm (hne j f)
  · obtain ⟨u, hu⟩ := f
    obtain ⟨v, hv⟩ := g
    simp only [Number.write] at h
    subst h
    rfl

theorem Number.write_ne_nil (n : Number) : n.write ≠ [] := by
  cases n with
  | int i => exact (Int.repr_bytes i).1
  | float f => exact f.shape.1

theorem Number.isNumberByte_of_mem_write {n : Number} {b : UInt8} (h : b ∈ n.write) :
    isNumberByte b = true := by
  cases n with
  | int i =>
      rcases (Int.repr_bytes i).2 b h with rfl | ⟨hlo, hhi⟩
      · rfl
      · simp [isNumberByte, hlo, hhi]
  | float f => exact f.shape.2.1 b h

/-- What may follow a value in a longer text: nothing, a comma or a closing bracket. -/
def Delimited (x : Bytes) : Prop := ∀ b ∈ x.head?, b = 0x2C ∨ b = 0x5D ∨ b = 0x7D

@[simp] theorem delimited_nil : Delimited [] := by simp [Delimited]

theorem Delimited.takeWhile_append {x : Bytes} (hx : Delimited x) (n : Number) :
    (n.write ++ x).takeWhile isNumberByte = n.write := by
  rw [List.takeWhile_append_of_pos (fun b hb => Number.isNumberByte_of_mem_write hb)]
  cases x with
  | nil => simp
  | cons b x =>
      have hb : isNumberByte b = false := by
        rcases hx b rfl with rfl | rfl | rfl <;> rfl
      simp [hb]

theorem Number.write_split {m n : Number} {x y : Bytes} (hx : Delimited x) (hy : Delimited y)
    (h : m.write ++ x = n.write ++ y) : m = n ∧ x = y := by
  have htexts := congrArg (List.takeWhile isNumberByte) h
  rw [hx.takeWhile_append, hy.takeWhile_append] at htexts
  rw [htexts] at h
  exact ⟨Number.write_injective htexts, List.append_cancel_left h⟩

/-! ## The text determines the value -/

namespace Json

/-- The shape of a value, as its first byte shows it. -/
def shape : Json → ℕ
  | null => 0
  | bool true => 1
  | bool false => 2
  | num _ => 3
  | str _ => 4
  | arr _ => 5
  | obj _ => 6

/-- The shape of the values whose text starts with a byte; `7` for a byte that starts none. -/
def shapeOfByte (b : UInt8) : ℕ :=
  if b = 0x6E then 0 else if b = 0x74 then 1 else if b = 0x66 then 2
  else if b = 0x22 then 4 else if b = 0x5B then 5 else if b = 0x7B then 6
  else if isNumberByte b then 3 else 7

theorem shapeOfByte_of_isNumberByte {b : UInt8} (h : isNumberByte b = true) :
    shapeOfByte b = 3 := by
  unfold shapeOfByte
  split_ifs with h1 h2 h3 h4 h5 h6
  all_goals try (subst b; exact absurd h (by decide))
  rfl

theorem write_head (a : Json) : ∃ b t, a.write = b :: t ∧ shapeOfByte b = a.shape := by
  match a with
  | null => exact ⟨_, _, rfl, rfl⟩
  | bool true => exact ⟨_, _, rfl, rfl⟩
  | bool false => exact ⟨_, _, rfl, rfl⟩
  | num n =>
      obtain ⟨b, t, hbt⟩ := List.exists_cons_of_ne_nil n.write_ne_nil
      refine ⟨b, t, by rw [write, hbt], shapeOfByte_of_isNumberByte ?_⟩
      exact Number.isNumberByte_of_mem_write (n := n) (by rw [hbt]; exact List.mem_cons_self ..)
  | str s => exact ⟨_, _, by rw [write, writeString], rfl⟩
  | arr elems => exact ⟨_, _, by rw [write], rfl⟩
  | obj members => exact ⟨_, _, by rw [write], rfl⟩

theorem shape_eq_of_write_append {a b : Json} {x y : Bytes} (h : a.write ++ x = b.write ++ y) :
    a.shape = b.shape := by
  obtain ⟨c, t, hct, hc⟩ := a.write_head
  obtain ⟨d, u, hdu, hd⟩ := b.write_head
  rw [hct, hdu, List.cons_append, List.cons_append, List.cons.injEq] at h
  rw [← hc, ← hd, h.1]

/-- No value starts with a closing bracket. -/
theorem write_append_ne_bracket (a : Json) (x y : Bytes) : a.write ++ x ≠ 0x5D :: y := by
  intro h
  obtain ⟨c, t, hct, hc⟩ := a.write_head
  rw [hct, List.cons_append, List.cons.injEq] at h
  rw [h.1] at hc
  cases a with
  | bool b => cases b <;> exact absurd hc (by decide)
  | _ => exact absurd hc (by simp [shape, shapeOfByte, isNumberByte])

theorem delimited_writeElems (elems : List Json) (x : Bytes) :
    Delimited (writeElems false elems ++ x) := by
  cases elems <;> simp [writeElems, Delimited]

theorem delimited_writeMembers (members : List (String × Json)) (x : Bytes) :
    Delimited (writeMembers false members ++ x) := by
  cases members <;> simp [writeMembers, Delimited]

theorem writeElems_nil_ne_cons (first : Bool) (a : Json) (elems : List Json) (x y : Bytes) :
    writeElems first [] ++ x ≠ writeElems first (a :: elems) ++ y := by
  intro h
  cases first with
  | true =>
      simp only [writeElems, if_true, List.nil_append, List.cons_append, List.append_assoc] at h
      exact absurd h.symm (write_append_ne_bracket a _ _)
  | false => simp [writeElems] at h

theorem writeMembers_nil_ne_cons (first : Bool) (m : String × Json)
    (members : List (String × Json)) (x y : Bytes) :
    writeMembers first [] ++ x ≠ writeMembers first (m :: members) ++ y := by
  intro h
  cases first <;> simp [writeMembers, writeString] at h

mutual

/-- Values followed by a delimiter are read back from the front of a text. -/
theorem write_split (a b : Json) {x y : Bytes} (hx : Delimited x) (hy : Delimited y)
    (h : a.write ++ x = b.write ++ y) : a = b ∧ x = y := by
  -- The first byte tells the shapes apart, which leaves the pairs of one shape.
  have hshape := shape_eq_of_write_append h
  match a, b with
  | null, null => exact ⟨rfl, List.append_cancel_left h⟩
  | bool true, bool true => exact ⟨rfl, List.append_cancel_left h⟩
  | bool false, bool false => exact ⟨rfl, List.append_cancel_left h⟩
  | num m, num n =>
      obtain ⟨rfl, hxy⟩ := Number.write_split hx hy h
      exact ⟨rfl, hxy⟩
  | str s, str t =>
      obtain ⟨rfl, hxy⟩ := writeString_selfDelimiting.split h
      exact ⟨rfl, hxy⟩
  | arr elems, arr elems' =>
      simp only [write, List.cons_append, List.cons.injEq, true_and] at h
      obtain ⟨helems, hxy⟩ := writeElems_split true elems elems' h
      exact ⟨by rw [helems], hxy⟩
  | obj members, obj members' =>
      simp only [write, List.cons_append, List.cons.injEq, true_and] at h
      obtain ⟨hmembers, hxy⟩ := writeMembers_split true members members' h
      exact ⟨by rw [hmembers], hxy⟩

theorem writeElems_split (first : Bool) (elems elems' : List Json) {x y : Bytes}
    (h : writeElems first elems ++ x = writeElems first elems' ++ y) : elems = elems' ∧ x = y := by
  match elems, elems' with
  | [], [] => exact ⟨rfl, List.append_cancel_left h⟩
  | [], b :: rest' => exact absurd h (writeElems_nil_ne_cons first b rest' x y)
  | a :: rest, [] => exact absurd h.symm (writeElems_nil_ne_cons first a rest y x)
  | a :: rest, b :: rest' =>
      simp only [writeElems, List.append_assoc, List.append_cancel_left_eq] at h
      obtain ⟨hab, htail⟩ :=
        write_split a b (delimited_writeElems rest x) (delimited_writeElems rest' y) h
      obtain ⟨hrest, hxy⟩ := writeElems_split false rest rest' htail
      exact ⟨by rw [hab, hrest], hxy⟩

theorem writeMembers_split (first : Bool) (members members' : List (String × Json)) {x y : Bytes}
    (h : writeMembers first members ++ x = writeMembers first members' ++ y) :
    members = members' ∧ x = y := by
  match members, members' with
  | [], [] => exact ⟨rfl, List.append_cancel_left h⟩
  | [], m :: rest' => exact absurd h (writeMembers_nil_ne_cons first m rest' x y)
  | m :: rest, [] => exact absurd h.symm (writeMembers_nil_ne_cons first m rest y x)
  | (k, v) :: rest, (k', v') :: rest' =>
      simp only [writeMembers, List.append_assoc, List.append_cancel_left_eq] at h
      obtain ⟨hkey, hvalue⟩ := writeString_selfDelimiting.split h
      simp only [List.cons_append, List.cons.injEq, true_and, List.append_assoc] at hvalue
      obtain ⟨hv, htail⟩ :=
        write_split v v' (delimited_writeMembers rest x) (delimited_writeMembers rest' y) hvalue
      obtain ⟨hrest, hxy⟩ := writeMembers_split false rest rest' htail
      exact ⟨by rw [hkey, hv, hrest], hxy⟩

end

/-- **The compact text determines the value**, member order included. -/
theorem write_injective : Function.Injective write := by
  intro a b h
  exact (write_split a b delimited_nil delimited_nil (by simpa using h)).1

/-! ## How a text ends -/

theorem getLast?_append_ne {l m : Bytes} {d : UInt8} (hl : l.getLast? ≠ some d)
    (hm : m.getLast? ≠ some d) : (l ++ m).getLast? ≠ some d := by
  rw [List.getLast?_append]
  cases hlast : m.getLast? with
  | none => simpa using hl
  | some b => simpa [hlast] using hm

theorem writeMembers_getLast? (first : Bool) (members : List (String × Json)) :
    (writeMembers first members).getLast? = some 0x7D := by
  induction members generalizing first with
  | nil => simp [writeMembers]
  | cons m rest ih => simp [writeMembers, List.getLast?_append, List.getLast?_cons, ih]

theorem writeElems_getLast? (first : Bool) (elems : List Json) :
    (writeElems first elems).getLast? = some 0x5D := by
  induction elems generalizing first with
  | nil => simp [writeElems]
  | cons a rest ih => simp [writeElems, List.getLast?_append, ih]

/-- No value ends in the letter `d`, and only an array ends in a bracket. -/
theorem write_getLast? (a : Json) :
    a.write.getLast? ≠ some 0x64 ∧ (a.write.getLast? = some 0x5D → ∃ elems, a = .arr elems) := by
  match a with
  | null => exact ⟨by decide, fun h => absurd h (by decide)⟩
  | bool true => exact ⟨by decide, fun h => absurd h (by decide)⟩
  | bool false => exact ⟨by decide, fun h => absurd h (by decide)⟩
  | num n =>
      have hbyte : ∀ b, n.write.getLast? = some b → isNumberByte b = true := by
        intro b hb
        exact Number.isNumberByte_of_mem_write (List.mem_of_getLast? hb)
      rw [write]
      constructor
      · intro hd
        exact absurd (hbyte _ hd) (by decide)
      · intro hbracket
        exact absurd (hbyte _ hbracket) (by decide)
  | str s => simp [write, writeString, List.getLast?_cons]
  | arr elems =>
      have hlast : (write (.arr elems)).getLast? = some 0x5D := by
        simp [write, List.getLast?_cons, writeElems_getLast?]
      exact ⟨by rw [hlast]; decide, fun _ => ⟨elems, rfl⟩⟩
  | obj members => simp [write, List.getLast?_cons, writeMembers_getLast?]

theorem writeElems_end (first : Bool) (elems : List Json) :
    ∃ t, writeElems first elems = t ++ [0x5D] ∧ t.getLast? ≠ some 0x64 := by
  induction elems generalizing first with
  | nil => exact ⟨[], by simp [writeElems], by simp⟩
  | cons a rest ih =>
      obtain ⟨t, ht, hlast⟩ := ih false
      refine ⟨(if first then [] else [0x2C]) ++ (a.write ++ t), ?_, ?_⟩
      · rw [writeElems, ht]
        simp
      · refine getLast?_append_ne ?_ (getLast?_append_ne a.write_getLast?.1 hlast)
        cases first <;> simp

/-- No text of a value ends in `d]`. -/
theorem write_ne_append (a : Json) (x : Bytes) : a.write ≠ x ++ [0x64, 0x5D] := by
  intro h
  have hlast : a.write.getLast? = some 0x5D := by
    rw [h]
    simp
  obtain ⟨elems, rfl⟩ := a.write_getLast?.2 hlast
  obtain ⟨t, ht, hd⟩ := writeElems_end true elems
  rw [write, ht, List.append_cons x, ← List.cons_append] at h
  have hcut : 0x5B :: t = x ++ [0x64] := List.append_cancel_right h
  have hend : (0x5B :: t).getLast? = some 0x64 := by
    rw [hcut]
    simp
  exact getLast?_append_ne (l := [0x5B]) (by decide) hd hend

end Json

/-! ## Writers -/

/-- A serializer that writes the compact text of a value piece by piece, however it cuts it. -/
structure JsonWriter where
  pieces : Json → List Bytes
  flatten_pieces : ∀ a : Json, (pieces a).flatten = a.write
