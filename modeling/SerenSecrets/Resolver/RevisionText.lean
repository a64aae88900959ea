import SerenSecrets.Lib.Except
import SerenSecrets.Lib.Text
import SerenSecrets.Resolver.Revision
import Mathlib.Data.Bool.AllAny

set_option autoImplicit false

/-! # The text of a revision

`validRfc3339` reads a text by raw byte positions, cuts it at byte 29 and calculates with bytes.
`validRfc3339Checked` is the same validator with a missing result wherever that would panic: an
index or a slice out of range, a cut inside a character, a byte that overflows. It always has a
result (`validRfc3339Checked_eq`).

What is accepted is described by a grammar of its own (`IsRfc3339`). Its characters are harmless in
a header, so a revision makes an `If-Match` header with one quoted value
(`revisionText_exact`). -/

namespace SerenSecrets

/-! ## Operations that can panic -/

/-- `x && y`, where `y` is only run when `x` is true. -/
def andAlso (x y : Option Bool) : Option Bool := x.bind fun b => if b then y else some false

/-- `x || y`, where `y` is only run when `x` is false. -/
def orAlso (x y : Option Bool) : Option Bool := x.bind fun b => if b then some true else y

@[simp] theorem andAlso_some (a b : Bool) : andAlso (some a) (some b) = some (a && b) := by
  cases a <;> rfl

@[simp] theorem orAlso_some (a b : Bool) : orAlso (some a) (some b) = some (a || b) := by
  cases a <;> rfl

def u8Add (a b : UInt8) : Option UInt8 := if a.toNat + b.toNat < 256 then some (a + b) else none

def u8Sub (a b : UInt8) : Option UInt8 := if b ≤ a then some (a - b) else none

def u8Mul (a b : UInt8) : Option UInt8 := if a.toNat * b.toNat < 256 then some (a * b) else none

/-- `&bytes[..i]`. -/
def sliceTo (bytes : Bytes) (i : ℕ) : Option Bytes :=
  if i ≤ bytes.length then some (bytes.take i) else none

/-- `&bytes[i..]`. -/
def sliceFrom (bytes : Bytes) (i : ℕ) : Option Bytes :=
  if i ≤ bytes.length then some (bytes.drop i) else none

/-- No character of the text continues at byte `i`. -/
def isCharBoundary (bytes : Bytes) (i : ℕ) : Bool :=
  match bytes[i]? with
  | some b => b < 0x80 || 0xC0 ≤ b
  | none => i == bytes.length

/-- `&text[..i]`. -/
def strTo (bytes : Bytes) (i : ℕ) : Option Bytes :=
  if isCharBoundary bytes i then some (bytes.take i) else none

/-- `&text[i..]`. -/
def strFrom (bytes : Bytes) (i : ℕ) : Option Bytes :=
  if isCharBoundary bytes i then some (bytes.drop i) else none

/-! ## The validator -/

/-- The first condition of the code, which finds fault with the first nineteen bytes. -/
def dateTimeFault (bytes : Bytes) : Option Bool :=
  orAlso (some (decide (bytes.length < 20))) <|
  orAlso (bytes[4]?.map (· != 0x2D)) <|
  orAlso (bytes[7]?.map (· != 0x2D)) <|
  orAlso (bytes[10]?.map fun b => !(b == 0x54 || b == 0x74)) <|
  orAlso (bytes[13]?.map (· != 0x3A)) <|
  orAlso (bytes[16]?.map (· != 0x3A)) <|
  (sliceTo bytes 19).map fun head => !head.zipIdx.all
    fun (byte, i) => [4, 7, 10, 13, 16].contains i || isAsciiDigit byte

/-- The loop over the digits of a fraction. -/
def skipDigits (bytes : Bytes) (i : ℕ) : ℕ :=
  if bytes[i]?.any isAsciiDigit then skipDigits bytes (i + 1) else i
termination_by bytes.length - i
decreasing_by
  rename_i h
  have hlt : i < bytes.length := by
    by_contra hge
    rw [List.getElem?_eq_none (by omega)] at h
    exact absurd h (by decide)
  omega

def twoDigitsChecked (tens ones : UInt8) : Option UInt8 := do
  let high ← u8Sub tens 48
  let high ← u8Mul high 10
  let sum ← u8Add high ones
  u8Sub sum 48

def offsetChecked (offset : Bytes) : Option Bool :=
  orAlso (some (offset == [0x5A] || offset == [0x7A])) <|
  andAlso (some (decide (offset.length = 6))) <|
  andAlso (offset[0]?.map fun b => b == 0x2B || b == 0x2D) <|
  andAlso (offset[3]?.map (· == 0x3A)) <|
  andAlso (do
    let h1 ← offset[1]?
    let h2 ← offset[2]?
    let m1 ← offset[4]?
    let m2 ← offset[5]?
    some ([h1, h2, m1, m2].all isAsciiDigit)) <|
  andAlso (do
    let hours ← twoDigitsChecked (← offset[1]?) (← offset[2]?)
    some (decide (hours ≤ 23)))
  (do
    let minutes ← twoDigitsChecked (← offset[4]?) (← offset[5]?)
    some (decide (minutes ≤ 59)))

def validRfc3339Checked (P : Parsers) (value : String) : Option Bool := do
  let bytes := utf8 value
  let fault ← dateTimeFault bytes
  if fault then some false
  else do
    let point ← bytes[19]?
    let start := if point = 0x2E then skipDigits bytes 20 else 19
    -- A point without digits.
    if start = 20 then some false
    else do
      let offset ← sliceFrom bytes start
      let fine ← offsetChecked offset
      if !fine then some false
      else if start > 29 then do
        let head ← strTo bytes 29
        let tail ← strFrom bytes start
        some (P.timestamp (head ++ tail))
      else some (P.timestamp bytes)

/-! ## No panics -/

theorem getElem?_eq_some_getD {bytes : Bytes} {i : ℕ} (h : i < bytes.length) :
    bytes[i]? = some (bytes.getD i 0) := by
  rw [List.getD_eq_getElem?_getD, List.getElem?_eq_getElem h, Option.getD_some]

theorem dateTimeFault_eq (bytes : Bytes) : dateTimeFault bytes = some (!validDateTime bytes) := by
  by_cases hlength : bytes.length < 20
  · simp [dateTimeFault, orAlso, validDateTime, hlength]
  · have hread := fun i (hi : i < 20) =>
      @getElem?_eq_some_getD bytes i (by omega)
    have hslice : sliceTo bytes 19 = some (bytes.take 19) := if_pos (by omega)
    simp only [dateTimeFault, hread 4 (by omega), hread 7 (by omega), hread 10 (by omega),
      hread 13 (by omega), hread 16 (by omega), hslice, Option.map_some, orAlso_some]
    simp only [validDateTime, Bool.not_and, Bool.not_or, bne, Bool.or_assoc]
    simp only [show decide (20 ≤ bytes.length) = true by simp; omega, Bool.not_true,
      Bool.false_or, show decide (bytes.length < 20) = false by simp; omega]

theorem skipDigits_eq (bytes : Bytes) (i : ℕ) :
    skipDigits bytes i = i + ((bytes.drop i).takeWhile isAsciiDigit).length := by
  fun_induction skipDigits bytes i with
  | case1 i h ih =>
      have hlt : i < bytes.length := by
        by_contra hge
        rw [List.getElem?_eq_none (by omega)] at h
        exact absurd h (by decide)
      rw [List.getElem?_eq_getElem hlt, Option.any_some] at h
      rw [ih, List.drop_eq_getElem_cons hlt, List.takeWhile_cons, if_pos h, List.length_cons]
      omega
  | case2 i h =>
      cases hdrop : bytes.drop i with
      | nil => simp
      | cons b rest =>
          have hhead : bytes[i]? = some b := by
            rw [← List.head?_drop, hdrop, List.head?_cons]
          rw [hhead, Option.any_some] at h
          rw [List.takeWhile_cons, if_neg h, List.length_nil, Nat.add_zero]

theorem toNat_of_isAsciiDigit {b : UInt8} (h : isAsciiDigit b = true) :
    48 ≤ b.toNat ∧ b.toNat ≤ 57 := by
  simp only [isAsciiDigit, Bool.and_eq_true, decide_eq_true_eq] at h
  exact ⟨UInt8.le_iff_toNat_le.mp h.1, UInt8.le_iff_toNat_le.mp h.2⟩

/-- Two digits never overflow a byte: the sum before the last subtraction is at most 147. -/
theorem twoDigitsChecked_eq {tens ones : UInt8} (htens : isAsciiDigit tens = true)
    (hones : isAsciiDigit ones = true) :
    ∃ n, twoDigitsChecked tens ones = some n ∧ n.toNat = twoDigits tens ones := by
  obtain ⟨htens, htens'⟩ := toNat_of_isAsciiDigit htens
  obtain ⟨hones, hones'⟩ := toNat_of_isAsciiDigit hones
  have hfirst : (48 : UInt8) ≤ tens := by
    rw [UInt8.le_iff_toNat_le]
    exact htens
  have hhigh : (tens - 48).toNat = tens.toNat - 48 := UInt8.toNat_sub_of_le _ _ hfirst
  have hten : ((tens - 48) * 10).toNat = (tens.toNat - 48) * 10 := by
    rw [UInt8.toNat_mul, hhigh]
    exact Nat.mod_eq_of_lt (show (tens.toNat - 48) * 10 < 256 by omega)
  have hsum : ((tens - 48) * 10 + ones).toNat = (tens.toNat - 48) * 10 + ones.toNat := by
    rw [UInt8.toNat_add, hten]
    exact Nat.mod_eq_of_lt (show (tens.toNat - 48) * 10 + ones.toNat < 256 by omega)
  have hlast : (48 : UInt8) ≤ (tens - 48) * 10 + ones := by
    rw [UInt8.le_iff_toNat_le, hsum]
    show 48 ≤ _
    omega
  refine ⟨(tens - 48) * 10 + ones - 48, ?_, ?_⟩
  · have hsub : u8Sub tens 48 = some (tens - 48) := if_pos hfirst
    have hmul : u8Mul (tens - 48) 10 = some ((tens - 48) * 10) := by
      refine if_pos ?_
      rw [hhigh]
      show (tens.toNat - 48) * 10 < 256
      omega
    have hadd : u8Add ((tens - 48) * 10) ones = some ((tens - 48) * 10 + ones) := by
      refine if_pos ?_
      rw [hten]
      omega
    have hend : u8Sub ((tens - 48) * 10 + ones) 48 = some ((tens - 48) * 10 + ones - 48) :=
      if_pos hlast
    simp only [twoDigitsChecked, hsub, hmul, hadd, hend, Option.bind_eq_bind, Option.bind_some]
  · rw [UInt8.toNat_sub_of_le _ _ hlast, hsum]
    rfl

theorem offsetChecked_eq (offset : Bytes) : offsetChecked offset = some (validOffset offset) := by
  rcases offset with _ | ⟨a, _ | ⟨b, _ | ⟨c, _ | ⟨d, _ | ⟨e, _ | ⟨f, _ | ⟨g, rest⟩⟩⟩⟩⟩⟩⟩
  case cons.nil =>
    simp only [offsetChecked, validOffset, orAlso, andAlso, Option.bind_some, List.length_singleton]
    by_cases ha : a = 0x5A ∨ a = 0x7A
    · simp [ha]
    · simp [not_or.mp ha]
  case cons.cons.cons.cons.cons.cons.nil =>
    by_cases hdigits : (isAsciiDigit b && isAsciiDigit c && isAsciiDigit e && isAsciiDigit f) = true
    · have hall := hdigits
      simp only [Bool.and_eq_true] at hall
      obtain ⟨⟨⟨hb, hc⟩, he⟩, hf⟩ := hall
      obtain ⟨hours, hhours, hhoursVal⟩ := twoDigitsChecked_eq hb hc
      obtain ⟨minutes, hminutes, hminutesVal⟩ := twoDigitsChecked_eq he hf
      have hhoursLe : decide (hours ≤ 23) = decide (twoDigits b c ≤ 23) := by
        rw [← hhoursVal]
        rfl
      have hminutesLe : decide (minutes ≤ 59) = decide (twoDigits e f ≤ 59) := by
        rw [← hminutesVal]
        rfl
      simp [offsetChecked, validOffset, hhours, hminutes, hb, hc, he, hf, hhoursLe, hminutesLe,
        Bool.and_assoc]
    · -- The digits are looked at before any of the arithmetic.
      simp only [Bool.not_eq_true] at hdigits
      simp only [offsetChecked, validOffset, hdigits, orAlso, andAlso]
      simp
      intro _ _ hb hc he hf
      simp [hb, hc, he, hf] at hdigits
  all_goals simp [offsetChecked, validOffset, orAlso, andAlso]

/-- A byte of ASCII starts a character. -/
theorem isCharBoundary_of_lt {bytes : Bytes} {i : ℕ} {b : UInt8} (h : bytes[i]? = some b)
    (hb : b.toNat < 128) : isCharBoundary bytes i = true := by
  rw [isCharBoundary, h]
  have hlt : b < 0x80 := UInt8.lt_iff_toNat_lt.mpr hb
  simp [hlt]

/-- A valid offset starts with a byte of ASCII. -/
theorem head_of_validOffset {offset : Bytes} (h : validOffset offset = true) :
    ∃ b rest, offset = b :: rest ∧ b.toNat < 128 := by
  unfold validOffset at h
  split at h
  · rename_i z
    simp only [Bool.or_eq_true, beq_iff_eq] at h
    rcases h with rfl | rfl <;> exact ⟨_, _, rfl, by decide⟩
  · rename_i sign h1 h2 colon m1 m2
    simp only [Bool.and_eq_true, Bool.or_eq_true, beq_iff_eq] at h
    rcases h.1.1.1.1 with rfl | rfl <;> exact ⟨_, _, rfl, by decide⟩
  · cases h

/-- The loop finds where the offset starts. -/
theorem skipDigits_eq_offsetStart (bytes : Bytes) :
    (if bytes.getD 19 0 = 0x2E then skipDigits bytes 20 else 19) = offsetStart bytes := by
  rw [offsetStart, skipDigits_eq]

/-- The parts of the bytes of a text: date and time, fraction and offset. -/
structure Parts (bytes fraction offset : Bytes) : Prop where
  split : bytes = bytes.take 19 ++ fraction ++ offset
  length : 20 ≤ bytes.length
  start : offsetStart bytes = 19 + fraction.length
  digits : fraction = [] ∨ ∃ ds, fraction = 0x2E :: ds ∧ ∀ d ∈ ds, isAsciiDigit d = true

theorem exists_parts {bytes : Bytes} (h : 20 ≤ bytes.length) :
    ∃ fraction offset, Parts bytes fraction offset := by
  by_cases hpoint : bytes.getD 19 0 = 0x2E
  · have hdrop : bytes.drop 19 = 0x2E :: bytes.drop 20 := by
      rw [List.getD_eq_getElem?_getD, List.getElem?_eq_getElem (by omega), Option.getD_some]
        at hpoint
      rw [List.drop_eq_getElem_cons (by omega), hpoint]
    refine ⟨0x2E :: (bytes.drop 20).takeWhile isAsciiDigit, (bytes.drop 20).dropWhile isAsciiDigit,
      ?_, h, ?_, .inr ⟨_, rfl, fun d hd => ?_⟩⟩
    · rw [List.append_assoc, List.cons_append, List.takeWhile_append_dropWhile, ← hdrop,
        List.take_append_drop]
    · rw [offsetStart, if_pos hpoint, List.length_cons]
      omega
    · exact List.all_eq_true.mp (List.all_takeWhile ..) d hd
  · refine ⟨[], bytes.drop 19, ?_, h, ?_, .inl rfl⟩
    · rw [List.append_nil, List.take_append_drop]
    · rw [offsetStart, if_neg hpoint, List.length_nil]

namespace Parts

variable {bytes fraction offset : Bytes}

theorem length_take (h : Parts bytes fraction offset) : (bytes.take 19).length = 19 := by
  have hlength := h.length
  rw [List.length_take]
  omega

theorem drop_start (h : Parts bytes fraction offset) :
    bytes.drop (offsetStart bytes) = offset := by
  have hlength : offsetStart bytes = (bytes.take 19 ++ fraction).length := by
    rw [h.start, List.length_append, h.length_take]
  calc bytes.drop (offsetStart bytes)
      = (bytes.take 19 ++ fraction ++ offset).drop (bytes.take 19 ++ fraction).length := by
        rw [← h.split, hlength]
    _ = offset := List.drop_left ..

theorem start_le (h : Parts bytes fraction offset) : offsetStart bytes ≤ bytes.length := by
  have hlength := congrArg List.length h.split
  rw [List.length_append, List.length_append, h.length_take] at hlength
  rw [h.start]
  omega

/-- What is left of the text when the fraction is cut to nine digits. -/
theorem take_append_drop (h : Parts bytes fraction offset) (hlong : offsetStart bytes > 29) :
    bytes.take 29 ++ bytes.drop (offsetStart bytes)
      = bytes.take 19 ++ fraction.take 10 ++ offset := by
  have hlength : 10 ≤ fraction.length := by
    have hstart := h.start
    omega
  rw [h.drop_start]
  congr 1
  conv_lhs => rw [h.split]
  rw [List.append_assoc, List.take_append, h.length_take, List.take_of_length_le
    (show (bytes.take 19).length ≤ 29 by rw [h.length_take]; omega),
    List.take_append_of_le_length hlength]

theorem take_of_short (h : Parts bytes fraction offset) (hshort : ¬ offsetStart bytes > 29) :
    bytes = bytes.take 19 ++ fraction.take 10 ++ offset := by
  have hlength : fraction.length ≤ 10 := by
    have hstart := h.start
    omega
  rw [List.take_of_length_le hlength]
  exact h.split

/-- Byte 29 of a long fraction is a digit, so the cut there is between characters. -/
theorem isCharBoundary_cut (h : Parts bytes fraction offset) (hlong : offsetStart bytes > 29) :
    isCharBoundary bytes 29 = true := by
  have hstart := h.start
  rcases h.digits with rfl | ⟨ds, rfl, hds⟩
  · simp only [List.length_nil] at hstart
    omega
  · simp only [List.length_cons] at hstart
    have hnine : 9 < ds.length := by omega
    have hbyte : bytes[29]? = some ds[9] := by
      rw [h.split, List.append_assoc, List.getElem?_append_right (by rw [h.length_take]; omega),
        h.length_take, List.getElem?_append_left (by simp only [List.length_cons]; omega)]
      show (0x2E :: ds)[10]? = some ds[9]
      rw [List.getElem?_cons_succ, List.getElem?_eq_getElem hnine]
    have hdigit := toNat_of_isAsciiDigit (hds _ (List.getElem_mem hnine))
    exact isCharBoundary_of_lt hbyte (by omega)

theorem isCharBoundary_start (h : Parts bytes fraction offset)
    (hoffset : validOffset offset = true) :
    isCharBoundary bytes (offsetStart bytes) = true := by
  obtain ⟨b, rest, rfl, hb⟩ := head_of_validOffset hoffset
  refine isCharBoundary_of_lt ?_ hb
  rw [← List.head?_drop, h.drop_start, List.head?_cons]

end Parts

/-- **The validator never panics**, on no string at all. -/
theorem validRfc3339Checked_eq (P : Parsers) (value : String) :
    validRfc3339Checked P value = some (validRfc3339 P value) := by
  unfold validRfc3339Checked validRfc3339
  simp only [dateTimeFault_eq, Option.bind_eq_bind, Option.bind_some]
  by_cases hdate : validDateTime (utf8 value) = true
  · have hlength : 20 ≤ (utf8 value).length := by
      simp only [validDateTime, Bool.and_eq_true, decide_eq_true_eq] at hdate
      exact hdate.1.1.1.1.1.1
    obtain ⟨fraction, offset, hparts⟩ := exists_parts hlength
    have hslice : sliceFrom (utf8 value) (offsetStart (utf8 value)) = some offset := by
      rw [sliceFrom, if_pos hparts.start_le, hparts.drop_start]
    simp only [hdate, Bool.not_true, Bool.false_eq_true, if_false,
      getElem?_eq_some_getD (show 19 < (utf8 value).length by omega), Option.bind_some,
      skipDigits_eq_offsetStart, hslice, offsetChecked_eq, hparts.drop_start, beq_iff_eq]
    by_cases hpoint : offsetStart (utf8 value) = 20
    · simp [hpoint]
    by_cases hoffset : validOffset offset = true
    · by_cases hlong : offsetStart (utf8 value) > 29
      · simp only [if_neg hpoint, hoffset, Bool.not_true, Bool.false_eq_true, if_false,
          if_pos hlong, strTo, if_pos (hparts.isCharBoundary_cut hlong), strFrom,
          if_pos (hparts.isCharBoundary_start hoffset), Option.bind_some, hparts.drop_start]
      · simp only [if_neg hpoint, hoffset, Bool.not_true, Bool.false_eq_true, if_false,
          if_neg hlong]
    · simp [hpoint, hoffset]
  · simp [hdate]

/-! ## The grammar -/

/-- The letters of a text, be they characters or bytes: the digits, their values, and how a literal
    is written. -/
structure Letters (α : Type) where
  digit : α → Bool
  val : α → ℕ
  lit : Char → α

def charLetters : Letters Char := ⟨Char.isDigit, fun c => c.toNat - 48, id⟩

def byteLetters : Letters UInt8 := ⟨isAsciiDigit, fun b => b.toNat - 48, Char.toUInt8⟩

section Grammar

variable {α : Type} (L : Letters α)

/-- `DDDD-DD-DD`, then `T` or `t`, then `DD:DD:DD`. -/
def IsDateTime (head : List α) : Prop :=
  ∃ y1 y2 y3 y4 m1 m2 d1 d2 t h1 h2 n1 n2 s1 s2,
    head = [y1, y2, y3, y4, L.lit '-', m1, m2, L.lit '-', d1, d2, t,
      h1, h2, L.lit ':', n1, n2, L.lit ':', s1, s2] ∧
    (t = L.lit 'T' ∨ t = L.lit 't') ∧
    ∀ d ∈ [y1, y2, y3, y4, m1, m2, d1, d2, h1, h2, n1, n2, s1, s2], L.digit d = true

/-- Nothing, or a point and one or more digits. -/
def IsFraction (fraction : List α) : Prop :=
  fraction = [] ∨ ∃ ds, fraction = L.lit '.' :: ds ∧ ds ≠ [] ∧ ∀ d ∈ ds, L.digit d = true

/-- `Z`, `z`, or a sign and `HH:MM`. -/
def IsOffset (offset : List α) : Prop :=
  offset = [L.lit 'Z'] ∨ offset = [L.lit 'z'] ∨
    ∃ sign h1 h2 m1 m2, offset = [sign, h1, h2, L.lit ':', m1, m2] ∧
      (sign = L.lit '+' ∨ sign = L.lit '-') ∧
      (∀ d ∈ [h1, h2, m1, m2], L.digit d = true) ∧
      L.val h1 * 10 + L.val h2 ≤ 23 ∧ L.val m1 * 10 + L.val m2 ≤ 59

end Grammar

/-- An RFC3339 text whose instant the timestamp parser accepts with nine digits of the fraction. -/
def IsRfc3339 (P : Parsers) (value : String) : Prop :=
  ∃ head fraction offset : List Char, value.toList = head ++ fraction ++ offset ∧
    IsDateTime charLetters head ∧ IsFraction charLetters fraction ∧ IsOffset charLetters offset ∧
    P.timestamp (utf8 (String.ofList (head ++ fraction.take 10 ++ offset))) = true

/-! ### Bytes -/

theorem exists_of_length_nineteen {l : Bytes} (h : l.length = 19) :
    ∃ a0 a1 a2 a3 a4 a5 a6 a7 a8 a9 a10 a11 a12 a13 a14 a15 a16 a17 a18,
      l = [a0, a1, a2, a3, a4, a5, a6, a7, a8, a9, a10, a11, a12, a13, a14, a15, a16, a17,
        a18] := by
  iterate 19
    obtain ⟨_, l', rfl⟩ := List.exists_cons_of_length_eq_add_one h
    rename' l' => l
    replace h := Nat.succ.inj h
  obtain rfl := List.length_eq_zero_iff.mp h
  exact ⟨_, _, _, _, _, _, _, _, _, _, _, _, _, _, _, _, _, _, _, rfl⟩

theorem validDateTime_append_iff {head rest : Bytes} (hlength : head.length = 19) :
    validDateTime (head ++ rest) = true ↔ rest ≠ [] ∧ IsDateTime byteLetters head := by
  obtain ⟨a0, a1, a2, a3, a4, a5, a6, a7, a8, a9, a10, a11, a12, a13, a14, a15, a16, a17, a18,
    rfl⟩ := exists_of_length_nineteen hlength
  constructor
  · intro h
    simp [validDateTime] at h
    obtain ⟨⟨⟨⟨⟨⟨hrest, rfl⟩, rfl⟩, ht⟩, rfl⟩, rfl⟩, hdigits⟩ := h
    refine ⟨List.ne_nil_of_length_pos hrest, a0, a1, a2, a3, a5, a6, a8, a9, a10, a11, a12, a14,
      a15, a17, a18, rfl, ht, ?_⟩
    simpa [byteLetters] using hdigits
  · rintro ⟨hrest, y1, y2, y3, y4, m1, m2, d1, d2, t, h1, h2, n1, n2, s1, s2, hhead, ht, hdigits⟩
    simp only [List.cons.injEq, and_true] at hhead
    obtain ⟨rfl, rfl, rfl, rfl, rfl, rfl, rfl, rfl, rfl, rfl, rfl, rfl, rfl, rfl, rfl, rfl, rfl,
      rfl, rfl⟩ := hhead
    have hpositive : 1 ≤ rest.length := List.length_pos_of_ne_nil hrest
    simp only [List.forall_mem_cons] at hdigits
    obtain ⟨p1, p2, p3, p4, p5, p6, p7, p8, p9, p10, p11, p12, p13, p14, -⟩ := hdigits
    have hdash : byteLetters.lit '-' = 45 := by decide
    have hcolon : byteLetters.lit ':' = 58 := by decide
    have ht' : a10 = 84 ∨ a10 = 116 := ht
    simp only [byteLetters] at p1 p2 p3 p4 p5 p6 p7 p8 p9 p10 p11 p12 p13 p14
    simp [validDateTime, hdash, hcolon, hpositive, ht', p1, p2, p3, p4, p5, p6, p7, p8, p9, p10,
      p11, p12, p13, p14]

theorem validOffset_iff (offset : Bytes) :
    validOffset offset = true ↔ IsOffset byteLetters offset := by
  have hval : ∀ tens ones, isAsciiDigit ones = true →
      twoDigits tens ones = byteLetters.val tens * 10 + byteLetters.val ones := by
    intro tens ones hones
    have hlow := (toNat_of_isAsciiDigit hones).1
    show (tens.toNat - 48) * 10 + ones.toNat - 48 = (tens.toNat - 48) * 10 + (ones.toNat - 48)
    omega
  constructor
  · intro h
    unfold validOffset at h
    split at h
    · rename_i z
      simp only [Bool.or_eq_true, beq_iff_eq] at h
      rcases h with rfl | rfl
      · exact .inl rfl
      · exact .inr (.inl rfl)
    · rename_i sign h1 h2 colon m1 m2
      simp only [Bool.and_eq_true, Bool.or_eq_true, beq_iff_eq, decide_eq_true_eq] at h
      obtain ⟨⟨⟨⟨hsign, rfl⟩, ⟨⟨hh1, hh2⟩, hm1⟩, hm2⟩, hhours⟩, hminutes⟩ := h
      refine .inr (.inr ⟨sign, h1, h2, m1, m2, rfl, hsign, ?_, ?_, ?_⟩)
      · simp [byteLetters, hh1, hh2, hm1, hm2]
      · rw [← hval h1 h2 hh2]
        exact hhours
      · rw [← hval m1 m2 hm2]
        exact hminutes
    · cases h
  · rintro (rfl | rfl | ⟨sign, h1, h2, m1, m2, rfl, hsign, hdigits, hhours, hminutes⟩)
    · decide
    · decide
    · simp only [List.forall_mem_cons] at hdigits
      obtain ⟨hh1, hh2, hm1, hm2, -⟩ := hdigits
      rw [← hval h1 h2 hh2] at hhours
      rw [← hval m1 m2 hm2] at hminutes
      have hcolon : byteLetters.lit ':' = 58 := by decide
      have hsign' : sign = 43 ∨ sign = 45 := hsign
      simp only [byteLetters] at hh1 hh2 hm1 hm2
      simp [validOffset, hcolon, hsign', hh1, hh2, hm1, hm2, hhours, hminutes]

/-- What the validator says, once the parts are known. -/
theorem Parts.validRfc3339_iff {P : Parsers} {value : String} {fraction offset : Bytes}
    (h : Parts (utf8 value) fraction offset) :
    validRfc3339 P value = true ↔
      validDateTime (utf8 value) = true ∧ fraction.length ≠ 1 ∧ validOffset offset = true ∧
        P.timestamp ((utf8 value).take 19 ++ fraction.take 10 ++ offset) = true := by
  have hpoint : offsetStart (utf8 value) = 20 ↔ fraction.length = 1 := by
    rw [h.start]
    omega
  simp only [validRfc3339, h.drop_start, beq_iff_eq, hpoint]
  by_cases hlong : offsetStart (utf8 value) > 29
  · have hcut := h.take_append_drop hlong
    rw [h.drop_start] at hcut
    rw [if_pos hlong, hcut]
    by_cases hdate : validDateTime (utf8 value) = true <;> by_cases hone : fraction.length = 1 <;>
      by_cases hoffset : validOffset offset = true <;> simp [hdate, hone, hoffset]
  · rw [if_neg hlong, ← h.take_of_short hlong]
    by_cases hdate : validDateTime (utf8 value) = true <;> by_cases hone : fraction.length = 1 <;>
      by_cases hoffset : validOffset offset = true <;> simp [hdate, hone, hoffset]

/-- An offset does not start with a digit or a point. -/
theorem IsOffset.exists_cons {offset : Bytes} (h : IsOffset byteLetters offset) :
    ∃ b rest, offset = b :: rest ∧ isAsciiDigit b = false ∧ b ≠ 0x2E := by
  rcases h with rfl | rfl | ⟨sign, h1, h2, m1, m2, rfl, hsign, -⟩
  · exact ⟨_, _, rfl, by decide⟩
  · exact ⟨_, _, rfl, by decide⟩
  · rcases hsign with rfl | rfl
    · exact ⟨_, _, rfl, by decide⟩
    · exact ⟨_, _, rfl, by decide⟩

/-- A text put together from parts is taken apart into them. -/
theorem parts_append {head fraction offset : Bytes} (hhead : head.length = 19)
    (hfraction : IsFraction byteLetters fraction) (hoffset : IsOffset byteLetters offset) :
    Parts (head ++ fraction ++ offset) fraction offset := by
  obtain ⟨b, rest, rfl, hdigit, hpoint⟩ := hoffset.exists_cons
  have htake : (head ++ fraction ++ b :: rest).take 19 = head := by
    rw [List.append_assoc, ← hhead, List.take_left]
  have hdrop : (head ++ fraction ++ b :: rest).drop 19 = fraction ++ b :: rest := by
    rw [List.append_assoc, ← hhead, List.drop_left]
  have hget : (head ++ fraction ++ b :: rest).getD 19 0 = (fraction ++ b :: rest).headD 0 := by
    rw [List.getD_eq_getElem?_getD, ← List.head?_drop, hdrop, List.headD_eq_head?_getD]
  refine ⟨by rw [htake], ?_, ?_, ?_⟩
  · simp only [List.length_append, List.length_cons]
    omega
  · rcases hfraction with rfl | ⟨ds, rfl, -, hds⟩
    · rw [offsetStart, hget, List.nil_append, List.headD_cons, if_neg hpoint, List.length_nil]
    · have hdrop20 : (head ++ (byteLetters.lit '.' :: ds) ++ b :: rest).drop 20
          = ds ++ b :: rest := by
        rw [show (20 : ℕ) = 19 + 1 from rfl, ← List.drop_drop, hdrop]
        rfl
      have hds' : ∀ d ∈ ds, isAsciiDigit d = true := hds
      rw [offsetStart, hget, if_pos (by rfl), hdrop20, List.takeWhile_append_of_pos hds',
        List.takeWhile_cons, if_neg (by rw [hdigit]; decide), List.append_nil, List.length_cons]
      omega
  · rcases hfraction with rfl | ⟨ds, rfl, -, hds⟩
    · exact .inl rfl
    · exact .inr ⟨ds, rfl, hds⟩

/-- The validator accepts the grammar over bytes. -/
theorem validRfc3339_iff_bytes (P : Parsers) (value : String) :
    validRfc3339 P value = true ↔ ∃ head fraction offset : Bytes,
      utf8 value = head ++ fraction ++ offset ∧ IsDateTime byteLetters head ∧
        IsFraction byteLetters fraction ∧ IsOffset byteLetters offset ∧
        P.timestamp (head ++ fraction.take 10 ++ offset) = true := by
  constructor
  · intro h
    have hlength : 20 ≤ (utf8 value).length := by
      by_contra hshort
      simp [validRfc3339, validDateTime, hshort] at h
    obtain ⟨fraction, offset, hparts⟩ := exists_parts hlength
    obtain ⟨hdate, hone, hoffset, htimestamp⟩ := hparts.validRfc3339_iff.mp h
    rw [hparts.split, List.append_assoc, validDateTime_append_iff hparts.length_take] at hdate
    refine ⟨_, fraction, offset, hparts.split, hdate.2, ?_, (validOffset_iff offset).mp hoffset,
      htimestamp⟩
    rcases hparts.digits with rfl | ⟨ds, rfl, hds⟩
    · exact .inl rfl
    · refine .inr ⟨ds, rfl, ?_, hds⟩
      rintro rfl
      exact hone rfl
  · rintro ⟨head, fraction, offset, hvalue, hdate, hfraction, hoffset, htimestamp⟩
    have hhead : head.length = 19 := by
      obtain ⟨y1, y2, y3, y4, m1, m2, d1, d2, t, h1, h2, n1, n2, s1, s2, rfl, -⟩ := hdate
      rfl
    have hparts := parts_append hhead hfraction hoffset
    have htake : (head ++ fraction ++ offset).take 19 = head := by
      rw [List.append_assoc, ← hhead, List.take_left]
    rw [← hvalue] at hparts
    rw [hparts.validRfc3339_iff, hvalue, htake, List.append_assoc,
      validDateTime_append_iff hhead]
    obtain ⟨b, rest, rfl, -⟩ := hoffset.exists_cons
    refine ⟨⟨by simp, hdate⟩, ?_, (validOffset_iff _).mpr hoffset, htimestamp⟩
    rcases hfraction with rfl | ⟨ds, rfl, hne, -⟩
    · decide
    · have hpositive := List.length_pos_of_ne_nil hne
      rw [List.length_cons]
      omega

/-! ### Characters -/

/-- The literals of the grammar. -/
def literals : List Char := ['-', 'T', 't', ':', '.', 'Z', 'z', '+']

/-- A change of letters that keeps digits, their values and the literals. -/
structure Respells {α β : Type} (L : Letters α) (M : Letters β) (f : α → β) : Prop where
  digit : ∀ a, L.digit a = true → M.digit (f a) = true ∧ M.val (f a) = L.val a
  lit : ∀ c ∈ literals, f (L.lit c) = M.lit c

namespace Respells

variable {α β : Type} {L : Letters α} {M : Letters β} {f : α → β}

theorem digits (h : Respells L M f) {ds : List α} (hds : ∀ d ∈ ds, L.digit d = true) :
    ∀ d ∈ ds.map f, M.digit d = true := by
  intro d hd
  obtain ⟨a, ha, rfl⟩ := List.mem_map.mp hd
  exact (h.digit a (hds a ha)).1

theorem isDateTime (h : Respells L M f) {head : List α} (hhead : IsDateTime L head) :
    IsDateTime M (head.map f) := by
  obtain ⟨y1, y2, y3, y4, m1, m2, d1, d2, t, h1, h2, n1, n2, s1, s2, rfl, ht, hdigits⟩ := hhead
  refine ⟨f y1, f y2, f y3, f y4, f m1, f m2, f d1, f d2, f t, f h1, f h2, f n1, f n2, f s1, f s2,
    ?_, ?_, h.digits hdigits⟩
  · simp only [List.map_cons, List.map_nil, h.lit '-' (by decide), h.lit ':' (by decide)]
  · rcases ht with rfl | rfl
    · exact .inl (h.lit 'T' (by decide))
    · exact .inr (h.lit 't' (by decide))

theorem isFraction (h : Respells L M f) {fraction : List α} (hfraction : IsFraction L fraction) :
    IsFraction M (fraction.map f) := by
  rcases hfraction with rfl | ⟨ds, rfl, hne, hds⟩
  · exact .inl rfl
  · refine .inr ⟨ds.map f, ?_, ?_, h.digits hds⟩
    · rw [List.map_cons, h.lit '.' (by decide)]
    · rwa [Ne, List.map_eq_nil_iff]

theorem isOffset (h : Respells L M f) {offset : List α} (hoffset : IsOffset L offset) :
    IsOffset M (offset.map f) := by
  rcases hoffset with rfl | rfl | ⟨sign, h1, h2, m1, m2, rfl, hsign, hdigits, hhours, hminutes⟩
  · exact .inl (by rw [List.map_singleton, h.lit 'Z' (by decide)])
  · exact .inr (.inl (by rw [List.map_singleton, h.lit 'z' (by decide)]))
  · refine .inr (.inr ⟨f sign, f h1, f h2, f m1, f m2, ?_, ?_, h.digits hdigits, ?_, ?_⟩)
    · simp only [List.map_cons, List.map_nil, h.lit ':' (by decide)]
    · rcases hsign with rfl | rfl
      · exact .inl (h.lit '+' (by decide))
      · exact .inr (h.lit '-' (by decide))
    · rw [(h.digit h1 (hdigits h1 (by simp))).2, (h.digit h2 (hdigits h2 (by simp))).2]
      exact hhours
    · rw [(h.digit m1 (hdigits m1 (by simp))).2, (h.digit m2 (hdigits m2 (by simp))).2]
      exact hminutes

end Respells

/-- The letters of a text of the grammar are digits and literals. -/
theorem mem_grammar {α : Type} {L : Letters α} {head fraction offset : List α}
    (hhead : IsDateTime L head) (hfraction : IsFraction L fraction) (hoffset : IsOffset L offset)
    {a : α} (ha : a ∈ head ++ fraction ++ offset) :
    L.digit a = true ∨ ∃ c ∈ literals, a = L.lit c := by
  rw [List.mem_append, List.mem_append] at ha
  rcases ha with (ha | ha) | ha
  · obtain ⟨y1, y2, y3, y4, m1, m2, d1, d2, t, h1, h2, n1, n2, s1, s2, rfl, ht, hdigits⟩ := hhead
    have hmem : a ∈ [y1, y2, y3, y4, m1, m2, d1, d2, h1, h2, n1, n2, s1, s2] ∨ a = t ∨
        a = L.lit '-' ∨ a = L.lit ':' := by
      simp only [List.mem_cons, List.not_mem_nil, or_false] at ha ⊢
      grind
    rcases hmem with hmem | rfl | rfl | rfl
    · exact .inl (hdigits a hmem)
    · rcases ht with rfl | rfl
      · exact .inr ⟨'T', by decide, rfl⟩
      · exact .inr ⟨'t', by decide, rfl⟩
    · exact .inr ⟨'-', by decide, rfl⟩
    · exact .inr ⟨':', by decide, rfl⟩
  · rcases hfraction with rfl | ⟨ds, rfl, -, hds⟩
    · exact absurd ha List.not_mem_nil
    · rcases List.mem_cons.mp ha with rfl | ha
      · exact .inr ⟨'.', by decide, rfl⟩
      · exact .inl (hds a ha)
  · rcases hoffset with rfl | rfl | ⟨sign, h1, h2, m1, m2, rfl, hsign, hdigits, -⟩
    · exact .inr ⟨'Z', by decide, List.mem_singleton.mp ha⟩
    · exact .inr ⟨'z', by decide, List.mem_singleton.mp ha⟩
    · have hmem : a ∈ [h1, h2, m1, m2] ∨ a = sign ∨ a = L.lit ':' := by
        simp only [List.mem_cons, List.not_mem_nil, or_false] at ha ⊢
        grind
      rcases hmem with hmem | rfl | rfl
      · exact .inl (hdigits a hmem)
      · rcases hsign with rfl | rfl
        · exact .inr ⟨'+', by decide, rfl⟩
        · exact .inr ⟨'-', by decide, rfl⟩
      · exact .inr ⟨':', by decide, rfl⟩

/-- What holds of the digits and of the literals holds of every letter of a text. -/
theorem forall_mem_grammar {α : Type} {L : Letters α} {head fraction offset : List α}
    (hhead : IsDateTime L head) (hfraction : IsFraction L fraction) (hoffset : IsOffset L offset)
    {p : α → Prop} (hdigit : ∀ a, L.digit a = true → p a) (hlit : ∀ c ∈ literals, p (L.lit c)) :
    ∀ a ∈ head ++ fraction ++ offset, p a := by
  intro a ha
  rcases mem_grammar hhead hfraction hoffset ha with hd | ⟨c, hc, rfl⟩
  · exact hdigit a hd
  · exact hlit c hc

/-- A text with a shorter fraction has no other letters. -/
theorem forall_mem_take {α : Type} {head fraction offset : List α} {p : α → Prop}
    (h : ∀ a ∈ head ++ fraction ++ offset, p a) (n : ℕ) :
    ∀ a ∈ head ++ fraction.take n ++ offset, p a := by
  intro a ha
  refine h a ?_
  simp only [List.mem_append] at ha ⊢
  exact ha.imp_left (Or.imp_right List.mem_of_mem_take)

theorem isDigit_iff (c : Char) : c.isDigit = true ↔ 48 ≤ c.toNat ∧ c.toNat ≤ 57 := by
  simp only [Char.isDigit, Bool.and_eq_true, decide_eq_true_eq]
  exact Iff.rfl

theorem respells_toUInt8 : Respells charLetters byteLetters Char.toUInt8 where
  digit c hc := by
    obtain ⟨hlow, hhigh⟩ := (isDigit_iff c).mp hc
    have hbyte : c.toUInt8.toNat = c.toNat := by
      rw [Char.toUInt8, UInt32.toNat_toUInt8]
      exact Nat.mod_eq_of_lt (show c.toNat < 2 ^ 8 by omega)
    refine ⟨?_, ?_⟩
    · show isAsciiDigit c.toUInt8 = true
      simp only [isAsciiDigit, Bool.and_eq_true, decide_eq_true_eq, UInt8.le_iff_toNat_le, hbyte]
      exact ⟨hlow, hhigh⟩
    · show c.toUInt8.toNat - 48 = c.toNat - 48
      rw [hbyte]
  lit _ _ := rfl

theorem respells_asciiChar : Respells byteLetters charLetters asciiChar where
  digit b hb := by
    obtain ⟨hlow, hhigh⟩ := toNat_of_isAsciiDigit hb
    have hchar := (asciiChar_spec (show b.toNat < 128 by omega)).1
    refine ⟨?_, ?_⟩
    · show (asciiChar b).isDigit = true
      rw [isDigit_iff, hchar]
      exact ⟨hlow, hhigh⟩
    · show (asciiChar b).toNat - 48 = b.toNat - 48
      rw [hchar]
  lit := List.all_iff_forall_prop.mp (by decide)

theorem ascii_of_byteLetters {head fraction offset : Bytes} (hhead : IsDateTime byteLetters head)
    (hfraction : IsFraction byteLetters fraction) (hoffset : IsOffset byteLetters offset) :
    ∀ b ∈ head ++ fraction ++ offset, b.toNat < 128 := by
  refine forall_mem_grammar hhead hfraction hoffset ?_ ?_
  · intro b hb
    have hbound := (toNat_of_isAsciiDigit hb).2
    omega
  · exact List.all_iff_forall_prop.mp (by decide)

theorem ascii_of_charLetters {head fraction offset : List Char}
    (hhead : IsDateTime charLetters head)
    (hfraction : IsFraction charLetters fraction) (hoffset : IsOffset charLetters offset) :
    ∀ c ∈ head ++ fraction ++ offset, c.toNat < 128 := by
  refine forall_mem_grammar hhead hfraction hoffset ?_ ?_
  · intro c hc
    have hbound := ((isDigit_iff c).mp hc).2
    omega
  · exact List.all_iff_forall_prop.mp (by decide)

/-- **The validator accepts the grammar.** -/
theorem validRfc3339_iff (P : Parsers) (value : String) :
    validRfc3339 P value = true ↔ IsRfc3339 P value := by
  rw [validRfc3339_iff_bytes]
  constructor
  · rintro ⟨head, fraction, offset, hvalue, hhead, hfraction, hoffset, htimestamp⟩
    have hascii := ascii_of_byteLetters hhead hfraction hoffset
    have htext : value = String.ofList ((head ++ fraction ++ offset).map asciiChar) := by
      have hread := fromUtf8?_utf8 value
      rw [hvalue, fromUtf8?_ascii hascii] at hread
      exact (Option.some.inj hread).symm
    refine ⟨head.map asciiChar, fraction.map asciiChar, offset.map asciiChar, ?_,
      respells_asciiChar.isDateTime hhead, respells_asciiChar.isFraction hfraction,
      respells_asciiChar.isOffset hoffset, ?_⟩
    · rw [htext, String.toList_ofList, List.map_append, List.map_append]
    · rw [← List.map_take, ← List.map_append, ← List.map_append,
        utf8_ofList_asciiChar (forall_mem_take hascii 10)]
      exact htimestamp
  · rintro ⟨head, fraction, offset, hvalue, hhead, hfraction, hoffset, htimestamp⟩
    have hascii := ascii_of_charLetters hhead hfraction hoffset
    have htext : value = String.ofList (head ++ fraction ++ offset) := by
      rw [← hvalue, String.ofList_toList]
    refine ⟨head.map Char.toUInt8, fraction.map Char.toUInt8, offset.map Char.toUInt8, ?_,
      respells_toUInt8.isDateTime hhead, respells_toUInt8.isFraction hfraction,
      respells_toUInt8.isOffset hoffset, ?_⟩
    · rw [htext, utf8_ofList_ascii hascii, List.map_append, List.map_append]
    · rw [utf8_ofList_ascii (forall_mem_take hascii 10)] at htimestamp
      rw [← List.map_take, ← List.map_append, ← List.map_append]
      exact htimestamp

/-- Nothing in an RFC3339 text needs escaping. -/
theorem IsRfc3339.harmless {P : Parsers} {value : String} (h : IsRfc3339 P value) :
    ∀ c ∈ value.toList, c.isDigit = true ∨ c ∈ "TtZz:.+-".toList := by
  have hliteral : ∀ c ∈ literals, c ∈ "TtZz:.+-".toList :=
    List.all_iff_forall_prop.mp (by decide)
  obtain ⟨head, fraction, offset, hvalue, hhead, hfraction, hoffset, -⟩ := h
  rw [hvalue]
  exact forall_mem_grammar hhead hfraction hoffset (fun c hc => .inl hc)
    (fun l hl => .inr (hliteral l hl))

/-! ## The two types -/

namespace ItemRevision

def fromStr (P : Parsers) (value : String) : ResolverResult ItemRevision := new P value

def tryFrom (P : Parsers) (value : String) : ResolverResult ItemRevision := new P value

def display (revision : ItemRevision) : String := revision.asStr

def intoString (revision : ItemRevision) : String := revision.asStr

def toJson (revision : ItemRevision) : Json := .str revision.asStr

/-- The ways to make a revision of a text. -/
inductive BuiltFrom (P : Parsers) (value : String) (revision : ItemRevision) : Prop
  | new (h : ItemRevision.new P value = .ok revision)
  | fromStr (h : ItemRevision.fromStr P value = .ok revision)
  | tryFrom (h : ItemRevision.tryFrom P value = .ok revision)
  | deserialize (h : ItemRevision.ofJson P (.str value) = some revision)

theorem new_eq_ok {P : Parsers} {value : String} {revision : ItemRevision} :
    ItemRevision.new P value = .ok revision ↔
      validRfc3339 P value = true ∧ revision.asStr = value := by
  obtain ⟨text⟩ := revision
  rw [ItemRevision.new, Except.ite_eq_ok, ItemRevision.mk.injEq, eq_comm (a := value)]

theorem BuiltFrom.new_eq {P : Parsers} {value : String} {revision : ItemRevision}
    (h : BuiltFrom P value revision) : ItemRevision.new P value = .ok revision := by
  cases h with
  | new h => exact h
  | fromStr h => exact h
  | tryFrom h => exact h
  | deserialize h => exact Except.toOption_eq_some.mp h

end ItemRevision

namespace ServiceTimestamp

def fromStr (P : Parsers) (value : String) : ResolverResult ServiceTimestamp := new P value

def tryFrom (P : Parsers) (value : String) : ResolverResult ServiceTimestamp := new P value

def ofJson (P : Parsers) : Json → Option ServiceTimestamp
  | .str s => (ServiceTimestamp.new P s).toOption
  | _ => none

def display (timestamp : ServiceTimestamp) : String := timestamp.asStr

def intoString (timestamp : ServiceTimestamp) : String := timestamp.asStr

def toJson (timestamp : ServiceTimestamp) : Json := .str timestamp.asStr

/-- The ways to make a timestamp of a text. -/
inductive BuiltFrom (P : Parsers) (value : String) (timestamp : ServiceTimestamp) : Prop
  | new (h : ServiceTimestamp.new P value = .ok timestamp)
  | fromStr (h : ServiceTimestamp.fromStr P value = .ok timestamp)
  | tryFrom (h : ServiceTimestamp.tryFrom P value = .ok timestamp)
  | deserialize (h : ServiceTimestamp.ofJson P (.str value) = some timestamp)

theorem new_eq_ok {P : Parsers} {value : String} {timestamp : ServiceTimestamp} :
    ServiceTimestamp.new P value = .ok timestamp ↔
      validRfc3339 P value = true ∧ timestamp.asStr = value := by
  obtain ⟨text⟩ := timestamp
  rw [ServiceTimestamp.new, Except.ite_eq_ok, ServiceTimestamp.mk.injEq, eq_comm (a := value)]

theorem BuiltFrom.new_eq {P : Parsers} {value : String} {timestamp : ServiceTimestamp}
    (h : BuiltFrom P value timestamp) : ServiceTimestamp.new P value = .ok timestamp := by
  cases h with
  | new h => exact h
  | fromStr h => exact h
  | tryFrom h => exact h
  | deserialize h => exact Except.toOption_eq_some.mp h

end ServiceTimestamp

/-- Cut at its quotes, the header is the weakness mark, the revision and nothing. -/
theorem splitOn_ifMatchHeader {P : Parsers} {revision : ItemRevision}
    (h : IsRfc3339 P revision.asStr) :
    revision.ifMatchHeader.toList.splitOn '"' = [['W', '/'], revision.asStr.toList, []] := by
  have hquote : '"' ∉ revision.asStr.toList := by
    intro hmem
    rcases h.harmless '"' hmem with hdigit | hliteral
    · exact absurd hdigit (by decide)
    · exact absurd hliteral (by decide)
  rw [splitOn_eq_iff]
  refine ⟨List.cons_ne_nil _ _, ?_, ?_⟩
  · simp [hquote]
  · simp [ItemRevision.ifMatchHeader, List.intercalate]

/-- **Revision text is validated exactly and kept as it is.** The validator has a result for every
    string, and accepts the grammar; however a revision or a timestamp is made, it holds digits and
    eight harmless characters only, makes a header with one quoted value, and gives the original
    text back. -/
theorem revisionText_exact (P : Parsers) :
    (∀ value, ∃ accepted, validRfc3339Checked P value = some accepted ∧
      (accepted = true ↔ IsRfc3339 P value)) ∧
    (∀ value revision, ItemRevision.BuiltFrom P value revision →
      (∀ c ∈ revision.asStr.toList, c.isDigit = true ∨ c ∈ "TtZz:.+-".toList) ∧
      revision.ifMatchHeader.toList.splitOn '"' = [['W', '/'], value.toList, []] ∧
      revision.asStr = value ∧ revision.display = value ∧ revision.intoString = value ∧
      revision.toJson = .str value) ∧
    (∀ value timestamp, ServiceTimestamp.BuiltFrom P value timestamp →
      (∀ c ∈ timestamp.asStr.toList, c.isDigit = true ∨ c ∈ "TtZz:.+-".toList) ∧
      timestamp.asStr = value ∧ timestamp.display = value ∧ timestamp.intoString = value ∧
      timestamp.toJson = .str value) := by
  refine ⟨?_, ?_, ?_⟩
  · intro value
    exact ⟨_, validRfc3339Checked_eq P value, validRfc3339_iff P value⟩
  · intro value revision hbuilt
    obtain ⟨hvalid, rfl⟩ := ItemRevision.new_eq_ok.mp hbuilt.new_eq
    have hgrammar := (validRfc3339_iff P _).mp hvalid
    exact ⟨hgrammar.harmless, splitOn_ifMatchHeader hgrammar, rfl, rfl, rfl, rfl⟩
  · intro value timestamp hbuilt
    obtain ⟨hvalid, rfl⟩ := ServiceTimestamp.new_eq_ok.mp hbuilt.new_eq
    exact ⟨((validRfc3339_iff P _).mp hvalid).harmless, rfl, rfl, rfl, rfl⟩

/-- A revision with a fraction and an offset. -/
theorem revisionText_exact_offset :
    ∃ revision : ItemRevision,
      ItemRevision.new ⟨fun _ => none, fun _ => true⟩ "2026-10-17T12:34:56.1234+05:30"
        = .ok revision ∧
      revision.asStr = "2026-10-17T12:34:56.1234+05:30" ∧
      revision.ifMatchHeader.toList.splitOn '"'
        = [['W', '/'], "2026-10-17T12:34:56.1234+05:30".toList, []] := by
  have hvalid : validRfc3339 ⟨fun _ => none, fun _ => true⟩ "2026-10-17T12:34:56.1234+05:30"
      = true := by decide +kernel
  have hnew := ItemRevision.new_eq_ok.mpr
    ⟨hvalid, (rfl : (ItemRevision.mk "2026-10-17T12:34:56.1234+05:30").asStr = _)⟩
  obtain ⟨-, hheader, htext, -⟩ := (revisionText_exact _).2.1 _ _ (.new hnew)
  exact ⟨_, hnew, htext, hheader⟩

end SerenSecrets
