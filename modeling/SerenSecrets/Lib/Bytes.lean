import Mathlib.Algebra.Group.Int.Defs
import Mathlib.Algebra.Group.Nat.Defs
import Mathlib.Data.List.Basic

set_option autoImplicit false

/-! # Byte strings, text and self-delimiting encodings

Byte strings are `List UInt8` and text is `String`, whose UTF-8 bytes are `utf8`. `FixedBytes n`
is an array of exactly `n` bytes.

An encoding is *self-delimiting* (`SelfDelimiting`) when it can be split off the front of any
longer byte string in one way only. Fixed width gives it, and so does a terminator the encoding
never contains. Concatenated fields are then read back one by one (`SelfDelimiting.split`), which
is how every byte format with several fields is shown to be unambiguous. -/

/-- A byte string of any length. -/
abbrev Bytes := List UInt8

/-! ## Arrays of a fixed length -/

/-- Exactly `n` bytes. -/
structure FixedBytes (n : ℕ) where
  toBytes : Bytes
  length_toBytes : toBytes.length = n
  deriving DecidableEq

attribute [simp] FixedBytes.length_toBytes

namespace FixedBytes

variable {n : ℕ}

theorem toBytes_injective : Function.Injective (FixedBytes.toBytes : FixedBytes n → Bytes) := by
  rintro ⟨a, ha⟩ ⟨b, hb⟩ h
  simpa using h

@[simp] theorem toBytes_inj {a b : FixedBytes n} : a.toBytes = b.toBytes ↔ a = b :=
  toBytes_injective.eq_iff

/-- Read exactly `n` bytes from a byte string of that length. -/
def ofBytes? (n : ℕ) (bytes : Bytes) : Option (FixedBytes n) :=
  if h : bytes.length = n then some ⟨bytes, h⟩ else none

@[simp] theorem ofBytes?_toBytes (a : FixedBytes n) : ofBytes? n a.toBytes = some a := by
  simp [ofBytes?]

theorem ofBytes?_eq_some {bytes : Bytes} {a : FixedBytes n} :
    ofBytes? n bytes = some a ↔ bytes = a.toBytes := by
  constructor
  · intro h
    unfold ofBytes? at h
    split at h
    · rw [← Option.some.inj h]
    · exact absurd h (by simp)
  · rintro rfl
    exact ofBytes?_toBytes a

/-- The array of `n` copies of one byte. -/
def replicate (n : ℕ) (b : UInt8) : FixedBytes n :=
  ⟨List.replicate n b, List.length_replicate ..⟩

end FixedBytes

/-! ## UTF-8 text -/

/-- The UTF-8 bytes of a text. -/
def utf8 (s : String) : Bytes := s.toByteArray.data.toList

/-- The text whose UTF-8 bytes are given, if they are valid UTF-8. -/
def fromUtf8? (bytes : Bytes) : Option String := String.fromUTF8? ⟨bytes.toArray⟩

/-- The unit at the head of a byte string: the length of a character, or of the longest start of one
    that what follows does not complete. -/
def headUnit (first : UInt8) (rest : Bytes) : ℕ × Bool :=
  -- The range of the second byte and the length of the character.
  let shape : Option (UInt8 × UInt8 × ℕ) :=
    if 0xC2 ≤ first ∧ first ≤ 0xDF then some (0x80, 0xBF, 2)
    else if first = 0xE0 then some (0xA0, 0xBF, 3)
    else if first = 0xED then some (0x80, 0x9F, 3)
    else if 0xE1 ≤ first ∧ first ≤ 0xEF then some (0x80, 0xBF, 3)
    else if first = 0xF0 then some (0x90, 0xBF, 4)
    else if 0xF1 ≤ first ∧ first ≤ 0xF3 then some (0x80, 0xBF, 4)
    else if first = 0xF4 then some (0x80, 0x8F, 4)
    else none
  if first < 0x80 then (1, true)
  else
    match shape, rest with
    | some (low, high, length), second :: more =>
        if second < low ∨ high < second then (1, false)
        else
          let tail := (more.take (length - 2)).takeWhile (fun b => 0x80 ≤ b && b ≤ 0xBF)
          (2 + tail.length, tail.length = length - 2)
    | _, _ => (1, false)

/-- Replace each ill-formed unit by U+FFFD; the first argument bounds the number of units. -/
def replaceIllFormed : ℕ → Bytes → Bytes
  | 0, _ => []
  | _, [] => []
  | n + 1, first :: rest =>
      let (length, complete) := headUnit first rest
      (if complete then (first :: rest).take length else [0xEF, 0xBF, 0xBD])
        ++ replaceIllFormed n ((first :: rest).drop length)

/-- The text of the bytes, with U+FFFD where they are not UTF-8. -/
def fromUtf8Lossy (bytes : Bytes) : String :=
  match fromUtf8? bytes with
  | some text => text
  | none => (fromUtf8? (replaceIllFormed bytes.length bytes)).getD ""

example : replaceIllFormed 9 [0x61, 0xF0, 0x9F, 0x62, 0xC3, 0xA9, 0xFF]
    = [0x61, 0xEF, 0xBF, 0xBD, 0x62, 0xC3, 0xA9, 0xEF, 0xBF, 0xBD] := by decide

theorem utf8_injective : Function.Injective utf8 := by
  intro a b h
  apply String.toByteArray_inj.mp
  apply ByteArray.ext
  exact Array.ext' h

@[simp] theorem utf8_inj {a b : String} : utf8 a = utf8 b ↔ a = b :=
  utf8_injective.eq_iff

@[simp] theorem utf8_append (a b : String) : utf8 (a ++ b) = utf8 a ++ utf8 b := by
  simp [utf8]

/-- The bytes of a formatted text are those of its pieces. -/
theorem utf8_join (pieces : List String) : utf8 (String.join pieces) = pieces.flatMap utf8 := by
  have haccumulate : ∀ start : String, utf8 (pieces.foldl (fun r s => r ++ s) start)
      = utf8 start ++ pieces.flatMap utf8 := by
    induction pieces with
    | nil => simp
    | cons piece pieces ih =>
        intro start
        rw [List.foldl_cons, ih, utf8_append, List.flatMap_cons, List.append_assoc]
  exact haccumulate ""

theorem utf8_ofList_cons (c : Char) (l : List Char) :
    utf8 (String.ofList (c :: l)) = String.utf8EncodeChar c ++ utf8 (String.ofList l) := by
  simp [utf8, List.utf8Encode]

@[simp] theorem fromUtf8?_utf8 (s : String) : fromUtf8? (utf8 s) = some s := by
  have hbytes : (⟨(utf8 s).toArray⟩ : ByteArray) = s.toByteArray := rfl
  rw [fromUtf8?, hbytes, String.fromUTF8?, dif_pos s.isValidUTF8]
  rfl

theorem utf8_of_fromUtf8? {bytes : Bytes} {s : String} (h : fromUtf8? bytes = some s) :
    utf8 s = bytes := by
  unfold fromUtf8? String.fromUTF8? at h
  split at h
  · rw [← Option.some.inj h]
    rfl
  · exact absurd h (by simp)

/-- An ASCII character is encoded as the one byte of its code point. -/
theorem utf8EncodeChar_of_ascii {c : Char} (h : c.toNat < 128) :
    String.utf8EncodeChar c = [c.toUInt8] := by
  have hsize : c.utf8Size = 1 := by
    rw [Char.utf8Size_eq_one_iff, UInt32.le_iff_toNat_le]
    exact Nat.le_of_lt_succ h
  rw [String.utf8EncodeChar_eq_singleton hsize]
  rfl

/-- ASCII text has one byte per character. -/
theorem utf8_ofList_ascii {l : List Char} (h : ∀ c ∈ l, c.toNat < 128) :
    utf8 (String.ofList l) = l.map Char.toUInt8 := by
  induction l with
  | nil => rfl
  | cons c l ih =>
      rw [utf8_ofList_cons, utf8EncodeChar_of_ascii (h c (List.mem_cons_self ..)),
        ih (fun d hd => h d (List.mem_cons_of_mem _ hd))]
      rfl

/-- The character of a byte of ASCII. -/
def asciiChar (b : UInt8) : Char := Char.ofNat b.toNat

theorem asciiChar_spec {b : UInt8} (h : b.toNat < 128) :
    (asciiChar b).toNat = b.toNat ∧ (asciiChar b).toUInt8 = b := by
  have hall : ∀ n < 128, (Char.ofNat n).toNat = n ∧ (Char.ofNat n).toUInt8 = UInt8.ofNat n := by
    decide
  obtain ⟨hnat, hbyte⟩ := hall b.toNat h
  exact ⟨hnat, hbyte.trans (UInt8.ofNat_toNat ..)⟩

theorem utf8_ofList_asciiChar {bytes : Bytes} (h : ∀ b ∈ bytes, b.toNat < 128) :
    utf8 (String.ofList (bytes.map asciiChar)) = bytes := by
  rw [utf8_ofList_ascii, List.map_map]
  · refine (List.map_congr_left fun b hb => ?_).trans (List.map_id bytes)
    exact (asciiChar_spec (h b hb)).2
  · intro c hc
    obtain ⟨b, hb, rfl⟩ := List.mem_map.mp hc
    rw [(asciiChar_spec (h b hb)).1]
    exact h b hb

/-- The text of ASCII bytes. -/
theorem fromUtf8?_ascii {bytes : Bytes} (h : ∀ b ∈ bytes, b.toNat < 128) :
    fromUtf8? bytes = some (String.ofList (bytes.map asciiChar)) := by
  rw [← fromUtf8?_utf8, utf8_ofList_asciiChar h]

/-- A byte below 128 stands for the ASCII character itself, in no other character's encoding. -/
theorem toNat_of_mem_utf8EncodeChar {c : Char} {b : UInt8} (hb : b ∈ String.utf8EncodeChar c)
    (h : b.toNat < 128) : c.toNat = b.toNat := by
  -- Every byte of a multi-byte sequence has its top bit set.
  have hhigh : ∀ m k, 128 ≤ k → m + k < 256 → b ≠ UInt8.ofNat (m + k) := by
    rintro m k hk hlt rfl
    rw [UInt8.toNat_ofNat', Nat.mod_eq_of_lt hlt] at h
    omega
  revert hb
  fun_cases String.utf8EncodeChar c with
  | case1 v hv =>
      intro hb
      rw [List.mem_singleton.mp hb, UInt8.toNat_ofNat']
      exact (Nat.mod_eq_of_lt (Nat.lt_succ_of_le (Nat.le_trans hv (by decide)))).symm
  | case2 =>
      simp only [List.mem_cons, List.not_mem_nil, or_false]
      rintro (hb | hb) <;> exact absurd hb (hhigh _ _ (by decide) (by omega))
  | case3 =>
      simp only [List.mem_cons, List.not_mem_nil, or_false]
      rintro (hb | hb | hb) <;> exact absurd hb (hhigh _ _ (by decide) (by omega))
  | case4 =>
      simp only [List.mem_cons, List.not_mem_nil, or_false]
      rintro (hb | hb | hb | hb) <;> exact absurd hb (hhigh _ _ (by decide) (by omega))

theorem utf8_ofList_eq_flatMap (l : List Char) :
    utf8 (String.ofList l) = l.flatMap String.utf8EncodeChar := by
  simp [utf8, List.utf8Encode]

/-- A text without an ASCII character has no such byte. -/
theorem notMem_utf8 {s : String} {c : Char} (hc : c.toNat < 128) (h : c ∉ s.toList) :
    c.toUInt8 ∉ utf8 s := by
  intro hmem
  rw [← String.ofList_toList (s := s), utf8_ofList_eq_flatMap] at hmem
  obtain ⟨d, hd, hcd⟩ := List.mem_flatMap.mp hmem
  have hbyte : c.toUInt8.toNat = c.toNat := by
    show UInt8.toNat (UInt32.toUInt8 c.val) = c.toNat
    rw [UInt32.toNat_toUInt8]
    exact Nat.mod_eq_of_lt (Nat.lt_trans hc (by decide))
  have hdc := toNat_of_mem_utf8EncodeChar hcd (by omega)
  have : d = c := Char.toNat_inj.mp (by rw [hdc, hbyte])
  exact h (this ▸ hd)

/-- The characters with the Unicode property White_Space. -/
def isWhitespace (c : Char) : Bool :=
  let n := c.toNat
  (0x09 ≤ n && n ≤ 0x0D) || n == 0x20 || n == 0x85 || n == 0xA0 || n == 0x1680
    || (0x2000 ≤ n && n ≤ 0x200A) || n == 0x2028 || n == 0x2029 || n == 0x202F || n == 0x205F
    || n == 0x3000

/-- Nothing is left of the text once whitespace is trimmed off both ends. -/
def isBlank (s : String) : Bool := s.toList.all isWhitespace

/-! ## Self-delimiting encodings -/

/-- The encoding `f` can be split off the front of a longer string in one way only. -/
def SelfDelimiting {α β : Type} (f : α → List β) : Prop :=
  ∀ a b x y, f a ++ x = f b ++ y → a = b ∧ x = y

/-- Two strings cut at their first occurrence of `t` are equal piece by piece. -/
theorem append_terminator_inj {β : Type} {u v x y : List β} {t : β} (hu : t ∉ u) (hv : t ∉ v)
    (h : u ++ t :: x = v ++ t :: y) : u = v ∧ x = y := by
  induction u generalizing v with
  | nil =>
      cases v with
      | nil => simpa using h
      | cons c v =>
          simp only [List.nil_append, List.cons_append, List.cons.injEq] at h
          exact absurd h.1 (fun hc => hv (by simp [hc]))
  | cons c u ih =>
      cases v with
      | nil =>
          simp only [List.nil_append, List.cons_append, List.cons.injEq] at h
          exact absurd h.1 (fun hc => hu (by simp [hc]))
      | cons d v =>
          simp only [List.cons_append, List.cons.injEq] at h
          simp only [List.mem_cons, not_or] at hu hv
          obtain ⟨huv, hxy⟩ := ih hu.2 hv.2 h.2
          exact ⟨by rw [h.1, huv], hxy⟩

namespace SelfDelimiting

variable {α β : Type}

/-- Read the first field: equal strings that start with a self-delimiting field have the same
    field and the same remainder. -/
theorem split {f : α → List β} (hf : SelfDelimiting f) {a b : α} {x y : List β}
    (h : f a ++ x = f b ++ y) : a = b ∧ x = y :=
  hf a b x y h

/-- Injective encodings of one fixed width are self-delimiting. -/
theorem of_length {f : α → List β} (hinj : Function.Injective f) {n : ℕ}
    (hlen : ∀ a, (f a).length = n) : SelfDelimiting f := by
  intro a b x y h
  obtain ⟨hab, hxy⟩ := List.append_inj h (by rw [hlen, hlen])
  exact ⟨hinj hab, hxy⟩

end SelfDelimiting

/-- A fixed-length array read off the front. -/
theorem FixedBytes.selfDelimiting (n : ℕ) :
    SelfDelimiting (FixedBytes.toBytes : FixedBytes n → Bytes) :=
  SelfDelimiting.of_length FixedBytes.toBytes_injective FixedBytes.length_toBytes

/-! ## Big-endian integers and length prefixes -/

/-- The last `width` base-256 digits of a number, the most significant first. -/
def beBytes : ℕ → ℕ → Bytes
  | 0, _ => []
  | width + 1, n => beBytes width (n / 256) ++ [UInt8.ofNat n]

example : beBytes 3 0x01020304 = [2, 3, 4] := by decide

@[simp] theorem length_beBytes (width n : ℕ) : (beBytes width n).length = width := by
  induction width generalizing n with
  | zero => rfl
  | succ width ih => rw [beBytes, List.length_append, ih, List.length_singleton]

/-- A number that fits in the width is determined by its digits. -/
theorem beBytes_inj {width m n : ℕ} (hm : m < 256 ^ width) (hn : n < 256 ^ width)
    (h : beBytes width m = beBytes width n) : m = n := by
  induction width generalizing m n with
  | zero =>
      rw [Nat.pow_zero] at hm hn
      omega
  | succ width ih =>
      rw [Nat.pow_succ] at hm hn
      obtain ⟨hhigh, hlow⟩ := List.append_inj' h rfl
      have hquotient : m / 256 = n / 256 := ih (by omega) (by omega) hhigh
      have hdigit := congrArg UInt8.toNat (List.singleton_inj.mp hlow)
      rw [UInt8.toNat_ofNat', UInt8.toNat_ofNat'] at hdigit
      omega

/-- A byte string after its length in eight bytes. -/
def lengthPrefixed (bytes : Bytes) : Bytes := beBytes 8 bytes.length ++ bytes

theorem lengthPrefixed_ne_nil (bytes : Bytes) : lengthPrefixed bytes ≠ [] := by
  intro h
  have hlen := congrArg List.length h
  rw [lengthPrefixed, List.length_append, length_beBytes, List.length_nil] at hlen
  omega

/-- Byte strings whose length fits in eight bytes are read off the front. -/
theorem lengthPrefixed_split {a b x y : Bytes} (ha : a.length < 2 ^ 64) (hb : b.length < 2 ^ 64)
    (h : lengthPrefixed a ++ x = lengthPrefixed b ++ y) : a = b ∧ x = y := by
  simp only [lengthPrefixed, List.append_assoc] at h
  obtain ⟨hlen, hrest⟩ := List.append_inj h (by rw [length_beBytes, length_beBytes])
  exact List.append_inj hrest (beBytes_inj ha hb hlen)

/-! ## Buffers that grow -/

/-- A byte buffer with its capacity. When it grows, the old allocation is given up with its contents
    in it; `freed` holds these, the last one first. -/
structure GrowBuffer where
  bytes : Bytes
  capacity : ℕ
  freed : List Bytes
  fits : bytes.length ≤ capacity

namespace GrowBuffer

def withCapacity (capacity : ℕ) : GrowBuffer := ⟨[], capacity, [], Nat.zero_le capacity⟩

/-- Append a piece. Where it does not fit, the capacity is doubled, or more if need be. -/
def write (buf : GrowBuffer) (piece : Bytes) : GrowBuffer :=
  if h : (buf.bytes ++ piece).length ≤ buf.capacity then
    { buf with bytes := buf.bytes ++ piece, fits := h }
  else
    { bytes := buf.bytes ++ piece
      capacity := max (max (2 * buf.capacity) (buf.bytes ++ piece).length) 8
      freed := buf.bytes :: buf.freed
      fits := by omega }

def writeAll (buf : GrowBuffer) (pieces : List Bytes) : GrowBuffer := pieces.foldl write buf

@[simp] theorem bytes_write (buf : GrowBuffer) (piece : Bytes) :
    (buf.write piece).bytes = buf.bytes ++ piece := by
  unfold write
  split <;> rfl

@[simp] theorem bytes_writeAll (buf : GrowBuffer) (pieces : List Bytes) :
    (buf.writeAll pieces).bytes = buf.bytes ++ pieces.flatten := by
  induction pieces generalizing buf with
  | nil => simp [writeAll]
  | cons piece pieces ih =>
      rw [writeAll, List.foldl_cons, ← writeAll, ih, bytes_write, List.flatten_cons,
        List.append_assoc]

/-- A piece that fits changes neither the capacity nor what was given up. -/
theorem write_of_fits {buf : GrowBuffer} {piece : Bytes}
    (h : buf.bytes.length + piece.length ≤ buf.capacity) :
    (buf.write piece).freed = buf.freed ∧ (buf.write piece).capacity = buf.capacity := by
  rw [← List.length_append] at h
  rw [write, dif_pos h]
  exact ⟨rfl, rfl⟩

theorem freed_write_ne_nil {buf : GrowBuffer} {piece : Bytes}
    (h : buf.capacity < buf.bytes.length + piece.length) : (buf.write piece).freed ≠ [] := by
  rw [← List.length_append] at h
  rw [write, dif_neg (Nat.not_le.mpr h)]
  exact List.cons_ne_nil _ _

/-- However a text is cut into pieces, writing it gives up no allocation exactly if it fits. -/
theorem freed_writeAll (buf : GrowBuffer) (pieces : List Bytes) :
    (buf.writeAll pieces).freed = [] ↔
      buf.freed = [] ∧ buf.bytes.length + pieces.flatten.length ≤ buf.capacity := by
  induction pieces generalizing buf with
  | nil => simpa [writeAll] using fun _ => buf.fits
  | cons piece pieces ih =>
      rw [writeAll, List.foldl_cons, ← writeAll, ih, bytes_write, List.flatten_cons,
        List.length_append, List.length_append, Nat.add_assoc]
      by_cases h : buf.bytes.length + piece.length ≤ buf.capacity
      · obtain ⟨hfreed, hcapacity⟩ := write_of_fits h
        rw [hfreed, hcapacity]
      · constructor
        · rintro ⟨hfreed, -⟩
          exact absurd hfreed (freed_write_ne_nil (Nat.lt_of_not_le h))
        · rintro ⟨-, hlength⟩
          omega

end GrowBuffer
