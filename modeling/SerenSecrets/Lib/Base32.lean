import SerenSecrets.Lib.Bytes

set_option autoImplicit false

/-! # Base32 without padding

RFC 4648 base32 with the standard alphabet and no padding characters, as strings of bits: a symbol
stands for five bits, most significant first, and the last group of an encoding is filled up with
zeros. Decoding refuses a character outside the alphabet, a number of symbols that no byte string
needs, and filling bits that are not zero, so that every byte string has one spelling
(`decode_eq_some_iff`). -/

namespace Base32

/-! ## Bits of bytes -/

def bitsOfByte (b : UInt8) : List Bool :=
  [b.toNat.testBit 7, b.toNat.testBit 6, b.toNat.testBit 5, b.toNat.testBit 4, b.toNat.testBit 3,
    b.toNat.testBit 2, b.toNat.testBit 1, b.toNat.testBit 0]

def byteOfBits (b7 b6 b5 b4 b3 b2 b1 b0 : Bool) : UInt8 :=
  UInt8.ofNat (b7.toNat * 128 + b6.toNat * 64 + b5.toNat * 32 + b4.toNat * 16 + b3.toNat * 8
    + b2.toNat * 4 + b1.toNat * 2 + b0.toNat)

theorem byteOfBits_bitsOfByte (b : UInt8) :
    byteOfBits (b.toNat.testBit 7) (b.toNat.testBit 6) (b.toNat.testBit 5) (b.toNat.testBit 4)
      (b.toNat.testBit 3) (b.toNat.testBit 2) (b.toNat.testBit 1) (b.toNat.testBit 0) = b := by
  have hall : ∀ n : Fin 256, byteOfBits (n.val.testBit 7) (n.val.testBit 6) (n.val.testBit 5)
      (n.val.testBit 4) (n.val.testBit 3) (n.val.testBit 2) (n.val.testBit 1) (n.val.testBit 0)
      = UInt8.ofNat n.val := by
    decide +kernel
  simpa using hall ⟨b.toNat, b.toNat_lt⟩

theorem bitsOfByte_byteOfBits (b7 b6 b5 b4 b3 b2 b1 b0 : Bool) :
    bitsOfByte (byteOfBits b7 b6 b5 b4 b3 b2 b1 b0) = [b7, b6, b5, b4, b3, b2, b1, b0] := by
  revert b7 b6 b5 b4 b3 b2 b1 b0
  decide +kernel

def bitsOfBytes (bytes : Bytes) : List Bool := bytes.flatMap bitsOfByte

/-- The bytes of a bit string. What is left over must be shorter than a symbol and zero. -/
def bytesOfBits : List Bool → Option Bytes
  | b7 :: b6 :: b5 :: b4 :: b3 :: b2 :: b1 :: b0 :: rest => do
      let bytes ← bytesOfBits rest
      some (byteOfBits b7 b6 b5 b4 b3 b2 b1 b0 :: bytes)
  | rest => if rest.length < 5 ∧ rest.all (! ·) then some [] else none

/-! ## Symbols -/

/-- The character of a five-bit value. -/
def quintetChar (n : ℕ) : Char := if n < 26 then Char.ofNat (65 + n) else Char.ofNat (24 + n)

/-- The five-bit value of a character of the alphabet. -/
def charQuintet? (c : Char) : Option ℕ :=
  if 'A' ≤ c ∧ c ≤ 'Z' then some (c.toNat - 65)
  else if '2' ≤ c ∧ c ≤ '7' then some (c.toNat - 24)
  else none

def symbol (a b c d e : Bool) : Char :=
  quintetChar (a.toNat * 16 + b.toNat * 8 + c.toNat * 4 + d.toNat * 2 + e.toNat)

def symbolBits? (c : Char) : Option (List Bool) :=
  (charQuintet? c).map fun n => [n.testBit 4, n.testBit 3, n.testBit 2, n.testBit 1, n.testBit 0]

theorem symbolBits?_symbol (a b c d e : Bool) :
    symbolBits? (symbol a b c d e) = some [a, b, c, d, e] := by
  revert a b c d e
  decide

/-- Every value has one character. -/
theorem quintetChar_of_charQuintet? {c : Char} {n : ℕ} (h : charQuintet? c = some n) :
    n < 32 ∧ quintetChar n = c := by
  unfold charQuintet? at h
  split_ifs at h with hletter hdigit
  · obtain rfl := Option.some.inj h
    have hlo : 65 ≤ c.toNat := hletter.1
    have hhi : c.toNat ≤ 90 := hletter.2
    refine ⟨by omega, ?_⟩
    rw [quintetChar, if_pos (by omega), show 65 + (c.toNat - 65) = c.toNat by omega,
      Char.ofNat_toNat]
  · obtain rfl := Option.some.inj h
    have hlo : 50 ≤ c.toNat := hdigit.1
    have hhi : c.toNat ≤ 55 := hdigit.2
    refine ⟨by omega, ?_⟩
    rw [quintetChar, if_neg (by omega), show 24 + (c.toNat - 24) = c.toNat by omega,
      Char.ofNat_toNat]

theorem symbol_of_symbolBits? {c : Char} {bits : List Bool} (h : symbolBits? c = some bits) :
    ∃ b4 b3 b2 b1 b0, bits = [b4, b3, b2, b1, b0] ∧ symbol b4 b3 b2 b1 b0 = c := by
  obtain ⟨n, hn, rfl⟩ := Option.map_eq_some_iff.mp h
  obtain ⟨hlt, rfl⟩ := quintetChar_of_charQuintet? hn
  have hall : ∀ m < 32, symbol (m.testBit 4) (m.testBit 3) (m.testBit 2) (m.testBit 1)
      (m.testBit 0) = quintetChar m := by
    decide
  exact ⟨_, _, _, _, _, rfl, hall n hlt⟩

/-! ## Encoding and decoding -/

/-- Five bits a symbol, the last ones filled up with zeros. -/
def encodeBits : List Bool → List Char
  | a :: b :: c :: d :: e :: rest => symbol a b c d e :: encodeBits rest
  | [a, b, c, d] => [symbol a b c d false]
  | [a, b, c] => [symbol a b c false false]
  | [a, b] => [symbol a b false false false]
  | [a] => [symbol a false false false false]
  | [] => []

/-- The bits of a text, if all its characters are in the alphabet. -/
def decodeBits : List Char → Option (List Bool)
  | [] => some []
  | c :: rest => do
      let bits ← symbolBits? c
      let more ← decodeBits rest
      some (bits ++ more)

def encode (bytes : Bytes) : List Char := encodeBits (bitsOfBytes bytes)

def decode (text : List Char) : Option Bytes := (decodeBits text).bind bytesOfBits

/-! ## Round trip -/

/-- The zeros that fill up `n` bits to whole symbols. -/
def filling (n : ℕ) : List Bool := List.replicate ((5 - n % 5) % 5) false

theorem decodeBits_encodeBits (bits : List Bool) :
    decodeBits (encodeBits bits) = some (bits ++ filling bits.length) := by
  fun_induction encodeBits bits with
  | case1 a b c d e rest ih =>
      have hfilling : filling (rest.length + 1 + 1 + 1 + 1 + 1) = filling rest.length := by
        unfold filling
        congr 1
        omega
      simp [decodeBits, symbolBits?_symbol, ih, hfilling]
  | _ => simp [decodeBits, symbolBits?_symbol, filling, List.replicate]

/-- Filling bits are not seen in the symbols. -/
theorem encodeBits_append_zeros {bits : List Bool} {k : ℕ} (hk : k < 5)
    (hlength : (bits.length + k) % 5 = 0) :
    encodeBits (bits ++ List.replicate k false) = encodeBits bits := by
  fun_induction encodeBits bits with
  | case1 a b c d e rest ih =>
      have hrest := ih (by simp only [List.length_cons] at hlength; omega)
      simp only [List.cons_append, encodeBits, hrest]
  | case2 a b c d =>
      obtain rfl : k = 1 := by simp only [List.length_cons, List.length_nil] at hlength; omega
      rfl
  | case3 a b c =>
      obtain rfl : k = 2 := by simp only [List.length_cons, List.length_nil] at hlength; omega
      rfl
  | case4 a b =>
      obtain rfl : k = 3 := by simp only [List.length_cons, List.length_nil] at hlength; omega
      rfl
  | case5 a =>
      obtain rfl : k = 4 := by simp only [List.length_cons, List.length_nil] at hlength; omega
      rfl
  | case6 =>
      obtain rfl : k = 0 := by simp only [List.length_nil] at hlength; omega
      rfl

theorem bytesOfBits_bitsOfBytes_append (bytes : Bytes) {k : ℕ} (hk : k < 5) :
    bytesOfBits (bitsOfBytes bytes ++ List.replicate k false) = some bytes := by
  induction bytes with
  | nil =>
      have hcases : k = 0 ∨ k = 1 ∨ k = 2 ∨ k = 3 ∨ k = 4 := by omega
      rcases hcases with rfl | rfl | rfl | rfl | rfl <;> rfl
  | cons b bytes ih =>
      have hbits : bitsOfBytes (b :: bytes) = bitsOfByte b ++ bitsOfBytes bytes := rfl
      rw [hbits, List.append_assoc, bitsOfByte]
      simp only [List.cons_append, List.nil_append, bytesOfBits, ih, byteOfBits_bitsOfByte,
        Option.bind_eq_bind, Option.bind_some]

/-- What a bit string that holds bytes looks like. -/
theorem bitsOfBytes_of_bytesOfBits {bits : List Bool} {bytes : Bytes}
    (h : bytesOfBits bits = some bytes) :
    ∃ k < 5, bits = bitsOfBytes bytes ++ List.replicate k false := by
  fun_induction bytesOfBits bits generalizing bytes with
  | case1 b7 b6 b5 b4 b3 b2 b1 b0 rest ih =>
      simp only [Option.bind_eq_bind, Option.bind_eq_some_iff] at h
      obtain ⟨tail, htail, h⟩ := h
      obtain rfl := Option.some.inj h
      obtain ⟨k, hk, rfl⟩ := ih htail
      refine ⟨k, hk, ?_⟩
      have hbits : bitsOfBytes (byteOfBits b7 b6 b5 b4 b3 b2 b1 b0 :: tail)
          = bitsOfByte (byteOfBits b7 b6 b5 b4 b3 b2 b1 b0) ++ bitsOfBytes tail := rfl
      rw [hbits, bitsOfByte_byteOfBits]
      rfl
  | case2 rest hshort hzero =>
      obtain rfl := Option.some.inj h
      obtain ⟨hlength, hzeros⟩ := hzero
      refine ⟨rest.length, hlength, ?_⟩
      rw [bitsOfBytes, List.flatMap_nil, List.nil_append, List.eq_replicate_iff]
      exact ⟨rfl, fun b hb => by simpa using List.all_eq_true.mp hzeros b hb⟩
  | case3 => cases h

/-- The bits of a text are whole symbols, and spell it. -/
theorem encodeBits_of_decodeBits {text : List Char} {bits : List Bool}
    (h : decodeBits text = some bits) : bits.length % 5 = 0 ∧ encodeBits bits = text := by
  induction text generalizing bits with
  | nil =>
      obtain rfl := Option.some.inj h
      exact ⟨rfl, rfl⟩
  | cons c text ih =>
      simp only [decodeBits, Option.bind_eq_bind, Option.bind_eq_some_iff] at h
      obtain ⟨five, hfive, more, hmore, h⟩ := h
      obtain rfl := Option.some.inj h
      obtain ⟨a, b, c', d, e, rfl, rfl⟩ := symbol_of_symbolBits? hfive
      obtain ⟨hlength, hspell⟩ := ih hmore
      refine ⟨?_, ?_⟩
      · simp only [List.cons_append, List.nil_append, List.length_cons]
        omega
      · simp only [List.cons_append, List.nil_append, encodeBits, hspell]

/-- **One spelling**: a text decodes to a byte string exactly when it is its encoding. -/
theorem decode_eq_some_iff {text : List Char} {bytes : Bytes} :
    decode text = some bytes ↔ text = encode bytes := by
  constructor
  · intro h
    obtain ⟨bits, hbits, hbytes⟩ := Option.bind_eq_some_iff.mp h
    obtain ⟨hlength, rfl⟩ := encodeBits_of_decodeBits hbits
    obtain ⟨k, hk, rfl⟩ := bitsOfBytes_of_bytesOfBits hbytes
    rw [List.length_append, List.length_replicate] at hlength
    exact encodeBits_append_zeros hk hlength
  · rintro rfl
    rw [decode, encode, decodeBits_encodeBits, Option.bind_some]
    exact bytesOfBits_bitsOfBytes_append bytes (Nat.mod_lt _ (by omega))

/-- The test vectors of the standard; the last symbol of `MY` leaves two bits unused. -/
example : encode (utf8 "foob") = "MZXW6YQ".toList ∧ decode "MY".toList = some (utf8 "f")
    ∧ decode "MZ".toList = none := by decide +kernel

end Base32
