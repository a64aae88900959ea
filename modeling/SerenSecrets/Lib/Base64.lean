import SerenSecrets.Lib.Bytes

set_option autoImplicit false

/-! # Standard base64

RFC 4648 base64 with the standard alphabet and required padding. `encode` reads three bytes at a
time; `decode` reads four characters at a time and accepts a padded quantum only at the end and
only when its unused bits are zero, so that every byte string has one accepted spelling. -/

namespace Base64

/-! ## The alphabet -/

/-- The character of a six-bit value. -/
def sextetChar (n : ℕ) : Char :=
  if n < 26 then Char.ofNat (65 + n)
  else if n < 52 then Char.ofNat (71 + n)
  else if n < 62 then Char.ofNat (n - 4)
  else if n = 62 then '+'
  else '/'

/-- The six-bit value of a character of the alphabet. -/
def charSextet? (c : Char) : Option ℕ :=
  if 'A' ≤ c ∧ c ≤ 'Z' then some (c.toNat - 65)
  else if 'a' ≤ c ∧ c ≤ 'z' then some (c.toNat - 71)
  else if '0' ≤ c ∧ c ≤ '9' then some (c.toNat + 4)
  else if c = '+' then some 62
  else if c = '/' then some 63
  else none

theorem charSextet?_sextetChar {n : ℕ} (h : n < 64) : charSextet? (sextetChar n) = some n := by
  revert n
  decide

theorem sextetChar_ne_pad {n : ℕ} (h : n < 64) : sextetChar n ≠ '=' := by
  revert n
  decide

/-- Every value has one character. -/
theorem sextetChar_of_charSextet? {c : Char} {n : ℕ} (h : charSextet? c = some n) :
    n < 64 ∧ sextetChar n = c := by
  unfold charSextet? at h
  split_ifs at h with hupper hlower hdigit hplus hslash
  · obtain rfl := Option.some.inj h
    have hlo : 65 ≤ c.toNat := hupper.1
    have hhi : c.toNat ≤ 90 := hupper.2
    refine ⟨by omega, ?_⟩
    rw [sextetChar, if_pos (by omega), show 65 + (c.toNat - 65) = c.toNat by omega,
      Char.ofNat_toNat]
  · obtain rfl := Option.some.inj h
    have hlo : 97 ≤ c.toNat := hlower.1
    have hhi : c.toNat ≤ 122 := hlower.2
    refine ⟨by omega, ?_⟩
    rw [sextetChar, if_neg (by omega), if_pos (by omega),
      show 71 + (c.toNat - 71) = c.toNat by omega, Char.ofNat_toNat]
  · obtain rfl := Option.some.inj h
    have hlo : 48 ≤ c.toNat := hdigit.1
    have hhi : c.toNat ≤ 57 := hdigit.2
    refine ⟨by omega, ?_⟩
    rw [sextetChar, if_neg (by omega), if_neg (by omega), if_pos (by omega), Nat.add_sub_cancel,
      Char.ofNat_toNat]
  · obtain rfl := Option.some.inj h
    exact ⟨by omega, hplus.symm⟩
  · obtain rfl := Option.some.inj h
    exact ⟨by omega, hslash.symm⟩

/-! ## Encoding -/

def encodeChars : Bytes → List Char
  | [] => []
  | [a] =>
      [sextetChar (a.toNat / 4), sextetChar (a.toNat % 4 * 16), '=', '=']
  | [a, b] =>
      [sextetChar (a.toNat / 4), sextetChar (a.toNat % 4 * 16 + b.toNat / 16),
       sextetChar (b.toNat % 16 * 4), '=']
  | a :: b :: c :: rest =>
      [sextetChar (a.toNat / 4), sextetChar (a.toNat % 4 * 16 + b.toNat / 16),
       sextetChar (b.toNat % 16 * 4 + c.toNat / 64), sextetChar (c.toNat % 64)]
        ++ encodeChars rest

/-- The base64 text of a byte string. -/
def encode (bytes : Bytes) : String := String.ofList (encodeChars bytes)

theorem ascii_of_mem_encodeChars {bytes : Bytes} {c : Char} (h : c ∈ encodeChars bytes) :
    c.toNat < 128 := by
  have hsextet : ∀ n < 64, (sextetChar n).toNat < 128 := by decide
  have hpad : '='.toNat < 128 := by decide
  induction bytes using encodeChars.induct with
  | case1 => simp [encodeChars] at h
  | case2 a =>
      have ha := a.toNat_lt
      simp only [encodeChars, List.mem_cons, List.not_mem_nil, or_false] at h
      rcases h with rfl | rfl | rfl | rfl
      · exact hsextet _ (by omega)
      · exact hsextet _ (by omega)
      · exact hpad
      · exact hpad
  | case3 a b =>
      have ha := a.toNat_lt
      have hb := b.toNat_lt
      simp only [encodeChars, List.mem_cons, List.not_mem_nil, or_false] at h
      rcases h with rfl | rfl | rfl | rfl
      · exact hsextet _ (by omega)
      · exact hsextet _ (by omega)
      · exact hsextet _ (by omega)
      · exact hpad
  | case4 a b c' rest ih =>
      have ha := a.toNat_lt
      have hb := b.toNat_lt
      have hc := c'.toNat_lt
      simp only [encodeChars, List.cons_append, List.nil_append, List.mem_cons] at h
      rcases h with rfl | rfl | rfl | rfl | h
      · exact hsextet _ (by omega)
      · exact hsextet _ (by omega)
      · exact hsextet _ (by omega)
      · exact hsextet _ (by omega)
      · exact ih h

/-- The text is ASCII. -/
theorem utf8_encode (bytes : Bytes) : utf8 (encode bytes) = (encodeChars bytes).map Char.toUInt8 :=
  utf8_ofList_ascii fun _ => ascii_of_mem_encodeChars

/-! ## Decoding -/

/-- The byte of a final quantum with two padding characters. -/
def decodeOne (w x : Char) : Option Bytes := do
  let w ← charSextet? w
  let x ← charSextet? x
  if x % 16 = 0 then some [UInt8.ofNat (w * 4 + x / 16)] else none

/-- The bytes of a final quantum with one padding character. -/
def decodeTwo (w x y : Char) : Option Bytes := do
  let w ← charSextet? w
  let x ← charSextet? x
  let y ← charSextet? y
  if y % 4 = 0 then
    some [UInt8.ofNat (w * 4 + x / 16), UInt8.ofNat (x % 16 * 16 + y / 4)]
  else none

/-- The bytes of a full quantum. -/
def decodeThree (w x y z : Char) : Option Bytes := do
  let w ← charSextet? w
  let x ← charSextet? x
  let y ← charSextet? y
  let z ← charSextet? z
  some [UInt8.ofNat (w * 4 + x / 16), UInt8.ofNat (x % 16 * 16 + y / 4),
    UInt8.ofNat (y % 4 * 64 + z)]

def decodeChars : List Char → Option Bytes
  | [] => some []
  | w :: x :: y :: z :: rest =>
      if y = '=' ∧ z = '=' ∧ rest = [] then decodeOne w x
      else if z = '=' ∧ rest = [] then decodeTwo w x y
      else do
        let quantum ← decodeThree w x y z
        let rest ← decodeChars rest
        some (quantum ++ rest)
  | _ => none

/-- The bytes of a base64 text, if it is one. -/
def decode (text : String) : Option Bytes := decodeChars text.toList

/-! ## Round trip -/

theorem decodeOne_encode (a : UInt8) :
    decodeOne (sextetChar (a.toNat / 4)) (sextetChar (a.toNat % 4 * 16)) = some [a] := by
  have ha := a.toNat_lt
  have hbyte : a.toNat / 4 * 4 + a.toNat % 4 * 16 / 16 = a.toNat := by omega
  rw [decodeOne, charSextet?_sextetChar (by omega), charSextet?_sextetChar (by omega)]
  have hlow : a.toNat % 4 * 16 % 16 = 0 := by omega
  simp only [Option.bind_eq_bind, Option.bind_some, hbyte, hlow, if_true, UInt8.ofNat_toNat]

theorem decodeTwo_encode (a b : UInt8) :
    decodeTwo (sextetChar (a.toNat / 4)) (sextetChar (a.toNat % 4 * 16 + b.toNat / 16))
      (sextetChar (b.toNat % 16 * 4)) = some [a, b] := by
  have ha := a.toNat_lt
  have hb := b.toNat_lt
  have hfst : a.toNat / 4 * 4 + (a.toNat % 4 * 16 + b.toNat / 16) / 16 = a.toNat := by omega
  have hsnd : (a.toNat % 4 * 16 + b.toNat / 16) % 16 * 16 + b.toNat % 16 * 4 / 4 = b.toNat := by
    omega
  have hlow : b.toNat % 16 * 4 % 4 = 0 := by omega
  rw [decodeTwo, charSextet?_sextetChar (by omega), charSextet?_sextetChar (by omega),
    charSextet?_sextetChar (by omega)]
  simp only [Option.bind_eq_bind, Option.bind_some, hfst, hsnd, hlow, if_true, UInt8.ofNat_toNat]

theorem decodeThree_encode (a b c : UInt8) :
    decodeThree (sextetChar (a.toNat / 4)) (sextetChar (a.toNat % 4 * 16 + b.toNat / 16))
      (sextetChar (b.toNat % 16 * 4 + c.toNat / 64)) (sextetChar (c.toNat % 64))
      = some [a, b, c] := by
  have ha := a.toNat_lt
  have hb := b.toNat_lt
  have hc := c.toNat_lt
  have hfst : a.toNat / 4 * 4 + (a.toNat % 4 * 16 + b.toNat / 16) / 16 = a.toNat := by omega
  have hsnd : (a.toNat % 4 * 16 + b.toNat / 16) % 16 * 16
      + (b.toNat % 16 * 4 + c.toNat / 64) / 4 = b.toNat := by omega
  have hthd : (b.toNat % 16 * 4 + c.toNat / 64) % 4 * 64 + c.toNat % 64 = c.toNat := by omega
  rw [decodeThree, charSextet?_sextetChar (by omega), charSextet?_sextetChar (by omega),
    charSextet?_sextetChar (by omega), charSextet?_sextetChar (by omega)]
  simp only [Option.bind_eq_bind, Option.bind_some, hfst, hsnd, hthd, UInt8.ofNat_toNat]

theorem decodeChars_encodeChars (bytes : Bytes) :
    decodeChars (encodeChars bytes) = some bytes := by
  induction bytes using encodeChars.induct with
  | case1 => rfl
  | case2 a => simp [encodeChars, decodeChars, decodeOne_encode]
  | case3 a b =>
      have hb := b.toNat_lt
      simp [encodeChars, decodeChars, decodeTwo_encode,
        sextetChar_ne_pad (show b.toNat % 16 * 4 < 64 by omega)]
  | case4 a b c rest ih =>
      have hc := c.toNat_lt
      simp [encodeChars, decodeChars, decodeThree_encode, ih,
        sextetChar_ne_pad (show c.toNat % 64 < 64 by omega)]

/-- **Decoding inverts encoding.** -/
@[simp] theorem decode_encode (bytes : Bytes) : decode (encode bytes) = some bytes := by
  rw [decode, encode, String.toList_ofList, decodeChars_encodeChars]

/-! ## One spelling -/

theorem encodeChars_of_decodeOne {w x : Char} {bytes : Bytes} (h : decodeOne w x = some bytes) :
    encodeChars bytes = [w, x, '=', '='] := by
  simp only [decodeOne, Option.bind_eq_bind, Option.bind_eq_some_iff] at h
  obtain ⟨a, hw, b, hx, h⟩ := h
  obtain ⟨ha, rfl⟩ := sextetChar_of_charSextet? hw
  obtain ⟨hb, rfl⟩ := sextetChar_of_charSextet? hx
  split_ifs at h with hlow
  obtain rfl := Option.some.inj h
  have hbyte : (UInt8.ofNat (a * 4 + b / 16)).toNat = a * 4 + b / 16 :=
    UInt8.toNat_ofNat_of_lt' (show _ < 256 by omega)
  rw [encodeChars, hbyte, show (a * 4 + b / 16) / 4 = a by omega,
    show (a * 4 + b / 16) % 4 * 16 = b by omega]

theorem encodeChars_of_decodeTwo {w x y : Char} {bytes : Bytes}
    (h : decodeTwo w x y = some bytes) : encodeChars bytes = [w, x, y, '='] := by
  simp only [decodeTwo, Option.bind_eq_bind, Option.bind_eq_some_iff] at h
  obtain ⟨a, hw, b, hx, c, hy, h⟩ := h
  obtain ⟨ha, rfl⟩ := sextetChar_of_charSextet? hw
  obtain ⟨hb, rfl⟩ := sextetChar_of_charSextet? hx
  obtain ⟨hc, rfl⟩ := sextetChar_of_charSextet? hy
  split_ifs at h with hlow
  obtain rfl := Option.some.inj h
  have hfst : (UInt8.ofNat (a * 4 + b / 16)).toNat = a * 4 + b / 16 :=
    UInt8.toNat_ofNat_of_lt' (show _ < 256 by omega)
  have hsnd : (UInt8.ofNat (b % 16 * 16 + c / 4)).toNat = b % 16 * 16 + c / 4 :=
    UInt8.toNat_ofNat_of_lt' (show _ < 256 by omega)
  rw [encodeChars, hfst, hsnd, show (a * 4 + b / 16) / 4 = a by omega,
    show (a * 4 + b / 16) % 4 * 16 + (b % 16 * 16 + c / 4) / 16 = b by omega,
    show (b % 16 * 16 + c / 4) % 16 * 4 = c by omega]

theorem encodeChars_of_decodeThree {w x y z : Char} {quantum rest : Bytes}
    (h : decodeThree w x y z = some quantum) :
    encodeChars (quantum ++ rest) = w :: x :: y :: z :: encodeChars rest := by
  simp only [decodeThree, Option.bind_eq_bind, Option.bind_eq_some_iff] at h
  obtain ⟨a, hw, b, hx, c, hy, d, hz, h⟩ := h
  obtain ⟨ha, rfl⟩ := sextetChar_of_charSextet? hw
  obtain ⟨hb, rfl⟩ := sextetChar_of_charSextet? hx
  obtain ⟨hc, rfl⟩ := sextetChar_of_charSextet? hy
  obtain ⟨hd, rfl⟩ := sextetChar_of_charSextet? hz
  obtain rfl := Option.some.inj h
  have hfst : (UInt8.ofNat (a * 4 + b / 16)).toNat = a * 4 + b / 16 :=
    UInt8.toNat_ofNat_of_lt' (show _ < 256 by omega)
  have hsnd : (UInt8.ofNat (b % 16 * 16 + c / 4)).toNat = b % 16 * 16 + c / 4 :=
    UInt8.toNat_ofNat_of_lt' (show _ < 256 by omega)
  have hthd : (UInt8.ofNat (c % 4 * 64 + d)).toNat = c % 4 * 64 + d :=
    UInt8.toNat_ofNat_of_lt' (show _ < 256 by omega)
  simp only [List.cons_append, List.nil_append, encodeChars, hfst, hsnd, hthd]
  rw [show (a * 4 + b / 16) / 4 = a by omega,
    show (a * 4 + b / 16) % 4 * 16 + (b % 16 * 16 + c / 4) / 16 = b by omega,
    show (b % 16 * 16 + c / 4) % 16 * 4 + (c % 4 * 64 + d) / 64 = c by omega,
    show (c % 4 * 64 + d) % 64 = d by omega]

theorem encodeChars_of_decodeChars {text : List Char} {bytes : Bytes}
    (h : decodeChars text = some bytes) : encodeChars bytes = text := by
  induction text using decodeChars.induct generalizing bytes with
  | case1 =>
      obtain rfl := Option.some.inj h
      rfl
  | case2 w x y z rest hone =>
      rw [decodeChars, if_pos hone] at h
      obtain ⟨rfl, rfl, rfl⟩ := hone
      exact encodeChars_of_decodeOne h
  | case3 w x y z rest hone htwo =>
      rw [decodeChars, if_neg hone, if_pos htwo] at h
      obtain ⟨rfl, rfl⟩ := htwo
      exact encodeChars_of_decodeTwo h
  | case4 w x y z rest hone htwo ih =>
      rw [decodeChars, if_neg hone, if_neg htwo] at h
      simp only [Option.bind_eq_bind, Option.bind_eq_some_iff] at h
      obtain ⟨quantum, hquantum, tail, htail, h⟩ := h
      obtain rfl := Option.some.inj h
      rw [encodeChars_of_decodeThree hquantum, ih htail]
  | case5 text hnil hcons => simp [decodeChars] at h

/-- **A text that decodes is the encoding of its bytes.** -/
theorem encode_of_decode {text : String} {bytes : Bytes} (h : decode text = some bytes) :
    encode bytes = text := by
  rw [encode, encodeChars_of_decodeChars h, String.ofList_toList]

theorem encode_injective : Function.Injective encode := by
  intro a b h
  have hdec : decode (encode a) = decode (encode b) := by rw [h]
  simpa using hdec

@[simp] theorem encode_inj {a b : Bytes} : encode a = encode b ↔ a = b :=
  encode_injective.eq_iff

example : encode (utf8 "Man") = "TWFu" ∧ decode "TWE=" = some (utf8 "Ma")
    ∧ decode "TWF=" = none := by decide

/-! ## Lengths -/

theorem length_encodeChars (bytes : Bytes) :
    (encodeChars bytes).length = (bytes.length + 2) / 3 * 4 := by
  induction bytes using encodeChars.induct with
  | case1 => rfl
  | case2 a => simp [encodeChars]
  | case3 a b => simp [encodeChars]
  | case4 a b c rest ih =>
      simp only [encodeChars, List.length_append, List.length_cons, List.length_nil, ih]
      omega

theorem length_utf8_encode (bytes : Bytes) :
    (utf8 (encode bytes)).length = (bytes.length + 2) / 3 * 4 := by
  rw [utf8_encode, List.length_map, length_encodeChars]

end Base64
