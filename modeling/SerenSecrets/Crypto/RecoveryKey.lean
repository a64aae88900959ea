import SerenSecrets.Crypto.Wire
import SerenSecrets.Lib.Base32
import SerenSecrets.Lib.Except

set_option autoImplicit false

/-! # Displayed recovery keys

A recovery key is shown as groups of four base32 characters, and typed back in with whatever spaces,
hyphens and letter case the user prefers. What is left after cleaning is the one base32 spelling of
the key, so two texts are read as the same key exactly when they clean up to the same characters
(`displayString_one_reading`). -/

namespace SerenSecrets

/-- `ch.to_ascii_uppercase()`. -/
def toAsciiUppercaseChar (c : Char) : Char := c.toUpper

/-- The characters that count, in upper case. -/
def cleaned (s : String) : List Char :=
  (s.toList.filter (fun c => !isWhitespace c && decide (c ≠ '-'))).map toAsciiUppercaseChar

/-- Put a hyphen before every fourth character but the first; `i` counts the characters so far. -/
def hyphenate (i : ℕ) : List Char → List Char
  | [] => []
  | ch :: rest =>
      if i > 0 ∧ i % 4 = 0 then '-' :: ch :: hyphenate (i + 1) rest
      else ch :: hyphenate (i + 1) rest

namespace RecoveryKey

def toDisplayString (key : RecoveryKey) : String :=
  String.ofList (hyphenate 0 (Base32.encode key.asBytes.toBytes))

def fromDisplayString (s : String) : CryptoResult RecoveryKey := do
  let decoded ← match Base32.decode (cleaned s) with
    | some decoded => .ok decoded
    | none => .error .invalidRecoveryKey
  let bytes ← array32FromSlice .invalidRecoveryKey decoded
  return ⟨bytes⟩

end RecoveryKey

/-! ## What cleaning leaves -/

/-- A character of the alphabet survives cleaning as it is. -/
structure Clean (c : Char) : Prop where
  notWhitespace : isWhitespace c = false
  notHyphen : c ≠ '-'
  upper : toAsciiUppercaseChar c = c

theorem clean_symbol (a b c d e : Bool) : Clean (Base32.symbol a b c d e) := by
  have hall : ∀ a b c d e, isWhitespace (Base32.symbol a b c d e) = false ∧
      Base32.symbol a b c d e ≠ '-' ∧
      toAsciiUppercaseChar (Base32.symbol a b c d e) = Base32.symbol a b c d e := by
    decide +kernel
  obtain ⟨hspace, hhyphen, hupper⟩ := hall a b c d e
  exact ⟨hspace, hhyphen, hupper⟩

theorem clean_of_mem_encodeBits {bits : List Bool} {ch : Char}
    (h : ch ∈ Base32.encodeBits bits) : Clean ch := by
  fun_induction Base32.encodeBits bits with
  | case1 a b c d e rest ih =>
      rcases List.mem_cons.mp h with rfl | h
      · exact clean_symbol ..
      · exact ih h
  | case6 => exact absurd h List.not_mem_nil
  | _ =>
      rw [List.mem_singleton.mp h]
      exact clean_symbol ..

theorem cleaned_hyphenate {chars : List Char} (h : ∀ c ∈ chars, Clean c) (i : ℕ) :
    cleaned (String.ofList (hyphenate i chars)) = chars := by
  unfold cleaned
  rw [String.toList_ofList]
  induction chars generalizing i with
  | nil => rfl
  | cons c chars ih =>
      have hc := h c (List.mem_cons_self ..)
      have hrest := ih (fun c' hc' => h c' (List.mem_cons_of_mem _ hc')) (i + 1)
      rw [hyphenate]
      -- The hyphen, if there is one, is dropped again.
      split_ifs <;> simpa [hc.notWhitespace, hc.notHyphen, hc.upper] using hrest

theorem cleaned_toDisplayString (key : RecoveryKey) :
    cleaned key.toDisplayString = Base32.encode key.asBytes.toBytes :=
  cleaned_hyphenate (fun _ h => clean_of_mem_encodeBits h) 0

/-- What is accepted is the spelling of a key, up to cleaning. -/
theorem fromDisplayString_eq_ok {s : String} {key : RecoveryKey} :
    RecoveryKey.fromDisplayString s = .ok key ↔
      cleaned s = Base32.encode key.asBytes.toBytes := by
  rw [← Base32.decode_eq_some_iff, RecoveryKey.fromDisplayString]
  cases Base32.decode (cleaned s) with
  | none => simp [bind, Except.bind]
  | some decoded =>
      simp only [Except.bind_eq_ok, array32FromSlice_eq_ok, Except.ok.injEq, exists_eq_left',
        Except.pure_eq_ok, Option.some.injEq]
      constructor
      · rintro ⟨bytes, rfl, rfl⟩
        rfl
      · rintro rfl
        exact ⟨key.asBytes, rfl, rfl⟩

/-- **The display format has one reading.** A displayed key is read back; what is read depends on
    the cleaned text alone; two accepted texts stand for the same key exactly when they clean up to
    the same characters; and displaying what was read gives those characters again. -/
theorem displayString_one_reading :
    (∀ key : RecoveryKey, RecoveryKey.fromDisplayString key.toDisplayString = .ok key) ∧
    (∀ s s', cleaned s = cleaned s' →
      RecoveryKey.fromDisplayString s = RecoveryKey.fromDisplayString s') ∧
    (∀ s s' key key', RecoveryKey.fromDisplayString s = .ok key →
      RecoveryKey.fromDisplayString s' = .ok key' → (key = key' ↔ cleaned s = cleaned s')) ∧
    (∀ s key, RecoveryKey.fromDisplayString s = .ok key →
      cleaned key.toDisplayString = cleaned s) := by
  refine ⟨?_, ?_, ?_, ?_⟩
  · intro key
    exact fromDisplayString_eq_ok.mpr (cleaned_toDisplayString key)
  · intro s s' h
    rw [RecoveryKey.fromDisplayString, RecoveryKey.fromDisplayString, h]
  · intro s s' key key' h h'
    rw [fromDisplayString_eq_ok] at h h'
    rw [h, h']
    constructor
    · rintro rfl
      rfl
    · intro hencode
      have hbytes : Base32.decode (Base32.encode key.asBytes.toBytes)
          = some key'.asBytes.toBytes := Base32.decode_eq_some_iff.mpr hencode
      rw [Base32.decode_eq_some_iff.mpr rfl] at hbytes
      have hfixed : key.asBytes = key'.asBytes :=
        FixedBytes.toBytes_injective (Option.some.inj hbytes)
      cases key
      cases key'
      exact congrArg RecoveryKey.mk hfixed
  · intro s key h
    rw [cleaned_toDisplayString, fromDisplayString_eq_ok.mp h]

/-- The zero key, typed in lower case and without hyphens. -/
theorem displayString_one_reading_zero :
    RecoveryKey.fromDisplayString (String.ofList (List.replicate 52 'a'))
      = .ok ⟨.replicate 32 0⟩ ∧
    cleaned (RecoveryKey.toDisplayString ⟨.replicate 32 0⟩) = List.replicate 52 'A' := by
  have hread : RecoveryKey.fromDisplayString (String.ofList (List.replicate 52 'a'))
      = .ok ⟨.replicate 32 0⟩ := fromDisplayString_eq_ok.mpr (by decide +kernel)
  exact ⟨hread, (displayString_one_reading.2.2.2 _ _ hread).trans (by decide +kernel)⟩

end SerenSecrets
