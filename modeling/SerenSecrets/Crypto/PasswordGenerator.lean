import SerenSecrets.Crypto.Wire
import SerenSecrets.Lib.Except
import SerenSecrets.Lib.Uuid
import Mathlib.Data.Bool.AllAny

set_option autoImplicit false

/-! # Generated passwords

A recipe asks for a mix of character classes, for a passphrase of listed words, or for hexadecimal
digits. The random generator is a parameter (`Rng`): every choice it can make is one of its values,
so what holds for every generator holds for every sequence of draws. The places where the code would
panic are modelled as the missing result; `generate_meets_recipe` shows that there are none. -/

namespace SerenSecrets

/-! ## Recipes and draws -/

inductive PasswordRecipe where
  | random (length : UInt32) (upper lower digits symbols : Bool)
  | passphrase (wordCount : UInt32) (separator : Char) (capitalizeFirst : Bool)
  | hex (length : UInt32)
  deriving DecidableEq

/-- The random generator of one call of `generate`: where in a slice a choice falls, by the number
    of choices before, what a shuffle makes of a list, and the bytes of a fill. -/
structure Rng where
  index (call len : ℕ) : ℕ
  index_lt {call len : ℕ} (h : 0 < len) : index call len < len
  shuffle (bytes : Bytes) : Bytes
  shuffle_perm (bytes : Bytes) : (shuffle bytes).Perm bytes
  fill (n : ℕ) : FixedBytes n

/-- An element of the slice, unless it is empty. -/
def Rng.choose {α : Type} (rng : Rng) (call : ℕ) (slice : List α) : Option α :=
  slice[rng.index call slice.length]?

theorem Rng.exists_choose {α : Type} (rng : Rng) (call : ℕ) {slice : List α} (h : slice ≠ []) :
    ∃ a ∈ slice, rng.choose call slice = some a := by
  have hlt := @Rng.index_lt rng call slice.length (List.length_pos_of_ne_nil h)
  exact ⟨slice[rng.index call slice.length], List.getElem_mem hlt, List.getElem?_eq_getElem hlt⟩

/-! ## Character classes -/

def upperAlphabet : String := "ABCDEFGHIJKLMNOPQRSTUVWXYZ"

def lowerAlphabet : String := "abcdefghijklmnopqrstuvwxyz"

def digitsAlphabet : String := "0123456789"

def symbolsAlphabet : String := "!@#$%^&*()-_=+[]\x7b\x7d;:,.?/"

/-! ## Generation -/

section Generate

variable (rng : Rng)

/-- Choose from an alphabet; an empty one is a panic. The draws so far are the characters so far. -/
def Rng.pick (chars alphabet : Bytes) : Option UInt8 := rng.choose chars.length alphabet

/-- One character of each class, in order. -/
def pickRequired : List Bytes → Bytes → Option Bytes
  | [], chars => some chars
  | cls :: rest, chars => do
      let b ← rng.pick chars cls
      pickRequired rest (chars ++ [b])

/-- Fill up to the length with characters of any class. -/
def fillUp (alphabet : Bytes) (length : ℕ) (chars : Bytes) : Option Bytes :=
  if chars.length < length then do
    let b ← rng.pick chars alphabet
    fillUp alphabet length (chars ++ [b])
  else some chars
termination_by length - chars.length
decreasing_by
  simp only [List.length_append, List.length_singleton]
  omega

/-- One character of each required class and the rest from all of them, shuffled. -/
def drawPassword (required : List Bytes) (alphabet : Bytes) (length : ℕ) : Option String := do
  let chars ← pickRequired rng required []
  let chars ← fillUp rng alphabet length chars
  fromUtf8? (rng.shuffle chars)

/-- A missing result is a panic. -/
def generateRandom (length : ℕ) (upper lower digits symbols : Bool) :
    Option (CryptoResult String) :=
  if length < 8 ∨ 256 < length then
    some (.error (.invalidPasswordRecipe "random length must be 8..=256"))
  else
    let alphabet : Bytes :=
      (if upper then utf8 upperAlphabet else []) ++ (if lower then utf8 lowerAlphabet else [])
        ++ (if digits then utf8 digitsAlphabet else [])
        ++ (if symbols then utf8 symbolsAlphabet else [])
    let required : List Bytes :=
      (if upper then [utf8 upperAlphabet] else []) ++ (if lower then [utf8 lowerAlphabet] else [])
        ++ (if digits then [utf8 digitsAlphabet] else [])
        ++ (if symbols then [utf8 symbolsAlphabet] else [])
    if alphabet = [] then
      some (.error (.invalidPasswordRecipe "at least one character class must be enabled"))
    else if required.length > length then
      some (.error
        (.invalidPasswordRecipe "length too short to include one of every required class"))
    else do
      let password ← drawPassword rng required alphabet length
      some (.ok password)

/-- The lines of a text: a line break is dropped, together with a carriage return before it, and the
    last line may lack one. -/
def lines (text : List Char) : List (List Char) :=
  let pieces := text.splitOn '\n'
  let stripped := pieces.dropLast.map fun line =>
    if line.getLast? = some '\r' then line.dropLast else line
  stripped ++ pieces.getLast?.toList.filter (· ≠ [])

/-- The words of the embedded file that consist of lower case letters only. -/
def wordlist (file : String) : List (List Char) :=
  (lines file.toList).filter fun w => w.all Char.isLower

/-- The word as it is pushed, with its first letter in upper case if asked. -/
def pushedWord (capitalizeFirst : Bool) (word : List Char) : List Char :=
  if capitalizeFirst then
    match word with
    | [] => []
    | c :: rest => c.toUpper :: rest
  else word

/-- The loop over the words: `i` words are in `out`, `n` are to come. -/
def pushWords (list : List (List Char)) (separator : Char) (capitalizeFirst : Bool) :
    ℕ → ℕ → List Char → Option (List Char)
  | _, 0, out => some out
  | i, n + 1, out => do
      let out := if i > 0 then out ++ [separator] else out
      let word ← rng.choose i list
      pushWords list separator capitalizeFirst (i + 1) n (out ++ pushedWord capitalizeFirst word)

def generatePassphrase (file : String) (wordCount : ℕ) (separator : Char)
    (capitalizeFirst : Bool) : Option (CryptoResult String) :=
  if wordCount < 4 ∨ 16 < wordCount then
    some (.error (.invalidPasswordRecipe "passphrase word count must be 4..=16"))
  else do
    let out ← pushWords rng (wordlist file) separator capitalizeFirst 0 wordCount []
    some (.ok (String.ofList out))

def generateHex (length : ℕ) : CryptoResult String :=
  if length = 0 ∨ length > 512 ∨ length % 2 ≠ 0 then
    .error (.invalidPasswordRecipe "hex length must be even and in 1..=512")
  else .ok (String.ofList (hexChars (rng.fill (length / 2)).toBytes))

def generate (file : String) : PasswordRecipe → Option (CryptoResult String)
  | .random length upper lower digits symbols =>
      generateRandom rng length.toNat upper lower digits symbols
  | .passphrase wordCount separator capitalizeFirst =>
      generatePassphrase rng file wordCount.toNat separator capitalizeFirst
  | .hex length => some (generateHex rng length.toNat)

end Generate

/-! ## What a recipe asks for -/

def enabledAlphabets (upper lower digits symbols : Bool) : List String :=
  (if upper then [upperAlphabet] else []) ++ (if lower then [lowerAlphabet] else [])
    ++ (if digits then [digitsAlphabet] else []) ++ (if symbols then [symbolsAlphabet] else [])

/-- The recipes that are refused. -/
def PasswordRecipe.Invalid : PasswordRecipe → Prop
  | random length upper lower digits symbols =>
      length.toNat < 8 ∨ 256 < length.toNat ∨
        (upper = false ∧ lower = false ∧ digits = false ∧ symbols = false)
  | passphrase wordCount _ _ => wordCount.toNat < 4 ∨ 16 < wordCount.toNat
  | hex length => length.toNat = 0 ∨ length.toNat % 2 = 1 ∨ 512 < length.toNat

/-- The passwords of a recipe, with the words of the given list. -/
def PasswordRecipe.Meets (words : List (List Char)) : PasswordRecipe → List Char → Prop
  | random length upper lower digits symbols, password =>
      password.length = length.toNat ∧
        (∀ c ∈ password, ∃ alphabet ∈ enabledAlphabets upper lower digits symbols,
          c ∈ alphabet.toList) ∧
        ∀ alphabet ∈ enabledAlphabets upper lower digits symbols, ∃ c ∈ password,
          c ∈ alphabet.toList
  | passphrase wordCount separator capitalizeFirst, password =>
      ∃ chosen : List (List Char), chosen.length = wordCount.toNat ∧
        (∀ word ∈ chosen, word ∈ words ∧ ∀ c ∈ word, c.isLower = true) ∧
        password = [separator].intercalate (chosen.map (pushedWord capitalizeFirst))
  | hex length, password =>
      password.length = length.toNat ∧ ∀ c ∈ password, c ∈ "0123456789abcdef".toList

/-! ## Mixed classes -/

section Random

variable (rng : Rng)

/-- The forced picks are one of each class, in order. -/
theorem pickRequired_spec {classes : List Bytes} (h : ∀ cls ∈ classes, cls ≠ []) (chars : Bytes) :
    ∃ picked, pickRequired rng classes chars = some (chars ++ picked) ∧
      List.Forall₂ (fun cls b => b ∈ cls) classes picked := by
  induction classes generalizing chars with
  | nil => exact ⟨[], by rw [pickRequired, List.append_nil], .nil⟩
  | cons cls rest ih =>
      obtain ⟨b, hb, hpick⟩ := rng.exists_choose chars.length (h cls (List.mem_cons_self ..))
      obtain ⟨picked, hrest, hall⟩ :=
        ih (fun cls' hcls' => h cls' (List.mem_cons_of_mem _ hcls')) (chars ++ [b])
      refine ⟨b :: picked, ?_, .cons hb hall⟩
      rw [pickRequired, Rng.pick, hpick, Option.bind_eq_bind, Option.bind_some, hrest,
        List.append_assoc, List.singleton_append]

/-- Filling up only appends, and stops at the length. -/
theorem fillUp_spec {alphabet : Bytes} (h : alphabet ≠ []) (length : ℕ) (chars : Bytes) :
    ∃ more, fillUp rng alphabet length chars = some (chars ++ more) ∧
      (∀ b ∈ more, b ∈ alphabet) ∧ (chars ++ more).length = max chars.length length := by
  induction hn : length - chars.length generalizing chars with
  | zero =>
      refine ⟨[], ?_, fun b hb => absurd hb List.not_mem_nil, ?_⟩
      · rw [fillUp, if_neg (by omega), List.append_nil]
      · rw [List.append_nil]
        omega
  | succ n ih =>
      obtain ⟨b, hb, hpick⟩ := rng.exists_choose chars.length h
      have hlength : (chars ++ [b]).length = chars.length + 1 := by simp
      obtain ⟨more, hrest, hall, htotal⟩ := ih (chars ++ [b]) (by omega)
      refine ⟨b :: more, ?_, ?_, ?_⟩
      · rw [fillUp, if_pos (by omega), Rng.pick, hpick, Option.bind_eq_bind, Option.bind_some, hrest,
          List.append_assoc, List.singleton_append]
      · intro b' hb'
        rcases List.mem_cons.mp hb' with rfl | hb'
        · exact hb
        · exact hall b' hb'
      · rw [← List.singleton_append, ← List.append_assoc, htotal]
        omega

end Random

/-- An alphabet of ASCII characters. -/
structure AsciiAlphabet (alphabet : String) : Prop where
  ne_nil : utf8 alphabet ≠ []
  ascii : ∀ b ∈ utf8 alphabet, b.toNat < 128 ∧ asciiChar b ∈ alphabet.toList

/-- Whatever is drawn, the password has the length, only characters of the alphabets, and one of
    each: a shuffle changes none of this. -/
theorem drawPassword_spec (rng : Rng) {alphabets : List String}
    (h : ∀ alphabet ∈ alphabets, AsciiAlphabet alphabet) (hne : alphabets ≠ []) {length : ℕ}
    (hlength : alphabets.length ≤ length) :
    ∃ password, drawPassword rng (alphabets.map utf8) (alphabets.flatMap utf8) length
        = some password ∧
      password.toList.length = length ∧
      (∀ c ∈ password.toList, ∃ alphabet ∈ alphabets, c ∈ alphabet.toList) ∧
      ∀ alphabet ∈ alphabets, ∃ c ∈ password.toList, c ∈ alphabet.toList := by
  have hclasses : ∀ cls ∈ alphabets.map utf8, cls ≠ [] := by
    intro cls hcls
    obtain ⟨alphabet, halphabet, rfl⟩ := List.mem_map.mp hcls
    exact (h alphabet halphabet).ne_nil
  have hall : alphabets.flatMap utf8 ≠ [] := by
    obtain ⟨alphabet, halphabet⟩ := List.exists_mem_of_ne_nil _ hne
    intro hnil
    exact (h alphabet halphabet).ne_nil (List.flatMap_eq_nil_iff.mp hnil alphabet halphabet)
  obtain ⟨picked, hpicked, hforall⟩ := pickRequired_spec rng hclasses []
  obtain ⟨more, hmore, hmem, htotal⟩ := fillUp_spec rng hall length picked
  have hcount : picked.length = alphabets.length := by
    rw [← hforall.length_eq, List.length_map]
  -- Every byte comes from one of the alphabets.
  have hsource : ∀ b ∈ rng.shuffle (picked ++ more), ∃ alphabet ∈ alphabets, b ∈ utf8 alphabet := by
    intro b hb
    rcases List.mem_append.mp ((rng.shuffle_perm _).mem_iff.mp hb) with hb | hb
    · obtain ⟨cls, hcls, hbcls⟩ := hforall.exists_of_mem_right hb
      obtain ⟨alphabet, halphabet, rfl⟩ := List.mem_map.mp hcls
      exact ⟨alphabet, halphabet, hbcls⟩
    · exact List.mem_flatMap.mp (hmem b hb)
  have hascii : ∀ b ∈ rng.shuffle (picked ++ more), b.toNat < 128 := by
    intro b hb
    obtain ⟨alphabet, halphabet, hbmem⟩ := hsource b hb
    exact ((h alphabet halphabet).ascii b hbmem).1
  refine ⟨String.ofList ((rng.shuffle (picked ++ more)).map asciiChar),
    ?_, ?_, ?_, ?_⟩
  · rw [drawPassword, hpicked, Option.bind_eq_bind, Option.bind_some, List.nil_append, hmore,
      Option.bind_some, fromUtf8?_ascii hascii]
  · rw [String.toList_ofList, List.length_map, (rng.shuffle_perm _).length_eq, htotal]
    omega
  · intro c hc
    rw [String.toList_ofList] at hc
    obtain ⟨b, hb, rfl⟩ := List.mem_map.mp hc
    obtain ⟨alphabet, halphabet, hbmem⟩ := hsource b hb
    exact ⟨alphabet, halphabet, ((h alphabet halphabet).ascii b hbmem).2⟩
  · intro alphabet halphabet
    obtain ⟨b, hb, hbmem⟩ := hforall.exists_of_mem_left (List.mem_map_of_mem halphabet)
    have hshuffled : b ∈ rng.shuffle (picked ++ more) :=
      (rng.shuffle_perm _).mem_iff.mpr (List.mem_append_left _ hb)
    refine ⟨asciiChar b, ?_, ((h alphabet halphabet).ascii b hbmem).2⟩
    rw [String.toList_ofList]
    exact List.mem_map.mpr ⟨b, hshuffled, rfl⟩

section Enabled

variable {upper lower digits symbols : Bool}

theorem asciiAlphabet_of_mem {alphabet : String}
    (h : alphabet ∈ enabledAlphabets upper lower digits symbols) : AsciiAlphabet alphabet := by
  have hall : ∀ alphabet ∈ [upperAlphabet, lowerAlphabet, digitsAlphabet, symbolsAlphabet],
      utf8 alphabet ≠ [] ∧ (utf8 alphabet).all (fun b =>
        decide (b.toNat < 128 ∧ asciiChar b ∈ alphabet.toList)) = true := by
    decide +kernel
  have hoption : ∀ (b : Bool) (a : String), (if b then [a] else []).Sublist [a] := by
    intro b a
    cases b <;> simp
  have hsublist : (enabledAlphabets upper lower digits symbols).Sublist
      ([upperAlphabet] ++ [lowerAlphabet] ++ [digitsAlphabet] ++ [symbolsAlphabet]) :=
    (((hoption upper _).append (hoption lower _)).append (hoption digits _)).append
      (hoption symbols _)
  obtain ⟨hne, hascii⟩ := hall alphabet (hsublist.subset h)
  exact ⟨hne, List.all_iff_forall_prop.mp hascii⟩

theorem enabledAlphabets_eq_nil :
    enabledAlphabets upper lower digits symbols = [] ↔
      upper = false ∧ lower = false ∧ digits = false ∧ symbols = false := by
  cases upper <;> cases lower <;> cases digits <;> cases symbols <;> simp [enabledAlphabets]

theorem length_enabledAlphabets :
    (enabledAlphabets upper lower digits symbols).length ≤ 4 := by
  cases upper <;> cases lower <;> cases digits <;> cases symbols <;> decide

theorem flatMap_enabledAlphabets_eq_nil :
    (enabledAlphabets upper lower digits symbols).flatMap utf8 = [] ↔
      enabledAlphabets upper lower digits symbols = [] := by
  rw [List.flatMap_eq_nil_iff]
  constructor
  · intro h
    refine List.eq_nil_iff_forall_not_mem.mpr fun alphabet halphabet => ?_
    exact (asciiAlphabet_of_mem halphabet).ne_nil (h alphabet halphabet)
  · intro h alphabet halphabet
    rw [h] at halphabet
    exact absurd halphabet List.not_mem_nil

end Enabled

/-- The two collections of the code are those of the enabled alphabets. -/
theorem generateRandom_eq (rng : Rng) (length : ℕ) (upper lower digits symbols : Bool) :
    generateRandom rng length upper lower digits symbols =
      if length < 8 ∨ 256 < length then
        some (.error (.invalidPasswordRecipe "random length must be 8..=256"))
      else if enabledAlphabets upper lower digits symbols = [] then
        some (.error (.invalidPasswordRecipe "at least one character class must be enabled"))
      else
        (drawPassword rng ((enabledAlphabets upper lower digits symbols).map utf8)
          ((enabledAlphabets upper lower digits symbols).flatMap utf8) length).bind
            fun password => some (.ok password) := by
  have hrequired : (if upper then [utf8 upperAlphabet] else [])
      ++ (if lower then [utf8 lowerAlphabet] else [])
      ++ (if digits then [utf8 digitsAlphabet] else [])
      ++ (if symbols then [utf8 symbolsAlphabet] else [])
      = (enabledAlphabets upper lower digits symbols).map utf8 := by
    cases upper <;> cases lower <;> cases digits <;> cases symbols <;> rfl
  have halphabet : (if upper then utf8 upperAlphabet else [])
      ++ (if lower then utf8 lowerAlphabet else [])
      ++ (if digits then utf8 digitsAlphabet else [])
      ++ (if symbols then utf8 symbolsAlphabet else [])
      = (enabledAlphabets upper lower digits symbols).flatMap utf8 := by
    cases upper <;> cases lower <;> cases digits <;> cases symbols <;> simp [enabledAlphabets]
  unfold generateRandom
  simp only [hrequired, halphabet, flatMap_enabledAlphabets_eq_nil, List.length_map]
  by_cases hlength : length < 8 ∨ 256 < length
  · rw [if_pos hlength, if_pos hlength]
  · -- Four classes fit any length that is allowed, so the third refusal is never reached.
    have hcount : (enabledAlphabets upper lower digits symbols).length ≤ 4 :=
      length_enabledAlphabets
    rw [if_neg hlength, if_neg hlength]
    simp only [show ¬ (enabledAlphabets upper lower digits symbols).length > length by omega,
      if_false, Option.bind_eq_bind]

/-! ## Passphrases -/

theorem intercalate_concat {separator : List Char} {words : List (List Char)} (h : words ≠ [])
    (word : List Char) :
    separator.intercalate (words ++ [word]) = separator.intercalate words ++ separator ++ word := by
  induction words with
  | nil => exact absurd rfl h
  | cons first rest ih =>
      cases rest with
      | nil => simp [List.intercalate]
      | cons second rest =>
          have hrest := ih (List.cons_ne_nil _ _)
          simp only [List.intercalate, List.cons_append, List.intersperse_cons_cons,
            List.flatten_cons] at hrest ⊢
          rw [hrest]
          simp only [List.append_assoc]

/-- The loop keeps the words so far joined by separators. -/
theorem pushWords_spec (rng : Rng) {list : List (List Char)} (h : list ≠ []) (separator : Char)
    (capitalizeFirst : Bool) (n : ℕ) (pushed : List (List Char)) :
    ∃ chosen : List (List Char), chosen.length = n ∧ (∀ word ∈ chosen, word ∈ list) ∧
      pushWords rng list separator capitalizeFirst pushed.length n ([separator].intercalate pushed)
        = some ([separator].intercalate (pushed ++ chosen.map (pushedWord capitalizeFirst))) := by
  induction n generalizing pushed with
  | zero => exact ⟨[], rfl, by simp, by simp [pushWords]⟩
  | succ n ih =>
      obtain ⟨word, hword, hchoose⟩ := rng.exists_choose pushed.length h
      have hnext : (if pushed.length > 0 then [separator].intercalate pushed ++ [separator]
            else [separator].intercalate pushed) ++ pushedWord capitalizeFirst word
          = [separator].intercalate (pushed ++ [pushedWord capitalizeFirst word]) := by
        cases pushed with
        | nil => simp [List.intercalate]
        | cons first rest => rw [intercalate_concat (List.cons_ne_nil _ _)]; rfl
      obtain ⟨chosen, hlength, hmem, hrest⟩ := ih (pushed ++ [pushedWord capitalizeFirst word])
      refine ⟨word :: chosen, by rw [List.length_cons, hlength], ?_, ?_⟩
      · intro word' hword'
        rcases List.mem_cons.mp hword' with rfl | hword'
        · exact hword
        · exact hmem word' hword'
      · rw [List.length_append, List.length_singleton, List.append_assoc,
          List.singleton_append] at hrest
        simp only [pushWords, hchoose, Option.bind_eq_bind, Option.bind_some, hnext, List.map_cons]
        exact hrest

/-! ## Every recipe -/

theorem hexChar_mem {n : ℕ} (h : n < 16) : hexChar n ∈ "0123456789abcdef".toList := by
  revert n
  decide +kernel

/-- An invalid recipe is refused, and every other one gives a password that meets it. -/
def GenerateMeets (rng : Rng) (file : String) (recipe : PasswordRecipe) : Prop :=
  (recipe.Invalid → ∃ why, generate rng file recipe
    = some (.error (.invalidPasswordRecipe why))) ∧
  (¬ recipe.Invalid → ∃ password, generate rng file recipe = some (.ok password) ∧
    recipe.Meets (wordlist file) password.toList)

theorem generateMeets_random (rng : Rng) (file : String) (length : UInt32)
    (upper lower digits symbols : Bool) :
    GenerateMeets rng file (.random length upper lower digits symbols) := by
  simp only [GenerateMeets, generate, generateRandom_eq, PasswordRecipe.Invalid,
    ← enabledAlphabets_eq_nil]
  by_cases hlength : length.toNat < 8 ∨ 256 < length.toNat
  · rw [if_pos hlength]
    exact ⟨fun _ => ⟨_, rfl⟩, fun h => absurd (hlength.imp_right .inl) h⟩
  rw [if_neg hlength]
  by_cases hclasses : enabledAlphabets upper lower digits symbols = []
  · rw [if_pos hclasses]
    exact ⟨fun _ => ⟨_, rfl⟩, fun h => absurd (.inr (.inr hclasses)) h⟩
  rw [if_neg hclasses]
  refine ⟨fun h => ?_, fun _ => ?_⟩
  · rcases h with h | h | h
    · exact absurd (.inl h) hlength
    · exact absurd (.inr h) hlength
    · exact absurd h hclasses
  · have hcount := @length_enabledAlphabets upper lower digits symbols
    obtain ⟨password, hdraw, hmeets⟩ := drawPassword_spec rng
      (fun alphabet halphabet => asciiAlphabet_of_mem halphabet) hclasses
      (show _ ≤ length.toNat by omega)
    exact ⟨password, by rw [hdraw, Option.bind_some], hmeets⟩

theorem generateMeets_passphrase (rng : Rng) {file : String}
    (hfile : ∃ line ∈ lines file.toList, line.all Char.isLower = true) (wordCount : UInt32)
    (separator : Char) (capitalizeFirst : Bool) :
    GenerateMeets rng file (.passphrase wordCount separator capitalizeFirst) := by
  simp only [GenerateMeets, generate, generatePassphrase, PasswordRecipe.Invalid]
  by_cases hcount : wordCount.toNat < 4 ∨ 16 < wordCount.toNat
  · rw [if_pos hcount]
    exact ⟨fun _ => ⟨_, rfl⟩, fun h => absurd hcount h⟩
  · rw [if_neg hcount]
    refine ⟨fun h => absurd h hcount, fun _ => ?_⟩
    obtain ⟨line, hline, hlower⟩ := hfile
    have hwords : wordlist file ≠ [] :=
      List.ne_nil_of_mem (List.mem_filter.mpr ⟨hline, hlower⟩)
    obtain ⟨chosen, hlength, hmem, hpush⟩ :=
      pushWords_spec rng hwords separator capitalizeFirst wordCount.toNat []
    refine ⟨String.ofList _, by rw [show pushWords rng _ _ _ 0 _ [] = _ from hpush]; rfl,
      chosen, hlength, ?_, ?_⟩
    · intro word hword
      exact ⟨hmem word hword, List.all_eq_true.mp (List.mem_filter.mp (hmem word hword)).2⟩
    · rw [String.toList_ofList, List.nil_append]

theorem generateMeets_hex (rng : Rng) (file : String) (length : UInt32) :
    GenerateMeets rng file (.hex length) := by
  simp only [GenerateMeets, generate, generateHex, PasswordRecipe.Invalid]
  by_cases hlength : length.toNat = 0 ∨ length.toNat > 512 ∨ length.toNat % 2 ≠ 0
  · rw [if_pos hlength]
    exact ⟨fun _ => ⟨_, rfl⟩, fun h => absurd (by omega) h⟩
  · rw [if_neg hlength]
    refine ⟨fun h => absurd (by omega) hlength, fun _ => ⟨_, rfl, ?_, ?_⟩⟩
    · rw [String.toList_ofList, length_hexChars, FixedBytes.length_toBytes]
      omega
    · intro c hc
      rw [String.toList_ofList] at hc
      obtain ⟨n, hn, rfl⟩ := exists_of_mem_hexChars hc
      exact hexChar_mem hn

/-- **Generated passwords meet their recipe**: whatever the generator draws, there is no panic, an
    invalid recipe is refused, and every other one gives a password that meets it. The embedded file
    is only assumed to hold some word of lower case letters. -/
theorem generate_meets_recipe (rng : Rng) {file : String}
    (hfile : ∃ line ∈ lines file.toList, line.all Char.isLower = true) (recipe : PasswordRecipe) :
    (recipe.Invalid → ∃ why, generate rng file recipe
      = some (.error (.invalidPasswordRecipe why))) ∧
    (¬ recipe.Invalid → ∃ password, generate rng file recipe = some (.ok password) ∧
      recipe.Meets (wordlist file) password.toList) := by
  cases recipe with
  | random length upper lower digits symbols =>
      exact generateMeets_random rng file length upper lower digits symbols
  | passphrase wordCount separator capitalizeFirst =>
      exact generateMeets_passphrase rng hfile wordCount separator capitalizeFirst
  | hex length => exact generateMeets_hex rng file length

/-- A generator that goes through each slice in turn. -/
def rotatingRng : Rng where
  index call len := call % len
  index_lt h := Nat.mod_lt _ h
  shuffle := List.reverse
  shuffle_perm := List.reverse_perm
  fill n := .replicate n 0xAB

/-- Four words of a short list, with the draws of that generator. -/
theorem generate_meets_recipe_rotating :
    ∃ password,
      generate rotatingRng "abacus\nabdomen\nyo-yo\n" (.passphrase 4 '-' true)
        = some (.ok password) ∧
      PasswordRecipe.Meets (wordlist "abacus\nabdomen\nyo-yo\n") (.passphrase 4 '-' true)
        password.toList :=
  (generate_meets_recipe rotatingRng (by decide +kernel) (.passphrase 4 '-' true)).2
    (by simp [PasswordRecipe.Invalid])

/-- Hyphenated words are left out of the list. -/
example : generate rotatingRng "abacus\nabdomen\nyo-yo\n" (.passphrase 4 '-' true)
    = some (.ok "Abacus-Abdomen-Abacus-Abdomen") := by decide +kernel

end SerenSecrets
