import SerenSecrets.Lib.Bytes

set_option autoImplicit false

/-! # Text without regard to case, and text cut into pieces

Letter case is that of ASCII: `toAsciiLowercase` changes the 26 capital letters and nothing else.

A text is cut once, at the first or the last separator (`splitOnce`, `rsplitOnce`), or at every one
(`List.splitOnP`). The pieces of this cut are the maximal runs of characters that do not separate
(`mem_splitOnP_iff`). Unsigned integers are read from decimal digits after an optional plus sign
(`parseUsize`). -/

/-! ## ASCII case -/

def toAsciiLowercase (s : String) : String := String.ofList (s.toList.map Char.toLower)

def eqIgnoreAsciiCase (a b : String) : Bool := toAsciiLowercase a == toAsciiLowercase b

@[simp] theorem toList_toAsciiLowercase (s : String) :
    (toAsciiLowercase s).toList = s.toList.map Char.toLower :=
  String.toList_ofList

theorem toAsciiLowercase_eq_empty {s : String} : toAsciiLowercase s = "" ↔ s = "" := by
  rw [← String.toList_inj, ← String.toList_inj, toList_toAsciiLowercase]
  simp

theorem eqIgnoreAsciiCase_iff {a b : String} :
    eqIgnoreAsciiCase a b = true ↔ a.toList.map Char.toLower = b.toList.map Char.toLower := by
  rw [eqIgnoreAsciiCase, beq_iff_eq, ← String.toList_inj, toList_toAsciiLowercase,
    toList_toAsciiLowercase]

theorem toLower_of_not_ascii {c : Char} (h : 128 ≤ c.toNat) : c.toLower = c := by
  unfold Char.toLower
  rw [dif_neg]
  rintro ⟨-, hle⟩
  have : c.toNat ≤ 90 := UInt32.le_iff_toNat_le.mp hle
  omega

/-- A fact about the ASCII characters, where it can be checked one by one, and the others. -/
@[elab_as_elim]
theorem forall_char_of_ascii {P : Char → Prop} (hascii : ∀ k < 128, P (Char.ofNat k))
    (hrest : ∀ c : Char, 128 ≤ c.toNat → P c) (c : Char) : P c := by
  by_cases hc : c.toNat < 128
  · have h := hascii c.toNat hc
    rwa [Char.ofNat_toNat] at h
  · exact hrest c (Nat.le_of_not_lt hc)

@[simp] theorem isAlphanum_toLower (c : Char) : c.toLower.isAlphanum = c.isAlphanum := by
  refine forall_char_of_ascii ?_ ?_ c
  · decide +kernel
  · intro c hc
    rw [toLower_of_not_ascii hc]

/-! ## Occurrences and cuts -/

/-- The term occurs somewhere in the text. -/
def containsText (text term : String) : Bool :=
  text.toList.tails.any (fun tail => term.toList.isPrefixOf tail)

section Cuts

variable {α : Type}

/-- What stands before the first `sep` and what stands after it. -/
def splitOnce [DecidableEq α] (sep : α) : List α → Option (List α × List α)
  | [] => none
  | a :: as =>
      if a = sep then some ([], as)
      else (splitOnce sep as).map (fun parts => (a :: parts.1, parts.2))

theorem splitOnce_append [DecidableEq α] {sep : α} {before : List α} (after : List α)
    (h : sep ∉ before) : splitOnce sep (before ++ sep :: after) = some (before, after) := by
  induction before with
  | nil => simp [splitOnce]
  | cons a before ih =>
      simp only [List.mem_cons, not_or] at h
      rw [List.cons_append, splitOnce, if_neg (Ne.symm h.1), ih h.2]
      rfl

theorem splitOnce_eq_none [DecidableEq α] {sep : α} {as : List α} :
    splitOnce sep as = none ↔ sep ∉ as := by
  induction as with
  | nil => simp [splitOnce]
  | cons a as ih =>
      by_cases h : a = sep
      · simp [splitOnce, h]
      · simp [splitOnce, h, Ne.symm h, ih]

theorem splitOnce_eq_some [DecidableEq α] {sep : α} {as before after : List α} :
    splitOnce sep as = some (before, after) ↔ sep ∉ before ∧ as = before ++ sep :: after := by
  constructor
  · intro h
    by_cases hmem : sep ∈ as
    · obtain ⟨xs, ys, rfl, hxs⟩ := List.eq_append_cons_of_mem hmem
      rw [splitOnce_append ys hxs] at h
      obtain ⟨rfl, rfl⟩ := Prod.mk.inj (Option.some.inj h)
      exact ⟨hxs, rfl⟩
    · rw [splitOnce_eq_none.mpr hmem] at h
      exact absurd h (by simp)
  · rintro ⟨hsep, rfl⟩
    exact splitOnce_append after hsep

/-- What stands before the last `sep` and what stands after it. -/
def rsplitOnce [DecidableEq α] (sep : α) (as : List α) : Option (List α × List α) :=
  (splitOnce sep as.reverse).map (fun parts => (parts.2.reverse, parts.1.reverse))

theorem rsplitOnce_eq_none [DecidableEq α] {sep : α} {as : List α} :
    rsplitOnce sep as = none ↔ sep ∉ as := by
  rw [rsplitOnce, Option.map_eq_none_iff, splitOnce_eq_none, List.mem_reverse]

theorem rsplitOnce_eq_some [DecidableEq α] {sep : α} {as before after : List α} :
    rsplitOnce sep as = some (before, after) ↔ sep ∉ after ∧ as = before ++ sep :: after := by
  simp only [rsplitOnce, Option.map_eq_some_iff, Prod.exists, Prod.mk.injEq, splitOnce_eq_some]
  constructor
  · rintro ⟨x, y, ⟨hx, heq⟩, rfl, rfl⟩
    refine ⟨by simpa using hx, ?_⟩
    rw [← List.reverse_inj, heq]
    simp
  · rintro ⟨hafter, rfl⟩
    exact ⟨after.reverse, before.reverse, ⟨by simpa using hafter, by simp⟩, by simp, by simp⟩

/-! ## Runs -/

/-- A maximal run of elements of `p`: it cannot be made longer on either side. It may be empty
    where two other elements, or an end and such an element, stand next to each other. -/
def IsRun (p : α → Bool) (as run : List α) : Prop :=
  ∃ before after, as = before ++ (run ++ after) ∧ (∀ a ∈ run, p a = true) ∧
    (∀ a ∈ before.getLast?, p a = false) ∧ ∀ a ∈ after.head?, p a = false

theorem isRun_self {p : α → Bool} {as : List α} (h : ∀ a ∈ as, p a = true) : IsRun p as as :=
  ⟨[], [], by simp, h, by simp, by simp⟩

theorem isRun_head {p : α → Bool} {run rest : List α} {sep : α} (h : ∀ a ∈ run, p a = true)
    (hsep : p sep = false) : IsRun p (run ++ sep :: rest) run :=
  ⟨[], sep :: rest, rfl, h, by simp, by simpa using hsep⟩

theorem IsRun.append_left {p : α → Bool} {as run : List α} {sep : α} (h : IsRun p as run)
    (hsep : p sep = false) (front : List α) : IsRun p (front ++ sep :: as) run := by
  obtain ⟨before, after, rfl, hrun, hbefore, hafter⟩ := h
  refine ⟨front ++ sep :: before, after, by simp, hrun, ?_, hafter⟩
  intro a ha
  cases hlast : before.getLast? with
  | none =>
      have hnil : before = [] := List.getLast?_eq_none_iff.mp hlast
      subst hnil
      simp only [List.getLast?_append, List.getLast?_singleton, Option.some_or,
        Option.mem_some_iff] at ha
      exact ha ▸ hsep
  | some b =>
      have hcons : (sep :: before).getLast? = some b := by
        rw [List.getLast?_cons, hlast]
        rfl
      rw [List.getLast?_append, hcons, Option.some_or, Option.mem_some_iff] at ha
      exact ha ▸ hbefore b hlast

/-- A list has no separator, or is cut at its first one. -/
theorem forall_or_eq_append (p : α → Bool) (as : List α) :
    (∀ a ∈ as, p a = true) ∨
      ∃ run sep rest, as = run ++ sep :: rest ∧ (∀ a ∈ run, p a = true) ∧ p sep = false := by
  induction as with
  | nil => exact .inl (by simp)
  | cons a as ih =>
      cases ha : p a with
      | false => exact .inr ⟨[], a, as, rfl, by simp, ha⟩
      | true =>
          rcases ih with hall | ⟨run, sep, rest, rfl, hrun, hsep⟩
          · exact .inl (List.forall_mem_cons.mpr ⟨ha, hall⟩)
          · exact .inr ⟨a :: run, sep, rest, rfl, List.forall_mem_cons.mpr ⟨ha, hrun⟩, hsep⟩

theorem isRun_of_mem_splitOnP {p : α → Bool} (run : List α) (as : List α)
    (h : run ∈ as.splitOnP (fun a => !p a)) : IsRun p as run := by
  -- On the length: what follows the first separator is cut like the whole.
  induction hn : as.length using Nat.strongRecOn generalizing as with
  | _ n ih =>
    rcases forall_or_eq_append p as with hall | ⟨first, sep, rest, rfl, hfirst, hsep⟩
    · rw [List.splitOnP_eq_singleton (fun a ha => by simp [hall a ha]), List.mem_singleton] at h
      subst h
      exact isRun_self hall
    · rw [List.splitOnP_append_cons_of_forall_mem (fun a ha => by simp [hfirst a ha]) sep
        (by simp [hsep]) rest, List.mem_cons] at h
      rcases h with rfl | hmem
      · exact isRun_head hfirst hsep
      · have hlt : rest.length < n := by
          rw [← hn, List.length_append, List.length_cons]
          omega
        exact (ih _ hlt rest hmem rfl).append_left hsep first

theorem mem_splitOnP_of_isRun {p : α → Bool} {run as : List α} (h : IsRun p as run) :
    run ∈ as.splitOnP (fun a => !p a) := by
  obtain ⟨before, after, rfl, hrun, hbefore, hafter⟩ := h
  have hback : run ∈ (run ++ after).splitOnP (fun a => !p a) := by
    cases after with
    | nil =>
        rw [List.append_nil, List.splitOnP_eq_singleton (fun a ha => by simp [hrun a ha])]
        exact List.mem_singleton_self run
    | cons sep after =>
        rw [List.splitOnP_append_cons_of_forall_mem (fun a ha => by simp [hrun a ha]) sep
          (by simp [hafter sep (by simp)])]
        exact List.mem_cons_self
  rcases List.eq_nil_or_concat before with rfl | ⟨front, sep, rfl⟩
  · exact hback
  · have hsep : p sep = false := hbefore sep (by simp)
    rw [List.concat_eq_append, List.append_assoc, List.singleton_append,
      List.splitOnP_append_cons front (run ++ after) (by simp [hsep])]
    exact List.mem_append_right _ hback

/-- **The pieces of a cut** at everything outside `p` are the maximal runs of `p`. -/
theorem mem_splitOnP_iff {p : α → Bool} {run as : List α} :
    run ∈ as.splitOnP (fun a => !p a) ↔ IsRun p as run :=
  ⟨isRun_of_mem_splitOnP run as, mem_splitOnP_of_isRun⟩

theorem notMem_of_mem_splitOn [DecidableEq α] {sep : α} {as piece : List α}
    (h : piece ∈ as.splitOn sep) : sep ∉ piece := by
  have hsep : (fun a => a == sep) = fun a => !(a != sep) := by
    funext a
    exact (Bool.not_not (a == sep)).symm
  rw [List.splitOn_eq_splitOnP, hsep, mem_splitOnP_iff] at h
  obtain ⟨-, -, -, hpiece, -⟩ := h
  intro hmem
  simpa using hpiece sep hmem

/-- The pieces between separators are the only ones that hold none and join to the whole. -/
theorem splitOn_eq_iff [DecidableEq α] {sep : α} {as : List α} {pieces : List (List α)} :
    as.splitOn sep = pieces ↔
      pieces ≠ [] ∧ (∀ piece ∈ pieces, sep ∉ piece) ∧ as = [sep].intercalate pieces := by
  constructor
  · rintro rfl
    exact ⟨List.splitOn_ne_nil sep as, fun piece h => notMem_of_mem_splitOn h,
      (List.intercalate_splitOn sep).symm⟩
  · rintro ⟨hne, hpieces, rfl⟩
    exact List.splitOn_intercalate sep hpieces hne

theorem splitOnP_map {β : Type} (f : α → β) (q : β → Bool) (as : List α) :
    (as.map f).splitOnP q = (as.splitOnP (fun a => q (f a))).map (List.map f) := by
  induction as with
  | nil => simp
  | cons a as ih =>
      rw [List.map_cons, List.splitOnP_cons_eq_if_modifyHead, List.splitOnP_cons_eq_if_modifyHead,
        ih]
      by_cases h : q (f a)
      · simp [h]
      · obtain ⟨first, rest, hsplit⟩ :=
          List.exists_cons_of_ne_nil (List.splitOnP_ne_nil (fun a => q (f a)) as)
        simp [h, hsplit]

end Cuts

/-! ## Unsigned integers -/

/-- One or more decimal digits and the number they denote. -/
def IsDecimal (digits : List Char) (n : ℕ) : Prop :=
  digits ≠ [] ∧ (∀ c ∈ digits, c.isDigit = true) ∧ Nat.ofDigitChars 10 digits 0 = n

def parseDigits (digits : List Char) : Option ℕ :=
  if digits ≠ [] ∧ digits.all Char.isDigit = true ∧ Nat.ofDigitChars 10 digits 0 < 2 ^ 64 then
    some (Nat.ofDigitChars 10 digits 0)
  else none

/-- Read a 64-bit `usize`: a plus sign may stand before the digits, a minus sign may not. -/
def parseUsize : List Char → Option ℕ
  | '+' :: digits => parseDigits digits
  | digits => parseDigits digits

theorem parseDigits_eq_some {digits : List Char} {n : ℕ} :
    parseDigits digits = some n ↔ IsDecimal digits n ∧ n < 2 ^ 64 := by
  unfold parseDigits IsDecimal
  rw [Option.ite_none_right_eq_some, List.all_eq_true, Option.some.injEq]
  constructor
  · rintro ⟨⟨hne, hdigits, hlt⟩, rfl⟩
    exact ⟨⟨hne, hdigits, rfl⟩, hlt⟩
  · rintro ⟨⟨hne, hdigits, rfl⟩, hlt⟩
    exact ⟨⟨hne, hdigits, hlt⟩, rfl⟩

theorem IsDecimal.notMem {digits : List Char} {n : ℕ} (h : IsDecimal digits n) {c : Char}
    (hc : c.isDigit = false) : c ∉ digits := by
  intro hmem
  exact absurd (h.2.1 c hmem) (by simp [hc])

/-- What reads as an integer is its digits, with or without a plus sign. -/
theorem parseUsize_eq_some {cs : List Char} {n : ℕ} :
    parseUsize cs = some n ↔
      ∃ digits, (cs = digits ∨ cs = '+' :: digits) ∧ IsDecimal digits n ∧ n < 2 ^ 64 := by
  constructor
  · intro h
    unfold parseUsize at h
    split at h
    · exact ⟨_, .inr rfl, parseDigits_eq_some.mp h⟩
    · exact ⟨_, .inl rfl, parseDigits_eq_some.mp h⟩
  · rintro ⟨digits, rfl | rfl, hdigits⟩
    · unfold parseUsize
      split
      · exact absurd List.mem_cons_self (hdigits.1.notMem (by decide))
      · exact parseDigits_eq_some.mpr hdigits
    · exact parseDigits_eq_some.mpr hdigits
