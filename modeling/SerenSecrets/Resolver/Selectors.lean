import SerenSecrets.Resolver.Fields

set_option autoImplicit false

/-! # The grammar of identity selectors

A selector reaches into a list of an identity: `emails[2]`, `phones.home`,
`government_ids.us.issuer`.
The grammar is stated on its own (`Spells`), as is the entry a selector names (`Names`) and the text
it stands for (`ArrayEntry.read`). Malformed selectors are meant to find nothing.

The parser takes a little more than the grammar (`Lenient`): a plus sign before an index, an empty
label, and an empty part of an address. These are the only exceptions: on every other field the
extractor follows the grammar for all identities, and for each of these there is an identity that
has an answer. -/

namespace SerenSecrets

/-! ## The grammar -/

/-- The end of a selector: nothing, or a dot and the part asked for. -/
inductive SpellsTail : List Char → Option String → Prop
  | whole : SpellsTail [] none
  | part {sub : List Char} (hne : sub ≠ []) : SpellsTail ('.' :: sub) (some (String.ofList sub))

/-- The selectors: an index in brackets, or a label after a dot. -/
inductive Spells : List Char → ArraySelector → Prop
  | index {digits tail : List Char} {n : ℕ} {subfield : Option String}
      (hdigits : IsDecimal digits n) (htail : SpellsTail tail subfield) :
      Spells ('[' :: (digits ++ ']' :: tail)) (.index n subfield)
  | label {label tail : List Char} {subfield : Option String} (hne : label ≠ [])
      (hdot : '.' ∉ label) (htail : SpellsTail tail subfield) :
      Spells ('.' :: (label ++ tail)) (.label (String.ofList label) subfield)

def ArraySelector.subfield : ArraySelector → Option String
  | index _ subfield => subfield
  | label _ subfield => subfield

namespace IdentityArray

/-- The parts of an entry that can be asked for. -/
def subfieldNames : IdentityArray → List String
  | emails => ["value", "email", "address", "label", "tag"]
  | phones => ["value", "number", "phone", "label", "tag"]
  | addresses =>
      ["full", "full_address", "formatted", "street", "street_address", "address_line", "city",
        "locality", "region", "state", "province", "postal_code", "zip", "zip_code", "postcode",
        "country"]
  | governmentIds =>
      ["number", "value", "id", "label", "kind", "type", "issuer", "issued_on", "issued",
        "expires_on", "expires", "expiration"]

def Knows (base : IdentityArray) (subfield : String) : Prop :=
  toAsciiLowercase subfield ∈ base.subfieldNames

instance (base : IdentityArray) (subfield : String) : Decidable (base.Knows subfield) :=
  inferInstanceAs (Decidable (_ ∈ _))

end IdentityArray

/-! ## What a selector stands for -/

/-- An entry of one of the lists: its label if it has one, the text that stands for the whole entry
    and the texts of its parts. -/
structure ArrayEntry where
  label : Option String
  whole : String
  parts : List (List String × String)

/-- The text of the whole entry or of one part. -/
def ArrayEntry.read (entry : ArrayEntry) : Option String → Option String
  | none => some entry.whole
  | some subfield => matchName entry.parts (toAsciiLowercase subfield)

/-- The requested label is the whole label or one of its alphanumeric tokens, in any case. -/
def ArrayEntry.HasLabel (entry : ArrayEntry) (requested : String) : Prop :=
  ∃ stored, entry.label = some stored ∧
    (eqIgnoreAsciiCase stored requested = true ∨
      ∃ token, IsRun Char.isAlphanum stored.toList token ∧
        eqIgnoreAsciiCase (String.ofList token) requested = true)

def addressParts (a : PostalAddress) : List (List String × String) :=
  [(["full", "full_address", "formatted"], formatAddress a),
    (["street", "street_address", "address_line"], a.street),
    (["city", "locality"], a.city),
    (["region", "state", "province"], a.region),
    (["postal_code", "zip", "zip_code", "postcode"], a.postalCode),
    (["country"], a.country)]

namespace IdentityArray

def emailEntry (e : EmailEntry) : ArrayEntry := ⟨some e.label, e.value, emailSubfields e⟩

def phoneEntry (e : PhoneEntry) : ArrayEntry := ⟨some e.label, e.value, phoneSubfields e⟩

def addressEntry (a : PostalAddress) : ArrayEntry := ⟨none, formatAddress a, addressParts a⟩

def governmentIdEntry (g : GovernmentId) : ArrayEntry :=
  ⟨some g.label, g.number, governmentIdSubfields g⟩

def entries (id : IdentityContent) : IdentityArray → List ArrayEntry
  | emails => id.emails.map emailEntry
  | phones => id.phones.map phoneEntry
  | addresses => id.addresses.map addressEntry
  | governmentIds => id.governmentIds.map governmentIdEntry

end IdentityArray

/-- The entry a selector names: the one at the index, or the first one with the label. -/
def Names (entries : List ArrayEntry) : ArraySelector → ArrayEntry → Prop
  | .index n _, entry => entries[n]? = some entry
  | .label requested _, entry =>
      ∃ before after, entries = before ++ entry :: after ∧ entry.HasLabel requested ∧
        ∀ e ∈ before, ¬ e.HasLabel requested

/-- The field, in lower case, is the name of a list and a bracket or dot with what follows it. -/
def HasArrayPrefix (field : String) (base : IdentityArray) (rest : List Char) : Prop :=
  (toAsciiLowercase field).toList = base.text.toList ++ rest ∧
    (rest.head? = some '[' ∨ rest.head? = some '.')

/-- What follows the name of the list is a selector of the grammar with a part the list knows. -/
def WellFormed (base : IdentityArray) (rest : List Char) (selector : ArraySelector) : Prop :=
  Spells rest selector ∧ ∀ subfield ∈ selector.subfield, base.Knows subfield

/-- What follows the name is a selector of the grammar that stands for the text. -/
def StandsFor (id : IdentityContent) (base : IdentityArray) (rest : List Char) (value : String) :
    Prop :=
  ∃ selector, WellFormed base rest selector ∧
    ∃ entry, Names (base.entries id) selector entry ∧ entry.read selector.subfield = some value

/-- The extractor follows the grammar: it answers only to a selector, with the text the selector
    stands for, and refuses everything else. -/
def FollowsGrammar (plainText : Json → String) (id : IdentityContent) (field : String)
    (base : IdentityArray) (rest : List Char) : Prop :=
  (∀ value, extractField plainText (.identity id) field = .ok value →
    StandsFor id base rest value) ∧
  ((¬ ∃ selector, WellFormed base rest selector) →
    extractField plainText (.identity id) field = .error (.unknownField field))

/-- The fields outside the grammar that the parser takes nevertheless. -/
inductive Lenient : IdentityArray → List Char → Prop
  | plus {base : IdentityArray} {digits tail : List Char} {n : ℕ} (hdigits : IsDecimal digits n)
      (hfits : n < 2 ^ 64)
      (htail : tail = [] ∨ ∃ sub, tail = '.' :: sub ∧
        (base.Knows (String.ofList sub) ∨ (base = .addresses ∧ sub = []))) :
      Lenient base ('[' :: '+' :: (digits ++ ']' :: tail))
  | emptyLabel {base : IdentityArray} {sub : List Char} (hbase : base ≠ .addresses)
      (hknows : base.Knows (String.ofList sub)) : Lenient base ('.' :: '.' :: sub)
  | emptySubfield {digits : List Char} {n : ℕ} (hdigits : IsDecimal digits n)
      (hfits : n < 2 ^ 64) : Lenient .addresses ('[' :: (digits ++ [']', '.']))

/-! ## What the parser takes -/

theorem parseSubfield_eq_some {tail : List Char} {subfield : Option String} :
    parseSubfield tail = some subfield ↔
      (tail = [] ∧ subfield = none) ∨
        ∃ sub, tail = '.' :: sub ∧ subfield = some (String.ofList sub) := by
  unfold parseSubfield
  split
  · simp [eq_comm]
  · simp [eq_comm]
  · rename_i hnil hdot
    constructor
    · intro h
      exact absurd h (by simp)
    · rintro (⟨rfl, -⟩ | ⟨sub, rfl, -⟩)
      · exact absurd rfl hnil
      · exact absurd rfl (hdot sub)

theorem bracket_notMem_of_parseUsize {idx : List Char} {n : ℕ} (h : parseUsize idx = some n) :
    ']' ∉ idx := by
  obtain ⟨digits, hidx, hdigits, -⟩ := parseUsize_eq_some.mp h
  have hmem : ']' ∉ digits := hdigits.notMem (by decide)
  rcases hidx with rfl | rfl
  · exact hmem
  · simpa using hmem

theorem parseSelector_index {idx tail : List Char} {n : ℕ} {subfield : Option String}
    (hidx : parseUsize idx = some n) (htail : parseSubfield tail = some subfield) :
    parseSelector ('[' :: (idx ++ ']' :: tail)) = some (.index n subfield) := by
  simp only [parseSelector, splitOnce_append tail (bracket_notMem_of_parseUsize hidx),
    Option.bind_eq_bind, Option.bind_some, hidx, htail, Option.pure_def]

/-- **What the parser takes**: an index that reads as an integer, or a label that may be empty
    unless nothing follows, and any end. -/
theorem parseSelector_inv {rest : List Char} {selector : ArraySelector}
    (h : parseSelector rest = some selector) :
    (∃ idx tail n subfield, rest = '[' :: (idx ++ ']' :: tail) ∧ parseUsize idx = some n ∧
      parseSubfield tail = some subfield ∧ selector = .index n subfield) ∨
    ∃ label tail subfield, rest = '.' :: (label ++ tail) ∧ '.' ∉ label ∧
      (label = [] → tail ≠ []) ∧ parseSubfield tail = some subfield ∧
      selector = .label (String.ofList label) subfield := by
  unfold parseSelector at h
  split at h
  · rename_i afterBracket
    left
    simp only [Option.bind_eq_bind, Option.bind_eq_some_iff, Prod.exists, splitOnce_eq_some,
      Option.pure_def, Option.some.injEq] at h
    obtain ⟨idx, tail, ⟨-, rfl⟩, n, hidx, subfield, htail, rfl⟩ := h
    exact ⟨idx, tail, n, subfield, rfl, hidx, htail, rfl⟩
  · rename_i afterDot
    right
    rw [Option.ite_none_left_eq_some] at h
    obtain ⟨hne, h⟩ := h
    split at h
    · rename_i label sub hsplit
      obtain ⟨hdot, rfl⟩ := splitOnce_eq_some.mp hsplit
      exact ⟨label, '.' :: sub, some (String.ofList sub), rfl, hdot, by simp, rfl,
        (Option.some.inj h).symm⟩
    · rename_i hsplit
      exact ⟨afterDot, [], none, by simp, splitOnce_eq_none.mp hsplit,
        fun hnil => absurd hnil hne, rfl, (Option.some.inj h).symm⟩
  · exact absurd h (by simp)

/-! ## Labels and entries -/

theorem labelMatches_iff {stored requested : String} :
    labelMatches stored requested = true ↔
      eqIgnoreAsciiCase stored requested = true ∨
        ∃ token, IsRun Char.isAlphanum stored.toList token ∧
          eqIgnoreAsciiCase (String.ofList token) requested = true := by
  unfold labelMatches
  simp only [Bool.or_eq_true, List.any_eq_true, beq_iff_eq, toList_toAsciiLowercase, splitOnP_map,
    isAlphanum_toLower, List.mem_map, mem_splitOnP_iff, eqIgnoreAsciiCase_iff,
    String.toList_ofList]
  rw [← String.toList_inj, toList_toAsciiLowercase, toList_toAsciiLowercase]
  constructor
  · rintro (hwhole | ⟨_, ⟨token, hrun, rfl⟩, htoken⟩)
    · exact .inl hwhole
    · exact .inr ⟨token, hrun, htoken⟩
  · rintro (hwhole | ⟨token, hrun, htoken⟩)
    · exact .inl hwhole
    · exact .inr ⟨_, ⟨token, hrun, rfl⟩, htoken⟩

/-- The entry a selector names, by search. -/
def pick (entries : List ArrayEntry) : ArraySelector → Option ArrayEntry
  | .index n _ => entries[n]?
  | .label requested _ => entries.find? (fun e => e.label.any (labelMatches · requested))

theorem any_labelMatches_iff {entry : ArrayEntry} {requested : String} :
    entry.label.any (labelMatches · requested) = true ↔ entry.HasLabel requested := by
  unfold ArrayEntry.HasLabel
  cases entry.label with
  | none => simp
  | some stored => simp [labelMatches_iff]

theorem pick_eq_some {entries : List ArrayEntry} {selector : ArraySelector} {entry : ArrayEntry} :
    pick entries selector = some entry ↔ Names entries selector entry := by
  cases selector with
  | index n subfield => exact Iff.rfl
  | label requested subfield =>
      rw [pick, List.find?_eq_some_iff_append]
      simp only [Names, any_labelMatches_iff, Bool.not_eq_true', ← Bool.not_eq_true]
      constructor
      · rintro ⟨hlabel, before, after, hentries, hbefore⟩
        exact ⟨before, after, hentries, hlabel, hbefore⟩
      · rintro ⟨before, after, hentries, hlabel, hbefore⟩
        exact ⟨hlabel, before, after, hentries, hbefore⟩

/-! ## What the extractor answers -/

/-- The text a selector reads from the list. -/
def IdentityArray.resolve (id : IdentityContent) : IdentityArray → ArraySelector → String
  | emails => resolveEmail id.emails
  | phones => resolvePhone id.phones
  | addresses => resolveAddress id.addresses
  | governmentIds => resolveGovernmentId id.governmentIds

theorem dropPrefix?_text_self (base : IdentityArray) (rest : List Char) :
    (base.text.toList ++ rest).dropPrefix? base.text.toList = some rest :=
  List.dropPrefix?_eq_some_iff.mpr ⟨_, rfl, beq_self_eq_true _⟩

/-- The names of the lists differ in their first letters. -/
theorem dropPrefix?_text_ne {base other : IdentityArray} (h : base ≠ other) (rest : List Char) :
    (base.text.toList ++ rest).dropPrefix? other.text.toList = none := by
  have hfirst : ∀ b : IdentityArray, ∃ cs, b.text.toList = b.text.toList.headD ' ' :: cs := by
    intro b
    cases b <;> exact ⟨_, rfl⟩
  have hletter : base.text.toList.headD ' ' ≠ other.text.toList.headD ' ' := by
    cases base <;> cases other <;> first | exact absurd rfl h | decide +kernel
  obtain ⟨cs, hbase⟩ := hfirst base
  obtain ⟨ds, hother⟩ := hfirst other
  rw [hbase, hother, List.cons_append, List.dropPrefix?, beq_eq_false_iff_ne.mpr hletter]
  rfl

theorem splitArrayPrefix_eq {field : String} {base : IdentityArray} {rest : List Char}
    (h : HasArrayPrefix field base rest) :
    splitArrayPrefix (toAsciiLowercase field).toList = some (base, rest) := by
  obtain ⟨hfield, hhead⟩ := h
  have hself := dropPrefix?_text_self base rest
  have hother : ∀ other, base ≠ other →
      (base.text.toList ++ rest).dropPrefix? other.text.toList = none :=
    fun other hne => dropPrefix?_text_ne hne rest
  rw [hfield, splitArrayPrefix]
  generalize base.text.toList ++ rest = cs at hself hother
  cases base with
  | emails => simp [hself, hhead]
  | phones => simp [hself, hhead, hother .emails]
  | addresses => simp [hself, hhead, hother .emails, hother .phones]
  | governmentIds => simp [hself, hhead, hother .emails, hother .phones, hother .addresses]

theorem tryExtractIdentityMulti_eq {field : String} {base : IdentityArray} {rest : List Char}
    (h : HasArrayPrefix field base rest) (id : IdentityContent) :
    tryExtractIdentityMulti id field
      = some (((parseSelector rest).map (base.resolve id)).getD "") := by
  simp only [tryExtractIdentityMulti, splitArrayPrefix_eq h, Option.bind_eq_bind, Option.bind_some]
  cases parseSelector rest with
  | none => rfl
  | some selector => cases base <;> rfl

/-- An answer is the text of a selector the parser took. -/
theorem extractField_identity_eq_ok {plainText : Json → String} {field : String}
    {base : IdentityArray} {rest : List Char} (h : HasArrayPrefix field base rest)
    {id : IdentityContent} {value : String} :
    extractField plainText (.identity id) field = .ok value ↔
      (∃ selector, parseSelector rest = some selector ∧ base.resolve id selector = value) ∧
        value ≠ "" := by
  rw [extractField_eq_ok]
  simp only [extractKindField, extractIdentityField, tryExtractIdentityMulti_eq h, Except.ok.injEq]
  cases parseSelector rest with
  | none => simp [eq_comm]
  | some selector => simp

theorem extractField_eq_error {plainText : Json → String} {content : ItemContent} {field : String}
    (h : ∀ value, extractField plainText content field ≠ .ok value) :
    extractField plainText content field = .error (.unknownField field) := by
  rcases @extractField_sameAnswer plainText field field content rfl with
    ⟨value, hvalue, -⟩ | ⟨herror, -⟩
  · exact absurd hvalue (h value)
  · exact herror

section Resolve

variable {Entry : Type} {label : Entry → String} {default : String}
  {subfields : Entry → List (List String × String)} {view : Entry → ArrayEntry}

theorem pick_map (hlabel : ∀ e, (view e).label = some (label e)) (entries : List Entry)
    (selector : ArraySelector) :
    pick (entries.map view) selector = (selectEntry label entries selector).1.map view := by
  cases selector with
  | index n subfield => exact List.getElem?_map ..
  | label requested subfield =>
      simp only [pick, selectEntry, List.find?_map]
      congr 2
      funext e
      simp [hlabel e]

theorem selectEntry_snd (entries : List Entry) (selector : ArraySelector) :
    (selectEntry label entries selector).2 = selector.subfield := by
  cases selector <;> rfl

/-- A list of labelled entries is read as the entries it is viewed as. -/
theorem resolveEntry_eq (hlabel : ∀ e, (view e).label = some (label e))
    (hparts : ∀ e, (view e).parts = subfields e)
    (hwhole : ∀ e, matchName (subfields e) (toAsciiLowercase default) = some (view e).whole)
    (entries : List Entry) (selector : ArraySelector) :
    resolveEntry label default subfields entries selector
      = ((pick (entries.map view) selector).bind (·.read selector.subfield)).getD "" := by
  rw [pick_map hlabel, ← @selectEntry_snd Entry label entries selector, resolveEntry]
  rcases selectEntry label entries selector with ⟨_ | entry, _ | sub⟩
  · rfl
  · rfl
  · simp [ArrayEntry.read, hwhole]
  · simp [ArrayEntry.read, hparts]

end Resolve

/-! ## The parts of an entry -/

namespace IdentityArray

variable {base : IdentityArray} {id : IdentityContent}

theorem flatMap_parts {entry : ArrayEntry} (h : entry ∈ base.entries id) :
    entry.parts.flatMap Prod.fst = base.subfieldNames := by
  cases base with
  | emails => obtain ⟨e, -, rfl⟩ := List.mem_map.mp h; rfl
  | phones => obtain ⟨e, -, rfl⟩ := List.mem_map.mp h; rfl
  | addresses => obtain ⟨a, -, rfl⟩ := List.mem_map.mp h; rfl
  | governmentIds => obtain ⟨g, -, rfl⟩ := List.mem_map.mp h; rfl

theorem not_knows_empty (base : IdentityArray) : ¬ base.Knows "" := by
  cases base <;> decide +kernel

theorem ne_nil_of_knows {sub : List Char} (h : base.Knows (String.ofList sub)) : sub ≠ [] := by
  rintro rfl
  exact base.not_knows_empty h

theorem resolveAddress_label (entries : List PostalAddress) (requested : String)
    (subfield : Option String) : resolveAddress entries (.label requested subfield) = "" := rfl

theorem resolveAddress_eq {selector : ArraySelector} (h : selector.subfield ≠ some "")
    (entries : List PostalAddress) :
    resolveAddress entries selector
      = ((pick (entries.map addressEntry) selector).bind (·.read selector.subfield)).getD "" := by
  cases selector with
  | label requested subfield =>
      have hnone : (entries.map addressEntry).find?
          (fun e => e.label.any (labelMatches · requested)) = none := by
        simp [addressEntry]
      rw [resolveAddress_label, pick, hnone]
      rfl
  | index n subfield =>
      simp only [resolveAddress, pick, List.getElem?_map, ArraySelector.subfield]
      cases entries[n]? with
      | none => rfl
      | some a =>
          cases subfield with
          | none => rfl
          | some sub =>
              have hne : toAsciiLowercase sub ≠ "" := by
                intro hempty
                exact h (congrArg some (toAsciiLowercase_eq_empty.mp hempty))
              simp only [Option.map_some, Option.getD_some, Option.bind_some, ArrayEntry.read,
                matchName_cons_of_ne hne]
              rfl

/-- Apart from the empty part of an address, a list is read as its entries. -/
theorem resolve_eq {selector : ArraySelector}
    (h : ¬ (base = .addresses ∧ selector.subfield = some "")) :
    base.resolve id selector
      = ((pick (base.entries id) selector).bind (·.read selector.subfield)).getD "" := by
  have hvalue : toAsciiLowercase "value" = "value" := by decide +kernel
  have hnumber : toAsciiLowercase "number" = "number" := by decide +kernel
  cases base with
  | emails =>
      refine resolveEntry_eq ?_ ?_ ?_ id.emails selector
      · exact fun _ => rfl
      · exact fun _ => rfl
      · intro e
        rw [hvalue]
        rfl
  | phones =>
      refine resolveEntry_eq ?_ ?_ ?_ id.phones selector
      · exact fun _ => rfl
      · exact fun _ => rfl
      · intro e
        rw [hvalue]
        rfl
  | addresses => exact resolveAddress_eq (fun hempty => h ⟨rfl, hempty⟩) id.addresses
  | governmentIds =>
      refine resolveEntry_eq ?_ ?_ ?_ id.governmentIds selector
      · exact fun _ => rfl
      · exact fun _ => rfl
      · intro g
        rw [hnumber]
        rfl

end IdentityArray

/-! ## Answers outside the slips follow the grammar -/

theorem mem_of_pick {entries : List ArrayEntry} {selector : ArraySelector} {entry : ArrayEntry}
    (h : pick entries selector = some entry) : entry ∈ entries := by
  cases selector with
  | index n subfield => exact List.mem_of_getElem? h
  | label requested subfield => exact List.mem_of_find?_eq_some h

/-- A text that is read comes from the named entry, and the part asked for is a known one. -/
theorem answer_of_resolve {base : IdentityArray} {id : IdentityContent} {selector : ArraySelector}
    {value : String} (hslip : ¬ (base = .addresses ∧ selector.subfield = some ""))
    (hvalue : base.resolve id selector = value) (hne : value ≠ "") :
    (∃ entry, Names (base.entries id) selector entry ∧
      entry.read selector.subfield = some value) ∧
    ∀ subfield ∈ selector.subfield, base.Knows subfield := by
  rw [IdentityArray.resolve_eq hslip] at hvalue
  cases hpick : pick (base.entries id) selector with
  | none =>
      rw [hpick] at hvalue
      exact absurd hvalue.symm hne
  | some entry =>
      rw [hpick, Option.bind_some] at hvalue
      cases hread : entry.read selector.subfield with
      | none =>
          rw [hread] at hvalue
          exact absurd hvalue.symm hne
      | some text =>
          rw [hread, Option.getD_some] at hvalue
          subst hvalue
          refine ⟨⟨entry, pick_eq_some.mp hpick, hread⟩, ?_⟩
          intro subfield hsub
          rw [Option.mem_def.mp hsub, ArrayEntry.read] at hread
          have hmem := mem_of_matchName hread
          rwa [IdentityArray.flatMap_parts (mem_of_pick hpick)] at hmem

/-- The end of a selector with a known part is one of the grammar. -/
theorem spellsTail_of_knows {base : IdentityArray} {tail : List Char} {subfield : Option String}
    (htail : parseSubfield tail = some subfield) (hknows : ∀ s ∈ subfield, base.Knows s) :
    SpellsTail tail subfield := by
  rcases parseSubfield_eq_some.mp htail with ⟨rfl, rfl⟩ | ⟨sub, rfl, rfl⟩
  · exact .whole
  · exact .part (IdentityArray.ne_nil_of_knows (hknows _ rfl))

/-- A taken index is an index of the grammar, unless a slip took it. -/
theorem standsFor_index {base : IdentityArray} {id : IdentityContent} {idx tail : List Char}
    {n : ℕ} {subfield : Option String} {value : String}
    (hlenient : ¬ Lenient base ('[' :: (idx ++ ']' :: tail))) (hidx : parseUsize idx = some n)
    (htail : parseSubfield tail = some subfield)
    (hvalue : base.resolve id (.index n subfield) = value) (hne : value ≠ "") :
    StandsFor id base ('[' :: (idx ++ ']' :: tail)) value := by
  obtain ⟨digits, hplus, hdigits, hfits⟩ := parseUsize_eq_some.mp hidx
  by_cases hslip : base = .addresses ∧ subfield = some ""
  · obtain ⟨rfl, rfl⟩ := hslip
    have htail' : tail = ['.'] := by
      rcases parseSubfield_eq_some.mp htail with ⟨-, hnone⟩ | ⟨sub, rfl, hsub⟩
      · exact absurd hnone (by simp)
      · have hsub' : sub = [] := by simpa using hsub.symm
        rw [hsub']
    subst htail'
    rcases hplus with rfl | rfl
    · exact absurd (.emptySubfield hdigits hfits) hlenient
    · exact absurd (.plus hdigits hfits (.inr ⟨[], rfl, .inr ⟨rfl, rfl⟩⟩)) hlenient
  · obtain ⟨hentry, hknows⟩ := answer_of_resolve hslip hvalue hne
    rcases hplus with rfl | rfl
    · exact ⟨.index n subfield, ⟨.index hdigits (spellsTail_of_knows htail hknows), hknows⟩, hentry⟩
    · refine absurd (.plus hdigits hfits ?_) hlenient
      rcases parseSubfield_eq_some.mp htail with ⟨rfl, -⟩ | ⟨sub, rfl, rfl⟩
      · exact .inl rfl
      · exact .inr ⟨sub, rfl, .inl (hknows _ rfl)⟩

/-- A taken label is a label of the grammar, unless a slip took it. -/
theorem standsFor_label {base : IdentityArray} {id : IdentityContent} {label tail : List Char}
    {subfield : Option String} {value : String} (hlenient : ¬ Lenient base ('.' :: (label ++ tail)))
    (hdot : '.' ∉ label) (hempty : label = [] → tail ≠ [])
    (htail : parseSubfield tail = some subfield)
    (hvalue : base.resolve id (.label (String.ofList label) subfield) = value) (hne : value ≠ "") :
    StandsFor id base ('.' :: (label ++ tail)) value := by
  have hbase : base ≠ .addresses := by
    rintro rfl
    exact hne hvalue.symm
  obtain ⟨hentry, hknows⟩ := answer_of_resolve (fun hslip => hbase hslip.1) hvalue hne
  have hlabel : label ≠ [] := by
    rintro rfl
    rcases parseSubfield_eq_some.mp htail with ⟨rfl, -⟩ | ⟨sub, rfl, rfl⟩
    · exact hempty rfl rfl
    · exact hlenient (.emptyLabel hbase (hknows _ rfl))
  exact ⟨.label (String.ofList label) subfield,
    ⟨.label hlabel hdot (spellsTail_of_knows htail hknows), hknows⟩, hentry⟩

theorem followsGrammar_of_not_lenient {plainText : Json → String} {field : String}
    {base : IdentityArray} {rest : List Char} (hstart : HasArrayPrefix field base rest)
    (hlenient : ¬ Lenient base rest) (id : IdentityContent) :
    FollowsGrammar plainText id field base rest := by
  have hok : ∀ value, extractField plainText (.identity id) field = .ok value →
      StandsFor id base rest value := by
    intro value h
    obtain ⟨⟨selector, hparse, hvalue⟩, hne⟩ := (extractField_identity_eq_ok hstart).mp h
    rcases parseSelector_inv hparse with
      ⟨idx, tail, n, subfield, rfl, hidx, htail, rfl⟩ |
      ⟨label, tail, subfield, rfl, hdot, hempty, htail, rfl⟩
    · exact standsFor_index hlenient hidx htail hvalue hne
    · exact standsFor_label hlenient hdot hempty htail hvalue hne
  refine ⟨hok, ?_⟩
  intro hmalformed
  refine extractField_eq_error ?_
  intro value h
  obtain ⟨selector, hwell, -⟩ := hok value h
  exact hmalformed ⟨selector, hwell⟩

/-! ## The slips get answers -/

theorem Spells.of_bracket {cs : List Char} {selector : ArraySelector}
    (h : Spells ('[' :: cs) selector) :
    ∃ digits tail n subfield, cs = digits ++ ']' :: tail ∧ IsDecimal digits n ∧
      SpellsTail tail subfield := by
  generalize hrest : '[' :: cs = rest at h
  cases h with
  | index hdigits htail => exact ⟨_, _, _, _, (List.cons.inj hrest).2, hdigits, htail⟩
  | label hne hdot htail => exact absurd (List.cons.inj hrest).1 (by decide)

theorem Spells.of_dot {cs : List Char} {selector : ArraySelector}
    (h : Spells ('.' :: cs) selector) :
    ∃ label tail, cs = label ++ tail ∧ label ≠ [] ∧ '.' ∉ label := by
  generalize hrest : '.' :: cs = rest at h
  cases h with
  | index hdigits htail => exact absurd (List.cons.inj hrest).1 (by decide)
  | label hne hdot htail => exact ⟨_, _, (List.cons.inj hrest).2, hne, hdot⟩

/-- What a slip takes is not in the grammar. -/
theorem Lenient.not_spells {base : IdentityArray} {rest : List Char} (h : Lenient base rest)
    (selector : ArraySelector) : ¬ Spells rest selector := by
  intro hspells
  cases h with
  | plus hdigits hfits htail =>
      obtain ⟨digits', tail', n', _, hrest, hdigits', -⟩ := hspells.of_bracket
      cases digits' with
      | nil => exact hdigits'.1 rfl
      | cons c cs =>
          obtain ⟨rfl, -⟩ := List.cons.inj hrest
          exact hdigits'.notMem (by decide) List.mem_cons_self
  | emptyLabel hbase hknows =>
      obtain ⟨label', tail', hrest, hne, hdot⟩ := hspells.of_dot
      cases label' with
      | nil => exact hne rfl
      | cons c cs =>
          obtain ⟨rfl, -⟩ := List.cons.inj hrest
          exact hdot List.mem_cons_self
  | emptySubfield hdigits hfits =>
      obtain ⟨digits', tail', n', _, hcut, hdigits', htail'⟩ := hspells.of_bracket
      obtain ⟨-, rfl⟩ := append_terminator_inj (hdigits.notMem (by decide))
        (hdigits'.notMem (by decide)) hcut
      cases htail' with
      | part hne => exact hne rfl

def fullAddress : PostalAddress := ⟨"x", "x", "x", "x", "x"⟩

def fullEntry : IdentityArray → ArrayEntry
  | .emails => IdentityArray.emailEntry ⟨"!", "x"⟩
  | .phones => IdentityArray.phoneEntry ⟨"!", "x"⟩
  | .addresses => IdentityArray.addressEntry fullAddress
  | .governmentIds => IdentityArray.governmentIdEntry ⟨"!", "x", some "x", some "x", "x"⟩

/-- An identity with `n` entries in each list and no empty part. Its labels have no letter, so that
    an empty token stands before the mark. -/
def fullIdentity (n : ℕ) : IdentityContent where
  firstName := ""
  middleName := ""
  lastName := ""
  username := ""
  company := ""
  jobTitle := ""
  gender := ""
  dateOfBirth := none
  emails := List.replicate n ⟨"!", "x"⟩
  phones := List.replicate n ⟨"!", "x"⟩
  addresses := List.replicate n fullAddress
  governmentIds := List.replicate n ⟨"!", "x", some "x", some "x", "x"⟩
  notes := .empty
  notesText := ""
  customFields := []
  sections := []
  rawImport := emptyDoc

theorem entries_fullIdentity (base : IdentityArray) (n : ℕ) :
    base.entries (fullIdentity n) = List.replicate n (fullEntry base) := by
  cases base <;> exact List.map_replicate

theorem read_fullEntry {base : IdentityArray} {subfield : Option String}
    (h : ∀ s ∈ subfield, base.Knows s) :
    ∃ value, (fullEntry base).read subfield = some value ∧ value ≠ "" := by
  have hentry : fullEntry base ∈ base.entries (fullIdentity 1) := by
    rw [entries_fullIdentity]
    exact List.mem_singleton_self _
  have hwhole : (fullEntry base).whole ≠ "" := by cases base <;> decide +kernel
  have hparts : ∀ arm ∈ (fullEntry base).parts, arm.2 ≠ "" := by cases base <;> decide +kernel
  cases subfield with
  | none => exact ⟨_, rfl, hwhole⟩
  | some s =>
      have hmem : toAsciiLowercase s ∈ (fullEntry base).parts.flatMap Prod.fst := by
        rw [IdentityArray.flatMap_parts hentry]
        exact h s rfl
      obtain ⟨arm, harm, hmatch⟩ := matchName_of_mem hmem
      exact ⟨arm.2, hmatch, hparts arm harm⟩

theorem resolve_fullIdentity {base : IdentityArray} {n : ℕ} {selector : ArraySelector}
    (hpick : pick (List.replicate n (fullEntry base)) selector = some (fullEntry base))
    (hknows : ∀ s ∈ selector.subfield, base.Knows s) :
    base.resolve (fullIdentity n) selector ≠ "" := by
  obtain ⟨value, hread, hne⟩ := read_fullEntry hknows
  have hslip : ¬ (base = .addresses ∧ selector.subfield = some "") := by
    rintro ⟨-, hempty⟩
    exact base.not_knows_empty (hknows "" hempty)
  rw [IdentityArray.resolve_eq hslip, entries_fullIdentity, hpick, Option.bind_some, hread]
  exact hne

theorem resolve_fullIdentity_address (n : ℕ) :
    IdentityArray.addresses.resolve (fullIdentity (n + 1)) (.index n (some "")) ≠ "" := by
  have hget : (List.replicate (n + 1) fullAddress)[n]? = some fullAddress :=
    List.getElem?_replicate_of_lt (Nat.lt_succ_self n)
  show resolveAddress (List.replicate (n + 1) fullAddress) (.index n (some "")) ≠ ""
  simp only [resolveAddress, hget]
  decide +kernel

theorem pick_replicate_index {entry : ArrayEntry} (n : ℕ) (subfield : Option String) :
    pick (List.replicate (n + 1) entry) (.index n subfield) = some entry :=
  List.getElem?_replicate_of_lt (Nat.lt_succ_self n)

/-- For every slip there is an identity that has an answer to it. -/
theorem Lenient.answered {base : IdentityArray} {rest : List Char} (h : Lenient base rest) :
    ∃ n selector, parseSelector rest = some selector ∧
      base.resolve (fullIdentity n) selector ≠ "" := by
  cases h with
  | plus hdigits hfits htail =>
      rename_i digits tail n
      have hidx : parseUsize ('+' :: digits) = some n :=
        parseUsize_eq_some.mpr ⟨digits, .inr rfl, hdigits, hfits⟩
      rcases htail with rfl | ⟨sub, rfl, hknows | ⟨rfl, rfl⟩⟩
      · exact ⟨n + 1, _, parseSelector_index hidx rfl,
          resolve_fullIdentity (pick_replicate_index n none) (by simp [ArraySelector.subfield])⟩
      · exact ⟨n + 1, _, parseSelector_index hidx rfl,
          resolve_fullIdentity (pick_replicate_index n _)
            (by simpa [ArraySelector.subfield] using hknows)⟩
      · exact ⟨n + 1, _, parseSelector_index hidx rfl, resolve_fullIdentity_address n⟩
  | emptyLabel hbase hknows =>
      rename_i sub
      have hparse : parseSelector ('.' :: '.' :: sub)
          = some (.label "" (some (String.ofList sub))) := rfl
      have hlabel : (fullEntry base).label.any (labelMatches · "") = true := by
        cases base <;> first | exact absurd rfl hbase | decide +kernel
      refine ⟨1, _, hparse, resolve_fullIdentity ?_ ?_⟩
      · simp [pick, hlabel]
      · simpa [ArraySelector.subfield] using hknows
  | emptySubfield hdigits hfits =>
      rename_i digits n
      have hidx : parseUsize digits = some n :=
        parseUsize_eq_some.mpr ⟨digits, .inl rfl, hdigits, hfits⟩
      exact ⟨n + 1, _, parseSelector_index hidx rfl, resolve_fullIdentity_address n⟩

/-- **Identity selectors follow their grammar** exactly when the field is none of the slips. -/
theorem extractField_follows_grammar_iff (plainText : Json → String) (field : String)
    (base : IdentityArray) (rest : List Char) (hstart : HasArrayPrefix field base rest) :
    (∀ id, FollowsGrammar plainText id field base rest) ↔ ¬ Lenient base rest := by
  constructor
  · intro hfollows hlenient
    obtain ⟨n, selector, hparse, hne⟩ := hlenient.answered
    have hok : extractField plainText (.identity (fullIdentity n)) field
        = .ok (base.resolve (fullIdentity n) selector) :=
      (extractField_identity_eq_ok hstart).mpr ⟨⟨selector, hparse, rfl⟩, hne⟩
    obtain ⟨selector', hwell, -⟩ := (hfollows (fullIdentity n)).1 _ hok
    exact hlenient.not_spells selector' hwell.1
  · intro hlenient id
    exact followsGrammar_of_not_lenient hstart hlenient id

theorem extractField_follows_grammar_iff_tag :
    extractField (fun _ => "") (.identity (fullIdentity 1)) "Emails[0].Tag" = .ok "!" ∧
    FollowsGrammar (fun _ => "") (fullIdentity 1) "Emails[0].Tag" .emails
      ['[', '0', ']', '.', 't', 'a', 'g'] := by
  have hstart : HasArrayPrefix "Emails[0].Tag" .emails ['[', '0', ']', '.', 't', 'a', 'g'] := by
    refine ⟨?_, .inl ?_⟩ <;> decide +kernel
  have hlenient : ¬ Lenient .emails ['[', '0', ']', '.', 't', 'a', 'g'] := by
    generalize hrest : ['[', '0', ']', '.', 't', 'a', 'g'] = rest
    intro h
    cases h with
    | plus hdigits hfits htail => exact absurd (List.cons.inj (List.cons.inj hrest).2).1 (by decide)
    | emptyLabel hbase hknows => exact absurd (List.cons.inj hrest).1 (by decide)
  exact ⟨by decide +kernel,
    (extractField_follows_grammar_iff _ _ _ _ hstart).mpr hlenient (fullIdentity 1)⟩

/-- **A plus sign is taken**: a malformed index is answered with the first address. -/
theorem extractField_not_follows_grammar :
    ¬ ∀ (plainText : Json → String) (id : IdentityContent) (field : String) (base : IdentityArray)
      (rest : List Char), HasArrayPrefix field base rest →
        FollowsGrammar plainText id field base rest := by
  intro hfollows
  have hstart : HasArrayPrefix "emails[+0]" .emails ['[', '+', '0', ']'] := by
    refine ⟨?_, .inl ?_⟩ <;> decide +kernel
  have hok : extractField (fun _ => "") (.identity (fullIdentity 1)) "emails[+0]" = .ok "x" := by
    decide +kernel
  have hzero : IsDecimal ['0'] 0 := by
    refine ⟨by simp, ?_, ?_⟩
    · intro c hc
      rw [List.mem_singleton.mp hc]
      decide
    · simp [Nat.ofDigitChars_cons]
  have hlenient : Lenient .emails ['[', '+', '0', ']'] :=
    @Lenient.plus .emails ['0'] [] 0 hzero (Nat.two_pow_pos 64) (.inl rfl)
  obtain ⟨selector, hwell, -⟩ :=
    (hfollows (fun _ => "") (fullIdentity 1) "emails[+0]" .emails _ hstart).1 "x" hok
  exact hlenient.not_spells selector hwell.1

end SerenSecrets
