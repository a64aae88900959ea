import SerenSecrets.Resolver.Fields
import Mathlib.Data.List.Forall2

set_option autoImplicit false

/-! # Plain-text companions

Every content holds one prose document and, beside it, a cached plain text of it: `body_text` of a
note, `notes_text` of the other kinds. The document is meant to be the authority when the two
disagree. The extractors ask for the text through `projectedText`, which prefers the cached one, so
two contents that differ in nothing but the cache can resolve differently
(`extractField_withCompanion_eq_iff`). -/

namespace SerenSecrets

namespace ItemContent

/-- The content with another cached text. -/
def withCompanion (text : String) : ItemContent → ItemContent
  | login c => login { c with notesText := text }
  | secureNote c => secureNote { c with bodyText := text }
  | apiCredential c => apiCredential { c with notesText := text }
  | card c => card { c with notesText := text }
  | identity c => identity { c with notesText := text }
  | document c => document { c with notesText := text }
  | sshKey c => sshKey { c with notesText := text }
  | server c => server { c with notesText := text }
  | database c => database { c with notesText := text }
  | bankAccount c => bankAccount { c with notesText := text }
  | passport c => passport { c with notesText := text }
  | driverLicense c => driverLicense { c with notesText := text }
  | cryptoWallet c => cryptoWallet { c with notesText := text }

/-- The cached text. -/
def companion : ItemContent → String
  | secureNote c => c.bodyText
  | login c => c.notesText
  | apiCredential c => c.notesText
  | card c => c.notesText
  | identity c => c.notesText
  | document c => c.notesText
  | sshKey c => c.notesText
  | server c => c.notesText
  | database c => c.notesText
  | bankAccount c => c.notesText
  | passport c => c.notesText
  | driverLicense c => c.notesText
  | cryptoWallet c => c.notesText

/-- The document the cached text was taken from. -/
def prose : ItemContent → ProseDoc
  | secureNote c => c.body
  | login c => c.notes
  | apiCredential c => c.notes
  | card c => c.notes
  | identity c => c.notes
  | document c => c.notes
  | sshKey c => c.notes
  | server c => c.notes
  | database c => c.notes
  | bankAccount c => c.notes
  | passport c => c.notes
  | driverLicense c => c.notes
  | cryptoWallet c => c.notes

/-- The names, in lower case, that ask for the text of the document. -/
def proseNames : ItemContent → List String
  | secureNote _ => ["body", "note", "notes"]
  | _ => ["notes", "note"]

/-- Every content is one of its own variants, so nothing is lost by speaking of variants only. -/
theorem withCompanion_companion (content : ItemContent) :
    content.withCompanion content.companion = content := by
  cases content <;> rfl

end ItemContent

/-! ## Tables that differ in the arms of other names -/

section Tables

variable {α : Type} {key : String}

/-- Two tables with the same names whose answers agree wherever `key` is one of the names. -/
def AgreeOn (key : String) : List (List String × α) → List (List String × α) → Prop :=
  List.Forall₂ (fun arm arm' => arm.1 = arm'.1 ∧ (key ∈ arm.1 → arm.2 = arm'.2))

theorem AgreeOn.matchName_eq {arms arms' : List (List String × α)} (h : AgreeOn key arms arms') :
    matchName arms key = matchName arms' key := by
  unfold AgreeOn at h
  induction h with
  | nil => rfl
  | @cons arm arm' _ _ harm _ ih =>
    obtain ⟨hnames, hanswer⟩ := harm
    by_cases hkey : key ∈ arm.1
    · have hkey' : key ∈ arm'.1 := hnames ▸ hkey
      simp [matchName, hkey, hkey', hanswer hkey]
    · have hkey' : key ∉ arm'.1 := hnames ▸ hkey
      simpa [matchName, hkey, hkey'] using ih

theorem AgreeOn.extractNamed_eq {arms arms' : List (List String × Option String)} {field : String}
    (h : AgreeOn (toAsciiLowercase field) arms arms') (other : String → Option String) :
    extractNamed arms other field = extractNamed arms' other field := by
  simp only [extractNamed, h.matchName_eq]

end Tables

/-! ## What the extractors read of the companion -/

section Extract

variable {plainText : Json → String} {field : String}

/-- The names of the prose text do not start like a selector. -/
theorem tryExtractIdentityMulti_notes (id : IdentityContent)
    (h : toAsciiLowercase field ∈ ["notes", "note"]) : tryExtractIdentityMulti id field = none := by
  have hsplit : splitArrayPrefix (toAsciiLowercase field).toList = none := by
    simp only [List.mem_cons, List.not_mem_nil, or_false] at h
    rcases h with h | h <;> rw [h] <;> decide +kernel
  simp only [tryExtractIdentityMulti, hsplit]
  rfl

/-- A field that names the prose text reads the companion, or the document when it is empty. -/
theorem extractKindField_of_mem_proseNames (content : ItemContent) (text : String)
    (h : toAsciiLowercase field ∈ content.proseNames) :
    extractKindField plainText (content.withCompanion text) field =
      .ok (projectedText plainText text content.prose) := by
  cases content with
  | secureNote note =>
      simp only [ItemContent.proseNames] at h
      simp [ItemContent.withCompanion, extractKindField, extractSecureNoteField, extractNamed,
        matchName, h, ItemContent.prose]
  | identity id =>
      have hselector := tryExtractIdentityMulti_notes { id with notesText := text } h
      simp only [ItemContent.proseNames, List.mem_cons, List.not_mem_nil, or_false] at h
      rcases h with h | h <;>
        simp [ItemContent.withCompanion, extractKindField, extractIdentityField, hselector,
          extractNamed, matchName, h, ItemContent.prose]
  | _ =>
      simp only [ItemContent.proseNames, List.mem_cons, List.not_mem_nil, or_false] at h
      rcases h with h | h <;>
        simp [ItemContent.withCompanion, extractKindField, extractLoginField,
          extractApiCredentialField, extractCardField, extractDocumentField, extractSshKeyField,
          extractServerField, extractDatabaseField, extractBankAccountField, extractPassportField,
          extractDriverLicenseField, extractCryptoWalletField, extractNamed, matchName, h,
          ItemContent.prose]

/-- No other field can see the companion. -/
theorem extractKindField_of_notMem_proseNames (content : ItemContent) (text text' : String)
    (h : toAsciiLowercase field ∉ content.proseNames) :
    extractKindField plainText (content.withCompanion text) field =
      extractKindField plainText (content.withCompanion text') field := by
  cases content with
  | identity id =>
      -- The selectors read the four lists, which are the same in both.
      have hselector : tryExtractIdentityMulti { id with notesText := text } field =
          tryExtractIdentityMulti { id with notesText := text' } field := rfl
      simp only [ItemContent.withCompanion, extractKindField, extractIdentityField, hselector]
      cases tryExtractIdentityMulti { id with notesText := text' } field with
      | some value => rfl
      | none =>
          refine AgreeOn.extractNamed_eq ?_ _
          simp only [ItemContent.proseNames] at h
          simp [AgreeOn, -List.mem_cons, h]
  | apiCredential api =>
      simp only [ItemContent.withCompanion, extractKindField, extractApiCredentialField]
      refine AgreeOn.extractNamed_eq ?_ _
      simp only [ItemContent.proseNames] at h
      simp [AgreeOn, -List.mem_cons, h]
  | _ =>
      refine AgreeOn.extractNamed_eq ?_ _
      simp only [ItemContent.proseNames] at h
      simp [AgreeOn, -List.mem_cons, h]

/-- The check for an empty text keeps different texts apart: at most one of them is empty. -/
theorem rejectEmpty_inj {value value' : String} {e : ResolverError}
    (h : (rejectIf (value = "") e >>= fun _ => pure value : ResolverResult String) =
      (rejectIf (value' = "") e >>= fun _ => pure value')) : value = value' := by
  by_cases hvalue : value = "" <;> by_cases hvalue' : value' = "" <;>
    simp_all [rejectIf, bind, Except.bind, pure, Except.pure]

end Extract

/-- **A companion counts as much as its document**: two contents that differ only in the cached text
    give the same answer for a field exactly when the field does not name the prose text, or the
    caches are equal, or one is empty and the other is up to date. -/
theorem extractField_withCompanion_eq_iff (plainText : Json → String) (content : ItemContent)
    (text text' field : String) :
    extractField plainText (content.withCompanion text) field =
        extractField plainText (content.withCompanion text') field ↔
      toAsciiLowercase field ∉ content.proseNames ∨ text = text' ∨
        (text = "" ∧ text' = plainText content.prose.value.json) ∨
        (text' = "" ∧ text = plainText content.prose.value.json) := by
  by_cases hfield : toAsciiLowercase field ∈ content.proseNames
  · have hread := fun t =>
      @extractKindField_of_mem_proseNames plainText field content t hfield
    have hprojected : extractField plainText (content.withCompanion text) field =
          extractField plainText (content.withCompanion text') field ↔
        projectedText plainText text content.prose =
          projectedText plainText text' content.prose := by
      unfold extractField
      rw [hread text, hread text']
      constructor
      · exact rejectEmpty_inj
      · intro h
        rw [h]
    rw [hprojected]
    simp only [hfield, not_true_eq_false, false_or]
    unfold projectedText
    by_cases htext : text = "" <;> by_cases htext' : text' = ""
    · simp [htext, htext']
    · simp only [htext, htext', ne_eq, not_true_eq_false, not_false_eq_true, if_true, if_false,
        true_and, false_and, or_false, @eq_comm _ "" text', false_or]
      exact eq_comm
    · simp [htext, htext']
    · simp [htext, htext']
  · unfold extractField
    rw [extractKindField_of_notMem_proseNames content text text' hfield]
    simp [hfield]

/-- The sample note, whose document is empty, with and without its stale body text. -/
theorem extractField_stale_companion :
    extractField (fun _ => "") (sampleNote.withCompanion "hush") "body" = .ok "hush" ∧
    extractField (fun _ => "") (sampleNote.withCompanion "") "body" =
      .error (.unknownField "body") ∧
    extractField (fun _ => "") (sampleNote.withCompanion "hush") "body" ≠
      extractField (fun _ => "") (sampleNote.withCompanion "") "body" := by
  decide +kernel

end SerenSecrets
