import SerenSecrets.Lib.Text
import SerenSecrets.Protocol.SignedForms
import SerenSecrets.Resolver.Error

set_option autoImplicit false

/-! # Secret references

A reference names a field of an item: `seren-secrets://<vault>/<item>/<field>`. It is a string that
the caller signs, so one record should not have several of them. The parser refuses whitespace,
queries, fragments and every spelling of a UUID but the hyphenated one.

The accepted strings are described without the parser (`IsReference`); the parser accepts these and
no others. Two references to the same field differ only in the case of hexadecimal digits, and every
reference can be signed, since a line break is whitespace. -/

namespace SerenSecrets

/-! ## Reading a reference -/

/-- A part of a reference that could be read; `what` names it when it could not. -/
def orInvalidUri {α : Type} (what : String) : Option α → ResolverResult α
  | some a => .ok a
  | none => .error (.invalidUri what)

@[simp] theorem orInvalidUri_eq_ok {α : Type} {what : String} {x : Option α} {a : α} :
    orInvalidUri what x = .ok a ↔ x = some a := by
  cases x <;> simp [orInvalidUri]

/-- The parser of the library takes four forms of a UUID; only a text that agrees with the printed
    form passes. -/
def parseReferenceUuid (value : String) : Option Uuid := do
  let uuid ← Uuid.parseStr value
  let canonical := eqIgnoreAsciiCase uuid.toText value && uuid.getVariant == .rfc4122
  if canonical then some uuid else none

def parseSerenSecretsUri (uri : String) : ResolverResult (Uuid × Uuid × String) := do
  rejectIf (uri.toList.any isWhitespace = true) (.invalidUri "uri must not contain whitespace")
  let rest ← orInvalidUri "uri must start with seren-secrets://"
    (uri.toList.dropPrefix? "seren-secrets://".toList)
  match (rest.splitOn '/').map String.ofList with
  | [vault, item, field] => do
      let vaultId ← orInvalidUri "vault uuid" (parseReferenceUuid vault)
      let itemId ← orInvalidUri "item uuid" (parseReferenceUuid item)
      rejectIf (field = "") (.invalidUri "field name")
      rejectIf ('?' ∈ field.toList ∨ '#' ∈ field.toList)
        (.invalidUri "field must not contain query or fragment markers")
      return (vaultId, itemId, field)
  | _ => .error (.invalidUri "uri shape is seren-secrets://<vault>/<item>/<field>")

/-- The caller's signature over the canonical bytes of a resolve request. -/
def buildResolveSignature {Timestamp : Type} (sign : IdentitySigningPrivateKey → Bytes → Bytes)
    (timestampText : Timestamp → String) (signingKey : IdentitySigningPrivateKey)
    (request : ResolveRequest Timestamp) : CryptoResult Bytes := do
  let canonical ← resolveCanonical timestampText request
  return sign signingKey canonical

/-! ## What a reference is -/

/-- A text of the UUID that references use. -/
def IsReferenceUuid (cs : List Char) (u : Uuid) : Prop :=
  Uuid.IsHyphenated cs u ∧ u.getVariant = .rfc4122

/-- The string `uri` is a reference to the field of the item in the vault. -/
structure IsReference (uri : String) (vault item : Uuid) (field : String) : Prop where
  spelled : ∃ v i : List Char, IsReferenceUuid v vault ∧ IsReferenceUuid i item ∧
    uri.toList = "seren-secrets://".toList ++ (v ++ '/' :: (i ++ '/' :: field.toList))
  field_ne : field ≠ ""
  field_chars : ∀ c ∈ field.toList, c ≠ '/' ∧ c ≠ '?' ∧ c ≠ '#' ∧ isWhitespace c = false
  no_whitespace : ∀ c ∈ uri.toList, isWhitespace c = false

/-- The same character, or the same hexadecimal digit in the other case. -/
def SameButHexCase (c d : Char) : Prop :=
  c = d ∨ ((hexVal? c).isSome = true ∧ c.toLower = d.toLower)

/-- Two references to one field whose UUIDs are written in different letter case, if they differ. -/
def SameSpelling (uri uri' field : String) : Prop :=
  ∃ v v' i i' : List Char, List.Forall₂ SameButHexCase v v' ∧ List.Forall₂ SameButHexCase i i' ∧
    uri.toList = "seren-secrets://".toList ++ (v ++ '/' :: (i ++ '/' :: field.toList)) ∧
    uri'.toList = "seren-secrets://".toList ++ (v' ++ '/' :: (i' ++ '/' :: field.toList))

/-! ## Reading is recognising -/

theorem parseReferenceUuid_eq_some {value : String} {u : Uuid} :
    parseReferenceUuid value = some u ↔ IsReferenceUuid value.toList u := by
  unfold parseReferenceUuid IsReferenceUuid
  simp only [Option.bind_eq_bind, Option.bind_eq_some_iff, Option.ite_none_right_eq_some,
    Bool.and_eq_true, eqIgnoreAsciiCase_iff, beq_iff_eq, Option.some.injEq]
  rw [Uuid.isHyphenated_iff]
  constructor
  · rintro ⟨_, -, ⟨htext, hvariant⟩, rfl⟩
    rw [Uuid.toText, String.toList_ofList, Uuid.map_toLower_textChars] at htext
    exact ⟨htext.symm, hvariant⟩
  · rintro ⟨htext, hvariant⟩
    refine ⟨u, (Uuid.isHyphenated_iff.mpr htext).parseStr_eq, ⟨?_, hvariant⟩, rfl⟩
    rw [Uuid.toText, String.toList_ofList, Uuid.map_toLower_textChars, htext]

theorem IsReferenceUuid.slash_notMem {cs : List Char} {u : Uuid} (h : IsReferenceUuid cs u) :
    '/' ∉ cs := by
  intro hmem
  rcases h.1.hyphen_or_digit '/' hmem with heq | hdigit
  · exact absurd heq (by decide)
  · exact absurd hdigit (by decide)

/-- What the parser checks, in the order it does. -/
theorem parseSerenSecretsUri_checks {uri : String} {vault item : Uuid} {field : String} :
    parseSerenSecretsUri uri = .ok (vault, item, field) ↔
      (¬ uri.toList.any isWhitespace = true) ∧
      ∃ rest v i : List Char, uri.toList = "seren-secrets://".toList ++ rest ∧
        rest.splitOn '/' = [v, i, field.toList] ∧ IsReferenceUuid v vault ∧
        IsReferenceUuid i item ∧ field ≠ "" ∧ ¬ ('?' ∈ field.toList ∨ '#' ∈ field.toList) := by
  unfold parseSerenSecretsUri
  simp only [Except.bind_unit_eq_ok, rejectIf_eq_ok]
  simp only [Except.bind_eq_ok, orInvalidUri_eq_ok, List.dropPrefix?_eq_some_iff, beq_iff_eq]
  constructor
  · rintro ⟨hspace, rest, ⟨_, huri, rfl⟩, h⟩
    split at h
    · rename_i v i f hparts
      simp only [Except.bind_eq_ok, orInvalidUri_eq_ok, parseReferenceUuid_eq_some, rejectIf_eq_ok,
        Except.pure_eq_ok, Prod.mk.injEq] at h
      obtain ⟨_, hv, _, hi, _, hne, _, hmarks, rfl, rfl, rfl⟩ := h
      have hlists := congrArg (List.map String.toList) hparts
      simp only [List.map_map, List.map_cons, List.map_nil] at hlists
      refine ⟨hspace, rest, v.toList, i.toList, huri, ?_, hv, hi, hne, hmarks⟩
      simpa [Function.comp_def] using hlists
    · exact absurd h (by simp)
  · rintro ⟨hspace, rest, v, i, huri, hparts, hv, hi, hne, hmarks⟩
    refine ⟨hspace, rest, ⟨_, huri, rfl⟩, ?_⟩
    rw [hparts]
    simp only [List.map_cons, List.map_nil, String.ofList_toList, Except.bind_eq_ok,
      orInvalidUri_eq_ok, parseReferenceUuid_eq_some, rejectIf_eq_ok, Except.pure_eq_ok,
      String.toList_ofList]
    exact ⟨vault, hv, item, hi, (), hne, (), hmarks, rfl⟩

/-- **The parser accepts the references**, and answers what they name. -/
theorem parseSerenSecretsUri_eq_ok {uri : String} {vault item : Uuid} {field : String} :
    parseSerenSecretsUri uri = .ok (vault, item, field) ↔ IsReference uri vault item field := by
  rw [parseSerenSecretsUri_checks]
  constructor
  · rintro ⟨hspace, rest, v, i, huri, hparts, hv, hi, hne, hmarks⟩
    obtain ⟨-, hslash, rfl⟩ := splitOn_eq_iff.mp hparts
    have hclean : ∀ c ∈ uri.toList, isWhitespace c = false := by simpa using hspace
    refine ⟨⟨v, i, hv, hi, by simpa using huri⟩, hne, ?_, hclean⟩
    intro c hc
    have hfield : '/' ∉ field.toList := hslash _ (by simp)
    refine ⟨?_, ?_, ?_, hclean c (by simp [huri, hc])⟩
    · rintro rfl
      exact hfield hc
    · rintro rfl
      exact hmarks (.inl hc)
    · rintro rfl
      exact hmarks (.inr hc)
  · rintro ⟨⟨v, i, hv, hi, huri⟩, hne, hfield, hclean⟩
    refine ⟨by simpa using hclean, _, v, i, huri, ?_, hv, hi, hne, ?_⟩
    · rw [splitOn_eq_iff]
      refine ⟨by simp, ?_, by simp⟩
      intro piece hpiece
      simp only [List.mem_cons, List.not_mem_nil, or_false] at hpiece
      rcases hpiece with rfl | rfl | rfl
      · exact hv.slash_notMem
      · exact hi.slash_notMem
      · exact fun hc => (hfield '/' hc).1 rfl
    · rintro (hc | hc)
      · exact (hfield '?' hc).2.1 rfl
      · exact (hfield '#' hc).2.2.1 rfl

/-! ## One spelling -/

theorem sameButHexCase_of_map_toLower {cs ds : List Char}
    (hcs : ∀ c ∈ cs, c = '-' ∨ (hexVal? c).isSome = true)
    (h : cs.map Char.toLower = ds.map Char.toLower) : List.Forall₂ SameButHexCase cs ds := by
  induction cs generalizing ds with
  | nil =>
      have hnil : ds = [] := by simpa using h.symm
      subst hnil
      exact .nil
  | cons c cs ih =>
      obtain ⟨d, ds, rfl, hd, hds⟩ := List.map_eq_cons_iff.mp h.symm
      obtain ⟨hc, hrest⟩ := List.forall_mem_cons.mp hcs
      refine .cons ?_ (ih hrest hds.symm)
      rcases hc with rfl | hdigit
      · have hhyphen : Char.toLower '-' = '-' := by decide
        exact .inl (toLower_eq_hyphen.mp (hd.trans hhyphen)).symm
      · exact .inr ⟨hdigit, hd.symm⟩

theorem IsReferenceUuid.sameButHexCase {cs ds : List Char} {u : Uuid} (hcs : IsReferenceUuid cs u)
    (hds : IsReferenceUuid ds u) : List.Forall₂ SameButHexCase cs ds := by
  refine sameButHexCase_of_map_toLower hcs.1.hyphen_or_digit ?_
  rw [Uuid.isHyphenated_iff.mp hcs.1, Uuid.isHyphenated_iff.mp hds.1]

theorem IsReference.sameSpelling {uri uri' field : String} {vault item : Uuid}
    (h : IsReference uri vault item field) (h' : IsReference uri' vault item field) :
    SameSpelling uri uri' field := by
  obtain ⟨v, i, hv, hi, huri⟩ := h.spelled
  obtain ⟨v', i', hv', hi', huri'⟩ := h'.spelled
  exact ⟨v, v', i, i', hv.sameButHexCase hv', hi.sameButHexCase hi', huri, huri'⟩

/-! ## Signing -/

section Signing

variable {Timestamp : Type} {timestampText : Timestamp → String}

/-- A reference holds no line break, so its request has canonical bytes. -/
theorem IsReference.resolveCanonical_eq_ok {uri field : String} {vault item : Uuid}
    (h : IsReference uri vault item field) (caller : Uuid) (issuedAt : Timestamp) (nonce : Uuid) :
    ∃ canonical, resolveCanonical timestampText ⟨uri, caller, issuedAt, nonce⟩ = .ok canonical := by
  have hbreak : ∀ c : Char, isWhitespace c = true → c ∉ uri.toList := by
    intro c hc hmem
    exact absurd (h.no_whitespace c hmem) (by simp [hc])
  unfold resolveCanonical
  simp only [Except.bind_unit_eq_ok, rejectIf_eq_ok, Except.pure_eq_ok, exists_and_left,
    exists_eq', and_true]
  rintro (hmem | hmem)
  · exact hbreak '\n' (by decide) hmem
  · exact hbreak '\r' (by decide) hmem

theorem buildResolveSignature_of_canonical {sign : IdentitySigningPrivateKey → Bytes → Bytes}
    {signingKey : IdentitySigningPrivateKey} {request : ResolveRequest Timestamp}
    {canonical : Bytes} (h : resolveCanonical timestampText request = .ok canonical) :
    buildResolveSignature sign timestampText signingKey request
      = .ok (sign signingKey canonical) := by
  unfold buildResolveSignature
  rw [h]
  rfl

/-- **Secret references have one spelling**: the parser accepts exactly the references, two of them
    that name the same field differ in the case of hexadecimal digits only, and a request for any of
    them can be signed. -/
theorem parseSerenSecretsUri_one_spelling (sign : IdentitySigningPrivateKey → Bytes → Bytes)
    (timestampText : Timestamp → String) (uri : String) (vault item : Uuid) (field : String) :
    (parseSerenSecretsUri uri = .ok (vault, item, field) ↔ IsReference uri vault item field) ∧
    (parseSerenSecretsUri uri = .ok (vault, item, field) →
      (∀ uri', parseSerenSecretsUri uri' = .ok (vault, item, field) →
        SameSpelling uri uri' field) ∧
      ∀ signingKey caller issuedAt nonce, ∃ canonical,
        resolveCanonical timestampText ⟨uri, caller, issuedAt, nonce⟩ = .ok canonical ∧
        buildResolveSignature sign timestampText signingKey ⟨uri, caller, issuedAt, nonce⟩
          = .ok (sign signingKey canonical)) := by
  refine ⟨parseSerenSecretsUri_eq_ok, ?_⟩
  intro h
  have href := parseSerenSecretsUri_eq_ok.mp h
  refine ⟨?_, ?_⟩
  · intro uri' h'
    exact href.sameSpelling (parseSerenSecretsUri_eq_ok.mp h')
  · intro signingKey caller issuedAt nonce
    obtain ⟨canonical, hcanonical⟩ := href.resolveCanonical_eq_ok caller issuedAt nonce
    exact ⟨canonical, hcanonical, buildResolveSignature_of_canonical hcanonical⟩

end Signing

def lowerReference : String :=
  "seren-secrets://aaaaaaaa-aaaa-aaaa-aaaa-aaaaaaaaaaaa/99999999-9999-9999-9999-999999999999/PIN"

def upperReference : String :=
  "seren-secrets://AAAAAAAA-AAAA-AAAA-AAAA-AAAAAAAAAAAA/99999999-9999-9999-9999-999999999999/PIN"

theorem parseSerenSecretsUri_lowerReference : parseSerenSecretsUri lowerReference
    = .ok (.replicate 16 0xAA, .replicate 16 0x99, "PIN") := by
  decide +kernel

theorem parseSerenSecretsUri_one_spelling_cases :
    SameSpelling lowerReference upperReference "PIN" :=
  ((@parseSerenSecretsUri_one_spelling Unit (fun _ _ => []) (fun _ => "") lowerReference
    (.replicate 16 0xAA) (.replicate 16 0x99) "PIN").2 parseSerenSecretsUri_lowerReference).1
      upperReference (by decide +kernel)

end SerenSecrets
