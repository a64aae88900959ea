import SerenSecrets.Lib.Except
import SerenSecrets.Lib.Text
import SerenSecrets.Protocol.ItemContent
import SerenSecrets.Resolver.Error

set_option autoImplicit false

/-! # The fields of an item

A reference ends in the name of a field, and `extractField` answers with the text stored under it.
Every kind of content has a table of names; a name that is not in the table is looked for among the
custom fields, first by name and then by purpose. API credentials are searched for a header before,
and identities for a selector into one of their lists (`emails[0]`, `emails.work.label`).

All names are compared without regard to ASCII case, and an empty text is not an answer
(`extractField_ignores_case`). -/

namespace SerenSecrets

/-! ## Names -/

/-- A match on a name: the names of each arm and its answer. -/
def matchName {α : Type} (arms : List (List String × α)) (name : String) : Option α :=
  (arms.find? (fun arm => decide (name ∈ arm.1))).map Prod.snd

theorem matchName_cons_of_ne {α : Type} {name key : String} {names : List String} {answer : α}
    {arms : List (List String × α)} (h : key ≠ name) :
    matchName ((name :: names, answer) :: arms) key = matchName ((names, answer) :: arms) key := by
  by_cases hkey : key ∈ names
  · simp [matchName, hkey]
  · simp [matchName, hkey, h]

theorem mem_of_matchName {α : Type} {arms : List (List String × α)} {key : String} {answer : α}
    (h : matchName arms key = some answer) : key ∈ arms.flatMap Prod.fst := by
  obtain ⟨arm, hfind, -⟩ := Option.map_eq_some_iff.mp h
  have hkey : key ∈ arm.1 := by simpa using List.find?_some hfind
  exact List.mem_flatMap.mpr ⟨arm, List.mem_of_find?_eq_some hfind, hkey⟩

theorem matchName_of_mem {α : Type} {arms : List (List String × α)} {key : String}
    (h : key ∈ arms.flatMap Prod.fst) : ∃ arm ∈ arms, matchName arms key = some arm.2 := by
  obtain ⟨arm, harm, hkey⟩ := List.mem_flatMap.mp h
  have hsome : (arms.find? (fun a => decide (key ∈ a.1))).isSome = true :=
    List.find?_isSome.mpr ⟨arm, harm, by simpa using hkey⟩
  obtain ⟨found, hfound⟩ := Option.isSome_iff_exists.mp hsome
  exact ⟨found, List.mem_of_find?_eq_some hfound, by rw [matchName, hfound, Option.map_some]⟩

def extractCustomField (fields : List CustomField) (name : String) : Option String :=
  match fields.find? (fun f => eqIgnoreAsciiCase f.name name) with
  | some byName => some byName.value
  | none => do
      let purpose ← matchName
        [(["username", "user"], FieldPurpose.username),
          (["password", "pass"], .password),
          (["notes", "note"], .notes),
          (["otp", "totp", "totp_secret"], .otp),
          (["private_key", "private"], .privateKey),
          (["public_key", "public"], .publicKey),
          (["card_number", "pan"], .cardNumber),
          (["cvv", "cvc", "cvv2", "security_code"], .cvv),
          (["pin"], .pin)]
        (toAsciiLowercase name)
      let byPurpose ← fields.find? (fun f => f.purpose == some purpose)
      return byPurpose.value

/-- The shape of an extractor: the lowercase name is looked up in the table, and handed to `other`
    when it is not there. An arm without an answer is an unknown field as well. -/
def extractNamed (arms : List (List String × Option String)) (other : String → Option String)
    (field : String) : ResolverResult String :=
  let normalized := toAsciiLowercase field
  match (matchName arms normalized).getD (other normalized) with
  | some value => .ok value
  | none => .error (.unknownField field)

/-! ## Texts put together -/

/-- The parts that are not empty, joined. -/
def joinParts (separator : String) (parts : List String) : String :=
  separator.intercalate (parts.filter (fun p => decide (p ≠ "")))

def joinFullName (first middle last : String) : String := joinParts " " [first, middle, last]

def formatAddress (address : PostalAddress) : String :=
  joinParts ", "
    [address.street, address.city, address.region, address.postalCode, address.country]

def extractGovernmentIdNumber (ids : List GovernmentId) (labelTerms : List String) :
    Option String :=
  (ids.find? fun id =>
    let label := toAsciiLowercase id.label
    labelTerms.all fun term => containsText label term).map (·.number)

/-! ## Selectors of an identity -/

/-- The lists of an identity that a selector can reach into. -/
inductive IdentityArray where
  | emails
  | phones
  | addresses
  | governmentIds
  deriving DecidableEq

def IdentityArray.text : IdentityArray → String
  | emails => "emails"
  | phones => "phones"
  | addresses => "addresses"
  | governmentIds => "government_ids"

inductive ArraySelector where
  | index (index : ℕ) (subfield : Option String)
  | label (label : String) (subfield : Option String)
  deriving DecidableEq

/-- The list a field starts with and what follows, which begins with a bracket or a dot. -/
def splitArrayPrefix (field : List Char) : Option (IdentityArray × List Char) :=
  [IdentityArray.emails, .phones, .addresses, .governmentIds].findSome? fun array => do
    let rest ← field.dropPrefix? array.text.toList
    if rest.head? = some '[' ∨ rest.head? = some '.' then some (array, rest) else none

def parseSubfield : List Char → Option (Option String)
  | [] => some none
  | '.' :: subfield => some (some (String.ofList subfield))
  | _ => none

def parseSelector : List Char → Option ArraySelector
  | '[' :: afterBracket => do
      let (idx, tail) ← splitOnce ']' afterBracket
      let index ← parseUsize idx
      let subfield ← parseSubfield tail
      return .index index subfield
  | '.' :: afterDot =>
      if afterDot = [] then none
      else
        match splitOnce '.' afterDot with
        | some (label, sub) => some (.label (String.ofList label) (some (String.ofList sub)))
        | none => some (.label (String.ofList afterDot) none)
  | _ => none

/-- A stored label matches as a whole or by one of its alphanumeric tokens. -/
def labelMatches (stored requested : String) : Bool :=
  let stored := toAsciiLowercase stored
  let requested := toAsciiLowercase requested
  stored == requested ||
    (stored.toList.splitOnP (fun c => !c.isAlphanum)).any (fun tok => tok == requested.toList)

section Resolve

variable {Entry : Type}

/-- The entry a selector picks from a list of labelled entries, and the part of it asked for. -/
def selectEntry (label : Entry → String) (entries : List Entry) :
    ArraySelector → Option Entry × Option String
  | .index index subfield => (entries[index]?, subfield)
  | .label requested subfield =>
      (entries.find? (fun e => labelMatches (label e) requested), subfield)

/-- The text a selector reads from a list of labelled entries, empty when there is none. -/
def resolveEntry (label : Entry → String) (default : String)
    (subfields : Entry → List (List String × String)) (entries : List Entry)
    (selector : ArraySelector) : String :=
  match selectEntry label entries selector with
  | (none, _) => ""
  | (some entry, sub) =>
      (matchName (subfields entry) (toAsciiLowercase (sub.getD default))).getD ""

end Resolve

def emailSubfields (entry : EmailEntry) : List (List String × String) :=
  [(["value", "email", "address"], entry.value),
    (["label", "tag"], entry.label)]

def resolveEmail : List EmailEntry → ArraySelector → String :=
  resolveEntry (·.label) "value" emailSubfields

def phoneSubfields (entry : PhoneEntry) : List (List String × String) :=
  [(["value", "number", "phone"], entry.value),
    (["label", "tag"], entry.label)]

def resolvePhone : List PhoneEntry → ArraySelector → String :=
  resolveEntry (·.label) "value" phoneSubfields

def governmentIdSubfields (entry : GovernmentId) : List (List String × String) :=
  [(["number", "value", "id"], entry.number),
    (["label", "kind", "type"], entry.label),
    (["issuer"], entry.issuer),
    (["issued_on", "issued"], entry.issuedOn.getD ""),
    (["expires_on", "expires", "expiration"], entry.expiresOn.getD "")]

def resolveGovernmentId : List GovernmentId → ArraySelector → String :=
  resolveEntry (·.label) "number" governmentIdSubfields

/-- Addresses have no label, and the empty name stands for the whole address. -/
def resolveAddress (entries : List PostalAddress) (selector : ArraySelector) : String :=
  let (entry, sub) : Option PostalAddress × Option String :=
    match selector with
    | .index index subfield => (entries[index]?, subfield)
    | .label _ _ => (none, none)
  match entry with
  | none => ""
  | some entry =>
      (matchName
        [(["", "full", "full_address", "formatted"], formatAddress entry),
          (["street", "street_address", "address_line"], entry.street),
          (["city", "locality"], entry.city),
          (["region", "state", "province"], entry.region),
          (["postal_code", "zip", "zip_code", "postcode"], entry.postalCode),
          (["country"], entry.country)]
        ((sub.map toAsciiLowercase).getD "")).getD ""

/-- The answer to a field that starts like a selector; one that is malformed reads as empty. -/
def tryExtractIdentityMulti (id : IdentityContent) (field : String) : Option String := do
  let lower := toAsciiLowercase field
  let (base, rest) ← splitArrayPrefix lower.toList
  match parseSelector rest with
  | none => some ""
  | some selector =>
      match base with
      | .emails => some (resolveEmail id.emails selector)
      | .phones => some (resolvePhone id.phones selector)
      | .addresses => some (resolveAddress id.addresses selector)
      | .governmentIds => some (resolveGovernmentId id.governmentIds selector)

/-! ## The kinds of content -/

section Extract

-- The projection of a prose document to plain text, from a library.
variable (plainText : Json → String)

/-- The cached text of a document, or the document's own text when nothing is cached. -/
def projectedText (cached : String) (doc : ProseDoc) : String :=
  if cached ≠ "" then cached else plainText doc.value.json

def extractLoginField (login : LoginContent) : String → ResolverResult String :=
  extractNamed
    [(["username", "user"], some login.username),
      (["password", "pass"], some login.password),
      (["notes", "note"], some (projectedText plainText login.notesText login.notes)),
      (["url", "urls"], some ((login.urls.head?.map (·.url)).getD "")),
      (["totp", "otp", "totp_secret", "secret_base32"], login.totp.map (·.secretBase32))]
    (extractCustomField login.customFields)

def extractSecureNoteField (note : SecureNoteContent) : String → ResolverResult String :=
  extractNamed
    [(["body", "note", "notes"], some (projectedText plainText note.bodyText note.body))]
    (extractCustomField note.customFields)

/-- Header names are compared without regard to case, before custom fields. -/
def extractApiCredentialField (api : ApiCredentialContent) : String → ResolverResult String :=
  extractNamed
    [(["primary", "primary_value", "value", "key"], some api.primaryValue),
      (["secondary", "secondary_value", "secret"], some api.secondaryValue),
      (["notes", "note"], some (projectedText plainText api.notesText api.notes))]
    fun other =>
      match api.headers.entries.find? (fun header => eqIgnoreAsciiCase header.1 other) with
      | some header => some header.2
      | none => extractCustomField api.customFields other

def extractCardField (card : CardContent) : String → ResolverResult String :=
  extractNamed
    [(["number", "card_number", "pan", "account_number"], some card.number),
      (["cardholder", "cardholder_name", "name_on_card", "name"], some card.cardholderName),
      (["brand", "network", "card_brand"], some card.brand),
      (["expiry", "expires", "exp", "expiration", "expiration_date"], some card.expiry),
      (["cvv", "cvc", "cvv2", "security_code"], some card.cvv),
      (["pin"], some card.pin),
      (["billing_address"], some ((card.billingAddress.map formatAddress).getD "")),
      (["billing_street"], some ((card.billingAddress.map (·.street)).getD "")),
      (["billing_city"], some ((card.billingAddress.map (·.city)).getD "")),
      (["billing_region", "billing_state", "billing_province"],
        some ((card.billingAddress.map (·.region)).getD "")),
      (["billing_postal_code", "billing_zip", "billing_zip_code"],
        some ((card.billingAddress.map (·.postalCode)).getD "")),
      (["billing_country"], some ((card.billingAddress.map (·.country)).getD "")),
      (["notes", "note"], some (projectedText plainText card.notesText card.notes))]
    (extractCustomField card.customFields)

/-- A selector into one of the lists is tried before the names. -/
def extractIdentityField (id : IdentityContent) (field : String) : ResolverResult String :=
  match tryExtractIdentityMulti id field with
  | some value => .ok value
  | none =>
      let primaryAddress := id.addresses.head?
      extractNamed
        [(["first_name", "given_name"], some id.firstName),
          (["middle_name"], some id.middleName),
          (["last_name", "family_name", "surname"], some id.lastName),
          (["full_name", "name"], some (joinFullName id.firstName id.middleName id.lastName)),
          (["username", "handle"], some id.username),
          (["company", "employer", "organization"], some id.company),
          (["job_title", "title"], some id.jobTitle),
          (["gender", "sex"], some id.gender),
          (["email"], some ((id.emails.head?.map (·.value)).getD "")),
          (["phone", "phone_number", "telephone"], some ((id.phones.head?.map (·.value)).getD "")),
          (["date_of_birth", "dob", "birthday", "birthdate"], some (id.dateOfBirth.getD "")),
          (["address", "full_address"], some ((primaryAddress.map formatAddress).getD "")),
          (["street", "street_address", "address_line"],
            some ((primaryAddress.map (·.street)).getD "")),
          (["city", "locality"], some ((primaryAddress.map (·.city)).getD "")),
          (["region", "state", "province"], some ((primaryAddress.map (·.region)).getD "")),
          (["postal_code", "zip", "zip_code", "postcode"],
            some ((primaryAddress.map (·.postalCode)).getD "")),
          (["country"], some ((primaryAddress.map (·.country)).getD "")),
          (["government_id", "government_id_number", "id_number"],
            some ((id.governmentIds.head?.map (·.number)).getD "")),
          (["passport", "passport_number"],
            some ((extractGovernmentIdNumber id.governmentIds ["passport"]).getD "")),
          (["driver_license", "drivers_license", "driver_license_number",
              "drivers_license_number", "license_number"],
            some ((extractGovernmentIdNumber id.governmentIds ["driver", "license"]).getD "")),
          (["notes", "note"], some (projectedText plainText id.notesText id.notes))]
        (extractCustomField id.customFields) field

def extractDocumentField (doc : DocumentContent) : String → ResolverResult String :=
  extractNamed
    [(["filename", "file_name", "name"], some doc.filename),
      (["content_type", "mime", "mime_type", "media_type"], some doc.contentType),
      (["size", "size_bytes", "byte_size"],
        some ((doc.sizeBytes.map (fun n => n.toNat.repr)).getD "")),
      (["alt_text", "alt", "description"], some doc.altText),
      (["attachment_uri", "attachment", "uri", "url"], some doc.attachmentUri),
      (["notes", "note"], some (projectedText plainText doc.notesText doc.notes))]
    (extractCustomField doc.customFields)

def extractSshKeyField (key : SshKeyContent) : String → ResolverResult String :=
  extractNamed
    [(["private_key", "private", "private_key_pem", "key"], some key.privateKey),
      (["public_key", "public", "authorized_key"], some key.publicKey),
      (["passphrase", "password"], some key.passphrase),
      (["fingerprint"], some key.fingerprint),
      (["key_type", "type", "algorithm"], some key.keyType),
      (["notes", "note"], some (projectedText plainText key.notesText key.notes))]
    (extractCustomField key.customFields)

def extractServerField (s : ServerContent) : String → ResolverResult String :=
  extractNamed
    [(["hostname", "host", "server"], some s.hostname),
      (["port"], some ((s.port.map (fun p => p.toNat.repr)).getD "")),
      (["protocol", "scheme"], some s.protocol),
      (["username", "user"], some s.username),
      (["password"], some s.password),
      (["ssh_key_reference", "key_reference", "ssh_key"], some s.sshKeyReference),
      (["admin_console_url", "admin_url", "console"], some s.adminConsoleUrl),
      (["notes", "note"], some (projectedText plainText s.notesText s.notes))]
    (extractCustomField s.customFields)

def extractDatabaseField (d : DatabaseContent) : String → ResolverResult String :=
  extractNamed
    [(["database_type", "type", "engine"], some d.databaseType),
      (["server", "host", "hostname"], some d.server),
      (["port"], some ((d.port.map (fun p => p.toNat.repr)).getD "")),
      (["database_name", "database", "db"], some d.databaseName),
      (["username", "user"], some d.username),
      (["password"], some d.password),
      (["sid"], some d.sid),
      (["schema"], some d.schema),
      (["notes", "note"], some (projectedText plainText d.notesText d.notes))]
    (extractCustomField d.customFields)

def extractBankAccountField (bank : BankAccountContent) : String → ResolverResult String :=
  extractNamed
    [(["bank_name", "bank"], some bank.bankName),
      (["account_holder", "name"], some bank.accountHolder),
      (["account_number", "account"], some bank.accountNumber),
      (["routing_number", "routing", "aba", "rtn"], some bank.routingNumber),
      (["account_type", "type"], some bank.accountType),
      (["iban"], some bank.iban),
      (["swift", "bic", "swift_code"], some bank.swift),
      (["branch"], some bank.branch),
      (["pin"], some bank.pin),
      (["notes", "note"], some (projectedText plainText bank.notesText bank.notes))]
    (extractCustomField bank.customFields)

def extractPassportField (p : PassportContent) : String → ResolverResult String :=
  extractNamed
    [(["number", "passport_number"], some p.number),
      (["passport_type", "type"], some p.passportType),
      (["full_name", "name"], some p.fullName),
      (["surname", "family_name", "last_name"], some p.surname),
      (["given_names", "first_name", "given_name"], some p.givenNames),
      (["nationality"], some p.nationality),
      (["date_of_birth", "dob", "birthday", "birthdate"], some (p.dateOfBirth.getD "")),
      (["place_of_birth"], some p.placeOfBirth),
      (["gender", "sex"], some p.gender),
      (["issuing_country", "country"], some p.issuingCountry),
      (["issuing_authority", "authority"], some p.issuingAuthority),
      (["issued_on", "issue_date", "issued"], some (p.issuedOn.getD "")),
      (["expires_on", "expiry", "expiration", "expires"], some (p.expiresOn.getD "")),
      (["notes", "note"], some (projectedText plainText p.notesText p.notes))]
    (extractCustomField p.customFields)

def extractDriverLicenseField (l : DriverLicenseContent) : String → ResolverResult String :=
  extractNamed
    [(["number", "license_number"], some l.number),
      (["full_name", "name"], some l.fullName),
      (["date_of_birth", "dob", "birthday", "birthdate"], some (l.dateOfBirth.getD "")),
      (["gender", "sex"], some l.gender),
      (["address", "full_address"], some ((l.address.map formatAddress).getD "")),
      (["city"], some ((l.address.map (·.city)).getD "")),
      (["region", "state", "province"], some ((l.address.map (·.region)).getD "")),
      (["postal_code", "zip", "postcode"], some ((l.address.map (·.postalCode)).getD "")),
      (["country"], some l.country),
      (["state_jurisdiction"], some l.state),
      (["license_class", "class"], some l.licenseClass),
      (["conditions", "restrictions", "endorsements"], some l.conditions),
      (["issued_on", "issue_date", "issued"], some (l.issuedOn.getD "")),
      (["expires_on", "expiry", "expiration", "expires"], some (l.expiresOn.getD "")),
      (["notes", "note"], some (projectedText plainText l.notesText l.notes))]
    (extractCustomField l.customFields)

def extractCryptoWalletField (w : CryptoWalletContent) : String → ResolverResult String :=
  extractNamed
    [(["wallet_name", "name"], some w.walletName),
      (["network", "chain"], some w.network),
      (["seed_phrase", "mnemonic", "recovery_phrase"], some w.seedPhrase),
      (["private_key", "secret_key"], some w.privateKey),
      (["password", "passphrase"], some w.password),
      (["derivation_path", "path"], some w.derivationPath),
      (["address"], some ((w.addresses.head?.map (·.address)).getD "")),
      (["notes", "note"], some (projectedText plainText w.notesText w.notes))]
    (extractCustomField w.customFields)

/-- The text of a field by the kind of content, which may be empty. -/
def extractKindField : ItemContent → String → ResolverResult String
  | .login login => extractLoginField plainText login
  | .secureNote note => extractSecureNoteField plainText note
  | .apiCredential api => extractApiCredentialField plainText api
  | .card card => extractCardField plainText card
  | .identity id => extractIdentityField plainText id
  | .document doc => extractDocumentField plainText doc
  | .sshKey key => extractSshKeyField plainText key
  | .server s => extractServerField plainText s
  | .database d => extractDatabaseField plainText d
  | .bankAccount bank => extractBankAccountField plainText bank
  | .passport p => extractPassportField plainText p
  | .driverLicense l => extractDriverLicenseField plainText l
  | .cryptoWallet w => extractCryptoWalletField plainText w

def extractField (content : ItemContent) (field : String) : ResolverResult String := do
  let value ← extractKindField plainText content field
  rejectIf (value = "") (.unknownField field)
  return value

end Extract

/-! ## Case and empty texts -/

/-- Two answers agree: the same text, or each refuses its own field. -/
def SameAnswer (field field' : String) (x y : ResolverResult String) : Prop :=
  (∃ value, x = .ok value ∧ y = .ok value) ∨
    (x = .error (.unknownField field) ∧ y = .error (.unknownField field'))

section Case

variable {plainText : Json → String} {field field' : String}

theorem extractNamed_sameAnswer (arms : List (List String × Option String))
    (other : String → Option String) (h : toAsciiLowercase field = toAsciiLowercase field') :
    SameAnswer field field' (extractNamed arms other field) (extractNamed arms other field') := by
  simp only [extractNamed, h]
  cases (matchName arms (toAsciiLowercase field')).getD (other (toAsciiLowercase field')) with
  | none => exact .inr ⟨rfl, rfl⟩
  | some value => exact .inl ⟨value, rfl, rfl⟩

theorem tryExtractIdentityMulti_congr (id : IdentityContent)
    (h : toAsciiLowercase field = toAsciiLowercase field') :
    tryExtractIdentityMulti id field = tryExtractIdentityMulti id field' := by
  unfold tryExtractIdentityMulti
  rw [h]

theorem extractIdentityField_sameAnswer (id : IdentityContent)
    (h : toAsciiLowercase field = toAsciiLowercase field') :
    SameAnswer field field' (extractIdentityField plainText id field)
      (extractIdentityField plainText id field') := by
  unfold extractIdentityField
  rw [tryExtractIdentityMulti_congr id h]
  cases tryExtractIdentityMulti id field' with
  | none => exact extractNamed_sameAnswer _ _ h
  | some value => exact .inl ⟨value, rfl, rfl⟩

theorem extractKindField_sameAnswer (content : ItemContent)
    (h : toAsciiLowercase field = toAsciiLowercase field') :
    SameAnswer field field' (extractKindField plainText content field)
      (extractKindField plainText content field') := by
  cases content with
  | identity id => exact extractIdentityField_sameAnswer id h
  | apiCredential api =>
      unfold extractKindField extractApiCredentialField
      exact extractNamed_sameAnswer _ _ h
  | _ => exact extractNamed_sameAnswer _ _ h

/-- The check for an empty text treats equal answers alike. -/
theorem extractField_sameAnswer (content : ItemContent)
    (h : toAsciiLowercase field = toAsciiLowercase field') :
    SameAnswer field field' (extractField plainText content field)
      (extractField plainText content field') := by
  unfold extractField
  rcases extractKindField_sameAnswer content h with ⟨value, hx, hy⟩ | ⟨hx, hy⟩
  · rw [hx, hy]
    by_cases hempty : value = ""
    · subst hempty
      exact .inr ⟨rfl, rfl⟩
    · refine .inl ⟨value, ?_, ?_⟩ <;> simp [Except.bind_eq_ok, hempty]
  · rw [hx, hy]
    exact .inr ⟨rfl, rfl⟩

theorem extractField_eq_ok {content : ItemContent} {value : String} :
    extractField plainText content field = .ok value ↔
      extractKindField plainText content field = .ok value ∧ value ≠ "" := by
  unfold extractField
  simp only [Except.bind_eq_ok, rejectIf_eq_ok, Except.pure_eq_ok]
  constructor
  · rintro ⟨_, hkind, _, hne, rfl⟩
    exact ⟨hkind, hne⟩
  · rintro ⟨hkind, hne⟩
    exact ⟨value, hkind, (), hne, rfl⟩

end Case

/-- **Fields are found in any letter case and never empty**: two names that agree in lower case get
    the same answer from every content, and no answer is the empty text. -/
theorem extractField_ignores_case (plainText : Json → String) (content : ItemContent) :
    (∀ field field', toAsciiLowercase field = toAsciiLowercase field' →
      SameAnswer field field' (extractField plainText content field)
        (extractField plainText content field')) ∧
    ∀ field value, extractField plainText content field = .ok value → value ≠ "" := by
  refine ⟨?_, ?_⟩
  · intro field field' h
    exact extractField_sameAnswer content h
  · intro field value h
    exact (extractField_eq_ok.mp h).2

/-- A note with a custom field. -/
def sampleNote : ItemContent :=
  .secureNote
    { body := .empty
      bodyText := "hush"
      customFields := [⟨"Door", .concealed, "1234", some .pin, none⟩]
      sections := []
      rawImport := emptyDoc }

theorem extractField_ignores_case_note :
    SameAnswer "Pin" "PIN" (extractField (fun _ => "") sampleNote "Pin")
      (extractField (fun _ => "") sampleNote "PIN") ∧
    extractField (fun _ => "") sampleNote "PIN" = .ok "1234" ∧ "1234" ≠ "" := by
  have hpin : extractField (fun _ => "") sampleNote "PIN" = .ok "1234" := by decide +kernel
  exact ⟨(extractField_ignores_case _ _).1 "Pin" "PIN" (by decide +kernel), hpin,
    (extractField_ignores_case _ _).2 "PIN" "1234" hpin⟩

end SerenSecrets
