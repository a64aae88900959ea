import SerenSecrets.Lib.Codec

set_option autoImplicit false

/-! # Item contents

An item's content is one of thirteen records, written as JSON with the name of its variant under
`kind`. Each field of a record is required, has a default, or is left out when it holds its
default; free-form parts are a prose document, a map of headers and what an import could not place.

A content is read back from its JSON whatever the order of the keys (`itemContent_lossless`). -/

namespace SerenSecrets

/-! ## Enumerations -/

/-- When a stored URL applies to a page. -/
inductive UrlMatchType where
  | exact
  | startsWith
  | host
  | never
  | regex
  deriving DecidableEq

def UrlMatchType.text : UrlMatchType → String
  | exact => "exact"
  | startsWith => "starts_with"
  | host => "host"
  | never => "never"
  | regex => "regex"

def UrlMatchType.all : List UrlMatchType :=
  [.exact, .startsWith, .host, .never, .regex]

def UrlMatchType.codec : JsonCodec UrlMatchType :=
  .variants text (all.map fun a => (a.text, a)) (fun a => by cases a <;> decide)

inductive ApiCredentialKind where
  | apiKey
  | oauth2Token
  | basic
  | mtls
  | awsSigV4
  | gcpServiceAccount
  deriving DecidableEq

def ApiCredentialKind.text : ApiCredentialKind → String
  | apiKey => "api_key"
  | oauth2Token => "oauth2_token"
  | basic => "basic"
  | mtls => "mtls"
  | awsSigV4 => "aws_sig_v4"
  | gcpServiceAccount => "gcp_service_account"

def ApiCredentialKind.all : List ApiCredentialKind :=
  [.apiKey, .oauth2Token, .basic, .mtls, .awsSigV4, .gcpServiceAccount]

def ApiCredentialKind.codec : JsonCodec ApiCredentialKind :=
  .variants text (all.map fun a => (a.text, a)) (fun a => by cases a <;> decide)

inductive RotationPolicyKind where
  | manual
  | scheduled
  deriving DecidableEq

def RotationPolicyKind.text : RotationPolicyKind → String
  | manual => "manual"
  | scheduled => "scheduled"

def RotationPolicyKind.all : List RotationPolicyKind :=
  [.manual, .scheduled]

def RotationPolicyKind.codec : JsonCodec RotationPolicyKind :=
  .variants text (all.map fun a => (a.text, a)) (fun a => by cases a <;> decide)

inductive TotpAlgorithm where
  | sha1
  | sha256
  | sha512
  deriving DecidableEq

def TotpAlgorithm.text : TotpAlgorithm → String
  | sha1 => "SHA1"
  | sha256 => "SHA256"
  | sha512 => "SHA512"

def TotpAlgorithm.all : List TotpAlgorithm :=
  [.sha1, .sha256, .sha512]

def TotpAlgorithm.codec : JsonCodec TotpAlgorithm :=
  .variants text (all.map fun a => (a.text, a)) (fun a => by cases a <;> decide)

inductive CustomFieldKind where
  | string
  | concealed
  | url
  | email
  | date
  deriving DecidableEq

def CustomFieldKind.text : CustomFieldKind → String
  | string => "string"
  | concealed => "concealed"
  | url => "url"
  | email => "email"
  | date => "date"

def CustomFieldKind.all : List CustomFieldKind :=
  [.string, .concealed, .url, .email, .date]

def CustomFieldKind.codec : JsonCodec CustomFieldKind :=
  .variants text (all.map fun a => (a.text, a)) (fun a => by cases a <;> decide)

/-- The semantic role of a custom field. -/
inductive FieldPurpose where
  | username
  | password
  | notes
  | otp
  | privateKey
  | publicKey
  | cardNumber
  | cvv
  | pin
  deriving DecidableEq

def FieldPurpose.text : FieldPurpose → String
  | username => "username"
  | password => "password"
  | notes => "notes"
  | otp => "otp"
  | privateKey => "private_key"
  | publicKey => "public_key"
  | cardNumber => "card_number"
  | cvv => "cvv"
  | pin => "pin"

def FieldPurpose.all : List FieldPurpose :=
  [.username, .password, .notes, .otp, .privateKey, .publicKey, .cardNumber, .cvv, .pin]

def FieldPurpose.codec : JsonCodec FieldPurpose :=
  .variants text (all.map fun a => (a.text, a)) (fun a => by cases a <;> decide)

/-! ## Prose documents -/

/-- An object of type `doc` whose content, where there is one, is an array. -/
def isDocShape (value : Json) : Bool :=
  match value with
  | .obj members =>
      (((Json.obj members).get? "type").bind Json.asStr? == some "doc") &&
        match (Json.obj members).get? "content" with
        | none => true
        | some (.arr _) => true
        | some _ => false
  | _ => false

def emptyDoc : JsonValue :=
  ⟨.object [("type", .str "doc"), ("content", .arr [])], by decide, by decide⟩

/-- A ProseMirror document. -/
structure ProseDoc where
  value : JsonValue
  shape : isDocShape value.json = true

namespace ProseDoc

def empty : ProseDoc := ⟨emptyDoc, by decide⟩

/-- Any other value collapses to the empty document. -/
def fromValueLossy (value : JsonValue) : ProseDoc :=
  if h : isDocShape value.json = true then ⟨value, h⟩ else empty

def codec : JsonCodec ProseDoc where
  write doc := doc.value.json
  read j := (JsonValue.ofJson? j).map fromValueLossy
  base := 2
  read_write := by
    rintro ⟨value, hshape⟩ j h
    rw [JsonValue.ofJson?_reordered h, Option.map_some, fromValueLossy, dif_pos hshape]
  distinctKeys_write doc := JsonValue.codec.distinctKeys_write doc.value
  intsFit_write doc := JsonValue.codec.intsFit_write doc.value
  depth_write := by
    intro j doc d hread hbase hdepth
    obtain ⟨value, hvalue, rfl⟩ := Option.map_eq_some_iff.mp hread
    by_cases hshape : isDocShape value.json = true
    · rw [fromValueLossy, dif_pos hshape]
      exact Nat.le_trans (JsonValue.depth_of_ofJson? hvalue) hdepth
    · rw [fromValueLossy, dif_neg hshape]
      exact hbase

end ProseDoc

/-! ## Parts of contents -/

/-- A named group of custom fields. -/
structure Section where
  id : String
  title : String

def Section.record : JsonRecord Section :=
  .ofFields
    (.and (.required "id" (·.id) .string) <|
      .skipEmptyText "title" (·.title))
    (fun (id, title) => { id, title })
    (fun _ => rfl) (fun _ => rfl) (by decide)

def Section.codec : JsonCodec Section := Section.record.codec

structure EmailEntry where
  label : String
  value : String

def EmailEntry.record : JsonRecord EmailEntry :=
  .ofFields
    (.and (.skipEmptyText "label" (·.label)) <|
      .defaulted "value" (·.value) .string "")
    (fun (label, value) => { label, value })
    (fun _ => rfl) (fun _ => rfl) (by decide)

def EmailEntry.codec : JsonCodec EmailEntry := EmailEntry.record.codec

structure PhoneEntry where
  label : String
  value : String

def PhoneEntry.record : JsonRecord PhoneEntry :=
  .ofFields
    (.and (.skipEmptyText "label" (·.label)) <|
      .defaulted "value" (·.value) .string "")
    (fun (label, value) => { label, value })
    (fun _ => rfl) (fun _ => rfl) (by decide)

def PhoneEntry.codec : JsonCodec PhoneEntry := PhoneEntry.record.codec

/-- How a password was generated. -/
structure GeneratorRecipe where
  length : UInt32
  includeLetters : Bool
  includeNumbers : Bool
  includeSymbols : Bool
  excludedCharacters : String
  wordsMode : Bool
  wordDelimiter : String

def GeneratorRecipe.record : JsonRecord GeneratorRecipe :=
  .ofFields
    (.and (.defaulted "length" (·.length) .u32 0) <|
      .and (.defaulted "include_letters" (·.includeLetters) .bool false) <|
      .and (.defaulted "include_numbers" (·.includeNumbers) .bool false) <|
      .and (.defaulted "include_symbols" (·.includeSymbols) .bool false) <|
      .and (.skipEmptyText "excluded_characters" (·.excludedCharacters)) <|
      .and (.defaulted "words_mode" (·.wordsMode) .bool false) <|
      .skipEmptyText "word_delimiter" (·.wordDelimiter))
    (fun (length, includeLetters, includeNumbers, includeSymbols, excludedCharacters, wordsMode,
      wordDelimiter) =>
      { length, includeLetters, includeNumbers, includeSymbols, excludedCharacters, wordsMode,
        wordDelimiter })
    (fun _ => rfl) (fun _ => rfl) (by decide)

def GeneratorRecipe.codec : JsonCodec GeneratorRecipe := GeneratorRecipe.record.codec

structure Fido2Credential where
  credentialId : String
  userHandle : String
  rpId : String
  rpName : String
  userName : String
  userDisplayName : String
  algorithm : String
  privateKey : String
  counter : UInt32
  discoverable : Bool
  createdAt : String

def Fido2Credential.record : JsonRecord Fido2Credential :=
  .ofFields
    (.and (.required "credential_id" (·.credentialId) .string) <|
      .and (.skipEmptyText "user_handle" (·.userHandle)) <|
      .and (.required "rp_id" (·.rpId) .string) <|
      .and (.skipEmptyText "rp_name" (·.rpName)) <|
      .and (.skipEmptyText "user_name" (·.userName)) <|
      .and (.skipEmptyText "user_display_name" (·.userDisplayName)) <|
      .and (.skipEmptyText "algorithm" (·.algorithm)) <|
      .and (.required "private_key" (·.privateKey) .string) <|
      .and (.defaulted "counter" (·.counter) .u32 0) <|
      .and (.defaulted "discoverable" (·.discoverable) .bool false) <|
      .skipEmptyText "created_at" (·.createdAt))
    (fun (credentialId, userHandle, rpId, rpName, userName, userDisplayName, algorithm, privateKey,
      counter, discoverable, createdAt) =>
      { credentialId, userHandle, rpId, rpName, userName, userDisplayName, algorithm, privateKey,
        counter, discoverable, createdAt })
    (fun _ => rfl) (fun _ => rfl) (by decide)

def Fido2Credential.codec : JsonCodec Fido2Credential := Fido2Credential.record.codec

/-- A retired password. -/
structure PasswordHistoryEntry where
  password : String
  changedAt : String

def PasswordHistoryEntry.record : JsonRecord PasswordHistoryEntry :=
  .ofFields
    (.and (.required "password" (·.password) .string) <|
      .required "changed_at" (·.changedAt) .string)
    (fun (password, changedAt) => { password, changedAt })
    (fun _ => rfl) (fun _ => rfl) (by decide)

def PasswordHistoryEntry.codec : JsonCodec PasswordHistoryEntry := PasswordHistoryEntry.record.codec

structure LoginUrl where
  url : String
  matchType : Option UrlMatchType
  label : Option String
  primary : Option Bool

def LoginUrl.record : JsonRecord LoginUrl :=
  .ofFields
    (.and (.required "url" (·.url) .string) <|
      .and (.skipNone "match_type" (·.matchType) UrlMatchType.codec nofun) <|
      .and (.skipNone "label" (·.label) .string nofun) <|
      .skipNone "primary" (·.primary) .bool nofun)
    (fun (url, matchType, label, primary) => { url, matchType, label, primary })
    (fun _ => rfl) (fun _ => rfl) (by decide)

def LoginUrl.codec : JsonCodec LoginUrl := LoginUrl.record.codec

structure TotpConfig where
  secretBase32 : String
  algorithm : TotpAlgorithm
  digits : UInt8
  periodSeconds : UInt32

def TotpConfig.record : JsonRecord TotpConfig :=
  .ofFields
    (.and (.required "secret_base32" (·.secretBase32) .string) <|
      .and (.defaulted "algorithm" (·.algorithm) TotpAlgorithm.codec .sha1) <|
      .and (.defaulted "digits" (·.digits) .u8 6) <|
      .defaulted "period_seconds" (·.periodSeconds) .u32 30)
    (fun (secretBase32, algorithm, digits, periodSeconds) =>
      { secretBase32, algorithm, digits, periodSeconds })
    (fun _ => rfl) (fun _ => rfl) (by decide)

def TotpConfig.codec : JsonCodec TotpConfig := TotpConfig.record.codec

structure CustomField where
  name : String
  kind : CustomFieldKind
  value : String
  purpose : Option FieldPurpose
  sectionId : Option String

def CustomField.record : JsonRecord CustomField :=
  .ofFields
    (.and (.required "name" (·.name) .string) <|
      .and (.required "kind" (·.kind) CustomFieldKind.codec) <|
      .and (.required "value" (·.value) .string) <|
      .and (.skipNone "purpose" (·.purpose) FieldPurpose.codec nofun) <|
      .skipNone "section_id" (·.sectionId) .string nofun)
    (fun (name, kind, value, purpose, sectionId) => { name, kind, value, purpose, sectionId })
    (fun _ => rfl) (fun _ => rfl) (by decide)

def CustomField.codec : JsonCodec CustomField := CustomField.record.codec

structure RotationPolicy where
  policy : RotationPolicyKind
  nextRotationAt : Option String

def RotationPolicy.record : JsonRecord RotationPolicy :=
  .ofFields
    (.and (.required "policy" (·.policy) RotationPolicyKind.codec) <|
      .skipNone "next_rotation_at" (·.nextRotationAt) .string nofun)
    (fun (policy, nextRotationAt) => { policy, nextRotationAt })
    (fun _ => rfl) (fun _ => rfl) (by decide)

def RotationPolicy.codec : JsonCodec RotationPolicy := RotationPolicy.record.codec

structure PostalAddress where
  street : String
  city : String
  region : String
  postalCode : String
  country : String

def PostalAddress.record : JsonRecord PostalAddress :=
  .ofFields
    (.and (.skipEmptyText "street" (·.street)) <|
      .and (.skipEmptyText "city" (·.city)) <|
      .and (.skipEmptyText "region" (·.region)) <|
      .and (.skipEmptyText "postal_code" (·.postalCode)) <|
      .skipEmptyText "country" (·.country))
    (fun (street, city, region, postalCode, country) =>
      { street, city, region, postalCode, country })
    (fun _ => rfl) (fun _ => rfl) (by decide)

def PostalAddress.codec : JsonCodec PostalAddress := PostalAddress.record.codec

structure GovernmentId where
  label : String
  number : String
  issuedOn : Option String
  expiresOn : Option String
  issuer : String

def GovernmentId.record : JsonRecord GovernmentId :=
  .ofFields
    (.and (.required "label" (·.label) .string) <|
      .and (.required "number" (·.number) .string) <|
      .and (.skipNone "issued_on" (·.issuedOn) .string nofun) <|
      .and (.skipNone "expires_on" (·.expiresOn) .string nofun) <|
      .skipEmptyText "issuer" (·.issuer))
    (fun (label, number, issuedOn, expiresOn, issuer) =>
      { label, number, issuedOn, expiresOn, issuer })
    (fun _ => rfl) (fun _ => rfl) (by decide)

def GovernmentId.codec : JsonCodec GovernmentId := GovernmentId.record.codec

structure WalletAddress where
  label : String
  address : String

def WalletAddress.record : JsonRecord WalletAddress :=
  .ofFields
    (.and (.skipEmptyText "label" (·.label)) <|
      .defaulted "address" (·.address) .string "")
    (fun (label, address) => { label, address })
    (fun _ => rfl) (fun _ => rfl) (by decide)

def WalletAddress.codec : JsonCodec WalletAddress := WalletAddress.record.codec

/-! ## Contents -/

/-- The fields that most contents end with. -/
def annotations {σ : Type} (notes : σ → ProseDoc) (notesText : σ → String)
    (customFields : σ → List CustomField) (sections : σ → List Section)
    (rawImport : σ → JsonValue) :
    JsonFields σ (ProseDoc × String × List CustomField × List Section × JsonValue) :=
  .and (.defaulted "notes" notes ProseDoc.codec .empty) <|
    .and (.skipEmptyText "notes_text" notesText) <|
    .and (.defaulted "custom_fields" customFields CustomField.codec.list []) <|
    .and (.skipEmptyList "sections" sections Section.codec) <|
    .defaulted "raw_import" rawImport JsonValue.codec .null

structure LoginContent where
  username : String
  password : String
  urls : List LoginUrl
  totp : Option TotpConfig
  notes : ProseDoc
  notesText : String
  customFields : List CustomField
  passwordHistory : List PasswordHistoryEntry
  generatorRecipe : Option GeneratorRecipe
  autofillOnPageLoad : Option Bool
  fido2Credentials : List Fido2Credential
  sections : List Section
  rawImport : JsonValue

def LoginContent.record : JsonRecord LoginContent :=
  .ofFields
    (.and (.defaulted "username" (·.username) .string "") <|
      .and (.defaulted "password" (·.password) .string "") <|
      .and (.defaulted "urls" (·.urls) LoginUrl.codec.list []) <|
      .and (.skipNone "totp" (·.totp) TotpConfig.codec TotpConfig.record.codec_write_ne_null) <|
      .and (.defaulted "notes" (·.notes) ProseDoc.codec .empty) <|
      .and (.skipEmptyText "notes_text" (·.notesText)) <|
      .and (.defaulted "custom_fields" (·.customFields) CustomField.codec.list []) <|
      .and (.skipEmptyList "password_history" (·.passwordHistory) PasswordHistoryEntry.codec) <|
      .and (.skipNone "generator_recipe" (·.generatorRecipe) GeneratorRecipe.codec
        GeneratorRecipe.record.codec_write_ne_null) <|
      .and (.skipNone "autofill_on_page_load" (·.autofillOnPageLoad) .bool nofun) <|
      .and (.skipEmptyList "fido2_credentials" (·.fido2Credentials) Fido2Credential.codec) <|
      .and (.skipEmptyList "sections" (·.sections) Section.codec) <|
      .defaulted "raw_import" (·.rawImport) JsonValue.codec .null)
    (fun (username, password, urls, totp, notes, notesText, customFields, passwordHistory,
      generatorRecipe, autofillOnPageLoad, fido2Credentials, sections, rawImport) =>
      { username, password, urls, totp, notes, notesText, customFields, passwordHistory,
        generatorRecipe, autofillOnPageLoad, fido2Credentials, sections, rawImport })
    (fun _ => rfl) (fun _ => rfl) (by decide)

structure SecureNoteContent where
  body : ProseDoc
  bodyText : String
  customFields : List CustomField
  sections : List Section
  rawImport : JsonValue

def SecureNoteContent.record : JsonRecord SecureNoteContent :=
  .ofFields
    (.and (.defaulted "body" (·.body) ProseDoc.codec .empty) <|
      .and (.skipEmptyText "body_text" (·.bodyText)) <|
      .and (.defaulted "custom_fields" (·.customFields) CustomField.codec.list []) <|
      .and (.skipEmptyList "sections" (·.sections) Section.codec) <|
      .defaulted "raw_import" (·.rawImport) JsonValue.codec .null)
    (fun (body, bodyText, customFields, sections, rawImport) =>
      { body, bodyText, customFields, sections, rawImport })
    (fun _ => rfl) (fun _ => rfl) (by decide)

/-- The kind of credential is written under another name than the tag of the variant. -/
structure ApiCredentialContent where
  kind : ApiCredentialKind
  primaryValue : String
  secondaryValue : String
  headers : StringMap
  rotation : Option RotationPolicy
  notes : ProseDoc
  notesText : String
  customFields : List CustomField
  sections : List Section
  rawImport : JsonValue

def ApiCredentialContent.record : JsonRecord ApiCredentialContent :=
  .ofFields
    (.and (.defaulted "credential_kind" (·.kind) ApiCredentialKind.codec .apiKey) <|
      .and (.defaulted "primary_value" (·.primaryValue) .string "") <|
      .and (.defaulted "secondary_value" (·.secondaryValue) .string "") <|
      .and (.defaulted "headers" (·.headers) StringMap.codec .empty) <|
      .and (.skipNone "rotation" (·.rotation) RotationPolicy.codec
        RotationPolicy.record.codec_write_ne_null) <|
      annotations (·.notes) (·.notesText) (·.customFields) (·.sections) (·.rawImport))
    (fun (kind, primaryValue, secondaryValue, headers, rotation, notes, notesText, customFields,
      sections, rawImport) =>
      { kind, primaryValue, secondaryValue, headers, rotation, notes, notesText, customFields,
        sections, rawImport })
    (fun _ => rfl) (fun _ => rfl) (by decide)

structure IdentityContent where
  firstName : String
  middleName : String
  lastName : String
  username : String
  company : String
  jobTitle : String
  gender : String
  dateOfBirth : Option String
  emails : List EmailEntry
  phones : List PhoneEntry
  addresses : List PostalAddress
  governmentIds : List GovernmentId
  notes : ProseDoc
  notesText : String
  customFields : List CustomField
  sections : List Section
  rawImport : JsonValue

def IdentityContent.record : JsonRecord IdentityContent :=
  .ofFields
    (.and (.skipEmptyText "first_name" (·.firstName)) <|
      .and (.skipEmptyText "middle_name" (·.middleName)) <|
      .and (.skipEmptyText "last_name" (·.lastName)) <|
      .and (.skipEmptyText "username" (·.username)) <|
      .and (.skipEmptyText "company" (·.company)) <|
      .and (.skipEmptyText "job_title" (·.jobTitle)) <|
      .and (.skipEmptyText "gender" (·.gender)) <|
      .and (.skipNone "date_of_birth" (·.dateOfBirth) .string nofun) <|
      .and (.skipEmptyList "emails" (·.emails) EmailEntry.codec) <|
      .and (.skipEmptyList "phones" (·.phones) PhoneEntry.codec) <|
      .and (.skipEmptyList "addresses" (·.addresses) PostalAddress.codec) <|
      .and (.defaulted "government_ids" (·.governmentIds) GovernmentId.codec.list []) <|
      annotations (·.notes) (·.notesText) (·.customFields) (·.sections) (·.rawImport))
    (fun (firstName, middleName, lastName, username, company, jobTitle, gender, dateOfBirth, emails,
      phones, addresses, governmentIds, notes, notesText, customFields, sections, rawImport) =>
      { firstName, middleName, lastName, username, company, jobTitle, gender, dateOfBirth, emails,
        phones, addresses, governmentIds, notes, notesText, customFields, sections, rawImport })
    (fun _ => rfl) (fun _ => rfl) (by decide)

structure CardContent where
  cardholderName : String
  number : String
  brand : String
  expiry : String
  cvv : String
  pin : String
  billingAddress : Option PostalAddress
  notes : ProseDoc
  notesText : String
  customFields : List CustomField
  sections : List Section
  rawImport : JsonValue

def CardContent.record : JsonRecord CardContent :=
  .ofFields
    (.and (.skipEmptyText "cardholder_name" (·.cardholderName)) <|
      .and (.skipEmptyText "number" (·.number)) <|
      .and (.skipEmptyText "brand" (·.brand)) <|
      .and (.skipEmptyText "expiry" (·.expiry)) <|
      .and (.skipEmptyText "cvv" (·.cvv)) <|
      .and (.skipEmptyText "pin" (·.pin)) <|
      .and (.skipNone "billing_address" (·.billingAddress) PostalAddress.codec
        PostalAddress.record.codec_write_ne_null) <|
      annotations (·.notes) (·.notesText) (·.customFields) (·.sections) (·.rawImport))
    (fun (cardholderName, number, brand, expiry, cvv, pin, billingAddress, notes, notesText,
      customFields, sections, rawImport) =>
      { cardholderName, number, brand, expiry, cvv, pin, billingAddress, notes, notesText,
        customFields, sections, rawImport })
    (fun _ => rfl) (fun _ => rfl) (by decide)

structure SshKeyContent where
  privateKey : String
  publicKey : String
  passphrase : String
  fingerprint : String
  keyType : String
  notes : ProseDoc
  notesText : String
  customFields : List CustomField
  sections : List Section
  rawImport : JsonValue

def SshKeyContent.record : JsonRecord SshKeyContent :=
  .ofFields
    (.and (.skipEmptyText "private_key" (·.privateKey)) <|
      .and (.skipEmptyText "public_key" (·.publicKey)) <|
      .and (.skipEmptyText "passphrase" (·.passphrase)) <|
      .and (.skipEmptyText "fingerprint" (·.fingerprint)) <|
      .and (.skipEmptyText "key_type" (·.keyType)) <|
      annotations (·.notes) (·.notesText) (·.customFields) (·.sections) (·.rawImport))
    (fun (privateKey, publicKey, passphrase, fingerprint, keyType, notes, notesText, customFields,
      sections, rawImport) =>
      { privateKey, publicKey, passphrase, fingerprint, keyType, notes, notesText, customFields,
        sections, rawImport })
    (fun _ => rfl) (fun _ => rfl) (by decide)

structure DocumentContent where
  filename : String
  contentType : String
  sizeBytes : Option UInt64
  altText : String
  attachmentUri : String
  notes : ProseDoc
  notesText : String
  customFields : List CustomField
  sections : List Section
  rawImport : JsonValue

def DocumentContent.record : JsonRecord DocumentContent :=
  .ofFields
    (.and (.skipEmptyText "filename" (·.filename)) <|
      .and (.skipEmptyText "content_type" (·.contentType)) <|
      .and (.skipNone "size_bytes" (·.sizeBytes) .u64 nofun) <|
      .and (.skipEmptyText "alt_text" (·.altText)) <|
      .and (.skipEmptyText "attachment_uri" (·.attachmentUri)) <|
      annotations (·.notes) (·.notesText) (·.customFields) (·.sections) (·.rawImport))
    (fun (filename, contentType, sizeBytes, altText, attachmentUri, notes, notesText, customFields,
      sections, rawImport) =>
      { filename, contentType, sizeBytes, altText, attachmentUri, notes, notesText, customFields,
        sections, rawImport })
    (fun _ => rfl) (fun _ => rfl) (by decide)

structure BankAccountContent where
  bankName : String
  accountHolder : String
  accountNumber : String
  routingNumber : String
  accountType : String
  iban : String
  swift : String
  branch : String
  pin : String
  notes : ProseDoc
  notesText : String
  customFields : List CustomField
  sections : List Section
  rawImport : JsonValue

def BankAccountContent.record : JsonRecord BankAccountContent :=
  .ofFields
    (.and (.skipEmptyText "bank_name" (·.bankName)) <|
      .and (.skipEmptyText "account_holder" (·.accountHolder)) <|
      .and (.skipEmptyText "account_number" (·.accountNumber)) <|
      .and (.skipEmptyText "routing_number" (·.routingNumber)) <|
      .and (.skipEmptyText "account_type" (·.accountType)) <|
      .and (.skipEmptyText "iban" (·.iban)) <|
      .and (.skipEmptyText "swift" (·.swift)) <|
      .and (.skipEmptyText "branch" (·.branch)) <|
      .and (.skipEmptyText "pin" (·.pin)) <|
      annotations (·.notes) (·.notesText) (·.customFields) (·.sections) (·.rawImport))
    (fun (bankName, accountHolder, accountNumber, routingNumber, accountType, iban, swift, branch,
      pin, notes, notesText, customFields, sections, rawImport) =>
      { bankName, accountHolder, accountNumber, routingNumber, accountType, iban, swift, branch,
        pin, notes, notesText, customFields, sections, rawImport })
    (fun _ => rfl) (fun _ => rfl) (by decide)

structure PassportContent where
  number : String
  passportType : String
  fullName : String
  surname : String
  givenNames : String
  nationality : String
  dateOfBirth : Option String
  placeOfBirth : String
  gender : String
  issuingCountry : String
  issuingAuthority : String
  issuedOn : Option String
  expiresOn : Option String
  notes : ProseDoc
  notesText : String
  customFields : List CustomField
  sections : List Section
  rawImport : JsonValue

def PassportContent.record : JsonRecord PassportContent :=
  .ofFields
    (.and (.skipEmptyText "number" (·.number)) <|
      .and (.skipEmptyText "passport_type" (·.passportType)) <|
      .and (.skipEmptyText "full_name" (·.fullName)) <|
      .and (.skipEmptyText "surname" (·.surname)) <|
      .and (.skipEmptyText "given_names" (·.givenNames)) <|
      .and (.skipEmptyText "nationality" (·.nationality)) <|
      .and (.skipNone "date_of_birth" (·.dateOfBirth) .string nofun) <|
      .and (.skipEmptyText "place_of_birth" (·.placeOfBirth)) <|
      .and (.skipEmptyText "gender" (·.gender)) <|
      .and (.skipEmptyText "issuing_country" (·.issuingCountry)) <|
      .and (.skipEmptyText "issuing_authority" (·.issuingAuthority)) <|
      .and (.skipNone "issued_on" (·.issuedOn) .string nofun) <|
      .and (.skipNone "expires_on" (·.expiresOn) .string nofun) <|
      annotations (·.notes) (·.notesText) (·.customFields) (·.sections) (·.rawImport))
    (fun (number, passportType, fullName, surname, givenNames, nationality, dateOfBirth,
      placeOfBirth, gender, issuingCountry, issuingAuthority, issuedOn, expiresOn, notes, notesText,
      customFields, sections, rawImport) =>
      { number, passportType, fullName, surname, givenNames, nationality, dateOfBirth, placeOfBirth,
        gender, issuingCountry, issuingAuthority, issuedOn, expiresOn, notes, notesText,
        customFields, sections, rawImport })
    (fun _ => rfl) (fun _ => rfl) (by decide)

structure DriverLicenseContent where
  number : String
  fullName : String
  dateOfBirth : Option String
  gender : String
  address : Option PostalAddress
  country : String
  state : String
  licenseClass : String
  conditions : String
  issuedOn : Option String
  expiresOn : Option String
  notes : ProseDoc
  notesText : String
  customFields : List CustomField
  sections : List Section
  rawImport : JsonValue

def DriverLicenseContent.record : JsonRecord DriverLicenseContent :=
  .ofFields
    (.and (.skipEmptyText "number" (·.number)) <|
      .and (.skipEmptyText "full_name" (·.fullName)) <|
      .and (.skipNone "date_of_birth" (·.dateOfBirth) .string nofun) <|
      .and (.skipEmptyText "gender" (·.gender)) <|
      .and (.skipNone "address" (·.address) PostalAddress.codec
        PostalAddress.record.codec_write_ne_null) <|
      .and (.skipEmptyText "country" (·.country)) <|
      .and (.skipEmptyText "state" (·.state)) <|
      .and (.skipEmptyText "license_class" (·.licenseClass)) <|
      .and (.skipEmptyText "conditions" (·.conditions)) <|
      .and (.skipNone "issued_on" (·.issuedOn) .string nofun) <|
      .and (.skipNone "expires_on" (·.expiresOn) .string nofun) <|
      annotations (·.notes) (·.notesText) (·.customFields) (·.sections) (·.rawImport))
    (fun (number, fullName, dateOfBirth, gender, address, country, state, licenseClass, conditions,
      issuedOn, expiresOn, notes, notesText, customFields, sections, rawImport) =>
      { number, fullName, dateOfBirth, gender, address, country, state, licenseClass, conditions,
        issuedOn, expiresOn, notes, notesText, customFields, sections, rawImport })
    (fun _ => rfl) (fun _ => rfl) (by decide)

structure CryptoWalletContent where
  walletName : String
  network : String
  seedPhrase : String
  privateKey : String
  password : String
  derivationPath : String
  addresses : List WalletAddress
  notes : ProseDoc
  notesText : String
  customFields : List CustomField
  sections : List Section
  rawImport : JsonValue

def CryptoWalletContent.record : JsonRecord CryptoWalletContent :=
  .ofFields
    (.and (.skipEmptyText "wallet_name" (·.walletName)) <|
      .and (.skipEmptyText "network" (·.network)) <|
      .and (.skipEmptyText "seed_phrase" (·.seedPhrase)) <|
      .and (.skipEmptyText "private_key" (·.privateKey)) <|
      .and (.skipEmptyText "password" (·.password)) <|
      .and (.skipEmptyText "derivation_path" (·.derivationPath)) <|
      .and (.skipEmptyList "addresses" (·.addresses) WalletAddress.codec) <|
      annotations (·.notes) (·.notesText) (·.customFields) (·.sections) (·.rawImport))
    (fun (walletName, network, seedPhrase, privateKey, password, derivationPath, addresses, notes,
      notesText, customFields, sections, rawImport) =>
      { walletName, network, seedPhrase, privateKey, password, derivationPath, addresses, notes,
        notesText, customFields, sections, rawImport })
    (fun _ => rfl) (fun _ => rfl) (by decide)

structure ServerContent where
  hostname : String
  port : Option UInt32
  protocol : String
  username : String
  password : String
  sshKeyReference : String
  adminConsoleUrl : String
  notes : ProseDoc
  notesText : String
  customFields : List CustomField
  sections : List Section
  rawImport : JsonValue

def ServerContent.record : JsonRecord ServerContent :=
  .ofFields
    (.and (.skipEmptyText "hostname" (·.hostname)) <|
      .and (.skipNone "port" (·.port) .u32 nofun) <|
      .and (.skipEmptyText "protocol" (·.protocol)) <|
      .and (.skipEmptyText "username" (·.username)) <|
      .and (.skipEmptyText "password" (·.password)) <|
      .and (.skipEmptyText "ssh_key_reference" (·.sshKeyReference)) <|
      .and (.skipEmptyText "admin_console_url" (·.adminConsoleUrl)) <|
      annotations (·.notes) (·.notesText) (·.customFields) (·.sections) (·.rawImport))
    (fun (hostname, port, protocol, username, password, sshKeyReference, adminConsoleUrl, notes,
      notesText, customFields, sections, rawImport) =>
      { hostname, port, protocol, username, password, sshKeyReference, adminConsoleUrl, notes,
        notesText, customFields, sections, rawImport })
    (fun _ => rfl) (fun _ => rfl) (by decide)

structure DatabaseContent where
  databaseType : String
  server : String
  port : Option UInt32
  databaseName : String
  username : String
  password : String
  sid : String
  schema : String
  notes : ProseDoc
  notesText : String
  customFields : List CustomField
  sections : List Section
  rawImport : JsonValue

def DatabaseContent.record : JsonRecord DatabaseContent :=
  .ofFields
    (.and (.skipEmptyText "database_type" (·.databaseType)) <|
      .and (.skipEmptyText "server" (·.server)) <|
      .and (.skipNone "port" (·.port) .u32 nofun) <|
      .and (.skipEmptyText "database_name" (·.databaseName)) <|
      .and (.skipEmptyText "username" (·.username)) <|
      .and (.skipEmptyText "password" (·.password)) <|
      .and (.skipEmptyText "sid" (·.sid)) <|
      .and (.skipEmptyText "schema" (·.schema)) <|
      annotations (·.notes) (·.notesText) (·.customFields) (·.sections) (·.rawImport))
    (fun (databaseType, server, port, databaseName, username, password, sid, schema, notes,
      notesText, customFields, sections, rawImport) =>
      { databaseType, server, port, databaseName, username, password, sid, schema, notes, notesText,
        customFields, sections, rawImport })
    (fun _ => rfl) (fun _ => rfl) (by decide)

/-! ## The tagged union -/

inductive ItemContent where
  | login (content : LoginContent)
  | secureNote (content : SecureNoteContent)
  | apiCredential (content : ApiCredentialContent)
  | card (content : CardContent)
  | identity (content : IdentityContent)
  | document (content : DocumentContent)
  | sshKey (content : SshKeyContent)
  | server (content : ServerContent)
  | database (content : DatabaseContent)
  | bankAccount (content : BankAccountContent)
  | passport (content : PassportContent)
  | driverLicense (content : DriverLicenseContent)
  | cryptoWallet (content : CryptoWalletContent)

namespace ItemContent

/-! Each variant has a tag and a record. -/

def loginVariant : JsonVariant ItemContent := ⟨"login", LoginContent, LoginContent.record, .login⟩

def secureNoteVariant : JsonVariant ItemContent :=
  ⟨"secure_note", SecureNoteContent, SecureNoteContent.record, .secureNote⟩

def apiCredentialVariant : JsonVariant ItemContent :=
  ⟨"api_credential", ApiCredentialContent, ApiCredentialContent.record, .apiCredential⟩

def cardVariant : JsonVariant ItemContent := ⟨"card", CardContent, CardContent.record, .card⟩

def identityVariant : JsonVariant ItemContent :=
  ⟨"identity", IdentityContent, IdentityContent.record, .identity⟩

def documentVariant : JsonVariant ItemContent :=
  ⟨"document", DocumentContent, DocumentContent.record, .document⟩

def sshKeyVariant : JsonVariant ItemContent :=
  ⟨"ssh_key", SshKeyContent, SshKeyContent.record, .sshKey⟩

def serverVariant : JsonVariant ItemContent :=
  ⟨"server", ServerContent, ServerContent.record, .server⟩

def databaseVariant : JsonVariant ItemContent :=
  ⟨"database", DatabaseContent, DatabaseContent.record, .database⟩

def bankAccountVariant : JsonVariant ItemContent :=
  ⟨"bank_account", BankAccountContent, BankAccountContent.record, .bankAccount⟩

def passportVariant : JsonVariant ItemContent :=
  ⟨"passport", PassportContent, PassportContent.record, .passport⟩

def driverLicenseVariant : JsonVariant ItemContent :=
  ⟨"driver_license", DriverLicenseContent, DriverLicenseContent.record, .driverLicense⟩

def cryptoWalletVariant : JsonVariant ItemContent :=
  ⟨"crypto_wallet", CryptoWalletContent, CryptoWalletContent.record, .cryptoWallet⟩

/-- The variants, in the order of the source. -/
def variants : List (JsonVariant ItemContent) :=
  [loginVariant, secureNoteVariant, apiCredentialVariant, cardVariant, identityVariant,
    documentVariant, sshKeyVariant, serverVariant, databaseVariant, bankAccountVariant,
    passportVariant, driverLicenseVariant, cryptoWalletVariant]

/-- The variant of a content, with the content's record. -/
def variantOf : ItemContent → (v : JsonVariant ItemContent) × v.Body
  | .login content => ⟨loginVariant, content⟩
  | .secureNote content => ⟨secureNoteVariant, content⟩
  | .apiCredential content => ⟨apiCredentialVariant, content⟩
  | .card content => ⟨cardVariant, content⟩
  | .identity content => ⟨identityVariant, content⟩
  | .document content => ⟨documentVariant, content⟩
  | .sshKey content => ⟨sshKeyVariant, content⟩
  | .server content => ⟨serverVariant, content⟩
  | .database content => ⟨databaseVariant, content⟩
  | .bankAccount content => ⟨bankAccountVariant, content⟩
  | .passport content => ⟨passportVariant, content⟩
  | .driverLicense content => ⟨driverLicenseVariant, content⟩
  | .cryptoWallet content => ⟨cryptoWalletVariant, content⟩

theorem variantOf_wrap {v : JsonVariant ItemContent} (hv : v ∈ variants) (body : v.Body) :
    variantOf (v.wrap body) = ⟨v, body⟩ := by
  simp only [variants, List.mem_cons, List.not_mem_nil, or_false] at hv
  rcases hv with rfl | rfl | rfl | rfl | rfl | rfl | rfl | rfl | rfl | rfl | rfl | rfl | rfl <;>
    rfl

theorem wrap_variantOf (content : ItemContent) :
    (variantOf content).1.wrap (variantOf content).2 = content := by
  cases content <;> rfl

theorem find?_variants (content : ItemContent) :
    variants.find? (fun v => v.tag == (variantOf content).1.tag)
      = some (variantOf content).1 := by
  cases content <;> rfl

theorem kind_notMem_names {v : JsonVariant ItemContent} (hv : v ∈ variants) :
    "kind" ∉ v.record.names := by
  simp only [variants, List.mem_cons, List.not_mem_nil, or_false] at hv
  rcases hv with rfl | rfl | rfl | rfl | rfl | rfl | rfl | rfl | rfl | rfl | rfl | rfl | rfl <;>
    decide

theorem variantOf_mem (content : ItemContent) : (variantOf content).1 ∈ variants :=
  List.mem_of_find?_eq_some (find?_variants content)

def codec : JsonCodec ItemContent :=
  .tagged "kind" variants variantOf wrap_variantOf (fun _ hv => variantOf_wrap hv) find?_variants
    (fun content => kind_notMem_names (variantOf_mem content))

example (title : String) (doc : ProseDoc) :
    codec.write (.secureNote
      { body := doc, bodyText := "", customFields := [], sections := [⟨"s", title⟩],
        rawImport := .null })
      = .obj [("kind", .str "secure_note"), ("body", doc.value.json), ("custom_fields", .arr []),
          ("sections", .arr [Section.codec.write ⟨"s", title⟩]), ("raw_import", .null)] :=
  rfl

/-- The wire names of the records that contents hold. -/
def partNames : List (List String) :=
  [Section.record.names, EmailEntry.record.names, PhoneEntry.record.names,
    GeneratorRecipe.record.names, Fido2Credential.record.names,
    PasswordHistoryEntry.record.names, LoginUrl.record.names, TotpConfig.record.names,
    CustomField.record.names, RotationPolicy.record.names, PostalAddress.record.names,
    GovernmentId.record.names, WalletAddress.record.names]

/-- **The item body codec loses nothing**: a content is read back from what it is written as, in
    every order of the keys, and by the tag of its own variant. No field is named like the tag, and
    no two fields of a record share a name. -/
theorem itemContent_lossless :
    (∀ (content : ItemContent) (j : Json), (codec.write content).Reordered j →
      codec.read j = some content ∧
        ∃ rest, j.tag? "kind" = some ((variantOf content).1.tag, rest)) ∧
    Function.Injective codec.write ∧
    (variants.map (·.tag)).Nodup ∧
    (∀ v ∈ variants, ("kind" :: v.record.names).Nodup) ∧
    (∀ names ∈ partNames, names.Nodup) := by
  refine ⟨?_, ?_, by decide, ?_, ?_⟩
  · intro content j h
    have hkind := kind_notMem_names (variantOf_mem content)
    have hkeys := (variantOf content).1.record.keys_members (variantOf content).2
    obtain ⟨rest, htag, -⟩ := Json.tag?_reordered h fun hmem => hkind (hkeys.subset hmem)
    exact ⟨codec.read_write h, rest, htag⟩
  · intro content content' h
    apply codec.eq_of_reordered
    rw [h]
    exact .refl _
  · intro v hv
    exact List.nodup_cons.mpr ⟨kind_notMem_names hv, v.record.nodup_names⟩
  · decide

end ItemContent

/-- A note on a door, with a line of text and the code. -/
def doorNote : ItemContent :=
  .secureNote
    { body :=
        { value :=
            ⟨.obj [("content", .arr [.obj
                [("content", .arr [.obj [("text", .str "Side entrance"), ("type", .str "text")]]),
                  ("type", .str "paragraph")]]),
              ("type", .str "doc")], by decide, by decide⟩
          shape := by decide }
      bodyText := ""
      customFields := [⟨"code", .concealed, "4711", some .pin, none⟩]
      sections := []
      rawImport := .null }

end SerenSecrets
