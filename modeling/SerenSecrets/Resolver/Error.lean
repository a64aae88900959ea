import SerenSecrets.Crypto.Wire
import SerenSecrets.Lib.Serde

set_option autoImplicit false

/-! # Errors of the resolver

A refusal of the service arrives as a `serverError` that keeps the status and the reply body, cut to
1024 bytes. The machine-readable part of such a body is its `error` object, which a metered reply
holds one level further down. -/

namespace SerenSecrets

inductive TransportErrorKind where
  | timeout
  | connect
  | other
  deriving DecidableEq, Repr

inductive ResolverError where
  | unsupportedScheme (scheme : String)
  | invalidUri (what : String)
  | transport (kind : TransportErrorKind)
  | serverError (status : UInt16) (body : String)
  | malformed (what : String)
  | crypto (e : CryptoError)
  | approvalRequired (requestId : Uuid)
  | notImplemented (what : String)
  | unknownField (field : String)
  | responseMismatch
  | stale
  | rotating
  | keyVersion
  | invalidInput (what : String)
  deriving DecidableEq

abbrev ResolverResult (α : Type) := Except ResolverError α

/-- An error of the crypto crate, passed on. -/
def fromCrypto {α : Type} : CryptoResult α → ResolverResult α
  | .ok a => .ok a
  | .error e => .error (.crypto e)

@[simp] theorem fromCrypto_eq_ok {α : Type} {x : CryptoResult α} {a : α} :
    fromCrypto x = .ok a ↔ x = .ok a := by
  cases x <;> simp [fromCrypto]

/-- Decode a base64 string; a failure names the field. -/
def b64Decode (s field : String) : ResolverResult Bytes :=
  match Base64.decode s with
  | some bytes => .ok bytes
  | none => .error (.malformed field)

@[simp] theorem b64Decode_eq_ok {s field : String} {bytes : Bytes} :
    b64Decode s field = .ok bytes ↔ Base64.decode s = some bytes := by
  unfold b64Decode
  cases Base64.decode s <;> simp

/-- A value that could be read; `what` names it when it could not. -/
def orMalformed {α : Type} (what : String) : Option α → ResolverResult α
  | some a => .ok a
  | none => .error (.malformed what)

@[simp] theorem orMalformed_eq_ok {α : Type} {what : String} {x : Option α} {a : α} :
    orMalformed what x = .ok a ↔ x = some a := by
  cases x <;> simp [orMalformed]

/-! ## Bodies of refusals -/

def approvalRequestIdFromError (value : Json) : Option Uuid := do
  let error ← value.get? "error"
  let id ← error.get? "approval_request_id"
  let raw ← id.asStr?
  Uuid.parseStr raw

/-- The approval request a refusal names, directly or inside a metered envelope. -/
def approvalRequestIdFromValue (value : Json) : Option Uuid :=
  approvalRequestIdFromError value <|> do
    let data ← value.get? "data"
    let body ← data.get? "body"
    approvalRequestIdFromError body

/-- The `error` object of a refusal, directly or inside a metered envelope. -/
def errorObject (value : Json) : Option Json :=
  value.get? "error" <|> do
    let data ← value.get? "data"
    let body ← data.get? "body"
    body.get? "error"

/-- The `error` object of a server error with the given status and `kind`. -/
def codedServerError (parseJson : Bytes → Option Json) (error : ResolverError) (status : UInt16)
    (kind : String) : Option Json :=
  match error with
  | .serverError got body =>
      ((parseJson (utf8 body)).bind errorObject).filter (fun e =>
        got == status && (e.get? "kind").bind Json.asStr? == some kind)
  | _ => none

def isCodedServerError (parseJson : Bytes → Option Json) (error : ResolverError) (status : UInt16)
    (kind : String) : Bool :=
  (codedServerError parseJson error status kind).isSome

/-- The `kind` of a refusal. -/
def errorKind (value : Json) : Option String :=
  ((errorObject value).bind (Json.get? "kind")).bind Json.asStr?

theorem isCodedServerError_iff {parseJson : Bytes → Option Json} {error : ResolverError}
    {status : UInt16} {kind : String} :
    isCodedServerError parseJson error status kind = true ↔
      ∃ body value, error = .serverError status body ∧ parseJson (utf8 body) = some value ∧
        errorKind value = some kind := by
  cases error with
  | serverError got body =>
      cases hvalue : parseJson (utf8 body) with
      | none => simp [isCodedServerError, codedServerError, hvalue]
      | some value =>
          cases hobject : errorObject value with
          | none => simp [isCodedServerError, codedServerError, errorKind, hvalue, hobject]
          | some object =>
              simp [isCodedServerError, codedServerError, errorKind, hvalue, hobject, and_comm,
                Option.isSome_filter, Option.any]
  | _ => simp [isCodedServerError, codedServerError]

/-- A text in the `error` object of a refusal. -/
def errorText (key : String) (value : Json) : Option String :=
  ((errorObject value).bind (Json.get? key)).bind Json.asStr?

theorem errorText_eq (key : String) (value : Json) :
    errorText key value =
      if (value.path? ["error"]).isSome then (value.path? ["error", key]).bind Json.asStr?
      else (value.path? ["data", "body", "error", key]).bind Json.asStr? := by
  cases herror : value.get? "error" with
  | some object => simp [errorText, errorObject, Json.path?, herror]
  | none =>
      cases hdata : value.get? "data" with
      | none => simp [errorText, errorObject, Json.path?, herror, hdata]
      | some data =>
          cases hbody : data.get? "body" with
          | none => simp [errorText, errorObject, Json.path?, herror, hdata, hbody]
          | some body => simp [errorText, errorObject, Json.path?, herror, hdata, hbody]

/-- Values that agree have the same texts in their `error` objects. -/
theorem errorText_congr {a b : Json} (h : a.Agrees b) (key : String) :
    errorText key a = errorText key b := by
  have hstr : ∀ keys, (a.path? keys).bind Json.asStr? = (b.path? keys).bind Json.asStr? := by
    intro keys
    simpa [Option.bind_map, Function.comp_def] using congrArg (fun x => x.bind id) (h keys)
  have hsome : (a.path? ["error"]).isSome = (b.path? ["error"]).isSome := by
    simpa using congrArg Option.isSome (h ["error"])
  rw [errorText_eq, errorText_eq, hsome, hstr, hstr]

theorem errorKind_congr {a b : Json} (h : a.Agrees b) : errorKind a = errorKind b :=
  errorText_congr h "kind"

theorem errorText_eq_some {key text : String} {value : Json} :
    errorText key value = some text ↔
      ∃ object, errorObject value = some object ∧ object.get? key = some (.str text) := by
  simp only [errorText, Option.bind_eq_some_iff, Json.asStr?_eq_some]
  constructor
  · rintro ⟨_, ⟨object, hobject, htext⟩, rfl⟩
    exact ⟨object, hobject, htext⟩
  · rintro ⟨object, hobject, htext⟩
    exact ⟨_, ⟨object, hobject, htext⟩, rfl⟩

/-- The longest start of at most `n` bytes that ends on a character boundary. -/
def takeUtf8 : ℕ → List Char → List Char
  | _, [] => []
  | n, c :: cs => if c.utf8Size ≤ n then c :: takeUtf8 (n - c.utf8Size) cs else []

/-- Cap the body of a refusal before it is stored in an error. -/
def truncateErrorBody (text : String) : String :=
  if 1024 < (utf8 text).length then
    String.ofList (takeUtf8 1024 text.toList) ++ "... [truncated]"
  else text

example : takeUtf8 4 ['a', 'é', '€'] = ['a', 'é'] := by decide

/-- What item writes make of a refusal: 412 is a stale revision, 423 a running key rotation. -/
def itemWriteError : ResolverError → ResolverError
  | .serverError status body =>
      if status = 412 then .stale
      else if status = 423 then .rotating
      else .serverError status body
  | other => other

end SerenSecrets
