import SerenSecrets.Resolver.Http

set_option autoImplicit false

/-! # What is left of the details of a refusal

A refusal may say why it was made (`kind`) and when to try again (`retry_after_ms`). The client keeps
the body of a refusal as a text of at most 1024 bytes, and `retryAfter` and `isCodedServerError` read
that text again. A longer body is cut and is then no JSON any more, so all its details are lost; a
shorter one keeps them. Of these, `retryAfter` reads one too many: an `error` that is an array of two
numbers (`errorDetails_survive_iff`). -/

namespace SerenSecrets

/-! ## The delay of a rate limit -/

structure RetryMetadata where
  code : ℤ
  retryAfterMs : ℕ

def RetryMetadata.ofJson (value : Json) : Option RetryMetadata := do
  let fields ← value.record? ["code", "retry_after_ms"]
  let code ← Json.field fields "code" (Json.asInt? 0 (2 ^ 16 - 1))
  let retryAfterMs ← Json.field fields "retry_after_ms" Json.asU64?
  return { code, retryAfterMs }

/-- The delay that the service asks for, in milliseconds. -/
def retryAfter (parseJson : Bytes → Option Json) : ResolverError → Option ℕ
  | .serverError status body =>
      if status = 429 then do
        let value ← parseJson (utf8 body)
        let error ← errorObject value
        let metadata ← RetryMetadata.ofJson error
        if metadata.code = 429 ∧ 0 < metadata.retryAfterMs then some metadata.retryAfterMs else none
      else none
  | _ => none

/-- The error object asks for a delay: a code of its own, and a positive number of milliseconds. -/
def AsksDelay (error : Json) (ms : ℕ) : Prop :=
  error.get? "code" = some (.int 429) ∧ error.get? "retry_after_ms" = some (.int ms) ∧
    0 < ms ∧ ms < 2 ^ 64

theorem retryMetadata_eq_some {error : Json} {ms : ℕ} :
    RetryMetadata.ofJson error = some ⟨429, ms⟩ ↔
      ∃ fields, error.record? ["code", "retry_after_ms"] = some fields ∧
        fields "code" = some (.int 429) ∧ fields "retry_after_ms" = some (.int ms) ∧
        ms < 2 ^ 64 := by
  simp only [RetryMetadata.ofJson, Json.field, Option.bind_eq_bind, Option.bind_eq_some_iff,
    Option.pure_def, Option.some.injEq, RetryMetadata.mk.injEq, Json.asU64?_eq_some,
    Json.asInt?_eq_some]
  constructor
  · rintro ⟨fields, hfields, code, ⟨_, hcode, rfl, -⟩, n, ⟨_, hms, rfl, hn⟩, rfl, rfl⟩
    exact ⟨fields, hfields, hcode, hms, hn⟩
  · rintro ⟨fields, hfields, hcode, hms, hn⟩
    exact ⟨fields, hfields, 429, ⟨_, hcode, rfl, by decide⟩, ms, ⟨_, hms, rfl, hn⟩, rfl, rfl⟩

/-- The metadata is read from an object by name, and from an array of two by position. -/
theorem retryMetadata_iff {error : Json} {ms : ℕ} :
    RetryMetadata.ofJson error = some ⟨429, ms⟩ ∧ 0 < ms ↔
      AsksDelay error ms ∨ error = .arr [.int 429, .int ms] ∧ 0 < ms ∧ ms < 2 ^ 64 := by
  rw [retryMetadata_eq_some]
  cases error with
  | obj members =>
      simp only [Json.record?, Option.some.injEq, exists_eq_left', AsksDelay, reduceCtorEq,
        false_and, or_false]
      constructor
      · rintro ⟨⟨hcode, hms, hn⟩, hpos⟩
        exact ⟨hcode, hms, hpos, hn⟩
      · rintro ⟨hcode, hms, hpos, hn⟩
        exact ⟨⟨hcode, hms, hn⟩, hpos⟩
  | arr elems =>
      simp only [AsksDelay, Json.get?, reduceCtorEq, false_and, false_or, Json.arr.injEq]
      constructor
      · rintro ⟨⟨fields, hfields, hcode, hms, hn⟩, hpos⟩
        rw [Json.record?, Option.ite_none_right_eq_some] at hfields
        obtain ⟨hlength, hfields⟩ := hfields
        obtain rfl := Option.some.inj hfields
        cases elems with
        | nil => cases hcode
        | cons first elems =>
            cases elems with
            | nil => cases hms
            | cons second elems =>
                cases elems with
                | nil =>
                    cases hcode
                    cases hms
                    exact ⟨rfl, hpos, hn⟩
                | cons third elems => simp at hlength
      · rintro ⟨rfl, hpos, hn⟩
        exact ⟨⟨_, rfl, rfl, rfl, hn⟩, hpos⟩
  | _ => simp [Json.record?, AsksDelay, Json.get?]

/-! ## Reading the details from the error -/

/-- The details that a refusal gives are read from the error as they stand in the body. -/
structure DetailsSurvive (P : Parsers) (status : UInt16) (body : Json) (error : ResolverError) :
    Prop where
  delay : ∀ ms, retryAfter P.json error = some ms ↔
    status = 429 ∧ ∃ object, errorObject body = some object ∧ AsksDelay object ms
  kind : ∀ got kind, isCodedServerError P.json error got kind = true ↔
    got = status ∧ ∃ object, errorObject body = some object ∧ object.get? "kind" = some (.str kind)

theorem retryAfter_eq_some {parseJson : Bytes → Option Json} {status : UInt16} {text : String}
    {ms : ℕ} :
    retryAfter parseJson (.serverError status text) = some ms ↔
      status = 429 ∧ ∃ value object, parseJson (utf8 text) = some value ∧
        errorObject value = some object ∧
        (AsksDelay object ms ∨ object = .arr [.int 429, .int ms] ∧ 0 < ms ∧ ms < 2 ^ 64) := by
  simp only [retryAfter, Option.ite_none_right_eq_some, Option.bind_eq_bind,
    Option.bind_eq_some_iff, Option.some.injEq, ← retryMetadata_iff]
  constructor
  · rintro ⟨hstatus, value, hvalue, object, hobject, ⟨code, n⟩, hmetadata, ⟨rfl, hpos⟩, rfl⟩
    exact ⟨hstatus, value, object, hvalue, hobject, hmetadata, hpos⟩
  · rintro ⟨hstatus, value, object, hvalue, hobject, hmetadata, hpos⟩
    exact ⟨hstatus, value, hvalue, object, hobject, _, hmetadata, ⟨rfl, hpos⟩, rfl⟩

theorem errorKind_eq_some {body : Json} {kind : String} :
    errorKind body = some kind ↔
      ∃ object, errorObject body = some object ∧ object.get? "kind" = some (.str kind) :=
  errorText_eq_some

section Survive

variable {P : Parsers} {status : UInt16} {body : Json} {text : String}

/-- A text that is read as the body keeps the kind, and keeps the delay unless it adds one. -/
theorem detailsSurvive_of_json (hbody : P.json (utf8 text) = some body) :
    DetailsSurvive P status body (.serverError status text) ↔
      (status = 429 → ∀ ms : ℕ, 0 < ms → ms < 2 ^ 64 →
        errorObject body ≠ some (.arr [.int 429, .int ms])) := by
  constructor
  · intro hsurvive hstatus ms hpos hms harray
    have hread : retryAfter P.json (.serverError status text) = some ms :=
      retryAfter_eq_some.mpr ⟨hstatus, body, _, hbody, harray, .inr ⟨rfl, hpos, hms⟩⟩
    obtain ⟨-, object, hobject, hcode, -⟩ := (hsurvive.delay ms).mp hread
    obtain rfl := Option.some.inj (harray.symm.trans hobject)
    cases hcode
  · intro hno
    refine ⟨?_, ?_⟩
    · intro ms
      rw [retryAfter_eq_some]
      constructor
      · rintro ⟨hstatus, value, object, hvalue, hobject, hasks | ⟨rfl, hpos, hms⟩⟩
        · cases hbody.symm.trans hvalue
          exact ⟨hstatus, object, hobject, hasks⟩
        · cases hbody.symm.trans hvalue
          exact absurd hobject (hno hstatus ms hpos hms)
      · rintro ⟨hstatus, object, hobject, hasks⟩
        exact ⟨hstatus, body, object, hbody, hobject, .inl hasks⟩
    · intro got kind
      rw [isCodedServerError_iff, ← errorKind_eq_some]
      constructor
      · rintro ⟨_, value, herror, hvalue, hkind⟩
        obtain ⟨rfl, rfl⟩ := ResolverError.serverError.inj herror
        cases hbody.symm.trans hvalue
        exact ⟨rfl, hkind⟩
      · rintro ⟨rfl, hkind⟩
        exact ⟨text, body, rfl, hbody, hkind⟩

/-- A text that cannot be read keeps nothing. -/
theorem detailsSurvive_of_unreadable (hnone : P.json (utf8 text) = none) :
    DetailsSurvive P status body (.serverError status text) ↔
      ∀ object, errorObject body = some object → (∀ kind, object.get? "kind" ≠ some (.str kind)) ∧
        (status = 429 → ∀ ms, ¬ AsksDelay object ms) := by
  have hdelay : ∀ ms, retryAfter P.json (.serverError status text) ≠ some ms := by
    intro ms hread
    obtain ⟨-, value, object, hvalue, -⟩ := retryAfter_eq_some.mp hread
    cases hnone.symm.trans hvalue
  have hkind : ∀ got kind,
      isCodedServerError P.json (.serverError status text) got kind ≠ true := by
    intro got kind hcoded
    obtain ⟨_, value, herror, hvalue, -⟩ := isCodedServerError_iff.mp hcoded
    obtain ⟨rfl, rfl⟩ := ResolverError.serverError.inj herror
    cases hnone.symm.trans hvalue
  constructor
  · intro hsurvive object hobject
    refine ⟨?_, ?_⟩
    · intro kind hhas
      exact hkind status kind ((hsurvive.kind status kind).mpr ⟨rfl, object, hobject, hhas⟩)
    · intro hstatus ms hasks
      exact hdelay ms ((hsurvive.delay ms).mpr ⟨hstatus, object, hobject, hasks⟩)
  · intro hnothing
    refine ⟨?_, ?_⟩
    · intro ms
      refine iff_of_false (hdelay ms) ?_
      rintro ⟨hstatus, object, hobject, hasks⟩
      exact (hnothing object hobject).2 hstatus ms hasks
    · intro got kind
      refine iff_of_false (hkind got kind) ?_
      rintro ⟨-, object, hobject, hhas⟩
      exact (hnothing object hobject).1 kind hhas

end Survive

/-! ## Replies -/

theorem readCappedFrom_of_length {cap : ℕ} {chunks : List Bytes} {buf : Bytes}
    (h : buf.length + chunks.flatten.length ≤ cap) :
    readCappedFrom cap buf chunks none = .ok (buf ++ chunks.flatten) := by
  induction chunks generalizing buf with
  | nil => simp [readCappedFrom]
  | cons chunk chunks ih =>
      rw [List.flatten_cons, List.length_append] at h
      have hfits : ¬ buf.length + chunk.length > cap := by omega
      rw [readCappedFrom, if_neg hfits, ih (by rw [List.length_append]; omega),
        List.flatten_cons, List.append_assoc]

/-- An error body of valid UTF-8 within the cap is read as it is. -/
theorem readCappedText_of_utf8 {chunks : List Bytes} {text : String} {cap : ℕ}
    (htext : chunks.flatten = utf8 text) (hcap : (utf8 text).length ≤ cap) :
    readCappedText cap chunks none = text := by
  have hread : readCapped cap chunks none = .ok (utf8 text) := by
    rw [readCapped, readCappedFrom_of_length, htext, List.nil_append]
    simpa [htext] using hcap
  simp only [readCappedText, hread, fromUtf8Lossy, fromUtf8?_utf8]

/-- A refusal that came with a JSON text of at most 64 KiB, and asks for no approval. -/
structure RefusalWith (P : Parsers) (status : UInt16) (text : String) (body : Json)
    (rep : HttpReply) : Prop where
  refusal : ¬ isSuccess status
  reply : ∃ chunks, rep = .response status chunks none ∧ chunks.flatten = utf8 text
  size : (utf8 text).length ≤ maxErrorBody
  json : P.json (utf8 text) = some body
  noApproval : status = 403 → approvalRequestIdFromValue body = none

theorem RefusalWith.readReply_eq {P : Parsers} {status : UInt16} {text : String} {body : Json}
    {rep : HttpReply} (h : RefusalWith P status text body rep) (cap : ℕ) :
    readReply P cap rep = .error (.serverError status (truncateErrorBody text)) := by
  obtain ⟨chunks, rfl, htext⟩ := h.reply
  simp only [readReply, if_neg h.refusal, readCappedText_of_utf8 htext h.size, h.json,
    Option.bind_some]
  by_cases h403 : status = 403
  · rw [if_pos h403, h.noApproval h403]
  · rw [if_neg h403]

/-- **When the details of a refusal survive.** They do if and only if the body has at most 1024 bytes,
    and for a 429 its `error` is not an array that reads as a delay; or the body is longer and has no
    details to lose. -/
theorem errorDetails_survive_iff {P : Parsers} (hP : P.Faithful) {status : UInt16} {text : String}
    {body : Json} {rep : HttpReply} (hrefusal : RefusalWith P status text body rep) (cap : ℕ) :
    ∃ error, readReply P cap rep = .error error ∧ (DetailsSurvive P status body error ↔
      (utf8 text).length ≤ 1024 ∧ (status = 429 → ∀ ms : ℕ, 0 < ms → ms < 2 ^ 64 →
        errorObject body ≠ some (.arr [.int 429, .int ms])) ∨
      1024 < (utf8 text).length ∧ ∀ object, errorObject body = some object →
        (∀ kind, object.get? "kind" ≠ some (.str kind)) ∧
        (status = 429 → ∀ ms, ¬ AsksDelay object ms)) := by
  refine ⟨_, hrefusal.readReply_eq cap, ?_⟩
  by_cases hlong : 1024 < (utf8 text).length
  · have hnone : P.json (utf8 (truncateErrorBody text)) = none := by
      rw [truncateErrorBody, if_pos hlong]
      exact hP.json_cut _
    rw [detailsSurvive_of_unreadable hnone]
    simp only [hlong, Nat.not_le.mpr hlong, false_and, true_and, false_or]
  · have hsame : truncateErrorBody text = text := if_neg hlong
    rw [hsame, detailsSurvive_of_json hrefusal.json]
    simp only [hlong, Nat.not_lt.mp hlong, false_and, true_and, or_false]

/-! ## A long message -/

/-- A rate limit with a message of the given length, as the service sends it. -/
def rateLimitBody (length : ℕ) : Json :=
  .obj [("error", .obj [("code", .int 429), ("kind", .str "rate_limited"),
    ("message", .str (String.ofList (.replicate length 'x'))), ("retry_after_ms", .int 1251)])]

/-- Its text. -/
def rateLimitText (length : ℕ) : String :=
  "\x7b\"error\":\x7b\"code\":429,\"kind\":\"rate_limited\",\"message\":\""
    ++ String.ofList (.replicate length 'x') ++ "\",\"retry_after_ms\":1251\x7d\x7d"

theorem utf8_replicate (length : ℕ) :
    utf8 (String.ofList (.replicate length 'x')) = .replicate length 0x78 := by
  rw [utf8_ofList_eq_flatMap, List.flatMap_replicate]
  induction length with
  | zero => rfl
  | succ n ih => rw [List.replicate_succ, List.flatten_cons, ih]; rfl

theorem escape_replicate (length : ℕ) :
    (List.replicate length (0x78 : UInt8)).flatMap escapeByte = .replicate length 0x78 := by
  induction length with
  | zero => rfl
  | succ n ih => rw [List.replicate_succ, List.flatMap_cons, ih]; rfl

theorem writeString_replicate (length : ℕ) :
    writeString (String.ofList (.replicate length 'x'))
      = 0x22 :: (.replicate length 0x78 ++ [0x22]) := by
  rw [writeString, utf8_replicate, escape_replicate]

theorem utf8_rateLimit_start :
    utf8 "\x7b\"error\":\x7b\"code\":429,\"kind\":\"rate_limited\",\"message\":\""
      = 0x7B :: (writeString "error" ++ 0x3A :: 0x7B :: (writeString "code" ++ 0x3A ::
        ((Json.int 429).write ++ 0x2C :: (writeString "kind" ++ 0x3A :: (writeString "rate_limited"
        ++ 0x2C :: (writeString "message" ++ [0x3A, 0x22])))))) := by
  decide +kernel

theorem utf8_rateLimit_end :
    utf8 "\",\"retry_after_ms\":1251\x7d\x7d"
      = 0x22 :: 0x2C :: (writeString "retry_after_ms" ++ 0x3A :: ((Json.int 1251).write
        ++ [0x7D, 0x7D])) := by
  decide +kernel

theorem utf8_rateLimitText (length : ℕ) :
    utf8 (rateLimitText length) = (rateLimitBody length).write := by
  unfold rateLimitText rateLimitBody
  simp only [Json.write, Json.writeMembers, writeString_replicate]
  rw [utf8_append, utf8_append, utf8_replicate, utf8_rateLimit_start, utf8_rateLimit_end]
  simp

theorem length_rateLimitText (length : ℕ) :
    (utf8 (rateLimitText length)).length = length + 79 := by
  have hstart : (utf8
      "\x7b\"error\":\x7b\"code\":429,\"kind\":\"rate_limited\",\"message\":\"").length
      = 54 := by decide +kernel
  have hend : (utf8 "\",\"retry_after_ms\":1251\x7d\x7d").length = 25 := by decide +kernel
  unfold rateLimitText
  rw [utf8_append, utf8_append, utf8_replicate, List.length_append, List.length_append,
    List.length_replicate, hstart, hend]
  omega

theorem refusalWith_rateLimit {length : ℕ} (h : length ≤ 65000) :
    RefusalWith .compact 429 (rateLimitText length) (rateLimitBody length)
      (.response 429 [(rateLimitBody length).write] none) := by
  refine ⟨by decide, ⟨_, rfl, ?_⟩, ?_, ?_, ?_⟩
  · rw [List.flatten_singleton, utf8_rateLimitText]
  · rw [length_rateLimitText, maxErrorBody]
    omega
  · rw [utf8_rateLimitText, Parsers.compact_json_write]
  · intro h403
    cases h403

theorem asksDelay_rateLimit (length : ℕ) :
    ∃ object, errorObject (rateLimitBody length) = some object ∧ AsksDelay object 1251 :=
  ⟨_, rfl, rfl, rfl, by decide, by decide⟩

/-- The delay of a rate limit with a short message. -/
theorem errorDetails_survive_short :
    ∃ error, readReply .compact maxGatewayBody (.response 429 [(rateLimitBody 40).write] none)
        = .error error ∧ DetailsSurvive .compact 429 (rateLimitBody 40) error := by
  obtain ⟨error, herror, hsurvive⟩ := errorDetails_survive_iff Parsers.compact_faithful
    (@refusalWith_rateLimit 40 (by decide)) maxGatewayBody
  refine ⟨error, herror, hsurvive.mpr (.inl ⟨?_, ?_⟩)⟩
  · rw [length_rateLimitText]
    decide
  · intro hstatus ms hpos hms hobject
    cases hobject

/-- **A delay that is lost**: the service asks to wait for 1251 ms, with a message of 1000 bytes, and
    the client knows of no delay. -/
theorem errorDetails_not_survive :
    ¬ ∀ (P : Parsers), P.Faithful → ∀ (status : UInt16) (text : String) (body : Json)
      (rep : HttpReply) (cap : ℕ), RefusalWith P status text body rep →
      ∃ error, readReply P cap rep = .error error ∧ DetailsSurvive P status body error := by
  intro hclaim
  have hrefusal := @refusalWith_rateLimit 1000 (by decide)
  obtain ⟨error, herror, hsurvive⟩ := hclaim .compact Parsers.compact_faithful 429 _ _ _
    maxGatewayBody hrefusal
  rw [hrefusal.readReply_eq] at herror
  obtain rfl := Except.error.inj herror
  have hlong : 1024 < (utf8 (rateLimitText 1000)).length := by
    rw [length_rateLimitText]
    decide
  rw [truncateErrorBody, if_pos hlong,
    detailsSurvive_of_unreadable (Parsers.compact_faithful.json_cut _)] at hsurvive
  obtain ⟨object, hobject, hasks⟩ := asksDelay_rateLimit 1000
  exact (hsurvive object hobject).2 rfl 1251 hasks

end SerenSecrets
