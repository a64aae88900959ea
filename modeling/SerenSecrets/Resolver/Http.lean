import SerenSecrets.Lib.Except
import SerenSecrets.Resolver.Revision

set_option autoImplicit false

/-! # Replies of the service

`readReply` is how the client reads a reply: a refusal becomes an error, a success body is parsed and
taken out of its envelope. The gateway may wrap a reply once more, with the service's own status
inside (`unwrapMetered`).

What a reply says is defined without the client: it `Delivers` a payload or `Refuses` with a status,
each directly or in the metered envelope, or it is `Lost`. The lemmas connect the two: what the client
reads from a reply is the payload it delivers, and nothing is read from a refusal. -/

namespace SerenSecrets

/-! ## Reading -/

/-- An HTTP reply: no response at all, or a status with the chunks of its body, which may break
    off. -/
inductive HttpReply where
  | failed (kind : TransportErrorKind)
  | response (status : UInt16) (chunks : List Bytes) (broken : Option TransportErrorKind)

def maxGatewayBody : ℕ := 64 * 1024 * 1024

def maxErrorBody : ℕ := 64 * 1024

/-- Buffer the chunks of a body, starting from `buf`, as long as they fit in `cap` bytes. -/
def readCappedFrom (cap : ℕ) (buf : Bytes) :
    List Bytes → Option TransportErrorKind → ResolverResult Bytes
  | [], none => .ok buf
  | [], some kind => .error (.transport kind)
  | chunk :: chunks, broken =>
      if buf.length + chunk.length > cap then .error (.malformed "response body exceeded size cap")
      else readCappedFrom cap (buf ++ chunk) chunks broken

def readCapped (cap : ℕ) (chunks : List Bytes) (broken : Option TransportErrorKind) :
    ResolverResult Bytes :=
  readCappedFrom cap [] chunks broken

/-- The text of an error body, empty when it cannot be read. -/
def readCappedText (cap : ℕ) (chunks : List Bytes) (broken : Option TransportErrorKind) : String :=
  match readCapped cap chunks broken with
  | .ok bytes => fromUtf8Lossy bytes
  | .error _ => ""

def unwrapMetered (value : Json) : ResolverResult Json :=
  match value.get? "data" with
  | none => .error (.malformed "missing data")
  | some outer =>
      let unwrapped : Json :=
        let serviceResp := (outer.get? "body").getD outer
        (serviceResp.get? "data").getD serviceResp
      match (outer.get? "status").bind Json.asU64? with
      | none => .ok unwrapped
      | some status =>
          if 200 ≤ status ∧ status < 300 then .ok unwrapped
          else
            -- The envelope of an error may lack a body.
            let body := (outer.get? "body").getD outer
            match if status = 403 then approvalRequestIdFromValue body else none with
            | some requestId => .error (.approvalRequired requestId)
            | none => .error (.serverError (UInt16.ofNat status) (truncateErrorBody body.toText))

def isSuccess (status : UInt16) : Bool := 200 ≤ status && status < 300

/-- What the client makes of a reply. -/
def readReply (P : Parsers) (responseCap : ℕ) : HttpReply → ResolverResult Json
  | .failed kind => .error (.transport kind)
  | .response status chunks broken =>
      if isSuccess status then do
        let body ← readCapped responseCap chunks broken
        match P.json body with
        | some value => unwrapMetered value
        | none => .error (.malformed "response body")
      else
        let raw := readCappedText maxErrorBody chunks broken
        match if status = 403 then (P.json (utf8 raw)).bind approvalRequestIdFromValue else none with
        | some requestId => .error (.approvalRequired requestId)
        | none => .error (.serverError status (truncateErrorBody raw))

/-! ## What a reply says -/

/-- A value that is no envelope itself. -/
def Bare (value : Json) : Prop :=
  value.get? "status" = none ∧ value.get? "body" = none ∧ value.get? "data" = none

/-- A success with a payload, from the service directly or in the metered envelope. -/
inductive Delivers (P : Parsers) (payload : Json) : HttpReply → Prop
  | direct {status : UInt16} {chunks : List Bytes} {value : Json} (hstatus : isSuccess status)
      (hvalue : P.json chunks.flatten = some value) (hdata : value.get? "data" = some payload)
      (hbare : Bare payload) : Delivers P payload (.response status chunks none)
  | metered {status : UInt16} {chunks : List Bytes} {value outer body : Json} {inner : UInt16}
      (hstatus : isSuccess status) (hvalue : P.json chunks.flatten = some value)
      (houter : value.get? "data" = some outer)
      (hinner : (outer.get? "status").bind Json.asU64? = some inner.toNat)
      (hsuccess : isSuccess inner) (hbody : outer.get? "body" = some body)
      (hdata : body.get? "data" = some payload) : Delivers P payload (.response status chunks none)

/-- A refusal with the service's status and the JSON value of its error body, if it has one. -/
inductive Refuses (P : Parsers) (status : UInt16) (body : Option Json) : HttpReply → Prop
  | direct {chunks : List Bytes} {broken : Option TransportErrorKind} (hstatus : ¬ isSuccess status)
      (hbody : body = P.json (utf8 (fromUtf8Lossy chunks.flatten))) :
      Refuses P status body (.response status chunks broken)
  | metered {outerStatus : UInt16} {chunks : List Bytes} {value outer : Json}
      (houterStatus : isSuccess outerStatus) (hvalue : P.json chunks.flatten = some value)
      (houter : value.get? "data" = some outer)
      (hinner : (outer.get? "status").bind Json.asU64? = some status.toNat)
      (hstatus : ¬ isSuccess status) (hbody : body = some ((outer.get? "body").getD outer)) :
      Refuses P status body (.response outerStatus chunks none)

/-- No answer, or a success whose body broke off. -/
inductive Lost : HttpReply → Prop
  | failed {kind : TransportErrorKind} : Lost (.failed kind)
  | broken {status : UInt16} {chunks : List Bytes} {kind : TransportErrorKind}
      (hstatus : isSuccess status) : Lost (.response status chunks (some kind))

/-- A reply that says what `good` asks for, if it arrives. -/
def Answers (P : Parsers) (good : Json → Prop) (rep : HttpReply) : Prop :=
  Lost rep ∨ ∃ payload, Delivers P payload rep ∧ good payload

/-! ## What the client reads -/

theorem readCappedFrom_eq_ok {cap : ℕ} {chunks : List Bytes} {broken : Option TransportErrorKind}
    {buf out : Bytes} (h : readCappedFrom cap buf chunks broken = .ok out) :
    broken = none ∧ out = buf ++ chunks.flatten := by
  induction chunks generalizing buf with
  | nil =>
      cases broken with
      | none => exact ⟨rfl, by simpa [readCappedFrom] using h.symm⟩
      | some kind => exact absurd h (by simp [readCappedFrom])
  | cons chunk chunks ih =>
      unfold readCappedFrom at h
      split at h
      · exact absurd h (by simp)
      · obtain ⟨hbroken, hout⟩ := ih h
        refine ⟨hbroken, ?_⟩
        rw [hout, List.flatten_cons, List.append_assoc]

theorem readCappedFrom_ne_serverError {cap : ℕ} {chunks : List Bytes}
    {broken : Option TransportErrorKind} {buf : Bytes} (status : UInt16) (text : String) :
    readCappedFrom cap buf chunks broken ≠ .error (.serverError status text) := by
  induction chunks generalizing buf with
  | nil => cases broken <;> simp [readCappedFrom]
  | cons chunk chunks ih =>
      unfold readCappedFrom
      split
      · simp
      · exact ih

theorem isSuccess_iff {status : UInt16} :
    isSuccess status ↔ 200 ≤ status.toNat ∧ status.toNat < 300 := by
  simp [isSuccess, UInt16.le_iff_toNat_le, UInt16.lt_iff_toNat_lt]

/-- A success that the client reads has a complete JSON body. -/
theorem readReply_success {P : Parsers} {cap : ℕ} {status : UInt16} {chunks : List Bytes}
    {broken : Option TransportErrorKind} (hstatus : isSuccess status) {payload : Json}
    (h : readReply P cap (.response status chunks broken) = .ok payload) :
    broken = none ∧ ∃ value, P.json chunks.flatten = some value ∧
      unwrapMetered value = .ok payload := by
  simp only [readReply, hstatus, if_true, Except.bind_eq_ok] at h
  obtain ⟨body, hbody, hread⟩ := h
  obtain ⟨hbroken, rfl⟩ := readCappedFrom_eq_ok hbody
  rw [List.nil_append] at hread
  refine ⟨hbroken, ?_⟩
  cases hjson : P.json chunks.flatten with
  | none => exact absurd hread (by simp [hjson])
  | some value =>
      rw [hjson] at hread
      exact ⟨value, rfl, hread⟩

/-- An error status is never read as a success. -/
theorem readReply_refusal {P : Parsers} {cap : ℕ} {status : UInt16} {chunks : List Bytes}
    {broken : Option TransportErrorKind} (hstatus : ¬ isSuccess status) (payload : Json) :
    readReply P cap (.response status chunks broken) ≠ .ok payload := by
  simp only [readReply, if_neg hstatus]
  split <;> simp

/-- A success from which the client takes a server error has a complete JSON body. -/
theorem readReply_success_error {P : Parsers} {cap : ℕ} {status got : UInt16} {chunks : List Bytes}
    {broken : Option TransportErrorKind} (hstatus : isSuccess status) {text : String}
    (h : readReply P cap (.response status chunks broken) = .error (.serverError got text)) :
    broken = none ∧ ∃ value, P.json chunks.flatten = some value ∧
      unwrapMetered value = .error (.serverError got text) := by
  simp only [readReply, hstatus, if_true] at h
  cases hread : readCapped cap chunks broken with
  | error e =>
      rw [hread] at h
      obtain rfl : e = .serverError got text := Except.error.inj h
      exact absurd hread (readCappedFrom_ne_serverError got text)
  | ok bytes =>
      obtain ⟨hbroken, rfl⟩ := readCappedFrom_eq_ok hread
      rw [hread, List.nil_append] at h
      refine ⟨hbroken, ?_⟩
      cases hjson : P.json chunks.flatten with
      | none => exact absurd h (by simp [bind, Except.bind, hjson])
      | some value =>
          simp only [bind, Except.bind, hjson] at h
          exact ⟨value, rfl, h⟩

/-- The client takes the payload out of either envelope. -/
theorem Delivers.unwrap {P : Parsers} {payload : Json} {rep : HttpReply} (h : Delivers P payload rep) :
    ∃ status chunks value, rep = .response status chunks none ∧ isSuccess status ∧
      P.json chunks.flatten = some value ∧ unwrapMetered value = .ok payload := by
  cases h with
  | @direct status chunks value hstatus hvalue hdata hbare =>
      obtain ⟨hnostatus, hnobody, hnodata⟩ := hbare
      refine ⟨status, chunks, value, rfl, hstatus, hvalue, ?_⟩
      simp only [unwrapMetered, hdata, hnostatus, hnobody, hnodata, Option.bind_none,
        Option.getD_none]
  | @metered status chunks value outer body inner hstatus hvalue houter hinner hsuccess hbody hdata =>
      refine ⟨status, chunks, value, rfl, hstatus, hvalue, ?_⟩
      simp only [unwrapMetered, houter, hinner, isSuccess_iff.mp hsuccess, and_self, if_true, hbody,
        hdata, Option.getD_some]

/-- What the client reads from a reply is what the reply delivers. -/
theorem Delivers.eq_of_readReply {P : Parsers} {cap : ℕ} {payload read : Json} {rep : HttpReply}
    (h : Delivers P payload rep) (hread : readReply P cap rep = .ok read) : read = payload := by
  obtain ⟨status, chunks, value, rfl, hstatus, hvalue, hpayload⟩ := h.unwrap
  obtain ⟨-, value', hvalue', hunwrap⟩ := readReply_success hstatus hread
  cases hvalue.symm.trans hvalue'
  exact Except.ok.inj (hunwrap.symm.trans hpayload)

/-- Nothing is read from a refusal. -/
theorem Refuses.readReply_ne_ok {P : Parsers} {cap : ℕ} {status : UInt16} {body : Option Json}
    {rep : HttpReply} (h : Refuses P status body rep) (payload : Json) :
    readReply P cap rep ≠ .ok payload := by
  cases h with
  | direct hstatus _ => exact readReply_refusal hstatus payload
  | metered houterStatus hvalue houter hinner hstatus _ =>
      intro hread
      obtain ⟨-, value, hvalue', hunwrap⟩ := readReply_success houterStatus hread
      cases hvalue.symm.trans hvalue'
      rw [isSuccess_iff] at hstatus
      simp only [unwrapMetered, houter, hinner, hstatus, if_false] at hunwrap
      split at hunwrap <;> exact absurd hunwrap (by simp)

/-- Nothing is read from a lost reply. -/
theorem Lost.readReply_ne_ok {P : Parsers} {cap : ℕ} {rep : HttpReply} (h : Lost rep)
    (payload : Json) : readReply P cap rep ≠ .ok payload := by
  intro hread
  cases h with
  | failed => exact absurd hread (by simp [readReply])
  | broken hstatus =>
      obtain ⟨hbroken, -⟩ := readReply_success hstatus hread
      exact absurd hbroken (by simp)

theorem Lost.readReply_ne_serverError {P : Parsers} {cap : ℕ} {rep : HttpReply} (h : Lost rep)
    (status : UInt16) (text : String) :
    readReply P cap rep ≠ .error (.serverError status text) := by
  intro hread
  cases h with
  | failed => exact absurd hread (by simp [readReply])
  | broken hstatus =>
      obtain ⟨hbroken, -⟩ := readReply_success_error hstatus hread
      exact absurd hbroken (by simp)

/-- What is read from an answer is what the answer says. -/
theorem Answers.of_readReply {P : Parsers} {cap : ℕ} {good : Json → Prop} {rep : HttpReply}
    {value : Json} (h : Answers P good rep) (hread : readReply P cap rep = .ok value) :
    good value := by
  rcases h with hlost | ⟨payload, hdelivers, hgood⟩
  · exact absurd hread (hlost.readReply_ne_ok value)
  · rw [hdelivers.eq_of_readReply hread]
    exact hgood

/-! ## What the client makes of a refusal -/

/-- What the client relies on when it reads an error body that it may have cut or written again:
    nothing is no document, nor is a text that ends in the note of a cut, and a part of a document
    that is written and read again keeps its keys and strings. -/
structure Parsers.Faithful (P : Parsers) : Prop where
  json_nil : P.json [] = none
  json_cut : ∀ text : String, P.json (utf8 (text ++ "... [truncated]")) = none
  json_reread : ∀ (keys : List String) {bytes : Bytes} {value part again : Json},
    P.json bytes = some value → value.path? keys = some part →
      P.json (utf8 part.toText) = some again → again.Agrees part

/-- A body that can be read was not cut. -/
theorem Parsers.Faithful.truncateErrorBody_eq {P : Parsers} (hP : P.Faithful) {text : String}
    {value : Json} (h : P.json (utf8 (truncateErrorBody text)) = some value) :
    truncateErrorBody text = text := by
  unfold truncateErrorBody at h ⊢
  split at h
  · rw [hP.json_cut] at h
    cases h
  · rename_i hshort
    rw [if_neg hshort]

/-- An error text that can be read is the whole body. -/
theorem Parsers.Faithful.readCappedText_eq {P : Parsers} (hP : P.Faithful) {cap : ℕ}
    {chunks : List Bytes} {broken : Option TransportErrorKind} {value : Json}
    (h : P.json (utf8 (readCappedText cap chunks broken)) = some value) :
    readCappedText cap chunks broken = fromUtf8Lossy chunks.flatten := by
  unfold readCappedText at h ⊢
  cases hread : readCapped cap chunks broken with
  | ok bytes => rw [(readCappedFrom_eq_ok hread).2, List.nil_append]
  | error e =>
      rw [hread] at h
      have hnil : P.json (utf8 "") = none := hP.json_nil
      rw [hnil] at h
      cases h

/-- The error body of an envelope is a part of the document, also where it is written again: it
    stands below `data`, and below `body` if that is there. -/
theorem Parsers.Faithful.envelopeBody_agrees {P : Parsers} (hP : P.Faithful) {bytes : Bytes}
    {value outer again : Json} (hvalue : P.json bytes = some value)
    (houter : value.get? "data" = some outer)
    (hagain : P.json (utf8 ((outer.get? "body").getD outer).toText) = some again) :
    again.Agrees ((outer.get? "body").getD outer) := by
  cases hbody : outer.get? "body" with
  | some inner =>
      rw [hbody] at hagain
      exact hP.json_reread ["data", "body"] hvalue (by simp [Json.path?, houter, hbody]) hagain
  | none =>
      rw [hbody] at hagain
      exact hP.json_reread ["data"] hvalue (by simp [Json.path?, houter]) hagain

/-- The client's error has the status of the refusal and, as far as its body can be read, the same
    `kind`. -/
theorem Refuses.of_serverError {P : Parsers} (hP : P.Faithful) {cap : ℕ} {status got : UInt16}
    {body : Option Json} {rep : HttpReply} {text : String} (h : Refuses P status body rep)
    (hread : readReply P cap rep = .error (.serverError got text)) :
    got = status ∧ ∀ value, P.json (utf8 text) = some value →
      ∃ sent, body = some sent ∧ errorKind value = errorKind sent := by
  cases h with
  | direct hstatus hbody =>
      simp only [readReply, if_neg hstatus] at hread
      split at hread
      · exact absurd hread (by simp)
      · obtain ⟨rfl, rfl⟩ := ResolverError.serverError.inj (Except.error.inj hread)
        refine ⟨rfl, ?_⟩
        intro value hvalue
        rw [hP.truncateErrorBody_eq hvalue] at hvalue
        rw [hP.readCappedText_eq hvalue] at hvalue
        exact ⟨value, hbody.trans hvalue, rfl⟩
  | @metered _ chunks value outer houterStatus hvalue houter hinner hstatus hbody =>
      obtain ⟨-, value', hvalue', hunwrap⟩ := readReply_success_error houterStatus hread
      cases hvalue.symm.trans hvalue'
      rw [isSuccess_iff] at hstatus
      simp only [unwrapMetered, houter, hinner, hstatus, if_false] at hunwrap
      split at hunwrap
      · exact absurd hunwrap (by simp)
      · obtain ⟨hgot, rfl⟩ := ResolverError.serverError.inj (Except.error.inj hunwrap)
        refine ⟨by rw [← hgot, UInt16.ofNat_toNat], ?_⟩
        intro again hagain
        rw [hP.truncateErrorBody_eq hagain] at hagain
        exact ⟨_, hbody, errorKind_congr (hP.envelopeBody_agrees hvalue houter hagain)⟩

/-- An answer is no refusal. -/
theorem Answers.readReply_ne_serverError {P : Parsers} {cap : ℕ} {good : Json → Prop}
    {rep : HttpReply} (h : Answers P good rep) (status : UInt16) (text : String) :
    readReply P cap rep ≠ .error (.serverError status text) := by
  intro hread
  rcases h with hlost | ⟨payload, hdelivers, -⟩
  · exact hlost.readReply_ne_serverError status text hread
  · obtain ⟨outer, chunks, value, rfl, hstatus, hvalue, hpayload⟩ := hdelivers.unwrap
    obtain ⟨-, value', hvalue', hunwrap⟩ := readReply_success_error hstatus hread
    cases hvalue.symm.trans hvalue'
    exact absurd (hpayload.symm.trans hunwrap) (by simp)

/-! ## A reader of compact texts -/

/-- The reader that knows exactly the compact texts, and no calendar. -/
noncomputable def Parsers.compact : Parsers where
  json bytes := open Classical in
    if h : ∃ value : Json, value.write = bytes then some h.choose else none
  timestamp _ := true

@[simp] theorem Parsers.compact_json_write (value : Json) :
    Parsers.compact.json value.write = some value := by
  have h : ∃ value' : Json, value'.write = value.write := ⟨value, rfl⟩
  simp only [compact, dif_pos h]
  exact congrArg some (Json.write_injective h.choose_spec)

theorem Parsers.write_of_compact {bytes : Bytes} {value : Json}
    (h : Parsers.compact.json bytes = some value) : value.write = bytes := by
  simp only [compact] at h
  split at h
  · rename_i hwritten
    rw [← Option.some.inj h]
    exact hwritten.choose_spec
  · exact absurd h (by simp)

theorem Parsers.compact_faithful : Parsers.compact.Faithful where
  json_nil := by
    by_contra h
    obtain ⟨value, hvalue⟩ := Option.ne_none_iff_exists'.mp h
    obtain ⟨b, t, hwrite, -⟩ := value.write_head
    rw [write_of_compact hvalue] at hwrite
    exact absurd hwrite (by simp)
  json_cut := by
    intro text
    by_contra h
    obtain ⟨value, hvalue⟩ := Option.ne_none_iff_exists'.mp h
    -- The note ends in `d]`, and no compact text does.
    have hnote : utf8 "... [truncated]" = utf8 "... [truncate" ++ [0x64, 0x5D] := by decide
    have hwrite := write_of_compact hvalue
    rw [utf8_append, hnote, ← List.append_assoc] at hwrite
    exact value.write_ne_append _ hwrite
  json_reread := by
    intro keys bytes value part again _ _ hagain
    have hwrite := write_of_compact hagain
    unfold Json.toText at hwrite
    cases htext : fromUtf8? part.write with
    | some text =>
        rw [htext, Option.getD_some, utf8_of_fromUtf8? htext] at hwrite
        rw [Json.write_injective hwrite]
        exact fun _ => rfl
    | none =>
        obtain ⟨b, t, hhead, -⟩ := again.write_head
        rw [htext, hhead] at hwrite
        exact absurd hwrite (by simp [utf8])

/-- A payload in the service's own envelope. -/
def directReply (payload : Json) : HttpReply :=
  .response 200 [(Json.obj [("data", payload)]).write] none

/-- A reader that takes the reply for what it is gets the payload. -/
theorem delivers_directReply_of_json {P : Parsers} {payload : Json} (hbare : Bare payload)
    (hjson : P.json (Json.obj [("data", payload)]).write = some (.obj [("data", payload)])) :
    Delivers P payload (directReply payload) :=
  .direct rfl (by rw [List.flatten_singleton, hjson]) rfl hbare

theorem readReply_directReply_of_json {P : Parsers} {payload : Json} (hbare : Bare payload)
    (hjson : P.json (Json.obj [("data", payload)]).write = some (.obj [("data", payload)]))
    {cap : ℕ} (hcap : (Json.obj [("data", payload)]).write.length ≤ cap) :
    readReply P cap (directReply payload) = .ok payload := by
  obtain ⟨hnostatus, hnobody, hnodata⟩ := hbare
  have hread : readCapped cap [(Json.obj [("data", payload)]).write] none
      = .ok (Json.obj [("data", payload)]).write := by
    simp only [readCapped, readCappedFrom, List.length_nil, Nat.zero_add, Nat.not_lt.mpr hcap,
      if_false, List.nil_append]
  have hdata : (Json.obj [("data", payload)]).get? "data" = some payload := rfl
  have hstatus : isSuccess 200 = true := rfl
  simp only [readReply, directReply, hstatus, if_true, hread, bind, Except.bind, hjson,
    unwrapMetered, hdata, hnostatus, hnobody, hnodata, Option.bind_none, Option.getD_none]

theorem delivers_directReply {payload : Json} (hbare : Bare payload) :
    Delivers .compact payload (directReply payload) :=
  delivers_directReply_of_json hbare (Parsers.compact_json_write _)

theorem readReply_directReply {payload : Json} (hbare : Bare payload) {cap : ℕ}
    (hcap : (Json.obj [("data", payload)]).write.length ≤ cap) :
    readReply .compact cap (directReply payload) = .ok payload :=
  readReply_directReply_of_json hbare (Parsers.compact_json_write _) hcap

end SerenSecrets
