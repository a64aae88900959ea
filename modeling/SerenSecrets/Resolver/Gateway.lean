import SerenSecrets.Lib.Client
import SerenSecrets.Resolver.Http
import SerenSecrets.Resolver.Items
import SerenSecrets.Resolver.SidecarGuard
import Mathlib.Data.List.DropRight

set_option autoImplicit false

/-! # Requests through the gateway

Every request carries the bearer token, so where it may go is decided before it is sent. A client in
the host's environment needs HTTPS, or plain HTTP to the loopback interface; a direct client may use
plain HTTP, but no proxy and no redirect. The helpers that run before there is a client
(`gatewayGet`, `gatewayPost`, `gatewayDelete`) take the rule of the host's environment and check it
at every request. Parsing a URL is up to a parameter.

Whatever program is put together from these helpers, all its requests are `Protected`
(`meets_gatewayCall`). -/

namespace SerenSecrets

/-! ## Endpoints -/

/-- The parts of a URL that are looked at. -/
structure Url where
  scheme : String
  host : Option String
  username : String
  password : Option String
  query : Option String
  fragment : Option String

abbrev UrlParser := String → Option Url

/-- Direct connections ignore host proxies and reject redirects. -/
inductive ResolverNetwork where
  | hostEnvironment
  | direct
  deriving DecidableEq

/-- How an HTTP client was built. -/
structure HttpClient where
  hostProxy : Bool
  followsRedirects : Bool

section Endpoints

variable (parse : UrlParser)

def parseBaseUrl (baseUrl : String) : ResolverResult Url :=
  match parse baseUrl with
  | some url => .ok url
  | none => .error (.invalidUri "base_url is not a valid URL")

def validateDirectUrl (baseUrl : String) : ResolverResult Unit := do
  let url ← parseBaseUrl parse baseUrl
  rejectIf (¬ (url.scheme = "http" ∨ url.scheme = "https") ∨ url.host.isNone ∨ url.username ≠ "" ∨
      url.password.isSome ∨ url.query.isSome ∨ url.fragment.isSome)
    (.invalidUri "base_url must be an HTTP(S) endpoint without credentials, query, or fragment")

def validateBaseUrl (baseUrl : String) : ResolverResult Unit := do
  let url ← parseBaseUrl parse baseUrl
  if url.scheme = "https" then .ok ()
  else if url.scheme = "http" then
    rejectIf (¬ url.host.any Sidecar.isLoopbackHost)
      (.invalidUri "base_url must use https for non-loopback hosts")
  else .error (.invalidUri "base_url scheme must be http(s)")

def ResolverNetwork.validateEndpoint (network : ResolverNetwork) (baseUrl : String) :
    ResolverResult Unit :=
  match network with
  | hostEnvironment => validateBaseUrl parse baseUrl
  | direct => validateDirectUrl parse baseUrl

def networkClient (baseUrl : String) (network : ResolverNetwork) : ResolverResult HttpClient :=
  match network with
  | .hostEnvironment => do
      validateBaseUrl parse baseUrl
      return ⟨true, true⟩
  | .direct => do
      validateDirectUrl parse baseUrl
      return ⟨false, false⟩

end Endpoints

/-- `s.trim_end_matches('/')`. -/
def trimEndSlashes (s : String) : String := String.ofList (s.toList.rdropWhile (· == '/'))

/-- The URL is HTTPS, or plain HTTP to the loopback interface. -/
def Url.Protected (url : Url) : Prop :=
  url.scheme = "https" ∨
    url.scheme = "http" ∧ ∃ host, url.host = some host ∧ Sidecar.isLoopbackHost host = true

theorem parseBaseUrl_eq_ok {parse : UrlParser} {baseUrl : String} {url : Url} :
    parseBaseUrl parse baseUrl = .ok url ↔ parse baseUrl = some url := by
  unfold parseBaseUrl
  cases parse baseUrl <;> simp

theorem validateBaseUrl_eq_ok {parse : UrlParser} {baseUrl : String} :
    validateBaseUrl parse baseUrl = .ok () ↔ ∃ url, parse baseUrl = some url ∧ url.Protected := by
  simp only [validateBaseUrl, Except.bind_eq_ok, parseBaseUrl_eq_ok, Url.Protected]
  refine exists_congr fun url => and_congr_right fun _ => ?_
  split_ifs with hhttps hhttp
  · simp [hhttps]
  · cases url.host <;> simp [hhttp]
  · simp [hhttps, hhttp]

/-! ## Requests -/

/-- A request with the bearer token. -/
structure GatewayRequest where
  method : Method
  baseUrl : String
  path : String
  bearer : String
  body : Option Json

def GatewayRequest.url (req : GatewayRequest) : String := req.baseUrl ++ req.path

/-- What the helpers make of a reply. A refusal is always a server error here, also one that names an
    approval request. -/
def readGatewayReply (P : Parsers) : HttpReply → ResolverResult Json
  | .failed kind => .error (.transport kind)
  | .response status chunks broken =>
      if isSuccess status then do
        let body ← readCapped maxGatewayBody chunks broken
        match P.json body with
        | some value => unwrapMetered value
        | none => .error (.malformed "response body")
      else
        .error (.serverError status (truncateErrorBody (readCappedText maxErrorBody chunks broken)))

abbrev GatewayClient := Client GatewayRequest HttpReply ResolverError

section Gateway

variable (parse : UrlParser) (P : Parsers)

def gatewayCall (method : Method) (baseUrl bearer path : String) (body : Option Json) :
    GatewayClient Json := do
  .ofExcept (validateBaseUrl parse baseUrl)
  Client.ask (readGatewayReply P) ⟨method, baseUrl, path, bearer, body⟩

def gatewayGet (baseUrl bearer path : String) : GatewayClient Json :=
  gatewayCall parse P .get baseUrl bearer path none

def gatewayPost (baseUrl bearer path : String) (body : Json) : GatewayClient Json :=
  gatewayCall parse P .post baseUrl bearer path (some body)

def gatewayDelete (baseUrl bearer path : String) : GatewayClient Json :=
  gatewayCall parse P .delete baseUrl bearer path none

end Gateway

/-- The request goes below an endpoint that is HTTPS or local, with the caller's token. -/
def GatewayRequest.Protected (parse : UrlParser) (baseUrl bearer : String) (req : GatewayRequest) :
    Prop :=
  req.baseUrl = baseUrl ∧ req.bearer = bearer ∧ ∃ url, parse baseUrl = some url ∧ url.Protected

/-- The endpoint is refused and nothing is sent, or one request is, which is `good`, and the result is
    read from its reply. -/
def AsksOnce (parse : UrlParser) (baseUrl : String) {α : Type} (good : GatewayRequest → Prop)
    (read : HttpReply → ResolverResult α) (sent : List (GatewayRequest × HttpReply))
    (result : ResolverResult α) : Prop :=
  (∃ e, validateBaseUrl parse baseUrl = .error e ∧ result = .error e ∧ sent = []) ∨
    ∃ req rep, good req ∧ sent = [(req, rep)] ∧ result = read rep

section Lemmas

variable {parse : UrlParser} {P : Parsers} {baseUrl bearer path : String} {method : Method}
  {body : Option Json}

/-- A helper reads a payload exactly if the vault client would. -/
theorem readGatewayReply_eq_ok {rep : HttpReply} {payload : Json} :
    readGatewayReply P rep = .ok payload ↔ readReply P maxGatewayBody rep = .ok payload := by
  cases rep with
  | failed kind => rfl
  | response status chunks broken =>
      by_cases hstatus : isSuccess status = true
      · have hsame : readGatewayReply P (.response status chunks broken)
            = readReply P maxGatewayBody (.response status chunks broken) :=
          (if_pos hstatus).trans (if_pos hstatus).symm
        rw [hsame]
      · refine iff_of_false ?_ (readReply_refusal hstatus payload)
        simp [readGatewayReply, hstatus]

section Executions

variable {σ α : Type} {handle : σ → GatewayRequest → HttpReply → σ → Prop} {foreign : σ → σ → Prop}
  {s t u : σ} {es : List (Event σ GatewayRequest HttpReply)} {f : Json → GatewayClient α}

theorem exec_gatewayCall_bind {rep : HttpReply} {payload : Json}
    {result : ResolverResult α} (hurl : validateBaseUrl parse baseUrl = .ok ())
    (hserved : handle s ⟨method, baseUrl, path, bearer, body⟩ rep t)
    (hread : readReply P maxGatewayBody rep = .ok payload)
    (hrest : Exec handle foreign (f payload) t es result u) :
    Exec handle foreign (gatewayCall parse P method baseUrl bearer path body >>= f) s
      (.served s ⟨method, baseUrl, path, bearer, body⟩ rep t :: es) result u := by
  rw [gatewayCall, hurl]
  exact .ask_bind hserved (readGatewayReply_eq_ok.mpr hread) hrest

/-- A helper that succeeds has asked an endpoint that it may ask. -/
theorem exec_gatewayCall_bind_ok {a : α}
    (h : Exec handle foreign (gatewayCall parse P method baseUrl bearer path body >>= f) s es (.ok a)
      u) :
    validateBaseUrl parse baseUrl = .ok () ∧
    ∃ pre s' rep t post payload,
      es = pre ++ .served s' ⟨method, baseUrl, path, bearer, body⟩ rep t :: post ∧
      Foreigns foreign pre s s' ∧ handle s' ⟨method, baseUrl, path, bearer, body⟩ rep t ∧
      readReply P maxGatewayBody rep = .ok payload ∧
      Exec handle foreign (f payload) t post (.ok a) u := by
  rw [gatewayCall] at h
  cases hurl : validateBaseUrl parse baseUrl with
  | error e =>
      rw [hurl] at h
      exact absurd (Exec.done_inv h).1 (by simp)
  | ok valid =>
      rw [hurl] at h
      obtain ⟨pre, s', rep, t, post, payload, hes, hpre, hserved, hread, hrest⟩ :=
        Exec.ask_bind_ok h
      exact ⟨rfl, pre, s', rep, t, post, payload, hes, hpre, hserved,
        readGatewayReply_eq_ok.mp hread, hrest⟩

/-- A helper with a single request. -/
theorem asksOnce_gatewayCall {good : GatewayRequest → Prop} {finish : Json → ResolverResult α}
    {result : ResolverResult α}
    (h : Exec handle foreign
      (gatewayCall parse P method baseUrl bearer path body >>= fun v => .ofExcept (finish v)) s es
      result u)
    (hgood : good ⟨method, baseUrl, path, bearer, body⟩) :
    AsksOnce parse baseUrl good (fun rep => readGatewayReply P rep >>= finish) (exchanges es)
      result := by
  rw [gatewayCall] at h
  cases hurl : validateBaseUrl parse baseUrl with
  | error e =>
      rw [hurl] at h
      obtain ⟨hresult, hforeign⟩ := Exec.done_inv h
      exact .inl ⟨e, hurl, hresult, hforeign.exchanges_eq⟩
  | ok valid =>
      rw [hurl] at h
      obtain ⟨pre, s', rep, t, post, rfl, hpre, -, hrest⟩ := Exec.send_inv h
      have hfinish : ((Client.done (readGatewayReply P rep) : GatewayClient Json).bind fun v =>
          .ofExcept (finish v)) = .done (readGatewayReply P rep >>= finish) := by
        cases readGatewayReply P rep <;> rfl
      obtain ⟨hresult, hpost⟩ := Exec.done_inv (hfinish ▸ hrest)
      refine .inr ⟨_, rep, hgood, ?_, hresult⟩
      rw [exchanges_append, hpre.exchanges_eq, exchanges, hpost.exchanges_eq, List.nil_append]

end Executions

end Lemmas

end SerenSecrets
