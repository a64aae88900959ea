import SerenSecrets.Lib.Except
import SerenSecrets.Lib.IpAddr
import SerenSecrets.Resolver.Error

set_option autoImplicit false

/-! # The sidecar's guard

The sidecar hands plaintext to processes on the same machine. Its guard runs before anything else: a
request with an `Origin` comes from a web page and is refused, the `Host` must name the loopback
interface, so that a name rebound to it does not pass, and the bearer token must be the sidecar's.

`WellFormedHost` says what a loopback host looks like, port included. The guard looks at the name
only: what follows the closing bracket or the last colon is dropped unread. So it takes more hosts
than these, and `StrayHost` lists them (`hostIsLoopback_iff`). The check of the service's own host
takes nothing after the bracket (`isLoopbackHost_iff`). -/

namespace SerenSecrets.Sidecar

/-! ## Headers -/

/-- The headers of a request, with their names in lowercase. -/
abbrev HeaderMap := List (String × Bytes)

def HeaderMap.get (headers : HeaderMap) (name : String) : Option Bytes :=
  (headers.find? (fun header => header.1 == name)).map Prod.snd

def HeaderMap.containsKey (headers : HeaderMap) (name : String) : Bool :=
  headers.any (fun header => header.1 == name)

def isVisibleAscii (b : UInt8) : Bool := (32 ≤ b && b < 127) || b == 9

/-- The text of a header value, unless it has bytes outside visible ASCII. -/
def headerToStr (value : Bytes) : Option String :=
  if value.all isVisibleAscii = true then some (String.ofList (value.map asciiChar)) else none

/-! ## The guard -/

/-- The host without its brackets or its port. -/
def hostname : List Char → Option (List Char)
  | '[' :: rest => (splitOnce ']' rest).map Prod.fst
  | host => some (((rsplitOnce ':' host).map Prod.fst).getD host)

def hostIsLoopback (host : String) : Bool :=
  match hostname host.toList with
  | none => false
  | some name =>
      eqIgnoreAsciiCase (String.ofList name) "localhost" ||
        (parseIpAddr name).any IpAddr.isLoopback

def localRequestOk (headers : HeaderMap) : Bool :=
  if headers.containsKey "origin" then false
  else
    match (headers.get "host").bind headerToStr with
    | some host => hostIsLoopback host
    | none => false

structure ErrorResponse where
  error : String
  approvalRequestId : Option Uuid
  deriving DecidableEq

abbrev SidecarResult (α : Type) := Except (UInt16 × ErrorResponse) α

def err (status : UInt16) (message : String) : UInt16 × ErrorResponse := (status, ⟨message, none⟩)

def authorize (sidecarToken : String) (headers : HeaderMap) : SidecarResult Unit :=
  match headers.get "authorization" with
  | none => .error (err 401 "missing authorization")
  | some value =>
      match headerToStr value with
      | none => .error (err 401 "invalid authorization")
      | some text =>
          let value := utf8 text
          let scheme := utf8 "Bearer "
          if value.length = scheme.length + (utf8 sidecarToken).length ∧
              value.take scheme.length = scheme ∧ value.drop scheme.length = utf8 sidecarToken then
            .ok ()
          else .error (err 401 "invalid authorization")

/-- The outermost layer; `next` is the rest of the service. -/
def guard {Response : Type} (sidecarToken : String) (headers : HeaderMap)
    (next : SidecarResult Response) : SidecarResult Response := do
  rejectIf (localRequestOk headers = false) (err 403 "request must originate locally")
  authorize sidecarToken headers
  next

/-! ## What a loopback host is -/

def IsLocalhost (cs : List Char) : Prop := cs.map Char.toLower = "localhost".toList

def IsLoopbackIpv4 (cs : List Char) : Prop :=
  ∃ addr, parseIpAddr cs = some (.v4 addr) ∧ addr.isLoopback = true

def IsLoopbackIpv6 (cs : List Char) : Prop :=
  ∃ addr, parseIpAddr cs = some (.v6 addr) ∧ addr.isLoopback = true

/-- A decimal port. -/
def IsPort (cs : List Char) : Prop := cs ≠ [] ∧ ∀ c ∈ cs, c.isDigit = true

/-- What may follow a host: nothing, or a colon and a port. -/
def EndsHost (cs : List Char) : Prop := cs = [] ∨ ∃ port, cs = ':' :: port ∧ IsPort port

/-- The hosts that are meant: a name or an IPv4 address as it stands, or an address in brackets. -/
inductive WellFormedHost : List Char → Prop
  | plain {name rest : List Char} (hname : IsLocalhost name ∨ IsLoopbackIpv4 name)
      (hrest : EndsHost rest) : WellFormedHost (name ++ rest)
  | bracketed {inner rest : List Char} (hinner : IsLoopbackIpv4 inner ∨ IsLoopbackIpv6 inner)
      (hrest : EndsHost rest) : WellFormedHost ('[' :: (inner ++ ']' :: rest))

/-- Other hosts that name the loopback interface: the name in brackets, something else than a port
    after the bracket or after the last colon, and the IPv6 address without brackets. -/
inductive StrayHost : List Char → Prop
  | bracketedName {inner rest : List Char} (hinner : IsLocalhost inner) :
      StrayHost ('[' :: (inner ++ ']' :: rest))
  | afterBracket {inner rest : List Char} (hinner : IsLoopbackIpv4 inner ∨ IsLoopbackIpv6 inner)
      (hrest : ¬ EndsHost rest) : StrayHost ('[' :: (inner ++ ']' :: rest))
  | notPort {name rest : List Char} (hname : IsLocalhost name ∨ IsLoopbackIpv4 name)
      (hcolon : ':' ∉ rest) (hrest : ¬ IsPort rest) : StrayHost (name ++ ':' :: rest)
  | bareIpv6 {name rest : List Char} (hname : IsLoopbackIpv6 name) (hcolon : ':' ∉ rest) :
      StrayHost (name ++ ':' :: rest)

/-- The names the guard looks for. -/
def IsLoopbackName (cs : List Char) : Prop :=
  IsLocalhost cs ∨ IsLoopbackIpv4 cs ∨ IsLoopbackIpv6 cs

/-! ## What the guard looks at -/

theorem hostname_eq_some {host name : List Char} :
    hostname host = some name ↔
      (∃ rest, host = '[' :: (name ++ ']' :: rest) ∧ ']' ∉ name) ∨
      (host.head? ≠ some '[' ∧
        ((∃ rest, host = name ++ ':' :: rest ∧ ':' ∉ rest) ∨ (host = name ∧ ':' ∉ host))) := by
  unfold hostname
  split
  · rename_i rest
    simp [splitOnce_eq_some, and_comm]
  · rename_i hbracket
    have hhead : host.head? ≠ some '[' := by
      intro h
      obtain ⟨rest, rfl⟩ := List.head?_eq_some_iff.mp h
      exact hbracket rest rfl
    have hnot : ¬ ∃ rest, host = '[' :: (name ++ ']' :: rest) ∧ ']' ∉ name := by
      rintro ⟨rest, hhost, -⟩
      exact hbracket _ hhost
    cases hcut : rsplitOnce ':' host with
    | none =>
        have hcolon := rsplitOnce_eq_none.mp hcut
        have hno : ¬ ∃ rest, host = name ++ ':' :: rest ∧ ':' ∉ rest := by
          rintro ⟨rest, rfl, -⟩
          exact hcolon (by simp)
        simp [hhead, hnot, hno, hcolon]
    | some parts =>
        obtain ⟨before, after⟩ := parts
        obtain ⟨hafter, rfl⟩ := rsplitOnce_eq_some.mp hcut
        simp only [Option.map_some, Option.getD_some, Option.some.injEq, hnot, hhead, false_or,
          ne_eq, not_false_eq_true, true_and]
        constructor
        · rintro rfl
          exact .inl ⟨after, rfl, hafter⟩
        · rintro (⟨rest, heq, hrest⟩ | ⟨-, hcolon⟩)
          · have hcut' := rsplitOnce_eq_some.mpr ⟨hrest, heq⟩
            rw [hcut] at hcut'
            exact (Prod.mk.inj (Option.some.inj hcut')).1
          · exact absurd (by simp) hcolon

theorem any_isLoopback_iff {cs : List Char} :
    (parseIpAddr cs).any IpAddr.isLoopback = true ↔ IsLoopbackIpv4 cs ∨ IsLoopbackIpv6 cs := by
  unfold IsLoopbackIpv4 IsLoopbackIpv6
  cases parseIpAddr cs with
  | none => simp
  | some ip => cases ip <;> simp [IpAddr.isLoopback]

theorem eqIgnoreAsciiCase_localhost_iff {host : String} :
    eqIgnoreAsciiCase host "localhost" = true ↔ IsLocalhost host.toList := by
  have hlower : "localhost".toList.map Char.toLower = "localhost".toList := by decide
  rw [eqIgnoreAsciiCase_iff, hlower, IsLocalhost]

theorem hostIsLoopback_eq_true {host : String} :
    hostIsLoopback host = true ↔
      ∃ name, hostname host.toList = some name ∧ IsLoopbackName name := by
  unfold hostIsLoopback IsLoopbackName
  cases hostname host.toList with
  | none => simp
  | some name =>
      simp only [Bool.or_eq_true, eqIgnoreAsciiCase_localhost_iff, String.toList_ofList,
        any_isLoopback_iff, Option.some.injEq, exists_eq_left']

/-! ## The characters of a name -/

theorem IsLocalhost.notMem {cs : List Char} (h : IsLocalhost cs) {c : Char}
    (hc : c.toLower ∉ "localhost".toList) : c ∉ cs := by
  intro hmem
  rw [← h] at hc
  exact hc (List.mem_map_of_mem hmem)

theorem notMem_of_parseIpAddr {cs : List Char} {ip : IpAddr} (h : parseIpAddr cs = some ip)
    {c : Char} (hc : ¬ IpParser.IsColonHex c) : c ∉ cs :=
  fun hmem => hc (isColonHex_of_parseIpAddr h c hmem)

theorem IsLoopbackName.no_bracket {cs : List Char} (h : IsLoopbackName cs) :
    '[' ∉ cs ∧ ']' ∉ cs := by
  have hopen : ¬ IpParser.IsColonHex '[' := by unfold IpParser.IsColonHex; decide
  have hclose : ¬ IpParser.IsColonHex ']' := by unfold IpParser.IsColonHex; decide
  rcases h with hname | ⟨addr, haddr, -⟩ | ⟨addr, haddr, -⟩
  · exact ⟨hname.notMem (by decide), hname.notMem (by decide)⟩
  · exact ⟨notMem_of_parseIpAddr haddr hopen, notMem_of_parseIpAddr haddr hclose⟩
  · exact ⟨notMem_of_parseIpAddr haddr hopen, notMem_of_parseIpAddr haddr hclose⟩

theorem IsLoopbackName.ne_nil {cs : List Char} (h : IsLoopbackName cs) : cs ≠ [] := by
  have hnil : parseIpAddr [] = none := by decide
  rintro rfl
  rcases h with hname | ⟨addr, haddr, -⟩ | ⟨addr, haddr, -⟩
  · exact absurd hname (by unfold IsLocalhost; decide)
  · simp [hnil] at haddr
  · simp [hnil] at haddr

theorem isLoopbackName_of_plain {cs : List Char} (h : IsLocalhost cs ∨ IsLoopbackIpv4 cs) :
    IsLoopbackName cs :=
  h.imp_right Or.inl

/-- No address is spelled with the letter `l`. -/
theorem IsLocalhost.not_ip {cs : List Char} (h : IsLocalhost cs) :
    ¬ (IsLoopbackIpv4 cs ∨ IsLoopbackIpv6 cs) := by
  have hletter : ∀ c : Char, c.toLower = 'l' → ¬ IpParser.IsColonHex c := by
    intro c
    unfold IpParser.IsColonHex
    refine forall_char_of_ascii ?_ ?_ c
    · decide +kernel
    · intro c hc heq
      rw [toLower_of_not_ascii hc] at heq
      exact absurd hc (by rw [heq]; decide)
  have hl : 'l' ∈ cs.map Char.toLower := by
    rw [h]
    decide
  obtain ⟨c, hc, heq⟩ := List.mem_map.mp hl
  rintro (⟨addr, haddr, -⟩ | ⟨addr, haddr, -⟩)
  · exact notMem_of_parseIpAddr haddr (hletter c heq) hc
  · exact notMem_of_parseIpAddr haddr (hletter c heq) hc

/-- Only an IPv6 address has a colon in it. -/
theorem no_colon {cs : List Char} (h : IsLocalhost cs ∨ IsLoopbackIpv4 cs) : ':' ∉ cs := by
  rcases h with hname | ⟨addr, haddr, -⟩
  · exact hname.notMem (by decide)
  · rw [colon_mem_iff_of_parseIpAddr haddr]
    simp

theorem IsLoopbackIpv6.colon_mem {cs : List Char} (h : IsLoopbackIpv6 cs) : ':' ∈ cs := by
  obtain ⟨addr, haddr, -⟩ := h
  exact (colon_mem_iff_of_parseIpAddr haddr).mpr ⟨addr, rfl⟩

theorem IsPort.no_colon {cs : List Char} (h : IsPort cs) : ':' ∉ cs := by
  intro hmem
  exact absurd (h.2 ':' hmem) (by decide)

theorem IsLoopbackName.head?_append {cs : List Char} (h : IsLoopbackName cs) (rest : List Char) :
    (cs ++ rest).head? ≠ some '[' := by
  obtain ⟨c, cs', rfl⟩ := List.exists_cons_of_ne_nil h.ne_nil
  intro heq
  simp only [List.cons_append, List.head?_cons, Option.some.injEq] at heq
  exact h.no_bracket.1 (heq ▸ List.mem_cons_self)

theorem hostname_bracketed {inner : List Char} (h : IsLoopbackName inner) (rest : List Char) :
    hostname ('[' :: (inner ++ ']' :: rest)) = some inner :=
  hostname_eq_some.mpr (.inl ⟨rest, rfl, h.no_bracket.2⟩)

theorem hostname_colon {name rest : List Char} (h : IsLoopbackName name) (hcolon : ':' ∉ rest) :
    hostname (name ++ ':' :: rest) = some name :=
  hostname_eq_some.mpr (.inr ⟨h.head?_append _, .inl ⟨rest, rfl, hcolon⟩⟩)

theorem hostname_plain {name : List Char} (h : IsLocalhost name ∨ IsLoopbackIpv4 name) :
    hostname name = some name := by
  have hhead := (isLoopbackName_of_plain h).head?_append []
  rw [List.append_nil] at hhead
  exact hostname_eq_some.mpr (.inr ⟨hhead, .inr ⟨rfl, no_colon h⟩⟩)

/-! ## Which hosts pass -/

/-- In brackets an address is well formed, if nothing but a port follows. -/
theorem wellFormedHost_bracketed {inner rest : List Char} (hinner : ']' ∉ inner) :
    WellFormedHost ('[' :: (inner ++ ']' :: rest)) ↔
      (IsLoopbackIpv4 inner ∨ IsLoopbackIpv6 inner) ∧ EndsHost rest := by
  constructor
  · generalize hhost : '[' :: (inner ++ ']' :: rest) = host
    rintro (⟨hname, -⟩ | ⟨haddr, hrest⟩)
    · exact absurd (by rw [← hhost]; rfl) ((isLoopbackName_of_plain hname).head?_append _)
    · -- Neither has a closing bracket inside, so the two cuts are the same.
      rename_i inner' rest'
      obtain ⟨-, hcut⟩ := List.cons.inj hhost
      have hinner' := (IsLoopbackName.no_bracket (.inr haddr)).2
      have hparts := splitOnce_append rest hinner
      rw [hcut, splitOnce_append rest' hinner'] at hparts
      obtain ⟨rfl, rfl⟩ := Prod.mk.inj (Option.some.inj hparts)
      exact ⟨haddr, hrest⟩
  · rintro ⟨haddr, hrest⟩
    exact .bracketed haddr hrest

/-- Without brackets a name or an IPv4 address is well formed, if a port follows the last colon. -/
theorem wellFormedHost_colon {name rest : List Char} (hname : IsLoopbackName name)
    (hcolon : ':' ∉ rest) :
    WellFormedHost (name ++ ':' :: rest) ↔
      (IsLocalhost name ∨ IsLoopbackIpv4 name) ∧ IsPort rest := by
  constructor
  · have hhead := hname.head?_append (':' :: rest)
    generalize hhost : name ++ ':' :: rest = host at hhead
    rintro (⟨hplain, rfl | ⟨port, rfl, hport⟩⟩ | ⟨-, -⟩)
    · rename_i name'
      rw [List.append_nil] at hhost
      exact absurd (by rw [← hhost]; simp) (no_colon hplain)
    · rename_i name'
      have hcut := rsplitOnce_eq_some.mpr ⟨hcolon, hhost.symm⟩
      rw [rsplitOnce_eq_some.mpr ⟨hport.no_colon, rfl⟩] at hcut
      obtain ⟨rfl, rfl⟩ := Prod.mk.inj (Option.some.inj hcut)
      exact ⟨hplain, hport⟩
    · exact absurd rfl hhead
  · rintro ⟨hplain, hport⟩
    exact .plain hplain (.inr ⟨rest, rfl, hport⟩)

theorem hostIsLoopback_of_wellFormedHost {host : String} (h : WellFormedHost host.toList) :
    hostIsLoopback host = true := by
  rw [hostIsLoopback_eq_true]
  generalize host.toList = cs at h
  cases h with
  | @plain name rest hname hrest =>
      have hloopback := isLoopbackName_of_plain hname
      rcases hrest with rfl | ⟨port, rfl, hport⟩
      · rw [List.append_nil]
        exact ⟨name, hostname_plain hname, hloopback⟩
      · exact ⟨name, hostname_colon hloopback hport.no_colon, hloopback⟩
  | @bracketed inner rest hinner hrest =>
      exact ⟨inner, hostname_bracketed (.inr hinner) rest, .inr hinner⟩

theorem hostIsLoopback_of_strayHost {host : String} (h : StrayHost host.toList) :
    hostIsLoopback host = true := by
  rw [hostIsLoopback_eq_true]
  generalize host.toList = cs at h
  cases h with
  | @bracketedName inner rest hinner =>
      exact ⟨inner, hostname_bracketed (.inl hinner) rest, .inl hinner⟩
  | @afterBracket inner rest hinner hrest =>
      exact ⟨inner, hostname_bracketed (.inr hinner) rest, .inr hinner⟩
  | @notPort name rest hname hcolon hrest =>
      have hloopback := isLoopbackName_of_plain hname
      exact ⟨name, hostname_colon hloopback hcolon, hloopback⟩
  | @bareIpv6 name rest hname hcolon =>
      exact ⟨name, hostname_colon (.inr (.inr hname)) hcolon, .inr (.inr hname)⟩

theorem StrayHost.not_wellFormedHost {cs : List Char} (h : StrayHost cs) : ¬ WellFormedHost cs := by
  cases h with
  | bracketedName hinner =>
      rw [wellFormedHost_bracketed (IsLoopbackName.no_bracket (.inl hinner)).2]
      exact fun hwf => hinner.not_ip hwf.1
  | afterBracket hinner hrest =>
      rw [wellFormedHost_bracketed (IsLoopbackName.no_bracket (.inr hinner)).2]
      exact fun hwf => hrest hwf.2
  | notPort hname hcolon hrest =>
      rw [wellFormedHost_colon (isLoopbackName_of_plain hname) hcolon]
      exact fun hwf => hrest hwf.2
  | bareIpv6 hname hcolon =>
      rw [wellFormedHost_colon (.inr (.inr hname)) hcolon]
      exact fun hwf => no_colon hwf.1 hname.colon_mem

/-- **The hosts that pass** are the well-formed ones and the stray ones. -/
theorem hostIsLoopback_iff (host : String) :
    hostIsLoopback host = true ↔ WellFormedHost host.toList ∨ StrayHost host.toList := by
  constructor
  · intro h
    obtain ⟨name, hname, hloopback⟩ := hostIsLoopback_eq_true.mp h
    generalize host.toList = cs at hname
    rcases hostname_eq_some.mp hname with ⟨rest, rfl, -⟩ | ⟨-, ⟨rest, rfl, hcolon⟩ | ⟨rfl, hcolon⟩⟩
    · rcases hloopback with hinner | hinner
      · exact .inr (.bracketedName hinner)
      · by_cases hrest : EndsHost rest
        · exact .inl (.bracketed hinner hrest)
        · exact .inr (.afterBracket hinner hrest)
    · rcases or_assoc.mpr hloopback with hplain | hv6
      · by_cases hrest : IsPort rest
        · exact .inl (.plain hplain (.inr ⟨rest, rfl, hrest⟩))
        · exact .inr (.notPort hplain hcolon hrest)
      · exact .inr (.bareIpv6 hv6 hcolon)
    · rcases or_assoc.mpr hloopback with hplain | hv6
      · have hwf := WellFormedHost.plain hplain (.inl rfl)
        rw [List.append_nil] at hwf
        exact .inl hwf
      · exact absurd hv6.colon_mem hcolon
  · rintro (h | h)
    · exact hostIsLoopback_of_wellFormedHost h
    · exact hostIsLoopback_of_strayHost h

/-- **Only well-formed loopback hosts pass**, save for the stray ones. -/
theorem hostIsLoopback_wellFormed_iff (host : String) :
    (hostIsLoopback host = true → WellFormedHost host.toList) ↔ ¬ StrayHost host.toList := by
  rw [hostIsLoopback_iff]
  constructor
  · intro h hstray
    exact hstray.not_wellFormedHost (h (.inr hstray))
  · rintro hstray (hwf | h)
    · exact hwf
    · exact absurd h hstray

/-- Text after the closing bracket and a port that is no number go unnoticed. -/
theorem hostIsLoopback_accepts_stray :
    (hostIsLoopback "[::1]junk" = true ∧ ¬ WellFormedHost "[::1]junk".toList) ∧
    hostIsLoopback "localhost:http" = true ∧ ¬ WellFormedHost "localhost:http".toList := by
  have hjunk : StrayHost "[::1]junk".toList := by
    have hinner : IsLoopbackIpv6 "::1".toList :=
      ⟨⟨#v[0, 0, 0, 0, 0, 0, 0, 1]⟩, by decide +kernel, by decide⟩
    have hrest : ¬ EndsHost "junk".toList := by
      rintro (h | ⟨port, h, -⟩)
      · exact absurd h (by decide)
      · exact absurd (List.cons.inj h).1 (by decide)
    exact @StrayHost.afterBracket "::1".toList "junk".toList (.inr hinner) hrest
  have hhttp : StrayHost "localhost:http".toList := by
    have hrest : ¬ IsPort "http".toList := by
      intro h
      exact absurd (h.2 'h' (by decide)) (by decide)
    exact @StrayHost.notPort "localhost".toList "http".toList (.inl (by unfold IsLocalhost; decide))
      (by decide) hrest
  exact ⟨⟨by decide +kernel, hjunk.not_wellFormedHost⟩, by decide +kernel,
    hhttp.not_wellFormedHost⟩

/-! ## The same question elsewhere -/

/-- The host of the service's own address, which a URL parser has cut out. -/
def isLoopbackHost (host : String) : Bool :=
  eqIgnoreAsciiCase host "localhost" ||
    let inner := ((host.toList.dropPrefix? ['[']).bind fun rest => rest.dropSuffix? [']']).getD
      host.toList
    (parseIpAddr inner).any IpAddr.isLoopback

/-- There the brackets enclose the whole host, and nothing may follow them. -/
theorem isLoopbackHost_iff (host : String) :
    isLoopbackHost host = true ↔ IsLoopbackName host.toList ∨
      ∃ inner, host.toList = '[' :: (inner ++ [']']) ∧
        (IsLoopbackIpv4 inner ∨ IsLoopbackIpv6 inner) := by
  have hstrip : ∀ inner, ((host.toList.dropPrefix? ['[']).bind fun rest => rest.dropSuffix? [']'])
      = some inner ↔ host.toList = '[' :: (inner ++ [']']) := by
    intro inner
    simp [Option.bind_eq_some_iff, List.dropPrefix?_eq_some_iff, List.dropSuffix?_eq_some_iff]
  unfold isLoopbackHost IsLoopbackName
  rw [Bool.or_eq_true, eqIgnoreAsciiCase_localhost_iff, any_isLoopback_iff, or_assoc]
  refine or_congr_right ?_
  cases hcut : (host.toList.dropPrefix? ['[']).bind fun rest => rest.dropSuffix? [']'] with
  | none =>
      have hno : ∀ inner, host.toList ≠ '[' :: (inner ++ [']']) := by
        intro inner hhost
        rw [(hstrip inner).mpr hhost] at hcut
        exact absurd hcut (by simp)
      simp [hno]
  | some inner =>
      have hhost := (hstrip inner).mp hcut
      have hwhole : ¬ (IsLoopbackIpv4 host.toList ∨ IsLoopbackIpv6 host.toList) := by
        intro hloopback
        have hbracket := (IsLoopbackName.no_bracket (.inr hloopback)).1
        exact hbracket (by rw [hhost]; exact List.mem_cons_self)
      simp only [Option.getD_some, hwhole, false_or]
      constructor
      · exact fun hinner => ⟨inner, hhost, hinner⟩
      · rintro ⟨inner', hhost', hinner'⟩
        rw [(hstrip inner').mpr hhost'] at hcut
        exact Option.some.inj hcut ▸ hinner'

/-! ## Which requests pass -/

/-- What the guard asks of a request. -/
structure Admitted (sidecarToken : String) (headers : HeaderMap) : Prop where
  no_origin : ¬ headers.containsKey "origin" = true
  loopback : ∃ host, (headers.get "host").bind headerToStr = some host ∧
    (WellFormedHost host.toList ∨ StrayHost host.toList)
  authorized : (headers.get "authorization").bind headerToStr = some ("Bearer " ++ sidecarToken)

theorem localRequestOk_eq_true {headers : HeaderMap} :
    localRequestOk headers = true ↔ ¬ headers.containsKey "origin" = true ∧
      ∃ host, (headers.get "host").bind headerToStr = some host ∧
        (WellFormedHost host.toList ∨ StrayHost host.toList) := by
  unfold localRequestOk
  split
  · rename_i horigin
    simp [horigin]
  · rename_i horigin
    cases (headers.get "host").bind headerToStr with
    | none => simp
    | some host => simp [horigin, hostIsLoopback_iff]

/-- The three comparisons of the bearer token come down to one. -/
theorem bearer_iff {text sidecarToken : String} :
    ((utf8 text).length = (utf8 "Bearer ").length + (utf8 sidecarToken).length ∧
      (utf8 text).take (utf8 "Bearer ").length = utf8 "Bearer " ∧
      (utf8 text).drop (utf8 "Bearer ").length = utf8 sidecarToken) ↔
      text = "Bearer " ++ sidecarToken := by
  constructor
  · rintro ⟨-, htake, hdrop⟩
    rw [← utf8_inj, utf8_append, ← List.take_append_drop (utf8 "Bearer ").length (utf8 text),
      htake, hdrop]
  · rintro rfl
    rw [utf8_append, List.length_append, List.take_left', List.drop_left']
    · exact ⟨rfl, rfl, rfl⟩
    · rfl
    · rfl

theorem authorize_eq_ok {sidecarToken : String} {headers : HeaderMap} :
    authorize sidecarToken headers = .ok () ↔
      (headers.get "authorization").bind headerToStr = some ("Bearer " ++ sidecarToken) := by
  unfold authorize
  cases headers.get "authorization" with
  | none => simp
  | some value =>
      simp only [Option.bind_some]
      cases headerToStr value with
      | none => simp
      | some text =>
          simp only [bearer_iff, Except.ite_eq_ok, Option.some.injEq, and_true]

/-- **Nobody else gets a response**: one comes back exactly for the admitted requests that the rest
    of the service answers. -/
theorem guard_eq_ok {Response : Type} {sidecarToken : String} {headers : HeaderMap}
    {next : SidecarResult Response} {response : Response} :
    guard sidecarToken headers next = .ok response ↔
      Admitted sidecarToken headers ∧ next = .ok response := by
  unfold guard
  rw [Except.bind_unit_eq_ok, Except.bind_unit_eq_ok, rejectIf_eq_ok, Bool.not_eq_false,
    localRequestOk_eq_true, authorize_eq_ok]
  constructor
  · rintro ⟨⟨horigin, hhost⟩, htoken, hnext⟩
    exact ⟨⟨horigin, hhost, htoken⟩, hnext⟩
  · rintro ⟨⟨horigin, hhost, htoken⟩, hnext⟩
    exact ⟨⟨horigin, hhost⟩, htoken, hnext⟩

end SerenSecrets.Sidecar
