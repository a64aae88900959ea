import SerenSecrets.Lib.Uuid

set_option autoImplicit false

/-! # IP addresses and their text

An address is four octets or eight segments. Its text is read off the front of a list of characters,
by readers that answer the value and what remains: `readIpv4Addr` takes four decimal numbers without
leading zeros, `readIpv6Addr` up to eight hexadecimal groups, of which one run of zeros may be
written `::` and the last two as an IPv4 address. `parseIpAddr` takes a text that is used up.

What a reader uses are hexadecimal digits, dots and colons (`isColonHex_of_parseIpAddr`), and a
colon tells the two kinds of text apart (`colon_mem_iff_of_parseIpAddr`). -/

/-! ## Addresses -/

structure Ipv4Addr where
  a : UInt8
  b : UInt8
  c : UInt8
  d : UInt8
  deriving DecidableEq

structure Ipv6Addr where
  segments : Vector UInt16 8
  deriving DecidableEq

inductive IpAddr where
  | v4 (addr : Ipv4Addr)
  | v6 (addr : Ipv6Addr)
  deriving DecidableEq

/-- The network `127.0.0.0/8`. -/
def Ipv4Addr.isLoopback (addr : Ipv4Addr) : Bool := addr.a == 127

/-- The two segments of an address embedded at the end of another one. -/
def Ipv4Addr.segments (addr : Ipv4Addr) : List UInt16 :=
  [addr.a.toUInt16 * 256 + addr.b.toUInt16, addr.c.toUInt16 * 256 + addr.d.toUInt16]

/-- The address `::1`, and no other: an embedded `127.0.0.1` is not one. -/
def Ipv6Addr.isLoopback (addr : Ipv6Addr) : Bool := addr.segments == #v[0, 0, 0, 0, 0, 0, 0, 1]

def IpAddr.isLoopback : IpAddr → Bool
  | .v4 addr => addr.isLoopback
  | .v6 addr => addr.isLoopback

/-! ## Readers -/

namespace IpParser

def toDigit (radix : ℕ) (c : Char) : Option ℕ := (hexVal? c).filter (fun d => d < radix)

def readGivenChar (target : Char) : List Char → Option (List Char)
  | [] => none
  | c :: rest => if c = target then some rest else none

/-- A separator stands before every element but the first. -/
def readSeparator {α : Type} (sep : Char) (index : ℕ) (inner : List Char → Option (α × List Char))
    (s : List Char) : Option (α × List Char) :=
  if index > 0 then (readGivenChar sep s).bind inner else inner s

/-- All digits at the front, with how many they are; one more than `maxDigits` fails. -/
def readDigits (radix maxDigits : ℕ) (count result : ℕ) :
    List Char → Option ((ℕ × ℕ) × List Char)
  | [] => some ((count, result), [])
  | c :: rest =>
      match toDigit radix c with
      | none => some ((count, result), c :: rest)
      | some digit =>
          if count + 1 > maxDigits then none
          else readDigits radix maxDigits (count + 1) (result * radix + digit) rest

/-- A number below `bound`. -/
def readNumber (radix maxDigits : ℕ) (allowZeroPrefix : Bool) (bound : ℕ) (s : List Char) :
    Option (ℕ × List Char) := do
  let ((count, result), rest) ← readDigits radix maxDigits 0 0 s
  if count = 0 then none
  else if allowZeroPrefix = false ∧ s.head? = some '0' ∧ count > 1 then none
  else if result < bound then some (result, rest)
  else none

def readOctet (index : ℕ) (s : List Char) : Option (UInt8 × List Char) := do
  let (octet, rest) ← readSeparator '.' index (readNumber 10 3 false 256) s
  return (UInt8.ofNat octet, rest)

def readIpv4Addr (s : List Char) : Option (Ipv4Addr × List Char) := do
  let (a, s) ← readOctet 0 s
  let (b, s) ← readOctet 1 s
  let (c, s) ← readOctet 2 s
  let (d, s) ← readOctet 3 s
  return (⟨a, b, c, d⟩, s)

/-- Read up to `remaining` groups after those read before. The flag tells that the last two are an
    IPv4 address, which is tried first where two groups are left. -/
def readGroups : ℕ → List UInt16 → List Char → (List UInt16 × Bool) × List Char
  | 0, groups, s => ((groups, false), s)
  | remaining + 1, groups, s =>
      match if remaining = 0 then none else readSeparator ':' groups.length readIpv4Addr s with
      | some (addr, rest) => ((groups ++ addr.segments, true), rest)
      | none =>
          match readSeparator ':' groups.length (readNumber 16 4 true 65536) s with
          | some (group, rest) => readGroups remaining (groups ++ [UInt16.ofNat group]) rest
          | none => ((groups, false), s)

/-- The address of a front and a back part, with zeros between them. -/
def ofGroups (front back : List UInt16) : Ipv6Addr :=
  let groups := front ++ (List.replicate (8 - front.length - back.length) 0 ++ back)
  ⟨Vector.ofFn (fun i => groups.getD i 0)⟩

def readIpv6Addr (s : List Char) : Option (Ipv6Addr × List Char) :=
  let ((front, frontIpv4), s) := readGroups 8 [] s
  if front.length = 8 then some (ofGroups front [], s)
  else if frontIpv4 then none
  else do
    let s ← readGivenChar ':' s
    let s ← readGivenChar ':' s
    -- The `::` stands for one group at least.
    let ((back, _), s) := readGroups (8 - (front.length + 1)) [] s
    return (ofGroups front back, s)

def readIpAddr (s : List Char) : Option (IpAddr × List Char) :=
  match readIpv4Addr s with
  | some (addr, rest) => some (.v4 addr, rest)
  | none => (readIpv6Addr s).map (fun (addr, rest) => (.v6 addr, rest))

end IpParser

/-- The address a text spells; nothing may be left over. -/
def parseIpAddr (text : List Char) : Option IpAddr :=
  match IpParser.readIpAddr text with
  | some (ip, []) => some ip
  | _ => none

/-! ## Socket addresses -/

inductive SocketAddr where
  | v4 (ip : Ipv4Addr) (port : UInt16)
  | v6 (ip : Ipv6Addr) (port : UInt16) (scopeId : UInt32)

def SocketAddr.ip : SocketAddr → IpAddr
  | v4 ip _ => .v4 ip
  | v6 ip _ _ => .v6 ip

namespace IpParser

/-- A number of any length behind a character. -/
def readMarked (mark : Char) (bound : ℕ) (s : List Char) : Option (ℕ × List Char) := do
  let s ← readGivenChar mark s
  readNumber 10 s.length true bound s

def readPort (s : List Char) : Option (UInt16 × List Char) := do
  let (port, s) ← readMarked ':' (2 ^ 16) s
  return (UInt16.ofNat port, s)

def readSocketAddrV4 (s : List Char) : Option (SocketAddr × List Char) := do
  let (ip, s) ← readIpv4Addr s
  let (port, s) ← readPort s
  return (.v4 ip port, s)

def readSocketAddrV6 (s : List Char) : Option (SocketAddr × List Char) := do
  let s ← readGivenChar '[' s
  let (ip, s) ← readIpv6Addr s
  let (scopeId, s) := (readMarked '%' (2 ^ 32) s).getD (0, s)
  let s ← readGivenChar ']' s
  let (port, s) ← readPort s
  return (.v6 ip port (UInt32.ofNat scopeId), s)

end IpParser

def parseSocketAddr (text : List Char) : Option SocketAddr :=
  match (IpParser.readSocketAddrV4 text).or (IpParser.readSocketAddrV6 text) with
  | some (addr, []) => some addr
  | _ => none

example : (parseSocketAddr "127.0.0.1:8787".toList).map SocketAddr.ip
    = some (.v4 ⟨127, 0, 0, 1⟩) := by decide +kernel

/-! ## What a reader uses -/

/-- The text `rest` is what remains of `s` when some characters of `p` are taken off its front. -/
def Taken (p : Char → Prop) (s rest : List Char) : Prop :=
  ∃ used, s = used ++ rest ∧ ∀ c ∈ used, p c

namespace Taken

variable {p q : Char → Prop} {s mid rest : List Char}

theorem refl (s : List Char) : Taken p s s := ⟨[], rfl, by simp⟩

theorem cons {c : Char} (hc : p c) (h : Taken p s rest) : Taken p (c :: s) rest := by
  obtain ⟨used, rfl, hused⟩ := h
  exact ⟨c :: used, rfl, List.forall_mem_cons.mpr ⟨hc, hused⟩⟩

theorem trans (h : Taken p s mid) (h' : Taken p mid rest) : Taken p s rest := by
  obtain ⟨used, rfl, hused⟩ := h
  obtain ⟨used', rfl, hused'⟩ := h'
  exact ⟨used ++ used', by simp, List.forall_mem_append.mpr ⟨hused, hused'⟩⟩

theorem mono (h : Taken p s rest) (hpq : ∀ c, p c → q c) : Taken q s rest := by
  obtain ⟨used, hs, hused⟩ := h
  exact ⟨used, hs, fun c hc => hpq c (hused c hc)⟩

theorem of_nil (h : Taken p s []) : ∀ c ∈ s, p c := by
  obtain ⟨used, rfl, hused⟩ := h
  simpa using hused

theorem notMem {c : Char} (h : Taken p s rest) (hc : c ∉ s) : c ∉ rest := by
  obtain ⟨used, rfl, -⟩ := h
  exact fun hmem => hc (List.mem_append_right used hmem)

end Taken

namespace IpParser

def IsDotted (c : Char) : Prop := (toDigit 10 c).isSome = true ∨ c = '.'

def IsColonHex (c : Char) : Prop := (toDigit 16 c).isSome = true ∨ c = '.' ∨ c = ':'

theorem toDigit_isSome {radix : ℕ} {c : Char} :
    (toDigit radix c).isSome = true ↔ ∃ d < radix, hexVal? c = some d := by
  unfold toDigit
  cases h : hexVal? c <;> simp [Option.filter]

theorem IsDotted.isColonHex {c : Char} (h : IsDotted c) : IsColonHex c := by
  rcases h with hdigit | hdot
  · obtain ⟨d, hd, hc⟩ := toDigit_isSome.mp hdigit
    exact .inl (toDigit_isSome.mpr ⟨d, by omega, hc⟩)
  · exact .inr (.inl hdot)

theorem readGivenChar_eq_some {target : Char} {s rest : List Char} :
    readGivenChar target s = some rest ↔ s = target :: rest := by
  cases s with
  | nil => simp [readGivenChar]
  | cons c s => simp [readGivenChar, eq_comm]

/-- Whatever `read` takes are characters of `p`. -/
def TakesOnly {α : Type} (p : Char → Prop) (read : List Char → Option (α × List Char)) : Prop :=
  ∀ ⦃s a rest⦄, read s = some (a, rest) → Taken p s rest

theorem TakesOnly.mono {α : Type} {p q : Char → Prop} {read : List Char → Option (α × List Char)}
    (h : TakesOnly p read) (hpq : ∀ c, p c → q c) : TakesOnly q read :=
  fun _ _ _ hread => (h hread).mono hpq

theorem takesOnly_readSeparator {α : Type} {p : Char → Prop} {sep : Char} (hsep : p sep)
    {inner : List Char → Option (α × List Char)} (hinner : TakesOnly p inner) (index : ℕ) :
    TakesOnly p (readSeparator sep index inner) := by
  intro s a rest h
  unfold readSeparator at h
  split at h
  · obtain ⟨mid, hmid, hread⟩ := Option.bind_eq_some_iff.mp h
    rw [readGivenChar_eq_some.mp hmid]
    exact .cons hsep (hinner hread)
  · exact hinner h

theorem takesOnly_readDigits (radix maxDigits count result : ℕ) :
    TakesOnly (fun c => (toDigit radix c).isSome = true)
      (readDigits radix maxDigits count result) := by
  intro s a rest h
  induction s generalizing count result with
  | nil =>
      obtain ⟨-, rfl⟩ := Prod.mk.inj (Option.some.inj h)
      exact .refl []
  | cons c s ih =>
      rw [readDigits] at h
      split at h
      · obtain ⟨-, rfl⟩ := Prod.mk.inj (Option.some.inj h)
        exact .refl _
      · rename_i digit hdigit
        split at h
        · exact absurd h (by simp)
        · exact .cons (by simp [hdigit]) (ih _ _ h)

theorem takesOnly_readNumber (radix maxDigits : ℕ) (allowZeroPrefix : Bool) (bound : ℕ) :
    TakesOnly (fun c => (toDigit radix c).isSome = true)
      (readNumber radix maxDigits allowZeroPrefix bound) := by
  intro s a rest h
  unfold readNumber at h
  obtain ⟨⟨⟨count, result⟩, rest'⟩, hdigits, h⟩ := Option.bind_eq_some_iff.mp h
  simp only [Option.ite_none_left_eq_some, Option.ite_none_right_eq_some, Option.some.injEq,
    Prod.mk.injEq] at h
  obtain ⟨-, -, -, -, rfl⟩ := h
  exact takesOnly_readDigits radix maxDigits 0 0 hdigits

theorem takesOnly_readOctet (index : ℕ) : TakesOnly IsDotted (readOctet index) := by
  intro s a rest h
  obtain ⟨⟨octet, rest'⟩, hoctet, h⟩ := Option.bind_eq_some_iff.mp h
  obtain ⟨-, rfl⟩ := Prod.mk.inj (Option.some.inj h)
  have hnumber : TakesOnly IsDotted (readNumber 10 3 false 256) :=
    (takesOnly_readNumber 10 3 false 256).mono (fun c hc => .inl hc)
  exact takesOnly_readSeparator (.inr rfl) hnumber index hoctet

theorem takesOnly_readIpv4Addr : TakesOnly IsDotted readIpv4Addr := by
  intro s a rest h
  obtain ⟨⟨_, s₁⟩, h₀, h⟩ := Option.bind_eq_some_iff.mp h
  obtain ⟨⟨_, s₂⟩, h₁, h⟩ := Option.bind_eq_some_iff.mp h
  obtain ⟨⟨_, s₃⟩, h₂, h⟩ := Option.bind_eq_some_iff.mp h
  obtain ⟨⟨_, s₄⟩, h₃, h⟩ := Option.bind_eq_some_iff.mp h
  obtain ⟨-, rfl⟩ := Prod.mk.inj (Option.some.inj h)
  exact (takesOnly_readOctet 0 h₀).trans ((takesOnly_readOctet 1 h₁).trans
    ((takesOnly_readOctet 2 h₂).trans (takesOnly_readOctet 3 h₃)))

/-- How reading groups ends: there is an embedded address, or another group, or nothing to read. -/
theorem readGroups_succ (remaining : ℕ) (groups : List UInt16) (s : List Char) :
    (∃ addr rest, readSeparator ':' groups.length readIpv4Addr s = some (addr, rest) ∧
      readGroups (remaining + 1) groups s = ((groups ++ addr.segments, true), rest)) ∨
    (∃ group rest, readSeparator ':' groups.length (readNumber 16 4 true 65536) s
        = some (group, rest) ∧
      readGroups (remaining + 1) groups s
        = readGroups remaining (groups ++ [UInt16.ofNat group]) rest) ∨
    readGroups (remaining + 1) groups s = ((groups, false), s) := by
  rw [readGroups]
  split
  · rename_i addr rest h
    rw [Option.ite_none_left_eq_some] at h
    exact .inl ⟨addr, rest, h.2, rfl⟩
  · split
    · rename_i group rest h
      exact .inr (.inl ⟨group, rest, h, rfl⟩)
    · exact .inr (.inr rfl)

theorem taken_readGroups (remaining : ℕ) (groups : List UInt16) (s : List Char) :
    Taken IsColonHex s (readGroups remaining groups s).2 := by
  have hcolon : IsColonHex ':' := .inr (.inr rfl)
  induction remaining generalizing groups s with
  | zero => exact .refl s
  | succ remaining ih =>
      rcases readGroups_succ remaining groups s with
        ⟨addr, rest, h, heq⟩ | ⟨group, rest, h, heq⟩ | heq
      · rw [heq]
        have hinner : TakesOnly IsColonHex readIpv4Addr :=
          takesOnly_readIpv4Addr.mono (fun c hc => hc.isColonHex)
        exact takesOnly_readSeparator hcolon hinner _ h
      · rw [heq]
        have hinner : TakesOnly IsColonHex (readNumber 16 4 true 65536) :=
          (takesOnly_readNumber 16 4 true 65536).mono (fun c hc => .inl hc)
        exact (takesOnly_readSeparator hcolon hinner _ h).trans (ih _ _)
      · rw [heq]
        exact .refl s

/-- Eight groups are read, or fewer and then a `::` with more groups after it. -/
theorem readIpv6Addr_cases {s rest : List Char} {addr : Ipv6Addr}
    (h : readIpv6Addr s = some (addr, rest)) :
    ((readGroups 8 [] s).1.1.length = 8 ∧ rest = (readGroups 8 [] s).2) ∨
    ∃ remaining s', (readGroups 8 [] s).2 = ':' :: ':' :: s' ∧
      rest = (readGroups remaining [] s').2 := by
  unfold readIpv6Addr at h
  split at h
  rename_i front frontIpv4 s₁ heq
  rw [heq]
  split at h
  · rename_i hlength
    obtain ⟨-, rfl⟩ := Prod.mk.inj (Option.some.inj h)
    exact .inl ⟨hlength, rfl⟩
  · split at h
    · exact absurd h (by simp)
    · obtain ⟨s₂, h₂, hrest⟩ := Option.bind_eq_some_iff.mp h
      obtain ⟨s₃, h₃, hlast⟩ := Option.bind_eq_some_iff.mp hrest
      obtain ⟨-, rfl⟩ := Prod.mk.inj (Option.some.inj hlast)
      refine .inr ⟨8 - (front.length + 1), s₃, ?_, rfl⟩
      rw [readGivenChar_eq_some.mp h₂, readGivenChar_eq_some.mp h₃]

theorem takesOnly_readIpv6Addr : TakesOnly IsColonHex readIpv6Addr := by
  intro s a rest h
  have hcolon : IsColonHex ':' := .inr (.inr rfl)
  have hfront := taken_readGroups 8 [] s
  rcases readIpv6Addr_cases h with ⟨-, rfl⟩ | ⟨remaining, s', heq, rfl⟩
  · exact hfront
  · rw [heq] at hfront
    exact hfront.trans (.cons hcolon (.cons hcolon (taken_readGroups remaining [] s')))

/-! ## The two kinds of text -/

theorem readSeparator_eq_none {α : Type} {sep : Char} {index : ℕ} {s : List Char}
    (hindex : 0 < index) (hs : sep ∉ s) (inner : List Char → Option (α × List Char)) :
    readSeparator sep index inner s = none := by
  rw [readSeparator, if_pos hindex, Option.bind_eq_none_iff]
  intro rest hrest
  rw [readGivenChar_eq_some.mp hrest] at hs
  exact absurd List.mem_cons_self hs

theorem readGroups_of_no_colon (remaining : ℕ) {groups : List UInt16} {s : List Char}
    (hgroups : 0 < groups.length) (hs : ':' ∉ s) :
    readGroups remaining groups s = ((groups, false), s) := by
  cases remaining with
  | zero => rfl
  | succ remaining =>
      rw [readGroups, readSeparator_eq_none hgroups hs, readSeparator_eq_none hgroups hs, ite_self]

/-- Without a colon no more is read than one group, or an embedded address for two. -/
theorem length_readGroups_le (remaining : ℕ) {s : List Char} (hs : ':' ∉ s) :
    (readGroups remaining [] s).1.1.length ≤ 2 := by
  cases remaining with
  | zero => exact Nat.zero_le 2
  | succ remaining =>
      rcases readGroups_succ remaining [] s with ⟨addr, rest, -, heq⟩ | ⟨group, rest, h, heq⟩ | heq
      · rw [heq]
        exact Nat.le_refl 2
      · have hrest : ':' ∉ rest := (takesOnly_readNumber 16 4 true 65536 h).notMem hs
        rw [heq, readGroups_of_no_colon remaining (by simp) hrest]
        exact Nat.le_succ 1
      · rw [heq]
        exact Nat.zero_le 2

theorem colon_mem_of_readIpv6Addr {s rest : List Char} {addr : Ipv6Addr}
    (h : readIpv6Addr s = some (addr, rest)) : ':' ∈ s := by
  by_contra hs
  rcases readIpv6Addr_cases h with ⟨hlength, -⟩ | ⟨remaining, s', heq, -⟩
  · have hle := length_readGroups_le 8 hs
    omega
  · have hrest := (taken_readGroups 8 [] s).notMem hs
    rw [heq] at hrest
    exact hrest List.mem_cons_self

end IpParser

open IpParser

theorem parseIpAddr_cases {text : List Char} {ip : IpAddr} (h : parseIpAddr text = some ip) :
    (∃ addr, ip = .v4 addr ∧ readIpv4Addr text = some (addr, [])) ∨
    ∃ addr, ip = .v6 addr ∧ readIpv6Addr text = some (addr, []) := by
  unfold parseIpAddr at h
  split at h
  · rename_i ip' hread
    obtain rfl := Option.some.inj h
    unfold readIpAddr at hread
    split at hread
    · rename_i addr rest hv4
      obtain ⟨rfl, rfl⟩ := Prod.mk.inj (Option.some.inj hread)
      exact .inl ⟨addr, rfl, hv4⟩
    · obtain ⟨⟨addr, rest⟩, hv6, heq⟩ := Option.map_eq_some_iff.mp hread
      obtain ⟨rfl, rfl⟩ := Prod.mk.inj heq
      exact .inr ⟨addr, rfl, hv6⟩
  · exact absurd h (by simp)

/-- A text with any other character than these spells no address. -/
theorem isColonHex_of_parseIpAddr {text : List Char} {ip : IpAddr}
    (h : parseIpAddr text = some ip) : ∀ c ∈ text, IsColonHex c := by
  rcases parseIpAddr_cases h with ⟨addr, -, hread⟩ | ⟨addr, -, hread⟩
  · exact fun c hc => ((takesOnly_readIpv4Addr hread).of_nil c hc).isColonHex
  · exact (takesOnly_readIpv6Addr hread).of_nil

/-- **A colon tells the texts apart**: it stands in every IPv6 text and in no IPv4 text. -/
theorem colon_mem_iff_of_parseIpAddr {text : List Char} {ip : IpAddr}
    (h : parseIpAddr text = some ip) : ':' ∈ text ↔ ∃ addr, ip = .v6 addr := by
  rcases parseIpAddr_cases h with ⟨addr, rfl, hread⟩ | ⟨addr, rfl, hread⟩
  · have hcolon : ':' ∉ text := by
      intro hmem
      have hdotted : IsDotted ':' := (takesOnly_readIpv4Addr hread).of_nil ':' hmem
      exact absurd hdotted (by unfold IsDotted; decide)
    simp [hcolon]
  · simp [colon_mem_of_readIpv6Addr hread]
