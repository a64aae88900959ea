import SerenSecrets.Resolver.Error

set_option autoImplicit false

/-! # Item revisions and service timestamps

Both are RFC3339 texts that keep the spelling of the service; two revisions are equal when their
texts are. `validRfc3339` checks the shape and leaves the calendar to the timestamp parser, which
gets at most nine digits of a fraction. -/

namespace SerenSecrets

/-- The third-party readers: JSON documents and timestamps, from the bytes of their text. -/
structure Parsers where
  json : Bytes → Option Json
  timestamp : Bytes → Bool

def isAsciiDigit (b : UInt8) : Bool := 48 ≤ b && b ≤ 57

/-- Two digits as a number. -/
def twoDigits (tens ones : UInt8) : ℕ := (tens.toNat - 48) * 10 + ones.toNat - 48

/-- `Z`, or a sign with hours up to 23 and minutes up to 59. -/
def validOffset : Bytes → Bool
  | [z] => z == 0x5A || z == 0x7A
  | [sign, h1, h2, colon, m1, m2] =>
      (sign == 0x2B || sign == 0x2D) && colon == 0x3A
        && (isAsciiDigit h1 && isAsciiDigit h2 && isAsciiDigit m1 && isAsciiDigit m2)
        && twoDigits h1 h2 ≤ 23 && twoDigits m1 m2 ≤ 59
  | _ => false

/-- The first nineteen bytes, `DDDD-DD-DDTDD:DD:DD`, with room for an offset after them. -/
def validDateTime (bytes : Bytes) : Bool :=
  20 ≤ bytes.length && bytes.getD 4 0 == 0x2D && bytes.getD 7 0 == 0x2D
    && (bytes.getD 10 0 == 0x54 || bytes.getD 10 0 == 0x74)
    && bytes.getD 13 0 == 0x3A && bytes.getD 16 0 == 0x3A
    && (bytes.take 19).zipIdx.all (fun (byte, i) => [4, 7, 10, 13, 16].contains i || isAsciiDigit byte)

/-- Where the offset starts: after the fraction, if there is one. -/
def offsetStart (bytes : Bytes) : ℕ :=
  if bytes.getD 19 0 = 0x2E then 20 + ((bytes.drop 20).takeWhile isAsciiDigit).length else 19

def validRfc3339 (P : Parsers) (value : String) : Bool :=
  let bytes := utf8 value
  let start := offsetStart bytes
  if !validDateTime bytes then false
  -- A point without digits.
  else if start == 20 then false
  else if !validOffset (bytes.drop start) then false
  else if start > 29 then P.timestamp (bytes.take 29 ++ bytes.drop start)
  else P.timestamp bytes

example : validRfc3339 ⟨fun _ => none, fun _ => true⟩ "2026-10-17t12:34:56.123456789012z" = true := by
  decide +kernel

/-- The revision of an item, in the service's spelling. -/
structure ItemRevision where
  asStr : String
  deriving DecidableEq

def ItemRevision.new (P : Parsers) (value : String) : ResolverResult ItemRevision :=
  if validRfc3339 P value then .ok ⟨value⟩
  else .error (.invalidInput "item revision must be RFC3339")

/-- A lifecycle time, in the service's spelling. -/
structure ServiceTimestamp where
  asStr : String
  deriving DecidableEq

def ServiceTimestamp.new (P : Parsers) (value : String) : ResolverResult ServiceTimestamp :=
  if validRfc3339 P value then .ok ⟨value⟩
  else .error (.invalidInput "timestamp must be RFC3339")

/-- The weak entity tag of a revision. -/
def ItemRevision.ifMatchHeader (revision : ItemRevision) : String :=
  "W/\"" ++ revision.asStr ++ "\""

/-! ## Revisions on the wire -/

/-- Read a revision from a JSON string. -/
def ItemRevision.ofJson (P : Parsers) : Json → Option ItemRevision
  | .str s => (ItemRevision.new P s).toOption
  | _ => none

end SerenSecrets
