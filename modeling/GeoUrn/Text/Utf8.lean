import GeoUrn.Bytes
import GeoUrn.Text.Basic

/-!
UTF-8. Reading is strict: overlong forms, surrogates and numbers past the last code point are
refused, and a refusal names the longest start of a character that the bytes had.
-/
namespace GeoUrn.Text

inductive Utf8Cause where
  | invalidStart
  | invalidContinuation
  | unexpectedEnd
  deriving DecidableEq, Repr

/-- The first bytes that are not UTF-8: where they begin, which they are, and why. -/
structure Utf8Flaw where
  position : Nat
  sequence : Bytes
  cause : Utf8Cause
  deriving DecidableEq, Repr

/-- What the first byte of a character says: its share of the code point, how many bytes follow,
and the range in which the first of these lies. -/
structure Utf8Lead where
  share : Nat
  following : Nat
  low : UInt8
  high : UInt8
  deriving DecidableEq, Repr

/-- The table of first bytes. The narrower ranges of the second byte leave out overlong forms,
surrogates and numbers above 0x10FFFF. -/
def Utf8Lead.ofByte? (b : UInt8) : Option Utf8Lead :=
  if b < 0x80 then some ⟨b.toNat, 0, 0x80, 0xBF⟩
  else if b < 0xC2 then none
  else if b < 0xE0 then some ⟨b.toNat - 0xC0, 1, 0x80, 0xBF⟩
  else if b = 0xE0 then some ⟨0, 2, 0xA0, 0xBF⟩
  else if b = 0xED then some ⟨0xD, 2, 0x80, 0x9F⟩
  else if b < 0xF0 then some ⟨b.toNat - 0xE0, 2, 0x80, 0xBF⟩
  else if b = 0xF0 then some ⟨0, 3, 0x90, 0xBF⟩
  else if b < 0xF4 then some ⟨b.toNat - 0xF0, 3, 0x80, 0xBF⟩
  else if b = 0xF4 then some ⟨4, 3, 0x80, 0x8F⟩
  else none

structure Utf8Pending where
  value : Nat
  missing : Nat
  low : UInt8
  high : UInt8
  sequence : Bytes
  deriving DecidableEq, Repr

/-- Reads from `position` on, inside the character `pending` if there is one. Answers the text and
the bytes of a character that the end cuts off. -/
def decodeFrom (position : Nat) : Option Utf8Pending → Bytes → Except Utf8Flaw (Text × Bytes)
  | none, [] => .ok ([], [])
  | some p, [] => .ok ([], p.sequence)
  | none, b :: rest =>
    match Utf8Lead.ofByte? b with
    | none => .error ⟨position, [b], .invalidStart⟩
    | some lead =>
      if lead.following = 0 then
        (decodeFrom (position + 1) none rest).map fun r => (.char (Char.ofNat lead.share) :: r.1, r.2)
      else
        decodeFrom (position + 1) (some ⟨lead.share, lead.following, lead.low, lead.high, [b]⟩)
          rest
  | some p, b :: rest =>
    if p.low ≤ b && b ≤ p.high then
      let value := p.value * 64 + (b.toNat - 0x80)
      if p.missing = 1 then
        (decodeFrom (position + 1) none rest).map fun r => (.char (Char.ofNat value) :: r.1, r.2)
      else
        decodeFrom (position + 1) (some ⟨value, p.missing - 1, 0x80, 0xBF, p.sequence ++ [b]⟩) rest
    else .error ⟨position - p.sequence.length, p.sequence, .invalidContinuation⟩

def decodeUtf8 (bytes : Bytes) : Except Utf8Flaw Text :=
  match decodeFrom 0 none bytes with
  | .error flaw => .error flaw
  | .ok (text, []) => .ok text
  | .ok (_, b :: left) =>
    .error ⟨bytes.length - (b :: left).length, b :: left, .unexpectedEnd⟩

/-- The bytes of a code point in the scheme of UTF-8. Those of a surrogate are not UTF-8. -/
def encodePoint (c : CodePoint) : Bytes :=
  let n := c.toNat
  if n < 0x80 then [n.toUInt8]
  else if n < 0x800 then [(0xC0 + n / 64).toUInt8, (0x80 + n % 64).toUInt8]
  else if n < 0x10000 then
    [(0xE0 + n / 4096).toUInt8, (0x80 + n / 64 % 64).toUInt8, (0x80 + n % 64).toUInt8]
  else
    [(0xF0 + n / 262144).toUInt8, (0x80 + n / 4096 % 64).toUInt8, (0x80 + n / 64 % 64).toUInt8,
      (0x80 + n % 64).toUInt8]

def encodeUtf8 (text : Text) : Bytes := text.flatMap encodePoint

/-- The first surrogates of a text: where they begin, and which stand there in a row. -/
structure SurrogateFlaw where
  position : Nat
  run : Text
  deriving DecidableEq, Repr

def surrogates? (text : Text) : Option SurrogateFlaw :=
  match text.span fun c => !c.isSurrogate with
  | (_, []) => none
  | (before, c :: rest) => some ⟨before.length, (c :: rest).takeWhile CodePoint.isSurrogate⟩

/-- What a stream of UTF-8 takes of some pieces. Each piece is taken as a whole or not at all, and
nothing is taken after one that has surrogates. -/
def taken : List Text → Text × Option SurrogateFlaw
  | [] => ([], none)
  | piece :: rest =>
    match surrogates? piece with
    | some flaw => ([], some flaw)
    | none => (piece ++ (taken rest).1, (taken rest).2)

end GeoUrn.Text
