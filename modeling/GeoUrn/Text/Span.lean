import GeoUrn.Text.Basic
import GeoUrn.Text.Identifier

/-!
Positions and ranges in a text. A negative position counts from the end. A slice stops at the ends
of the text, so that every range has one; a single character outside the text is a fault.
-/
namespace GeoUrn.Text

/-- A single character was asked for at a position outside the text. -/
inductive SpanFault where
  | outside
  deriving DecidableEq, Repr

/-- Where a slice of a text of `length` characters begins or ends when it is asked to do so
at `position`. -/
def bound (length : Nat) (position : Int) : Nat :=
  if position < 0 then (position + length).toNat else min position.toNat length

/-- The characters from `lower` up to, and not including, `upper`. -/
def slice (text : Text) (lower upper : Int) : Text :=
  (text.take (bound text.length upper)).drop (bound text.length lower)

def charAt (text : Text) (position : Int) : Except SpanFault CodePoint :=
  let index := if position < 0 then position + text.length else position
  if index < 0 then .error .outside
  else
    match text[index.toNat]? with
    | some c => .ok c
    | none => .error .outside

def find? (text : Text) (c : CodePoint) (start : Int) : Option Nat :=
  let skipped := bound text.length start
  ((text.drop skipped).findIdx? (· == c)).map (skipped + ·)

/-- The first position of the range `lower`, ..., `upper` whose character is not blank; `upper`
if there is none. -/
def skipLeading (text : Text) (lower upper : Int) : Except SpanFault Int :=
  if lower < upper then
    match charAt text lower with
    | .error fault => .error fault
    | .ok c => if isBlank c then skipLeading text (lower + 1) upper else .ok lower
  else .ok lower
  termination_by (upper - lower).toNat

/-- The position after the last character of the range that is not blank; `lower` if there is
none. -/
def skipTrailing (text : Text) (lower upper : Int) : Except SpanFault Int :=
  if lower < upper then
    match charAt text (upper - 1) with
    | .error fault => .error fault
    | .ok c => if isBlank c then skipTrailing text lower (upper - 1) else .ok upper
  else .ok upper
  termination_by (upper - lower).toNat

/-- The range without the blanks at its two ends, as positions. -/
def trimBounds (text : Text) (lower upper : Int) : Except SpanFault (Int × Int) :=
  match skipLeading text lower upper with
  | .error fault => .error fault
  | .ok first =>
    match skipTrailing text first upper with
    | .error fault => .error fault
    | .ok last => .ok (first, last)

/-- The characters of a range without the blanks at its two ends. -/
def trimRange (text : Text) (lower upper : Int) : Except SpanFault Text :=
  (trimBounds text lower upper).map fun range => slice text range.1 range.2

/-- The first position at or after `start` that has no identifier character. -/
def skipIdentifier (text : Text) (start : Int) : Except SpanFault Int :=
  if start < text.length then
    match charAt text start with
    | .error fault => .error fault
    | .ok c => if isIdentifierPart c then skipIdentifier text (start + 1) else .ok start
  else .ok start
  termination_by (text.length - start).toNat

end GeoUrn.Text
