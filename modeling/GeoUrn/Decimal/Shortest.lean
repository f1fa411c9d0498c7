import GeoUrn.Decimal.Binary64

/-!
The shortest decimal numeral that reads back as a given floating-point number. Of the numerals
with the fewest digits the one nearest to the number is taken.
-/
namespace GeoUrn.Decimal

open CodePoint (char)

structure Numeral where
  digits : Nat
  scale : Int
  deriving DecidableEq, Repr

/-- The numbers that round to `mantissa * 2 ^ exponent`, as multiples of `unit`: those between
`low` and `high`, with the ends if `closed`. The number itself is `middle`. -/
structure RoundingRange where
  low : Nat
  middle : Nat
  high : Nat
  closed : Bool
  unit : Nat × Nat
  deriving DecidableEq, Repr

/-- Half-way to the two neighbours. Below a power of two the neighbours lie twice as close. -/
def RoundingRange.of (mantissa : Nat) (exponent : Int) : RoundingRange where
  low := if mantissa = Nat.pow 2 52 ∧ Binary64.leastExponent < exponent then 4 * mantissa - 1
    else 4 * mantissa - 2
  middle := 4 * mantissa
  high := 4 * mantissa + 2
  closed := mantissa % 2 = 0
  unit := if exponent < 2 then (1, Nat.pow 2 (2 - exponent).natAbs)
    else (Nat.pow 2 (exponent - 2).natAbs, 1)

def RoundingRange.measure (r : RoundingRange) (n : Nat) (scale : Int) : Nat × Nat :=
  if scale < 0 then (n * r.unit.2, r.unit.1 * Nat.pow 10 scale.natAbs)
  else (n * Nat.pow 10 scale.natAbs * r.unit.2, r.unit.1)

def RoundingRange.has (r : RoundingRange) (n : Nat) (scale : Int) : Bool :=
  let (num, den) := r.measure n scale
  if r.closed then r.low * den ≤ num && num ≤ r.high * den
  else r.low * den < num && num < r.high * den

/-- The multiple of `10 ^ scale` just below the number, or the number itself. -/
def RoundingRange.below (r : RoundingRange) (scale : Int) : Nat :=
  if scale < 0 then r.middle * r.unit.1 * Nat.pow 10 scale.natAbs / r.unit.2
  else r.middle * r.unit.1 / (r.unit.2 * Nat.pow 10 scale.natAbs)

/-- The one of `n` and `n + 1` that is nearer to the number on the grid of `10 ^ scale`, with a tie
going to the even one. -/
def RoundingRange.nearer (r : RoundingRange) (n : Nat) (scale : Int) : Nat :=
  let (num, den) := r.measure (2 * n + 1) scale
  let twice := 2 * r.middle * den
  if twice < num then n
  else if num < twice then n + 1
  else if n % 2 = 0 then n else n + 1

/-- The numeral on the grid of `10 ^ scale` that rounds to the number, if there is one. -/
def RoundingRange.onGrid? (r : RoundingRange) (scale : Int) : Option Numeral :=
  let n := r.below scale
  match r.has n scale, r.has (n + 1) scale with
  | true, true => some ⟨r.nearer n scale, scale⟩
  | true, false => some ⟨n, scale⟩
  | false, true => some ⟨n + 1, scale⟩
  | false, false => none

def RoundingRange.search (r : RoundingRange) : Nat → Int → Option Numeral
  | 0, _ => none
  | steps + 1, scale =>
    match r.onGrid? scale with
    | some numeral => some numeral
    | none => r.search steps (scale - 1)

def Numeral.stripZeros : Nat → Numeral → Numeral
  | 0, numeral => numeral
  | steps + 1, ⟨digits, scale⟩ =>
    if digits ≠ 0 ∧ digits % 10 = 0 then stripZeros steps ⟨digits / 10, scale + 1⟩
    else ⟨digits, scale⟩

/-- The shortest numeral of a number that is not zero. The search begins above the number's first
digit, and seventeen digits always suffice. -/
def Numeral.shortest (mantissa : Nat) (exponent : Int) : Numeral :=
  let r := RoundingRange.of mantissa exponent
  let top : Int :=
    if exponent < 0 then
      ((ofNat mantissa).length : Int) - ((ofNat (Nat.pow 2 exponent.natAbs)).length : Int) + 1
    else ((ofNat (mantissa * Nat.pow 2 exponent.natAbs)).length : Int)
  match r.search 24 top with
  | some numeral => numeral.stripZeros 20
  | none => ⟨mantissa, exponent⟩

/-- How a numeral is laid out: the places of the first digit for which no exponent is written, and
the least number of digits of an exponent. -/
structure Layout where
  leastPlace : Int
  greatestPlace : Int
  exponentWidth : Nat
  deriving DecidableEq, Repr

/-- Numbers from 0.0001 up to 10 to the sixteenth are written without an exponent, all others with
one of at least two digits. -/
def standardLayout : Layout := ⟨-4, 15, 2⟩

/-- Digits, with the point after the first `whole` of them; a number always shows one digit on
each side of its point. -/
def positional (numeral : Text) (whole : Int) : Text :=
  if whole ≤ 0 then char '0' :: char '.' :: List.replicate whole.natAbs (char '0') ++ numeral
  else if numeral.length ≤ whole.natAbs then
    numeral ++ List.replicate (whole.natAbs - numeral.length) (char '0') ++ [char '.', char '0']
  else numeral.take whole.natAbs ++ char '.' :: numeral.drop whole.natAbs

/-- Digits with an exponent; the point is left out after a single digit. -/
def scientific (width : Nat) (numeral : Text) (place : Int) : Text :=
  let lead := numeral.take 1 ++ (if numeral.length ≤ 1 then [] else char '.' :: numeral.drop 1)
  let sign : CodePoint := if place < 0 then '-' else '+'
  lead ++ char 'e' :: sign :: padded width place.natAbs

def Numeral.render (layout : Layout) (numeral : Numeral) : Text :=
  let written := ofNat numeral.digits
  let place : Int := numeral.scale + written.length - 1
  if layout.leastPlace ≤ place ∧ place ≤ layout.greatestPlace then
    positional written (place + 1)
  else scientific layout.exponentWidth written place

structure Spelling where
  infinity : Text
  undefined : Text
  deriving DecidableEq, Repr

/-- The text of a floating-point number; zero keeps its sign. -/
def Binary64.render (spelling : Spelling) : Binary64 → Text
  | .undefined => spelling.undefined
  | .infinite negative => (if negative then [char '-'] else []) ++ spelling.infinity
  | .finite negative mantissa exponent =>
    (if negative then [char '-'] else []) ++
      if mantissa = 0 then (['0', '.', '0'] : Text)
      else (Numeral.shortest mantissa exponent).render standardLayout

end GeoUrn.Decimal
