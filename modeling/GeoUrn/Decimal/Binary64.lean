import GeoUrn.Decimal.Digits

/-!
Floating-point numbers of 64 bits as exact values, and the nearest one to a decimal numeral.
-/
namespace GeoUrn.Decimal

/-- A floating-point number. A finite one is `mantissa * 2 ^ exponent`; the mantissa has 53 bits
unless the exponent is the least one, -1074. -/
inductive Binary64 where
  | finite (negative : Bool) (mantissa : Nat) (exponent : Int)
  | infinite (negative : Bool)
  | undefined
  deriving DecidableEq, Repr

namespace Binary64

def leastExponent : Int := -1074

def greatestExponent : Int := 971

/-- `num / den` rounded to the nearest natural number, a half to the even neighbour. -/
def roundDiv (num den : Nat) : Nat :=
  let q := num / den
  let twice := 2 * (num % den)
  if twice < den then q
  else if den < twice then q + 1
  else if q % 2 = 0 then q else q + 1

def roundAt (num den : Nat) (exponent : Int) : Nat :=
  if exponent < 0 then roundDiv (num * Nat.pow 2 exponent.natAbs) den
  else roundDiv num (den * Nat.pow 2 exponent.natAbs)

/-- The exponent that leaves `num / den` a mantissa of 53 bits, or the least one. -/
def exponentOf (num den : Nat) : Int :=
  let guess : Int := (num.log2 : Int) - (den.log2 : Int) - 52
  let scaledDown : Bool :=
    if guess < 0 then num * Nat.pow 2 guess.natAbs < den * Nat.pow 2 52
    else num < den * Nat.pow 2 52 * Nat.pow 2 guess.natAbs
  max leastExponent (if scaledDown then guess - 1 else guess)

def ofRatio (negative : Bool) (num den : Nat) : Binary64 :=
  if num = 0 then .finite negative 0 leastExponent
  else
    let exponent := exponentOf num den
    let mantissa := roundAt num den exponent
    let (mantissa, exponent) :=
      if mantissa = Nat.pow 2 53 then (Nat.pow 2 52, exponent + 1) else (mantissa, exponent)
    if greatestExponent < exponent then .infinite negative
    else .finite negative mantissa exponent

/-- The number nearest to `n * 10 ^ scale`. What is far outside the range of finite numbers is
settled by the place of its first digit. -/
def ofDecimal (negative : Bool) (n : Nat) (scale : Int) : Binary64 :=
  let place : Int := scale + (ofNat n).length
  if n = 0 || place < -330 then .finite negative 0 leastExponent
  else if 320 < place then .infinite negative
  else if scale < 0 then ofRatio negative n (Nat.pow 10 scale.natAbs)
  else ofRatio negative (n * Nat.pow 10 scale.natAbs) 1

end Binary64

end GeoUrn.Decimal
