import GeoUrn.Text.Basic

/-!
Numerals: natural numbers and integers written with digits, and the number that digits stand for.
-/
namespace GeoUrn.Decimal

/-- The character of a digit; those above nine are the first small letters. -/
def digitChar (d : Nat) : CodePoint :=
  .char (if d < 10 then Char.ofNat (48 + d) else Char.ofNat (87 + d))

/-- `n` in the base `b`, with the most significant digit first and no needless zeros. -/
def digits (b n : Nat) : Text :=
  if _h : n < b ∨ b < 2 then [digitChar n]
  else digits b (n / b) ++ [digitChar (n % b)]
  termination_by n
  decreasing_by exact Nat.div_lt_self (by omega) (by omega)

def ofNat (n : Nat) : Text := digits 10 n

/-- `n` in decimal digits, after a minus sign if it is negative. -/
def ofInt (n : Int) : Text := if n < 0 then '-' :: ofNat n.natAbs else ofNat n.natAbs

/-- The numeral, filled up with zeros in front to at least `width` digits. -/
def widen (width : Nat) (numeral : Text) : Text :=
  List.replicate (width - numeral.length) (CodePoint.char '0') ++ numeral

def padded (width n : Nat) : Text := widen width (ofNat n)

def hex (width n : Nat) : Text := widen width (digits 16 n)

def isDigit (c : CodePoint) : Bool := '0' ≤ c && c ≤ '9'

def value (numeral : Text) : Nat := numeral.foldl (fun n c => n * 10 + (c.toNat - 48)) 0

/-- The number that a hexadecimal digit of either case stands for. -/
def hexDigit? (c : CodePoint) : Option Nat :=
  if isDigit c then some (c.toNat - 48)
  else if 'a' ≤ c && c ≤ 'f' then some (c.toNat - 87)
  else if 'A' ≤ c && c ≤ 'F' then some (c.toNat - 55)
  else none

end GeoUrn.Decimal
