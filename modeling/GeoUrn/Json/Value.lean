import GeoUrn.Decimal.Shortest

/-!
JSON values. Whole numbers keep all their digits and stay apart from numbers with a point, and an
object keeps the order of its members.
-/
namespace GeoUrn.Json

inductive Number where
  | whole (n : Int)
  | float (x : Decimal.Binary64)
  deriving DecidableEq, Repr

inductive Value where
  | null
  | bool (b : Bool)
  | number (n : Number)
  | text (t : Text)
  | array (elements : List Value)
  | object (members : List (Text × Value))
  deriving Repr

abbrev Members := List (Text × Value)

namespace Value

def ofNat (n : Nat) : Value := .number (.whole n)

def ofInt (n : Int) : Value := .number (.whole n)

def ofString (s : String) : Value := .text s

def texts (ts : List Text) : Value := .array (ts.map .text)

/-- `null` stands for what is not there. -/
def ofOption (toValue : α → Value) : Option α → Value
  | none => .null
  | some a => toValue a

/-- The member of that name; of several the last one. -/
def member? (name : Text) : Value → Option Value
  | .object members => (members.reverse.find? fun m => m.1 == name).map Prod.snd
  | _ => none

def kindName : Value → Text
  | .null => "NoneType"
  | .bool _ => "bool"
  | .number (.whole _) => "int"
  | .number (.float _) => "float"
  | .text _ => "str"
  | .array _ => "list"
  | .object _ => "dict"

end Value

end GeoUrn.Json
