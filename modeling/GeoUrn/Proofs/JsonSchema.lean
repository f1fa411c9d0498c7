import GeoUrn.Json.Value
import Mathlib

/-!
Schemas of JSON values, with the keywords that the published schemas use. A keyword says nothing of
values of other kinds than its own, so each schema also names the kinds that it admits.
-/
namespace GeoUrn.Json

namespace Number

/-- Whether the number has no fraction. It may be written with a point. -/
def isWhole : Number → Bool
  | .whole _ => true
  | .float (.finite _ mantissa exponent) =>
    0 ≤ exponent || mantissa % 2 ^ exponent.natAbs == 0
  | .float _ => false

/-- Whether the number is not below the bound. What is no number at all is not below any. -/
def isAtLeast (bound : ℤ) : Number → Bool
  | .whole n => bound ≤ n
  | .float (.finite negative mantissa exponent) =>
    let signed : ℤ := if negative then -mantissa else mantissa
    if 0 ≤ exponent then bound ≤ signed * 2 ^ exponent.natAbs
    else bound * 2 ^ exponent.natAbs ≤ signed
  | .float (.infinite negative) => !negative
  | .float .undefined => true

end Number

inductive Kind where
  | null
  | boolean
  | integer
  | string
  | array
  | object
  deriving DecidableEq, Repr

def Kind.includes : Kind → Value → Bool
  | .null, .null => true
  | .boolean, .bool _ => true
  | .integer, .number n => n.isWhole
  | .string, .text _ => true
  | .array, .array _ => true
  | .object, .object _ => true
  | _, _ => false

/-- A keyword of a schema, or several schemas together. Of patterns there are only those that fix
how a text begins. -/
inductive Schema where
  | type (kinds : List Kind)
  | minLength (n : ℕ)
  | lead (text : Text)
  | minimum (bound : ℤ)
  | minItems (n : ℕ)
  | items (schema : Schema)
  | required (names : List Text)
  | noOthers (names : List Text)
  | property (name : Text) (schema : Schema)
  | all (schemas : List Schema)
  | oneOf (schemas : List Schema)
  deriving Repr

namespace Schema

mutual

def accepts : Schema → Value → Bool
  | .type kinds, v => kinds.any fun kind => kind.includes v
  | .minLength n, .text t => n ≤ t.length
  | .lead text, .text t => text.isPrefixOf t
  | .minimum bound, .number n => n.isAtLeast bound
  | .minItems n, .array vs => n ≤ vs.length
  | .items schema, .array vs => vs.all (accepts schema)
  | .required names, .object ms => names.all fun name => ((Value.object ms).member? name).isSome
  | .noOthers names, .object ms => ms.all fun m => m.1 ∈ names
  | .property name schema, v => (v.member? name).all (accepts schema)
  | .all schemas, v => acceptsEach schemas v
  | .oneOf schemas, v => countAccepting schemas v == 1
  -- A keyword does not restrict what it is not about.
  | _, _ => true

def acceptsEach : List Schema → Value → Bool
  | [], _ => true
  | schema :: more, v => accepts schema v && acceptsEach more v

def countAccepting : List Schema → Value → ℕ
  | [], _ => 0
  | schema :: more, v => (if accepts schema v then 1 else 0) + countAccepting more v

end

/-- Objects that have exactly the named members, each as its schema says. -/
def record (entries : List (Text × Schema)) : Schema :=
  .all (.type [.object] :: .required (entries.map Prod.fst) :: .noOthers (entries.map Prod.fst) ::
    entries.map fun entry => .property entry.1 entry.2)

theorem accepts_all_iff (schemas : List Schema) (v : Value) :
    (all schemas).accepts v ↔ ∀ schema ∈ schemas, schema.accepts v := by
  rw [accepts]
  induction schemas with
  | nil => simp [acceptsEach]
  | cons schema more ih => simp [acceptsEach, ih]

theorem accepts_both_iff (first second : Schema) (v : Value) :
    (all [first, second]).accepts v ↔ first.accepts v ∧ second.accepts v := by
  simp [accepts_all_iff]

/-- Of two schemas one accepts the value and the other does not. -/
theorem accepts_oneOf_pair_iff (first second : Schema) (v : Value) :
    (oneOf [first, second]).accepts v ↔ (first.accepts v ↔ ¬ second.accepts v) := by
  simp only [accepts, countAccepting]
  cases first.accepts v <;> cases second.accepts v <;> simp

/-- A record has the named members, each accepted by its schema, and no others. -/
theorem accepts_record_iff (entries : List (Text × Schema)) (members : Members) :
    (record entries).accepts (.object members) ↔
      (∀ m ∈ members, m.1 ∈ entries.map Prod.fst) ∧
        ∀ entry ∈ entries, ∃ v, (Value.object members).member? entry.1 = some v ∧
          entry.2.accepts v := by
  have hobject : (type [.object]).accepts (.object members) := by simp [accepts, Kind.includes]
  -- To be required and to be as its schema says comes to one demand on a member.
  have hproperty (entry : Text × Schema) :
      (((Value.object members).member? entry.1).isSome ∧
        (property entry.1 entry.2).accepts (.object members)) ↔
      ∃ v, (Value.object members).member? entry.1 = some v ∧ entry.2.accepts v := by
    rw [accepts]
    cases (Value.object members).member? entry.1 <;> simp
  rw [record, accepts_all_iff]
  simp only [List.forall_mem_cons, List.forall_mem_map, hobject, true_and, ← hproperty,
    imp_and, forall_and]
  rw [accepts, accepts]
  simp only [List.all_eq_true, List.forall_mem_map, decide_eq_true_eq]
  tauto

end Schema

end GeoUrn.Json
