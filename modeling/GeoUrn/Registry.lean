import GeoUrn.Fault
import GeoUrn.Table
import GeoUrn.Text.Case

/-!
Registries of paths. An entry says under which server and path the HTTP form of the definitions of
one object type is found: the text after `http:` and before the authority.
-/
namespace GeoUrn

/-- Entries in the order in which they are tried. Each has a type and a path, and no type stands
twice, though types may differ in case alone. -/
structure Registry where
  entries : List (Text × Text)
  complete : ∀ e ∈ entries, e.1 ≠ [] ∧ e.2 ≠ []
  distinct : (entries.map Prod.fst).Nodup
  deriving DecidableEq, Repr

namespace Registry

def isIncomplete (entry : Text × Text) : Bool := entry.1.isEmpty || entry.2.isEmpty

/-- The registry of some pairs of a type and a path. The first incomplete entry is refused. -/
def ofPairs (pairs : List (Text × Text)) : Except Fault Registry :=
  match h : (Table.ofPairs pairs).find? isIncomplete with
  | some entry => .error (.emptyEntry entry.1 entry.2)
  | none =>
    .ok {
      entries := Table.ofPairs pairs
      complete := fun e he => by
        have := List.find?_eq_none.1 h e he
        simpa [isIncomplete] using this
      distinct := Table.nodup_ofPairs pairs }

/-- The path of a type: of the entry with exactly this name if there is one, else of the first
entry with this name up to case. -/
def path? (registry : Registry) (type : Text) : Option Text :=
  match Table.get? type registry.entries with
  | some path => some path
  | none =>
    (registry.entries.find? fun e => Text.lower e.1 == Text.lower type).map Prod.snd

def contains (registry : Registry) (type : Text) : Bool := (registry.path? type).isSome

def types (registry : Registry) : List Text := registry.entries.map Prod.fst

def size (registry : Registry) : Nat := registry.entries.length

/-- Entries are not set one by one: a registry stays as it was built. -/
def setEntry (_registry : Registry) (_type _path : Text) : Except Fault Registry :=
  .error .fixedEntries

def setEntries (_registry : Registry) (_entries : List (Text × Text)) : Except Fault Registry :=
  .error (.fixedField "paths")

def crsPath : Text :=
  ['/', '/', 'w', 'w', 'w', '.', 'o', 'p', 'e', 'n', 'g', 'i', 's', '.', 'n', 'e', 't', '/', 'g',
   'm', 'l', '/', 's', 'r', 's', '/']

def standard : Registry where
  entries := [(['c', 'r', 's'], crsPath)]
  complete := by simp [crsPath]
  distinct := by simp

end Registry

end GeoUrn
