import GeoUrn.Text.Case
import GeoUrn.Text.Span

/-!
The components of an identifier. A piece of text says a component if it is the same up to case and
blanks around it; blanks inside count.
-/
namespace GeoUrn.Component

def separator : CodePoint := ':'

def urnScheme : Text := ['u', 'r', 'n']

def httpScheme : Text := ['h', 't', 't', 'p']

/-- The namespaces of definitions: the registered one, and the one used before it. -/
def namespaces : List Text := [['o', 'g', 'c'], ['x', '-', 'o', 'g', 'c']]

def definition : Text := ['d', 'e', 'f']

/-- How every URN that is written begins, without the separator after it. -/
def urnLead : Text := ['u', 'r', 'n', ':', 'o', 'g', 'c', ':', 'd', 'e', 'f']

def reads (component piece : Text) : Bool := Text.sameIgnoringCase (Text.trim piece) component

def readsAny (components : List Text) (piece : Text) : Bool :=
  components.any fun component => reads component piece

def regionMatches (component text : Text) (lower upper : Int) : Except Text.SpanFault Bool :=
  (Text.trimBounds text lower upper).map fun range =>
    range.2 - range.1 == (component.length : Int) &&
      Text.lower (Text.slice text range.1 range.2) == Text.lower component

/-- Whether a range of the text says one of the components; they are tried in order. -/
def matchesAny (text : Text) (lower upper : Int) : List Text → Except Text.SpanFault Bool
  | [] => .ok false
  | component :: more =>
    match regionMatches component text lower upper with
    | .error fault => .error fault
    | .ok true => .ok true
    | .ok false => matchesAny text lower upper more

end GeoUrn.Component
