import GeoUrn.Json.Value
import GeoUrn.Text.Quoted

/-!
JSON text. Only what must be escaped is escaped: quotes, backslashes and the control characters below
the space; all other characters stand for themselves. Error messages show values in another way.
-/
namespace GeoUrn.Json

open CodePoint (char)

def escaped (c : CodePoint) : Text :=
  if c = '"' then ['\\', '"']
  else if c = '\\' then ['\\', '\\']
  else if c = '\n' then ['\\', 'n']
  else if c = '\r' then ['\\', 'r']
  else if c = '\t' then ['\\', 't']
  else if c = '\x08' then ['\\', 'b']
  else if c = '\x0C' then ['\\', 'f']
  else if c.toNat < 0x20 then '\\' :: 'u' :: Decimal.hex 4 c.toNat
  else [c]

def renderString (text : Text) : Text := char '"' :: text.flatMap escaped ++ [char '"']

def numberSpelling : Decimal.Spelling := ⟨"Infinity", "NaN"⟩

def Number.render : Number → Text
  | .whole n => Decimal.ofInt n
  | .float x => x.render numberSpelling

/-- What stands between two elements, and between a name and its value. -/
structure Style where
  comma : Text
  colon : Text
  deriving DecidableEq, Repr

def compactStyle : Style := ⟨[','], [':']⟩

def spacedStyle : Style := ⟨[',', ' '], [':', ' ']⟩

namespace Value

mutual

def render (style : Style) : Value → Text
  | .null => ['n', 'u', 'l', 'l']
  | .bool true => ['t', 'r', 'u', 'e']
  | .bool false => ['f', 'a', 'l', 's', 'e']
  | .number n => n.render
  | .text t => renderString t
  | .array elements => char '[' :: renderElements style elements ++ [char ']']
  | .object members => char '\x7b' :: renderMembers style members ++ [char '\x7d']

def renderElements (style : Style) : List Value → Text
  | [] => []
  | [v] => render style v
  | v :: rest => render style v ++ style.comma ++ renderElements style rest

def renderMembers (style : Style) : List (Text × Value) → Text
  | [] => []
  | [(name, v)] => renderString name ++ style.colon ++ render style v
  | (name, v) :: rest =>
    renderString name ++ style.colon ++ render style v ++ style.comma ++ renderMembers style rest

end

/-- The pieces of an element with what stands before it. An element that is one piece takes this
into it. -/
def led (lead : Text) : List Text → List Text
  | [piece] => [lead ++ piece]
  | pieces => lead :: pieces

mutual

/-- The pieces in which the text is handed to a stream, one after the other. -/
def pieces (style : Style) : Value → List Text
  | .array elements =>
    match elements with
    | [] => [[char '[', char ']']]
    | _ => elementPieces style [char '['] elements ++ [[char ']']]
  | .object members => [char '\x7b'] :: memberPieces style members ++ [[char '\x7d']]
  | v => [render style v]

def elementPieces (style : Style) (lead : Text) : List Value → List Text
  | [] => []
  | v :: rest => led lead (pieces style v) ++ elementPieces style style.comma rest

def memberPieces (style : Style) : List (Text × Value) → List Text
  | [] => []
  | [(name, v)] => renderString name :: style.colon :: pieces style v
  | (name, v) :: rest =>
    renderString name :: style.colon :: pieces style v ++ style.comma :: memberPieces style rest

end

def compact (v : Value) : Text := v.render compactStyle

def compactPieces (v : Value) : List Text := v.pieces compactStyle

def spaced (v : Value) : Text := v.render spacedStyle

end Value

def shownSpelling : Decimal.Spelling := ⟨"inf", "nan"⟩

namespace Value

mutual

/-- Texts are shown in quotes, and the words for nothing and for truth values are capitalised. -/
def shown : Value → Text
  | .null => "None"
  | .bool true => "True"
  | .bool false => "False"
  | .number (.whole n) => Decimal.ofInt n
  | .number (.float x) => x.render shownSpelling
  | .text t => Text.quoted t
  | .array elements => char '[' :: shownElements elements ++ [char ']']
  | .object members => char '\x7b' :: shownMembers members ++ [char '\x7d']

def shownElements : List Value → Text
  | [] => []
  | [v] => v.shown
  | v :: rest => v.shown ++ ", " ++ shownElements rest

def shownMembers : List (Text × Value) → Text
  | [] => []
  | [(name, v)] => Text.quoted name ++ ": " ++ v.shown
  | (name, v) :: rest =>
    Text.quoted name ++ ": " ++ v.shown ++ ", " ++ shownMembers rest

end

end Value

end GeoUrn.Json
