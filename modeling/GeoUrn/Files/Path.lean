import GeoUrn.Text.Basic

/-!
Paths as lists of names. Empty names and single dots do not count, so that a path has one normal
form; the path without names is the working directory itself. A path whose first name is an anchor
begins at the top of all directories.
-/
namespace GeoUrn

structure Path where
  names : List Chars
  deriving DecidableEq, Repr

namespace Path

def rootName : Chars := ['/']

/-- Whether a name is an anchor: it begins with a slash, as no other name does. -/
def isAnchor (name : Chars) : Bool := name.head? == some '/'

/-- Reads a path. Two slashes at its front, and no third one, are an anchor of their own. -/
def ofText (text : Chars) : Path :=
  let names := (Text.split '/' text).filter fun name => name ≠ [] && name ≠ ['.']
  match text with
  | '/' :: '/' :: '/' :: _ => ⟨rootName :: names⟩
  | '/' :: '/' :: _ => ⟨['/', '/'] :: names⟩
  | '/' :: _ => ⟨rootName :: names⟩
  | _ => ⟨names⟩

def toChars (path : Path) : Chars :=
  match path.names with
  | [] => ['.']
  | name :: more =>
    if isAnchor name then name ++ Text.join ['/'] more else Text.join ['/'] (name :: more)

def toText (path : Path) : Text := Text.ofChars path.toChars

/-- The directory that holds the path; the first directories hold themselves. -/
def parent (path : Path) : Path :=
  match path.names with
  | [name] => if isAnchor name then path else ⟨[]⟩
  | names => ⟨names.dropLast⟩

def child (path : Path) (name : Chars) : Path := ⟨path.names ++ [name]⟩

def below (path : Path) (names : List Chars) : Path := ⟨path.names ++ names⟩

def lastName (path : Path) : Chars := path.names.getLast?.getD []

/-- Whether the zero character occurs in the path. It ends a path wherever it stands, so that such a
path leads nowhere. -/
def hasZero (path : Path) : Bool := path.names.any fun name => name.contains '\x00'

end Path

end GeoUrn
