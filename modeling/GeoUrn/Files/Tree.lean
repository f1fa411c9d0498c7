import GeoUrn.Fault
import GeoUrn.Files.Path
import GeoUrn.Table
import GeoUrn.Text.Utf8

/-!
File trees. A tree is a flat table of files and directories by their place below the working
directory, which is always there. Reading, writing and making directories fail as an operating
system lets them fail: for what is not there, what is a directory, and what lies below a file.
-/
namespace GeoUrn

inductive FileEntry where
  | file (bytes : Bytes)
  | directory
  deriving DecidableEq, Repr

/-- Where an entry lies: the names from the top of the tree down to it. -/
abbrev Location := List Chars

/-- `home` is the location of the working directory. It and the directories above it are there
without an entry. -/
structure FileTree where
  home : Location
  entries : List (Location × FileEntry)
  deriving DecidableEq, Repr

namespace FileTree

def empty (home : Location) : FileTree := ⟨home, []⟩

def entryAt? (tree : FileTree) (location : Location) : Option FileEntry :=
  if location.isPrefixOf tree.home then some .directory else Table.get? location tree.entries

/-- The directory above a location; the top of the tree lies in itself. -/
def above (location : Location) : Location :=
  match location with
  | [top] => [top]
  | _ => location.dropLast

/-- How many bytes a name may have. -/
def nameLimit : Nat := 255

/-- How many bytes a path may have. -/
def pathLimit : Nat := 4095

/-- Goes from a location to the one of that name. It must be a directory that is left, also to go
back to the directory above with two dots. -/
def enter (tree : FileTree) (path : Path) (location : Location) (name : Chars) :
    Except Fault Location :=
  match tree.entryAt? location with
  | some .directory =>
    if name = ['.', '.'] then .ok (above location)
    else if nameLimit < (Text.encodeUtf8 (Text.ofChars name)).length then
      .error (.nameTooLong path.toText)
    else .ok (location ++ [name])
  | some (.file _) => .error (.notDirectory path.toText)
  | none => .error (.noEntry path.toText)

def follow (tree : FileTree) (path : Path) (location : Location) : List Chars →
    Except Fault Location
  | [] => .ok location
  | name :: rest =>
    match tree.enter path location name with
    | .error fault => .error fault
    | .ok location => tree.follow path location rest

/-- Where the names of a path lead, from the top of all directories if they have an anchor, else
from the working directory. -/
def trace (tree : FileTree) (path : Path) : Except Fault Location :=
  match path.names with
  | [] => .ok tree.home
  | name :: rest =>
    if Path.isAnchor name then tree.follow path [Path.rootName] rest
    else tree.follow path tree.home (name :: rest)

/-- Where a path leads. The last name need not be there. -/
def locate (tree : FileTree) (path : Path) : Except Fault Location :=
  if path.hasZero then .error .zeroCharacter
  else if pathLimit < (Text.encodeUtf8 path.toText).length then .error (.nameTooLong path.toText)
  else tree.trace path

def entry? (tree : FileTree) (path : Path) : Option FileEntry :=
  match tree.locate path with
  | .ok location => tree.entryAt? location
  | .error _ => none

/-- Looks up what lies at a path. What cannot be reached is not there, but a path that is too long
is refused. -/
def lookup (tree : FileTree) (path : Path) : Except Fault (Option FileEntry) :=
  match tree.locate path with
  | .ok location => .ok (tree.entryAt? location)
  | .error (.nameTooLong text) => .error (.nameTooLong text)
  | .error _ => .ok none

def isPresent (tree : FileTree) (path : Path) : Bool := (tree.entry? path).isSome

def isFile (tree : FileTree) (path : Path) : Bool :=
  match tree.entry? path with
  | some (.file _) => true
  | _ => false

def isDirectory (tree : FileTree) (path : Path) : Bool := tree.entry? path == some .directory

def bytesAt (tree : FileTree) (location : Location) : Bytes :=
  match tree.entryAt? location with
  | some (.file bytes) => bytes
  | _ => []

def read (tree : FileTree) (path : Path) : Except Fault Bytes :=
  match tree.locate path with
  | .error fault => .error fault
  | .ok location =>
    match tree.entryAt? location with
    | some (.file bytes) => .ok bytes
    | some .directory => .error (.isDirectory path.toText)
    | none => .error (.noEntry path.toText)

def putAt (tree : FileTree) (location : Location) (entry : FileEntry) : FileTree :=
  { tree with entries := Table.put location entry tree.entries }

/-- Where a file may be written under the path: anywhere but in the place of a directory. -/
def writable (tree : FileTree) (path : Path) : Except Fault Location :=
  match tree.locate path with
  | .error fault => .error fault
  | .ok location =>
    if tree.entryAt? location = some .directory then .error (.isDirectory path.toText)
    else .ok location

/-- Writes a file; its former bytes are lost. -/
def write (tree : FileTree) (path : Path) (bytes : Bytes) : Except Fault FileTree :=
  (tree.writable path).map fun location => tree.putAt location (.file bytes)

/-- Adds bytes at the end of the file at a location, which begins empty. -/
def appendAt (tree : FileTree) (location : Location) (bytes : Bytes) : FileTree :=
  tree.putAt location (.file (tree.bytesAt location ++ bytes))

/-- Opens a file to add to it: a file that is not there is created without any bytes. -/
def openToAppend (tree : FileTree) (path : Path) : Except Fault (Location × FileTree) :=
  (tree.writable path).map fun location => (location, tree.appendAt location [])

def makeDirectory (tree : FileTree) (path : Path) : Except Fault FileTree :=
  match tree.locate path with
  | .error fault => .error fault
  | .ok location =>
    if (tree.entryAt? location).isSome then .error (.alreadyExists path.toText)
    else .ok (tree.putAt location .directory)

/-- The outcome of an operation, and the tree after it. An operation that fails may have done a part
of its work. -/
abbrev Effect (α : Type) := Except Fault α × FileTree

def ensureDirectory (tree : FileTree) (path : Path) : Effect Unit :=
  match tree.makeDirectory path with
  | .ok tree => (.ok (), tree)
  | .error fault => (if tree.isDirectory path then .ok () else .error fault, tree)

/-- Makes a directory unless there is one, after the directories in which it lies if one of them is
missing. The names are given from the last one back. -/
def ensureChain (tree : FileTree) : List Chars → Effect Unit
  | [] => (.ok (), tree)
  | name :: up =>
    let path : Path := ⟨(name :: up).reverse⟩
    match tree.makeDirectory path with
    | .error (.noEntry _) =>
      match tree.ensureChain up with
      | (.ok (), tree) => tree.ensureDirectory path
      | failed => failed
    | _ => tree.ensureDirectory path

/-- Makes a directory and those in which it lies, as far as they are not there. -/
def makeDirectories (tree : FileTree) (path : Path) : Effect Unit :=
  tree.ensureChain path.names.reverse

/-- Writes a file after making the directories in which it lies. -/
def writeDeep (tree : FileTree) (path : Path) (bytes : Bytes) : Effect Unit :=
  match tree.makeDirectories path.parent with
  | (.error fault, tree) => (.error fault, tree)
  | (.ok (), tree) =>
    match tree.write path bytes with
    | .error fault => (.error fault, tree)
    | .ok tree => (.ok (), tree)

def removeAt (tree : FileTree) (location : Location) : FileTree :=
  { tree with entries := tree.entries.filter fun e => !location.isPrefixOf e.1 }

/-- Removes what lies at a path and below it, if there is something. -/
def remove (tree : FileTree) (path : Path) : FileTree :=
  match tree.locate path with
  | .ok location => tree.removeAt location
  | .error _ => tree

def childNamesAt (tree : FileTree) (location : Location) : List Chars :=
  (tree.entries.filter fun e => e.1.dropLast = location).map fun e => e.1.getLast?.getD []

def readDirectory (tree : FileTree) (path : Path) : Except Fault (List Chars) :=
  match tree.locate path with
  | .error fault => .error fault
  | .ok location =>
    match tree.entryAt? location with
    | some .directory => .ok (tree.childNamesAt location)
    | some (.file _) => .error (.notDirectory path.toText)
    | none => .error (.noEntry path.toText)

/-- The names in a directory; what is no directory has none. -/
def childNames (tree : FileTree) (path : Path) : List Chars :=
  match tree.readDirectory path with
  | .ok names => names
  | .error _ => []

end FileTree

end GeoUrn
