import GeoUrn.Definition.Basic
import GeoUrn.Json.Printer

/-!
Rows: what became of the lines of an input, and the file in which they are kept, one JSON object
a line.
-/
namespace GeoUrn.Batch

open CodePoint (char)

/-- A line of the input by its number and text, with its definition if it has one. -/
structure Row where
  line : Int
  input : Text
  definition : Option Definition
  deriving DecidableEq, Repr

namespace Row

def recognized (row : Row) : Bool := row.definition.isSome

def toJson (row : Row) : Json.Value :=
  .object [
    ("line", .ofInt row.line),
    ("input", .text row.input),
    ("recognized", .bool row.recognized),
    ("definition", .ofOption Definition.toJson row.definition)]

def toLine (row : Row) : Text := row.toJson.compact ++ [char '\n']

def pieces (row : Row) : List Text := row.toJson.compactPieces ++ [[char '\n']]

end Row

def toText (rows : List Row) : Text := rows.flatMap Row.toLine

def recognizedCount (rows : List Row) : Nat := (rows.filter Row.recognized).length

end GeoUrn.Batch
