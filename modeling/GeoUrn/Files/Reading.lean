import GeoUrn.Text.Basic
import GeoUrn.Text.Utf8

/-!
Reading text files block by block. The lines of a block can be used before the next one is read, so
that bytes which are not UTF-8 are noticed only in their block, and a character that the end of the
file cuts off only after all lines before it.
-/
namespace GeoUrn

open Text (Utf8Flaw decodeFrom decodeUtf8)

/-- What was read of a file: its text up to the block with a flaw, and this flaw if there is one.
Places of flaws count from the beginning of their block, after the byte-order mark. -/
structure Reading where
  text : Text
  flaw : Option Utf8Flaw
  deriving DecidableEq, Repr

namespace Reading

/-- The bytes that may stand before a UTF-8 text to mark it as one. -/
def byteOrderMark : Bytes := [0xEF, 0xBB, 0xBF]

/-- Whether a flaw is a surrogate whose third byte is not there yet. -/
def isCutSurrogate (bytes : Bytes) (flaw : Utf8Flaw) : Bool :=
  match bytes.drop flaw.position with
  | [first, second] => first = 0xED && 0xA0 ≤ second && second ≤ 0xBF
  | _ => false

/-- The text of a block, and the bytes at its end that are no whole character. A surrogate is none
at all, but is refused only once it is whole or the file has ended. -/
def decodeBlock (bytes : Bytes) : Except Utf8Flaw (Text × Bytes) :=
  match decodeFrom 0 none bytes with
  | .ok read => .ok read
  | .error flaw =>
    if isCutSurrogate bytes flaw then
      (decodeFrom 0 none (bytes.take flaw.position)).map fun read =>
        (read.1, bytes.drop flaw.position)
    else .error flaw

/-- Reads the blocks. The bytes of a character that a block cuts off go over to the next. -/
def ofBlocks (waiting : Bytes) : List Bytes → Reading
  | [] =>
    match decodeUtf8 waiting with
    | .error flaw => ⟨[], some flaw⟩
    | .ok text => ⟨text, none⟩
  | block :: rest =>
    match decodeBlock (waiting ++ block) with
    | .error flaw => ⟨[], some flaw⟩
    | .ok (text, left) =>
      let later := ofBlocks left rest
      ⟨text ++ later.text, later.flaw⟩

def withoutMark (block : Bytes) : Bytes :=
  if byteOrderMark.isPrefixOf block then block.drop byteOrderMark.length else block

/-- Reads a file. One byte-order mark at its start is dropped, and a file that ends inside its mark
is empty. -/
def ofBytes (bytes : Bytes) : Reading :=
  if bytes.isPrefixOf byteOrderMark then ⟨[], none⟩
  else
    match Bytes.blocks Bytes.readSize bytes with
    | [] => ⟨[], none⟩
    | first :: rest => ofBlocks [] (withoutMark first :: rest)

def withoutOpenReturn (text : Text) : Text :=
  if text.getLast? = some (CodePoint.char '\r') then text.dropLast else text

/-- The lines that were read. If a flaw follows, only lines whose end was seen count, and a carriage
return in the last place is not yet the end of a line. -/
def lines (reading : Reading) : List Text :=
  match reading.flaw with
  | none => Text.lines reading.text
  | some _ =>
    let unified := Text.unifyLineEnds (withoutOpenReturn reading.text)
    Text.piecesAt (· = '\n') (unified.reverse.dropWhile (· ≠ CodePoint.char '\n')).reverse

end Reading

end GeoUrn
