import GeoUrn.Audit.Logger
import GeoUrn.Batch.Config
import GeoUrn.Batch.Row
import GeoUrn.Definition.Parse
import GeoUrn.Files.Reading

/-!
Reading many identifiers, one a line. Each line that is not skipped becomes a row, and each row
without a definition is reported to the log if there is one.
-/
namespace GeoUrn.Batch

open Audit (Logger Draft Desk)

def parseStage : Text := "parse"

/-- Reports a row to the log if there is one and if the row has no definition. -/
def report (desk : Desk) (row : Row) : Except Fault Unit × Desk :=
  if row.recognized then (.ok (), desk)
  else desk.note (Draft.lineUnrecognized row.line row.input (some parseStage))

/-- The rows or the fault that ended the reading, and the desk with what was written to the log. -/
abbrev Result := Except Fault (List Row) × Desk

/-- Reads the lines from number `n` on. Line ends at the end of a line do not belong to it. -/
def parseFrom (config : Config) (n : Nat) (desk : Desk) : List Text → Result
  | [] => (.ok [], desk)
  | raw :: rest =>
    let text := Text.chomp raw
    if config.skips text then parseFrom config (n + 1) desk rest
    else
      let row : Row := ⟨n, text, Definition.parse? config.registry text⟩
      match report desk row with
      | (.error fault, desk) => (.error fault, desk)
      | (.ok (), desk) =>
        let (rows, desk) := parseFrom config (n + 1) desk rest
        (rows.map fun rows => row :: rows, desk)

def parseLines (config : Config) (logger : Option Logger) (lines : List Text) (site : Site) :
    Result :=
  parseFrom config 1 ⟨logger, site⟩ lines

/-- Reads what was read of a file. A flaw ends it after the lines before. -/
def parseReading (config : Config) (logger : Option Logger) (reading : Reading) (site : Site) :
    Result :=
  let result := parseLines config logger reading.lines site
  match reading.flaw, result.1 with
  | some flaw, .ok _ => (.error (.notUtf8 flaw), result.2)
  | _, _ => result

def parseFile (config : Config) (logger : Option Logger) (name : Chars) (site : Site) : Result :=
  let path := Path.ofText name
  match site.files.lookup path with
  | .error fault => (.error fault, ⟨logger, site⟩)
  | .ok none => (.error (.fileNotFound (Text.ofChars name)), ⟨logger, site⟩)
  | .ok (some _) =>
    match site.files.read path with
    | .error fault => (.error fault, ⟨logger, site⟩)
    | .ok bytes => parseReading config logger (Reading.ofBytes bytes) site

/-- Writes rows to a file, whose directories are made and whose former text is lost; answers how
many rows were written. Surrogates end the writing, and the file keeps what stands before the piece
that has them. -/
def writeRows (rows : List Row) (path : Path) (files : FileTree) : FileTree.Effect Nat :=
  let (text, flaw) := Text.taken (rows.flatMap Row.pieces)
  match files.writeDeep path (Text.encodeUtf8 text) with
  | (.error fault, files) => (.error fault, files)
  | (.ok (), files) =>
    match flaw with
    | some flaw => (.error (.notEncodable flaw), files)
    | none => (.ok rows.length, files)

end GeoUrn.Batch
