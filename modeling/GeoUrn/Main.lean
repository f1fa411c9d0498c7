import GeoUrn.Command.Run
import Std.Time.DateTime.Timestamp

/-!
The program on a real machine. The files that a command line names are taken into a tree, the
command runs on this tree, and what it changed is written back.
-/
namespace GeoUrn.Main

open GeoUrn.Command (Invocation Outcome)

/-- The text as it can be printed, with a question mark for each surrogate. -/
def shown (text : Text) : Chars :=
  text.map fun
    | .char c => c
    | .surrogate _ => '?'

def namedPaths (words : List Chars) : List Path :=
  match Invocation.ofArguments words with
  | some (.batch job) => job.paths
  | _ => []

def loadEntry (tree : FileTree) (path : Path) : IO FileTree := do
  let place := (← IO.currentDir) / String.ofList path.toChars
  match tree.locate path with
  | .error _ => return tree
  | .ok location =>
    if (tree.entryAt? location).isSome then return tree
    else if ← place.isDir then return tree.putAt location .directory
    else if ← place.pathExists then
      return tree.putAt location (.file (← IO.FS.readBinFile place).toList)
    else return tree

def load (tree : FileTree) (path : Path) : IO FileTree :=
  ((List.range path.names.length).map fun n => Path.mk (path.names.take (n + 1))).foldlM
    loadEntry tree

def store (entry : Location × FileEntry) : IO Unit := do
  let place := (← IO.currentDir) / String.ofList (Path.mk entry.1).toChars
  match entry.2 with
  | .directory => IO.FS.createDirAll place
  | .file bytes => IO.FS.writeBinFile place ⟨bytes.toArray⟩

def now : IO Instant := do
  let time ← Std.Time.Timestamp.now
  return Instant.ofMicroseconds (time.toNanosecondsSinceUnixEpoch.val.toNat / 1000)

def randomDigits : IO Chars := do
  let bytes ← IO.getRandomBytes 4
  return bytes.toList.flatMap fun b => shown (Decimal.hex 2 b.toNat)

def present (outcome : Outcome) : IO Unit := do
  match outcome with
  | .misused => IO.eprintln "This command line is not understood. Try: ogcdef --help"
  | .ended report =>
    IO.print (String.ofList (shown report.stdout))
    IO.eprint (String.ofList (shown report.stderr))
    match report.escaped with
    | none => pure ()
    | some fault => IO.eprintln (String.ofList (shown (fault.className ++ ": " ++ fault.message)))

/-- Runs the program, and answers its exit code. The time that a run reports is that of taking its
files in. -/
def runProgram (words : List Chars) : IO UInt32 := do
  let begun ← IO.monoNanosNow
  let home := Path.ofText (← IO.currentDir).toString.toList
  let files ← (namedPaths words).foldlM load (FileTree.empty home.names)
  let elapsed := Decimal.Binary64.ofRatio false ((← IO.monoNanosNow) - begun) 1000000000
  let site : Site := ⟨files, ← now, ← randomDigits, some programVersion, elapsed⟩
  let (after, outcome) := Command.run words site
  for entry in after.files.entries do
    if !files.entries.contains entry then store entry
  present outcome
  return outcome.exitCode.toUInt32

end GeoUrn.Main

def main (args : List String) : IO UInt32 := GeoUrn.Main.runProgram (args.map String.toList)
