import GeoUrn.Batch.Parse
import GeoUrn.Command.Invocation
import GeoUrn.Command.Report
import GeoUrn.Digest

/-!
The command that reads a file of identifiers, writes the rows, and keeps an audit log if it is
asked to. Faults on the way are reported on standard error and in the log; the opening of the log
comes before that.
-/
namespace GeoUrn.Command

open Audit (Logger Draft Desk)

/-- The name of the program, as it stands in front of its arguments. -/
def programName : Chars := "ogcdef"

def writeStage : Text := "write"

structure BatchCounts where
  read : Nat
  recognized : Nat
  written : Nat
  deriving DecidableEq, Repr

/-- How far a batch came: the desk as it left it, the progress it told, and its numbers or the fault
that ended it. -/
structure BatchProgress where
  desk : Desk
  progress : List Text
  result : Except Fault BatchCounts

def configOf (job : BatchJob) : Batch.Config :=
  if job.keepComments then .keepingComments else .standard

/-- Reports the written file and the end of the run to the log. -/
def noteSuccess (job : BatchJob) (counts : BatchCounts) (desk : Desk) : Except Fault Unit × Desk :=
  match desk.logger with
  | none => (.ok (), desk)
  | some _ =>
    match Digest.ofFile desk.site.files (Path.ofText job.output) with
    | .error fault => (.error fault, desk)
    | .ok digest => desk.noteAll [
        .artifactWritten (Text.ofChars job.output) digest (some writeStage) (some counts.written),
        .runFinished "success" (.float desk.site.duration) (some counts.read)
          (some counts.recognized)]

def processBatch (job : BatchJob) (desk : Desk) : BatchProgress :=
  match Batch.parseFile (configOf job) desk.logger job.input desk.site with
  | (.error fault, desk) => ⟨desk, [], .error fault⟩
  | (.ok rows, desk) =>
    let recognized := Batch.recognizedCount rows
    let progress : List Text := [
      "Recognized " ++ Decimal.ofNat recognized ++ " of " ++ Decimal.ofNat rows.length ++
        " identifiers",
      "Writing to: " ++ Text.ofChars job.output]
    let (written, files) := Batch.writeRows rows (Path.ofText job.output) desk.site.files
    let desk := { desk with site := { desk.site with files := files } }
    match written with
    | .error fault => ⟨desk, progress, .error fault⟩
    | .ok written =>
      let counts := ⟨rows.length, recognized, written⟩
      match noteSuccess job counts desk with
      | (.error fault, desk) => ⟨desk, progress, .error fault⟩
      | (.ok (), desk) => ⟨desk, progress, .ok counts⟩

def successLine (job : BatchJob) (counts : BatchCounts) : Text :=
  "✓ Wrote " ++ Decimal.ofNat counts.written ++ " results to " ++ Text.ofChars job.output ++
    " (" ++ Decimal.ofNat counts.recognized ++ " recognized)"

def failureLine (fault : Fault) : Text := "✗ Error: " ++ fault.message

/-- Reports the beginning of the run to the log, and does the work. -/
def attemptBatch (job : BatchJob) (words : List Text) (desk : Desk) : BatchProgress :=
  match desk.note (.runStarted (Text.ofChars programName :: words) (configOf job).members
      desk.site.version) with
  | (.error fault, desk) => ⟨desk, [], .error fault⟩
  | (.ok (), desk) => processBatch job desk

/-- Reports a fault to the log and on standard error, after the progress that was told. A fault of
this reporting is not handled any more. A stack trace, which would follow the line of the fault if
progress is told, is left out. -/
def reportFault (fault : Fault) (progress : List Text) (desk : Desk) : Site × Report :=
  match desk.noteAll [.error fault.className fault.message none none,
      .runFinished "failed" (.float desk.site.duration) none none] with
  | (.error unhandled, desk) => (desk.close, ⟨1, [], Report.printed progress, some unhandled⟩)
  | (.ok (), desk) =>
    (desk.close, ⟨1, [], Report.printed (progress ++ [failureLine fault]), none⟩)

/-- Runs a batch at a desk whose log, if there is one, is open. -/
def runLogged (job : BatchJob) (words : List Text) (desk : Desk) : Site × Report :=
  let opening : List Text := ["Parsing file: " ++ Text.ofChars job.input]
  let run := attemptBatch job words desk
  let progress := if job.verbose then opening ++ run.progress else []
  match run.result with
  | .ok counts =>
    (run.desk.close, ⟨0, Report.printed [successLine job counts], Report.printed progress, none⟩)
  | .error fault => reportFault fault progress run.desk

def openLog (job : BatchJob) (site : Site) : Except Fault Desk × Site :=
  match job.auditLog with
  | none => (.ok ⟨none, site⟩, site)
  | some [] => (.ok ⟨none, site⟩, site)
  | some name =>
    let (opened, files) := Logger.start site.runId (Path.ofText name) site.files
    let site := { site with files := files }
    (opened.map fun logger => ⟨some logger, site⟩, site)

/-- Whether a name leads to a file that can be read. A name that ends in a slash, or in a dot after
one, can only lead to a directory. -/
def isInputFile (files : FileTree) (name : Chars) : Bool :=
  let last := (Text.split '/' name).getLast?.getD []
  last != [] && last != ['.'] && files.isFile (Path.ofText name)

/-- Runs a batch. `words` are all arguments of the program; those that do not say what to do may
hold surrogates. -/
def runBatch (job : BatchJob) (words : List Text) (site : Site) : Site × Outcome :=
  if job.paths.any Path.hasZero then (site, .ended ⟨1, [], [], some .zeroCharacter⟩)
  else if isInputFile site.files job.input then
    match openLog job site with
    | (.error fault, site) => (site, .ended ⟨1, [], [], some fault⟩)
    | (.ok desk, _) =>
      let (site, report) := runLogged job words desk
      (site, .ended report)
  else (site, .misused)

end GeoUrn.Command
