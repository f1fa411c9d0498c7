import GeoUrn.Packaging.Script
import GeoUrn.Text.Basic

/-!
The checks of a package before its release: that it builds, that its metadata is in order, that
both of its archives install and start, and that the installed program works on a sample. The
checks run in this order, and the first that fails ends the run.
-/
namespace GeoUrn.Packaging

open Script

def rule : Text := List.replicate 70 '='

def heading (title : Text) : Script Unit := do
  say ('\n' :: rule)
  say ("  " ++ title)
  say (rule ++ "\n")

structure Programs where
  interpreter : Path
  program : Path
  deriving DecidableEq, Repr

/-- Where a virtual environment keeps its programs on a platform. -/
def Programs.of (platform : Text) (environment : Path) : Programs :=
  if platform = "win32" then
    ⟨environment.below ["Scripts", "python.exe"], environment.below ["Scripts", "ogcdef.exe"]⟩
  else ⟨environment.below ["bin", "python"], environment.below ["bin", "ogcdef"]⟩

/-- A process whose failure ends the run, and whose outputs are not kept. -/
def Call.plain (words : List Text) : Call := ⟨words, none, true, false⟩

/-- A process whose failure ends the run, and whose outputs are kept. -/
def Call.captured (words : List Text) : Call := ⟨words, none, true, true⟩

/-- The processes that make an environment and install an artifact in it. -/
def environmentCalls (interpreter : Text) (programs : Programs) (environment artifact : Path) :
    List Call :=
  [.plain [interpreter, "-m", "venv", environment.toText],
   .plain [programs.interpreter.toText, "-m", "pip", "install", "--upgrade", "pip"],
   .plain [programs.interpreter.toText, "-m", "pip", "install", artifact.toText]]

def runAll : List Call → Script Unit
  | [] => pure ()
  | call :: rest => do
    let _ ← runCommand call
    runAll rest

/-- Makes a clean environment with the artifact installed in it. -/
def createEnvironment (environment artifact : Path) : Script Programs := do
  let setting ← setting
  let programs := Programs.of setting.platform environment
  say ("Creating clean venv at " ++ environment.toText)
  runAll (environmentCalls setting.interpreter programs environment artifact)
  pure programs

/-- Removes a directory with all that is in it, if it is there. -/
def clean (directory : Path) : Script Unit := do
  let files ← files
  match files.entry? directory with
  | none => pure ()
  | some (.file _) => do
    say ("Cleaning " ++ directory.toText)
    stop (.fault (.notATree directory.toText))
  | some .directory => do
    say ("Cleaning " ++ directory.toText)
    setFiles (files.remove directory)

/-- Whether a name ends in the given way; the end may be all of it. -/
def hasEnding (ending name : Chars) : Bool := ending.isSuffixOf name

def wheelEnding : Chars := ".whl"

def sdistEnding : Chars := ".tar.gz"

def distOf (repository : Path) : Path := repository.child "dist"

def buildOf (repository : Path) : Path := repository.child "build"

structure Artifacts where
  wheel : Path
  sdist : Path
  deriving DecidableEq, Repr

/-- Builds the package from nothing, and finds the first archive of each kind. -/
def checkBuild (repository : Path) : Script Artifacts := do
  heading "A) Build Artifacts (wheel + sdist)"
  let dist := distOf repository
  clean dist
  clean (buildOf repository)
  let setting ← setting
  let _ ← runCommand
    ⟨[setting.interpreter, "-m", "build", "--sdist", "--wheel"],
      some repository.toText, true, false⟩
  let files ← files
  if !files.isPresent dist then fail "dist/ directory not created"
  else
    let names := setting.listed (files.childNames dist)
    match names.filter (hasEnding wheelEnding), names.filter (hasEnding sdistEnding) with
    | [], _ => fail "No wheel (.whl) file found in dist/"
    | _ :: _, [] => fail "No sdist (.tar.gz) file found in dist/"
    | wheel :: _, sdist :: _ => do
      say ("✓ Wheel created: " ++ Text.ofChars wheel)
      say ("✓ Sdist created: " ++ Text.ofChars sdist)
      pure ⟨dist.child wheel, dist.child sdist⟩

def checkMetadata (repository : Path) : Script Unit := do
  heading "B) Metadata + README Rendering (twine check)"
  let dist := distOf repository
  let names ← ofExcept ((← files).readDirectory dist)
  let setting ← setting
  let archives := (setting.listed names).map fun name => (dist.child name).toText
  let result ← runCommand
    ⟨[setting.interpreter, "-m", "twine", "check", "--strict"] ++ archives,
      some repository.toText, false, true⟩
  say (result.stdout.getD [])
  match result.stderr.getD [] with
  | [] => pure ()
  | c :: rest => complain (c :: rest)
  if result.status != 0 then fail "twine check --strict reported warnings or errors"
  else say "✓ All metadata and README checks passed (0 warnings, 0 errors)"

/-- What the installed interpreter is asked, to see that the package can be imported. -/
def importProbe : Text := "import ogcdef; print(ogcdef.code_of('crs', 'EPSG', 'EPSG:4326'))"

def versionProbe : Text := "import importlib.metadata as m; print(m.version('ogcdef'))"

def trimmedOutput (result : Completed) : Text := Text.trim (result.stdout.getD [])

/-- Installs an archive in a clean environment and starts what was installed. -/
def checkInstall (artifact : Path) (label : Text) : Script Unit := do
  heading ("Install Test (" ++ label ++ ")")
  withTemporary ("venv_pkg_" ++ label ++ "_") fun environment => do
    let programs ← createEnvironment environment artifact
    let imported ← runCommand (.captured [programs.interpreter.toText, "-c", importProbe])
    if trimmedOutput imported ≠ ("4326" : Text) then
      fail ("Failed to import ogcdef from " ++ label)
    else
      say "✓ Import test passed"
      let version ← runCommand (.captured [programs.interpreter.toText, "-c", versionProbe])
      say ("✓ Version check passed: " ++ trimmedOutput version)
      let _ ← runCommand (.captured [programs.program.toText, "--help"])
      say "✓ CLI --help passed"
      let banner ← runCommand (.captured [programs.program.toText, "--version"])
      say ("✓ CLI --version passed: " ++ trimmedOutput banner)
      say ("\n✓ All " ++ label ++ " install tests passed")

def memberOf (name text : Text) : Script Json.Value :=
  match Json.read text with
  | .error fault => stop (.fault (.notJson text fault))
  | .ok (.object members) =>
    match Json.Value.member? name (.object members) with
    | some value => pure value
    | none => stop (.fault (.noMember name))
  | .ok value => stop (.fault (.withoutMembers value))

def isText (text : Text) : Json.Value → Bool
  | .text t => t == text
  | _ => false

/-- An identifier for the installed program, and the version in it. -/
def sampleUrn : Text := "urn:ogc:def:crs:EPSG:8.2:4326"

def sampleVersion : Text := "8.2"

def noMatchStatus : Int := 3

/-- Tries the installed program on an identifier, on what is none, and on a file of samples. -/
def checkProgram (repository wheel : Path) : Script Unit := do
  heading "E) CLI Functional Smoke Test"
  withTemporary "venv_cli_test_" fun directory => do
    let programs ← createEnvironment (directory.child "venv") wheel
    let program := programs.program.toText
    let parsed ← runCommand (.captured [program, "parse", sampleUrn, "--json"])
    let version ← memberOf "version" (parsed.stdout.getD [])
    if !isText sampleVersion version then fail "ogcdef parse returned an unexpected version"
    else
      say "✓ CLI parse command succeeded"
      let refused ← runCommand ⟨[program, "parse", "not:a:urn"], none, false, true⟩
      if refused.status != noMatchStatus then
        fail ("ogcdef parse exited with " ++ Decimal.ofInt refused.status ++
          " for an unrecognized identifier")
      else
        say "✓ CLI no-match exit status is 3"
        let sample := repository.below ["tests", "fixtures", "identifiers.txt"]
        let output := directory.below ["output", "parsed.jsonl"]
        let _ ← runCommand (.plain [program, "batch", sample.toText, "--output", output.toText])
        if !(← files).isPresent output then
          fail ("Expected output file not created: " ++ output.toText)
        else
          let content ← readText output
          if (Text.trim content).isEmpty then fail "Output file is empty"
          else
            say "✓ CLI batch command succeeded"
            say ("✓ Output has " ++ Decimal.ofNat (Text.wideLines content).length ++
              " lines")
            say "\n✓ All CLI functional tests passed"

def allChecks (repository : Path) : Script Unit := do
  let artifacts ← checkBuild repository
  checkMetadata repository
  checkInstall artifacts.wheel "wheel"
  checkInstall artifacts.sdist "sdist"
  checkProgram repository artifacts.wheel
  say ('\n' :: rule)
  say "  ✅ ALL PACKAGING QA CHECKS PASSED"
  say rule
  stop (.exit 0)

/-- Turns each way in which the checks stop into an exit: an exit stays, an interruption and a fault
become a message and the status one. -/
def concluding (checks : Script Unit) : Script Unit := fun setting run =>
  match checks setting run with
  | (.ok (), run) => (.ok (), run)
  | (.error (.exit status), run) => (.error (.exit status), run)
  | (.error .interrupted, run) =>
    (do
      say "\n\n⚠️  Interrupted by user"
      stop (.exit 1) : Script Unit) setting run
  | (.error (.fault (.failedCommand words status)), run) =>
    (fail ("Command failed with exit code " ++ Decimal.ofInt status ++ ": " ++
      Text.join ([' '] : Text) words) : Script Unit) setting run
  | (.error (.fault f), run) =>
    (fail ("Unexpected error: " ++ f.message) : Script Unit) setting run

def review (repository : Path) : Script Unit := do
  say rule
  say "  PACKAGING QA - ogcdef"
  say rule
  say ("\nRepository root: " ++ repository.toText ++ "\n")
  concluding (allChecks repository)

end GeoUrn.Packaging
