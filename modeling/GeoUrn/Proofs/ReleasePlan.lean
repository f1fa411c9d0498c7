import GeoUrn.Packaging.Checks
import GeoUrn.Proofs.PlannedRuns

/-!
The plan of a release review: twenty-two processes, with what each of them has to do. Only the names
of the archives are not known beforehand; they are those that the build leaves.
-/
namespace GeoUrn.Packaging

def buildStep (interpreter : Text) (repository : Path) : Step where
  call := ⟨[interpreter, "-m", "build", "--sdist", "--wheel"], some repository.toText, true, false⟩
  status := 0
  condition _ left :=
    left.isDirectory (distOf repository) &&
      (left.childNames (distOf repository)).any (hasEnding ".whl") &&
      (left.childNames (distOf repository)).any (hasEnding ".tar.gz")

def twineStep (interpreter : Text) (repository : Path) (names : List Chars) : Step :=
  .succeeding ⟨[interpreter, "-m", "twine", "check", "--strict"] ++
    names.map (fun name => ((distOf repository).child name).toText), some repository.toText, false,
    true⟩

def environmentSteps (interpreter : Text) (programs : Programs) (environment artifact : Path) :
    List Step :=
  [.succeeding (.plain [interpreter, "-m", "venv", environment.toText]),
   .succeeding (.plain [programs.interpreter.toText, "-m", "pip", "install", "--upgrade", "pip"]),
   .succeeding (.plain [programs.interpreter.toText, "-m", "pip", "install", artifact.toText])]

def importStep (programs : Programs) : Step where
  call := .captured [programs.interpreter.toText, "-c", importProbe]
  status := 0
  condition stdout _ := Text.trim stdout == "4326"

def installSteps (programs : Programs) : List Step :=
  [importStep programs,
   .succeeding (.captured [programs.interpreter.toText, "-c", versionProbe]),
   .succeeding (.captured [programs.program.toText, "--help"]),
   .succeeding (.captured [programs.program.toText, "--version"])]

/-- Whether a text is a JSON object with that text as its version. -/
def saysVersion (version text : Text) : Bool :=
  match Json.read text with
  | .ok value => (value.member? "version").any (isText version)
  | .error _ => false

def parseStep (programs : Programs) : Step where
  call := .captured [programs.program.toText, "parse", sampleUrn, "--json"]
  status := 0
  condition stdout _ := saysVersion "8.2" stdout

def refusalStep (programs : Programs) : Step where
  call := ⟨[programs.program.toText, "parse", "not:a:urn"], none, false, true⟩
  status := 3
  condition _ _ := true

def textAt? (files : FileTree) (path : Path) : Option Text :=
  match files.read path with
  | .ok bytes => (Text.decodeUtf8 bytes).toOption
  | .error _ => none

def batchStep (programs : Programs) (repository output : Path) : Step where
  call := .plain [programs.program.toText, "batch",
    (repository.below ["tests", "fixtures", "identifiers.txt"]).toText, "--output", output.toText]
  status := 0
  condition _ left := (textAt? left output).any fun text => !text.all Text.isBlank

def programSteps (programs : Programs) (repository output : Path) : List Step :=
  [parseStep programs, refusalStep programs, batchStep programs repository output]

/-- The processes for one environment, with the temporary directory that they need. -/
structure Stage where
  temporary : Path
  environment : Path
  steps : List Step

namespace Stage

/-- An environment is made, the artifact is installed in it, and its programs are put to use. -/
def of (platform interpreter : Text) (temporary environment artifact : Path)
    (use : Programs → List Step) : Stage :=
  let programs := Programs.of platform environment
  ⟨temporary, environment,
    environmentSteps interpreter programs environment artifact ++ use programs⟩

def actions (stage : Stage) : List Action :=
  .chore (.make stage.temporary) :: (stage.steps.map .process ++ [.chore (.remove stage.temporary)])

@[simp] theorem stepsOf_actions (stage : Stage) : stepsOf stage.actions = stage.steps := by
  simp [actions]

theorem mem_actions_chore {stage : Stage} {chore : Chore} (h : .chore chore ∈ stage.actions) :
    chore = .make stage.temporary ∨ chore = .remove stage.temporary := by
  simpa [actions] using h

/-- The environment is made first, and then only programs that lie in it are used. -/
def KeepsToItself (interpreter : Text) (stage : Stage) : Prop :=
  ∃ first rest, stage.steps = first :: rest ∧
    first.call.words = [interpreter, "-m", "venv", stage.environment.toText] ∧
    ∀ step ∈ rest, ∃ names, step.call.words.head? = some (stage.environment.below names).toText

end Stage

section

variable (platform interpreter : Text) (temporary : Text → Nat → Path) (repository : Path)
  (names : List Chars)

def installStage (label : Text) (number : Nat) (artifact : Path) : Stage :=
  let directory := temporary ("venv_pkg_" ++ label ++ "_") number
  .of platform interpreter directory directory artifact installSteps

def programStage (number : Nat) (wheel : Path) : Stage :=
  let directory := temporary "venv_cli_test_" number
  .of platform interpreter directory (directory.child "venv") wheel fun programs =>
    programSteps programs repository (directory.below ["output", "parsed.jsonl"])

def archive (ending : Chars) : Path :=
  (distOf repository).child ((names.filter (hasEnding ending)).headD [])

def stages : List Stage :=
  [installStage platform interpreter temporary "wheel" 1 (archive repository names ".whl"),
   installStage platform interpreter temporary "sdist" 2 (archive repository names ".tar.gz"),
   programStage platform interpreter temporary repository 3 (archive repository names ".whl")]

def buildActions : List Action :=
  [.chore (.clear (distOf repository)), .chore (.clear (buildOf repository)),
   .process (buildStep interpreter repository)]

def laterActions : List Action :=
  .process (twineStep interpreter repository names) ::
    (stages platform interpreter temporary repository names).flatMap Stage.actions

def releaseActions : List Action :=
  buildActions interpreter repository ++ laterActions platform interpreter temporary repository names

def releaseSteps : List Step :=
  buildStep interpreter repository :: twineStep interpreter repository names ::
    (stages platform interpreter temporary repository names).flatMap Stage.steps

theorem stepsOf_releaseActions :
    stepsOf (releaseActions platform interpreter temporary repository names) =
    releaseSteps platform interpreter temporary repository names := by
  simp [releaseActions, buildActions, laterActions, stages, releaseSteps]

theorem length_releaseSteps :
    (releaseSteps platform interpreter temporary repository names).length = 22 := rfl

end

def Step.Uses (step : Step) (program : Path) : Prop :=
  step.call.words.head? = some program.toText

theorem Programs.of_below (platform : Text) (environment : Path) :
    (∃ names, (Programs.of platform environment).interpreter = environment.below names) ∧
      ∃ names, (Programs.of platform environment).program = environment.below names := by
  unfold Programs.of
  split_ifs
  · exact ⟨⟨_, rfl⟩, ⟨_, rfl⟩⟩
  · exact ⟨⟨_, rfl⟩, ⟨_, rfl⟩⟩

theorem installSteps_use (programs : Programs) : ∀ step ∈ installSteps programs,
    step.Uses programs.interpreter ∨ step.Uses programs.program := by
  intro step hs
  simp only [installSteps, List.mem_cons, List.not_mem_nil, or_false] at hs
  rcases hs with rfl | rfl | rfl | rfl
  · exact .inl rfl
  · exact .inl rfl
  · exact .inr rfl
  · exact .inr rfl

theorem programSteps_use (programs : Programs) (repository output : Path) :
    ∀ step ∈ programSteps programs repository output,
      step.Uses programs.interpreter ∨ step.Uses programs.program := by
  intro step hs
  simp only [programSteps, List.mem_cons, List.not_mem_nil, or_false] at hs
  rcases hs with rfl | rfl | rfl
  · exact .inr rfl
  · exact .inr rfl
  · exact .inr rfl

theorem Stage.keepsToItself_of (platform interpreter : Text)
    (temporary environment artifact : Path)
    {use : Programs → List Step} (h : ∀ programs, ∀ step ∈ use programs,
      step.Uses programs.interpreter ∨ step.Uses programs.program) :
    (Stage.of platform interpreter temporary environment artifact use).KeepsToItself
      interpreter := by
  obtain ⟨⟨inner, hi⟩, ⟨outer, ho⟩⟩ := Programs.of_below platform environment
  refine ⟨_, _, rfl, rfl, fun step hs => ?_⟩
  have huse : step.Uses (Programs.of platform environment).interpreter ∨
      step.Uses (Programs.of platform environment).program := by
    rcases List.mem_cons.mp hs with rfl | hs
    · exact .inl rfl
    · rcases List.mem_cons.mp hs with rfl | hs
      · exact .inl rfl
      · exact h _ step hs
  rw [hi, ho] at huse
  rcases huse with hu | hu
  · exact ⟨inner, hu⟩
  · exact ⟨outer, hu⟩

theorem stages_keepToThemselves (platform interpreter : Text)
    (temporary : Text → Nat → Path) (repository : Path) (names : List Chars) :
    ∀ stage ∈ stages platform interpreter temporary repository names,
      stage.KeepsToItself interpreter := by
  intro stage hs
  simp only [stages, List.mem_cons, List.not_mem_nil, or_false] at hs
  rcases hs with rfl | rfl | rfl
  · exact Stage.keepsToItself_of _ _ _ _ _ installSteps_use
  · exact Stage.keepsToItself_of _ _ _ _ _ installSteps_use
  · exact Stage.keepsToItself_of _ _ _ _ _ fun programs => programSteps_use programs _ _

end GeoUrn.Packaging
