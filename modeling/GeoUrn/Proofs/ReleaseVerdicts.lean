import GeoUrn.Proofs.ReleaseCourse

/-!
What a review starts, and with which status it ends: it goes through the plan until a process does
not do what it had to do, and it succeeds if there is none.
-/
namespace GeoUrn.Packaging

variable {setting : Setting} {repository : Path} {files : FileTree}

theorem reviewCourse_endsAs (setting : Setting) (repository : Path) (files : FileTree) :
    EndsAs (releaseActions setting.platform setting.interpreter setting.temporary repository
        (builtNames setting repository files))
      (reviewCourse setting repository files).1 (reviewCourse setting repository files).2 :=
  conduct_endsAs _ _ _ _

theorem releaseActions_eq (platform interpreter : Text) (temporary : Text → Nat → Path)
    (repository : Path) (names : List Chars) :
    ∃ body last directory, releaseActions platform interpreter temporary repository names =
      body ++ [.process last, .chore (.remove directory)] := by
  let wheel :=
    installStage platform interpreter temporary "wheel" 1 (archive repository names ".whl")
  let sdist :=
    installStage platform interpreter temporary "sdist" 2 (archive repository names ".tar.gz")
  let program :=
    programStage platform interpreter temporary repository 3 (archive repository names ".whl")
  exact ⟨buildActions interpreter repository ++ .process (twineStep interpreter repository names) ::
    (wheel.actions ++ (sdist.actions ++
      .chore (.make program.temporary) :: (program.steps.take 5).map .process)), _, _, rfl⟩

/-- Only a review that passes to its end has gone through all steps with success. -/
theorem passed_iff_all_steps : (∃ left, (reviewCourse setting repository files).2 = .passed left) ↔
    (reviewCourse setting repository files).1.map Trial.step = releaseSteps setting.platform
        setting.interpreter setting.temporary repository (builtNames setting repository files) ∧
      ∀ trial ∈ (reviewCourse setting repository files).1, trial.Passed := by
  have hends := reviewCourse_endsAs setting repository files
  rw [← stepsOf_releaseActions]
  obtain ⟨body, last, directory, he⟩ := releaseActions_eq setting.platform setting.interpreter
    setting.temporary repository (builtNames setting repository files)
  rw [he] at hends ⊢
  generalize reviewCourse setting repository files = course at hends ⊢
  obtain ⟨trials, ending⟩ := course
  constructor
  · rintro ⟨left, rfl⟩
    cases hends with
    | passed all steps => exact ⟨steps, all⟩
  · rintro ⟨hsteps, hall⟩
    cases ending with
    | passed left => exact ⟨left, rfl⟩
    | failed =>
      cases hends with
      | failed front all fault steps => exact absurd (hall _ (by simp)) fault
    | stuck chore => exact absurd hsteps hends.steps_ne

theorem isFile_of_clear {directory path : Path} {left : FileTree}
    (h : (Chore.clear directory).perform files = some left) (hf : files.isFile path = false) :
    left.isFile path = false := by
  unfold Chore.perform at h
  cases he : files.entry? directory with
  | none =>
    simp only [he, Option.some.injEq] at h
    rwa [← h]
  | some entry =>
    cases entry with
    | file bytes => simp [he] at h
    | directory =>
      simp only [he, Option.some.injEq] at h
      rw [← h]
      exact FileTree.isFile_remove_eq_false hf directory

/-- Where the directories to be cleared are no files, a review can only be kept from going on by a
temporary directory that cannot be made. -/
theorem stuck_at_temporary {chore : Chore} (hdist : files.isFile (distOf repository) = false)
    (hbuild : files.isFile (buildOf repository) = false)
    (h : (reviewCourse setting repository files).2 = .stuck chore) :
    ∃ directory, chore = .make directory := by
  obtain ⟨cleared, hc⟩ := Option.isSome_iff_exists.mp (Chore.perform_clear_isSome hdist)
  obtain ⟨emptied, he⟩ := Option.isSome_iff_exists.mp
    (Chore.perform_clear_isSome (isFile_of_clear hc hbuild))
  obtain ⟨rest, hrest⟩ : ∃ rest, rest = Action.process (buildStep setting.interpreter repository) ::
    laterActions setting.platform setting.interpreter setting.temporary repository
      (builtNames setting repository files) := ⟨_, rfl⟩
  have hcourse : reviewCourse setting repository files = conduct setting rest [] emptied := by
    rw [hrest]
    exact (conduct_chore hc).trans (conduct_chore he)
  have hends := conduct_endsAs setting rest [] emptied
  rw [← hcourse, h, hrest] at hends
  obtain ⟨hmem, before, hhindered⟩ := hends.hindered
  rcases List.mem_cons.mp hmem with hb | hmem
  · cases hb
  · rcases List.mem_cons.mp hmem with ht | hmem
    · cases ht
    · obtain ⟨stage, -, hs⟩ := List.mem_flatMap.mp hmem
      rcases Stage.mem_actions_chore hs with hmake | rfl
      · exact ⟨stage.temporary, hmake⟩
      · cases hhindered

def goodRepository : Path := ⟨["repo"]⟩

def goodFiles : FileTree :=
  ⟨[['/'], "work"],
   [([['/'], "work", "repo"], .directory), ([['/'], "work", "repo", "dist"], .directory),
    ([['/'], "work", "repo", "dist", "p-0.9.tar.gz"], .file [])]⟩

def goodWheel : Chars := "p-1.0-py3-none-any.whl"

def goodSdist : Chars := "p-1.0.tar.gz"

/-- Writes the files that a process leaves, as far as that is possible. -/
def createFiles (files : FileTree) (created : List (Path × Text)) : FileTree :=
  created.foldl (fun tree file => (tree.writeDeep file.1 (Text.encodeUtf8 file.2)).2) files

def goodTemporary (_ : Text) (number : Nat) : Path := ⟨[List.replicate number 't']⟩

/-- What its processes do, by the number of those that were started. -/
def goodAnswer (calls : List Call) (files : FileTree) : Answer :=
  match calls.length with
  | 1 => .finished 0 [] [] (createFiles files
      [((distOf goodRepository).child goodWheel, []),
       ((distOf goodRepository).child goodSdist, [])])
  | 6 => .finished 0 "4326\n" [] files
  | 13 => .finished 0 "4326\n" [] files
  | 20 => .finished 0 "\x7b\"version\": \"8.2\"\x7d\n" [] files
  | 21 => .finished 3 [] [] files
  | 22 => .finished 0 [] [] (createFiles files
      [((goodTemporary "venv_cli_test_" 3).below ["output", "parsed.jsonl"], "x\n")])
  | _ => .finished 0 [] [] files

def goodSetting : Setting where
  platform := "linux"
  interpreter := "python3"
  answer := goodAnswer
  temporary := goodTemporary
  listed := id
  listed_perm _ := .rfl

/-- What a good review leaves: the archives of this build, and no temporary directory. -/
def goodFilesLeft : FileTree :=
  ⟨[['/'], "work"],
   [([['/'], "work", "repo"], .directory), ([['/'], "work", "repo", "dist"], .directory),
    ([['/'], "work", "repo", "dist", goodWheel], .file []),
    ([['/'], "work", "repo", "dist", goodSdist], .file [])]⟩

theorem reviewCourse_good :
    (reviewCourse goodSetting goodRepository goodFiles).2 = .passed goodFilesLeft := by
  cbv

end GeoUrn.Packaging
