import GeoUrn.Proofs.Blanks
import GeoUrn.Proofs.FileFrames
import GeoUrn.Proofs.ReleasePlan
import GeoUrn.Proofs.ScriptedPlans

/-!
The checks carry out their plan: each check follows its part of the plan, and the whole review ends
as the plan does.
-/
namespace GeoUrn.Packaging

variable {setting : Setting} {calls : List Call} {files : FileTree} {made made' : Nat}
  {repository : Path} {result : FileTree → Except Stop Unit} {course : List Trial × PlanEnd}

def artifactsOf (repository : Path) (names : List Chars) : Artifacts :=
  ⟨archive repository names ".whl", archive repository names ".tar.gz"⟩

theorem any_eq_true_iff_filter {p : Chars → Bool} {names : List Chars} :
    names.any p = true ↔ ∃ first rest, names.filter p = first :: rest := by
  rw [← List.ne_nil_iff_exists_cons, Ne, List.filter_eq_nil_iff, List.any_eq_true]
  push Not
  rfl

/-- The build has to leave a first archive of each kind, in whatever order they are told. -/
theorem buildStep_condition_iff {interpreter stdout : Text} {left : FileTree} {names : List Chars}
    (hp : names.Perm (left.childNames (distOf repository))) :
    (buildStep interpreter repository).condition stdout left = true ↔
      ∃ wheel wheels sdist sdists, names.filter (hasEnding wheelEnding) = wheel :: wheels ∧
        names.filter (hasEnding sdistEnding) = sdist :: sdists := by
  simp only [buildStep, Bool.and_eq_true, ← hp.any_eq, any_eq_true_iff_filter]
  constructor
  · rintro ⟨⟨-, wheel, wheels, hw⟩, sdist, sdists, hs⟩
    exact ⟨wheel, wheels, sdist, sdists, hw, hs⟩
  · rintro ⟨wheel, wheels, sdist, sdists, hw, hs⟩
    have hm : wheel ∈ names.filter (hasEnding wheelEnding) := by
      rw [hw]
      exact List.mem_cons_self
    have hd := FileTree.isDirectory_of_mem_childNames (hp.subset (List.mem_filter.mp hm).1)
    exact ⟨⟨hd, wheel, wheels, hw⟩, sdist, sdists, hs⟩

/-- The names in the directory of the archives, in the order in which they are told. -/
def listedNames (setting : Setting) (repository : Path) (left : FileTree) : List Chars :=
  setting.listed (left.childNames (distOf repository))

theorem checkBuild_follows : Follows setting calls files made (checkBuild repository)
    (fun left => .ok (artifactsOf repository (listedNames setting repository left))) made
    (conduct setting (buildActions setting.interpreter repository) calls files) := by
  unfold checkBuild
  refine .heading (.clean fun cleared _ => .clean fun emptied _ => .setting_bind ?_)
  refine .checked (buildStep setting.interpreter repository) rfl rfl ?_ ?_
  · intro stdout stderr left hc
    refine .files_bind ?_
    -- Each of the three ways to fail is a failure of the condition; the last case contradicts it.
    split
    · exact .fail
    · dsimp only
      split
      · exact .fail
      · exact .fail
      · rename_i hw hs
        have hcond : (buildStep setting.interpreter repository).condition stdout left = true :=
          (buildStep_condition_iff (setting.listed_perm _)).mpr ⟨_, _, _, _, hw, hs⟩
        exact absurd (hc.symm.trans hcond) Bool.false_ne_true
  · intro stdout stderr left hc
    have hd : left.isDirectory (distOf repository) = true := by
      simp only [buildStep, Bool.and_eq_true] at hc
      exact hc.1.1
    obtain ⟨wheel, wheels, sdist, sdists, hw, hs⟩ :=
      (buildStep_condition_iff (setting.listed_perm _)).mp hc
    have hvalue : artifactsOf repository (listedNames setting repository left) =
        ⟨(distOf repository).child wheel, (distOf repository).child sdist⟩ := by
      change Artifacts.mk (archive repository _ wheelEnding) (archive repository _ sdistEnding) = _
      rw [archive, archive, listedNames, hw, hs]
      rfl
    refine .files_bind ?_
    rw [FileTree.isPresent_of_isDirectory hd]
    simp only [hw, hs, ← hvalue]
    exact .say (.say (.pure fun left =>
      artifactsOf repository (listedNames setting repository left)))

theorem checkMetadata_follows {names : List Chars}
    (h : files.readDirectory (distOf repository) = .ok names) :
    Follows setting calls files made (checkMetadata repository) (fun _ => .ok ()) made
      (conduct setting [.process (twineStep setting.interpreter repository (setting.listed names))]
        calls files) := by
  unfold checkMetadata
  refine .heading (.files_bind ?_)
  rw [h]
  refine .setting_bind
    (.process (twineStep setting.interpreter repository (setting.listed names)) nofun ?_ ?_)
  · intro status stdout stderr left hs _
    have hstatus : (status != 0) = true := by
      simpa [twineStep, Step.succeeding, Step.accepts] using hs
    refine .say ?_
    simp only [completed, hstatus, if_true]
    split
    · exact .fail
    · exact .complain .fail
  · intro stdout stderr left _
    refine .say ?_
    dsimp only
    split
    · exact .say_last
    · exact .complain .say_last

theorem createEnvironment_follows {environment artifact : Path} :
    Follows setting calls files made (createEnvironment environment artifact)
      (fun _ => .ok (Programs.of setting.platform environment)) made
      (conduct setting ((environmentSteps setting.interpreter
        (Programs.of setting.platform environment) environment artifact).map .process) calls
        files) := by
  unfold createEnvironment
  refine .setting_bind (.say ?_)
  have hcheck : ∀ call ∈ environmentCalls setting.interpreter
      (Programs.of setting.platform environment) environment artifact, call.check = true := by
    simp [environmentCalls, Call.plain]
  rw [← List.append_nil (List.map _ _)]
  exact .bind (.runAll _ hcheck) fun trials left _ =>
    .pure fun _ => Programs.of setting.platform environment

/-- A stage is carried out by what makes its environment and then uses its programs. -/
theorem stage_follows {label : Text} {environment artifact : Path} {use : Programs → List Step}
    {f : Programs → Script Unit} {body : Path → Script Unit}
    (hbody : body (setting.temporary label (made + 1)) = createEnvironment environment artifact >>= f)
    (h : ∀ started left, Follows setting started left (made + 1)
      (f (Programs.of setting.platform environment)) (fun _ => .ok ()) (made + 1)
      (conduct setting ((use (Programs.of setting.platform environment)).map .process) started
        left)) :
    Follows setting calls files made (Script.withTemporary label body) (fun _ => .ok ()) (made + 1)
      (conduct setting (Stage.of setting.platform setting.interpreter
        (setting.temporary label (made + 1)) environment artifact use).actions calls files) := by
  refine .withTemporary rfl fun left => ?_
  change Follows _ _ _ _ (body (setting.temporary label (made + 1))) _ _ _
  rw [hbody]
  simp only [Stage.of, List.map_append]
  exact .bind createEnvironment_follows fun trials left _ => h _ left

theorem trimmedOutput_completed (programs : Programs) (status : Int) (stdout stderr : Text) :
    trimmedOutput (completed (importStep programs).call status stdout stderr) = Text.trim stdout :=
  rfl

theorem checkInstall_follows {artifact : Path} {label : Text} :
    Follows setting calls files made (checkInstall artifact label) (fun _ => .ok ()) (made + 1)
      (conduct setting
        (installStage setting.platform setting.interpreter setting.temporary label (made + 1)
          artifact).actions calls files) := by
  unfold checkInstall
  refine .heading (stage_follows rfl fun started left => ?_)
  refine .checked (importStep (Programs.of setting.platform _)) rfl rfl ?_ ?_
  · intro stdout stderr left hc
    have hne : Text.trim stdout ≠ "4326" := by simpa [importStep] using hc
    rw [trimmedOutput_completed, if_pos hne]
    exact .fail
  · intro stdout stderr left hc
    have he : Text.trim stdout = "4326" := by simpa [importStep] using hc
    rw [trimmedOutput_completed, if_neg (not_not_intro he)]
    refine .say (.succeeding _ rfl fun _ _ _ => .say (.succeeding _ rfl fun _ _ _ => .say ?_))
    exact .succeeding _ rfl fun _ _ _ => .say .say_last

theorem memberOf_eq (version text : Text) : (∃ value, memberOf "version" text = pure value ∧
      isText version value = saysVersion version text) ∨
    ∃ fault, memberOf "version" text = Script.stop (.fault fault) ∧
      saysVersion version text = false := by
  unfold memberOf saysVersion
  cases Json.read text with
  | error fault => exact .inr ⟨_, rfl, rfl⟩
  | ok value =>
    cases value with
    | object members =>
      cases hm : Json.Value.member? "version" (.object members) with
      | none => exact .inr ⟨.noMember "version", by simp only [hm], by simp only [hm]; rfl⟩
      | some value => exact .inl ⟨value, by simp only [hm], by simp only [hm]; rfl⟩
    | _ => exact .inr ⟨_, rfl, rfl⟩

/-- The version is asked for in what the program printed. -/
theorem version_bind {version text : Text} {f : Json.Value → Script Unit}
    (hs : saysVersion version text = true)
    (h : ∀ value, isText version value = true →
      Follows setting calls files made (f value) result made' course) :
    Follows setting calls files made (memberOf "version" text >>= f) result made' course := by
  rcases memberOf_eq version text with ⟨value, hm, hv⟩ | ⟨fault, -, hn⟩
  · rw [hm, Script.pure_bind]
    exact h value (hv.trans hs)
  · rw [hs] at hn
    cases hn

theorem version_fails {version text : Text} {f : Json.Value → Script Unit}
    (hs : saysVersion version text = false)
    (h : ∀ value, isText version value = false →
      Follows setting calls files made (f value) result made' ([], .failed)) :
    Follows setting calls files made (memberOf "version" text >>= f) result made'
      ([], .failed) := by
  rcases memberOf_eq version text with ⟨value, hm, hv⟩ | ⟨fault, hm, -⟩
  · rw [hm, Script.pure_bind]
    exact h value (hv.trans hs)
  · rw [hm, Script.stop_bind]
    exact .stop PlanEnd.failed_ne_passed rfl

theorem isBlank_of_mem_unifyLineEnds {text : Text} :
    (∀ c ∈ Text.unifyLineEnds text, Text.isBlank c) ↔ ∀ c ∈ text, Text.isBlank c := by
  have hfeed : Text.isBlank '\n' = true := rfl
  have hreturn : Text.isBlank '\r' = true := rfl
  induction text using Text.unifyLineEnds.induct with
  | case1 => rfl
  | case2 rest ih =>
    rw [Text.unifyLineEnds]
    simp only [List.forall_mem_cons, ih, hfeed, hreturn, true_and]
  | case3 c rest hn ih =>
    rw [Text.unifyLineEnds]
    · simp only [List.forall_mem_cons, ih]
      split_ifs with hc
      · simp only [hc, hfeed, hreturn, true_and]
      · rfl
    · exact hn

theorem isEmpty_trim_unifyLineEnds (text : Text) :
    (Text.trim (Text.unifyLineEnds text)).isEmpty = text.all Text.isBlank := by
  rw [Bool.eq_iff_iff, List.isEmpty_iff, Text.trim_eq_nil_iff, isBlank_of_mem_unifyLineEnds,
    List.all_eq_true]

/-- The output of the sample is as it has to be if it is a text with more than blanks. -/
theorem output_condition {programs : Programs} {output : Path} {stdout : Text} :
    (batchStep programs repository output).condition stdout files = true ↔
      ∃ bytes text, files.read output = .ok bytes ∧ Text.decodeUtf8 bytes = .ok text ∧
        (Text.trim (Text.unifyLineEnds text)).isEmpty = false := by
  simp only [batchStep, textAt?]
  cases files.read output with
  | error fault => simp
  | ok bytes =>
    cases hd : Text.decodeUtf8 bytes with
    | error flaw => simp [Except.toOption, hd]
    | ok text => simp [Except.toOption, hd, isEmpty_trim_unifyLineEnds]

section

variable {programs : Programs} {output : Path} {stdout missing empty : Text}
  {f : Text → Script Unit}

/-- The output is there, and it is read. -/
theorem output_bind
    (hc : (batchStep programs repository output).condition stdout files = true)
    (h : ∀ content, Follows setting calls files made (f content) result made' course) :
    Follows setting calls files made
      (if !files.isPresent output then Script.fail missing
      else Script.readText output >>= fun content =>
        if (Text.trim content).isEmpty then Script.fail empty else f content)
      result made' course := by
  obtain ⟨bytes, text, hr, hd, ht⟩ := output_condition.mp hc
  rw [FileTree.isPresent_of_read hr]
  refine .readText_bind ?_
  simp only [hr, hd, ht]
  exact h _

theorem output_fails
    (hc : (batchStep programs repository output).condition stdout files = false) :
    Follows setting calls files made
      (if !files.isPresent output then Script.fail missing
      else Script.readText output >>= fun content =>
        if (Text.trim content).isEmpty then Script.fail empty else f content)
      result made' ([], .failed) := by
  split
  · exact .fail
  · refine .readText_bind ?_
    split
    · exact .stop PlanEnd.failed_ne_passed rfl
    · rename_i bytes hr
      split
      · exact .stop PlanEnd.failed_ne_passed rfl
      · rename_i text hd
        split
        · exact .fail
        · rename_i hne
          have hcond : (batchStep programs repository output).condition stdout files = true :=
            output_condition.mpr ⟨bytes, text, hr, hd, by simpa using hne⟩
          exact absurd (hc.symm.trans hcond) Bool.false_ne_true

end

theorem checkProgram_follows {wheel : Path} :
    Follows setting calls files made (checkProgram repository wheel) (fun _ => .ok ()) (made + 1)
      (conduct setting (programStage setting.platform setting.interpreter setting.temporary
        repository (made + 1) wheel).actions calls files) := by
  unfold checkProgram
  refine .heading (stage_follows rfl fun started left => ?_)
  generalize Programs.of setting.platform _ = programs
  refine .checked (parseStep programs) rfl rfl (fun stdout stderr left hc => ?_)
    (fun stdout stderr left hc => ?_)
  · refine version_fails hc fun value hv => ?_
    rw [sampleVersion, hv]
    exact .fail
  · refine version_bind hc fun value hv => ?_
    rw [sampleVersion, hv]
    refine .say (.process (refusalStep programs) nofun (fun status stdout stderr left hs _ => ?_)
      fun stdout stderr left _ => ?_)
    · have hstatus : (status != noMatchStatus) = true := by
        simpa [refusalStep, Step.accepts, noMatchStatus] using hs
      rw [completed, hstatus]
      exact .fail
    · refine .say (.checked (batchStep programs repository _) rfl rfl
        (fun stdout stderr left hc => .files_bind (output_fails hc))
        fun stdout stderr left hc => .files_bind (output_bind hc fun content => ?_))
      exact .say (.say .say_last)

/-- The names in the directory of the archives after the build, if this passes. -/
def builtNames (setting : Setting) (repository : Path) (files : FileTree) : List Chars :=
  match (conduct setting (buildActions setting.interpreter repository) [] files).2 with
  | .passed left => listedNames setting repository left
  | .failed => []
  | .stuck _ => []

/-- The course of the review: which processes it starts and what becomes of them. -/
def reviewCourse (setting : Setting) (repository : Path) (files : FileTree) :
    List Trial × PlanEnd :=
  conduct setting (releaseActions setting.platform setting.interpreter setting.temporary
    repository (builtNames setting repository files)) [] files

theorem allChecks_follows (setting : Setting) (repository : Path) (files : FileTree) :
    Follows setting [] files 0 (allChecks repository) (fun _ => .error (.exit 0)) 3
      (reviewCourse setting repository files) := by
  unfold allChecks reviewCourse releaseActions
  refine .bind checkBuild_follows fun trials left h => ?_
  have hnames : builtNames setting repository files = listedNames setting repository left := by
    rw [builtNames, h]
  have hread : left.readDirectory (distOf repository) =
      .ok (left.childNames (distOf repository)) := by
    obtain ⟨stdout, hc⟩ := condition_of_passed [.chore _, .chore _] h
    simp only [buildStep, Bool.and_eq_true] at hc
    exact FileTree.readDirectory_of_isDirectory hc.1.1
  rw [hnames]
  refine .bind (checkMetadata_follows hread) fun trials left' _ => ?_
  refine .bind checkInstall_follows fun trials left' _ => ?_
  refine .bind checkInstall_follows fun trials left' _ => ?_
  refine .bind checkProgram_follows fun trials left' _ => ?_
  exact .say (.say (.say .stop_last))

/-- However the checks stop, the program ends with an exit, and starts nothing more. -/
theorem concluding_eq {checks : Script Unit} {run after : Run} {stop : Stop}
    (h : checks setting run = (.error stop, after)) :
    ∃ last, concluding checks setting run = (.error (.exit stop.status), last) ∧
      last.calls = after.calls := by
  unfold concluding
  rw [h]
  cases stop with
  | exit status => exact ⟨after, rfl, rfl⟩
  | interrupted => exact ⟨_, rfl, rfl⟩
  | fault fault =>
    cases fault with
    | failedCommand words status => exact ⟨_, rfl, rfl⟩
    | _ => exact ⟨_, rfl, rfl⟩

/-- The review ends with the status zero if its course passes to the end, and else with one. -/
theorem review_ends (setting : Setting) (repository : Path) (files : FileTree) :
    ∃ status run, review repository setting (Run.start files) = (.error (.exit status), run) ∧
      run.calls = (reviewCourse setting repository files).1.map Trial.call ∧
      ((status = 0 ∧ ∃ left, (reviewCourse setting repository files).2 = .passed left) ∨
        status = 1 ∧ ∀ left, (reviewCourse setting repository files).2 ≠ .passed left) := by
  obtain ⟨out, err, hstart⟩ : ∃ out err, review repository setting (Run.start files) =
      concluding (allChecks repository) setting ⟨files, out, err, [], 0⟩ := ⟨_, _, rfl⟩
  rw [hstart]
  have ha := allChecks_follows setting repository files out err
  generalize hoc : allChecks repository setting ⟨files, out, err, [], 0⟩ = outcome at ha
  generalize reviewCourse setting repository files = course at ha ⊢
  cases ha with
  | passed run hc hm =>
    obtain ⟨last, hl, hcalls⟩ := concluding_eq hoc
    exact ⟨0, last, hl, hcalls.trans hc, .inl ⟨rfl, run.files, rfl⟩⟩
  | @stopped trials ending stop run hn hs hc =>
    obtain ⟨last, hl, hcalls⟩ := concluding_eq hoc
    rw [hs] at hl
    exact ⟨1, last, hl, hcalls.trans hc, .inr ⟨rfl, hn⟩⟩

end GeoUrn.Packaging
