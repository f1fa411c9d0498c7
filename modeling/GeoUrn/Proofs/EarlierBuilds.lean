import GeoUrn.Proofs.ReleaseVerdicts

/-!
What earlier builds left. A review empties the directories of the build before it starts anything,
so that two reviews of trees that differ only in these directories take the same course, and all
archives that are checked and installed come from the build of the review.
-/
namespace GeoUrn

namespace FileTree

variable {tree : FileTree} {place removed : Location} {path : Path}

/-- A directory lies at a location, or nothing at it and below it. -/
def MayBeCleared (tree : FileTree) (place : Location) : Prop :=
  tree.entryAt? place = some .directory ∨
    tree.entryAt? place = none ∧ ∀ e ∈ tree.entries, ¬ place <+: e.1

theorem MayBeCleared.removeAt (h : tree.MayBeCleared place) (hout : ¬ removed <+: place) :
    (tree.removeAt removed).MayBeCleared place := by
  rw [MayBeCleared, entryAt?_removeAt hout]
  exact h.imp_right fun ⟨hnone, hempty⟩ =>
    ⟨hnone, fun e he => hempty e (mem_entries_removeAt.mp he).1⟩

theorem removeAt_eq_self (h : ∀ e ∈ tree.entries, ¬ place <+: e.1) : tree.removeAt place = tree := by
  have hkept : tree.entries.filter (fun e => !place.isPrefixOf e.1) = tree.entries := by
    refine List.filter_eq_self.mpr fun e he => ?_
    simpa [← List.isPrefixOf_iff_prefix] using h e he
  rw [FileTree.removeAt, hkept]

theorem childNames_eq_nil (hl : ∀ found, tree.locate path = .ok found → found = place)
    (hempty : ∀ e ∈ tree.entries, ¬ place <+: e.1) : tree.childNames path = [] := by
  have hnames : tree.childNamesAt place = [] := by
    have hfilter : (tree.entries.filter fun e => e.1.dropLast = place) = [] := by
      refine List.filter_eq_nil_iff.mpr fun e he hlast => hempty e he ?_
      rw [← of_decide_eq_true hlast]
      exact List.dropLast_prefix e.1
    rw [childNamesAt, hfilter]
    rfl
  unfold childNames readDirectory
  cases hp : tree.locate path with
  | error fault => rfl
  | ok found =>
    rw [hl found hp]
    cases he : tree.entryAt? place with
    | none => simp only [he]
    | some entry =>
      cases entry with
      | file bytes => simp only [he]
      | directory => simp only [he, hnames]

theorem target_child {name : Chars} (hdots : name ≠ ['.', '.']) (hanchor : Path.isAnchor name = false)
    (home : Location) (path : Path) : target home (path.child name) = target home path ++ [name] := by
  obtain ⟨names⟩ := path
  unfold target Path.child
  cases names with
  | nil => simp [hanchor, stepTo, hdots]
  | cons first rest =>
    simp only [List.cons_append]
    split_ifs
    · rw [List.foldl_append, List.foldl_cons, List.foldl_nil, stepTo, if_neg hdots]
    · rw [← List.cons_append, List.foldl_append, List.foldl_cons, List.foldl_nil, stepTo,
        if_neg hdots]

end FileTree

namespace Packaging

variable {setting : Setting} {repository : Path} {dist build : Location} {files other : FileTree}

theorem Chore.perform_clear {directory : Path} {place : Location}
    (hl : files.locate directory = .ok place) (h : files.MayBeCleared place) :
    (Chore.clear directory).perform files = some (files.removeAt place) := by
  unfold Chore.perform FileTree.remove
  rcases h with hd | ⟨hnone, hempty⟩
  · simp only [FileTree.entry?, hl, hd]
  · simp only [FileTree.entry?, hl, hnone, FileTree.removeAt_eq_self hempty]

/-- The directories of the build are at these places, and each of them is a directory or is not
there. -/
structure HasOutputs (repository : Path) (dist build : Location) (files : FileTree) : Prop where
  dist_place : files.locate (distOf repository) = .ok dist
  build_place : files.locate (buildOf repository) = .ok build
  dist_cleared : files.MayBeCleared dist
  build_cleared : files.MayBeCleared build

/-- The tree without these two places and all that lies below them. -/
def emptied (dist build : Location) (files : FileTree) : FileTree :=
  (files.removeAt dist).removeAt build

theorem not_prefix_of_mem_emptied {e : Location × FileEntry}
    (h : e ∈ (emptied dist build files).entries) : ¬ dist <+: e.1 ∧ ¬ build <+: e.1 := by
  obtain ⟨hmem, hbuild⟩ := FileTree.mem_entries_removeAt.mp h
  exact ⟨(FileTree.mem_entries_removeAt.mp hmem).2, hbuild⟩

namespace HasOutputs

variable (h : HasOutputs repository dist build files)

include h

theorem places : dist = FileTree.target files.home repository ++ [("dist" : Chars)] ∧
    build = FileTree.target files.home repository ++ [("build" : Chars)] := by
  constructor
  · rw [FileTree.locate_eq_target h.dist_place]
    exact FileTree.target_child (by decide) (by decide) _ _
  · rw [FileTree.locate_eq_target h.build_place]
    exact FileTree.target_child (by decide) (by decide) _ _

theorem perform_clear_dist :
    (Chore.clear (distOf repository)).perform files = some (files.removeAt dist) :=
  Chore.perform_clear h.dist_place h.dist_cleared

/-- The way to `build/` does not lead through `dist/`. -/
theorem perform_clear_build (resolved : ['.', '.'] ∉ repository.names) :
    (Chore.clear (buildOf repository)).perform (files.removeAt dist) =
      some (emptied dist build files) := by
  obtain ⟨hdist, hbuild⟩ := h.places
  have hnames : ['.', '.'] ∉ (buildOf repository).names := by
    simpa [buildOf, Path.child] using resolved
  have habove : ¬ dist <+: build.dropLast := by
    rw [hbuild, List.dropLast_concat, hdist]
    intro hp
    simpa using hp.length_le
  have hbeside : ¬ dist <+: build := by
    rw [hbuild, hdist]
    intro hp
    simp at hp
  exact Chore.perform_clear (FileTree.locate_removeAt hnames h.build_place habove)
    (h.build_cleared.removeAt hbeside)

/-- A review begins with the build, on the emptied tree. -/
theorem conduct_eq (resolved : ['.', '.'] ∉ repository.names) (rest : List Action) :
    conduct setting (.chore (.clear (distOf repository)) ::
        .chore (.clear (buildOf repository)) :: rest) [] files =
      conduct setting rest [] (emptied dist build files) := by
  rw [conduct_chore h.perform_clear_dist, conduct_chore (h.perform_clear_build resolved)]

theorem conduct_buildActions (resolved : ['.', '.'] ∉ repository.names) :
    conduct setting (buildActions setting.interpreter repository) [] files =
      conduct setting [.process (buildStep setting.interpreter repository)] []
        (emptied dist build files) :=
  h.conduct_eq resolved _

theorem reviewCourse_eq (resolved : ['.', '.'] ∉ repository.names) :
    reviewCourse setting repository files =
      conduct setting (.process (buildStep setting.interpreter repository) ::
        laterActions setting.platform setting.interpreter setting.temporary repository
          (builtNames setting repository files)) [] (emptied dist build files) :=
  h.conduct_eq resolved _

theorem childNames_emptied :
    (emptied dist build files).childNames (distOf repository) = [] := by
  refine FileTree.childNames_eq_nil (fun found hl => ?_)
    fun e he => (not_prefix_of_mem_emptied he).1
  exact (FileTree.locate_eq_target hl).trans (FileTree.locate_eq_target h.dist_place).symm

end HasOutputs

def buildTrial (setting : Setting) (repository : Path) (files : FileTree) : Trial :=
  (buildStep setting.interpreter repository).attempt setting [] files

/-- The build ends, and leaves a wheel in `dist/` that was not there before. -/
def WritesWheel (setting : Setting) (repository : Path) (files : FileTree) : Prop :=
  ∃ status stdout stderr left, (buildTrial setting repository files).answer =
      .finished status stdout stderr left ∧
    ∃ wheel ∈ left.childNames (distOf repository),
      hasEnding wheelEnding wheel ∧ wheel ∉ files.childNames (distOf repository)

theorem exists_answer_of_left? {left : FileTree}
    (hl : (buildTrial setting repository files).left? = some left) :
    ∃ stdout stderr, (buildTrial setting repository files).answer = .finished 0 stdout stderr left ∧
      (buildStep setting.interpreter repository).condition (Text.ofChars stdout) left = true := by
  unfold Trial.left? at hl
  split at hl
  · rename_i status stdout stderr files' ha
    split_ifs at hl with haccepts
    obtain ⟨rfl, hc⟩ := Step.accepts_iff.mp haccepts
    cases hl
    exact ⟨stdout, stderr, ha, hc⟩
  · cases hl
  · cases hl

theorem writesWheel_of_left? (hempty : files.childNames (distOf repository) = [])
    {left : FileTree} (hl : (buildTrial setting repository files).left? = some left) :
    WritesWheel setting repository files := by
  obtain ⟨stdout, stderr, ha, hc⟩ := exists_answer_of_left? hl
  obtain ⟨wheel, wheels, -, -, hw, -⟩ := (buildStep_condition_iff (.refl _)).mp hc
  have hmem : wheel ∈ (left.childNames (distOf repository)).filter (hasEnding wheelEnding) := by
    rw [hw]
    exact List.mem_cons_self
  obtain ⟨hname, hending⟩ := List.mem_filter.mp hmem
  refine ⟨0, stdout, stderr, left, ha, wheel, hname, hending, ?_⟩
  rw [hempty]
  exact List.not_mem_nil

namespace HasOutputs

variable (h : HasOutputs repository dist build files) (resolved : ['.', '.'] ∉ repository.names)

include h resolved

/-- A review goes on after the build only with what this left. -/
theorem reviewCourse_cases :
    reviewCourse setting repository files =
        ([buildTrial setting repository (emptied dist build files)], .failed) ∨
      ∃ left, (buildTrial setting repository (emptied dist build files)).left? = some left ∧
        builtNames setting repository files = listedNames setting repository left := by
  cases hl : (buildTrial setting repository (emptied dist build files)).left? with
  | none => exact .inl ((h.reviewCourse_eq resolved).trans (conduct_process_failed hl))
  | some left =>
    have hbuilt : conduct setting (buildActions setting.interpreter repository) [] files =
        ([buildTrial setting repository (emptied dist build files)], .passed left) :=
      (h.conduct_buildActions resolved).trans (conduct_process hl)
    refine .inr ⟨left, rfl, ?_⟩
    rw [builtNames, hbuilt]

theorem exists_built (hlong : 1 < (reviewCourse setting repository files).1.length) :
    ∃ stdout stderr left, (buildTrial setting repository (emptied dist build files)).answer =
        .finished 0 stdout stderr left ∧
      builtNames setting repository files = listedNames setting repository left := by
  obtain hfailed | ⟨left, hl, hnames⟩ := h.reviewCourse_cases resolved
  · rw [hfailed] at hlong
    exact absurd hlong (lt_irrefl 1)
  · obtain ⟨stdout, stderr, ha, -⟩ := exists_answer_of_left? hl
    exact ⟨stdout, stderr, left, ha, hnames⟩

theorem writesWheel_of_passed {last : FileTree}
    (hpassed : (reviewCourse setting repository files).2 = .passed last) :
    WritesWheel setting repository (emptied dist build files) := by
  obtain hfailed | ⟨left, hl, -⟩ := h.reviewCourse_cases resolved
  · rw [hfailed] at hpassed
    exact absurd hpassed (PlanEnd.failed_ne_passed last)
  · exact writesWheel_of_left? h.childNames_emptied hl

/-- The course of a review does not depend on what is cleared away. -/
theorem reviewCourse_eq_of_same (h' : HasOutputs repository dist build other)
    (same : emptied dist build files = emptied dist build other) :
    reviewCourse setting repository other = reviewCourse setting repository files := by
  have hnames : builtNames setting repository other = builtNames setting repository files := by
    rw [builtNames, builtNames, h'.conduct_buildActions resolved, h.conduct_buildActions resolved,
      same]
  rw [h'.reviewCourse_eq resolved, h.reviewCourse_eq resolved, hnames, same]

end HasOutputs

theorem calls_in_order (setting : Setting) (repository : Path) (files : FileTree) :
    (reviewCourse setting repository files).1.map Trial.call <+:
      (releaseSteps setting.platform setting.interpreter setting.temporary repository
        (builtNames setting repository files)).map Step.call := by
  have horder := (reviewCourse_endsAs setting repository files).steps_in_order
  rw [stepsOf_releaseActions] at horder
  have hcalls := horder.map Step.call
  rw [List.map_map] at hcalls
  exact hcalls

/-- Reviews that take the same course start the same processes and end with the same status. -/
theorem exists_common_end
    (hcourse : reviewCourse setting repository other = reviewCourse setting repository files) :
    ∃ status run run', review repository setting (Run.start files) = (.error (.exit status), run) ∧
      review repository setting (Run.start other) = (.error (.exit status), run') ∧
      run.calls = (reviewCourse setting repository files).1.map Trial.call ∧
      run'.calls = run.calls ∧
      ((∀ left, (reviewCourse setting repository files).2 ≠ .passed left) → status = 1) := by
  obtain ⟨status, run, hrun, hcalls, hstatus⟩ := review_ends setting repository files
  obtain ⟨status', run', hrun', hcalls', hstatus'⟩ := review_ends setting repository other
  rw [hcourse] at hcalls' hstatus'
  rcases hstatus with ⟨rfl, left, hleft⟩ | ⟨rfl, hnot⟩
  · obtain ⟨rfl, -⟩ := hstatus'.resolve_right fun hn => hn.2 left hleft
    exact ⟨0, run, run', hrun, hrun', hcalls, hcalls'.trans hcalls.symm,
      fun hn => absurd hleft (hn left)⟩
  · obtain ⟨rfl, -⟩ := hstatus'.resolve_left fun hp => hp.2.elim hnot
    exact ⟨1, run, run', hrun, hrun', hcalls, hcalls'.trans hcalls.symm, fun _ => rfl⟩

/-- Two reviews of trees that differ only in `dist/` and `build/` start the same processes and end
with the same status. Both directories are emptied before the build is started, so that the archives
that are checked and installed are those that this build leaves, and without a new wheel the review
fails. -/
theorem review_ignores_earlier_builds (setting : Setting) (repository : Path)
    (resolved : ['.', '.'] ∉ repository.names) (dist build : Location) (files other : FileTree)
    (h : HasOutputs repository dist build files) (h' : HasOutputs repository dist build other)
    (same : emptied dist build files = emptied dist build other) :
    let found := emptied dist build files
    (∀ e ∈ found.entries, ¬ dist <+: e.1 ∧ ¬ build <+: e.1) ∧
    ∃ status run run' names,
      review repository setting (Run.start files) = (.error (.exit status), run) ∧
      review repository setting (Run.start other) = (.error (.exit status), run') ∧
      run'.calls = run.calls ∧
      run.calls <+: (releaseSteps setting.platform setting.interpreter setting.temporary
        repository names).map Step.call ∧
      (1 < run.calls.length → ∃ stdout stderr left,
        (buildTrial setting repository found).answer = .finished 0 stdout stderr left ∧
        names = setting.listed (left.childNames (distOf repository))) ∧
      (¬ WritesWheel setting repository found → status = 1) := by
  intro found
  obtain ⟨status, run, run', hrun, hrun', hcalls, hsame, hstatus⟩ :=
    exists_common_end (h.reviewCourse_eq_of_same resolved h' same)
  refine ⟨fun e => not_prefix_of_mem_emptied, status, run, run',
    builtNames setting repository files, hrun, hrun', hsame, ?_, fun hlong => ?_, fun hwheel => ?_⟩
  · rw [hcalls]
    exact calls_in_order setting repository files
  · rw [hcalls, List.length_map] at hlong
    exact h.exists_built resolved hlong
  · exact hstatus fun left hpassed => hwheel (h.writesWheel_of_passed resolved hpassed)

def goodDist : Location := [['/'], "work", "repo", "dist"]

def goodBuild : Location := [['/'], "work", "repo", "build"]

/-- A tree with a wheel of an earlier build. -/
def staleFiles : FileTree :=
  ⟨[['/'], "work"],
   [([['/'], "work", "repo"], .directory), ([['/'], "work", "repo", "dist"], .directory),
    ([['/'], "work", "repo", "dist", "p-0.9-py3-none-any.whl"], .file [])]⟩

/-- The same tree with files of an earlier build in another place. -/
def halfBuiltFiles : FileTree :=
  ⟨[['/'], "work"],
   [([['/'], "work", "repo"], .directory), ([['/'], "work", "repo", "build"], .directory),
    ([['/'], "work", "repo", "build", "lib"], .file [0])]⟩

/-- All processes succeed and do nothing. -/
def idleSetting : Setting :=
  { goodSetting with answer := fun _ files => .finished 0 [] [] files }

/-- The wheel of an earlier build does not help a build that does nothing. -/
theorem review_ignores_earlier_builds_of_stale_wheel :
    ['.', '.'] ∉ goodRepository.names ∧
      HasOutputs goodRepository goodDist goodBuild staleFiles ∧
      HasOutputs goodRepository goodDist goodBuild halfBuiltFiles ∧
      emptied goodDist goodBuild staleFiles = emptied goodDist goodBuild halfBuiltFiles ∧
      ∃ run run', review goodRepository idleSetting (Run.start staleFiles) =
          (.error (.exit 1), run) ∧
        review goodRepository idleSetting (Run.start halfBuiltFiles) = (.error (.exit 1), run') ∧
        run'.calls = run.calls := by
  have hresolved : ['.', '.'] ∉ goodRepository.names := by decide
  have hstale : HasOutputs goodRepository goodDist goodBuild staleFiles :=
    ⟨rfl, rfl, .inl rfl, .inr ⟨rfl, by decide⟩⟩
  have hhalf : HasOutputs goodRepository goodDist goodBuild halfBuiltFiles :=
    ⟨rfl, rfl, .inr ⟨rfl, by decide⟩, .inl rfl⟩
  obtain ⟨-, status, run, run', -, hrun, hrun', hcalls, -, -, hwheel⟩ :=
    review_ignores_earlier_builds idleSetting goodRepository hresolved goodDist goodBuild
      staleFiles halfBuiltFiles hstale hhalf rfl
  obtain rfl : status = 1 := by
    refine hwheel ?_
    rintro ⟨_, _, _, left, ha, wheel, hmem, -, hnew⟩
    cases ha
    exact hnew hmem
  exact ⟨hresolved, hstale, hhalf, rfl, run, run', hrun, hrun', hcalls⟩

end Packaging

end GeoUrn
