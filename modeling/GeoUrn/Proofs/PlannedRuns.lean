import GeoUrn.Packaging.Script
import Mathlib

/-!
Plans. A plan says beforehand which processes are started, what each of them has to do, and what is
done to the files between them. It knows nothing of printing, faults or exits: to conduct it is to
ask for one answer after the other until one is not as it has to be.
-/
namespace GeoUrn.Packaging

/-- A process to be started, the status with which it has to end, and what its output and the files
that it leaves have to be like. -/
structure Step where
  call : Call
  status : Int
  condition : Text → FileTree → Bool

namespace Step

def accepts (step : Step) (status : Int) (stdout : Text) (left : FileTree) : Bool :=
  status == step.status && step.condition stdout left

def succeeding (call : Call) : Step := ⟨call, 0, fun _ _ => true⟩

theorem accepts_iff {step : Step} {status : Int} {stdout : Text} {left : FileTree} :
    step.accepts status stdout left = true ↔
      status = step.status ∧ step.condition stdout left = true := by
  simp [accepts]

end Step

inductive Chore where
  | clear (directory : Path)
  | make (directory : Path)
  | remove (directory : Path)
  deriving DecidableEq

/-- The files after a chore, if it can be done. No file can be cleared away, and a directory is made
only where nothing is. -/
def Chore.perform (files : FileTree) : Chore → Option FileTree
  | .clear directory =>
    match files.entry? directory with
    | none => some files
    | some (.file _) => none
    | some .directory => some (files.remove directory)
  | .make directory => (files.makeDirectory directory).toOption
  | .remove directory => some (files.remove directory)

theorem Chore.perform_clear_isSome {files : FileTree} {directory : Path}
    (h : files.isFile directory = false) : ((clear directory).perform files).isSome := by
  unfold FileTree.isFile at h
  simp only [perform]
  cases he : files.entry? directory with
  | none => rfl
  | some entry =>
    cases entry with
    | file bytes => simp [he] at h
    | directory => rfl

inductive Action where
  | chore (chore : Chore)
  | process (step : Step)

def stepsOf (actions : List Action) : List Step :=
  actions.filterMap fun
    | .chore _ => none
    | .process step => some step

@[simp] theorem stepsOf_nil : stepsOf [] = [] := rfl

@[simp] theorem stepsOf_chore (chore : Chore) (rest : List Action) :
    stepsOf (.chore chore :: rest) = stepsOf rest := rfl

@[simp] theorem stepsOf_process (step : Step) (rest : List Action) :
    stepsOf (.process step :: rest) = step :: stepsOf rest := rfl

@[simp] theorem stepsOf_append (first second : List Action) :
    stepsOf (first ++ second) = stepsOf first ++ stepsOf second :=
  List.filterMap_append

@[simp] theorem stepsOf_map_process (steps : List Step) :
    stepsOf (steps.map .process) = steps := by
  induction steps with
  | nil => rfl
  | cons step rest ih => rw [List.map_cons, stepsOf_process, ih]

structure Trial where
  step : Step
  answer : Answer

namespace Trial

def call (trial : Trial) : Call := trial.step.call

/-- The files that the process left, if it did what it had to do. -/
def left? (trial : Trial) : Option FileTree :=
  match trial.answer with
  | .finished status stdout _ files =>
    if trial.step.accepts status (.ofChars stdout) files then some files else none
  | .notStarted _ => none
  | .interrupted => none

theorem accepts_of_left? {trial : Trial} {files : FileTree} (h : trial.left? = some files) :
    ∃ status stdout, trial.step.accepts status stdout files = true := by
  unfold left? at h
  split at h
  · split_ifs at h with ha
    cases h
    exact ⟨_, _, ha⟩
  · cases h
  · cases h

def Passed (trial : Trial) : Prop := trial.left?.isSome

instance (trial : Trial) : Decidable trial.Passed := inferInstanceAs (Decidable (_ = true))

theorem passed_of_left? {trial : Trial} {files : FileTree} (h : trial.left? = some files) :
    trial.Passed := by
  rw [Passed, h]
  rfl

theorem not_passed_of_left? {trial : Trial} (h : trial.left? = none) : ¬ trial.Passed := by
  rw [Passed, h]
  simp

end Trial

/-- The trial of a step in a setting, after the processes that were started before. -/
def Step.attempt (step : Step) (setting : Setting) (started : List Call) (files : FileTree) :
    Trial :=
  ⟨step, setting.answer (started ++ [step.call]) files⟩

/-- How a plan ends: with all that it asked for done and some files left, with a process that did
not do what it had to do, or with a chore that could not be done. -/
inductive PlanEnd where
  | passed (files : FileTree)
  | failed
  | stuck (chore : Chore)

theorem PlanEnd.failed_ne_passed (left : FileTree) : failed ≠ passed left := by
  intro h
  cases h

theorem PlanEnd.stuck_ne_passed (chore : Chore) (left : FileTree) : stuck chore ≠ passed left := by
  intro h
  cases h

/-- The processes that are started for a plan with what becomes of them, and the end of the plan.
`started` are those that were started before. -/
def conduct (setting : Setting) : List Action → List Call → FileTree → List Trial × PlanEnd
  | [], _, files => ([], .passed files)
  | .chore chore :: rest, started, files =>
    match chore.perform files with
    | none => ([], .stuck chore)
    | some files => conduct setting rest started files
  | .process step :: rest, started, files =>
    let trial := step.attempt setting started files
    match trial.left? with
    | none => ([trial], .failed)
    | some files =>
      let (more, ending) := conduct setting rest (started ++ [step.call]) files
      (trial :: more, ending)

section

variable {setting : Setting} {actions first second rest : List Action} {started : List Call}
  {files left : FileTree} {trials : List Trial} {ending : PlanEnd} {chore : Chore} {step : Step}

theorem conduct_chore (h : chore.perform files = some left) :
    conduct setting (.chore chore :: rest) started files = conduct setting rest started left := by
  rw [conduct, h]

theorem conduct_chore_stuck (h : chore.perform files = none) :
    conduct setting (.chore chore :: rest) started files = ([], .stuck chore) := by
  rw [conduct, h]

theorem conduct_process (h : (step.attempt setting started files).left? = some left) :
    conduct setting (.process step :: rest) started files =
      (step.attempt setting started files :: (conduct setting rest (started ++ [step.call]) left).1,
        (conduct setting rest (started ++ [step.call]) left).2) := by
  simp only [conduct, h]

theorem conduct_process_failed (h : (step.attempt setting started files).left? = none) :
    conduct setting (.process step :: rest) started files =
      ([step.attempt setting started files], .failed) := by
  simp only [conduct, h]

/-- A second plan begins where the first one ends, if this passed. -/
theorem conduct_append (setting : Setting) (first second : List Action) (started : List Call)
    (files : FileTree) : conduct setting (first ++ second) started files =
      match conduct setting first started files with
      | (trials, .passed left) =>
        (trials ++ (conduct setting second (started ++ trials.map Trial.call) left).1,
          (conduct setting second (started ++ trials.map Trial.call) left).2)
      | (trials, .failed) => (trials, .failed)
      | (trials, .stuck chore) => (trials, .stuck chore) := by
  induction first generalizing started files with
  | nil => simp [conduct]
  | cons action rest ih =>
    cases action with
    | chore chore =>
      cases hp : chore.perform files with
      | none => rw [List.cons_append, conduct_chore_stuck hp, conduct_chore_stuck hp]
      | some next => rw [List.cons_append, conduct_chore hp, conduct_chore hp, ih]
    | process step =>
      cases hl : (step.attempt setting started files).left? with
      | none => rw [List.cons_append, conduct_process_failed hl, conduct_process_failed hl]
      | some next =>
        rw [List.cons_append, conduct_process hl, conduct_process hl, ih]
        -- The trial of this step stands in front of what the rest comes to, however that ends.
        rcases conduct setting rest (started ++ [step.call]) next with ⟨trials, left | _ | _⟩
        · simp only [List.map_cons, List.cons_append, List.append_assoc, List.nil_append]
          rfl
        · rfl
        · rfl

/-- What is left at the end is as the last process has to leave it. -/
theorem condition_of_passed (first : List Action)
    (h : conduct setting (first ++ [.process step]) started files = (trials, .passed left)) :
    ∃ stdout, step.condition stdout left = true := by
  rw [conduct_append] at h
  generalize conduct setting first started files = course at h
  obtain ⟨before, middle | _ | _⟩ := course
  · simp only at h
    generalize started ++ before.map Trial.call = reached at h
    cases hl : (step.attempt setting reached middle).left? with
    | none =>
      rw [conduct_process_failed hl] at h
      cases h
    | some next =>
      rw [conduct_process hl] at h
      cases h
      obtain ⟨status, stdout, ha⟩ := Trial.accepts_of_left? hl
      exact ⟨stdout, (Step.accepts_iff.mp ha).2⟩
  · cases h
  · cases h

/-- What the end of a plan tells of its processes: all before the last one passed, they are the
steps of the plan in their order, and none of these is left out before the end. -/
inductive EndsAs (actions : List Action) : List Trial → PlanEnd → Prop where
  | passed {trials : List Trial} {left : FileTree} (all : ∀ trial ∈ trials, trial.Passed)
      (steps : trials.map Trial.step = stepsOf actions) : EndsAs actions trials (.passed left)
  | failed (front : List Trial) {last : Trial} (all : ∀ trial ∈ front, trial.Passed)
      (fault : ¬ last.Passed) (steps : (front ++ [last]).map Trial.step <+: stepsOf actions) :
      EndsAs actions (front ++ [last]) .failed
  | stuck (front rest : List Action) {trials : List Trial} {chore : Chore} {files : FileTree}
      (place : actions = front ++ .chore chore :: rest) (hindered : chore.perform files = none)
      (all : ∀ trial ∈ trials, trial.Passed) (steps : trials.map Trial.step = stepsOf front) :
      EndsAs actions trials (.stuck chore)

theorem EndsAs.after_chore (h : EndsAs rest trials ending) (chore : Chore) :
    EndsAs (.chore chore :: rest) trials ending := by
  cases h with
  | passed all steps => exact .passed all steps
  | failed front all fault steps => exact .failed front all fault steps
  | stuck front more place hindered all steps =>
    refine .stuck (.chore chore :: front) more ?_ hindered all steps
    rw [place, List.cons_append]

theorem EndsAs.after_process (h : EndsAs rest trials ending) {trial : Trial}
    (hp : trial.Passed) : EndsAs (.process trial.step :: rest) (trial :: trials) ending := by
  cases h with
  | passed all steps =>
    refine .passed (List.forall_mem_cons.mpr ⟨hp, all⟩) ?_
    rw [List.map_cons, steps, stepsOf_process]
  | failed front all fault steps =>
    rw [← List.cons_append]
    refine .failed (trial :: front) (List.forall_mem_cons.mpr ⟨hp, all⟩) fault ?_
    exact (List.prefix_cons_inj trial.step).mpr steps
  | stuck front more place hindered all steps =>
    refine .stuck (.process trial.step :: front) more ?_ hindered
      (List.forall_mem_cons.mpr ⟨hp, all⟩) ?_
    · rw [place, List.cons_append]
    · rw [List.map_cons, steps, stepsOf_process]

theorem conduct_endsAs (setting : Setting) (actions : List Action) (started : List Call)
    (files : FileTree) :
    EndsAs actions (conduct setting actions started files).1
      (conduct setting actions started files).2 := by
  induction actions generalizing started files with
  | nil => exact .passed (by simp [conduct]) rfl
  | cons action rest ih =>
    cases action with
    | chore chore =>
      cases hp : chore.perform files with
      | none =>
        rw [conduct_chore_stuck hp]
        exact .stuck [] rest rfl hp (by simp) rfl
      | some next =>
        rw [conduct_chore hp]
        exact (ih started next).after_chore chore
    | process step =>
      cases hl : (step.attempt setting started files).left? with
      | none =>
        rw [conduct_process_failed hl]
        refine .failed [] (by simp) (Trial.not_passed_of_left? hl) ?_
        simp [Step.attempt]
      | some next =>
        rw [conduct_process hl]
        exact (ih (started ++ [step.call]) next).after_process (Trial.passed_of_left? hl)

/-- The processes of a plan are started in its order, and nothing else is started. -/
theorem EndsAs.steps_in_order (h : EndsAs actions trials ending) :
    trials.map Trial.step <+: stepsOf actions := by
  cases h with
  | passed all steps => rw [steps]
  | failed front all fault steps => exact steps
  | stuck front rest place hindered all steps =>
    rw [steps, place, stepsOf_append]
    exact List.prefix_append _ _

/-- No process is started after one that did not pass. -/
theorem EndsAs.passed_before_last (h : EndsAs actions trials ending) :
    ∀ trial ∈ trials.dropLast, trial.Passed := by
  intro trial ht
  cases h with
  | passed all steps => exact all trial (List.mem_of_mem_dropLast ht)
  | failed front all fault steps =>
    rw [List.dropLast_concat] at ht
    exact all trial ht
  | stuck front rest place hindered all steps => exact all trial (List.mem_of_mem_dropLast ht)

theorem EndsAs.exists_last (h : EndsAs actions trials .failed) :
    ∃ last, trials.getLast? = some last ∧ ¬ last.Passed := by
  cases h with
  | failed front all fault steps => exact ⟨_, List.getLast?_concat, fault⟩

theorem EndsAs.hindered (h : EndsAs actions trials (.stuck chore)) :
    .chore chore ∈ actions ∧ ∃ files, chore.perform files = none := by
  cases h with
  | stuck front rest place hindered all steps =>
    rw [place]
    exact ⟨List.mem_append_right _ List.mem_cons_self, _, hindered⟩

/-- Where a plan got stuck, there is a step that it did not come to, if its last step is followed by
nothing but a removal. -/
theorem EndsAs.steps_ne {body : List Action} {last : Step} {directory : Path}
    (h : EndsAs (body ++ [.process last, .chore (.remove directory)]) trials (.stuck chore)) :
    trials.map Trial.step ≠ stepsOf (body ++ [.process last, .chore (.remove directory)]) := by
  cases h with
  | stuck front rest place hindered all steps =>
    -- The hindered chore is not the removal at the end, so that the last process comes after it.
    have hrest : stepsOf rest ≠ [] := by
      rcases List.append_eq_append_iff.mp place with ⟨middle, hfront, htail⟩ | ⟨middle, -, htail⟩
      · cases middle with
        | nil => cases htail
        | cons action middle =>
          cases middle with
          | nil =>
            cases htail
            cases hindered
          | cons => simp at htail
      · cases middle with
        | nil => cases htail
        | cons action middle =>
          rw [List.cons_append] at htail
          rw [(List.cons.inj htail).2]
          simp
    rw [steps, place, stepsOf_append, stepsOf_chore]
    intro he
    exact hrest (List.append_right_eq_self.mp he.symm)

end

end GeoUrn.Packaging
