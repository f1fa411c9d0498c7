import GeoUrn.Packaging.Checks
import GeoUrn.Proofs.PlannedRuns

/-!
Scripts that carry out plans. A script follows the course of a plan if it starts the processes of
that course, stops with a failure where the course does, and goes on where the course does. There is
one rule for each way in which a script is put together.
-/
namespace GeoUrn.Packaging

def Stop.status : Stop → Int
  | .exit status => status
  | .interrupted => 1
  | .fault _ => 1

variable {α β : Type} {setting : Setting} {calls : List Call} {files : FileTree} {made made' : Nat}
  {result : FileTree → Except Stop α} {course : List Trial × PlanEnd}

theorem Script.pure_bind (a : α) (f : α → Script β) : (pure a : Script α) >>= f = f a := rfl

theorem Script.stop_bind (reason : Stop) (f : α → Script β) :
    (Script.stop reason : Script α) >>= f = Script.stop reason := rfl

theorem Script.bind_assoc {γ : Type} (x : Script α) (f : α → Script β) (g : β → Script γ) :
    x >>= f >>= g = x >>= fun a => f a >>= g := by
  funext setting run
  change Script.bind (Script.bind x f) g setting run = Script.bind x _ setting run
  simp only [Script.bind]
  rcases x setting run with ⟨stop | a, after⟩
  · rfl
  · rfl

/-- Whether the end of a script is that of a course. `calls` were started before it, `result` is
what the script gives for the files it leaves, and `made'` counts the temporary directories then
made. -/
inductive Agrees (result : FileTree → Except Stop α) (calls : List Call) (made' : Nat) :
    Except Stop α × Run → List Trial × PlanEnd → Prop where
  | passed {trials : List Trial} (run : Run) (hc : run.calls = calls ++ trials.map Trial.call)
      (hm : run.temporaries = made') :
      Agrees result calls made' (result run.files, run) (trials, .passed run.files)
  | stopped {trials : List Trial} {ending : PlanEnd} {stop : Stop} {run : Run}
      (hn : ∀ left, ending ≠ .passed left) (hs : stop.status = 1)
      (hc : run.calls = calls ++ trials.map Trial.call) :
      Agrees result calls made' (.error stop, run) (trials, ending)

theorem Agrees.after (before : List Trial) {trials : List Trial} {ending : PlanEnd}
    {outcome : Except Stop α × Run}
    (h : Agrees result (calls ++ before.map Trial.call) made' outcome (trials, ending)) :
    Agrees result calls made' outcome (before ++ trials, ending) := by
  have hcalls : calls ++ before.map Trial.call ++ trials.map Trial.call =
      calls ++ (before ++ trials).map Trial.call := by
    rw [List.map_append, List.append_assoc]
  cases h with
  | passed run hc hm => exact .passed run (hc.trans hcalls) hm
  | stopped hn hs hc => exact .stopped hn hs (hc.trans hcalls)

def completed (call : Call) (status : Int) (stdout stderr : Text) : Script.Completed :=
  ⟨status, if call.capture then some stdout else none, if call.capture then some stderr else none⟩

/-- The state after a process that was announced and that left these files. -/
def Run.after (run : Run) (call : Call) (left : FileTree) : Run where
  files := left
  stdout := run.stdout ++ ("→ Running: " ++ Text.join ([' '] : Text) call.words) ++ "\n"
  stderr := run.stderr
  calls := run.calls ++ [call]
  temporaries := run.temporaries

section

variable {call : Call} {f : Script.Completed → Script α} {run : Run} {status : Int}
  {stdout stderr : Chars} {left : FileTree}

theorem runCommand_notStarted {fault : Fault}
    (h : setting.answer (run.calls ++ [call]) run.files = .notStarted fault) :
    (Script.runCommand call >>= f) setting run =
      (.error (.fault (.site fault)), run.after call run.files) := by
  change Script.bind (Script.start call) f setting _ = _
  simp only [Script.bind, Script.start, h]
  rfl

theorem runCommand_interrupted
    (h : setting.answer (run.calls ++ [call]) run.files = .interrupted) :
    (Script.runCommand call >>= f) setting run =
      (.error .interrupted, run.after call run.files) := by
  change Script.bind (Script.start call) f setting _ = _
  simp only [Script.bind, Script.start, h]
  rfl

theorem runCommand_failed
    (h : setting.answer (run.calls ++ [call]) run.files = .finished status stdout stderr left)
    (hc : (call.check && status != 0) = true) :
    (Script.runCommand call >>= f) setting run =
      (.error (.fault (.failedCommand call.words status)), run.after call left) := by
  change Script.bind (Script.start call) f setting _ = _
  simp only [Script.bind, Script.start, h, hc]
  rfl

theorem runCommand_finished
    (h : setting.answer (run.calls ++ [call]) run.files = .finished status stdout stderr left)
    (hc : (call.check && status != 0) = false) :
    (Script.runCommand call >>= f) setting run =
      f (completed call status (.ofChars stdout) (.ofChars stderr)) setting
        (run.after call left) := by
  change Script.bind (Script.start call) f setting _ = _
  simp only [Script.bind, Script.start, h, hc]
  rfl

end

/-- A script that agrees with a course, whatever was printed before. -/
def Follows (setting : Setting) (calls : List Call) (files : FileTree) (made : Nat)
    (script : Script α) (result : FileTree → Except Stop α) (made' : Nat)
    (course : List Trial × PlanEnd) : Prop :=
  ∀ out err, Agrees result calls made' (script setting ⟨files, out, err, calls, made⟩) course

namespace Follows

theorem pure (value : FileTree → α) : Follows setting calls files made (Pure.pure (value files))
    (fun left => .ok (value left)) made (conduct setting [] calls files) :=
  fun out err => .passed ⟨files, out, err, calls, made⟩ (List.append_nil calls).symm rfl

theorem say {line : Text} {f : Unit → Script α}
    (h : Follows setting calls files made (f ()) result made' course) :
    Follows setting calls files made (Script.say line >>= f) result made' course :=
  fun out err => h (out ++ line ++ "\n") err

theorem say_last {line : Text} : Follows setting calls files made (Script.say line)
    (fun _ => .ok ()) made (conduct setting [] calls files) :=
  say (pure fun _ => ())

theorem complain {line : Text} {f : Unit → Script α}
    (h : Follows setting calls files made (f ()) result made' course) :
    Follows setting calls files made (Script.complain line >>= f) result made' course :=
  fun out err => h out (err ++ line ++ "\n")

theorem heading {title : Text} {f : Unit → Script α}
    (h : Follows setting calls files made (f ()) result made' course) :
    Follows setting calls files made (Packaging.heading title >>= f) result made' course :=
  fun _ err => h _ err

theorem setting_bind {f : Setting → Script α}
    (h : Follows setting calls files made (f setting) result made' course) :
    Follows setting calls files made (Script.setting >>= f) result made' course :=
  h

theorem files_bind {f : FileTree → Script α}
    (h : Follows setting calls files made (f files) result made' course) :
    Follows setting calls files made (Script.files >>= f) result made' course :=
  h

theorem setFiles_bind {left : FileTree} {f : Unit → Script α}
    (h : Follows setting calls left made (f ()) result made' course) :
    Follows setting calls files made (Script.setFiles left >>= f) result made' course :=
  h

theorem stop {reason : Stop} {ending : PlanEnd} (hn : ∀ left, ending ≠ .passed left)
    (h : reason.status = 1) :
    Follows setting calls files made (Script.stop reason) result made' ([], ending) :=
  fun _ _ => .stopped hn h (List.append_nil calls).symm

/-- A script may stop also when all is done. -/
theorem stop_last {reason : Stop} : Follows setting calls files made (Script.stop reason)
    (fun _ => (.error reason : Except Stop α)) made (conduct setting [] calls files) :=
  fun out err => .passed ⟨files, out, err, calls, made⟩ (List.append_nil calls).symm rfl

theorem fail {message : Text} :
    Follows setting calls files made (Script.fail message) result made' ([], .failed) :=
  complain (stop PlanEnd.failed_ne_passed rfl)

theorem bind {x : Script α} {f : α → Script β} {value : FileTree → α}
    {result : FileTree → Except Stop β} {first second : List Action} {middle : Nat}
    (hx : Follows setting calls files made x (fun left => .ok (value left)) middle
      (conduct setting first calls files))
    (hf : ∀ trials left, conduct setting first calls files = (trials, .passed left) →
      Follows setting (calls ++ trials.map Trial.call) left middle (f (value left)) result made'
        (conduct setting second (calls ++ trials.map Trial.call) left)) :
    Follows setting calls files made (x >>= f) result made'
      (conduct setting (first ++ second) calls files) := by
  intro out err
  have ha := hx out err
  -- The script stops in its first part exactly where the course does not reach the second one.
  rw [conduct_append]
  change Agrees _ _ _ (Script.bind x f setting _) _
  unfold Script.bind
  generalize x setting ⟨files, out, err, calls, made⟩ = outcome at ha
  generalize conduct setting first calls files = course at ha hf
  cases ha with
  | @passed trials run hc hm =>
    obtain ⟨left, out, err, started, made⟩ := run
    cases hc
    cases hm
    exact .after trials (hf trials left rfl out err)
  | @stopped trials ending stop run hn hs hc =>
    cases ending with
    | passed left => exact absurd rfl (hn left)
    | failed => exact .stopped hn hs hc
    | stuck chore => exact .stopped hn hs hc

/-- A text is read from a file that is there and whose bytes are a text; all else is a fault. -/
theorem readText_bind {path : Path} {f : Text → Script α}
    (h : Follows setting calls files made
      (match files.read path with
      | .error fault => Script.stop (.fault (.site fault))
      | .ok bytes =>
        match Text.decodeUtf8 bytes with
        | .error flaw => Script.stop (.fault (.site (.notUtf8 flaw)))
        | .ok text => f (Text.unifyLineEnds text)) result made' course) :
    Follows setting calls files made (Script.readText path >>= f) result made' course := by
  unfold Script.readText
  rw [Script.bind_assoc]
  refine files_bind ?_
  cases hr : files.read path with
  | error fault =>
    rw [hr] at h
    exact h
  | ok bytes =>
    rw [hr] at h
    simp only [Script.ofExcept, Script.pure_bind] at h ⊢
    cases hd : Text.decodeUtf8 bytes with
    | error flaw =>
      rw [hd] at h
      exact h
    | ok text =>
      rw [hd] at h
      exact h

/-- A process whose status is a failure ends the script at once. Otherwise the script has to fail by
itself where the step does not accept the end of the process, and to go on where it does. -/
theorem process (step : Step) {rest : List Action} {f : Script.Completed → Script α}
    (hstatus : step.call.check = true → step.status = 0)
    (hfailed : ∀ status stdout stderr left, step.accepts status stdout left = false →
      (step.call.check && status != 0) = false →
      Follows setting (calls ++ [step.call]) left made
        (f (completed step.call status stdout stderr)) result made' ([], .failed))
    (hpassed : ∀ stdout stderr left, step.condition stdout left = true →
      Follows setting (calls ++ [step.call]) left made
        (f (completed step.call step.status stdout stderr)) result made'
        (conduct setting rest (calls ++ [step.call]) left)) :
    Follows setting calls files made (Script.runCommand step.call >>= f) result made'
      (conduct setting (.process step :: rest) calls files) := by
  intro out err
  cases ha : setting.answer (calls ++ [step.call]) files with
  | notStarted fault =>
    have hl : (step.attempt setting calls files).left? = none := by
      rw [Step.attempt, ha, Trial.left?]
    rw [conduct_process_failed hl, runCommand_notStarted ha]
    exact .stopped PlanEnd.failed_ne_passed rfl rfl
  | interrupted =>
    have hl : (step.attempt setting calls files).left? = none := by
      rw [Step.attempt, ha, Trial.left?]
    rw [conduct_process_failed hl, runCommand_interrupted ha]
    exact .stopped PlanEnd.failed_ne_passed rfl rfl
  | finished status stdout stderr left =>
    have hleft : (step.attempt setting calls files).left? =
        if step.accepts status (.ofChars stdout) left then some left else none := by
      rw [Step.attempt, ha, Trial.left?]
    cases hs : step.accepts status (.ofChars stdout) left with
    | true =>
      obtain ⟨rfl, hcond⟩ := Step.accepts_iff.mp hs
      have hcheck : (step.call.check && step.status != 0) = false := by
        simpa using hstatus
      rw [hs, if_pos rfl] at hleft
      rw [conduct_process hleft, runCommand_finished ha hcheck]
      exact .after [step.attempt setting calls files]
        (hpassed (.ofChars stdout) (.ofChars stderr) left hcond _ err)
    | false =>
      rw [hs, if_neg Bool.false_ne_true] at hleft
      rw [conduct_process_failed hleft]
      cases hc : step.call.check && status != 0 with
      | true =>
        rw [runCommand_failed ha hc]
        exact .stopped PlanEnd.failed_ne_passed rfl rfl
      | false =>
        rw [runCommand_finished ha hc]
        exact .after [step.attempt setting calls files]
          (hfailed status (.ofChars stdout) (.ofChars stderr) left hs hc _ err)

/-- A process that must succeed, and about which something else is asked afterwards. -/
theorem checked (step : Step) {rest : List Action} {f : Script.Completed → Script α}
    (hcheck : step.call.check = true) (hstatus : step.status = 0)
    (hfailed : ∀ stdout stderr left, step.condition stdout left = false →
      Follows setting (calls ++ [step.call]) left made
        (f (completed step.call 0 stdout stderr)) result made' ([], .failed))
    (hpassed : ∀ stdout stderr left, step.condition stdout left = true →
      Follows setting (calls ++ [step.call]) left made
        (f (completed step.call 0 stdout stderr)) result made'
        (conduct setting rest (calls ++ [step.call]) left)) :
    Follows setting calls files made (Script.runCommand step.call >>= f) result made'
      (conduct setting (.process step :: rest) calls files) := by
  refine process step (fun _ => hstatus) (fun status stdout stderr left hs hc => ?_) ?_
  · have hzero : status = 0 := by simpa [hcheck] using hc
    have hcond : step.condition stdout left = false := by
      simpa [Step.accepts, hstatus, hzero] using hs
    rw [hzero]
    exact hfailed stdout stderr left hcond
  · rw [hstatus]
    exact hpassed

theorem succeeding (call : Call) {rest : List Action} {f : Script.Completed → Script α}
    (hcheck : call.check = true)
    (h : ∀ stdout stderr left, Follows setting (calls ++ [call]) left made
      (f (completed call 0 stdout stderr)) result made'
      (conduct setting rest (calls ++ [call]) left)) :
    Follows setting calls files made (Script.runCommand call >>= f) result made'
      (conduct setting (.process (.succeeding call) :: rest) calls files) :=
  checked (.succeeding call) hcheck rfl (fun _ _ _ hc => nomatch hc)
    fun stdout stderr left _ => h stdout stderr left

theorem runAll (all : List Call) (hcheck : ∀ call ∈ all, call.check = true) :
    Follows setting calls files made (Packaging.runAll all) (fun _ => .ok ()) made
      (conduct setting (all.map fun call => .process (.succeeding call)) calls files) := by
  induction all generalizing calls files with
  | nil => exact pure fun _ => ()
  | cons call rest ih =>
    obtain ⟨hcall, hrest⟩ := List.forall_mem_cons.mp hcheck
    exact succeeding call hcall fun _ _ _ => ih hrest

theorem clean {directory : Path} {rest : List Action} {f : Unit → Script α}
    (h : ∀ left, (Chore.clear directory).perform files = some left →
      Follows setting calls left made (f ()) result made' (conduct setting rest calls left)) :
    Follows setting calls files made (Packaging.clean directory >>= f) result made'
      (conduct setting (.chore (.clear directory) :: rest) calls files) := by
  unfold Packaging.clean
  rw [Script.bind_assoc]
  refine files_bind ?_
  cases he : files.entry? directory with
  | none =>
    have hp : (Chore.clear directory).perform files = some files := by rw [Chore.perform, he]
    rw [conduct_chore hp, Script.pure_bind]
    exact h files hp
  | some entry =>
    cases entry with
    | file bytes =>
      have hp : (Chore.clear directory).perform files = none := by rw [Chore.perform, he]
      rw [conduct_chore_stuck hp, Script.bind_assoc]
      exact say (stop (PlanEnd.stuck_ne_passed _) rfl)
    | directory =>
      have hp : (Chore.clear directory).perform files = some (files.remove directory) := by
        rw [Chore.perform, he]
      rw [conduct_chore hp, Script.bind_assoc]
      exact say (setFiles_bind (h _ hp))

/-- A temporary directory is there while the body of the script follows a plan of its own. -/
theorem withTemporary {label : Text} {body : Path → Script Unit} {path : Path}
    {actions : List Action}
    (hpath : path = setting.temporary label (made + 1))
    (h : ∀ left, Follows setting calls left (made + 1) (body path) (fun _ => .ok ()) (made + 1)
      (conduct setting actions calls left)) :
    Follows setting calls files made (Script.withTemporary label body) (fun _ => .ok ()) (made + 1)
      (conduct setting (.chore (.make path) :: (actions ++ [.chore (.remove path)])) calls
        files) := by
  intro out err
  unfold Script.withTemporary
  simp only [← hpath]
  cases hm : files.makeDirectory path with
  | error fault =>
    have hp : (Chore.make path).perform files = none := by
      rw [Chore.perform, hm]
      rfl
    rw [conduct_chore_stuck hp]
    exact .stopped (PlanEnd.stuck_ne_passed _) rfl (List.append_nil calls).symm
  | ok left =>
    have hp : (Chore.make path).perform files = some left := by
      rw [Chore.perform, hm]
      rfl
    rw [conduct_chore hp, conduct_append]
    have ha := h left out err
    simp only
    generalize body path setting ⟨left, out, err, calls, made + 1⟩ = outcome at ha
    generalize conduct setting actions calls left = course at ha
    cases ha with
    | @passed trials run hc hm =>
      simp only [conduct, Chore.perform, List.append_nil]
      exact .passed { run with files := run.files.remove path } hc hm
    | @stopped trials ending stop run hn hs hc =>
      cases ending with
      | passed left => exact absurd rfl (hn left)
      | failed => exact .stopped hn hs hc
      | stuck chore => exact .stopped hn hs hc

end Follows

end GeoUrn.Packaging
