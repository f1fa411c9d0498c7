import GeoUrn.Proofs.BatchAccounts
import GeoUrn.Proofs.FileFrames

/-!
How batch runs end. A run that fails has changed no file but its log, and one that ends well has put
the rows of its input in place of its former output. All faults are reported but those of opening
the log, which is done before there is anyone to report them.
-/
namespace GeoUrn.Command

open Audit (Desk Draft Event Level Logger)
open Batch (Row)
open Text (Encodable)

section

variable {touched : Location → Prop} {logger : Option Logger} {site : Site} {files : FileTree}
  {job : BatchJob} {bytes : Bytes} {drafts : List Draft}

/-- The log, if there is one, is ready for texts without surrogates, and its file is among those that
may be touched. -/
def LogsWithin (touched : Location → Prop) (logger : Option Logger) (files : FileTree) : Prop :=
  ∀ l, logger = some l → l.IsReady files ∧ l.IsEncodable ∧ touched l.place

theorem LogsWithin.grows (h : LogsWithin touched logger site.files)
    (hg : FileTree.Grows site.files files) : LogsWithin touched logger files := by
  intro l hl
  obtain ⟨ho, he, ht⟩ := h l hl
  exact ⟨⟨ho.notClosed, ho.idle, hg.holdsFile _ ho.holdsFile⟩, he, ht⟩

theorem LogsWithin.append {l : Logger} (h : LogsWithin touched (some l) site.files)
    (lines : Text) : FileTree.Rewrites touched site.files (l.append site lines).files := by
  obtain ⟨ho, -, ht⟩ := h l rfl
  rw [ho.append_eq]
  exact FileTree.rewrites_appendAt ho.holdsFile ht _

theorem LogsWithin.close (h : LogsWithin touched logger site.files) :
    Desk.close ⟨logger, site⟩ = site := by
  cases logger with
  | none => rfl
  | some l =>
    change l.append site l.held = site
    rw [(h l rfl).1.idle, Logger.append_nil]

/-- No log that is ready refuses the draft: its level is known, and its texts have no surrogates. -/
structure IsTaken (draft : Draft) : Prop extends draft.IsEncodable where
  level : ∃ level : Level, draft.level = .text level.name

/-- Such drafts are events of the log. -/
theorem exists_completes {l : Logger} (hl : l.IsEncodable) (now : Instant)
    (hd : ∀ draft ∈ drafts, IsTaken draft) : ∃ events, Desk.Completes l now drafts events ∧
      ∀ event ∈ events, event.toJson.Encodable := by
  induction drafts with
  | nil => exact ⟨[], .nil, List.forall_mem_nil _⟩
  | cons draft drafts ih =>
    obtain ⟨hdraft, hdrafts⟩ := List.forall_mem_cons.mp hd
    obtain ⟨level, hlevel⟩ := hdraft.level
    obtain ⟨events, hcompletes, hevents⟩ := ih hdrafts
    obtain ⟨event, hevent⟩ : ∃ event, l.complete now draft = .ok event :=
      ⟨_, Logger.complete_eq_ok_iff.mpr ⟨level, hlevel, rfl⟩⟩
    exact ⟨event :: events, .cons hevent hcompletes, List.forall_mem_cons.mpr
      ⟨hl.encodable_event hdraft.toIsEncodable hevent, hevents⟩⟩

theorem LogsWithin.noteAll (h : LogsWithin touched logger site.files)
    (hd : ∀ draft ∈ drafts, IsTaken draft) :
    ∃ after, Desk.noteAll ⟨logger, site⟩ drafts = (.ok (), ⟨logger, after⟩) ∧
      FileTree.Rewrites touched site.files after.files := by
  cases logger with
  | none => exact ⟨site, Desk.noteAll_none site drafts, .refl touched site.files⟩
  | some l =>
    obtain ⟨ho, he, -⟩ := h l rfl
    obtain ⟨events, hcompletes, hevents⟩ := exists_completes he site.clock hd
    exact ⟨_, Desk.noteAll_ready ho hcompletes hevents, h.append _⟩

/-- The rows that these bytes have as an input. -/
def rowsIn (job : BatchJob) (bytes : Bytes) : List Row :=
  Batch.keptRows (configOf job) (Reading.ofBytes bytes).lines

theorem encodable_rowsIn (job : BatchJob) (bytes : Bytes) :
    ∀ row ∈ rowsIn job bytes, row.IsEncodable :=
  Batch.isEncodable_of_mem_keptRows (encodable_types job) (Reading.encodable_lines bytes)

/-- Reading the input answers its rows, or the flaw in it, and adds reports to the log if there is
one. -/
theorem LogsWithin.parseFile (h : LogsWithin touched logger site.files)
    (hread : site.files.read (Path.ofText job.input) = .ok bytes) :
    ∃ after, Batch.parseFile (configOf job) logger job.input site =
        (match (Reading.ofBytes bytes).flaw with
          | none => .ok (rowsIn job bytes)
          | some flaw => .error (.notUtf8 flaw), ⟨logger, after⟩) ∧
      FileTree.Rewrites touched site.files after.files := by
  rw [Batch.parseFile_of_read hread]
  cases logger with
  | none =>
    rw [Batch.parseReading, Batch.parseLines_none]
    cases (Reading.ofBytes bytes).flaw with
    | none => exact ⟨site, rfl, .refl touched site.files⟩
    | some flaw => exact ⟨site, rfl, .refl touched site.files⟩
  | some l =>
    obtain ⟨ho, he, -⟩ := h l rfl
    have hr : Batch.Reportable l.runId (rowsIn job bytes) := fun row hrow _ =>
      ⟨he.runId, (encodable_rowsIn job bytes row hrow).input⟩
    exact ⟨_, Batch.parseReading_ready ho _ _ hr, h.append _⟩

/-- Once the output is written, the rest of the account cannot fail. -/
theorem LogsWithin.noteSuccess (h : LogsWithin touched logger site.files)
    (hread : site.files.read (Path.ofText job.output) = .ok bytes) (counts : BatchCounts) :
    ∃ after, Command.noteSuccess job counts ⟨logger, site⟩ = (.ok (), ⟨logger, after⟩) ∧
      FileTree.Rewrites touched site.files after.files := by
  cases logger with
  | none => exact ⟨site, rfl, .refl touched site.files⟩
  | some l =>
    simp only [Command.noteSuccess, Digest.ofFile_of_read hread]
    exact h.noteAll (List.forall_mem_cons.mpr ⟨⟨isEncodable_writtenDraft _ _ _, .info, rfl⟩,
      List.forall_mem_singleton.mpr
        ⟨Draft.isEncodable_runFinished (by decide) _ _ _, .info, rfl⟩⟩)

theorem LogsWithin.reportFault {fault : Fault} (h : LogsWithin touched logger site.files)
    (hf : Encodable fault.message) :
    ∃ last, (∀ told, Command.reportFault fault told ⟨logger, site⟩ =
        (last, ⟨1, [], Report.printed (told ++ [failureLine fault]), none⟩)) ∧
      FileTree.Rewrites touched site.files last.files := by
  have hdrafts : ∀ draft ∈ [Draft.error fault.className fault.message none none,
      .runFinished "failed" (.float site.duration) none none], IsTaken draft :=
    List.forall_mem_cons.mpr
      ⟨⟨Draft.isEncodable_error fault.encodable_className hf (by nofun) _, .error, rfl⟩,
      List.forall_mem_singleton.mpr
        ⟨Draft.isEncodable_runFinished (by decide) _ _ _, .info, rfl⟩⟩
  obtain ⟨last, hlast, hrewrites⟩ := h.noteAll hdrafts
  have hclosed := (h.grows hrewrites.toGrows).close
  refine ⟨last, fun told => ?_, hrewrites⟩
  simp only [Command.reportFault, hlast, hclosed]

theorem LogsWithin.attemptBatch (h : LogsWithin touched logger site.files) (job : BatchJob)
    (words : List Chars) :
    ∃ started, Command.attemptBatch job (words.map Text.ofChars) ⟨logger, site⟩ =
        processBatch job ⟨logger, started⟩ ∧
      FileTree.Rewrites touched site.files started.files := by
  obtain ⟨started, hstarted, hrewrites⟩ :=
    h.noteAll (List.forall_mem_singleton.mpr
      ⟨isEncodable_startDraft words job site, .info, rfl⟩)
  rw [Desk.noteAll_singleton] at hstarted
  refine ⟨started, ?_, hrewrites⟩
  simp only [Command.attemptBatch, hstarted]

end

namespace BatchRun

variable {run : BatchRun} {logger : Option Logger} {site : Site} {bytes : Bytes}

/-- The name of the log that the run keeps, if it keeps one. An empty name is none. -/
def logName? (run : BatchRun) : Option Chars := run.job.auditLog.filter (· ≠ [])

def IsLog (run : BatchRun) (place : Location) : Prop :=
  ∃ name, run.logName? = some name ∧ run.placeOf name = place

theorem isLog_iff {name : Chars} (h : run.logName? = some name) (place : Location) :
    run.IsLog place ↔ run.placeOf name = place := by
  simp [IsLog, h]

def CanLog (run : BatchRun) : Prop :=
  ∀ name, run.logName? = some name → run.site.files.Accepts (Path.ofText name)

def LogFails (run : BatchRun) (fault : Fault) : Prop :=
  ∃ name, run.logName? = some name ∧
    (run.site.files.prepare (Path.ofText name)).1 = .error fault

theorem LogFails.not_canLog {fault : Fault} (h : run.LogFails fault) : ¬ run.CanLog := by
  obtain ⟨name, hname, hp⟩ := h
  intro hlog
  obtain ⟨place, made, hplace⟩ := hlog name hname
  rw [hplace] at hp
  cases hp

def opened (run : BatchRun) : FileTree := (openLog run.job run.site).2.files

def countsOf (rows : List Row) : BatchCounts :=
  ⟨rows.length, Batch.recognizedCount rows, rows.length⟩

/-- With all in order the output gets the rows of the input, else no file is changed but the log. -/
theorem processBatch_cases (h : LogsWithin run.IsLog logger site.files)
    (hread : site.files.read (Path.ofText run.job.input) = .ok bytes) :
    ∃ last progress result,
      processBatch run.job ⟨logger, site⟩ = ⟨⟨logger, last⟩, progress, result⟩ ∧
      FileTree.Grows site.files last.files ∧
      (result = .ok (countsOf (rowsIn run.job bytes)) ∧ (Reading.ofBytes bytes).flaw = none ∧
        site.files.Accepts (Path.ofText run.job.output) ∧
        (¬ run.IsLog (FileTree.target site.files.home (Path.ofText run.job.output)) →
          last.files.read (Path.ofText run.job.output) =
            .ok (Text.encodeUtf8 (Batch.toText (rowsIn run.job bytes)))) ∨
      ∃ fault, result = .error fault ∧ Encodable fault.message ∧
        ((Reading.ofBytes bytes).flaw ≠ none ∨
          ¬ site.files.Accepts (Path.ofText run.job.output)) ∧
        FileTree.KeepsFiles run.IsLog site.files last.files) := by
  obtain ⟨parsed, hparsed, hrewrites⟩ := h.parseFile hread
  have hlogs := h.grows hrewrites.toGrows
  have haccepts := hrewrites.toSameShape.accepts_iff (Path.ofText run.job.output)
  unfold processBatch
  simp only
  rw [hparsed]
  cases hf : (Reading.ofBytes bytes).flaw with
  | some flaw =>
    exact ⟨parsed, _, _, rfl, hrewrites.toGrows, .inr ⟨_, rfl, Fault.encodable_message_notUtf8 flaw,
      .inl (by simp), hrewrites.toKeepsFiles⟩⟩
  | none =>
    simp only
    have hrows := encodable_rowsIn run.job bytes
    by_cases ha : parsed.files.Accepts (Path.ofText run.job.output)
    · obtain ⟨written, hw, hback⟩ := Batch.writeRows_of_accepts ha hrows
      have hgrows := parsed.files.grows_writeDeep (Path.ofText run.job.output)
        (Text.encodeUtf8 (Batch.toText (rowsIn run.job bytes)))
      rw [← Batch.files_writeRows hrows, hw] at hgrows
      rw [hw]
      have hwritten : LogsWithin run.IsLog logger ({ parsed with files := written } : Site).files :=
        hlogs.grows hgrows
      obtain ⟨last, hlast, hkeeps⟩ :=
        hwritten.noteSuccess hback (countsOf (rowsIn run.job bytes))
      rw [countsOf] at hlast
      simp only [hlast]
      refine ⟨last, _, _, rfl, hrewrites.toGrows.trans (hgrows.trans hkeeps.toGrows),
        .inl ⟨rfl, trivial, haccepts.mp ha, fun hout => hkeeps.toKeepsFiles.read hback ?_⟩⟩
      have hhome : written.home = site.files.home := hgrows.home.trans hrewrites.toGrows.home
      rw [← hhome] at hout
      exact hout
    · obtain ⟨fault, made, hp, hw⟩ := Batch.writeRows_of_not_accepts ha hrows
      have hkept : FileTree.KeepsFiles run.IsLog site.files made :=
        hrewrites.toKeepsFiles.trans (FileTree.adds_of_prepare hp).keepsFiles
      rw [hw]
      exact ⟨_, _, _, rfl, hkept.toGrows, .inr ⟨fault, rfl,
        (FileTree.isSystem_of_prepare hp).encodable_message, .inr (mt haccepts.mpr ha), hkept⟩⟩

/-- How a run ends whose input is a file. All faults are reported but those of opening the log, and
unless the run ends well no file is changed but the log. What is told before is told to those who
ask for it. -/
inductive Ending (run : BatchRun) : Report → Prop
  | escaped {fault : Fault} (log : run.LogFails fault)
      (keeps : FileTree.KeepsFiles run.IsLog run.site.files run.after.files) :
      Ending run ⟨1, [], [], some fault⟩
  | failed {fault : Fault} {told : List Text} (log : run.CanLog)
      (quiet : run.job.verbose = false → told = [])
      (cause : ¬ run.IsLog (run.placeOf run.job.input) →
        run.reading.flaw ≠ none ∨ ¬ run.opened.Accepts (Path.ofText run.job.output))
      (keeps : FileTree.KeepsFiles run.IsLog run.site.files run.after.files) :
      Ending run ⟨1, [], Report.printed (told ++ [failureLine fault]), none⟩
  | finished {read : Bytes} {told : List Text} (log : run.CanLog)
      (quiet : run.job.verbose = false → told = [])
      (read_eq : ¬ run.IsLog (run.placeOf run.job.input) → read = run.input)
      (flaw : (Reading.ofBytes read).flaw = none)
      (accepts : run.opened.Accepts (Path.ofText run.job.output))
      (output : ¬ run.IsLog (run.placeOf run.job.output) →
        run.after.files.read (Path.ofText run.job.output) =
          .ok (Text.encodeUtf8 (Batch.toText (rowsIn run.job read)))) :
      Ending run ⟨0, Report.printed [successLine run.job (countsOf (rowsIn run.job read))],
        Report.printed told, none⟩

theorem openLog_eq (run : BatchRun) : openLog run.job run.site =
    match run.logName? with
    | none => (.ok ⟨none, run.site⟩, run.site)
    | some name =>
      let (opening, files) := Logger.start run.site.runId (Path.ofText name) run.site.files
      let site := { run.site with files := files }
      (opening.map fun logger => ⟨some logger, site⟩, site) := by
  unfold openLog logName?
  cases run.job.auditLog with
  | none => rfl
  | some name =>
    cases name with
    | nil => rfl
    | cons c rest => rfl

def openedSite (run : BatchRun) : Site := { run.site with files := run.opened }

theorem openLog_cases (run : BatchRun) :
    (run.CanLog ∧ ∃ logger, openLog run.job run.site =
        (.ok ⟨logger, run.openedSite⟩, run.openedSite) ∧
      LogsWithin run.IsLog logger run.opened ∧
      FileTree.KeepsFiles run.IsLog run.site.files run.opened) ∨
    ∃ fault, run.LogFails fault ∧ openLog run.job run.site = (.error fault, run.openedSite) ∧
      FileTree.KeepsFiles run.IsLog run.site.files run.opened := by
  have heq := run.openLog_eq
  cases hname : run.logName? with
  | none =>
    simp only [hname] at heq
    rw [openedSite, opened, heq]
    refine .inl ⟨fun name h => ?_, none, rfl, fun l hl => ?_, .refl _ _⟩
    · simp [hname] at h
    · simp at hl
  | some name =>
    simp only [hname] at heq
    rw [openedSite, opened, heq]
    obtain ⟨place, made, hp, hs⟩ | ⟨fault, made, hp, hs⟩ :=
      Logger.start_cases run.site.runId (Path.ofText name) run.site.files
    · have hd := (FileTree.prepare_eq_ok hp).2
      have hplace : run.IsLog place := ⟨name, hname, (FileTree.place_of_prepare hp).symm⟩
      have hkeeps : FileTree.KeepsFiles run.IsLog run.site.files (made.appendAt place []) :=
        (FileTree.adds_of_prepare hp).keepsFiles.trans
          (FileTree.keepsFiles_putAt_file hd hplace _)
      rw [hs]
      refine .inl ⟨fun other h => ?_, _, rfl, fun l hl => ?_, hkeeps⟩
      · obtain rfl := Option.some.inj (hname.symm.trans h)
        exact ⟨place, made, hp⟩
      · cases hl
        exact ⟨⟨rfl, rfl, FileTree.holdsFile_appendAt hd []⟩, ⟨run.site.encodable_runId, nofun⟩,
          hplace⟩
    · rw [hs]
      exact .inr ⟨fault, ⟨name, hname, by rw [hp]⟩, rfl, (FileTree.adds_of_prepare hp).keepsFiles⟩

theorem run_eq_runBatch (asked : Invocation.ofArguments run.words = some (.batch run.job)) :
    Command.run run.words run.site =
      runBatch run.job (run.words.map Text.ofChars) run.site := by
  rw [Command.run, asked]
  rfl

theorem runBatch_eq (noZero : run.job.paths.any Path.hasZero = false)
    (isInput : isInputFile run.site.files run.job.input = true) :
    runBatch run.job (run.words.map Text.ofChars) run.site =
      match openLog run.job run.site with
      | (.error fault, site) => (site, .ended ⟨1, [], [], some fault⟩)
      | (.ok desk, _) =>
        let (site, report) := runLogged run.job (run.words.map Text.ofChars) desk
        (site, .ended report) := by
  rw [runBatch, noZero, isInput]
  rfl

theorem read_input (isInput : isInputFile run.site.files run.job.input = true) :
    run.site.files.read (Path.ofText run.job.input) = .ok run.input := by
  simp only [isInputFile, Bool.and_eq_true] at isInput
  exact FileTree.read_of_isFile isInput.2

/-- The input can still be read when the files but the log are kept, and if it is not the log itself,
it reads as before. -/
theorem exists_read (isInput : isInputFile run.site.files run.job.input = true)
    {files : FileTree} (h : FileTree.KeepsFiles run.IsLog run.site.files files) :
    ∃ read, files.read (Path.ofText run.job.input) = .ok read ∧
      (¬ run.IsLog (run.placeOf run.job.input) → read = run.input) := by
  obtain ⟨read, hread⟩ := h.toGrows.exists_read (read_input isInput)
  refine ⟨read, hread, fun hin => ?_⟩
  have hsame := h.read (read_input isInput) hin
  rw [hread] at hsame
  exact Except.ok.inj hsame

/-- From the opening of its log on, a run ends well or reports a fault. -/
theorem runLogged_ending (hlog : run.CanLog)
    (isInput : isInputFile run.site.files run.job.input = true)
    (h : LogsWithin run.IsLog logger run.opened)
    (hkeeps : FileTree.KeepsFiles run.IsLog run.site.files run.opened)
    {last : Site} {report : Report} (hafter : run.after = last)
    (he : runLogged run.job (run.words.map Text.ofChars) ⟨logger, run.openedSite⟩ =
      (last, report)) : run.Ending report := by
  have hopened : LogsWithin run.IsLog logger run.openedSite.files := h
  obtain ⟨started, hattempt, hstarted⟩ := hopened.attemptBatch run.job run.words
  have hlogs : LogsWithin run.IsLog logger started.files := h.grows hstarted.toGrows
  have hbefore : FileTree.KeepsFiles run.IsLog run.site.files started.files :=
    hkeeps.trans hstarted.toKeepsFiles
  obtain ⟨read, hread, hsame⟩ := exists_read isInput hbefore
  have haccepts := hstarted.toSameShape.accepts_iff (Path.ofText run.job.output)
  have hquiet : ∀ told : List Text, run.job.verbose = false →
      (if run.job.verbose then told else []) = [] := by
    intro told hv
    rw [hv]
    rfl
  obtain ⟨worked, progress, result, hprocess, hgrows, hresult⟩ := processBatch_cases hlogs hread
  have hworked : LogsWithin run.IsLog logger worked.files := hlogs.grows hgrows
  simp only [runLogged, hattempt, hprocess] at he
  obtain ⟨rfl, hflaw, haccepted, hout⟩ | ⟨fault, rfl, hmessage, hcause, hends⟩ := hresult
  · simp only [hworked.close] at he
    cases he
    refine .finished hlog (hquiet _) hsame hflaw (haccepts.mp haccepted) fun hne => ?_
    rw [hafter]
    refine hout ?_
    rw [hbefore.home]
    exact hne
  · obtain ⟨ended, hended, hrewrites⟩ := hworked.reportFault hmessage
    simp only [hended] at he
    cases he
    refine .failed hlog (hquiet _) (fun hin => ?_) ?_
    · rw [hsame hin] at hcause
      exact hcause.imp_right (mt haccepts.mpr)
    · rw [hafter]
      exact hbefore.trans (hends.trans hrewrites.toKeepsFiles)

theorem exists_ending (asked : Invocation.ofArguments run.words = some (.batch run.job))
    (noZero : run.job.paths.any Path.hasZero = false)
    (isInput : isInputFile run.site.files run.job.input = true) :
    ∃ report, run.outcome = .ended report ∧ run.Ending report := by
  have hrun := run_eq_runBatch asked
  have hbatch := runBatch_eq noZero isInput
  obtain ⟨hlog, logger, ho, hlogs, hkeeps⟩ | ⟨fault, hlog, ho, hkeeps⟩ := run.openLog_cases
  · rw [ho] at hbatch
    have hafter : run.after = _ := congrArg Prod.fst (hrun.trans hbatch)
    refine ⟨_, congrArg Prod.snd (hrun.trans hbatch), ?_⟩
    exact runLogged_ending hlog isInput hlogs hkeeps hafter rfl
  · rw [ho] at hbatch
    have hafter : run.after = _ := congrArg Prod.fst (hrun.trans hbatch)
    refine ⟨_, congrArg Prod.snd (hrun.trans hbatch), .escaped hlog ?_⟩
    rw [hafter]
    exact hkeeps

theorem flaw_eq_none_iff (bytes : Bytes) : (Reading.ofBytes bytes).flaw = none ↔
    ∃ text, Text.decodeUtf8 (Reading.contents bytes) = .ok text := by
  constructor
  · intro h
    have hreading : Reading.ofBytes bytes = ⟨(Reading.ofBytes bytes).text, none⟩ := by rw [← h]
    exact ⟨_, Reading.ofBytes_eq_iff.mp hreading⟩
  · rintro ⟨text, h⟩
    rw [Reading.ofBytes_eq_iff.mpr h]

/-- A run that is refused before it begins changes nothing, and does not end well. -/
theorem refused_or_begun (asked : Invocation.ofArguments run.words = some (.batch run.job)) :
    (run.after = run.site ∧ run.outcome.exitCode ≠ 0) ∨
    (run.job.paths.any Path.hasZero = false ∧
      isInputFile run.site.files run.job.input = true) := by
  rw [after, outcome, run_eq_runBatch asked]
  cases hzero : run.job.paths.any Path.hasZero with
  | true =>
    rw [runBatch, hzero]
    exact .inl ⟨rfl, one_ne_zero⟩
  | false =>
    cases hinput : isInputFile run.site.files run.job.input with
    | true => exact .inr ⟨rfl, rfl⟩
    | false =>
      rw [runBatch, hzero, hinput]
      exact .inl ⟨rfl, two_ne_zero⟩

theorem keepsFiles_of_exitCode (asked : Invocation.ofArguments run.words = some (.batch run.job))
    (h : run.outcome.exitCode ≠ 0) :
    FileTree.KeepsFiles run.IsLog run.site.files run.after.files := by
  obtain ⟨hafter, -⟩ | ⟨noZero, isInput⟩ := refused_or_begun asked
  · rw [hafter]
    exact .refl run.IsLog run.site.files
  · obtain ⟨report, houtcome, hending⟩ := exists_ending asked noZero isInput
    rw [houtcome] at h
    cases hending with
    | escaped _ keeps => exact keeps
    | failed _ _ _ keeps => exact keeps
    | finished => exact absurd rfl h

theorem exitCode_eq_zero_iff (asked : Invocation.ofArguments run.words = some (.batch run.job))
    (noZero : run.job.paths.any Path.hasZero = false)
    (isInput : isInputFile run.site.files run.job.input = true)
    (hin : ¬ run.IsLog (run.placeOf run.job.input)) :
    (run.outcome.exitCode = 0 ∨ run.outcome.exitCode = 1) ∧
    (run.outcome.exitCode = 0 ↔ run.CanLog ∧ run.reading.flaw = none ∧
      run.opened.Accepts (Path.ofText run.job.output)) := by
  obtain ⟨report, houtcome, hending⟩ := exists_ending asked noZero isInput
  rw [houtcome]
  cases hending with
  | escaped log => exact ⟨.inr rfl, by simp [Outcome.exitCode, log.not_canLog]⟩
  | failed _ _ cause =>
    refine ⟨.inr rfl, ?_⟩
    obtain hflaw | hout := cause hin
    · simp [Outcome.exitCode, hflaw]
    · simp [Outcome.exitCode, hout]
  | @finished read _ log _ read_eq flaw accepts =>
    rw [read_eq hin] at flaw
    exact ⟨.inl rfl, fun _ => ⟨log, flaw, accepts⟩, fun _ => rfl⟩

/-- A batch of the file `i` with a new log `l`, whose output `o` has bytes of a former run. -/
def renewingRun (input : Bytes) : BatchRun where
  words := ["batch", "i", "-o", "o", "--audit-log", "l"]
  job := ⟨"i", "o", some "l", false, false⟩
  site := ⟨⟨[['/'], ['w']],
      [([['/'], ['w'], ['i']], .file input), ([['/'], ['w'], ['o']], .file [0x6F, 0x6C, 0x64])]⟩,
    ⟨2026, 2, 3, 12, 34, 56, 0⟩, ['0'], none, .finite false 0 (-1074)⟩

theorem renewingRun_not_isLog (input : Bytes) :
    ¬ (renewingRun input).IsLog ((renewingRun input).placeOf "i") ∧
      ¬ (renewingRun input).IsLog ((renewingRun input).placeOf "o") := by
  have hname : (renewingRun input).logName? = some ['l'] := rfl
  rw [isLog_iff hname, isLog_iff hname]
  exact ⟨show FileTree.target [['/'], ['w']] (Path.ofText "l") ≠
      FileTree.target [['/'], ['w']] (Path.ofText "i") by decide,
    show FileTree.target [['/'], ['w']] (Path.ofText "l") ≠
      FileTree.target [['/'], ['w']] (Path.ofText "o") by decide⟩

/-- A batch whose log would lie below its input. -/
def misplacedLogRun : BatchRun where
  words := ["batch", "i", "-o", "o", "--audit-log", "i/l"]
  job := ⟨"i", "o", some "i/l", false, false⟩
  site := ⟨⟨[['/'], ['w']], [([['/'], ['w'], ['i']], .file [])]⟩,
    ⟨2026, 2, 3, 12, 34, 56, 0⟩, ['0'], none, .finite false 0 (-1074)⟩

end BatchRun

end GeoUrn.Command
