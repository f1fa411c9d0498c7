import GeoUrn.Command.Run
import GeoUrn.Proofs.AuditSessions
import GeoUrn.Proofs.FaultMessages
import GeoUrn.Proofs.FileDigests
import GeoUrn.Proofs.FileReading
import GeoUrn.Proofs.RowFiles

/-!
The accounts that batch runs leave. Each run adds one block to its log that tells how the run began,
which lines were not recognized, and how it ended, and runs that share a log leave each other's
blocks as they are. This is so for runs whose command lines have no surrogates.
-/
namespace GeoUrn

open CodePoint (char)
open Text (Encodable)

theorem Digest.encodable_ofBytes (bytes : Bytes) : Encodable (Digest.ofBytes bytes) := by
  have hhex : ∀ w : Sha256.Words, Encodable w.hex := fun w =>
    Text.encodable_flatMap.mpr fun word _ => (Text.isAscii_hex 8 word.toNat).encodable
  simp [Digest.ofBytes, Digest.labelled, hhex]

theorem Site.encodable_runId (site : Site) : Encodable site.runId := by
  simp [Site.runId, GeoUrn.runId, Audit.encodable_timestamp]

namespace Command

open Audit (Desk Draft Event Level Logger)
open Batch (Row)

theorem encodable_members (job : BatchJob) :
    (Json.Value.object (configOf job).members).Encodable := by
  unfold configOf
  split_ifs <;> decide

theorem encodable_types (job : BatchJob) :
    ∀ type ∈ (configOf job).registry.types, Encodable type := by
  unfold configOf
  split_ifs <;> decide

theorem isEncodable_writtenDraft (output : Chars) (bytes : Bytes) (records : Option ℤ) :
    (Draft.artifactWritten (Text.ofChars output) (Digest.ofBytes bytes) (some writeStage)
      records).IsEncodable :=
  Draft.isEncodable_artifactWritten (Text.encodable_ofChars output)
    (Digest.encodable_ofBytes bytes) (by decide) records

theorem isEncodable_startDraft (words : List Chars) (job : BatchJob) (site : Site) :
    (Draft.runStarted (Text.ofChars programName :: words.map Text.ofChars)
      (configOf job).members site.version).IsEncodable := by
  have hword : ∀ word ∈ Text.ofChars programName :: words.map Text.ofChars, Encodable word :=
    List.forall_mem_cons.mpr ⟨Text.encodable_ofChars programName,
      List.forall_mem_map.mpr fun word _ => Text.encodable_ofChars word⟩
  exact Draft.isEncodable_runStarted hword (encodable_members job) (Text.encodable_ofChars _)

structure BatchRun where
  words : List Chars
  job : BatchJob
  site : Site

namespace BatchRun

def after (run : BatchRun) : Site := (Command.run run.words run.site).1

def outcome (run : BatchRun) : Outcome := (Command.run run.words run.site).2

def placeOf (run : BatchRun) (name : Chars) : Location :=
  FileTree.target run.site.files.home (Path.ofText name)

def input (run : BatchRun) : Bytes := run.site.files.bytesAt (run.placeOf run.job.input)

def reading (run : BatchRun) : Reading := Reading.ofBytes run.input

def rows (run : BatchRun) : List Row := Batch.keptRows (configOf run.job) run.reading.lines

/-- The run is one of a batch whose input is a file, and whose log is kept in another file at
`place` that can be opened; the output is a third. The time that it takes is a floating-point number
in its one form. -/
structure LogsTo (run : BatchRun) (place : Location) : Prop where
  asked : Invocation.ofArguments run.words = some (.batch run.job)
  noZero : run.job.paths.any Path.hasZero = false
  isInput : isInputFile run.site.files run.job.input = true
  log : ∃ name, run.job.auditLog = some name ∧ name ≠ [] ∧ run.placeOf name = place ∧
    run.site.files.Accepts (Path.ofText name)
  input_ne : run.placeOf run.job.input ≠ place
  output_ne : run.placeOf run.job.output ≠ place
  duration : run.site.duration.IsCanonical

def event (run : BatchRun) (level : Level) (name : Text) (data : Json.Members)
    (stage : Option Text) : Event :=
  ⟨run.site.clock.timestamp, run.site.runId, level, name, data, stage, none⟩

def started (run : BatchRun) : Event :=
  run.event .info "run_started"
    [("command", .texts (Text.ofChars programName :: run.words.map Text.ofChars)),
     ("parameters", .object (configOf run.job).members),
     ("package_version", .text run.site.version)]
    none

def reports (run : BatchRun) : List Event :=
  Batch.reportEvents run.site.runId run.site.clock run.rows

def successEvents (run : BatchRun) (bytes : Bytes) : List Event :=
  [run.event .info "artifact_written"
      [("path", .text (Text.ofChars run.job.output)), ("sha256", .text (Digest.ofBytes bytes)),
       ("record_count", .ofNat run.rows.length)]
      (some writeStage),
   run.event .info "run_finished"
      [("status", .text "success"), ("duration_seconds", .number (.float run.site.duration)),
       ("lines_processed", .ofNat run.rows.length),
       ("lines_recognized", .ofNat (Batch.recognizedCount run.rows))]
      none]

def failureEvents (run : BatchRun) (fault : Fault) : List Event :=
  [run.event .error "error"
      [("exception_class", .text fault.className), ("message", .text fault.message)] none,
   run.event .info "run_finished"
      [("status", .text "failed"), ("duration_seconds", .number (.float run.site.duration))] none]

/-- The draft says the event at the moment of the run. -/
def Says (run : BatchRun) (draft : Draft) (event : Event) : Prop :=
  draft.level = .text event.level.name ∧ event = ⟨run.site.clock.timestamp, run.site.runId,
    event.level, draft.name, draft.data.getD [], draft.stage, draft.line⟩

def startDraft (run : BatchRun) : Draft :=
  .runStarted (Text.ofChars programName :: run.words.map Text.ofChars) (configOf run.job).members
    run.site.version

def successDrafts (run : BatchRun) (bytes : Bytes) : List Draft :=
  [.artifactWritten (Text.ofChars run.job.output) (Digest.ofBytes bytes) (some writeStage)
      (some (run.rows.length : ℤ)),
   .runFinished "success" (.float run.site.duration) (some (run.rows.length : ℤ))
      (some (Batch.recognizedCount run.rows : ℤ))]

def failureDrafts (run : BatchRun) (fault : Fault) : List Draft :=
  [.error fault.className fault.message none none,
   .runFinished "failed" (.float run.site.duration) none none]

theorem says_started (run : BatchRun) : run.Says run.startDraft run.started := ⟨rfl, rfl⟩

theorem says_successEvents (run : BatchRun) (bytes : Bytes) :
    List.Forall₂ run.Says (run.successDrafts bytes) (run.successEvents bytes) :=
  .cons ⟨rfl, rfl⟩ (.cons ⟨rfl, rfl⟩ .nil)

theorem says_failureEvents (run : BatchRun) (fault : Fault) :
    List.Forall₂ run.Says (run.failureDrafts fault) (run.failureEvents fault) :=
  .cons ⟨rfl, rfl⟩ (.cons ⟨rfl, rfl⟩ .nil)

theorem isEncodable_successDrafts (run : BatchRun) (bytes : Bytes) :
    ∀ draft ∈ run.successDrafts bytes, draft.IsEncodable :=
  List.forall_mem_cons.mpr ⟨isEncodable_writtenDraft _ _ _,
    List.forall_mem_singleton.mpr (Draft.isEncodable_runFinished (by decide) _ _ _)⟩

theorem isEncodable_failureDrafts (run : BatchRun) {fault : Fault} (h : Encodable fault.message) :
    ∀ draft ∈ run.failureDrafts fault, draft.IsEncodable :=
  List.forall_mem_cons.mpr ⟨Draft.isEncodable_error fault.encodable_className h (by nofun) _,
    List.forall_mem_singleton.mpr (Draft.isEncodable_runFinished (by decide) _ _ _)⟩

theorem Says.encodable {run : BatchRun} {draft : Draft} {event : Event} (h : run.Says draft event)
    (hd : draft.IsEncodable) : event.toJson.Encodable := by
  rw [h.2]
  exact (Event.encodable_toJson (Audit.encodable_timestamp _)).mpr
    ⟨run.site.encodable_runId, hd.name, hd.data, hd.stage⟩

theorem exists_draft {run : BatchRun} {drafts : List Draft} {events : List Event}
    (hsay : List.Forall₂ run.Says drafts events) :
    ∀ event ∈ events, ∃ draft ∈ drafts, run.Says draft event := by
  induction hsay with
  | nil => exact List.forall_mem_nil _
  | @cons draft first drafts events hfirst hrest ih =>
    refine List.forall_mem_cons.mpr ⟨⟨draft, List.mem_cons_self, hfirst⟩, fun event he => ?_⟩
    obtain ⟨other, hm, hother⟩ := ih event he
    exact ⟨other, List.mem_cons_of_mem _ hm, hother⟩

theorem encodable_rows (run : BatchRun) : ∀ row ∈ run.rows, row.IsEncodable :=
  Batch.isEncodable_of_mem_keptRows (encodable_types run.job) (Reading.encodable_lines run.input)

theorem reportable_rows (run : BatchRun) : Batch.Reportable run.site.runId run.rows :=
  fun row hrow _ => ⟨run.site.encodable_runId, (run.encodable_rows row hrow).input⟩

def logger (run : BatchRun) (place : Location) : Logger := ⟨run.site.runId, place, none, false, []⟩

def desk (run : BatchRun) (place : Location) (site : Site) : Desk := ⟨some (run.logger place), site⟩

def noted (run : BatchRun) (place : Location) (site : Site) (events : List Event) : Site :=
  (run.logger place).append site (events.flatMap Event.toLine)

/-- The block so far is in the log, and the logger is ready for more. -/
structure HasLogged (run : BatchRun) (place : Location) (site : Site) (block : List Event) :
    Prop where
  clock : site.clock = run.site.clock
  duration : site.duration = run.site.duration
  grows : FileTree.Grows run.site.files site.files
  bytes : site.files.bytesAt place =
    run.site.files.bytesAt place ++ Text.encodeUtf8 (block.flatMap Event.toLine)
  isReady : (run.logger place).IsReady site.files
  found : ∀ name, run.job.auditLog = some name →
    site.files.locate (Path.ofText name) = .ok place

variable {run : BatchRun} {place : Location} {site : Site} {block : List Event}

theorem HasLogged.noted (h : HasLogged run place site block) (events : List Event) :
    HasLogged run place (run.noted place site events) (block ++ events) where
  clock := by rw [BatchRun.noted, Logger.clock_append, h.clock]
  duration := by rw [BatchRun.noted, h.isReady.append_eq, h.duration]
  grows := h.grows.trans (h.isReady.grows_append _)
  bytes := by
    have hplace : place = (run.logger place).place := rfl
    rw [BatchRun.noted, h.isReady.bytesAt_append, if_pos hplace, h.bytes, List.flatMap_append,
      Text.encodeUtf8_append, List.append_assoc]
  isReady := h.isReady.append _
  found name hname := (h.isReady.grows_append _).toKeepsDirectories.locate (h.found name hname)

/-- The run adds the events that its drafts say to its log. -/
theorem HasLogged.noteAll (h : HasLogged run place site block) {drafts : List Draft}
    {events : List Event} (hsay : List.Forall₂ run.Says drafts events)
    (hd : ∀ draft ∈ drafts, draft.IsEncodable) :
    Desk.noteAll (run.desk place site) drafts =
      (.ok (), run.desk place (run.noted place site events)) := by
  have he : ∀ event ∈ events, event.toJson.Encodable := by
    intro event hm
    obtain ⟨draft, hdraft, h⟩ := exists_draft hsay event hm
    exact h.encodable (hd draft hdraft)
  refine Desk.noteAll_ready h.isReady (hsay.imp fun draft event hdraft => ?_) he
  rw [h.clock]
  refine Logger.complete_eq_ok_iff.mpr ⟨event.level, hdraft.1, ?_⟩
  rw [hdraft.2]
  cases draft.stage <;> rfl

theorem LogsTo.read_input (h : run.LogsTo place) :
    run.site.files.read (Path.ofText run.job.input) = .ok run.input := by
  have hfile := h.isInput
  simp only [isInputFile, Bool.and_eq_true] at hfile
  exact FileTree.read_of_isFile hfile.2

theorem LogsTo.open_log (h : run.LogsTo place) :
    ∃ site, openLog run.job run.site = (.ok (run.desk place site), site) ∧
      HasLogged run place site [] ∧ site.version = run.site.version ∧
      site.files.read (Path.ofText run.job.input) = .ok run.input := by
  obtain ⟨name, hname, hne, rfl, haccepts⟩ := h.log
  obtain ⟨opened, hs⟩ := Logger.start_of_accepts haccepts run.site.runId
  have hgrows := Logger.grows_start run.site.runId (Path.ofText name) run.site.files
  have hbytes := Logger.bytesAt_start run.site.runId (Path.ofText name) run.site.files
  rw [hs] at hgrows hbytes
  obtain ⟨-, hlocate, hfile⟩ := Logger.start_eq_ok hs
  refine ⟨{ run.site with files := opened }, ?_, ⟨rfl, rfl, hgrows, ?_, ⟨rfl, rfl, hfile⟩, ?_⟩, rfl,
    hgrows.read h.read_input (hbytes _)⟩
  · simp only [openLog, hname]
    rw [hs]
    rfl
  · exact (hbytes _).trans (List.append_nil _).symm
  · intro other hother
    rw [hname] at hother
    cases hother
    exact hlocate

theorem HasLogged.writeRows (h : HasLogged run place site block)
    (hne : run.placeOf run.job.output ≠ place) {result : Except Fault ℕ} {files : FileTree}
    (hw : Batch.writeRows run.rows (Path.ofText run.job.output) site.files = (result, files)) :
    HasLogged run place { site with files := files } block := by
  have hfiles : files = (site.files.writeDeep (Path.ofText run.job.output)
      (Text.encodeUtf8 (Batch.toText run.rows))).2 := by
    rw [← Batch.files_writeRows run.encodable_rows, hw]
  have hgrows : FileTree.Grows site.files files := hfiles ▸ FileTree.grows_writeDeep _ _ _
  have hbytes : files.bytesAt place = site.files.bytesAt place := by
    have hplace : place ≠ FileTree.target site.files.home (Path.ofText run.job.output) := by
      rw [h.grows.home]
      exact hne.symm
    rw [hfiles]
    exact FileTree.bytesAt_writeDeep hplace _
  exact ⟨h.clock, h.duration, h.grows.trans hgrows, hbytes.trans h.bytes,
    ⟨rfl, rfl, hgrows.holdsFile _ h.isReady.holdsFile⟩,
    fun name hname => hgrows.toKeepsDirectories.locate (h.found name hname)⟩

/-- Why a run fails once its log is open: the input is not UTF-8, or the output cannot be written. -/
def Fails (run : BatchRun) (fault : Fault) : Prop :=
  match run.reading.flaw with
  | some flaw => fault = .notUtf8 flaw
  | none => ∃ files, FileTree.Grows run.site.files files ∧
      (Batch.writeRows run.rows (Path.ofText run.job.output) files).1 = .error fault

theorem Fails.encodable_message {fault : Fault} (h : run.Fails fault) : Encodable fault.message := by
  unfold Fails at h
  split at h
  · rw [h]
    exact Fault.encodable_message_notUtf8 _
  · obtain ⟨files, -, hw⟩ := h
    by_cases ha : files.Accepts (Path.ofText run.job.output)
    · obtain ⟨after, hok, -⟩ := Batch.writeRows_of_accepts ha run.encodable_rows
      rw [hok] at hw
      cases hw
    · obtain ⟨found, made, hp, herror⟩ := Batch.writeRows_of_not_accepts ha run.encodable_rows
      rw [herror] at hw
      cases hw
      exact (FileTree.isSystem_of_prepare hp).encodable_message

theorem HasLogged.parseFile (h : HasLogged run place site block)
    (hread : site.files.read (Path.ofText run.job.input) = .ok run.input) :
    Batch.parseFile (configOf run.job) (some (run.logger place)) run.job.input site =
      (match run.reading.flaw with
        | none => .ok run.rows
        | some flaw => .error (.notUtf8 flaw),
        run.desk place (run.noted place site run.reports)) := by
  rw [Batch.parseFile_of_read hread,
    Batch.parseReading_ready h.isReady (configOf run.job) (.ofBytes run.input) run.reportable_rows,
    h.clock]
  rfl

theorem HasLogged.noteSuccess (h : HasLogged run place site block) {bytes : Bytes}
    (hread : site.files.read (Path.ofText run.job.output) = .ok bytes) :
    Command.noteSuccess run.job
        ⟨run.rows.length, Batch.recognizedCount run.rows, run.rows.length⟩ (run.desk place site) =
      (.ok (), run.desk place (run.noted place site (run.successEvents bytes))) := by
  have hnote := h.noteAll (run.says_successEvents bytes) (run.isEncodable_successDrafts bytes)
  rw [successDrafts, ← h.duration] at hnote
  rw [← hnote]
  simp only [Command.noteSuccess, desk, Digest.ofFile_of_read hread]

theorem HasLogged.noteFailure (h : HasLogged run place site block) {fault : Fault}
    (hm : Encodable fault.message) :
    (run.desk place site).noteAll [.error fault.className fault.message none none,
        .runFinished "failed" (.float site.duration) none none] =
      (.ok (), run.desk place (run.noted place site (run.failureEvents fault))) := by
  rw [h.duration]
  exact h.noteAll (run.says_failureEvents fault) (run.isEncodable_failureDrafts hm)

/-- Reading and writing end with the numbers of the rows and the output in place, or with a
fault. -/
theorem HasLogged.processBatch (h : HasLogged run place site block)
    (hread : site.files.read (Path.ofText run.job.input) = .ok run.input)
    (hne : run.placeOf run.job.output ≠ place) :
    ∃ last progress result, Command.processBatch run.job (run.desk place site) =
        ⟨run.desk place last, progress, result⟩ ∧
      (result = .ok ⟨run.rows.length, Batch.recognizedCount run.rows, run.rows.length⟩ ∧
        run.reading.flaw = none ∧
        last.files.read (Path.ofText run.job.output) =
          .ok (Text.encodeUtf8 (Batch.toText run.rows)) ∧
        HasLogged run place last (block ++ run.reports ++
          run.successEvents (Text.encodeUtf8 (Batch.toText run.rows))) ∨
      ∃ fault, result = .error fault ∧ run.Fails fault ∧
        HasLogged run place last (block ++ run.reports)) := by
  have hparsed := h.noted run.reports
  have hparse := h.parseFile hread
  unfold Command.processBatch
  simp only [desk] at hparse ⊢
  rw [hparse]
  cases hf : run.reading.flaw with
  | some flaw =>
    exact ⟨_, _, _, rfl, .inr ⟨.notUtf8 flaw, rfl, by simp only [Fails, hf], hparsed⟩⟩
  | none =>
    simp only
    by_cases ha : (run.noted place site run.reports).files.Accepts (Path.ofText run.job.output)
    · obtain ⟨files, hw, hback⟩ := Batch.writeRows_of_accepts ha run.encodable_rows
      have hwritten := hparsed.writeRows hne hw
      have hplace : FileTree.target files.home (Path.ofText run.job.output) ≠ place := by
        rw [hwritten.grows.home]
        exact hne
      have hnoted := hwritten.noteSuccess hback
      simp only [desk] at hnoted
      rw [hw]
      simp only [hnoted]
      exact ⟨_, _, _, rfl, .inl ⟨rfl, trivial, hwritten.isReady.read_append hback hplace _,
        hwritten.noted _⟩⟩
    · obtain ⟨fault, files, -, hw⟩ := Batch.writeRows_of_not_accepts ha run.encodable_rows
      have hfails : run.Fails fault := by
        simp only [Fails, hf]
        exact ⟨_, hparsed.grows, by rw [hw]⟩
      rw [hw]
      exact ⟨_, _, _, rfl, .inr ⟨fault, rfl, hfails, hparsed.writeRows hne hw⟩⟩

theorem recognizedCount_add_reports (run : BatchRun) :
    Batch.recognizedCount run.rows + run.reports.length = run.rows.length := by
  rw [reports, Batch.reportEvents, List.length_map, Batch.recognizedCount,
    ← List.countP_eq_length_filter, ← List.countP_eq_length_filter,
    List.length_eq_countP_add_countP Row.recognized]
  congr 1
  refine List.countP_congr fun row _ => ?_
  cases hd : row.definition <;> simp [Row.recognized, hd]

/-- The event is one of the run, and a JSON value on one line that UTF-8 can hold. -/
structure IsLine (run : BatchRun) (event : Event) : Prop where
  runId : event.runId = run.site.runId
  body : ∃ body, event.toLine = body ++ [char '\n'] ∧ char '\n' ∉ body ∧
    Json.read body = .ok event.toJson
  encodable : Encodable event.toLine

theorem isLine_of_isProper {event : Event} (hr : event.runId = run.site.runId)
    (h : ∀ m ∈ event.data, m.2.IsProper) (he : event.toJson.Encodable) : run.IsLine event where
  runId := hr
  body := ⟨_, rfl, Json.Value.newline_not_mem_compact _, Json.read_compact (Event.isProper_toJson h)⟩
  encodable := Event.encodable_toLine.mpr he

/-- The lines of events tell which events they are. -/
theorem IsLine.name_eq {other : BatchRun} {first second : Event} (hf : run.IsLine first)
    (hs : other.IsLine second) (h : first.toJson.compact = second.toJson.compact) :
    first.name = second.name := by
  obtain ⟨body, hbody, -, hfirst⟩ := hf.body
  obtain ⟨rest, hrest, -, hsecond⟩ := hs.body
  obtain rfl : body = first.toJson.compact := (List.append_cancel_right hbody).symm
  obtain rfl : rest = second.toJson.compact := (List.append_cancel_right hrest).symm
  rw [h, hsecond] at hfirst
  have hjson : second.toJson = first.toJson := Except.ok.inj hfirst
  simp only [Event.toJson, Json.Value.object.injEq, List.cons.injEq, Prod.mk.injEq,
    Json.Value.text.injEq] at hjson
  exact hjson.2.2.2.1.2.symm

theorem compact_mem_of_lines_eq {events block : List Event}
    (h : events.flatMap Event.toLine = block.flatMap Event.toLine) {event : Event}
    (hm : event ∈ events) : ∃ other ∈ block, other.toJson.compact = event.toJson.compact := by
  have hlines : ∀ es : List Event,
      es.flatMap Event.toLine = (es.map Event.toJson).flatMap Json.Value.line := by
    intro es
    rw [List.flatMap_map]
    rfl
  rw [hlines, hlines] at h
  have hsplit : (events.map Event.toJson).map Json.Value.compact ++ [[]] =
      (block.map Event.toJson).map Json.Value.compact ++ [[]] := by
    rw [← Json.Value.split_lines, ← Json.Value.split_lines, h]
  have hmap := List.append_cancel_right hsplit
  rw [List.map_map, List.map_map] at hmap
  have hmem : event.toJson.compact ∈ block.map (Json.Value.compact ∘ Event.toJson) := by
    rw [← hmap]
    exact List.mem_map_of_mem hm
  exact List.mem_map.mp hmem

theorem isProper_members (config : Batch.Config) : ∀ m ∈ config.members, m.2.IsProper := by
  have hregistry : (Json.Value.object
      (config.registry.entries.map fun e => (e.1, .text e.2))).IsProper :=
    .object _ (List.forall_mem_map.mpr fun e _ => .text e.2)
  exact List.forall_mem_cons.mpr ⟨.bool _, List.forall_mem_cons.mpr
    ⟨Json.Value.isProper_ofOption .text _, List.forall_mem_singleton.mpr hregistry⟩⟩

theorem isLine_of_says {drafts : List Draft} {events : List Event}
    (hsay : List.Forall₂ run.Says drafts events)
    (hd : ∀ draft ∈ drafts, draft.IsEncodable ∧ draft.IsSerializable) :
    ∀ event ∈ events, run.IsLine event := by
  intro event he
  obtain ⟨draft, hm, h⟩ := exists_draft hsay event he
  obtain ⟨hencodable, hserializable⟩ := hd draft hm
  refine isLine_of_isProper ?_ ?_ (h.encodable hencodable)
  · rw [h.2]
  · rw [h.2]
    exact hserializable

theorem isLine_started (run : BatchRun) : run.IsLine run.started := by
  have hline := isLine_of_says (.cons run.says_started .nil) (List.forall_mem_singleton.mpr
    ⟨isEncodable_startDraft _ _ _, Draft.isSerializable_runStarted _ (isProper_members _) _⟩)
  exact List.forall_mem_singleton.mp hline

theorem isLine_reports (run : BatchRun) : ∀ event ∈ run.reports, run.IsLine event := by
  have he : ∀ event ∈ run.reports, event.toJson.Encodable :=
    (Batch.encodable_reportEvents run.site.clock).mpr run.reportable_rows
  intro event hevent
  obtain ⟨row, -, rfl⟩ := List.mem_map.mp hevent
  exact isLine_of_isProper rfl (Draft.isSerializable_lineUnrecognized row.line row.input none)
    (he _ hevent)

theorem isLine_successEvents (hd : (Json.Number.float run.site.duration).IsProper) (bytes : Bytes) :
    ∀ event ∈ run.successEvents bytes, run.IsLine event := by
  have hserializable : ∀ draft ∈ run.successDrafts bytes, draft.IsSerializable :=
    List.forall_mem_cons.mpr ⟨Draft.isSerializable_artifactWritten _ _ _ _,
      List.forall_mem_singleton.mpr (Draft.isSerializable_runFinished _ hd _ _)⟩
  exact isLine_of_says (run.says_successEvents bytes) fun draft hm =>
    ⟨run.isEncodable_successDrafts bytes draft hm, hserializable draft hm⟩

theorem isLine_failureEvents (hd : (Json.Number.float run.site.duration).IsProper) {fault : Fault}
    (hm : Encodable fault.message) : ∀ event ∈ run.failureEvents fault, run.IsLine event := by
  have hserializable : ∀ draft ∈ run.failureDrafts fault, draft.IsSerializable :=
    List.forall_mem_cons.mpr ⟨Draft.isSerializable_error _ _ _ _,
      List.forall_mem_singleton.mpr (Draft.isSerializable_runFinished _ hd _ _)⟩
  exact isLine_of_says (run.says_failureEvents fault) fun draft hdraft =>
    ⟨run.isEncodable_failureDrafts hm draft hdraft, hserializable draft hdraft⟩

theorem LogsTo.run_eq (h : run.LogsTo place) {opened : Site}
    (ho : openLog run.job run.site = (.ok (run.desk place opened), opened)) :
    Command.run run.words run.site =
      ((runLogged run.job (run.words.map Text.ofChars) (run.desk place opened)).1,
        .ended (runLogged run.job (run.words.map Text.ofChars) (run.desk place opened)).2) := by
  rw [Command.run, h.asked]
  simp only [perform, runBatch, h.noZero, h.isInput, ho, Bool.false_eq_true, if_false, if_true]

/-- A run tells its beginning, and goes on with the work. -/
theorem HasLogged.attemptBatch (h : HasLogged run place site [])
    (hversion : site.version = run.site.version) :
    Command.attemptBatch run.job (run.words.map Text.ofChars) (run.desk place site) =
      Command.processBatch run.job (run.desk place (run.noted place site [run.started])) := by
  have hnote := h.noteAll (.cons run.says_started .nil)
    (List.forall_mem_singleton.mpr (isEncodable_startDraft _ _ _))
  rw [Desk.noteAll_singleton, startDraft, ← hversion] at hnote
  simp only [Command.attemptBatch, desk] at hnote ⊢
  rw [hnote]

/-- From the opening of its log on, a run adds all of its account to it. -/
theorem HasLogged.runLogged (h : HasLogged run place site [])
    (hversion : site.version = run.site.version)
    (hread : site.files.read (Path.ofText run.job.input) = .ok run.input)
    (hd : (Json.Number.float run.site.duration).IsProper)
    (hin : run.placeOf run.job.input ≠ place) (hout : run.placeOf run.job.output ≠ place)
    {last : Site} {report : Report}
    (he : Command.runLogged run.job (run.words.map Text.ofChars) (run.desk place site) =
      (last, report)) :
    ∃ closing, HasLogged run place last (run.started :: run.reports ++ closing) ∧
      (∀ event ∈ closing, run.IsLine event) ∧ report.escaped = none ∧
      (report.exitCode = 0 ∧ run.reading.flaw = none ∧
          closing = run.successEvents (Text.encodeUtf8 (Batch.toText run.rows)) ∧
          last.files.read (Path.ofText run.job.output) =
            .ok (Text.encodeUtf8 (Batch.toText run.rows)) ∨
        report.exitCode = 1 ∧ ∃ fault told, run.Fails fault ∧ closing = run.failureEvents fault ∧
          report.stderr = Report.printed (told ++ [failureLine fault])) := by
  have hstarted := h.noted [run.started]
  have hhome : FileTree.target site.files.home (Path.ofText run.job.input) ≠ place := by
    rw [h.grows.home]
    exact hin
  have hinput := h.isReady.read_append hread hhome ([run.started].flatMap Event.toLine)
  obtain ⟨worked, progress, result, hprocess, hresult⟩ := hstarted.processBatch hinput hout
  simp only [Command.runLogged, h.attemptBatch hversion, hprocess] at he
  obtain ⟨rfl, hflaw, hback, hlogged⟩ | ⟨fault, rfl, hfails, hlogged⟩ := hresult
  · cases he
    exact ⟨_, hlogged, isLine_successEvents hd _, rfl, .inl ⟨rfl, hflaw, rfl, hback⟩⟩
  · have hfailure := hlogged.noteFailure hfails.encodable_message
    simp only [desk] at hfailure
    simp only [reportFault, desk, hfailure] at he
    cases he
    exact ⟨_, hlogged.noted (run.failureEvents fault),
      isLine_failureEvents hd hfails.encodable_message, rfl, .inr ⟨rfl, fault, _, hfails, rfl, rfl⟩⟩

/-- What is in place after a run that ended well: the input was UTF-8 and its lines were read, the
output has a line for each row, and all numbers agree. -/
structure Succeeded (run : BatchRun) (closing : List Event) : Prop where
  input : ∃ text, Text.decodeUtf8 (Reading.contents run.input) = .ok text ∧
    run.reading.lines = Text.lines text
  output : ∃ bytes text, run.after.files.read (Path.ofText run.job.output) = .ok bytes ∧
    Text.decodeUtf8 bytes = .ok text ∧ Batch.SaysRows text run.rows ∧
    closing = run.successEvents bytes
  numbers : Batch.recognizedCount run.rows + run.reports.length = run.rows.length

/-- The block says all of the run: how it began, which lines were not recognized, and how it ended,
in keeping with its exit code. -/
structure Accounts (run : BatchRun) (place : Location) (block : List Event) : Prop where
  appended : run.after.files.bytesAt place =
    run.site.files.bytesAt place ++ Text.encodeUtf8 (block.flatMap Event.toLine)
  found : ∀ name, run.job.auditLog = some name →
    run.after.files.read (Path.ofText name) = .ok (run.after.files.bytesAt place)
  lines : ∀ event ∈ block, run.IsLine event
  ended : ∃ report closing, run.outcome = .ended report ∧ report.escaped = none ∧
    block = run.started :: run.reports ++ closing ∧
    (report.exitCode = 0 ∧ run.Succeeded closing ∨
      report.exitCode = 1 ∧ ∃ fault told, run.Fails fault ∧ closing = run.failureEvents fault ∧
        report.stderr = Report.printed (told ++ [failureLine fault]))
  read : ∀ text left, Text.decodeFrom 0 none (Reading.contents run.input) = .ok (text, left) →
    run.reading = ⟨text, Reading.flawOfEnd left⟩
  stopped : ∀ flaw, run.reading.flaw = some flaw → run.reading.StopsAt run.input flaw
  unread : ∀ flaw, ¬ run.input <+: Reading.byteOrderMark →
    Reading.decodeBlock (Reading.withoutMark (run.input.take Bytes.readSize)) = .error flaw →
    run.reading.flaw = some flaw ∧ run.reports = []

theorem LogsTo.exists_account (h : run.LogsTo place) : ∃ block, run.Accounts place block := by
  -- Opening the log may make directories, so the run goes on at another site than it began at.
  obtain ⟨opened, hopened, hlogged, hversion, hread⟩ := h.open_log
  rcases he : Command.runLogged run.job (run.words.map Text.ofChars) (run.desk place opened) with
    ⟨last, report⟩
  have hrun := h.run_eq hopened
  rw [he] at hrun
  obtain ⟨closing, hlast, hlines, hescaped, hended⟩ :=
    hlogged.runLogged hversion hread h.duration h.input_ne h.output_ne he
  have hafter : run.after = last := congrArg Prod.fst hrun
  rw [← hafter] at hlast hended
  refine ⟨run.started :: run.reports ++ closing, hlast.bytes, ?_, ?_, ?_, ?_, ?_, ?_⟩
  · intro name hname
    exact FileTree.read_of_locate (hlast.found name hname) hlast.isReady.holdsFile
  · exact List.forall_mem_append.mpr
      ⟨List.forall_mem_cons.mpr ⟨run.isLine_started, run.isLine_reports⟩, hlines⟩
  · refine ⟨report, closing, congrArg Prod.snd hrun, hescaped, rfl, ?_⟩
    obtain ⟨hexit, hflaw, hclosing, hback⟩ | hfailed := hended
    · refine .inl ⟨hexit, ⟨?_, ?_, run.recognizedCount_add_reports⟩⟩
      · have hreading : run.reading = ⟨run.reading.text, none⟩ := by rw [← hflaw]
        refine ⟨run.reading.text, Reading.ofBytes_eq_iff.mp hreading, ?_⟩
        rw [Reading.lines, hflaw]
      · exact ⟨_, _, hback,
          Text.decodeUtf8_encodeUtf8 (Batch.encodable_toText.mpr run.encodable_rows),
          Batch.saysRows_toText _, hclosing⟩
    · exact .inr hfailed
  · intro text left hd
    exact Reading.ofBytes_of_decodeFrom hd
  · intro flaw hflaw
    exact Reading.ofBytes_stopsAt hflaw
  · intro flaw hmark hflaw
    obtain ⟨hread, hnone⟩ := Reading.lines_of_first_block hmark hflaw
    refine ⟨hread, ?_⟩
    have hrows : run.rows = [] := by
      rw [rows, reading, hnone]
      rfl
    rw [reports, hrows]
    rfl

/-- The job of reading the file `i` into the file `o`, with a log `l`. -/
def smallJob : BatchJob := ⟨"i", "o", some "l", false, false⟩

/-- A batch for which the input and the log have these bytes. -/
def smallRun (input log : Bytes) : BatchRun where
  words := ["batch", "i", "-o", "o", "--audit-log", "l"]
  job := smallJob
  site := ⟨⟨[['/'], ['w']],
      [([['/'], ['w'], ['i']], .file input), ([['/'], ['w'], ['l']], .file log)]⟩,
    ⟨2026, 2, 3, 12, 34, 56, 0⟩, ['0'], none, .finite false 0 (-1074)⟩

def smallPlace : Location := [['/'], ['w'], ['l']]

theorem bytesAt_smallPlace (input log : Bytes) :
    (smallRun input log).site.files.bytesAt smallPlace = log := rfl

theorem logsTo_smallRun (input log : Bytes) : (smallRun input log).LogsTo smallPlace where
  asked := rfl
  noZero := rfl
  isInput := rfl
  log := ⟨['l'], rfl, by simp, rfl, _, _, rfl⟩
  input_ne := show FileTree.target [['/'], ['w']] (Path.ofText "i") ≠ smallPlace by decide
  output_ne := show FileTree.target [['/'], ['w']] (Path.ofText "o") ≠ smallPlace by decide
  duration := show Decimal.Binary64.IsFinite 0 (-1074) by decide

/-- A line, and the first of the two bytes of another character. -/
def cutInput : Bytes := Text.encodeUtf8 "é\n" ++ [0xC3]

def cutRun : BatchRun := smallRun cutInput [0x7B]

theorem reading_cut : cutRun.reading =
    ⟨['é', '\n'], some ⟨0, [0xC3], .unexpectedEnd⟩⟩ := by
  have hdecoded : Text.decodeFrom 0 none (Reading.contents cutInput) = .ok (['é', '\n'], [0xC3]) :=
    rfl
  exact Reading.ofBytes_of_decodeFrom hdecoded

/-- The line that is read before the end cuts the character off is reported. -/
theorem reports_cut : cutRun.reports =
    [Batch.reportEvent cutRun.site.runId cutRun.site.clock ⟨1, ['é'], none⟩] := by
  have hlines : cutRun.reading.lines = ([['é']] : List Text) := by
    rw [reading_cut]
    rfl
  have hrows : cutRun.rows = [⟨1, ['é'], none⟩] := by
    rw [rows, hlines]
    decide
  rw [reports, hrows]
  simp only [Batch.reportEvents, List.filter_cons, decide_true, if_true, List.filter_nil]
  rfl

/-- Runs that keep their logs in one file, one after the other: from the bytes that it has at first
to those that it has in the end. Between the runs the log stays as it is. -/
inductive Sequence (place : Location) : Bytes → List BatchRun → Bytes → Prop
  | nil (bytes : Bytes) : Sequence place bytes [] bytes
  | cons {run : BatchRun} {runs : List BatchRun} {last : Bytes} (h : run.LogsTo place)
      (rest : Sequence place (run.after.files.bytesAt place) runs last) :
      Sequence place (run.site.files.bytesAt place) (run :: runs) last

/-- Each run of a sequence adds just its own account to the log, and all accounts stay. -/
theorem Sequence.adds_accounts {first last : Bytes} {runs : List BatchRun}
    (h : Sequence place first runs last) :
    ∃ blocks, List.Forall₂ (fun run block => run.Accounts place block) runs blocks ∧
      last = first ++ Text.encodeUtf8 (blocks.flatten.flatMap Event.toLine) := by
  induction h with
  | nil bytes => exact ⟨[], .nil, (List.append_nil bytes).symm⟩
  | @cons run runs last h rest ih =>
    obtain ⟨block, hblock⟩ := h.exists_account
    obtain ⟨blocks, hblocks, rfl⟩ := ih
    refine ⟨block :: blocks, .cons hblock hblocks, ?_⟩
    rw [hblock.appended, List.flatten_cons, List.flatMap_append, Text.encodeUtf8_append,
      List.append_assoc]

theorem Sequence.adds_accounts_of_two_runs :
    let first := cutRun
    let second := smallRun (Text.encodeUtf8 "é\n") (first.after.files.bytesAt smallPlace)
    Sequence smallPlace [0x7B] [first, second] (second.after.files.bytesAt smallPlace) ∧
      ∃ blocks, List.Forall₂ (fun run block => run.Accounts smallPlace block) [first, second]
          blocks ∧
        second.after.files.bytesAt smallPlace =
          [0x7B] ++ Text.encodeUtf8 (blocks.flatten.flatMap Event.toLine) := by
  intro first second
  have hsecond := Sequence.cons (logsTo_smallRun (Text.encodeUtf8 "é\n")
    (first.after.files.bytesAt smallPlace)) (.nil _)
  rw [bytesAt_smallPlace] at hsecond
  have h := Sequence.cons (logsTo_smallRun cutInput [0x7B]) hsecond
  rw [bytesAt_smallPlace] at h
  exact ⟨h, h.adds_accounts⟩

/-- The words of a batch of the small job with a byte before that is not UTF-8, as the name of an
output that the next one replaces. -/
def undecodedWords : List Text :=
  ["batch", "i", "-o", [CodePoint.ofNat 0xDCFF], "-o", "o", "--audit-log", "l"]

def undecodedLog : Bytes :=
  (runBatch smallJob undecodedWords (smallRun [] []).site).1.files.bytesAt smallPlace

/-- The first line of this log is no JSON. -/
theorem first_line_undecodedLog : ∃ text, Text.decodeUtf8 undecodedLog = .ok text ∧ text ≠ [] ∧
    (Json.read (Text.cut (char '\n') text).1).isOk = false := by
  have hcheck : ((Text.decodeUtf8 undecodedLog).toOption.any fun text =>
      text ≠ [] && !(Json.read (Text.cut (char '\n') text).1).isOk) = true := by
    decide +kernel
  cases hd : Text.decodeUtf8 undecodedLog with
  | error flaw =>
    rw [hd] at hcheck
    cases hcheck
  | ok text =>
    rw [hd] at hcheck
    simpa [Except.toOption] using hcheck

theorem undecodedLog_ne_lines {block : List Event} (h : ∀ event ∈ block, run.IsLine event) :
    undecodedLog ≠ Text.encodeUtf8 (block.flatMap Event.toLine) := by
  intro hlog
  obtain ⟨text, htext, hne, hread⟩ := first_line_undecodedLog
  have hencodable : Encodable (block.flatMap Event.toLine) :=
    Text.encodable_flatMap.mpr fun event he => (h event he).encodable
  rw [hlog, Text.decodeUtf8_encodeUtf8 hencodable] at htext
  obtain rfl := Except.ok.inj htext
  cases block with
  | nil => exact hne rfl
  | cons event more =>
    obtain ⟨body, hbody, hplain, hjson⟩ := (h event List.mem_cons_self).body
    rw [List.flatMap_cons, hbody, List.append_assoc, List.singleton_append,
      Text.cut_append hplain, hjson] at hread
    cases hread

/-- A run whose input cannot be read reports the lines that it has read before; and if a word of its
command line is not UTF-8, what it adds to its log is not made of whole events. -/
theorem reports_before_cut_character :
    (cutRun.LogsTo smallPlace ∧ cutRun.input.length ≤ Bytes.readSize ∧ cutRun.reading.flaw ≠ none ∧
      (∃ report, cutRun.outcome = .ended report ∧ report.exitCode = 1) ∧
      ∀ block : List Event, (∀ event ∈ block, cutRun.IsLine event) →
        cutRun.after.files.bytesAt smallPlace =
          cutRun.site.files.bytesAt smallPlace ++ Text.encodeUtf8 (block.flatMap Event.toLine) →
        ∃ event ∈ block, event.name = "line_unrecognized") ∧
    (smallRun [] []).LogsTo smallPlace ∧ (smallRun [] []).job = smallJob ∧
      ∀ block : List Event, (∀ event ∈ block, (smallRun [] []).IsLine event) →
        (runBatch smallJob undecodedWords (smallRun [] []).site).1.files.bytesAt smallPlace ≠
          (smallRun [] []).site.files.bytesAt smallPlace ++
            Text.encodeUtf8 (block.flatMap Event.toLine) := by
  refine ⟨?_, logsTo_smallRun [] [], rfl, fun block => undecodedLog_ne_lines⟩
  have hlogs : cutRun.LogsTo smallPlace := logsTo_smallRun cutInput [0x7B]
  obtain ⟨account, haccount⟩ := hlogs.exists_account
  obtain ⟨report, closing, houtcome, -, haccount_eq, hended⟩ := haccount.ended
  refine ⟨hlogs, show cutInput.length ≤ Bytes.readSize by decide, by simp [reading_cut],
    ⟨report, houtcome, ?_⟩, ?_⟩
  · obtain ⟨-, hsucceeded⟩ | ⟨hexit, -⟩ := hended
    · obtain ⟨text, htext, -⟩ := hsucceeded.input
      cases htext
    · exact hexit
  · -- Whatever events are told in these bytes, the report of the line is among them.
    intro block hblock hbytes
    rw [haccount.appended] at hbytes
    have hlines := Text.eq_of_encodeUtf8_eq
      (Text.encodable_flatMap.mpr fun event he => (haccount.lines event he).encodable)
      (Text.encodable_flatMap.mpr fun event he => (hblock event he).encodable)
      (List.append_cancel_left hbytes)
    have hmem :
        Batch.reportEvent cutRun.site.runId cutRun.site.clock ⟨1, ['é'], none⟩ ∈ account := by
      rw [haccount_eq, reports_cut]
      simp
    obtain ⟨event, hevent, hcompact⟩ := compact_mem_of_lines_eq hlines hmem
    exact ⟨event, hevent, (hblock event hevent).name_eq (haccount.lines _ hmem) hcompact⟩

end BatchRun

end Command

end GeoUrn
