import GeoUrn.Audit.Session
import GeoUrn.Proofs.AuditLogs
import GeoUrn.Proofs.JsonLines

/-!
Sessions of several loggers. Whatever the loggers are told, and in whatever order, a log only grows,
by whole lines of which each is an event of the logger that wrote it.
-/
namespace GeoUrn.Audit

open Json (Value)
open CodePoint (char)

open Text (Encodable)

/-- The event holds only numbers in their one form. -/
def Draft.IsSerializable (draft : Draft) : Prop := ∀ m ∈ draft.data.getD [], m.2.IsProper

namespace Draft

theorem isProper_of_mem_member? (name : Text) (value : Option ℤ) :
    ∀ m ∈ member? name value, m.2.IsProper := by
  cases value with
  | none => exact List.forall_mem_nil _
  | some n => exact List.forall_mem_singleton.mpr (Value.isProper_ofInt n)

theorem isSerializable_runStarted (command : List Text) {parameters : Json.Members}
    (h : ∀ m ∈ parameters, m.2.IsProper) (version : Text) :
    (runStarted command parameters version).IsSerializable :=
  List.forall_mem_cons.mpr ⟨Value.isProper_texts command, List.forall_mem_cons.mpr
    ⟨.object _ h, List.forall_mem_singleton.mpr (.text version)⟩⟩

theorem isSerializable_runFinished (status : Text) {seconds : Json.Number} (h : seconds.IsProper)
    (processed recognized : Option ℤ) :
    (runFinished status seconds processed recognized).IsSerializable :=
  List.forall_mem_append.mpr ⟨List.forall_mem_append.mpr ⟨List.forall_mem_cons.mpr
    ⟨.text status, List.forall_mem_singleton.mpr (.number _ h)⟩, isProper_of_mem_member? _ _⟩,
    isProper_of_mem_member? _ _⟩

theorem isSerializable_lineUnrecognized (line : ℤ) (text : Text) (stage : Option Text) :
    (lineUnrecognized line text stage).IsSerializable :=
  List.forall_mem_singleton.mpr (.text text)

theorem isSerializable_artifactWritten (path digest : Text) (stage : Option Text)
    (records : Option ℤ) : (artifactWritten path digest stage records).IsSerializable :=
  List.forall_mem_append.mpr ⟨List.forall_mem_cons.mpr
    ⟨.text path, List.forall_mem_singleton.mpr (.text digest)⟩, isProper_of_mem_member? _ _⟩

theorem isSerializable_error (className message : Text) (stage : Option Text) (line : Option ℤ) :
    (error className message stage line).IsSerializable :=
  List.forall_mem_cons.mpr ⟨.text className, List.forall_mem_singleton.mpr (.text message)⟩

end Draft

theorem Event.isProper_toJson {event : Event} (h : ∀ m ∈ event.data, m.2.IsProper) :
    event.toJson.IsProper := by
  refine .object _ ?_
  simp only [List.forall_mem_cons]
  exact ⟨.text _, .text _, .text _, .text _, .object _ h, Value.isProper_ofOption .text _,
    Value.isProper_ofOption Value.isProper_ofInt _, List.forall_mem_nil _⟩

/-- The texts of the event have no surrogates. -/
structure Draft.IsEncodable (draft : Draft) : Prop where
  name : Encodable draft.name
  data : (Value.object (draft.data.getD [])).Encodable
  stage : ∀ stage ∈ draft.stage, Encodable stage

namespace Draft

theorem encodable_member? {name : Text} (h : Encodable name) (value : Option ℤ) :
    (Value.object (member? name value)).Encodable := by
  cases value <;> simp [member?, h]

theorem isEncodable_runStarted {command : List Text} (hc : ∀ word ∈ command, Encodable word)
    {parameters : Json.Members} (hp : (Value.object parameters).Encodable) {version : Text}
    (hv : Encodable version) : (runStarted command parameters version).IsEncodable where
  name := Text.encodable_ofChars "run_started"
  data := by simpa [runStarted, info, hp, hv] using hc
  stage := nofun

theorem isEncodable_runFinished {status : Text} (h : Encodable status) (seconds : Json.Number)
    (processed recognized : Option ℤ) :
    (runFinished status seconds processed recognized).IsEncodable where
  name := Text.encodable_ofChars "run_finished"
  data := by simp [runFinished, info, h, Value.encodable_object_append, encodable_member?]
  stage := nofun

theorem isEncodable_lineUnrecognized (line : ℤ) {text : Text} (h : Encodable text)
    {stage : Option Text} (hs : ∀ text ∈ stage, Encodable text) :
    (lineUnrecognized line text stage).IsEncodable where
  name := Text.encodable_ofChars "line_unrecognized"
  data := by simp [lineUnrecognized, h]
  stage := hs

theorem isEncodable_artifactWritten {path digest : Text} (hp : Encodable path)
    (hd : Encodable digest) {stage : Option Text} (hs : ∀ text ∈ stage, Encodable text)
    (records : Option ℤ) : (artifactWritten path digest stage records).IsEncodable where
  name := Text.encodable_ofChars "artifact_written"
  data := by simp [artifactWritten, info, hp, hd, encodable_member?]
  stage := hs

theorem isEncodable_error {className message : Text} (hc : Encodable className)
    (hm : Encodable message) {stage : Option Text} (hs : ∀ text ∈ stage, Encodable text)
    (line : Option ℤ) : (error className message stage line).IsEncodable where
  name := Text.encodable_ofChars "error"
  data := by simp [error, hc, hm]
  stage := hs

end Draft

namespace Logger

variable {logger : Logger} {now : Instant} {draft : Draft}

/-- The texts that a logger adds to its events have no surrogates. -/
structure IsEncodable (logger : Logger) : Prop where
  runId : Encodable logger.runId
  stage : ∀ stage ∈ logger.stage, Encodable stage

/-- The log is open, but the event that it makes of the draft has surrogates. -/
def Cuts (logger : Logger) (now : Instant) (draft : Draft) : Prop :=
  logger.closed = false ∧
    ∃ event, logger.complete now draft = .ok event ∧ ¬ event.toJson.Encodable

theorem write_eq_notEncodable_iff :
    (∃ flaw, (logger.write now draft).1 = .error (.notEncodable flaw)) ↔ logger.Cuts now draft := by
  rcases logger.write_cases now draft with ⟨event, hc, ho, he, hw⟩ | ⟨event, flaw, hc, ho, he, hw⟩ |
    ⟨fault, hclass, hwhy, hw⟩
  · rw [hw]
    refine iff_of_false (by simp) ?_
    rintro ⟨-, other, hother, hn⟩
    rw [hc] at hother
    cases hother
    exact hn he
  · rw [hw]
    exact iff_of_true ⟨flaw, rfl⟩ ⟨ho, event, hc, he⟩
  · rw [hw]
    refine iff_of_false ?_ ?_
    · rintro ⟨flaw, ⟨⟩⟩
      have hother : (Fault.notEncodable flaw).className = "UnicodeEncodeError" := rfl
      rw [hother] at hclass
      exact absurd hclass (by decide)
    · rintro ⟨ho, event, hc, -⟩
      obtain ⟨level, hlevel, -⟩ := complete_eq_ok_iff.mp hc
      rcases hwhy with hnone | hclosed
      · exact hnone level hlevel
      · rw [ho] at hclosed
        cases hclosed

theorem IsEncodable.encodable_event (h : logger.IsEncodable) (hd : draft.IsEncodable)
    {event : Event} (hc : logger.complete now draft = .ok event) : event.toJson.Encodable := by
  obtain ⟨level, -, rfl⟩ := complete_eq_ok_iff.mp hc
  refine (Event.encodable_toJson (encodable_timestamp now)).mpr ⟨h.runId, hd.name, hd.data, ?_⟩
  intro stage hs
  rcases Option.or_eq_some_iff.mp hs with hs | ⟨-, hs⟩
  · exact hd.stage stage hs
  · exact h.stage stage hs

theorem IsEncodable.not_cuts (h : logger.IsEncodable) (hd : draft.IsEncodable) (now : Instant) :
    ¬ logger.Cuts now draft := fun ⟨_, _, hc, hn⟩ => hn (h.encodable_event hd hc)

end Logger

structure Step where
  now : Instant
  name : Text
  action : Action

/-- The events that a step may have to write hold only numbers in their one form. -/
def Step.IsSerializable (step : Step) : Prop :=
  ∀ draft, step.action = .write draft → draft.IsSerializable

def Action.IsEncodable : Action → Prop
  | .start _ runId => Encodable runId
  | .close => True
  | .setStage stage => ∀ text ∈ stage, Encodable text
  | .write draft => draft.IsEncodable

/-- A step and what came of it. -/
structure Entry where
  step : Step
  outcome : Except Fault Status

def Session.step (s : Session) (step : Step) : Except Fault Status × Session :=
  { s with site := { s.site with clock := step.now } }.act step.name step.action

/-- Takes steps, one after the other, and keeps what came of them. -/
def Session.run (s : Session) (steps : List Step) : List Entry × Session :=
  steps.foldl (fun (history, s) step =>
    let (outcome, next) := s.step step
    (history ++ [⟨step, outcome⟩], next)) ([], s)

theorem Session.run_concat (s : Session) (steps : List Step) (step : Step) :
    s.run (steps ++ [step]) =
      ((s.run steps).1 ++ [⟨step, ((s.run steps).2.step step).1⟩],
        ((s.run steps).2.step step).2) := by
  rw [run, List.foldl_append]
  rfl

namespace Entry

def Opens (entry : Entry) (name : Text) (path : Path) (runId : Text) : Prop :=
  entry.step.name = name ∧ entry.step.action = .start path runId ∧
    ∃ status, entry.outcome = .ok status

def addedTo (place : Location) (entry : Entry) : Text :=
  match entry.outcome with
  | .ok status => if status.logger.place = place then status.appended else []
  | .error _ => []

def closes (name : Text) (entry : Entry) : Bool :=
  match entry.step.action with
  | .close => entry.step.name == name
  | _ => false

def stageFor? (name : Text) (entry : Entry) : Option (Option Text) :=
  match entry.step.action with
  | .setStage stage => if entry.step.name = name then some stage else none
  | _ => none

end Entry

/-- What the entries of a history added to the file at a location. -/
def addedTo (place : Location) (history : List Entry) : Text :=
  history.flatMap (Entry.addedTo place)

def lastStage (name : Text) (history : List Entry) : Option Text :=
  (history.reverse.findSome? (Entry.stageFor? name)).getD none

/-- A log of that name was opened, and `since` are the entries after its last opening. -/
def OpenedSince (name : Text) (history : List Entry) (path : Path) (runId : Text)
    (since : List Entry) : Prop :=
  ∃ earlier opening, history = earlier ++ opening :: since ∧ opening.Opens name path runId ∧
    ∀ entry ∈ since, ∀ path runId, ¬ entry.Opens name path runId

theorem openedSince_concat_iff {name : Text} {history : List Entry} {entry : Entry} {path : Path}
    {runId : Text} {since : List Entry} :
    OpenedSince name (history ++ [entry]) path runId since ↔
      (since = [] ∧ entry.Opens name path runId) ∨
      ∃ sooner, since = sooner ++ [entry] ∧ (∀ path runId, ¬ entry.Opens name path runId) ∧
        OpenedSince name history path runId sooner := by
  constructor
  · rintro ⟨earlier, opening, he, ho, hs⟩
    rcases List.eq_nil_or_concat since with rfl | ⟨sooner, last, rfl⟩
    · obtain ⟨rfl, hl⟩ := List.append_inj' he rfl
      cases hl
      exact .inl ⟨rfl, ho⟩
    · rw [List.concat_eq_append] at *
      rw [← List.cons_append, ← List.append_assoc] at he
      obtain ⟨rfl, hl⟩ := List.append_inj' he rfl
      cases hl
      refine .inr ⟨sooner, rfl, hs entry (by simp), earlier, opening, rfl, ho, ?_⟩
      exact fun e hm => hs e (by simp [hm])
  · rintro (⟨rfl, ho⟩ | ⟨sooner, rfl, hn, earlier, opening, rfl, ho, hs⟩)
    · exact ⟨history, entry, rfl, ho, by simp⟩
    · refine ⟨earlier, opening, by simp, ho, fun e hm => ?_⟩
      rcases List.mem_append.mp hm with hm | hm
      · exact hs e hm
      · rw [List.mem_singleton.mp hm]
        exact hn

theorem Session.loggerOf_after (s : Session) (name : Text) (status : Status) (asked : Text) :
    (s.after name status).loggerOf asked =
      if asked = name then status.logger else s.loggerOf asked := by
  unfold Session.loggerOf Session.logger?
  split_ifs with h
  · rw [h, Session.after, Table.get?_put_self]
    rfl
  · rw [Session.after, Table.get?_put_of_ne h]

def Action.change (logger : Logger) : Action → Logger
  | .close => logger.close
  | .setStage stage => logger.setStage stage
  | .start _ _ | .write _ => logger

/-- The logger that was opened and then told what the entries say. -/
def stateOf (home : Location) (name : Text) (path : Path) (runId : Text) (since : List Entry) :
    Logger :=
  ⟨runId, FileTree.target home path, lastStage name since, since.any (Entry.closes name), []⟩

theorem lastStage_concat (name : Text) (since : List Entry) (entry : Entry) :
    lastStage name (since ++ [entry]) = (entry.stageFor? name).getD (lastStage name since) := by
  unfold lastStage
  rw [List.reverse_append, List.reverse_singleton, List.singleton_append, List.findSome?_cons]
  cases entry.stageFor? name <;> rfl

theorem stateOf_concat (home : Location) (name : Text) (path : Path) (runId : Text)
    (since : List Entry) (entry : Entry) :
    stateOf home name path runId (since ++ [entry]) =
      if name = entry.step.name then entry.step.action.change (stateOf home name path runId since)
      else stateOf home name path runId since := by
  have hany : (since ++ [entry]).any (Entry.closes name) =
      (since.any (Entry.closes name) || entry.closes name) := by simp
  rw [stateOf, lastStage_concat, hany]
  obtain ⟨⟨now, asked, action⟩, outcome⟩ := entry
  by_cases h : name = asked
  · cases action <;> simp [h, stateOf, Action.change, Entry.closes, Entry.stageFor?, Logger.close,
      Logger.released, Logger.setStage]
  · have h' : asked ≠ name := fun e => h e.symm
    cases action <;> simp [h, h', stateOf, Entry.closes, Entry.stageFor?]

/-- The line is a JSON object on one line, with these members and no others. -/
def IsEventLine (line : Text) (now : Instant) (runId : Text) (level : Level) (draft : Draft)
    (stage : Option Text) : Prop :=
  ∃ body, line = body ++ [char '\n'] ∧ char '\n' ∉ body ∧ Json.read body = .ok (.object [
    ("ts", .text now.timestamp), ("run_id", .text runId), ("level", .text level.name),
    ("event", .text draft.name), ("data", .object (draft.data.getD [])),
    ("stage", .ofOption .text stage), ("line", .ofOption .ofInt draft.line)])

theorem isEventLine_toLine {draft : Draft} (h : draft.IsSerializable) (now : Instant)
    (runId : Text) (level : Level) (stage : Option Text) :
    IsEventLine (Event.toLine ⟨now.timestamp, runId, level, draft.name, draft.data.getD [], stage,
      draft.line⟩) now runId level draft stage :=
  ⟨_, rfl, Value.newline_not_mem_compact _, Json.read_compact (Event.isProper_toJson h)⟩

/-- What was written after the entries `before`: a line of the logger that was opened last under that
name and is not closed. The draft has a known level, and its own stage or the one set last. -/
def IsWritten (home : Location) (before : List Entry) (step : Step) (draft : Draft)
    (status : Status) : Prop :=
  ∃ path runId since level, OpenedSince step.name before path runId since ∧
    since.any (Entry.closes step.name) = false ∧
    status.logger.place = FileTree.target home path ∧ draft.level = .text level.name ∧
    IsEventLine status.appended step.now runId level draft
      (draft.stage.or (lastStage step.name since))

/-- Why nothing may be written after the entries `before`: the level is unknown, or the logger is
closed, or none was opened. -/
def IsRefused (before : List Entry) (step : Step) (draft : Draft) : Prop :=
  (∀ level : Level, draft.level ≠ .text level.name) ∨
    ∀ path runId since, OpenedSince step.name before path runId since →
      since.any (Entry.closes step.name) = true

def Entry.Follows (home : Location) (before : List Entry) (entry : Entry) : Prop :=
  match entry.step.action, entry.outcome with
  | .write draft, .ok status => IsWritten home before entry.step draft status
  | .write draft, .error fault =>
    fault.className = "ValueError" ∧ IsRefused before entry.step draft
  | .start _ _, .ok status => status.appended = []
  | .start _ _, .error _ => True
  | .close, outcome | .setStage _, outcome => ∃ status, outcome = .ok status ∧ status.appended = []

theorem Action.IsEncodable.change {action : Action} (ha : action.IsEncodable) {logger : Logger}
    (h : logger.IsEncodable) : (action.change logger).IsEncodable := by
  cases action with
  | start path runId => exact h
  | close => exact ⟨h.runId, h.stage⟩
  | setStage stage => exact ⟨h.runId, ha⟩
  | write draft => exact h

theorem Action.held_change {logger : Logger} (h : logger.held = []) (action : Action) :
    (action.change logger).held = [] := by
  cases action <;> simp [change, Logger.close, Logger.released, Logger.setStage, h]

theorem Action.closed_change {logger : Logger} (h : logger.closed = true) (action : Action) :
    (action.change logger).closed = true := by
  cases action <;> simp [change, Logger.close, Logger.setStage, h]

namespace Session

variable {s next : Session} {step : Step} {outcome : Except Fault Status}

def moved (s : Session) (now : Instant) (files : FileTree) : Session :=
  { s with site := { s.site with files := files, clock := now } }

theorem step_start {path : Path} {runId : Text} (ha : step.action = .start path runId) :
    s.step step =
      match Logger.start runId path s.site.files with
      | (.error fault, files) => (.error fault, s.moved step.now files)
      | (.ok logger, files) =>
        (.ok ⟨logger, []⟩, (s.moved step.now files).after step.name ⟨logger, []⟩) := by
  rw [Session.step, ha]
  rfl

theorem step_quiet (ha : step.action = .close ∨ ∃ stage, step.action = .setStage stage)
    (hidle : (s.loggerOf step.name).held = []) :
    s.step step = (.ok ⟨step.action.change (s.loggerOf step.name), []⟩,
      (s.moved step.now s.site.files).after step.name
        ⟨step.action.change (s.loggerOf step.name), []⟩) := by
  rcases ha with ha | ⟨stage, ha⟩
  · rw [← hidle, Session.step, ha]
    rfl
  · rw [Session.step, ha]
    rfl

theorem step_write {draft : Draft} (ha : step.action = .write draft) :
    s.step step =
      (((s.loggerOf step.name).write step.now draft).1.map fun _ =>
          ((s.loggerOf step.name).write step.now draft).2,
        (s.moved step.now s.site.files).after step.name
          ((s.loggerOf step.name).write step.now draft).2) := by
  rw [Session.step, ha]
  rfl

/-- The session is what the history makes of a session without loggers. -/
structure Tracks (site : Site) (history : List Entry) (s : Session) : Prop where
  home : s.site.files.home = site.files.home
  bytes : ∀ place, s.site.files.bytesAt place =
    site.files.bytesAt place ++ Text.encodeUtf8 (addedTo place history)
  files : ∀ entry ∈ history, ∀ name path runId, entry.Opens name path runId →
    s.site.files.locate path = .ok (FileTree.target site.files.home path) ∧
      s.site.files.HoldsFile (FileTree.target site.files.home path)
  known : ∀ name path runId since, OpenedSince name history path runId since →
    s.loggerOf name = stateOf site.files.home name path runId since
  unknown : ∀ name, (∀ path runId since, ¬ OpenedSince name history path runId since) →
    (s.loggerOf name).closed = true
  idle : ∀ name, (s.loggerOf name).held = []
  encodable : ∀ name, (s.loggerOf name).IsEncodable
  entries : ∀ before entry after, history = before ++ entry :: after →
    entry.Follows site.files.home before

variable {site : Site} {history : List Entry} {entry : Entry}

theorem tracks_nil (site : Site) : Tracks site [] ⟨site, []⟩ where
  home := rfl
  bytes place := (List.append_nil _).symm
  files := by simp
  known := by
    rintro name path runId since ⟨earlier, opening, he, -⟩
    simp at he
  unknown name _ := rfl
  idle name := rfl
  encodable name := ⟨Text.encodable_nil, nofun⟩
  entries := by simp

/-- An open logger was opened, and its file is there. -/
theorem Tracks.isReady (h : Tracks site history s) {name : Text}
    (hc : (s.loggerOf name).closed = false) :
    ∃ path runId since, OpenedSince name history path runId since ∧
      s.loggerOf name = stateOf site.files.home name path runId since ∧
      (s.loggerOf name).IsReady s.site.files := by
  by_contra hn
  have hnone : ∀ path runId since, ¬ OpenedSince name history path runId since := by
    intro path runId since ho
    have hk := h.known name path runId since ho
    obtain ⟨earlier, opening, rfl, hopen, -⟩ := id ho
    have hfile := (h.files opening (by simp) name path runId hopen).2
    exact hn ⟨path, runId, since, ho, hk, hc, h.idle name, by rw [hk]; exact hfile⟩
  rw [h.unknown name hnone] at hc
  cases hc

/-- What holds of a logger that is opened, and stays when a logger is told something, holds after an
entry as before it. -/
theorem loggerOf_induction {P : Logger → Prop} {name : Text}
    (hopens : ∀ path runId, entry.Opens name path runId → P (next.loggerOf name))
    (hothers : (∀ path runId, ¬ entry.Opens name path runId) →
      next.loggerOf name = if name = entry.step.name then
        entry.step.action.change (s.loggerOf name) else s.loggerOf name)
    (hchange : P (s.loggerOf name) → P (entry.step.action.change (s.loggerOf name)))
    (h : P (s.loggerOf name)) : P (next.loggerOf name) := by
  by_cases ho : ∃ path runId, entry.Opens name path runId
  · obtain ⟨path, runId, ho⟩ := ho
    exact hopens path runId ho
  · rw [hothers fun path runId h => ho ⟨path, runId, h⟩]
    split_ifs
    · exact hchange h
    · exact h

theorem loggerOf_after_change {status : Status}
    (h : status.logger = step.action.change (s.loggerOf step.name)) (files : FileTree)
    (name : Text) :
    ((s.moved step.now files).after step.name status).loggerOf name =
      if name = step.name then step.action.change (s.loggerOf name) else s.loggerOf name := by
  rw [loggerOf_after, h]
  split_ifs with hname
  · rw [hname]
  · rfl

theorem Tracks.concat (h : Tracks site history s) (hd : entry.step.action.IsEncodable)
    (hgrows : FileTree.Grows s.site.files next.site.files)
    (hbytes : ∀ place, next.site.files.bytesAt place =
      s.site.files.bytesAt place ++ Text.encodeUtf8 (entry.addedTo place))
    (hopens : ∀ name path runId, entry.Opens name path runId →
      next.loggerOf name = stateOf site.files.home name path runId [] ∧
      next.site.files.locate path = .ok (FileTree.target site.files.home path) ∧
      next.site.files.HoldsFile (FileTree.target site.files.home path))
    (hothers : ∀ name, (∀ path runId, ¬ entry.Opens name path runId) →
      next.loggerOf name = if name = entry.step.name then
        entry.step.action.change (s.loggerOf name) else s.loggerOf name)
    (hentry : entry.Follows site.files.home history) :
    Tracks site (history ++ [entry]) next where
  home := hgrows.home.trans h.home
  bytes place := by
    rw [hbytes, h.bytes, addedTo, addedTo, List.flatMap_append, Text.encodeUtf8_append,
      List.append_assoc, List.flatMap_singleton]
  files := by
    intro e he name path runId ho
    rcases List.mem_append.mp he with he | he
    · obtain ⟨hl, hf⟩ := h.files e he name path runId ho
      exact ⟨hgrows.toKeepsDirectories.locate hl, hgrows.holdsFile _ hf⟩
    · rw [List.mem_singleton.mp he] at ho
      exact (hopens name path runId ho).2
  known := by
    intro name path runId since ho
    rcases openedSince_concat_iff.mp ho with ⟨rfl, hstart⟩ | ⟨sooner, rfl, hn, hsooner⟩
    · exact (hopens name path runId hstart).1
    · rw [hothers name hn, stateOf_concat, h.known name path runId sooner hsooner]
  unknown := by
    intro name hn
    have hentry : ∀ path runId, ¬ entry.Opens name path runId := fun path runId ho =>
      hn path runId [] (openedSince_concat_iff.mpr (.inl ⟨rfl, ho⟩))
    have hbefore := h.unknown name fun path runId since ho =>
      hn path runId (since ++ [entry])
        (openedSince_concat_iff.mpr (.inr ⟨since, rfl, hentry, ho⟩))
    exact loggerOf_induction (P := fun logger => logger.closed = true)
      (fun path runId ho => absurd ho (hentry path runId)) (hothers name)
      (fun hc => Action.closed_change hc _) hbefore
  idle := by
    intro name
    refine loggerOf_induction (P := fun logger => logger.held = []) (fun path runId ho => ?_)
      (hothers name) (fun hidle => Action.held_change hidle _) (h.idle name)
    rw [(hopens name path runId ho).1]
    rfl
  encodable := by
    intro name
    refine loggerOf_induction (P := Logger.IsEncodable) (fun path runId ho => ?_) (hothers name)
      hd.change (h.encodable name)
    rw [ho.2.1] at hd
    rw [(hopens name path runId ho).1]
    exact ⟨hd, nofun⟩
  entries := by
    intro before e after he
    rcases List.eq_nil_or_concat after with rfl | ⟨more, last, rfl⟩
    · obtain ⟨rfl, hl⟩ := List.append_inj' he rfl
      cases hl
      exact hentry
    · rw [List.concat_eq_append, ← List.cons_append, ← List.append_assoc] at he
      obtain ⟨rfl, -⟩ := List.append_inj' he rfl
      exact h.entries before e more rfl

theorem Tracks.start (h : Tracks site history s) {path : Path} {runId : Text}
    (ha : step.action = .start path runId) (hd : step.action.IsEncodable) :
    Tracks site (history ++ [⟨step, (s.step step).1⟩]) (s.step step).2 := by
  have hgrows := Logger.grows_start runId path s.site.files
  have hbytes := Logger.bytesAt_start runId path s.site.files
  have hchange : ∀ logger, step.action.change logger = logger := fun logger => by rw [ha]; rfl
  rw [step_start ha]
  cases hs : Logger.start runId path s.site.files with
  | mk result files =>
    rw [hs] at hgrows hbytes
    cases result with
    | error fault =>
      refine h.concat hd hgrows (fun place => ?_) ?_ ?_ ?_
      · exact (hbytes place).trans (List.append_nil _).symm
      · rintro name _ _ ⟨-, -, status, hstatus⟩
        cases hstatus
      · intro name _
        rw [hchange, ite_self]
        rfl
      · simp only [Entry.Follows, ha]
    | ok logger =>
      obtain ⟨hlogger, hlocate, hfile⟩ := Logger.start_eq_ok hs
      rw [h.home] at hlogger
      subst hlogger
      refine h.concat hd hgrows (fun place => ?_) ?_ ?_ ?_
      · simp only [Entry.addedTo, ite_self]
        exact (hbytes place).trans (List.append_nil _).symm
      · rintro name otherPath otherId ⟨hname, haction, -⟩
        simp only at hname haction
        rw [ha] at haction
        cases haction
        refine ⟨?_, hlocate, hfile⟩
        rw [loggerOf_after, if_pos hname.symm]
        rfl
      · intro name hn
        have hne : name ≠ step.name := by
          rintro rfl
          exact hn path runId ⟨rfl, ha, _, rfl⟩
        rw [loggerOf_after, if_neg hne, if_neg hne]
        rfl
      · simp only [Entry.Follows, ha]

theorem Tracks.quiet (h : Tracks site history s)
    (ha : step.action = .close ∨ ∃ stage, step.action = .setStage stage)
    (hd : step.action.IsEncodable) :
    Tracks site (history ++ [⟨step, (s.step step).1⟩]) (s.step step).2 := by
  rw [step_quiet ha (h.idle step.name)]
  refine h.concat hd (.refl _) (fun place => ?_) ?_ ?_ ?_
  · simp only [Entry.addedTo, ite_self]
    exact (List.append_nil _).symm
  · rintro name path runId ⟨-, haction, -⟩
    simp only at haction
    rcases ha with ha | ⟨stage, ha⟩ <;> rw [ha] at haction <;> cases haction
  · exact fun name _ => loggerOf_after_change rfl _ name
  · rcases ha with ha | ⟨stage, ha⟩ <;> simp [Entry.Follows, ha]

theorem Tracks.write (h : Tracks site history s) {draft : Draft}
    (ha : step.action = .write draft) (hs : draft.IsSerializable) (hd : step.action.IsEncodable) :
    Tracks site (history ++ [⟨step, (s.step step).1⟩]) (s.step step).2 := by
  have hnever : ∀ (outcome : Except Fault Status) name path runId,
      ¬ Entry.Opens ⟨step, outcome⟩ name path runId := by
    rintro outcome name path runId ⟨-, haction, -⟩
    simp only at haction
    rw [ha] at haction
    cases haction
  have hchange : ∀ logger, step.action.change logger = logger := fun logger => by rw [ha]; rfl
  have hdraft : draft.IsEncodable := by rwa [ha] at hd
  rw [step_write ha]
  rcases (s.loggerOf step.name).write_cases step.now draft with
    ⟨event, hcomplete, hclosed, -, hw⟩ | ⟨event, flaw, hcomplete, hclosed, hn, -⟩ |
    ⟨fault, hclass, hwhy, hw⟩
  · obtain ⟨level, hlevel, rfl⟩ := Logger.complete_eq_ok_iff.mp hcomplete
    obtain ⟨path, runId, since, hopened, hstate, hready⟩ := h.isReady hclosed
    have hsite : (s.loggerOf step.name).IsReady (s.moved step.now s.site.files).site.files := hready
    rw [hw, hready.idle, hready.released, List.nil_append]
    refine h.concat hd (hsite.grows_append _) (fun place => ?_)
      (fun name path runId ho => absurd ho (hnever _ name path runId)) ?_ ?_
    · refine (hsite.bytesAt_append _ place).trans ?_
      simp only [Except.map, Entry.addedTo, eq_comm]
      split_ifs <;> rfl
    · exact fun name _ => loggerOf_after_change (hchange _).symm _ name
    · simp only [Except.map, Entry.Follows, ha]
      refine ⟨path, runId, since, level, hopened, ?_, ?_, hlevel, ?_⟩
      · rw [hstate] at hclosed
        exact hclosed
      · rw [hstate]
        rfl
      · rw [hstate]
        exact isEventLine_toLine hs _ _ _ _
  · exact absurd ⟨hclosed, event, hcomplete, hn⟩ ((h.encodable step.name).not_cuts hdraft step.now)
  · rw [hw]
    refine h.concat hd (.refl _) (fun place => (List.append_nil _).symm)
      (fun name path runId ho => absurd ho (hnever _ name path runId)) ?_ ?_
    · exact fun name _ => loggerOf_after_change (hchange _).symm _ name
    · simp only [Except.map, Entry.Follows, ha]
      refine ⟨hclass, hwhy.imp id fun hclosed path runId since ho => ?_⟩
      rw [h.known _ path runId since ho] at hclosed
      exact hclosed

theorem Tracks.extend (h : Tracks site history s) (hs : step.IsSerializable)
    (hd : step.action.IsEncodable) :
    Tracks site (history ++ [⟨step, (s.step step).1⟩]) (s.step step).2 := by
  cases ha : step.action with
  | start path runId => exact h.start ha hd
  | close => exact h.quiet (.inl ha) hd
  | setStage stage => exact h.quiet (.inr ⟨stage, ha⟩) hd
  | write draft => exact h.write ha (hs draft ha) hd

theorem tracks_run (site : Site) {steps : List Step} (hs : ∀ step ∈ steps, step.IsSerializable)
    (hd : ∀ step ∈ steps, step.action.IsEncodable) :
    Tracks site (run ⟨site, []⟩ steps).1 (run ⟨site, []⟩ steps).2 := by
  -- A history grows at its end, and what an entry says depends on all that came before.
  induction steps using List.reverseRecOn with
  | nil => exact tracks_nil site
  | append_singleton steps step ih =>
    rw [List.forall_mem_append, List.forall_mem_singleton] at hs hd
    rw [run_concat]
    exact (ih hs.1 hd.1).extend hs.2 hd.2

/-- What a step that fails leaves: all files have the bytes they had, and all loggers are what they
were, but that a logger may hold back the beginning of an event with surrogates. -/
structure Spares (s : Session) (step : Step) (fault : Fault) : Prop where
  bytes : ∀ place, (s.step step).2.site.files.bytesAt place = s.site.files.bytesAt place
  files : ∀ draft, step.action = .write draft → (s.step step).2.site.files = s.site.files
  others : ∀ name, name ≠ step.name → (s.step step).2.loggerOf name = s.loggerOf name
  own : (s.step step).2.loggerOf step.name = s.loggerOf step.name ∨
    ∃ draft flaw text, step.action = .write draft ∧ fault = .notEncodable flaw ∧
      (s.loggerOf step.name).Cuts step.now draft ∧
      (s.step step).2.loggerOf step.name = (s.loggerOf step.name).hold text

theorem spares_of_start {path : Path} {runId : Text} {fault : Fault}
    (ha : step.action = .start path runId) (h : (s.step step).1 = .error fault) :
    Spares s step fault := by
  have hbytes := Logger.bytesAt_start runId path s.site.files
  have hstep := step_start (s := s) ha
  cases hs : Logger.start runId path s.site.files with
  | mk result files =>
    rw [hs] at hbytes hstep
    cases result with
    | error fault =>
      refine ⟨?_, ?_, ?_, ?_⟩ <;> rw [hstep]
      · exact hbytes
      · rw [ha]
        exact nofun
      · exact fun _ _ => rfl
      · exact .inl rfl
    | ok logger =>
      rw [hstep] at h
      cases h

theorem spares_of_write {draft : Draft} {fault : Fault} (ha : step.action = .write draft)
    (h : (s.step step).1 = .error fault) : Spares s step fault := by
  have hstep := step_write (s := s) ha
  have hothers : ∀ (status : Status) name, name ≠ step.name →
      ((s.moved step.now s.site.files).after step.name status).loggerOf name = s.loggerOf name := by
    intro status name hne
    rw [loggerOf_after, if_neg hne]
    rfl
  rcases (s.loggerOf step.name).write_cases step.now draft with ⟨event, -, -, -, hw⟩ |
    ⟨event, flaw, hcomplete, hclosed, hn, hw⟩ | ⟨refusal, -, -, hw⟩
  · rw [hstep, hw] at h
    cases h
  · rw [hw] at hstep
    rw [hstep] at h
    cases h
    refine ⟨?_, ?_, ?_, .inr ⟨draft, flaw, (Text.taken event.pieces).1, ha, rfl,
      ⟨hclosed, event, hcomplete, hn⟩, ?_⟩⟩ <;> rw [hstep]
    · exact fun _ => rfl
    · exact fun _ _ => rfl
    · exact hothers _
    · rw [loggerOf_after, if_pos rfl]
  · rw [hw] at hstep
    refine ⟨?_, ?_, ?_, .inl ?_⟩ <;> rw [hstep]
    · exact fun _ => rfl
    · exact fun _ _ => rfl
    · exact hothers _
    · rw [loggerOf_after, if_pos rfl]

/-- A step that fails leaves the files as they are, and the other loggers. -/
theorem spares_of_error {fault : Fault} (h : (s.step step).1 = .error fault) :
    Spares s step fault := by
  cases ha : step.action with
  | start path runId => exact spares_of_start ha h
  | close =>
    rw [Session.step, ha] at h
    cases h
  | setStage stage =>
    rw [Session.step, ha] at h
    cases h
  | write draft => exact spares_of_write ha h

theorem step_eq_notEncodable_iff {draft : Draft} (ha : step.action = .write draft) :
    (∃ flaw, (s.step step).1 = .error (.notEncodable flaw)) ↔
      (s.loggerOf step.name).Cuts step.now draft := by
  rw [← Logger.write_eq_notEncodable_iff, step_write ha]
  refine exists_congr fun flaw => ?_
  cases ((s.loggerOf step.name).write step.now draft).1 <;> simp [Except.map]

/-- Logs only grow, by whole lines, if no text that the loggers of a session are told has surrogates.
Whatever they are told, a file has its former bytes and then the lines that were written to it, in
order; each is an event of the logger that wrote it, and what was refused left no trace. In any
session a step that fails leaves the files as they are; but if it fails because of surrogates, which
is so exactly if they stand in an event for an open log, then its logger may hold something back. -/
theorem run_appends_lines (site : Site) (steps : List Step)
    (hs : ∀ step ∈ steps, step.IsSerializable) :
    ((∀ step ∈ steps, step.action.IsEncodable) →
      (∀ place, (run ⟨site, []⟩ steps).2.site.files.bytesAt place =
        site.files.bytesAt place ++ Text.encodeUtf8 (addedTo place (run ⟨site, []⟩ steps).1)) ∧
      (∀ entry ∈ (run ⟨site, []⟩ steps).1, ∀ name path runId, entry.Opens name path runId →
        (run ⟨site, []⟩ steps).2.site.files.read path =
          .ok (site.files.bytesAt (FileTree.target site.files.home path) ++ Text.encodeUtf8
            (addedTo (FileTree.target site.files.home path) (run ⟨site, []⟩ steps).1))) ∧
      ∀ before entry after, (run ⟨site, []⟩ steps).1 = before ++ entry :: after →
        entry.Follows site.files.home before) ∧
    (∀ (s : Session) (step : Step) (fault : Fault), (s.step step).1 = .error fault →
      Spares s step fault) ∧
    ∀ (s : Session) (step : Step) (draft : Draft), step.action = .write draft →
      ((∃ flaw, (s.step step).1 = .error (.notEncodable flaw)) ↔
        (s.loggerOf step.name).Cuts step.now draft) := by
  refine ⟨fun hd => ?_, fun s step fault => spares_of_error, fun s step draft =>
    step_eq_notEncodable_iff⟩
  have h := tracks_run site hs hd
  refine ⟨h.bytes, fun entry he name path runId ho => ?_, h.entries⟩
  obtain ⟨hlocate, hfile⟩ := h.files entry he name path runId ho
  rw [FileTree.read_of_locate hlocate hfile, h.bytes]

/-- A site with a file that has a text without an end of line. -/
def logSite : Site :=
  ⟨⟨[['/'], ['w']], [([['/'], ['w'], ['l']], .file [0x7B])]⟩, ⟨2026, 2, 3, 12, 34, 56, 0⟩, [], none,
    .undefined⟩

/-- Two loggers of one file; the second is closed before it is told to write. -/
def twoLoggerSteps : List Step :=
  [⟨logSite.clock, ['a'], .start ⟨[['l']]⟩ ['1']⟩, ⟨logSite.clock, ['b'], .start ⟨[['l']]⟩ ['2']⟩,
   ⟨logSite.clock, ['a'], .setStage (some ['s'])⟩,
   ⟨logSite.clock, ['a'], .write (Draft.lineUnrecognized 1 ['\n', '"'] none)⟩,
   ⟨logSite.clock, ['b'], .close⟩,
   ⟨logSite.clock, ['b'], .write (Draft.error ['E'] [] (some []) none)⟩]

theorem run_appends_lines_of_two_loggers :
    (∀ step ∈ twoLoggerSteps, step.IsSerializable) ∧
    (∀ step ∈ twoLoggerSteps, step.action.IsEncodable) ∧
    (run ⟨logSite, []⟩ twoLoggerSteps).2.site.files.read ⟨[['l']]⟩ =
      .ok (0x7B :: Text.encodeUtf8
        (addedTo [['/'], ['w'], ['l']] (run ⟨logSite, []⟩ twoLoggerSteps).1)) ∧
    ∀ before entry after, (run ⟨logSite, []⟩ twoLoggerSteps).1 = before ++ entry :: after →
      entry.Follows [['/'], ['w']] before := by
  have hs : ∀ step ∈ twoLoggerSteps, step.IsSerializable := by
    simp only [twoLoggerSteps, List.forall_mem_cons, Step.IsSerializable]
    refine ⟨?_, ?_, ?_, ?_, ?_, ?_, List.forall_mem_nil _⟩
    all_goals rintro draft ⟨⟩
    · exact Draft.isSerializable_lineUnrecognized _ _ _
    · exact Draft.isSerializable_error _ _ _ _
  have hd : ∀ step ∈ twoLoggerSteps, step.action.IsEncodable := by
    simp only [twoLoggerSteps, List.forall_mem_cons, Action.IsEncodable]
    exact ⟨by decide, by decide, by decide, Draft.isEncodable_lineUnrecognized _ (by decide) nofun,
      trivial, Draft.isEncodable_error (by decide) (by decide) (by decide) _, List.forall_mem_nil _⟩
  obtain ⟨-, hread, hentries⟩ := (run_appends_lines logSite twoLoggerSteps hs).1 hd
  exact ⟨hs, hd, hread _ List.mem_cons_self ['a'] ⟨[['l']]⟩ ['1'] ⟨rfl, rfl, _, rfl⟩, hentries⟩

/-- An event with a surrogate, and one without. -/
def cutSteps : List Step :=
  [⟨logSite.clock, ['a'], .start ⟨[['m']]⟩ ['r']⟩,
   ⟨logSite.clock, ['a'], .write (Draft.lineUnrecognized 1 ['x', .surrogate 0, 'y'] none)⟩,
   ⟨logSite.clock, ['a'],
     .write (Draft.runFinished "failed" (.float (.finite false 0 (-1074))) none none)⟩]

def joinedLine : Text :=
  Text.ofChars "\x7b\"ts\":\"2026-02-03T12:34:56Z\",\"run_id\":\"r\",\"level\":\"WARN\"," ++
    Text.ofChars "\"event\":\"line_unrecognized\",\"data\":\x7b\"input\":" ++
    Text.ofChars "\x7b\"ts\":\"2026-02-03T12:34:56Z\",\"run_id\":\"r\",\"level\":\"INFO\"," ++
    Text.ofChars "\"event\":\"run_finished\",\"data\":\x7b\"status\":\"failed\"," ++
    Text.ofChars "\"duration_seconds\":0.0\x7d,\"stage\":null,\"line\":null\x7d"

/-- An event that is written after one with a surrogate stands on one line with the beginning of the
latter, and this line is no JSON. -/
theorem run_joins_cut_event :
    (∀ step ∈ cutSteps, step.IsSerializable) ∧
    ((run ⟨logSite, []⟩ cutSteps).1.map fun entry => entry.outcome.isOk) = [true, false, true] ∧
    (run ⟨logSite, []⟩ cutSteps).2.site.files.read ⟨[['m']]⟩ =
      .ok (Text.encodeUtf8 (joinedLine ++ [char '\n'])) ∧
    char '\n' ∉ joinedLine ∧ (Json.read joinedLine).isOk = false := by
  refine ⟨?_, by decide +kernel, by decide +kernel, by decide +kernel, by decide +kernel⟩
  have hzero : (Json.Number.float (.finite false 0 (-1074))).IsProper := by
    change Decimal.Binary64.IsFinite 0 (-1074)
    decide
  simp only [cutSteps, List.forall_mem_cons, Step.IsSerializable]
  refine ⟨nofun, ?_, ?_, List.forall_mem_nil _⟩
  all_goals rintro draft ⟨⟩
  · exact Draft.isSerializable_lineUnrecognized _ _ _
  · exact Draft.isSerializable_runFinished _ hzero _ _

end Session

end GeoUrn.Audit
