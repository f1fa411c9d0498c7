import GeoUrn.Audit.Logger
import GeoUrn.Proofs.FileTrees
import GeoUrn.Proofs.JsonTexts
import GeoUrn.Proofs.Utf8RoundTrip

/-!
What loggers do to the files. Opening a log adds no bytes to any file, and writing adds a line to
the file of the logger and to no other. An event with surrogates in it is refused; what goes before
them is held back until the next line is written.
-/
namespace GeoUrn.Audit

namespace Logger

variable {logger : Logger} {site : Site} {files after : FileTree}

/-- The logger is not closed, it holds nothing back, and its file is there. -/
structure IsReady (logger : Logger) (files : FileTree) : Prop where
  notClosed : logger.closed = false
  idle : logger.held = []
  holdsFile : files.HoldsFile logger.place

theorem start_eq (runId : Text) (path : Path) (files : FileTree) :
    start runId path files =
      match files.prepare path with
      | (.ok place, made) => (.ok ⟨runId, place, none, false, []⟩, made.appendAt place [])
      | (.error fault, made) => (.error fault, made) := by
  unfold start FileTree.prepare FileTree.openToAppend
  cases files.makeDirectories path.parent with
  | mk result made =>
    cases result with
    | error fault => rfl
    | ok =>
      simp only
      cases made.writable path <;> rfl

theorem start_cases (runId : Text) (path : Path) (files : FileTree) :
    (∃ place made, files.prepare path = (.ok place, made) ∧
      start runId path files = (.ok ⟨runId, place, none, false, []⟩, made.appendAt place [])) ∨
    ∃ fault made, files.prepare path = (.error fault, made) ∧
      start runId path files = (.error fault, made) := by
  rw [start_eq]
  cases hp : files.prepare path with
  | mk result made =>
    cases result with
    | ok place => exact .inl ⟨place, made, rfl, rfl⟩
    | error fault => exact .inr ⟨fault, made, rfl, rfl⟩

/-- Opening a log leaves the bytes of all files as they are. -/
theorem bytesAt_start (runId : Text) (path : Path) (files : FileTree) (other : Location) :
    (start runId path files).2.bytesAt other = files.bytesAt other := by
  obtain ⟨place, made, hp, hs⟩ | ⟨fault, made, hp, hs⟩ := start_cases runId path files
  · rw [hs, FileTree.bytesAt_appendAt (FileTree.prepare_eq_ok hp).2,
      (FileTree.adds_of_prepare hp).bytesAt, ite_self, List.append_nil]
  · rw [hs]
    exact (FileTree.adds_of_prepare hp).bytesAt other

theorem grows_start (runId : Text) (path : Path) (files : FileTree) :
    FileTree.Grows files (start runId path files).2 := by
  obtain ⟨place, made, hp, hs⟩ | ⟨fault, made, hp, hs⟩ := start_cases runId path files
  · rw [hs]
    exact (FileTree.adds_of_prepare hp).grows.trans
      (FileTree.grows_appendAt (FileTree.prepare_eq_ok hp).2 [])
  · rw [hs]
    exact (FileTree.adds_of_prepare hp).grows

theorem start_eq_ok {runId : Text} {path : Path}
    (h : start runId path files = (.ok logger, after)) :
    logger = ⟨runId, FileTree.target files.home path, none, false, []⟩ ∧
      after.locate path = .ok logger.place ∧ after.HoldsFile logger.place := by
  obtain ⟨place, made, hp, hs⟩ | ⟨fault, made, hp, hs⟩ := start_cases runId path files
  · rw [hs] at h
    cases h
    obtain ⟨hl, hd⟩ := FileTree.prepare_eq_ok hp
    exact ⟨by rw [FileTree.place_of_prepare hp],
      (FileTree.keepsDirectories_putAt hd _).locate hl, FileTree.holdsFile_appendAt hd []⟩
  · rw [hs] at h
    cases h

theorem start_of_accepts {path : Path} (h : files.Accepts path) (runId : Text) :
    ∃ after, start runId path files =
      (.ok ⟨runId, FileTree.target files.home path, none, false, []⟩, after) := by
  obtain ⟨place, made, hp⟩ := h
  rw [start_eq, hp, ← FileTree.place_of_prepare hp]
  exact ⟨_, rfl⟩

theorem append_nil (logger : Logger) (site : Site) : logger.append site [] = site := rfl

@[simp] theorem clock_append (logger : Logger) (site : Site) (text : Text) :
    (logger.append site text).clock = site.clock := by
  cases text <;> rfl

theorem IsReady.released (h : logger.IsReady files) : logger.released = logger := by
  rw [Logger.released, ← h.idle]

theorem IsReady.append_eq (h : logger.IsReady site.files) (text : Text) :
    logger.append site text =
      { site with files := site.files.appendAt logger.place (Text.encodeUtf8 text) } := by
  cases text with
  | nil =>
    have hn : Text.encodeUtf8 [] = [] := rfl
    rw [append_nil, hn, FileTree.appendAt_nil h.holdsFile]
  | cons c rest => rfl

theorem IsReady.grows_append (h : logger.IsReady site.files) (lines : Text) :
    FileTree.Grows site.files (logger.append site lines).files := by
  rw [h.append_eq]
  exact FileTree.grows_appendAt h.holdsFile.not_directory _

theorem IsReady.append (h : logger.IsReady site.files) (lines : Text) :
    logger.IsReady (logger.append site lines).files :=
  ⟨h.notClosed, h.idle, (h.grows_append lines).holdsFile _ h.holdsFile⟩

theorem IsReady.bytesAt_append (h : logger.IsReady site.files) (lines : Text) (place : Location) :
    (logger.append site lines).files.bytesAt place =
      site.files.bytesAt place ++ if place = logger.place then Text.encodeUtf8 lines else [] := by
  rw [h.append_eq]
  exact FileTree.bytesAt_appendAt h.holdsFile.not_directory _ place

/-- Another file than that of the log is read as before. -/
theorem IsReady.read_append (h : logger.IsReady site.files) {path : Path} {bytes : Bytes}
    (hr : site.files.read path = .ok bytes)
    (hne : FileTree.target site.files.home path ≠ logger.place) (lines : Text) :
    (logger.append site lines).files.read path = .ok bytes := by
  refine (h.grows_append lines).read hr ?_
  rw [h.bytesAt_append, if_neg hne, List.append_nil]
  exact FileTree.bytesAt_of_file (FileTree.read_eq_ok hr).2

theorem IsReady.append_append (h : logger.IsReady site.files) (first second : Text) :
    logger.append (logger.append site first) second = logger.append site (first ++ second) := by
  rw [(h.append first).append_eq, h.append_eq, h.append_eq]
  simp only [FileTree.appendAt_appendAt h.holdsFile.not_directory, Text.encodeUtf8_append]

end Logger

theorem Level.ofValue_eq_ok_iff {value : Json.Value} {level : Level} :
    Level.ofValue value = .ok level ↔ value = .text level.name := by
  constructor
  · intro h
    unfold Level.ofValue at h
    cases value with
    | text t =>
      simp only at h
      cases hf : Level.all.find? fun level => level.name == t with
      | none =>
        rw [hf] at h
        cases h
      | some found =>
        rw [hf] at h
        cases h
        have hname := List.find?_some hf
        rw [eq_of_beq hname]
    | _ => cases h
  · rintro rfl
    cases level <;> rfl

theorem Level.ofValue_eq_error {value : Json.Value} {fault : Fault}
    (h : Level.ofValue value = .error fault) :
    fault.className = "ValueError" ∧ ∀ level : Level, value ≠ .text level.name := by
  refine ⟨?_, fun level hl => ?_⟩
  · unfold Level.ofValue at h
    simp only at h
    split at h
    · cases h
    · cases h
      rfl
  · rw [Level.ofValue_eq_ok_iff.mpr hl] at h
    cases h

theorem Event.flatten_pieces (event : Event) : event.pieces.flatten = event.toLine := by
  rw [pieces, toLine, List.flatten_append, Json.flatten_compactPieces]
  simp

theorem encodable_timestamp (t : Instant) : Text.Encodable t.timestamp := by
  have hpadded : ∀ width n, Text.Encodable (Decimal.padded width n) := fun width n =>
    (Json.isAscii_digits (Decimal.isDigit_of_mem_padded width n)).encodable
  have hfraction : Text.Encodable (if t.microsecond = 0 then []
      else CodePoint.char '.' :: Decimal.padded 6 t.microsecond) := by
    split_ifs <;> simp [hpadded]
  simp [Instant.timestamp, hpadded, hfraction]

theorem encodable_levelName (level : Level) : Text.Encodable level.name := by
  cases level <;> decide

/-- An event can be encoded if the texts can that it is made of. -/
theorem Event.encodable_toJson {event : Event} (hts : Text.Encodable event.timestamp) :
    event.toJson.Encodable ↔ Text.Encodable event.runId ∧ Text.Encodable event.name ∧
      (Json.Value.object event.data).Encodable ∧ ∀ stage ∈ event.stage, Text.Encodable stage := by
  simp [toJson, hts, encodable_levelName]

theorem Event.encodable_toLine {event : Event} :
    Text.Encodable event.toLine ↔ event.toJson.Encodable := by
  simp [toLine, Json.encodable_compact]

namespace Logger

variable {logger : Logger} {site : Site} {now : Instant} {draft : Draft}

theorem complete_eq (logger : Logger) (now : Instant) (draft : Draft) :
    logger.complete now draft = (Level.ofValue draft.level).map fun level =>
      ⟨now.timestamp, logger.runId, level, draft.name, draft.data.getD [],
        draft.stage.or logger.stage, draft.line⟩ := by
  obtain ⟨name, data, level, stage, line⟩ := draft
  cases stage <;> rfl

theorem complete_eq_ok_iff {event : Event} :
    logger.complete now draft = .ok event ↔ ∃ level : Level, draft.level = .text level.name ∧
      event = ⟨now.timestamp, logger.runId, level, draft.name, draft.data.getD [],
        draft.stage.or logger.stage, draft.line⟩ := by
  rw [complete_eq]
  cases hl : Level.ofValue draft.level with
  | error fault => simp [Except.map, (Level.ofValue_eq_error hl).2]
  | ok level =>
    rw [Level.ofValue_eq_ok_iff] at hl
    constructor
    · rintro ⟨⟩
      exact ⟨level, hl, rfl⟩
    · rintro ⟨other, ho, rfl⟩
      rw [← Level.ofValue_eq_ok_iff, Level.ofValue_eq_ok_iff.mpr hl] at ho
      cases ho
      rfl

theorem write_of_complete {event : Event} (hc : logger.closed = false)
    (hd : logger.complete now draft = .ok event) (he : event.toJson.Encodable) :
    logger.write now draft = (.ok (), ⟨logger.released, logger.held ++ event.toLine⟩) := by
  have htaken : Text.taken event.pieces = (event.toLine, none) := by
    rw [← event.flatten_pieces]
    apply Text.taken_of_encodable
    rwa [event.flatten_pieces, Event.encodable_toLine]
  simp [write, lineOf, hd, hc, htaken]

/-- Of an event with surrogates only a beginning is taken, and nothing is written. -/
theorem write_of_surrogates {event : Event} (hc : logger.closed = false)
    (hd : logger.complete now draft = .ok event) (he : ¬ event.toJson.Encodable) :
    ∃ flaw, logger.write now draft =
      (.error (.notEncodable flaw), ⟨logger.hold (Text.taken event.pieces).1, []⟩) := by
  cases ht : Text.taken event.pieces with
  | mk text flaw =>
    cases flaw with
    | some flaw => exact ⟨flaw, by simp [write, lineOf, hd, hc, ht]⟩
    | none =>
      have hall := Text.taken_eq_none_iff.mp (congrArg Prod.snd ht)
      rw [← Text.encodable_flatten, event.flatten_pieces, Event.encodable_toLine] at hall
      exact absurd hall he

theorem write_of_closed {event : Event} (hc : logger.closed = true)
    (hd : logger.complete now draft = .ok event) :
    logger.write now draft = (.error .closedLog, ⟨logger, []⟩) := by
  simp [write, lineOf, hd, hc]

/-- All that a write can do: it adds a line, it is cut off by surrogates, or it is refused, because
the level is unknown or the log is closed. -/
theorem write_cases (logger : Logger) (now : Instant) (draft : Draft) :
    (∃ event, logger.complete now draft = .ok event ∧ logger.closed = false ∧
      event.toJson.Encodable ∧
      logger.write now draft = (.ok (), ⟨logger.released, logger.held ++ event.toLine⟩)) ∨
    (∃ event flaw, logger.complete now draft = .ok event ∧ logger.closed = false ∧
      ¬ event.toJson.Encodable ∧ logger.write now draft =
        (.error (.notEncodable flaw), ⟨logger.hold (Text.taken event.pieces).1, []⟩)) ∨
    ∃ fault : Fault, fault.className = "ValueError" ∧
      ((∀ level : Level, draft.level ≠ .text level.name) ∨ logger.closed = true) ∧
      logger.write now draft = (.error fault, ⟨logger, []⟩) := by
  cases hd : logger.complete now draft with
  | error fault =>
    have hw : logger.write now draft = (.error fault, ⟨logger, []⟩) := by simp [write, lineOf, hd]
    rw [complete_eq] at hd
    cases hl : Level.ofValue draft.level with
    | error unknown =>
      obtain ⟨hclass, hnone⟩ := Level.ofValue_eq_error hl
      rw [hl] at hd
      cases hd
      exact .inr (.inr ⟨_, hclass, .inl hnone, hw⟩)
    | ok level =>
      rw [hl] at hd
      cases hd
  | ok event =>
    cases hc : logger.closed with
    | true => exact .inr (.inr ⟨_, rfl, .inr rfl, write_of_closed hc hd⟩)
    | false =>
      by_cases he : event.toJson.Encodable
      · exact .inl ⟨event, rfl, rfl, he, write_of_complete hc hd he⟩
      · obtain ⟨flaw, hw⟩ := write_of_surrogates hc hd he
        exact .inr (.inl ⟨event, flaw, rfl, rfl, he, hw⟩)

end Logger

namespace Desk

variable {logger : Logger} {site : Site} {drafts : List Draft} {events : List Event}

theorem noteAll_none (site : Site) (drafts : List Draft) :
    noteAll ⟨none, site⟩ drafts = (.ok (), ⟨none, site⟩) := by
  induction drafts with
  | nil => rfl
  | cons draft drafts ih => exact ih

theorem note_some (logger : Logger) (site : Site) (draft : Draft) :
    note ⟨some logger, site⟩ draft = ((logger.write site.clock draft).1,
      ⟨some (logger.write site.clock draft).2.logger,
        logger.append site (logger.write site.clock draft).2.appended⟩) := rfl

theorem noteAll_singleton (desk : Desk) (draft : Draft) :
    desk.noteAll [draft] = desk.note draft := by
  rw [noteAll]
  rcases desk.note draft with ⟨_ | ⟨⟩, next⟩ <;> rfl

theorem noteAll_append (desk : Desk) (first second : List Draft) :
    desk.noteAll (first ++ second) =
      match desk.noteAll first with
      | (.error fault, desk) => (.error fault, desk)
      | (.ok (), desk) => desk.noteAll second := by
  induction first generalizing desk with
  | nil => rfl
  | cons draft first ih =>
    rw [List.cons_append, noteAll, noteAll]
    rcases desk.note draft with ⟨_ | ⟨⟩, next⟩
    · rfl
    · exact ih next

def Completes (logger : Logger) (now : Instant) (drafts : List Draft) (events : List Event) :
    Prop :=
  List.Forall₂ (fun draft event => logger.complete now draft = .ok event) drafts events

/-- An open log takes all events up to the first that has surrogates in it. -/
theorem noteAll_open (hc : logger.closed = false)
    (hd : Completes logger site.clock drafts events) :
    ((∀ event ∈ events, event.toJson.Encodable) ∧
      ∃ after, noteAll ⟨some logger, site⟩ drafts = (.ok (), after)) ∨
    (∃ event ∈ events, ¬ event.toJson.Encodable) ∧
      ∃ flaw after, noteAll ⟨some logger, site⟩ drafts = (.error (.notEncodable flaw), after) := by
  induction drafts generalizing logger site events with
  | nil =>
    cases hd
    exact .inl ⟨List.forall_mem_nil _, _, rfl⟩
  | cons draft drafts ih =>
    obtain ⟨event, events, hfirst, hrest, rfl⟩ := List.forall₂_cons_left_iff.mp hd
    rw [noteAll, note_some]
    by_cases he : event.toJson.Encodable
    · have hlater : Completes logger.released
          (logger.append site (logger.held ++ event.toLine)).clock drafts events := by
        rw [Logger.clock_append]
        exact hrest
      rw [Logger.write_of_complete hc hfirst he]
      have hreleased : logger.released.closed = false := hc
      rcases ih hreleased hlater with
        ⟨hall, hnote⟩ | ⟨⟨bad, hbad, hnot⟩, hnote⟩
      · exact .inl ⟨List.forall_mem_cons.mpr ⟨he, hall⟩, hnote⟩
      · exact .inr ⟨⟨bad, List.mem_cons_of_mem _ hbad, hnot⟩, hnote⟩
    · obtain ⟨flaw, hw⟩ := Logger.write_of_surrogates hc hfirst he
      rw [hw]
      exact .inr ⟨⟨event, List.mem_cons_self, he⟩, flaw, _, rfl⟩

theorem noteAll_closed (hc : logger.closed = true)
    (hd : Completes logger site.clock drafts events) :
    noteAll ⟨some logger, site⟩ drafts =
      (if drafts = [] then .ok () else .error .closedLog, ⟨some logger, site⟩) := by
  cases hd with
  | nil => rfl
  | cons hfirst hrest =>
    rw [noteAll, note_some, Logger.write_of_closed hc hfirst]
    rfl

/-- A logger that is ready adds the lines of all events. -/
theorem noteAll_ready (h : logger.IsReady site.files)
    (hd : Completes logger site.clock drafts events)
    (he : ∀ event ∈ events, event.toJson.Encodable) :
    noteAll ⟨some logger, site⟩ drafts =
      (.ok (), ⟨some logger, logger.append site (events.flatMap Event.toLine)⟩) := by
  induction drafts generalizing site events with
  | nil =>
    cases hd
    rfl
  | cons draft drafts ih =>
    obtain ⟨event, events, hfirst, hrest, rfl⟩ := List.forall₂_cons_left_iff.mp hd
    obtain ⟨hevent, hevents⟩ := List.forall_mem_cons.mp he
    have hnext := ih (h.append event.toLine) hrest hevents
    rw [h.append_append] at hnext
    rw [noteAll, note_some, Logger.write_of_complete h.notClosed hfirst hevent, h.released, h.idle]
    exact hnext

end Desk

end GeoUrn.Audit
