import GeoUrn.Batch.Parse
import GeoUrn.Proofs.AuditLogs
import GeoUrn.Proofs.Blanks

/-!
The lines that are kept, and what is reported of them. No line is lost, moved or given a wrong
number, and the log says of the rows exactly what has to be said.
-/
namespace GeoUrn.Batch

open Audit (Desk Draft Event Logger)
open Text (Encodable chomp isBlank trim)

variable {config : Config} {logger : Logger} {site : Site}

/-- Whether a line is skipped: as a blank one, or as one that begins with the comment mark. -/
def IsSkipped (config : Config) (raw : Text) : Prop :=
  (config.skipBlank ∧ ∀ c ∈ chomp raw, isBlank c) ∨
    ∃ mark, config.commentMark = some mark ∧ mark <+: trim (chomp raw)

theorem skips_chomp_iff (config : Config) (raw : Text) :
    config.skips (chomp raw) ↔ IsSkipped config raw := by
  unfold Config.skips IsSkipped
  cases config.commentMark with
  | none => simp [← Text.trim_eq_nil_iff]
  | some mark => simp [← Text.trim_eq_nil_iff]

instance (config : Config) (raw : Text) : Decidable (IsSkipped config raw) :=
  decidable_of_iff _ (skips_chomp_iff config raw)

def rowOf (config : Config) (number : ℕ) (raw : Text) : Row :=
  ⟨number, chomp raw, Definition.parse? config.registry (chomp raw)⟩

/-- The rows of the lines that are not skipped. All lines count, from the given number on. -/
def keptRowsFrom (config : Config) (first : ℕ) (lines : List Text) : List Row :=
  ((lines.zipIdx first).filter fun line => ¬ IsSkipped config line.1).map fun line =>
    rowOf config line.2 line.1

/-- The rows of the lines that are not skipped. Lines are numbered from one. -/
def keptRows (config : Config) (lines : List Text) : List Row := keptRowsFrom config 1 lines

theorem keptRowsFrom_skipped {raw : Text} (h : IsSkipped config raw) (first : ℕ)
    (lines : List Text) :
    keptRowsFrom config first (raw :: lines) = keptRowsFrom config (first + 1) lines := by
  simp [keptRowsFrom, List.zipIdx_cons, h]

theorem keptRowsFrom_kept {raw : Text} (h : ¬ IsSkipped config raw) (first : ℕ)
    (lines : List Text) : keptRowsFrom config first (raw :: lines) =
      rowOf config first raw :: keptRowsFrom config (first + 1) lines := by
  simp [keptRowsFrom, List.zipIdx_cons, h]

def Row.shift (k : ℕ) (row : Row) : Row := { row with line := row.line + k }

theorem keptRowsFrom_append (config : Config) (first : ℕ) (lines more : List Text) :
    keptRowsFrom config first (lines ++ more) =
      keptRowsFrom config first lines ++ keptRowsFrom config (first + lines.length) more := by
  simp only [keptRowsFrom, List.zipIdx_append, List.filter_append, List.map_append]

theorem keptRowsFrom_add (config : Config) (first k : ℕ) (lines : List Text) :
    keptRowsFrom config (first + k) lines = (keptRowsFrom config first lines).map (Row.shift k) := by
  induction lines generalizing first with
  | nil => rfl
  | cons raw lines ih =>
    have hnext := ih (first + 1)
    rw [Nat.add_right_comm] at hnext
    by_cases h : IsSkipped config raw
    · rw [keptRowsFrom_skipped h, keptRowsFrom_skipped h, hnext]
    · have hrow : rowOf config (first + k) raw = (rowOf config first raw).shift k := by
        simp [rowOf, Row.shift]
      rw [keptRowsFrom_kept h, keptRowsFrom_kept h, hnext, hrow, List.map_cons]

theorem keptRows_append (config : Config) (lines more : List Text) :
    keptRows config (lines ++ more) =
      keptRows config lines ++ (keptRows config more).map (Row.shift lines.length) := by
  rw [keptRows, keptRowsFrom_append, keptRowsFrom_add]
  rfl

/-- What is reported of rows: each one without a definition, in order. -/
def reportsOf (rows : List Row) : List Draft :=
  (rows.filter fun row => row.definition = none).map fun row =>
    Draft.lineUnrecognized row.line row.input (some parseStage)

theorem reportsOf_cons_unrecognized {row : Row} (h : row.definition = none) (rows : List Row) :
    reportsOf (row :: rows) =
      Draft.lineUnrecognized row.line row.input (some parseStage) :: reportsOf rows := by
  simp [reportsOf, h]

theorem reportsOf_cons_recognized {row : Row} (h : row.definition ≠ none) (rows : List Row) :
    reportsOf (row :: rows) = reportsOf rows := by
  simp [reportsOf, h]

theorem reportsOf_append (rows more : List Row) :
    reportsOf (rows ++ more) = reportsOf rows ++ reportsOf more := by
  simp only [reportsOf, List.filter_append, List.map_append]

theorem reportsOf_eq_nil_iff {rows : List Row} :
    reportsOf rows = [] ↔ ∀ row ∈ rows, row.definition ≠ none := by
  simp [reportsOf, List.filter_eq_nil_iff]

def reportEvent (runId : Text) (now : Instant) (row : Row) : Event :=
  ⟨now.timestamp, runId, .warn, "line_unrecognized", [("input", .text row.input)],
    some parseStage, some row.line⟩

def reportEvents (runId : Text) (now : Instant) (rows : List Row) : List Event :=
  (rows.filter fun row => row.definition = none).map (reportEvent runId now)

theorem completes_reports (logger : Logger) (now : Instant) (rows : List Row) :
    Desk.Completes logger now (reportsOf rows) (reportEvents logger.runId now rows) := by
  rw [Desk.Completes, reportsOf, reportEvents, List.forall₂_map_left_iff,
    List.forall₂_map_right_iff]
  exact List.forall₂_same.mpr fun row _ => rfl

/-- The reports of rows have no surrogates, neither in the name of the run nor in a line. -/
def Reportable (runId : Text) (rows : List Row) : Prop :=
  ∀ row ∈ rows, row.definition = none → Encodable runId ∧ Encodable row.input

instance (runId : Text) (rows : List Row) : Decidable (Reportable runId rows) :=
  List.decidableBAll _ rows

theorem encodable_reportEvents {runId : Text} (now : Instant) {rows : List Row} :
    (∀ event ∈ reportEvents runId now rows, event.toJson.Encodable) ↔ Reportable runId rows := by
  rw [reportEvents, List.forall_mem_map]
  simp only [List.mem_filter, decide_eq_true_eq, and_imp, Reportable]
  refine forall₂_congr fun row _ => imp_congr_right fun _ => ?_
  rw [Event.encodable_toJson (Audit.encodable_timestamp now)]
  simp [reportEvent, parseStage]

theorem parseFrom_skipped {raw : Text} (h : IsSkipped config raw) (n : ℕ) (desk : Desk)
    (lines : List Text) :
    parseFrom config n desk (raw :: lines) = parseFrom config (n + 1) desk lines := by
  rw [parseFrom, if_pos ((skips_chomp_iff config raw).mpr h)]

theorem parseFrom_kept {raw : Text} (h : ¬ IsSkipped config raw) (n : ℕ) (desk : Desk)
    (lines : List Text) :
    parseFrom config n desk (raw :: lines) =
      match report desk (rowOf config n raw) with
      | (.error fault, desk) => (.error fault, desk)
      | (.ok (), desk) =>
        let (rows, desk) := parseFrom config (n + 1) desk lines
        (rows.map fun rows => rowOf config n raw :: rows, desk) := by
  rw [parseFrom, if_neg (mt (skips_chomp_iff config raw).mp h)]
  rfl

theorem report_unrecognized {row : Row} (h : row.definition = none) (desk : Desk) :
    report desk row = desk.note (Draft.lineUnrecognized row.line row.input (some parseStage)) := by
  simp [report, Row.recognized, h]

theorem report_recognized {row : Row} (h : row.definition ≠ none) (desk : Desk) :
    report desk row = (.ok (), desk) := by
  rw [report, Row.recognized, if_pos (Option.isSome_iff_ne_none.mpr h)]

/-- The rows that are kept are read, unless one of their reports fails. -/
def readRows (rows : List Row) (desk : Desk) : Result :=
  ((desk.noteAll (reportsOf rows)).1.map fun _ => rows, (desk.noteAll (reportsOf rows)).2)

theorem parseFrom_eq (config : Config) (n : ℕ) (desk : Desk) (lines : List Text) :
    parseFrom config n desk lines = readRows (keptRowsFrom config n lines) desk := by
  induction lines generalizing n desk with
  | nil => rfl
  | cons raw lines ih =>
    by_cases h : IsSkipped config raw
    · rw [parseFrom_skipped h, keptRowsFrom_skipped h, ih]
    · rw [parseFrom_kept h, keptRowsFrom_kept h]
      by_cases hd : (rowOf config n raw).definition = none
      · rw [report_unrecognized hd, readRows, reportsOf_cons_unrecognized hd, Desk.noteAll]
        rcases desk.note _ with ⟨fault | ⟨⟩, next⟩
        · rfl
        · simp only [ih, readRows]
          cases (next.noteAll _).1 <;> rfl
      · rw [report_recognized hd, readRows, reportsOf_cons_recognized hd]
        simp only [ih, readRows]
        cases (desk.noteAll _).1 <;> rfl

theorem parseLines_eq (config : Config) (logger : Option Logger) (lines : List Text)
    (site : Site) :
    parseLines config logger lines site = readRows (keptRows config lines) ⟨logger, site⟩ :=
  parseFrom_eq config 1 ⟨logger, site⟩ lines

theorem readRows_none (rows : List Row) (site : Site) :
    readRows rows ⟨none, site⟩ = (.ok rows, ⟨none, site⟩) := by
  rw [readRows, Desk.noteAll_none]
  rfl

theorem parseLines_none (config : Config) (lines : List Text) (site : Site) :
    parseLines config none lines site = (.ok (keptRows config lines), ⟨none, site⟩) := by
  rw [parseLines_eq, readRows_none]

theorem readRows_ready (h : logger.IsReady site.files) {rows : List Row}
    (hr : Reportable logger.runId rows) :
    readRows rows ⟨some logger, site⟩ = (.ok rows, ⟨some logger, logger.append site
      ((reportEvents logger.runId site.clock rows).flatMap Event.toLine)⟩) := by
  rw [readRows, Desk.noteAll_ready h (completes_reports logger site.clock rows)
    ((encodable_reportEvents site.clock).mpr hr)]
  rfl

theorem readRows_open (ho : logger.closed = false) (site : Site) (rows : List Row) :
    (Reportable logger.runId rows ∧
      ∃ after, Desk.noteAll ⟨some logger, site⟩ (reportsOf rows) = (.ok (), after) ∧
        readRows rows ⟨some logger, site⟩ = (.ok rows, after)) ∨
    ¬ Reportable logger.runId rows ∧
      ∃ flaw after, readRows rows ⟨some logger, site⟩ = (.error (.notEncodable flaw), after) := by
  rw [← encodable_reportEvents site.clock]
  rcases Desk.noteAll_open ho (completes_reports logger site.clock rows) with
    ⟨hall, after, hnote⟩ | ⟨⟨event, hmem, hnot⟩, flaw, after, hnote⟩
  · exact .inl ⟨hall, after, hnote, by rw [readRows, hnote]; rfl⟩
  · exact .inr ⟨fun hall => hnot (hall event hmem), flaw, after, by rw [readRows, hnote]; rfl⟩

theorem readRows_closed (hc : logger.closed = true) (rows : List Row) :
    readRows rows ⟨some logger, site⟩ =
      (if ∃ row ∈ rows, row.definition = none then .error .closedLog else .ok rows,
        ⟨some logger, site⟩) := by
  rw [readRows, Desk.noteAll_closed hc (completes_reports logger site.clock rows)]
  by_cases h : ∃ row ∈ rows, row.definition = none
  · have hreports : reportsOf rows ≠ [] := by
      rw [Ne, reportsOf_eq_nil_iff]
      push Not
      exact h
    rw [if_pos h, if_neg hreports]
    rfl
  · have hreports : reportsOf rows = [] :=
      reportsOf_eq_nil_iff.mpr fun row hmem hrow => h ⟨row, hmem, hrow⟩
    rw [if_neg h, if_pos hreports]
    rfl

/-- More rows are read at the desk that the rows before them leave. -/
theorem readRows_append (ho : logger.closed = false) (site : Site) {rows more : List Row}
    (hrows : Reportable logger.runId rows) (hmore : Reportable logger.runId more) :
    ∃ middle after, readRows rows ⟨some logger, site⟩ = (.ok rows, middle) ∧
      middle.noteAll (reportsOf more) = (.ok (), after) ∧
      readRows (rows ++ more) ⟨some logger, site⟩ = (.ok (rows ++ more), after) := by
  have hall : Reportable logger.runId (rows ++ more) :=
    List.forall_mem_append.mpr ⟨hrows, hmore⟩
  obtain ⟨-, middle, hmiddle, hfirst⟩ :=
    (readRows_open ho site rows).resolve_right fun h => h.1 hrows
  obtain ⟨-, after, hafter, hread⟩ :=
    (readRows_open ho site (rows ++ more)).resolve_right fun h => h.1 hall
  rw [reportsOf_append, Desk.noteAll_append, hmiddle] at hafter
  exact ⟨middle, after, hfirst, hafter, hread⟩

theorem parseReading_ready (h : logger.IsReady site.files) (config : Config) (reading : Reading)
    (hr : Reportable logger.runId (keptRows config reading.lines)) :
    parseReading config (some logger) reading site =
      (match reading.flaw with
        | none => .ok (keptRows config reading.lines)
        | some flaw => .error (.notUtf8 flaw),
        ⟨some logger, logger.append site ((reportEvents logger.runId site.clock
          (keptRows config reading.lines)).flatMap Event.toLine)⟩) := by
  rw [parseReading, parseLines_eq, readRows_ready h hr]
  cases reading.flaw <;> rfl

theorem parseFile_of_read {name : Chars} {bytes : Bytes}
    (h : site.files.read (Path.ofText name) = .ok bytes) (config : Config)
    (logger : Option Logger) :
    parseFile config logger name site =
      parseReading config logger (Reading.ofBytes bytes) site := by
  simp only [parseFile, FileTree.lookup_of_read h, h]

/-- A log that was just opened, at the site on which it was. -/
def freshLog : Logger × Site :=
  (⟨['r'], [['/'], ['w'], ['l']], none, false, []⟩,
    ⟨⟨[['/'], ['w']], [([['/'], ['w'], ['l']], .file [])]⟩, ⟨2026, 2, 3, 12, 34, 56, 0⟩, [], none,
      .undefined⟩)

/-- A comment, a blank line, and a line that is no identifier. -/
def mixedLines : List Text := [['#', 'c'], [' ', '\r', '\n'], ['n', 'o', '\n']]

end GeoUrn.Batch
