import GeoUrn.Audit.Event
import GeoUrn.Site

/-!
Audit loggers. A logger adds lines to its file and changes nothing that stands there; several may
write to one file. Events are handed over piece by piece, and what goes before a piece that cannot
be encoded is held back until the logger writes again or is closed.
-/
namespace GeoUrn.Audit

/-- `place` is where its file lies, and `held` is what waits to be written there. -/
structure Logger where
  runId : Text
  place : Location
  stage : Option Text
  closed : Bool
  held : Text
  deriving DecidableEq, Repr

namespace Logger

/-- Opens a log for a run. The directories of its file are made, and a file that is there is kept
as it is. -/
def start (runId : Text) (path : Path) (files : FileTree) : FileTree.Effect Logger :=
  match files.makeDirectories path.parent with
  | (.error fault, files) => (.error fault, files)
  | (.ok (), files) =>
    match files.openToAppend path with
    | .error fault => (.error fault, files)
    | .ok (place, files) => (.ok ⟨runId, place, none, false, []⟩, files)

def append (logger : Logger) (site : Site) (text : Text) : Site :=
  match text with
  | [] => site
  | text => { site with files := site.files.appendAt logger.place (Text.encodeUtf8 text) }

def released (logger : Logger) : Logger := { logger with held := [] }

def hold (logger : Logger) (text : Text) : Logger := { logger with held := logger.held ++ text }

def close (logger : Logger) : Logger := { logger.released with closed := true }

/-- Sets the stage to which events without one of their own belong. -/
def setStage (logger : Logger) (stage : Option Text) : Logger := { logger with stage := stage }

def complete (logger : Logger) (now : Instant) (draft : Draft) : Except Fault Event :=
  (Level.ofValue draft.level).map fun level =>
    ⟨now.timestamp, logger.runId, level, draft.name, draft.data.getD [],
      (match draft.stage with | none => logger.stage | some stage => some stage), draft.line⟩

/-- What the log takes of a draft: all of a line, or its beginning and the flaw that cut it off. An
unknown level is refused first, then a closed log. -/
def lineOf (logger : Logger) (now : Instant) (draft : Draft) :
    Except Fault (Text × Option Text.SurrogateFlaw) :=
  match logger.complete now draft with
  | .error fault => .error fault
  | .ok event => if logger.closed then .error .closedLog else .ok (Text.taken event.pieces)

end Logger

/-- A logger after an action, and the text that the action added to its file. -/
structure Status where
  logger : Logger
  appended : Text
  deriving DecidableEq, Repr

namespace Logger

/-- Writes an event at the end of the log, after what was held. -/
def write (logger : Logger) (now : Instant) (draft : Draft) : Except Fault Unit × Status :=
  match logger.lineOf now draft with
  | .error fault => (.error fault, ⟨logger, []⟩)
  | .ok (text, some flaw) => (.error (.notEncodable flaw), ⟨logger.hold text, []⟩)
  | .ok (text, none) => (.ok (), ⟨logger.released, logger.held ++ text⟩)

end Logger

/-- The logger in use, if there is one, and the site at which it works. -/
structure Desk where
  logger : Option Logger
  site : Site
  deriving DecidableEq, Repr

namespace Desk

def note (desk : Desk) (draft : Draft) : Except Fault Unit × Desk :=
  match desk.logger with
  | none => (.ok (), desk)
  | some logger =>
    let (result, status) := logger.write desk.site.clock draft
    (result, ⟨some status.logger, logger.append desk.site status.appended⟩)

/-- Writes events, one after the other, up to the first that fails. -/
def noteAll (desk : Desk) : List Draft → Except Fault Unit × Desk
  | [] => (.ok (), desk)
  | draft :: rest =>
    match desk.note draft with
    | (.error fault, desk) => (.error fault, desk)
    | (.ok (), desk) => desk.noteAll rest

/-- Closes the log if there is one, and answers the site with what it held back in its file. -/
def close (desk : Desk) : Site :=
  match desk.logger with
  | none => desk.site
  | some logger => logger.append desk.site logger.held

end Desk

end GeoUrn.Audit
