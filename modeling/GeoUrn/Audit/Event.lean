import GeoUrn.Fault
import GeoUrn.Json.Printer

/-!
Audit events: one line of JSON for each thing that happens in a run.
-/
namespace GeoUrn.Audit

open CodePoint (char)

inductive Level where
  | debug
  | info
  | warn
  | error
  deriving DecidableEq, Repr

namespace Level

def name : Level → Text
  | .debug => "DEBUG"
  | .info => "INFO"
  | .warn => "WARN"
  | .error => "ERROR"

def all : List Level := [.debug, .info, .warn, .error]

/-- The level of that name; any other value is refused. -/
def ofValue (value : Json.Value) : Except Fault Level :=
  let known :=
    match value with
    | .text t => all.find? fun level => level.name == t
    | _ => none
  match known with
  | some level => .ok level
  | none => .error (.unknownLevel value.shown (all.map name))

end Level

structure Event where
  timestamp : Text
  runId : Text
  level : Level
  name : Text
  data : Json.Members
  stage : Option Text
  line : Option Int
  deriving Repr

namespace Event

def toJson (e : Event) : Json.Value :=
  .object [
    ("ts", .text e.timestamp),
    ("run_id", .text e.runId),
    ("level", .text e.level.name),
    ("event", .text e.name),
    ("data", .object e.data),
    ("stage", .ofOption .text e.stage),
    ("line", .ofOption .ofInt e.line)]

def toLine (e : Event) : Text := e.toJson.compact ++ [char '\n']

def pieces (e : Event) : List Text := e.toJson.compactPieces ++ [[char '\n']]

end Event

/-- An event before it is written. The level is still unchecked, and without a stage of its own the
event belongs to the current stage of its log. -/
structure Draft where
  name : Text
  data : Option Json.Members
  level : Json.Value
  stage : Option Text
  line : Option Int
  deriving Repr

namespace Draft

def info (name : Text) (data : Json.Members) (stage : Option Text) : Draft :=
  ⟨name, some data, .text Level.info.name, stage, none⟩

def runStarted (command : List Text) (parameters : Json.Members) (version : Text) :
    Draft :=
  info "run_started"
    [("command", .texts command), ("parameters", .object parameters),
     ("package_version", .text version)]
    none

def member? (name : Text) (value : Option Int) : Json.Members :=
  match value with
  | none => []
  | some n => [(name, .ofInt n)]

/-- A run ends, with its status and, if they are known, its numbers of lines. -/
def runFinished (status : Text) (seconds : Json.Number) (processed recognized : Option Int) :
    Draft :=
  info "run_finished"
    (([("status", .text status), ("duration_seconds", .number seconds)] : Json.Members) ++
      member? "lines_processed" processed ++ member? "lines_recognized" recognized)
    none

def lineUnrecognized (line : Int) (text : Text) (stage : Option Text) : Draft :=
  ⟨"line_unrecognized", some [("input", .text text)], .text Level.warn.name, stage, some line⟩

def artifactWritten (path digest : Text) (stage : Option Text) (records : Option Int) : Draft :=
  info "artifact_written"
    (([("path", .text path), ("sha256", .text digest)] : Json.Members) ++
      member? "record_count" records)
    stage

def error (className message : Text) (stage : Option Text) (line : Option Int) : Draft :=
  ⟨"error", some [("exception_class", .text className), ("message", .text message)],
    .text Level.error.name, stage, line⟩

end Draft

end GeoUrn.Audit
