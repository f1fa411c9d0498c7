import GeoUrn.Audit.Logger

/-!
Sessions: any number of loggers, known by names, that work in turn at one site. Opening under a name
that is taken replaces the logger and leaves its file as it is.
-/
namespace GeoUrn.Audit

structure Session where
  site : Site
  loggers : List (Text × Logger)
  deriving DecidableEq, Repr

inductive Action where
  | start (path : Path) (runId : Text)
  | close
  | setStage (stage : Option Text)
  | write (draft : Draft)
  deriving Repr

namespace Session

def logger? (s : Session) (name : Text) : Option Logger := Table.get? name s.loggers

/-- A logger that was never opened, as good as a closed one. -/
def unopened : Logger := ⟨[], [], none, true, []⟩

def loggerOf (s : Session) (name : Text) : Logger := (s.logger? name).getD unopened

def after (s : Session) (name : Text) (status : Status) : Session where
  site := status.logger.append s.site status.appended
  loggers := Table.put name status.logger s.loggers

/-- Tells the logger of that name to act. An opening that fails may leave new directories. -/
def act (s : Session) (name : Text) : Action → Except Fault Status × Session
  | .start path runId =>
    match Logger.start runId path s.site.files with
    | (.error fault, files) => (.error fault, { s with site := { s.site with files := files } })
    | (.ok logger, files) =>
      (.ok ⟨logger, []⟩, { s with site := { s.site with files := files } }.after name ⟨logger, []⟩)
  | .close =>
    let logger := s.loggerOf name
    (.ok ⟨logger.close, logger.held⟩, s.after name ⟨logger.close, logger.held⟩)
  | .setStage stage =>
    let logger := (s.loggerOf name).setStage stage
    (.ok ⟨logger, []⟩, s.after name ⟨logger, []⟩)
  | .write draft =>
    let (result, status) := (s.loggerOf name).write s.site.clock draft
    (result.map fun _ => status, s.after name status)

end Session

end GeoUrn.Audit
