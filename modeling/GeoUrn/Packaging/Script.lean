import GeoUrn.Files.Tree
import GeoUrn.Json.Reader

/-!
Scripts that start processes. A script works on a file tree, prints, and stops early on a failure,
an interruption or an exit. What the processes do is given from outside, as an answer to all that
was started so far; a script remembers each process it started. A process that a signal ended has the
number of the signal, with a minus sign, as its status.
-/
namespace GeoUrn.Packaging

structure Signal where
  number : Nat
  name : Text
  deriving DecidableEq, Repr

def Signal.named : List Signal :=
  [⟨1, "SIGHUP"⟩, ⟨2, "SIGINT"⟩, ⟨3, "SIGQUIT"⟩, ⟨4, "SIGILL"⟩, ⟨5, "SIGTRAP"⟩, ⟨6, "SIGABRT"⟩,
   ⟨7, "SIGBUS"⟩, ⟨8, "SIGFPE"⟩, ⟨9, "SIGKILL"⟩, ⟨10, "SIGUSR1"⟩, ⟨11, "SIGSEGV"⟩,
   ⟨12, "SIGUSR2"⟩, ⟨13, "SIGPIPE"⟩, ⟨14, "SIGALRM"⟩, ⟨15, "SIGTERM"⟩, ⟨16, "SIGSTKFLT"⟩,
   ⟨17, "SIGCHLD"⟩, ⟨18, "SIGCONT"⟩, ⟨19, "SIGSTOP"⟩, ⟨20, "SIGTSTP"⟩, ⟨21, "SIGTTIN"⟩,
   ⟨22, "SIGTTOU"⟩, ⟨23, "SIGURG"⟩, ⟨24, "SIGXCPU"⟩, ⟨25, "SIGXFSZ"⟩, ⟨26, "SIGVTALRM"⟩,
   ⟨27, "SIGPROF"⟩, ⟨28, "SIGWINCH"⟩, ⟨29, "SIGIO"⟩, ⟨30, "SIGPWR"⟩, ⟨31, "SIGSYS"⟩,
   ⟨34, "SIGRTMIN"⟩, ⟨64, "SIGRTMAX"⟩]

def Signal.describe (number : Nat) : Text :=
  match Signal.named.find? fun s => s.number == number with
  | some s => "<Signals." ++ s.name ++ ": " ++ Decimal.ofNat number ++ ">"
  | none => "unknown signal " ++ Decimal.ofNat number

def describeStatus (status : Int) : Text :=
  if status < 0 then "died with " ++ Signal.describe status.natAbs
  else "returned non-zero exit status " ++ Decimal.ofInt status

/-- A process to be started: its words, its working directory if that is set, whether a status other
than zero is a failure, and whether its outputs are kept. -/
structure Call where
  words : List Text
  cwd : Option Text
  check : Bool
  capture : Bool
  deriving DecidableEq, Repr

/-- What becomes of a process: it ends with a status and outputs and leaves some files, or it cannot
be started, or the user interrupts it. -/
inductive Answer where
  | finished (status : Int) (stdout stderr : Chars) (files : FileTree)
  | notStarted (fault : Fault)
  | interrupted
  deriving Repr

/-- The surroundings of a script. `answer` takes the processes started so far, the new one last, and
the files that it finds; `listed` is the order in which the names in a directory are told, and
`temporary` the directory that is made for a label, by the number of such directories made so far. -/
structure Setting where
  platform : Text
  interpreter : Text
  answer : List Call → FileTree → Answer
  temporary : Text → Nat → Path
  listed : List Chars → List Chars
  listed_perm : ∀ names, (listed names).Perm names

structure Run where
  files : FileTree
  stdout : Text
  stderr : Text
  calls : List Call
  temporaries : Nat
  deriving DecidableEq, Repr

def Run.start (files : FileTree) : Run := ⟨files, [], [], [], 0⟩

inductive CheckFault where
  | site (fault : Fault)
  | failedCommand (words : List Text) (status : Int)
  | notJson (text : Text) (fault : Json.ReadFault)
  | noMember (name : Text)
  | withoutMembers (value : Json.Value)
  | notATree (path : Text)
  deriving Repr

namespace CheckFault

def className : CheckFault → Text
  | .site fault => fault.className
  | .failedCommand _ _ => "CalledProcessError"
  | .notJson _ _ => "JSONDecodeError"
  | .noMember _ => "KeyError"
  | .withoutMembers _ => "TypeError"
  | .notATree _ => "NotADirectoryError"

def message : CheckFault → Text
  | .site fault => fault.message
  | .failedCommand words status =>
    "Command '" ++ Text.quotedList words ++ "' " ++ describeStatus status ++ "."
  | .notJson text fault => fault.message text
  | .noMember name => Text.quoted name
  | .withoutMembers (.array _) => "list indices must be integers or slices, not str"
  | .withoutMembers (.text _) => "string indices must be integers, not 'str'"
  | .withoutMembers value =>
    "'" ++ value.kindName ++ "' object is not subscriptable"
  | .notATree path =>
    "[Errno 20] Not a directory: PosixPath(" ++ Text.quoted path ++ ")"

end CheckFault

inductive Stop where
  | exit (status : Int)
  | interrupted
  | fault (f : CheckFault)
  deriving Repr

/-- A step of a script. The state is kept also if the step stops. -/
def Script (α : Type) : Type := Setting → Run → Except Stop α × Run

namespace Script

protected def pure (a : α) : Script α := fun _ run => (.ok a, run)

protected def bind (x : Script α) (f : α → Script β) : Script β := fun setting run =>
  match x setting run with
  | (.ok a, run) => f a setting run
  | (.error stop, run) => (.error stop, run)

instance : Monad Script where
  pure := Script.pure
  bind := Script.bind

def stop (reason : Stop) : Script α := fun _ run => (.error reason, run)

def setting : Script Setting := fun setting run => (.ok setting, run)

def files : Script FileTree := fun _ run => (.ok run.files, run)

def setFiles (files : FileTree) : Script Unit := fun _ run => (.ok (), { run with files := files })

def say (line : Text) : Script Unit := fun _ run =>
  (.ok (), { run with stdout := run.stdout ++ line ++ "\n" })

def complain (line : Text) : Script Unit := fun _ run =>
  (.ok (), { run with stderr := run.stderr ++ line ++ "\n" })

/-- Goes on with a value, or stops with the fault that there is instead. -/
def ofExcept : Except Fault α → Script α
  | .ok a => pure a
  | .error fault => stop (.fault (.site fault))

def fail (message : Text) : Script α := do
  complain ("\n❌ FAILED: " ++ message)
  stop (.exit 1)

/-- A process that has ended. Its outputs are there only if they were kept. -/
structure Completed where
  status : Int
  stdout : Option Text
  stderr : Option Text
  deriving DecidableEq, Repr

def start (call : Call) : Script Completed := fun setting run =>
  let run := { run with calls := run.calls ++ [call] }
  match setting.answer run.calls run.files with
  | .notStarted fault => (.error (.fault (.site fault)), run)
  | .interrupted => (.error .interrupted, run)
  | .finished status stdout stderr files =>
    let run := { run with files := files }
    if call.check && status != 0 then
      (.error (.fault (.failedCommand call.words status)), run)
    else
      let kept (output : Chars) : Option Text :=
        if call.capture then some (Text.ofChars output) else none
      (.ok ⟨status, kept stdout, kept stderr⟩, run)

def runCommand (call : Call) : Script Completed := do
  say ("→ Running: " ++ Text.join ([' '] : Text) call.words)
  start call

/-- A directory for the time of the body. It is removed also if the body stops. -/
def withTemporary (label : Text) (body : Path → Script α) : Script α := fun setting run =>
  let n := run.temporaries + 1
  let path := setting.temporary label n
  match run.files.makeDirectory path with
  | .error fault => (.error (.fault (.site fault)), { run with temporaries := n })
  | .ok files =>
    let (result, run) := body path setting { run with files := files, temporaries := n }
    (result, { run with files := run.files.remove path })

def readText (path : Path) : Script Text := do
  let bytes ← ofExcept ((← files).read path)
  match Text.decodeUtf8 bytes with
  | .error flaw => stop (.fault (.site (.notUtf8 flaw)))
  | .ok text => pure (Text.unifyLineEnds text)

end Script

end GeoUrn.Packaging
