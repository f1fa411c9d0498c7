import GeoUrn.Command.Options
import GeoUrn.Files.Path

/-!
What a command line asks for.
-/
namespace GeoUrn.Command

structure BatchJob where
  input : Chars
  output : Chars
  auditLog : Option Chars
  keepComments : Bool
  verbose : Bool
  deriving DecidableEq, Repr

def BatchJob.paths (job : BatchJob) : List Path :=
  ([job.input, job.output] ++ job.auditLog.toList).map Path.ofText

inductive Invocation where
  | help
  | version
  | parse (uri : Chars) (json : Bool)
  | code (uri type authority : Chars)
  | format (type codespace code : Chars) (version : Option Chars)
  | batch (job : BatchJob)
  deriving DecidableEq, Repr

namespace Invocation

def helpKey : Chars := "help"

def helpRule : OptionRule := ⟨helpKey, "help", none, false⟩

def flag (key : Chars) (letter : Option Char) : OptionRule := ⟨key, key, letter, false⟩

def valued (key : Chars) (letter : Option Char) : OptionRule := ⟨key, key, letter, true⟩

def frontRules : List OptionRule := [flag "version" none, helpRule]

def parseRules : List OptionRule := [flag "json" none, helpRule]

def codeRules : List OptionRule :=
  [valued "type" (some 't'), valued "authority" (some 'a'), helpRule]

def formatRules : List OptionRule :=
  [valued "type" (some 't'), valued "codespace" (some 'a'), valued "code" (some 'c'),
   valued "version" (some 'V'), helpRule]

def batchRules : List OptionRule :=
  [valued "output" (some 'o'), valued "audit-log" none, flag "keep-comments" none,
   flag "verbose" (some 'v'), helpRule]

def unlessHelp (given : Given) (request : Option Invocation) : Option Invocation :=
  if given.has helpKey then some .help else request

def ofParse (given : Given) : Option Invocation :=
  match given.arguments with
  | [uri] => some (.parse uri (given.has "json"))
  | _ => none

/-- Coordinate reference systems of EPSG are expected unless the options say otherwise. -/
def ofCode (given : Given) : Option Invocation :=
  match given.arguments with
  | [uri] =>
    some (.code uri ((given.value? "type").getD "crs") ((given.value? "authority").getD "EPSG"))
  | _ => none

def ofFormat (given : Given) : Option Invocation :=
  match given.arguments, given.value? "type", given.value? "codespace", given.value? "code" with
  | [], some type, some codespace, some number =>
    some (.format type codespace number (given.value? "version"))
  | _, _, _, _ => none

def ofBatch (given : Given) : Option Invocation :=
  match given.arguments, given.value? "output" with
  | [input], some output =>
    some (.batch {
      input := input
      output := output
      auditLog := given.value? "audit-log"
      keepComments := given.has "keep-comments"
      verbose := given.has "verbose" })
  | _, _ => none

/-- A command by its name: the rules of its options, and how it is asked for with them. -/
def commands : List (Chars × List OptionRule × (Given → Option Invocation)) :=
  [("parse", parseRules, ofParse), ("code", codeRules, ofCode), ("format", formatRules, ofFormat),
   ("batch", batchRules, ofBatch)]

/-- The request of a command, from its name and the words after it. -/
def ofCommand : List Chars → Option Invocation
  | [] => none
  | name :: words =>
    match commands.find? fun c => c.1 == name with
    | none => none
    | some (_, rules, request) =>
      (readAll rules words).bind fun given => unlessHelp given (request given)

/-- The request of a whole command line; `none` if it cannot be understood. Help and version may be
asked for before any command, and what is asked first counts. -/
def ofArguments (words : List Chars) : Option Invocation :=
  match readFront frontRules words .empty with
  | none => none
  | some given =>
    match given.options with
    | (key, _) :: _ => some (if key = helpKey then .help else .version)
    | [] => ofCommand given.arguments

end Invocation

end GeoUrn.Command
