import GeoUrn.Json.Value
import GeoUrn.Text.Quoted
import GeoUrn.Text.Span
import GeoUrn.Text.Utf8

/-!
What can go wrong, by cause, with the class name and the message under which it is reported.
-/
namespace GeoUrn

inductive Fault where
  /-- A text was required and nothing was given. -/
  | missingArgument (name : Text)
  /-- A text was required and a value of another kind was given. -/
  | wrongArgument (name kind : Text)
  /-- A registry entry without a type or without a path. -/
  | emptyEntry (type path : Text)
  /-- The entries of a registry cannot be set one by one. -/
  | fixedEntries
  /-- A field of a registry cannot be replaced. -/
  | fixedField (name : Text)
  /-- A comment mark that would make every blank line a comment. -/
  | blankCommentMark
  | notARegistry (kind : Text)
  /-- A character outside a text was asked for. -/
  | outsideText
  /-- A log level that is none of the known ones, as it is shown. -/
  | unknownLevel (shown : Text) (known : List Text)
  | closedLog
  /-- The file to be read is not there. -/
  | fileNotFound (path : Text)
  /-- A part of a path is not there. -/
  | noEntry (path : Text)
  | alreadyExists (path : Text)
  | notDirectory (path : Text)
  | isDirectory (path : Text)
  /-- A path, or a name in it, has more bytes than are allowed. -/
  | nameTooLong (path : Text)
  /-- A path has the character zero in it. -/
  | zeroCharacter
  /-- The bytes of a file are not UTF-8. -/
  | notUtf8 (flaw : Text.Utf8Flaw)
  /-- A text that is to be written has surrogates. -/
  | notEncodable (flaw : Text.SurrogateFlaw)
  deriving DecidableEq, Repr

namespace Fault

def ofSpan : Text.SpanFault → Fault
  | .outside => .outsideText

def className : Fault → Text
  | .missingArgument _ | .wrongArgument _ _ => "ArgumentError"
  | .emptyEntry _ _ | .blankCommentMark | .notARegistry _ | .unknownLevel _ _ | .closedLog
  | .zeroCharacter => "ValueError"
  | .fixedEntries => "TypeError"
  | .fixedField _ => "FrozenInstanceError"
  | .outsideText => "IndexError"
  | .fileNotFound _ | .noEntry _ => "FileNotFoundError"
  | .alreadyExists _ => "FileExistsError"
  | .notDirectory _ => "NotADirectoryError"
  | .isDirectory _ => "IsADirectoryError"
  | .nameTooLong _ => "OSError"
  | .notUtf8 _ => "UnicodeDecodeError"
  | .notEncodable _ => "UnicodeEncodeError"

def argument? : Fault → Option Text
  | .missingArgument name | .wrongArgument name _ => some name
  | _ => none

/-- A fault of the operating system: its number, its description and the path. -/
def systemMessage (number : Nat) (description path : Text) : Text :=
  "[Errno " ++ Decimal.ofNat number ++ "] " ++ description ++ ": " ++
    Text.quoted path

end Fault

def Text.Utf8Cause.message : Text.Utf8Cause → Text
  | .invalidStart => "invalid start byte"
  | .invalidContinuation => "invalid continuation byte"
  | .unexpectedEnd => "unexpected end of data"

/-- Names the byte if the refused sequence has just one, else the places of the first and the
last. -/
def Text.Utf8Flaw.message (flaw : Text.Utf8Flaw) : Text :=
  let place :=
    match flaw.sequence with
    | [b] =>
      "byte 0x" ++ Decimal.hex 2 b.toNat ++ " in position " ++
        Decimal.ofNat flaw.position
    | bytes =>
      "bytes in position " ++ Decimal.ofNat flaw.position ++ "-" ++
        Decimal.ofNat (flaw.position + bytes.length - 1)
  "'utf-8' codec can't decode " ++ place ++ ": " ++ flaw.cause.message

/-- Shows the surrogate if there is just one in a row, else the places of the first and the last. -/
def Text.SurrogateFlaw.message (flaw : Text.SurrogateFlaw) : Text :=
  let place :=
    match flaw.run with
    | [c] => "character '\\u" ++ Decimal.hex 4 c.toNat ++ "' in position " ++
        Decimal.ofNat flaw.position
    | run => "characters in position " ++ Decimal.ofNat flaw.position ++ "-" ++
        Decimal.ofNat (flaw.position + run.length - 1)
  "'utf-8' codec can't encode " ++ place ++ ": surrogates not allowed"

def Fault.message : Fault → Text
  | .missingArgument name => "Argument '" ++ name ++ "' must not be None"
  | .wrongArgument name kind =>
    "Argument '" ++ name ++ "' must be a str, got " ++ kind
  | .emptyEntry type path =>
    "Registry entries must be non-empty, got " ++ Text.quoted type ++ ": " ++
      Text.quoted path
  | .fixedEntries => "'mappingproxy' object does not support item assignment"
  | .fixedField name => "cannot assign to field " ++ Text.quoted name
  | .blankCommentMark => "comment_prefix must be None or a non-blank string"
  | .notARegistry kind => "registry must be a PathRegistry, got " ++ kind
  | .outsideText => "string index out of range"
  | .unknownLevel shown known =>
    "Unknown log level " ++ shown ++ ", expected one of (" ++
      Text.join ([',', ' '] : Text) (known.map Text.quoted) ++ ")"
  | .closedLog => "I/O operation on closed file."
  | .fileNotFound path => "File not found: " ++ path
  | .noEntry path => systemMessage 2 "No such file or directory" path
  | .alreadyExists path => systemMessage 17 "File exists" path
  | .notDirectory path => systemMessage 20 "Not a directory" path
  | .isDirectory path => systemMessage 21 "Is a directory" path
  | .nameTooLong path => systemMessage 36 "File name too long" path
  | .zeroCharacter => "embedded null byte"
  | .notUtf8 flaw => flaw.message
  | .notEncodable flaw => flaw.message

/-- The text that an argument holds; a value of any other kind is refused. -/
def Argument.requireText (name : Text) : Json.Value → Except Fault Text
  | .text t => .ok t
  | .null => .error (.missingArgument name)
  | other => .error (.wrongArgument name other.kindName)

end GeoUrn
