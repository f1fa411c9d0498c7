import GeoUrn.Fault

/-!
What a command leaves: its exit code and what it printed. Nothing is printed to a terminal here, so
the escape sequences that would set colours are left out.
-/
namespace GeoUrn.Command

open CodePoint (char)

def escapeChar : CodePoint := '\x1b'

/-- Characters that may stand between the bracket and the letter of a sequence. -/
def isSequencePart (c : CodePoint) : Bool := c = ';' || c = '?' || ('0' ≤ c && c ≤ '9')

def isAsciiLetter (c : CodePoint) : Bool := ('a' ≤ c && c ≤ 'z') || ('A' ≤ c && c ≤ 'Z')

/-- The text without escape sequences. `held` is what may be the beginning of one; it is kept if
the sequence is not completed. -/
def plainAfter (held : Text) : Text → Text
  | [] => held
  | c :: rest =>
    if c = escapeChar then held ++ plainAfter [c] rest
    else
      match held with
      | [] => c :: plainAfter [] rest
      | [e] => if c = '[' then plainAfter [e, c] rest else e :: c :: plainAfter [] rest
      | _ =>
        if isSequencePart c then plainAfter (held ++ [c]) rest
        else if isAsciiLetter c then plainAfter [] rest
        else held ++ c :: plainAfter [] rest

def plain (text : Text) : Text := plainAfter [] text

/-- The exit code, both outputs, and the fault with which the command broke off if it did not
handle it. -/
structure Report where
  exitCode : Nat
  stdout : Text
  stderr : Text
  escaped : Option Fault
  deriving DecidableEq, Repr

namespace Report

def printed (lines : List Text) : Text := lines.flatMap fun line => plain line ++ [char '\n']

def success (lines : List Text) : Report := ⟨0, printed lines, [], none⟩

/-- The exit code of a command whose identifier is not recognized. It differs from that of a
command line that is not understood. -/
def noMatchCode : Nat := 3

def noMatch (message : Text) : Report := ⟨noMatchCode, [], printed [message], none⟩

end Report

/-- What a run of the program comes to. A command line that is not understood has its own exit
code and nothing else. -/
inductive Outcome where
  | misused
  | ended (report : Report)
  deriving DecidableEq, Repr

def misuseCode : Nat := 2

def Outcome.exitCode : Outcome → Nat
  | .misused => misuseCode
  | .ended report => report.exitCode

end GeoUrn.Command
