import GeoUrn.Text.Basic

/-!
Options on a command line. They may stand before, between and after the arguments: `--word value`,
`--word=value`, `-l value` or `-lvalue`, and flags may be joined with one more option. Two dashes
alone end the options. A value may begin with a dash.
-/
namespace GeoUrn.Command

/-- An option by its key, its word, its letter if it has one, and whether a value follows. -/
structure OptionRule where
  key : Chars
  word : Chars
  letter : Option Char
  takesValue : Bool
  deriving DecidableEq, Repr

/-- What was given: options by their keys, with an empty value for a flag, and arguments. -/
structure Given where
  options : List (Chars × Chars)
  arguments : List Chars
  deriving DecidableEq, Repr

namespace Given

def empty : Given := ⟨[], []⟩

def addOption (g : Given) (key value : Chars) : Given :=
  { g with options := g.options ++ [(key, value)] }

def addArguments (g : Given) (words : List Chars) : Given :=
  { g with arguments := g.arguments ++ words }

def has (g : Given) (key : Chars) : Bool := g.options.any fun o => o.1 == key

/-- The value of an option; if it was repeated, the last one. -/
def value? (g : Given) (key : Chars) : Option Chars :=
  (g.options.reverse.find? fun o => o.1 == key).map Prod.snd

end Given

/-- The options that a word gives, and the key of the one whose value is the next word. -/
structure WordOptions where
  options : List (Chars × Chars)
  awaiting : Option Chars
  deriving DecidableEq, Repr

/-- The letters after a single dash. After the letter of an option with a value, the other letters
are this value. -/
def readLetters (rules : List OptionRule) : Chars → Option WordOptions
  | [] => some ⟨[], none⟩
  | c :: more =>
    match rules.find? fun r => r.letter == some c with
    | none => none
    | some rule =>
      if rule.takesValue then
        match more with
        | [] => some ⟨[], some rule.key⟩
        | d :: value => some ⟨[(rule.key, d :: value)], none⟩
      else
        (readLetters rules more).map fun w => { w with options := (rule.key, []) :: w.options }

/-- A word after two dashes, with its value after an equals sign if there is one. A flag takes no
value. -/
def readLong (rules : List OptionRule) (body : Chars) : Option WordOptions :=
  let (word, value) := Text.cut '=' body
  match rules.find? fun r => r.word == word with
  | none => none
  | some rule =>
    match value with
    | some value => if rule.takesValue then some ⟨[(rule.key, value)], none⟩ else none
    | none => if rule.takesValue then some ⟨[], some rule.key⟩ else some ⟨[(rule.key, [])], none⟩

/-- How a word on the command line is taken: as the end of the options, as options, or as an
argument. A single dash is an argument. -/
inductive WordKind where
  | endOfOptions
  | long (body : Chars)
  | letters (body : Chars)
  | argument
  deriving DecidableEq, Repr

def WordKind.of : Chars → WordKind
  | ['-', '-'] => .endOfOptions
  | '-' :: '-' :: body => .long body
  | '-' :: c :: body => .letters (c :: body)
  | _ => .argument

def readOptions (rules : List OptionRule) : WordKind → Option WordOptions
  | .long body => readLong rules body
  | .letters body => readLetters rules body
  | .endOfOptions => none
  | .argument => none

/-- Reads the words from left to right. `awaiting` is the option that takes the next word as its
value, whatever it looks like. -/
def readWords (rules : List OptionRule) : Option Chars → List Chars → Given → Option Given
  | none, [], given => some given
  | some _, [], _ => none
  | some key, word :: rest, given => readWords rules none rest (given.addOption key word)
  | none, word :: rest, given =>
    match WordKind.of word with
    | .endOfOptions => some (given.addArguments rest)
    | .argument => readWords rules none rest (given.addArguments [word])
    | kind =>
      match readOptions rules kind with
      | none => none
      | some found =>
        readWords rules found.awaiting rest { given with options := given.options ++ found.options }

/-- What the words of a command line give, or `none` if they do not follow the rules. -/
def readAll (rules : List OptionRule) (words : List Chars) : Option Given :=
  readWords rules none words .empty

/-- Reads options only as far as they stand in front, and answers them with the words from the
first argument on. The rules are those of flags. -/
def readFront (rules : List OptionRule) : List Chars → Given → Option Given
  | [], given => some given
  | word :: rest, given =>
    match WordKind.of word with
    | .endOfOptions => some (given.addArguments rest)
    | .argument => some (given.addArguments (word :: rest))
    | kind =>
      match readOptions rules kind with
      | none => none
      | some found => readFront rules rest { given with options := given.options ++ found.options }

end GeoUrn.Command
