import GeoUrn.Json.Value

/-!
Reading JSON text. Each step answers what it read and the text that is left, or the cause of a
failure and the text from the place of the failure on. `read` is the whole of it, and reads every
text that the printers write.
-/
namespace GeoUrn.Json

inductive ReadCause where
  | byteOrderMark
  | noValue
  | noName
  | noColon
  | noComma
  | unterminated
  | controlCharacter
  | badEscape
  | badUnicodeEscape
  | extraText
  | tooDeep
  deriving DecidableEq, Repr

structure ReadFault where
  cause : ReadCause
  left : Text
  deriving DecidableEq, Repr

abbrev Step (α : Type) := Except ReadFault (α × Text)

def isJsonBlank (c : CodePoint) : Bool := c = ' ' || c = '\t' || c = '\n' || c = '\r'

def skipBlanks (text : Text) : Text := text.dropWhile isJsonBlank

def readUnit : Text → Option (Nat × Text)
  | a :: b :: c :: d :: rest =>
    match Decimal.hexDigit? a, Decimal.hexDigit? b, Decimal.hexDigit? c, Decimal.hexDigit? d with
    | some p, some q, some r, some s => some (((p * 16 + q) * 16 + r) * 16 + s, rest)
    | _, _, _, _ => none
  | _ => none

/-- Joins the two halves of a character above 0xFFFF. A half that stands alone stays what it is. -/
def readUnicode (text : Text) : Option (CodePoint × Text) :=
  match readUnit text with
  | none => none
  | some (n, rest) =>
    if n < 0xD800 || 0xDFFF < n then some (.ofNat n, rest)
    else
      match rest with
      | '\\' :: 'u' :: more =>
        match readUnit more with
        | some (m, rest') =>
          if n < 0xDC00 && 0xDC00 ≤ m && m ≤ 0xDFFF then
            some (.ofNat (0x10000 + (n - 0xD800) * 0x400 + (m - 0xDC00)), rest')
          else some (.ofNat n, rest)
        | none => some (.ofNat n, rest)
      | _ => some (.ofNat n, rest)

def simpleEscape? (c : CodePoint) : Option CodePoint :=
  if c = '"' || c = '\\' || c = '/' then some c
  else if c = 'n' then some '\n'
  else if c = 'r' then some '\r'
  else if c = 't' then some '\t'
  else if c = 'b' then some '\x08'
  else if c = 'f' then some '\x0C'
  else none

/-- Reads the rest of a string up to its closing quote. `start` is the text from the opening quote
on, for a string that is never closed. -/
def readString (start : Text) : Nat → Text → Step Text
  | 0, _ => .error ⟨.unterminated, start⟩
  | _ + 1, [] => .error ⟨.unterminated, start⟩
  | fuel + 1, c :: rest =>
    if c = '"' then .ok ([], rest)
    else if c = '\\' then
      match rest with
      | [] => .error ⟨.unterminated, start⟩
      | e :: rest' =>
        if e = 'u' then
          match readUnicode rest' with
          | none => .error ⟨.badUnicodeEscape, rest⟩
          | some (d, more) => (readString start fuel more).map fun r => (d :: r.1, r.2)
        else
          match simpleEscape? e with
          | none => .error ⟨.badEscape, c :: rest⟩
          | some d => (readString start fuel rest').map fun r => (d :: r.1, r.2)
    else if c.toNat < 0x20 then .error ⟨.controlCharacter, c :: rest⟩
    else (readString start fuel rest).map fun r => (c :: r.1, r.2)

def readFraction : Text → Text × Text
  | '.' :: rest =>
    match rest.takeWhile Decimal.isDigit with
    | [] => ([], '.' :: rest)
    | d :: ds => (d :: ds, rest.dropWhile Decimal.isDigit)
  | text => ([], text)

def readExponent : Text → Option Int × Text
  | [] => (none, [])
  | c :: rest =>
    if c = 'e' || c = 'E' then
      let (negative, digits) :=
        match rest with
        | '-' :: more => (true, more)
        | '+' :: more => (false, more)
        | more => (false, more)
      match digits.takeWhile Decimal.isDigit with
      | [] => (none, c :: rest)
      | d :: ds =>
        let n : Int := Decimal.value (d :: ds)
        (some (if negative then -n else n), digits.dropWhile Decimal.isDigit)
    else (none, c :: rest)

/-- The digits of a whole number: a zero alone, or a run that does not begin with one. -/
def readWhole : Text → Option (Text × Text)
  | [] => none
  | c :: rest =>
    if c = '0' then some (['0'], rest)
    else if Decimal.isDigit c then
      some (c :: rest.takeWhile Decimal.isDigit, rest.dropWhile Decimal.isDigit)
    else none

/-- A number without a sign of its own; with a point or an exponent it is a floating-point one. -/
def readNumber (negative : Bool) (text : Text) : Option (Number × Text) :=
  match readWhole text with
  | none => none
  | some (whole, rest) =>
    let (fraction, rest) := readFraction rest
    let (exponent, rest) := readExponent rest
    match fraction, exponent with
    | [], none =>
      let n : Int := Decimal.value whole
      some (.whole (if negative then -n else n), rest)
    | _, _ =>
      let scale : Int := exponent.getD 0 - fraction.length
      some (.float (.ofDecimal negative (Decimal.value (whole ++ fraction)) scale), rest)

def words : List (Text × Value) :=
  [(['n', 'u', 'l', 'l'], .null), (['t', 'r', 'u', 'e'], .bool true),
   (['f', 'a', 'l', 's', 'e'], .bool false), (['N', 'a', 'N'], .number (.float .undefined)),
   (['I', 'n', 'f', 'i', 'n', 'i', 't', 'y'], .number (.float (.infinite false))),
   (['-', 'I', 'n', 'f', 'i', 'n', 'i', 't', 'y'], .number (.float (.infinite true)))]

def readWord (text : Text) : Option (Value × Text) :=
  (words.find? fun w => w.1.isPrefixOf text).map fun w => (w.2, text.drop w.1.length)

def readScalar (text : Text) : Step Value :=
  match readWord text with
  | some read => .ok read
  | none =>
    let number :=
      match text with
      | '-' :: rest => readNumber true rest
      | rest => readNumber false rest
    match number with
    | some (n, rest) => .ok (.number n, rest)
    | none => .error ⟨.noValue, text⟩

mutual

def readValue : Nat → Text → Step Value
  | 0, text => .error ⟨.tooDeep, text⟩
  | fuel + 1, text =>
    match text with
    | '"' :: rest =>
      (readString text (rest.length + 1) rest).map fun r => (.text r.1, r.2)
    | '[' :: rest =>
      match skipBlanks rest with
      | ']' :: more => .ok (.array [], more)
      | first => (readElements fuel first).map fun r => (.array r.1, r.2)
    | '\x7b' :: rest =>
      match skipBlanks rest with
      | '\x7d' :: more => .ok (.object [], more)
      | first => (readMembers fuel first).map fun r => (.object r.1, r.2)
    | _ => readScalar text

def readElements : Nat → Text → Step (List Value)
  | 0, text => .error ⟨.tooDeep, text⟩
  | fuel + 1, text =>
    match readValue fuel text with
    | .error fault => .error fault
    | .ok (v, rest) =>
      match skipBlanks rest with
      | ']' :: more => .ok ([v], more)
      | ',' :: more => (readElements fuel (skipBlanks more)).map fun r => (v :: r.1, r.2)
      | other => .error ⟨.noComma, other⟩

def readMembers : Nat → Text → Step (List (Text × Value))
  | 0, text => .error ⟨.tooDeep, text⟩
  | fuel + 1, text =>
    match text with
    | '"' :: start =>
      match readString text (start.length + 1) start with
      | .error fault => .error fault
      | .ok (name, rest) =>
        match skipBlanks rest with
        | ':' :: more =>
          match readValue fuel (skipBlanks more) with
          | .error fault => .error fault
          | .ok (v, rest) =>
            match skipBlanks rest with
            | '\x7d' :: more => .ok ([(name, v)], more)
            | ',' :: more =>
              (readMembers fuel (skipBlanks more)).map fun r => ((name, v) :: r.1, r.2)
            | other => .error ⟨.noComma, other⟩
        | other => .error ⟨.noColon, other⟩
    | _ => .error ⟨.noName, text⟩

end

/-- Reads a text that holds one value and blanks. Each step takes at least one character, so the
length of the text bounds their number. -/
def read (text : Text) : Except ReadFault Value :=
  match text with
  | '\uFEFF' :: _ => .error ⟨.byteOrderMark, text⟩
  | _ =>
    match readValue (2 * text.length + 2) (skipBlanks text) with
    | .error fault => .error fault
    | .ok (v, rest) =>
      match skipBlanks rest with
      | [] => .ok v
      | extra => .error ⟨.extraText, extra⟩

def ReadCause.message : ReadCause → Text
  | .byteOrderMark => "Unexpected UTF-8 BOM (decode using utf-8-sig)"
  | .noValue => "Expecting value"
  | .noName => "Expecting property name enclosed in double quotes"
  | .noColon => "Expecting ':' delimiter"
  | .noComma => "Expecting ',' delimiter"
  | .unterminated => "Unterminated string starting at"
  | .controlCharacter => "Invalid control character at"
  | .badEscape => "Invalid \\escape"
  | .badUnicodeEscape => "Invalid \\uXXXX escape"
  | .extraText => "Extra data"
  | .tooDeep => "Too many levels"

/-- The message of a failure in `text`: its cause, and its place by line, column and offset. -/
def ReadFault.message (text : Text) (fault : ReadFault) : Text :=
  let offset := text.length - fault.left.length
  let before := text.take offset
  let line := before.count (CodePoint.char '\n') + 1
  let column := (before.reverse.takeWhile (· ≠ CodePoint.char '\n')).length + 1
  fault.cause.message ++ ": line " ++ Decimal.ofNat line ++ " column " ++
    Decimal.ofNat column ++ " (char " ++ Decimal.ofNat offset ++ ")"

end GeoUrn.Json
