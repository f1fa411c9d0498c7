/-!
Texts as lists of code points, and classes of code points given by ranges. A text is taken apart at
a separator, where `cut` stops at the first and `split` goes on to the last; it is trimmed of the
blanks at its ends; and it is read line by line, with any of the three usual terminators or also with
the separators of pages, records and paragraphs.
-/
namespace GeoUrn

/-- A character, or a surrogate. Surrogates are halves of characters; one that stands alone has no
bytes in UTF-8, but a text may hold it. -/
inductive CodePoint where
  | char (c : Char)
  | surrogate (half : Fin 0x800)
  deriving DecidableEq, Repr

instance : Coe Char CodePoint := ⟨CodePoint.char⟩

namespace CodePoint

def toNat : CodePoint → Nat
  | char c => c.toNat
  | surrogate half => 0xD800 + half

def ofNat (n : Nat) : CodePoint :=
  if h : 0xD800 ≤ n ∧ n < 0xE000 then surrogate ⟨n - 0xD800, by omega⟩ else char (Char.ofNat n)

def isSurrogate : CodePoint → Bool
  | char _ => false
  | surrogate _ => true

instance : LT CodePoint := ⟨fun a b => a.toNat < b.toNat⟩

instance : LE CodePoint := ⟨fun a b => a.toNat ≤ b.toNat⟩

instance (a b : CodePoint) : Decidable (a < b) := inferInstanceAs (Decidable (a.toNat < b.toNat))

instance (a b : CodePoint) : Decidable (a ≤ b) := inferInstanceAs (Decidable (a.toNat ≤ b.toNat))

end CodePoint

/-- Positions in a text count code points. -/
abbrev Text := List CodePoint

/-- A text without surrogates, as bytes in UTF-8 give it. -/
abbrev Chars := List Char

def Text.ofChars (chars : Chars) : Text := chars.map CodePoint.char

instance : Coe Chars Text := ⟨Text.ofChars⟩

instance : Coe String Chars := ⟨String.toList⟩

instance : Coe String Text := ⟨fun s => Text.ofChars s.toList⟩

namespace Text

/-- The code points from `first` to `last`, both included. -/
structure CodeRange where
  first : Nat
  last : Nat
  deriving DecidableEq, Repr

def CodeRange.covers (r : CodeRange) (n : Nat) : Bool := r.first ≤ n && n ≤ r.last

def inRanges (ranges : List CodeRange) (c : CodePoint) : Bool :=
  ranges.any fun r => r.covers c.toNat

theorem inRanges_iff (ranges : List CodeRange) (c : CodePoint) :
    inRanges ranges c = true ↔ ∃ r ∈ ranges, r.first ≤ c.toNat ∧ c.toNat ≤ r.last := by
  simp [inRanges, CodeRange.covers]

section

variable {α : Type} [DecidableEq α]

/-- What stands before the first `sep`, and what follows it if there is one. -/
def cut (sep : α) : List α → List α × Option (List α)
  | [] => ([], none)
  | c :: rest =>
    if c = sep then ([], some rest)
    else ((c :: (cut sep rest).1), (cut sep rest).2)

/-- The components between the separators; there is always at least one. -/
def split (sep : α) : List α → List (List α)
  | [] => [[]]
  | c :: rest =>
    if c = sep then [] :: split sep rest
    else
      match split sep rest with
      | [] => [[c]]
      | piece :: more => (c :: piece) :: more

def join (sep : List α) : List (List α) → List α
  | [] => []
  | [piece] => piece
  | piece :: more => piece ++ sep ++ join sep more

def occursIn (piece : List α) : List α → Bool
  | [] => piece.isEmpty
  | c :: rest => piece.isPrefixOf (c :: rest) || occursIn piece rest

end

/-- White space in the wide sense: the separators of lines, of records and of words (Unicode
14.0). The zero-width space and the byte-order mark are not among them. -/
def blankRanges : List CodeRange :=
  [⟨0x9, 0xD⟩, ⟨0x1C, 0x20⟩, ⟨0x85, 0x85⟩, ⟨0xA0, 0xA0⟩, ⟨0x1680, 0x1680⟩, ⟨0x2000, 0x200A⟩,
   ⟨0x2028, 0x2029⟩, ⟨0x202F, 0x202F⟩, ⟨0x205F, 0x205F⟩, ⟨0x3000, 0x3000⟩]

def isBlank (c : CodePoint) : Bool := inRanges blankRanges c

def trimLeft (text : Text) : Text := text.dropWhile isBlank

def trimRight (text : Text) : Text := (text.reverse.dropWhile isBlank).reverse

/-- The text without the blanks before and after it; blanks inside stay. -/
def trim (text : Text) : Text := trimRight (trimLeft text)

/-- `none` stands for a text that has nothing but blanks. -/
def trimmed? (text : Text) : Option Text :=
  match trim text with
  | [] => none
  | c :: rest => some (c :: rest)

/-- The text with each line end, LF, CR LF or CR alone, written as one LF. -/
def unifyLineEnds : Text → Text
  | [] => []
  | '\r' :: '\n' :: rest => '\n' :: unifyLineEnds rest
  | c :: rest => (if c = '\r' then '\n' else c) :: unifyLineEnds rest

/-- The pieces that end at a character of the class, without these ends. What follows the last
end is a piece only if it is not empty. -/
def piecesAt (isEnd : CodePoint → Bool) : Text → List Text
  | [] => []
  | c :: rest =>
    if isEnd c then [] :: piecesAt isEnd rest
    else
      match piecesAt isEnd rest with
      | [] => [[c]]
      | piece :: more => (c :: piece) :: more

def lines (text : Text) : List Text := piecesAt (· = '\n') (unifyLineEnds text)

/-- Line ends in the wide sense, once line feeds stand for all the usual terminators. -/
def isWideLineEnd (c : CodePoint) : Bool :=
  c = '\n' || c = '\x0B' || c = '\x0C' || c = '\x1C' || c = '\x1D' || c = '\x1E' ||
    c = '\u0085' || c = '\u2028' || c = '\u2029'

/-- The lines of a text whose pages, records and paragraphs end lines too. -/
def wideLines (text : Text) : List Text := piecesAt isWideLineEnd (unifyLineEnds text)

/-- The text without the carriage returns and line feeds at its end. -/
def chomp (text : Text) : Text :=
  (text.reverse.dropWhile fun c : CodePoint => c = '\r' || c = '\n').reverse

end Text

end GeoUrn
