import GeoUrn.Proofs.FileReading
import GeoUrn.Proofs.KeptLines
import GeoUrn.Proofs.Utf8RoundTrip

/-!
Files whose lines end in different ways. A file is laid out from its lines: each is followed by one
of three terminators, which may be missing after the last line. However this is done, and whether a
byte-order mark comes first or not, the file is read as these lines.
-/
namespace GeoUrn

open CodePoint (char)

namespace Text

/-- How a line ends: with a line feed, with a carriage return, or with both. -/
inductive LineEnd where
  | feed
  | returnFeed
  | carriage
  deriving DecidableEq, Repr

def LineEnd.text : LineEnd → Text
  | .feed => ['\n']
  | .returnFeed => ['\r', '\n']
  | .carriage => ['\r']

def withEnds (ended : List (Text × LineEnd)) : Text :=
  ended.flatMap fun line => line.1 ++ line.2.text

@[simp] theorem withEnds_nil : withEnds [] = [] := rfl

@[simp] theorem withEnds_cons (line : Text × LineEnd) (more : List (Text × LineEnd)) :
    withEnds (line :: more) = line.1 ++ (line.2.text ++ withEnds more) :=
  List.append_assoc line.1 line.2.text (withEnds more)

/-- A text that can stand on one line. Separators of pages, records and paragraphs do not end it. -/
def IsUnbroken (text : Text) : Prop := char '\r' ∉ text ∧ char '\n' ∉ text

instance (text : Text) : Decidable (IsUnbroken text) := inferInstanceAs (Decidable (_ ∧ _))

/-- Lines with their terminators, and what stands after the last terminator, as UTF-8 can hold them.
A line feed for an empty line does not come after a carriage return for the line before: the two
would be one terminator. -/
structure Layout where
  ended : List (Text × LineEnd)
  last : Text
  unbroken : ∀ line ∈ ended, IsUnbroken line.1
  last_unbroken : IsUnbroken last
  encodable : Encodable (withEnds ended ++ last)
  apart : ended.IsChain fun line next => line.2 = .carriage → next ≠ ([], .feed)

namespace Layout

def text (layout : Layout) : Text := withEnds layout.ended ++ layout.last

/-- The lines that are laid out. After the last terminator there is one more unless nothing stands
there. -/
def lines (layout : Layout) : List Text :=
  layout.ended.map Prod.fst ++ if layout.last = [] then [] else [layout.last]

theorem encodable_text (layout : Layout) : Encodable layout.text := layout.encodable

end Layout

variable {line last rest : Text} {ended : List (Text × LineEnd)}

theorem unifyLineEnds_append (h : char '\r' ∉ line) (rest : Text) :
    unifyLineEnds (line ++ rest) = line ++ unifyLineEnds rest := by
  induction line with
  | nil => rfl
  | cons c line ih =>
    obtain ⟨hc, hline⟩ := not_or.mp (mt List.mem_cons.mpr h)
    rw [List.cons_append, unifyLineEnds, if_neg (Ne.symm hc), ih hline, List.cons_append]
    rintro _ rfl -
    exact hc rfl

/-- Each terminator becomes one line feed, unless a line feed after it belongs to it. -/
theorem unifyLineEnds_lineEnd {ending : LineEnd}
    (h : ending = .carriage → rest.head? ≠ some (char '\n')) :
    unifyLineEnds (ending.text ++ rest) = char '\n' :: unifyLineEnds rest := by
  cases ending with
  | feed => rfl
  | returnFeed => rfl
  | carriage =>
    rw [LineEnd.text, List.singleton_append, unifyLineEnds, if_pos rfl]
    rintro more - rfl
    exact h rfl rfl

theorem head?_withEnds (hended : ∀ line ∈ ended, IsUnbroken line.1) (hlast : IsUnbroken last)
    (h : ∀ line ∈ ended.head?, line ≠ ([], .feed)) :
    (withEnds ended ++ last).head? ≠ some (char '\n') := by
  cases ended with
  | nil => exact fun hhead => hlast.2 (List.mem_of_mem_head? hhead)
  | cons line more =>
    obtain ⟨_ | ⟨c, text⟩, ending⟩ := line
    · cases ending with
      | feed => exact absurd rfl (h _ rfl)
      | returnFeed => simp [LineEnd.text]
      | carriage => simp [LineEnd.text]
    · rintro ⟨⟩
      exact (hended _ List.mem_cons_self).2 List.mem_cons_self

/-- In a layout each terminator becomes one line feed. -/
theorem unifyLineEnds_withEnds (hended : ∀ line ∈ ended, IsUnbroken line.1)
    (hlast : IsUnbroken last)
    (hapart : ended.IsChain fun line next => line.2 = .carriage → next ≠ ([], .feed)) :
    unifyLineEnds (withEnds ended ++ last) =
      ended.flatMap (fun line => line.1 ++ [char '\n']) ++ last := by
  induction ended with
  | nil => simpa [unifyLineEnds] using unifyLineEnds_append hlast.1 []
  | cons line more ih =>
    obtain ⟨hline, hmore⟩ := List.forall_mem_cons.mp hended
    obtain ⟨hnext, hchain⟩ := List.isChain_cons.mp hapart
    have hhead : line.2 = .carriage → (withEnds more ++ last).head? ≠ some (char '\n') :=
      fun hending => head?_withEnds hmore hlast fun next hn => hnext next hn hending
    rw [withEnds_cons, List.append_assoc, List.append_assoc, unifyLineEnds_append hline.1,
      unifyLineEnds_lineEnd hhead, ih hmore hchain]
    simp

theorem piecesAt_append {e : CodePoint} (h : e ∉ line) (rest : Text) :
    piecesAt (· = e) (line ++ e :: rest) = line :: piecesAt (· = e) rest := by
  induction line with
  | nil => simp [piecesAt]
  | cons c line ih =>
    obtain ⟨hc, hline⟩ := not_or.mp (mt List.mem_cons.mpr h)
    rw [List.cons_append, piecesAt, if_neg (by simpa using Ne.symm hc), ih hline]

theorem piecesAt_of_not_mem {e : CodePoint} (h : e ∉ last) :
    piecesAt (· = e) last = if last = [] then [] else [last] := by
  induction last with
  | nil => rfl
  | cons c rest ih =>
    obtain ⟨hc, hrest⟩ := not_or.mp (mt List.mem_cons.mpr h)
    rw [piecesAt, if_neg (by simpa using Ne.symm hc), ih hrest, if_neg (List.cons_ne_nil c rest)]
    cases rest <;> rfl

theorem piecesAt_layout (hended : ∀ line ∈ ended, IsUnbroken line.1) (hlast : IsUnbroken last) :
    piecesAt (· = '\n') (ended.flatMap (fun line => line.1 ++ [char '\n']) ++ last) =
      ended.map Prod.fst ++ if last = [] then [] else [last] := by
  induction ended with
  | nil => exact piecesAt_of_not_mem hlast.2
  | cons line more ih =>
    obtain ⟨hline, hmore⟩ := List.forall_mem_cons.mp hended
    rw [List.flatMap_cons, List.append_assoc, List.append_assoc, List.singleton_append,
      piecesAt_append hline.2, ih hmore]
    rfl

/-- The lines that are laid out are those that are read. -/
theorem lines_text (layout : Layout) : Text.lines layout.text = layout.lines := by
  rw [Text.lines, Layout.text,
    unifyLineEnds_withEnds layout.unbroken layout.last_unbroken layout.apart,
    piecesAt_layout layout.unbroken layout.last_unbroken]
  rfl

/-- No character is written as the beginning of another. -/
theorem encodePoint_prefix_eq {c d : Char} (h : encodePoint c <+: encodePoint d) : c = d := by
  obtain ⟨rest, he⟩ := h
  have hd := decodeFrom_encodePoint 0 d []
  rw [List.append_nil, ← he, decodeFrom_encodePoint] at hd
  cases hr : decodeFrom (0 + (encodePoint c).length) none rest with
  | error flaw =>
    rw [hr] at hd
    cases hd
  | ok read =>
    rw [hr] at hd
    exact CodePoint.char.inj (List.cons.inj (Prod.mk.inj (Except.ok.inj hd)).1).1

end Text

namespace Reading

open Text

/-- The byte-order mark is the UTF-8 form of one character. -/
def markChar : Char := '\uFEFF'

theorem byteOrderMark_eq : byteOrderMark = encodePoint markChar := by decide

/-- A text as the bytes of a file, with a byte-order mark before it or without one. -/
def fileBytes (marked : Bool) (text : Text) : Bytes :=
  (if marked then byteOrderMark else []) ++ encodeUtf8 text

theorem contents_mark_append (bytes : Bytes) : contents (byteOrderMark ++ bytes) = bytes := by
  rw [contents]
  split_ifs with h
  · have hle := h.length_le
    rw [List.length_append] at hle
    exact (List.eq_nil_of_length_eq_zero (by omega)).symm
  · rw [withoutMark, if_pos (by simp), List.drop_left]

theorem contents_encodeUtf8 {text : Text} (he : Encodable text)
    (h : text.head? ≠ some (char markChar)) :
    contents (encodeUtf8 text) = encodeUtf8 text := by
  match text with
  | [] => rfl
  | .surrogate half :: rest => cases (encodable_cons.mp he).1
  | .char c :: rest =>
    have hc : c ≠ markChar := fun he => h (congrArg (some ∘ char) he)
    have hfirst : encodePoint c <+: encodeUtf8 (char c :: rest) := List.prefix_append _ _
    have hinside : ¬ encodeUtf8 (char c :: rest) <+: byteOrderMark := by
      rw [byteOrderMark_eq]
      exact fun hp => hc (encodePoint_prefix_eq (hfirst.trans hp))
    have hmark : ¬ byteOrderMark <+: encodeUtf8 (char c :: rest) := by
      rw [byteOrderMark_eq]
      intro hp
      rcases List.prefix_or_prefix_of_prefix hfirst hp with hle | hle
      · exact hc (encodePoint_prefix_eq hle)
      · exact hc (encodePoint_prefix_eq hle).symm
    rw [contents, if_neg hinside, withoutMark, if_neg (mt List.isPrefixOf_iff_prefix.mp hmark)]

/-- One byte-order mark is dropped, and no more. -/
theorem ofBytes_fileBytes {marked : Bool} {text : Text} (he : Encodable text)
    (h : marked = true ∨ text.head? ≠ some (char markChar)) :
    ofBytes (fileBytes marked text) = ⟨text, none⟩ := by
  rw [ofBytes_eq_iff]
  cases marked with
  | true => rw [fileBytes, if_pos rfl, contents_mark_append, decodeUtf8_encodeUtf8 he]
  | false =>
    have hhead : text.head? ≠ some (char markChar) := h.resolve_left Bool.false_ne_true
    rw [fileBytes, if_neg Bool.false_ne_true, List.nil_append, contents_encodeUtf8 he hhead,
      decodeUtf8_encodeUtf8 he]

end Reading

namespace Batch

open Audit (Logger)
open Reading (markChar fileBytes)
open Text (Layout LineEnd)

/-- However the lines of a file end, with or without a byte-order mark before them, reading the file
is reading these lines: rows, faults and log are the same. -/
theorem parseFile_layout (config : Config) (logger : Option Logger) (name : Chars) (site : Site)
    (layout : Layout) (marked : Bool)
    (hmark : marked = true ∨ layout.text.head? ≠ some (char markChar))
    (hfile : site.files.read (Path.ofText name) = .ok (fileBytes marked layout.text)) :
    parseFile config logger name site = parseLines config logger layout.lines site := by
  rw [parseFile_of_read hfile, Reading.ofBytes_fileBytes layout.encodable_text hmark, parseReading,
    Reading.lines, Text.lines_text]

/-- The terminators of all three kinds, an empty line, a paragraph separator within a line, and a
second mark after the first. -/
def mixedLayout : Layout where
  ended := [(['\uFEFF', 'a'], .carriage), ([], .returnFeed), (['b', '\u2029', 'c'], .feed)]
  last := ['d']
  unbroken := by decide
  last_unbroken := by decide
  encodable := by decide
  apart := by decide

def mixedFiles : FileTree :=
  ⟨[['/'], ['w']],
    [([['/'], ['w'], ['i']], .file (fileBytes true mixedLayout.text)),
     ([['/'], ['w'], ['l']], .file [])]⟩

theorem parseFile_layout_of_mixed_layout :
    mixedFiles.read (Path.ofText ['i']) = .ok (fileBytes true mixedLayout.text) ∧
    parseFile .standard (some freshLog.1) ['i'] { freshLog.2 with files := mixedFiles } =
      parseLines .standard (some freshLog.1) [['\uFEFF', 'a'], [], ['b', '\u2029', 'c'], ['d']]
        { freshLog.2 with files := mixedFiles } :=
  have hfile : mixedFiles.read (Path.ofText ['i']) = .ok (fileBytes true mixedLayout.text) := rfl
  ⟨hfile, parseFile_layout .standard (some freshLog.1) ['i'] { freshLog.2 with files := mixedFiles }
    mixedLayout true (Or.inl rfl) hfile⟩

end Batch

end GeoUrn
