import GeoUrn.Proofs.RowRecords

/-!
Comments. The mark of a comment is looked for after the blanks at both ends of a line are dropped.
This is the same as to look for it after the blanks in front alone, unless the mark itself ends in a
blank: such a mark is not found where it reaches into the blanks at the end of the line.
-/
namespace GeoUrn.Text

variable {mark text : Text}

/-- What does not end in a blank stays as it is when the blanks behind it are dropped. -/
theorem prefix_trimRight_iff (h : ∀ c ∈ mark.getLast?, isBlank c = false) :
    mark <+: trimRight text ↔ mark <+: text := by
  refine ⟨fun hm => hm.trans (prefix_trimRight text), ?_⟩
  rintro ⟨rest, rfl⟩
  have hself : mark.reverse.dropWhile isBlank = mark.reverse := by
    simpa [trimRight] using congrArg List.reverse (trimRight_eq_self_iff.mpr h)
  rw [trimRight, List.reverse_append, List.dropWhile_append]
  split_ifs
  · rw [hself, List.reverse_reverse]
  · rw [List.reverse_append, List.reverse_reverse]
    exact List.prefix_append _ _

/-- The two ways of dropping blanks differ only for what is longer than the text between them. -/
theorem prefix_trim_iff :
    mark <+: trim text ↔ mark <+: trimLeft text ∧ mark.length ≤ (trim text).length := by
  have htrim : trim text <+: trimLeft text := prefix_trimRight (trimLeft text)
  constructor
  · intro hm
    exact ⟨hm.trans htrim, hm.length_le⟩
  · rintro ⟨hm, hle⟩
    exact List.prefix_of_prefix_length_le hm htrim hle

end GeoUrn.Text

namespace GeoUrn.Batch

open Audit (Logger)
open Text

variable {config : Config} {logger : Option Logger} {site : Site} {lines : List Text}

/-- There is a row under a number just if the line of this number is kept. -/
theorem exists_row_iff {first i : ℕ} :
    (∃ row ∈ keptRowsFrom config first lines, row.line = ((first + i : ℕ) : ℤ)) ↔
      ∃ raw, lines[i]? = some raw ∧ ¬ IsSkipped config raw := by
  constructor
  · rintro ⟨row, hrow, hline⟩
    obtain ⟨⟨raw, n⟩, hmem, rfl⟩ := List.mem_map.mp hrow
    obtain ⟨hzip, hkept⟩ := List.mem_filter.mp hmem
    obtain ⟨-, hget⟩ := List.mem_zipIdx_iff_le_and_getElem?_sub.mp hzip
    obtain rfl : n = first + i := Int.ofNat.inj hline
    rw [Nat.add_sub_cancel_left] at hget
    exact ⟨raw, hget, by simpa using hkept⟩
  · rintro ⟨raw, hget, hkept⟩
    have hzip : (raw, first + i) ∈ lines.zipIdx first := by
      rw [List.mem_zipIdx_iff_le_and_getElem?_sub, Nat.add_sub_cancel_left]
      exact ⟨Nat.le_add_right first i, hget⟩
    have hmem : (raw, first + i) ∈ (lines.zipIdx first).filter fun line =>
        ¬ IsSkipped config line.1 := List.mem_filter.mpr ⟨hzip, by simpa using hkept⟩
    exact ⟨_, List.mem_map_of_mem hmem, rfl⟩

/-- Whether the line at a place has no row. Lines are numbered from one. -/
def HasNoRow (rows : List Row) (i : ℕ) : Prop := ∀ row ∈ rows, row.line ≠ i + 1

theorem hasNoRow_iff {i : ℕ} (hi : i < lines.length) :
    HasNoRow (keptRows config lines) i ↔ IsSkipped config lines[i] := by
  have hrow : (∃ row ∈ keptRows config lines, row.line = ((1 + i : ℕ) : ℤ)) ↔
      ∃ raw, lines[i]? = some raw ∧ ¬ IsSkipped config raw := exists_row_iff
  rw [List.getElem?_eq_getElem hi] at hrow
  simp only [Option.some.injEq, exists_eq_left', Nat.cast_add, Nat.cast_one, add_comm (1 : ℤ)] at hrow
  rw [← not_iff_not, ← hrow, HasNoRow]
  push Not
  rfl

/-- Without a log the lines are read to their end, and so they are with an open one that can take
the reports. -/
theorem parseLines_logged (site : Site)
    (hlog : ∀ l, logger = some l → l.closed = false ∧ Reportable l.runId (keptRows config lines)) :
    ∃ after, parseLines config logger lines site = (.ok (keptRows config lines), after) := by
  cases logger with
  | none => exact ⟨_, parseLines_none config lines site⟩
  | some l =>
    rw [parseLines_eq]
    obtain ⟨hopen, hr⟩ := hlog l rfl
    obtain ⟨-, after, -, hread⟩ := (readRows_open hopen site _).resolve_right fun h => h.1 hr
    exact ⟨after, hread⟩

theorem isSkipped_iff_of_not_blank {mark raw : Text} (hmark : config.commentMark = some mark)
    (hraw : ¬ ∀ c ∈ chomp raw, isBlank c) :
    IsSkipped config raw ↔ mark <+: trim (chomp raw) := by
  rw [IsSkipped, hmark]
  simp [hraw]

/-- A line with more than blanks is left out just if it begins, after the blanks in front, with the
comment mark, and the mark does not reach into the blanks at the end of the line. No mark does so
that does not itself end in a blank. -/
theorem comment_iff_mark_in_front {mark : Text} (hmark : config.commentMark = some mark)
    (hlog : ∀ l, logger = some l → l.closed = false ∧ Reportable l.runId (keptRows config lines)) :
    ∃ rows after, parseLines config logger lines site = (.ok rows, after) ∧
      ∀ i (hi : i < lines.length), (¬ ∀ c ∈ chomp lines[i], isBlank c) →
        (HasNoRow rows i ↔ mark <+: trimLeft (chomp lines[i]) ∧
          mark.length ≤ (trim (chomp lines[i])).length) ∧
        ((∀ c ∈ mark.getLast?, isBlank c = false) →
          (HasNoRow rows i ↔ mark <+: trimLeft (chomp lines[i]))) := by
  obtain ⟨after, hparse⟩ := parseLines_logged site hlog
  refine ⟨_, after, hparse, fun i hi hblank => ?_⟩
  rw [hasNoRow_iff hi, isSkipped_iff_of_not_blank hmark hblank]
  exact ⟨prefix_trim_iff, fun hlast => prefix_trimRight_iff hlast⟩

/-- Comments begin with a number sign and a blank. -/
def spacedMarkConfig : Config where
  skipBlank := true
  commentMark := some ['#', ' ']
  registry := .standard
  visible := by
    intro mark h
    cases h
    decide

/-- A comment with a blank before it, and a mark whose blank is at the end of its line. -/
def spacedLines : List Text := [[' ', '#', ' ', 'c'], ['#', ' ', '\n']]

theorem comment_iff_mark_in_front_of_spaced_mark :
    spacedMarkConfig.commentMark = some (['#', ' '] : Text) ∧ freshLog.1.closed = false ∧
    Reportable freshLog.1.runId (keptRows spacedMarkConfig spacedLines) ∧
    ∃ rows after,
      parseLines spacedMarkConfig (some freshLog.1) spacedLines freshLog.2 = (.ok rows, after) ∧
      HasNoRow rows 0 ∧ ¬ HasNoRow rows 1 := by
  have hr : Reportable freshLog.1.runId (keptRows spacedMarkConfig spacedLines) := by decide
  have hlog : ∀ l, some freshLog.1 = some l →
      l.closed = false ∧ Reportable l.runId (keptRows spacedMarkConfig spacedLines) := by
    rintro l ⟨⟩
    exact ⟨rfl, hr⟩
  have hmark : spacedMarkConfig.commentMark = some (['#', ' '] : Text) := rfl
  obtain ⟨rows, after, hparse, hrows⟩ :=
    @comment_iff_mark_in_front _ _ freshLog.2 _ _ hmark hlog
  refine ⟨hmark, rfl, hr, rows, after, hparse, ?_, ?_⟩
  · have hblank : ¬ ∀ c ∈ chomp spacedLines[0], isBlank c := by decide
    exact (hrows 0 Nat.zero_lt_two hblank).1.mpr ⟨by decide, by decide⟩
  · have hblank : ¬ ∀ c ∈ chomp spacedLines[1], isBlank c := by decide
    have hshort : ¬ (['#', ' '] : Text).length ≤ (trim (chomp spacedLines[1])).length := by decide
    exact fun hno => hshort ((hrows 1 Nat.one_lt_two hblank).1.mp hno).2

/-- A line that is nothing but such a mark is read as an identifier. -/
theorem spaced_mark_alone_has_row :
    Config.make true (some ['#', ' ']) (.registry .standard) = .ok spacedMarkConfig ∧
      (['#', ' '] : Text) <+: trimLeft (chomp ['#', ' ']) ∧
      parseLines spacedMarkConfig none [['#', ' ']] freshLog.2 =
        (.ok [⟨1, ['#', ' '], none⟩], ⟨none, freshLog.2⟩) := by
  refine ⟨rfl, by decide, ?_⟩
  have hrows : keptRows spacedMarkConfig [['#', ' ']] = [⟨1, ['#', ' '], none⟩] := by decide
  rw [parseLines_none, hrows]

end GeoUrn.Batch
