import GeoUrn.Proofs.PositionReading

/-!
Ranges of positions and the components they say. A range from the front that ends inside the text
is read as the part of the text it stands for, whatever stands around that part; an inverted range
says nothing. As lower-casing leaves blanks where they are, a component with a blank at an end is
said by no part, and between words without such blanks saying is an equivalence.
-/
namespace GeoUrn.Text

/-- No run of the table of capitals meets a range of blanks, nor does the run of its results. -/
theorem caseRuns_not_blank : ∀ r ∈ caseRuns, ∀ b ∈ blankRanges,
    (r.last < b.first ∨ b.last < r.first) ∧
      (r.lower + (r.last - r.first) < b.first ∨ b.last < r.lower) := by
  decide +kernel

theorem isBlank_lowerChar (c : CodePoint) : isBlank (lowerChar c) = isBlank c := by
  rcases lowerChar_cases c with h | ⟨r, hr, hcov, hn⟩
  · rw [h]
  · simp only [CaseRun.covers, Bool.and_eq_true, decide_eq_true_eq] at hcov
    -- Both the capital and its form lie in a run of the table.
    have hnot : isBlank c = false ∧ isBlank (lowerChar c) = false := by
      rw [isBlank_eq_false_iff, isBlank_eq_false_iff, ← forall₂_and]
      intro b hb
      have := caseRuns_not_blank r hr b hb
      omega
    rw [hnot.1, hnot.2]

/-- What a character becomes begins and ends with a blank exactly if it is one. -/
theorem lowerForm_ends (afterCased : Bool) (c : CodePoint) (rest : Text) :
    (lowerForm afterCased c rest).head?.map isBlank = some (isBlank c) ∧
      (lowerForm afterCased c rest).getLast?.map isBlank = some (isBlank c) := by
  rw [lowerForm]
  split_ifs with hsigma hfinal hdot
  · rw [hsigma]
    decide
  · rw [hsigma]
    decide
  · rw [hdot]
    decide
  · have hform := congrArg some (isBlank_lowerChar c)
    exact ⟨hform, hform⟩

theorem lowerAfter_ends (afterCased : Bool) (text : Text) :
    (lowerAfter afterCased text).head?.map isBlank = text.head?.map isBlank ∧
      (lowerAfter afterCased text).getLast?.map isBlank = text.getLast?.map isBlank := by
  induction text generalizing afterCased with
  | nil => exact ⟨rfl, rfl⟩
  | cons c rest ih =>
    obtain ⟨next, hnext⟩ := lowerAfter_cons afterCased c rest
    obtain ⟨hfirst, hlast⟩ := lowerForm_ends afterCased c rest
    rw [hnext]
    constructor
    · rw [List.head?_append, Option.map_or, hfirst]
      rfl
    -- The last character comes from what follows, or from c where nothing does.
    · rw [List.getLast?_append, Option.map_or, (ih next).2, hlast, ← List.singleton_append,
        List.getLast?_append, Option.map_or]
      rfl

theorem forall_mem_not_blank_iff {last : Option CodePoint} :
    (∀ c ∈ last, isBlank c = false) ↔ last.map isBlank ≠ some true := by
  cases last <;> simp

/-- Lower-casing brings no blank to an end of a text, and takes none away. -/
theorem isTrimmed_lower_iff (text : Text) : IsTrimmed (lower text) ↔ IsTrimmed text := by
  obtain ⟨hfirst, hlast⟩ := lowerAfter_ends false text
  simp only [IsTrimmed, forall_mem_not_blank_iff, lower, hfirst, hlast]

theorem slice_eq_extract (text : Text) (start stop : ℕ) :
    slice text start stop = text.extract start stop := by
  rw [slice_natCast, List.extract_eq_take_drop, List.drop_take]

/-- An inverted range has no characters. -/
theorem extract_of_inverted {start stop : ℕ} (h : stop < start) (text : Text) :
    text.extract start stop = [] := by
  rw [List.extract_eq_take_drop, Nat.sub_eq_zero_of_le h.le, List.take_zero]

/-- A range that is not inverted has its part between what stands before and behind it. -/
theorem exists_append_extract {text : Text} {start stop : ℕ} (hle : start ≤ stop)
    (h : stop ≤ text.length) : ∃ front behind : Text,
      text = front ++ (text.extract start stop ++ behind) ∧ (start : ℤ) = front.length ∧
        (stop : ℤ) = front.length + (text.extract start stop).length := by
  have hpart : text.extract start stop ++ text.drop stop = text.drop start := by
    rw [List.extract_eq_take_drop, ← Nat.add_sub_cancel' hle, ← List.drop_drop,
      Nat.add_sub_cancel_left, List.take_append_drop]
  refine ⟨text.take start, text.drop stop, ?_, ?_, ?_⟩
  · rw [hpart, List.take_append_drop]
  · rw [List.length_take_of_le (hle.trans h)]
  · rw [List.length_take_of_le (hle.trans h), List.extract_eq_take_drop, List.length_take,
      List.length_drop]
    omega

/-- Neither loop over an inverted range makes a step. -/
theorem trimBounds_of_inverted {start stop : ℕ} (h : stop < start) (text : Text) :
    trimBounds text start stop = .ok (start, stop) := by
  have hlt : ¬ (start : ℤ) < stop := by omega
  have hfirst : skipLeading text start stop = .ok start := by rw [skipLeading, if_neg hlt]
  have hlast : skipTrailing text start stop = .ok stop := by rw [skipTrailing, if_neg hlt]
  simp only [trimBounds, hfirst, hlast]

theorem trimRange_eq {text : Text} {stop : ℕ} (h : stop ≤ text.length) (start : ℕ) :
    trimRange text start stop = .ok (trim (text.extract start stop)) := by
  rcases le_or_gt start stop with hle | hlt
  · obtain ⟨front, behind, htext, hstart, hstop⟩ := exists_append_extract hle h
    generalize text.extract start stop = part at *
    rw [htext, hstart, hstop, trimRange_append]
  · rw [trimRange, trimBounds_of_inverted hlt, Except.map, slice_eq_extract,
      extract_of_inverted hlt]
    rfl

end GeoUrn.Text

namespace GeoUrn.Component
open Text

theorem regionMatches_of_inverted {start stop : ℕ} (h : stop < start) (component text : Text) :
    regionMatches component text start stop = .ok false := by
  have hlength : ((stop : ℤ) - start == component.length) = false := by
    rw [beq_eq_false_iff_ne]
    omega
  rw [regionMatches, trimBounds_of_inverted h, Except.map, hlength, Bool.false_and]

/-- A range says what its part says, unless it is inverted. -/
theorem regionMatches_eq {text : Text} {stop : ℕ} (h : stop ≤ text.length) (component : Text)
    (start : ℕ) : regionMatches component text start stop =
      .ok (decide (start ≤ stop) && reads component (text.extract start stop)) := by
  rcases le_or_gt start stop with hle | hlt
  · obtain ⟨front, behind, htext, hstart, hstop⟩ := exists_append_extract hle h
    generalize text.extract start stop = part at *
    rw [htext, hstart, hstop, regionMatches_append, decide_eq_true hle, Bool.true_and]
  · rw [regionMatches_of_inverted hlt, decide_eq_false hlt.not_ge, Bool.false_and]

theorem reads_iff {component piece : Text} : reads component piece ↔
    (trim piece).length = component.length ∧ lower (trim piece) = lower component :=
  sameIgnoringCase_iff

/-- What a piece says has no blanks at its ends, as the piece without its blanks has none. -/
theorem isTrimmed_of_reads {component piece : Text} (h : reads component piece) :
    IsTrimmed component := by
  have hpiece := (isTrimmed_lower_iff _).mpr (isTrimmed_trim piece)
  rwa [(reads_iff.mp h).2, isTrimmed_lower_iff] at hpiece

theorem reads_nil (piece : Text) : reads [] piece = piece.all isBlank := by
  rw [Bool.eq_iff_iff, List.all_eq_true, ← trim_eq_nil_iff, reads_iff, List.length_nil,
    List.length_eq_zero_iff]
  exact ⟨fun h => h.1, fun h => ⟨h, by rw [h]⟩⟩

/-- A word without blanks at its ends says the words that are the same up to case. -/
theorem regionMatches_word {component word : Text} (h : IsTrimmed word) :
    regionMatches component word 0 word.length = .ok (sameIgnoringCase word component) := by
  have hwhole := regionMatches_scheme component word []
  rwa [List.append_nil, reads, trim_eq_self_iff.mpr h] at hwhole

theorem equivalence_regionMatches : Equivalence fun x y : {word : Text // IsTrimmed word} =>
    regionMatches x.1 y.1 0 y.1.length = .ok true := by
  simp only [regionMatches_word (Subtype.property _), Except.ok.injEq]
  refine ⟨fun x => sameIgnoringCase_iff.mpr ⟨rfl, rfl⟩, fun {x y} hxy => ?_, fun hxy hyz => ?_⟩
  · rwa [sameIgnoringCase_comm]
  · exact sameIgnoringCase_trans hyz hxy

/-- What a range says depends on the part of the text that `List.extract` cuts out and on whether the
range is inverted, and on nothing around it. Without its blanks it is that part without the blanks
at its ends. It says a component exactly if it is not inverted and these characters are as many as
those of the component and have the same lower-case form. So a component with a blank at an end is
never said, the empty one is said by the blank ranges, and words without blanks at their ends are
equivalent if they say each other. -/
theorem regionMatches_by_part_alone {text : Text} {stop : ℕ} (h : stop ≤ text.length)
    (start : ℕ) :
    trimRange text start stop = .ok (trim (text.extract start stop)) ∧
    (∀ component, regionMatches component text start stop = .ok (decide (start ≤ stop ∧
      (trim (text.extract start stop)).length = component.length ∧
      lower (trim (text.extract start stop)) = lower component))) ∧
    (∀ (other : Text) (first last : ℕ), last ≤ other.length →
      other.extract first last = text.extract start stop →
      trimRange other first last = trimRange text start stop ∧
      ((first ≤ last ↔ start ≤ stop) → ∀ component,
        regionMatches component other first last = regionMatches component text start stop)) ∧
    (∀ component, ¬ IsTrimmed component → regionMatches component text start stop = .ok false) ∧
    regionMatches [] text start stop =
      .ok (decide (start ≤ stop) && (text.extract start stop).all isBlank) ∧
    Equivalence fun x y : {word : Text // IsTrimmed word} =>
      regionMatches x.1 y.1 0 y.1.length = .ok true := by
  refine ⟨trimRange_eq h start, fun component => ?_, fun other first last hother hsame => ⟨?_, ?_⟩,
    fun component huntrimmed => ?_, ?_, equivalence_regionMatches⟩
  · rw [regionMatches_eq h, Except.ok.injEq, Bool.eq_iff_iff, Bool.and_eq_true,
      decide_eq_true_iff, decide_eq_true_iff, reads_iff]
  · rw [trimRange_eq hother, hsame, trimRange_eq h]
  · intro hinverted component
    rw [regionMatches_eq hother, hsame, decide_eq_decide.mpr hinverted, regionMatches_eq h]
  · have hreads : reads component (text.extract start stop) = false :=
      Bool.eq_false_iff.mpr fun hreads => huntrimmed (isTrimmed_of_reads hreads)
    rw [regionMatches_eq h, hreads, Bool.and_false]
  · rw [regionMatches_eq h, reads_nil]

/-- A word after a blank that goes on behind its sigma. -/
def longWord : Text := "x ΟΔΟΣΑ"

/-- The sigma takes its final form where the range ends, though the word goes on there. -/
theorem regionMatches_by_part_alone_of_cut_word :
    6 ≤ longWord.length ∧ trimRange longWord 1 6 = .ok "ΟΔΟΣ" ∧
    regionMatches "οδος" longWord 1 6 = .ok true ∧ regionMatches "οδοσ" longWord 1 6 = .ok false ∧
    (5 ≤ (" ΟΔΟΣ" : Text).length ∧ (" ΟΔΟΣ" : Text).extract 0 5 = longWord.extract 1 6 ∧
      trimRange " ΟΔΟΣ" 0 5 = trimRange longWord 1 6 ∧
      regionMatches "οδος" " ΟΔΟΣ" 0 5 = regionMatches "οδος" longWord 1 6) ∧
    (¬ IsTrimmed " οδος" ∧ regionMatches " οδος" longWord 1 6 = .ok false) ∧
    regionMatches [] longWord 1 2 = .ok true ∧ regionMatches [] longWord 2 1 = .ok false ∧
    (IsTrimmed "ΟΔΟΣ" ∧ IsTrimmed "οδος" ∧ regionMatches "οδος" "ΟΔΟΣ" 0 4 = .ok true ∧
      regionMatches "ΟΔΟΣ" "οδος" 0 4 = .ok true) := by
  have hlength : 6 ≤ longWord.length := by decide +kernel
  obtain ⟨hpart, hsaid, hother, huntrimmed, -, hequiv⟩ := regionMatches_by_part_alone hlength 1
  obtain ⟨-, -, -, -, hblank, -⟩ :=
    regionMatches_by_part_alone (show 2 ≤ longWord.length by decide +kernel) 1
  obtain ⟨-, -, -, -, hinverted, -⟩ :=
    regionMatches_by_part_alone (show 1 ≤ longWord.length by decide +kernel) 2
  have hshort : 5 ≤ (" ΟΔΟΣ" : Text).length := by decide +kernel
  have hsame : (" ΟΔΟΣ" : Text).extract 0 5 = longWord.extract 1 6 := by decide +kernel
  have hspaced : ¬ IsTrimmed " οδος" := by decide +kernel
  have hcapitals : IsTrimmed "ΟΔΟΣ" := by decide +kernel
  have hsmall : IsTrimmed "οδος" := by decide +kernel
  have hword : regionMatches "οδος" "ΟΔΟΣ" 0 4 = .ok true := by decide +kernel
  obtain ⟨htrimmed, hmatches⟩ := hother " ΟΔΟΣ" 0 5 hshort hsame
  exact ⟨hlength, hpart.trans (by decide +kernel), (hsaid "οδος").trans (by decide +kernel),
    (hsaid "οδοσ").trans (by decide +kernel),
    ⟨hshort, hsame, htrimmed, hmatches (by decide) "οδος"⟩, ⟨hspaced, huntrimmed _ hspaced⟩,
    hblank.trans (by decide +kernel), hinverted.trans (by decide +kernel), hcapitals, hsmall, hword,
    hequiv.symm (x := ⟨"οδος", hsmall⟩) (y := ⟨"ΟΔΟΣ", hcapitals⟩) hword⟩

end GeoUrn.Component
