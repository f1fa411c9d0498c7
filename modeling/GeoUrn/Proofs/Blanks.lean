import GeoUrn.Proofs.CodePoints
import GeoUrn.Proofs.Pieces
import GeoUrn.Text.Basic

/-!
Texts without blanks at their ends. These are the results of `trim`, and `trim` leaves them as
they are. Where a separator is not a blank, it does not matter whether blanks are dropped before
or after the first piece is cut off.
-/
namespace GeoUrn.Text

theorem isBlank_eq_false_iff (c : CodePoint) :
    isBlank c = false ↔ ∀ b ∈ blankRanges, c.toNat < b.first ∨ b.last < c.toNat := by
  simp only [isBlank, ← Bool.not_eq_true, inRanges_iff, not_exists, not_and_or, not_le,
    imp_iff_not_or]

def IsTrimmed (text : Text) : Prop :=
  (∀ c ∈ text.head?, isBlank c = false) ∧ ∀ c ∈ text.getLast?, isBlank c = false

instance (text : Text) : Decidable (IsTrimmed text) :=
  decidable_of_iff (text.head?.all (!isBlank ·) ∧ text.getLast?.all (!isBlank ·)) (by
    simp [IsTrimmed, Option.all_eq_true])

theorem prefix_trimRight (text : Text) : trimRight text <+: text :=
  List.rdropWhile_prefix isBlank text

theorem suffix_trimLeft (text : Text) : trimLeft text <:+ text := List.dropWhile_suffix isBlank

theorem trimLeft_eq_self_iff {text : Text} :
    trimLeft text = text ↔ ∀ c ∈ text.head?, isBlank c = false := by
  cases text with
  | nil => simp [trimLeft]
  | cons c rest => simp [trimLeft, List.dropWhile_eq_self_iff]

theorem trimRight_eq_self_iff {text : Text} :
    trimRight text = text ↔ ∀ c ∈ text.getLast?, isBlank c = false := by
  change text.rdropWhile isBlank = text ↔ _
  rw [List.rdropWhile_eq_self_iff]
  cases text with
  | nil => simp
  | cons c rest => simp [List.getLast?_eq_some_getLast]

/-- Nothing but blanks is taken away, and all of them at both ends are. -/
theorem trim_eq_self_iff {text : Text} : trim text = text ↔ IsTrimmed text := by
  refine ⟨fun h => ?_, fun ⟨hl, hr⟩ => ?_⟩
  · have hle : text.length ≤ (trimLeft text).length := by
      conv_lhs => rw [← h]
      exact (prefix_trimRight (trimLeft text)).length_le
    have hl : trimLeft text = text := (suffix_trimLeft text).eq_of_length_le hle
    rw [trim, hl] at h
    exact ⟨trimLeft_eq_self_iff.mp hl, trimRight_eq_self_iff.mp h⟩
  · rw [trim, trimLeft_eq_self_iff.mpr hl, trimRight_eq_self_iff.mpr hr]

theorem isTrimmed_trim (text : Text) : IsTrimmed (trim text) := by
  constructor
  · intro c hc
    obtain ⟨blanks, he⟩ := prefix_trimRight (trimLeft text)
    have hh : (trimLeft text).head? = some c := by
      rw [← he, List.head?_append, show (trimRight (trimLeft text)).head? = some c from hc]
      rfl
    have hn := List.head?_dropWhile_not isBlank text
    rw [show text.dropWhile isBlank = trimLeft text from rfl, hh] at hn
    exact hn
  · exact trimRight_eq_self_iff.mp (List.rdropWhile_idempotent isBlank (trimLeft text))

theorem mem_of_mem_trim {c : CodePoint} {text : Text} (h : c ∈ trim text) : c ∈ text :=
  (suffix_trimLeft text).subset ((prefix_trimRight _).subset h)

theorem trim_eq_nil_iff {text : Text} : trim text = [] ↔ ∀ c ∈ text, isBlank c := by
  have hr : trim text = [] ↔ ∀ c ∈ trimLeft text, isBlank c := List.rdropWhile_eq_nil_iff
  rw [hr]
  refine ⟨fun h c hc => ?_, fun h c hc => h c ((suffix_trimLeft text).subset hc)⟩
  have hs : text.takeWhile isBlank ++ trimLeft text = text := List.takeWhile_append_dropWhile
  rw [← hs] at hc
  rcases List.mem_append.mp hc with hc | hc
  · exact List.mem_takeWhile_imp hc
  · exact h c hc

theorem mem_trimLeft_iff {c : CodePoint} (hc : isBlank c = false) {text : Text} :
    c ∈ trimLeft text ↔ c ∈ text := by
  refine ⟨fun h => (suffix_trimLeft text).subset h, fun h => ?_⟩
  have hs : text.takeWhile isBlank ++ trimLeft text = text := List.takeWhile_append_dropWhile
  rw [← hs] at h
  rcases List.mem_append.mp h with h | h
  · have hb := List.mem_takeWhile_imp h
    rw [hc] at hb
    cases hb
  · exact h

theorem trimmed?_eq (text : Text) :
    trimmed? text = if trim text = [] then none else some (trim text) := by
  unfold trimmed?
  cases trim text <;> simp

theorem trimmed?_eq_some_iff {text code : Text} :
    trimmed? text = some code ↔ trim text = code ∧ code ≠ [] := by
  rw [trimmed?_eq]
  split_ifs with h
  · simp only [h, false_iff, not_and, not_not]
    exact fun e => e.symm
  · simp only [Option.some.injEq]
    exact ⟨fun e => ⟨e, e ▸ h⟩, fun e => e.1⟩

theorem trimmed?_of_trimLeft_nil {text : Text} (h : trimLeft text = []) : trimmed? text = none := by
  rw [trimmed?_eq, trim, h]
  rfl

theorem trimmed?_of_trimLeft_cons {text rest : Text} {c : CodePoint} (h : trimLeft text = c :: rest) :
    trimmed? text = some (trimRight (c :: rest)) := by
  refine trimmed?_eq_some_iff.mpr ⟨by rw [trim, h], fun hn => ?_⟩
  have hhead := List.head?_dropWhile_not isBlank text
  rw [show text.dropWhile isBlank = c :: rest from h] at hhead
  have hc : isBlank c = false := hhead
  have hall := List.rdropWhile_eq_nil_iff.mp hn c List.mem_cons_self
  rw [hall] at hc
  cases hc

theorem cut_trimLeft {sep : CodePoint} (hs : isBlank sep = false) (text : Text) :
    cut sep (trimLeft text) = (trimLeft (cut sep text).1, (cut sep text).2) := by
  induction text with
  | nil => rfl
  | cons c rest ih =>
    by_cases hb : isBlank c
    · have hc : c ≠ sep := by
        rintro rfl
        rw [hb] at hs
        cases hs
      simp only [trimLeft, List.dropWhile_cons_of_pos hb, cut, hc, if_false] at ih ⊢
      exact ih
    · simp only [trimLeft, List.dropWhile_cons_of_neg hb]
      by_cases hc : c = sep
      · simp [cut, hc]
      · simp [cut, hc, List.dropWhile_cons_of_neg hb]

end GeoUrn.Text
