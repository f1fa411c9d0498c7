import GeoUrn.Proofs.Blanks
import GeoUrn.Proofs.LowerCase

/-!
Texts that are the same up to the case of ASCII letters. Such texts have the same lower-case form,
also where this form depends on what stands around a letter, and they are cut and trimmed alike.
-/
namespace GeoUrn.Text

/-- The ASCII capitals are changed, and nothing else is. -/
theorem toLower_cases (c : CodePoint) : c.toLower = c ∨
    ∃ k < 26, c = CodePoint.ofNat (0x41 + k) ∧ c.toLower = CodePoint.ofNat (0x61 + k) := by
  have hascii : ∀ n < 128, (CodePoint.ofNat n).toLower = CodePoint.ofNat n ∨
      ∃ k < 26, CodePoint.ofNat n = CodePoint.ofNat (0x41 + k) ∧
        (CodePoint.ofNat n).toLower = CodePoint.ofNat (0x61 + k) := by decide +kernel
  by_cases hc : c.toNat < 128
  · have hn := hascii c.toNat hc
    rwa [CodePoint.ofNat_toNat] at hn
  · exact Or.inl (toLower_of_not_ascii (by omega))

/-- What is the same for each ASCII capital and its small letter does not see ASCII case. -/
theorem apply_toLower {α : Type} {f : CodePoint → α}
    (h : ∀ k < 26, f (CodePoint.ofNat (0x61 + k)) = f (CodePoint.ofNat (0x41 + k))) (c : CodePoint) :
    f c.toLower = f c := by
  rcases toLower_cases c with hc | ⟨k, hk, hc, hl⟩
  · rw [hc]
  · rw [hl, h k hk, ← hc]

theorem toNat_ascii_letter : ∀ k < 26, (CodePoint.ofNat (0x41 + k)).toNat = 0x41 + k ∧
    (CodePoint.ofNat (0x61 + k)).toNat = 0x61 + k := by
  decide

/-- No ASCII letter is looked through. -/
theorem caseIgnorableRanges_ascii : ∀ r ∈ caseIgnorableRanges,
    r.last < 0x41 ∨ (0x5A < r.first ∧ r.last < 0x61) ∨ 0x7A < r.first := by
  decide +kernel

theorem isBlank_toLower : ∀ c, isBlank c.toLower = isBlank c := apply_toLower (by decide +kernel)

theorem isCased_toLower : ∀ c, inRanges casedRanges c.toLower = inRanges casedRanges c :=
  apply_toLower (by decide +kernel)

theorem isCaseIgnorable_toLower :
    ∀ c, inRanges caseIgnorableRanges c.toLower = inRanges caseIgnorableRanges c := by
  refine apply_toLower fun k hk => ?_
  obtain ⟨hcapital, hsmall⟩ := toNat_ascii_letter k hk
  rw [Bool.eq_iff_iff, inRanges_iff, inRanges_iff, hcapital, hsmall]
  refine iff_of_false ?_ ?_ <;>
  · rintro ⟨r, hr, hfirst, hlast⟩
    rcases caseIgnorableRanges_ascii r hr with h | h | h <;> omega

theorem lowerChar_toLower : ∀ c, lowerChar c.toLower = lowerChar c := by
  have hletters : ∀ k < 26,
      (CodePoint.ofNat (0x61 + k)).toLower = (CodePoint.ofNat (0x41 + k)).toLower := by
    decide
  refine apply_toLower fun k hk => ?_
  rw [lowerChar_ascii _ (by omega), lowerChar_ascii _ (by omega), hletters k hk]

theorem startsCased_map_toLower (text : Text) :
    startsCased (text.map CodePoint.toLower) = startsCased text := by
  have hp : inRanges caseIgnorableRanges ∘ CodePoint.toLower = inRanges caseIgnorableRanges :=
    funext isCaseIgnorable_toLower
  rw [startsCased, startsCased, List.dropWhile_map, hp]
  cases text.dropWhile (inRanges caseIgnorableRanges) with
  | nil => rfl
  | cons c rest => exact isCased_toLower c

/-- The case of ASCII letters does not count when a text is lower-cased: neither for these letters
nor for a capital sigma next to them, as they are cased in both forms. -/
theorem lowerAfter_map_toLower (afterCased : Bool) (text : Text) :
    lowerAfter afterCased (text.map CodePoint.toLower) = lowerAfter afterCased text := by
  induction text generalizing afterCased with
  | nil => rfl
  | cons c rest ih =>
    have hsigma : c.toLower = '\u03A3' ↔ c = '\u03A3' := toLower_eq_iff (by decide) c
    have hdotted : c.toLower = '\u0130' ↔ c = '\u0130' := toLower_eq_iff (by decide) c
    simp only [List.map_cons, lowerAfter, hsigma, hdotted, isCased_toLower, isCaseIgnorable_toLower,
      lowerChar_toLower, startsCased_map_toLower, ih]

theorem lower_map_toLower (text : Text) : lower (text.map CodePoint.toLower) = lower text :=
  lowerAfter_map_toLower false text

theorem trim_map_toLower (text : Text) :
    trim (text.map CodePoint.toLower) = (trim text).map CodePoint.toLower := by
  have hp : isBlank ∘ CodePoint.toLower = isBlank := funext isBlank_toLower
  rw [trim, trim, trimRight, trimRight, trimLeft, trimLeft, List.dropWhile_map, hp,
    ← List.map_reverse, List.dropWhile_map, hp, List.map_reverse]

theorem split_map_toLower {sep : CodePoint} (hs : sep.isAlpha = false) (text : Text) :
    split sep (text.map CodePoint.toLower) = (split sep text).map (List.map CodePoint.toLower) := by
  induction text with
  | nil => rfl
  | cons c rest ih =>
    simp only [List.map_cons, split, toLower_eq_iff hs, ih]
    split_ifs with hc
    · rfl
    · cases hsplit : split sep rest with
      | nil => rfl
      | cons piece more => rfl

/-- Whether two texts are the same up to the case of ASCII letters. -/
def SameAscii (x y : Text) : Prop := x.map CodePoint.toLower = y.map CodePoint.toLower

instance (x y : Text) : Decidable (SameAscii x y) := inferInstanceAs (Decidable (_ = _))

namespace SameAscii

variable {x y : Text}

theorem refl (x : Text) : SameAscii x x := rfl

theorem symm (h : SameAscii x y) : SameAscii y x := Eq.symm h

theorem cons {c d : CodePoint} (hc : c.toLower = d.toLower) (h : SameAscii x y) :
    SameAscii (c :: x) (d :: y) := congrArg₂ List.cons hc h

theorem length_eq (h : SameAscii x y) : x.length = y.length := by
  have hl := congrArg List.length h
  rwa [List.length_map, List.length_map] at hl

theorem isEmpty_eq (h : SameAscii x y) : x.isEmpty = y.isEmpty := by
  have he := congrArg List.isEmpty h
  rwa [List.isEmpty_map, List.isEmpty_map] at he

theorem lower_eq (h : SameAscii x y) : lower x = lower y := by
  rw [← lower_map_toLower x, h, lower_map_toLower]

theorem sameIgnoringCase_eq (h : SameAscii x y) (word : Text) :
    sameIgnoringCase x word = sameIgnoringCase y word := by
  rw [sameIgnoringCase, h.length_eq, h.lower_eq, sameIgnoringCase]

theorem take (h : SameAscii x y) (n : ℕ) : SameAscii (x.take n) (y.take n) := by
  rw [SameAscii, List.map_take, h, List.map_take]

theorem trim (h : SameAscii x y) : SameAscii (trim x) (trim y) := by
  rw [SameAscii, ← trim_map_toLower, h, trim_map_toLower]

theorem mem_iff (h : SameAscii x y) {a : CodePoint} (ha : a.isAlpha = false) : a ∈ x ↔ a ∈ y := by
  have hmem (text : Text) : a ∈ text.map CodePoint.toLower ↔ a ∈ text := by
    simp [List.mem_map, toLower_eq_iff ha]
  rw [← hmem x, h, hmem]

end SameAscii

end GeoUrn.Text
