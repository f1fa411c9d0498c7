import GeoUrn.Proofs.CodePoints
import GeoUrn.Text.Case

/-!
Lower-casing and ASCII. The Kelvin sign is the only code point outside ASCII that becomes an ASCII
character by itself, so a word without the letter k is spelled by ASCII characters only.
-/
namespace GeoUrn.Text

/-- Two runs have ASCII results: that of the ASCII capitals and that of the Kelvin sign. -/
theorem caseRuns_ascii : ∀ r ∈ caseRuns, r = ⟨0x41, 0x5A, 1, 0x61⟩ ∨ r = ⟨0x212A, 0x212A, 1, 0x6B⟩ ∨
    (0x80 ≤ r.first ∧ 0x80 ≤ r.lower) := by
  decide +kernel

/-- All results of the table are code points. -/
theorem caseRuns_valid : ∀ r ∈ caseRuns, r.lower + (r.last - r.first) < 0x110000 := by
  decide +kernel

theorem toNat_lowerChar {r : CaseRun} {c : CodePoint} (hr : r ∈ caseRuns) (hc : r.covers c.toNat) :
    (CodePoint.ofNat (r.lower + (c.toNat - r.first))).toNat = r.lower + (c.toNat - r.first) := by
  have hv := caseRuns_valid r hr
  simp only [CaseRun.covers, Bool.and_eq_true, decide_eq_true_eq] at hc
  exact CodePoint.toNat_ofNat (by omega)

/-- A character is its own lower-case form unless a run of the table covers it. -/
theorem lowerChar_cases (c : CodePoint) :
    lowerChar c = c ∨ ∃ r ∈ caseRuns, r.covers c.toNat ∧
      (lowerChar c).toNat = r.lower + (c.toNat - r.first) := by
  unfold lowerChar
  cases h : caseRuns.find? fun r => r.covers c.toNat with
  | none => exact Or.inl rfl
  | some r =>
    have hr := List.mem_of_find?_eq_some h
    have hc := List.find?_some h
    exact Or.inr ⟨r, hr, hc, toNat_lowerChar hr hc⟩

theorem lowerChar_ascii : ∀ n < 128, lowerChar (CodePoint.ofNat n) = (CodePoint.ofNat n).toLower := by
  decide +kernel

theorem toLower_of_not_ascii {c : CodePoint} (h : 128 ≤ c.toNat) : c.toLower = c := by
  cases c with
  | surrogate half => rfl
  | char c =>
    have hz : 'Z'.val.toNat = 90 := rfl
    have hc : c.val.toNat = c.toNat := rfl
    rw [CodePoint.toNat_char] at h
    rw [CodePoint.toLower, Char.toLower, dif_neg]
    simp only [UInt32.le_iff_toNat_le, ge_iff_le]
    omega

/-- Where an ASCII character other than k comes from, it does by the rule of ASCII. -/
theorem lowerChar_eq_iff {a : CodePoint} (ha : a.toNat < 128) (hk : a ≠ 'k') (c : CodePoint) :
    lowerChar c = a ↔ c.toLower = a := by
  by_cases hc : c.toNat < 128
  · have := lowerChar_ascii c.toNat hc
    rw [CodePoint.ofNat_toNat] at this
    rw [this]
  · rw [toLower_of_not_ascii (by omega)]
    have hne : c ≠ a := by
      rintro rfl
      exact hc ha
    refine iff_of_false ?_ hne
    rintro rfl
    rcases lowerChar_cases c with h | ⟨r, hr, hcov, hn⟩
    · exact hne h.symm
    · simp only [CaseRun.covers, Bool.and_eq_true, decide_eq_true_eq] at hcov
      rcases caseRuns_ascii r hr with rfl | rfl | ⟨-, hl⟩
      · exact absurd hcov.1.2 (by simp only; omega)
      · refine hk ((CodePoint.ofNat_toNat _).symm.trans ?_)
        rw [hn, show c.toNat - 0x212A = 0 by simp only at hcov; omega]
        rfl
      · omega

/-- What lower-casing makes of a character, between what came before it and what follows. -/
def lowerForm (afterCased : Bool) (c : CodePoint) (rest : Text) : Text :=
  if c = '\u03A3' then [if afterCased && !startsCased rest then '\u03C2' else '\u03C3']
  else if c = '\u0130' then ['i', '\u0307']
  else [lowerChar c]

theorem lowerAfter_cons (afterCased : Bool) (c : CodePoint) (rest : Text) :
    ∃ next, lowerAfter afterCased (c :: rest) =
      lowerForm afterCased c rest ++ lowerAfter next rest := by
  simp only [lowerAfter, lowerForm]
  split_ifs <;> exact ⟨_, rfl⟩

/-- The capital sigma and the capital I with a dot are not ASCII, and neither are their forms,
letters apart. -/
theorem lowerForm_cases (afterCased : Bool) (c : CodePoint) (rest : Text) :
    lowerForm afterCased c rest = [lowerChar c] ∨
      (128 ≤ c.toNat ∧ (∃ a ∈ lowerForm afterCased c rest, 128 ≤ a.toNat) ∧
        ∀ a ∈ lowerForm afterCased c rest, a.toNat < 128 → a.isAlpha) := by
  simp only [lowerForm]
  split_ifs with hs hcap hi
  · exact Or.inr ⟨by rw [hs]; decide, ⟨_, List.mem_singleton_self _, by decide⟩,
      List.forall_mem_singleton.mpr (by decide)⟩
  · exact Or.inr ⟨by rw [hs]; decide, ⟨_, List.mem_singleton_self _, by decide⟩,
      List.forall_mem_singleton.mpr (by decide)⟩
  · exact Or.inr ⟨by rw [hi]; decide, ⟨'\u0307', by simp, by decide⟩,
      List.forall_mem_cons.mpr ⟨by decide, List.forall_mem_singleton.mpr (by decide)⟩⟩
  · exact Or.inl rfl

/-- A word of ASCII characters, none of them a k, is the lower-case form of exactly the texts that
ASCII lower-casing turns into it. -/
theorem lowerAfter_eq_iff {word : Text} (hw : ∀ a ∈ word, a.toNat < 128 ∧ a ≠ 'k')
    (afterCased : Bool) (text : Text) :
    lowerAfter afterCased text = word ↔ text.map CodePoint.toLower = word := by
  induction text generalizing word afterCased with
  | nil => rfl
  | cons c rest ih =>
    obtain ⟨next, hnext⟩ := lowerAfter_cons afterCased c rest
    rw [hnext, List.map_cons]
    rcases lowerForm_cases afterCased c rest with hform | ⟨hc, ⟨a, ha, hascii⟩, -⟩
    · rw [hform, List.singleton_append]
      cases word with
      | nil => simp
      | cons a word =>
        obtain ⟨⟨ha, hk⟩, hw⟩ := List.forall_mem_cons.mp hw
        rw [List.cons.injEq, List.cons.injEq, lowerChar_eq_iff ha hk, ih hw]
    · refine iff_of_false (fun h => ?_) (fun h => ?_)
      · have := (hw a (h ▸ List.mem_append_left _ ha)).1
        omega
      · rw [toLower_of_not_ascii hc] at h
        have := (hw c (h ▸ List.mem_cons_self)).1
        omega

theorem lower_eq_iff {word : Text} (hw : ∀ a ∈ word, a.toNat < 128 ∧ a ≠ 'k') (text : Text) :
    lower text = word ↔ text.map CodePoint.toLower = word :=
  lowerAfter_eq_iff hw false text

theorem lowerForm_of_ascii {c : CodePoint} (hc : c.toNat < 128) (afterCased : Bool) (rest : Text) :
    lowerForm afterCased c rest = [lowerChar c] := by
  rcases lowerForm_cases afterCased c rest with hform | ⟨hn, -⟩
  · exact hform
  · omega

/-- ASCII characters have one lower-case form each, whatever follows them. -/
theorem lowerAfter_append_of_ascii {x : Text} (hx : ∀ c ∈ x, c.toNat < 128) (afterCased : Bool)
    (y : Text) :
    ∃ next, lowerAfter afterCased (x ++ y) = x.map lowerChar ++ lowerAfter next y := by
  induction x generalizing afterCased with
  | nil => exact ⟨afterCased, rfl⟩
  | cons c x ih =>
    obtain ⟨hc, hx⟩ := List.forall_mem_cons.mp hx
    obtain ⟨after, hafter⟩ := lowerAfter_cons afterCased c (x ++ y)
    obtain ⟨next, hnext⟩ := ih hx after
    refine ⟨next, ?_⟩
    rw [List.cons_append, hafter, hnext, lowerForm_of_ascii hc]
    rfl

theorem lower_of_ascii {x : Text} (hx : ∀ c ∈ x, c.toNat < 128) : lower x = x.map lowerChar := by
  obtain ⟨next, hnext⟩ := lowerAfter_append_of_ascii hx false []
  rw [List.append_nil, lowerAfter, List.append_nil] at hnext
  exact hnext

/-- Lower-casing keeps ASCII beginnings of texts. -/
theorem lower_prefix_append {x : Text} (hx : ∀ c ∈ x, c.toNat < 128) (y : Text) :
    lower x <+: lower (x ++ y) := by
  obtain ⟨next, hnext⟩ := lowerAfter_append_of_ascii hx false y
  rw [lower_of_ascii hx]
  exact ⟨lowerAfter next y, hnext.symm⟩

/-- Where an ASCII text is followed by anything, a word that stands in front up to case begins that
text or goes on from it. -/
theorem lower_prefix_or {x : Text} (hx : ∀ c ∈ x, c.toNat < 128) {y word : Text}
    (h : lower ((x ++ y).take word.length) = lower word) :
    lower word <+: lower x ∨ lower x <+: lower word := by
  rw [List.take_append] at h
  -- The word ends within the ASCII text, or it goes on behind it.
  rcases le_total word.length x.length with hle | hle
  · left
    rw [Nat.sub_eq_zero_of_le hle, List.take_zero, List.append_nil] at h
    have htake : ∀ c ∈ x.take word.length, c.toNat < 128 :=
      fun c hc => hx c (List.mem_of_mem_take hc)
    have hp := lower_prefix_append htake (x.drop word.length)
    rwa [List.take_append_drop, h] at hp
  · right
    rw [List.take_of_length_le hle] at h
    rw [← h]
    exact lower_prefix_append hx _

theorem toLower_ascii : ∀ n < 128, (CodePoint.ofNat n).toLower = CodePoint.ofNat n ∨
    ((CodePoint.ofNat n).isAlpha ∧ (CodePoint.ofNat n).toLower.isAlpha) := by
  decide +kernel

theorem toLower_eq_iff {a : CodePoint} (ha : a.isAlpha = false) (c : CodePoint) :
    c.toLower = a ↔ c = a := by
  by_cases hc : c.toNat < 128
  · have h := toLower_ascii c.toNat hc
    rw [CodePoint.ofNat_toNat] at h
    rcases h with h | ⟨hc, hl⟩
    · rw [h]
    · refine iff_of_false ?_ ?_
      · rintro rfl
        rw [ha] at hl
        cases hl
      · rintro rfl
        rw [ha] at hc
        cases hc
  · rw [toLower_of_not_ascii (by omega)]

theorem mem_lowerForm_iff {a : CodePoint} (ha : a.toNat < 128) (hl : a.isAlpha = false)
    (afterCased : Bool) (c : CodePoint) (rest : Text) : a ∈ lowerForm afterCased c rest ↔ a = c := by
  rcases lowerForm_cases afterCased c rest with hform | ⟨hc, -, hletters⟩
  · have hk : a ≠ 'k' := by
      rintro rfl
      exact absurd hl (by decide)
    rw [hform, List.mem_singleton, eq_comm, lowerChar_eq_iff ha hk, toLower_eq_iff hl, eq_comm]
  · refine iff_of_false (fun h => ?_) ?_
    · rw [hletters a h ha] at hl
      cases hl
    · rintro rfl
      omega

/-- Lower-casing neither adds nor removes an ASCII character that is no letter. -/
theorem mem_lower_iff {a : CodePoint} (ha : a.toNat < 128) (hl : a.isAlpha = false) (text : Text) :
    a ∈ lower text ↔ a ∈ text := by
  unfold lower
  generalize false = afterCased
  induction text generalizing afterCased with
  | nil => rfl
  | cons c rest ih =>
    obtain ⟨next, hnext⟩ := lowerAfter_cons afterCased c rest
    rw [hnext, List.mem_append, List.mem_cons, mem_lowerForm_iff ha hl, ih next]

theorem sameIgnoringCase_iff {x y : Text} :
    sameIgnoringCase x y ↔ x.length = y.length ∧ lower x = lower y := by
  simp [sameIgnoringCase]

theorem sameIgnoringCase_comm (x y : Text) : sameIgnoringCase x y = sameIgnoringCase y x := by
  rw [Bool.eq_iff_iff, sameIgnoringCase_iff, sameIgnoringCase_iff, eq_comm, eq_comm (a := lower x)]

theorem sameIgnoringCase_trans {x y z : Text} (hxy : sameIgnoringCase x y)
    (hyz : sameIgnoringCase y z) : sameIgnoringCase x z := by
  rw [sameIgnoringCase_iff] at *
  exact ⟨hxy.1.trans hyz.1, hxy.2.trans hyz.2⟩

/-- A word of ASCII characters, none of them a capital or the letter k. -/
def IsPlain (word : Text) : Prop := ∀ a ∈ word, a.toNat < 128 ∧ a ≠ 'k' ∧ a.toLower = a

instance (word : Text) : Decidable (IsPlain word) := List.decidableBAll _ word

/-- To say a plain word is to spell it in ASCII letters, in capitals or not. -/
theorem sameIgnoringCase_plain_iff {word : Text} (hw : IsPlain word) (text : Text) :
    sameIgnoringCase text word ↔ text.map CodePoint.toLower = word := by
  have hself : word.map CodePoint.toLower = word := by
    conv_rhs => rw [← List.map_id word]
    exact List.map_congr_left fun a ha => (hw a ha).2.2
  have hascii : ∀ a ∈ word, a.toNat < 128 ∧ a ≠ 'k' := fun a ha => ⟨(hw a ha).1, (hw a ha).2.1⟩
  rw [sameIgnoringCase_iff, (lower_eq_iff hascii word).mpr hself, lower_eq_iff hascii]
  refine ⟨fun h => h.2, fun h => ⟨?_, h⟩⟩
  rw [← h, List.length_map]

end GeoUrn.Text
