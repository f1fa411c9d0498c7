import GeoUrn.Proofs.FloatRounding

/-!
The shortest numeral of a floating-point number lies in the range of the rationals that are nearest
to this number, so that it reads back. The search for it always ends with one.
-/
namespace GeoUrn.Decimal

def Numeral.toRat (n : Numeral) : ℚ := n.digits * 10 ^ n.scale

namespace RoundingRange

/-- A range whose unit is a ratio of positive numbers. -/
def HasUnit (r : RoundingRange) : Prop := 0 < r.unit.1 ∧ 0 < r.unit.2

theorem hasUnit_of (mantissa : ℕ) (exponent : ℤ) : (of mantissa exponent).HasUnit := by
  have hunit : (of mantissa exponent).unit =
      if exponent < 2 then (1, 2 ^ (2 - exponent).natAbs) else (2 ^ (exponent - 2).natAbs, 1) := rfl
  rw [HasUnit, hunit]
  split_ifs
  · exact ⟨one_pos, by positivity⟩
  · exact ⟨by positivity, one_pos⟩

theorem HasUnit.unitValue_pos {r : RoundingRange} (h : r.HasUnit) : 0 < r.unitValue :=
  div_pos (by exact_mod_cast h.1) (by exact_mod_cast h.2)

/-- `measure` is the ratio of a decimal number to the unit. -/
theorem HasUnit.measure {r : RoundingRange} (h : r.HasUnit) (n : ℕ) (scale : ℤ) :
    0 < (r.measure n scale).2 ∧
      ((r.measure n scale).1 / (r.measure n scale).2 : ℚ) * r.unitValue = n * 10 ^ scale := by
  obtain ⟨h1, h2⟩ := h
  have hq1 : (r.unit.1 : ℚ) ≠ 0 := by exact_mod_cast h1.ne'
  have hq2 : (r.unit.2 : ℚ) ≠ 0 := by exact_mod_cast h2.ne'
  have hten : (10 : ℚ) ^ scale.natAbs ≠ 0 := by positivity
  unfold RoundingRange.measure unitValue
  simp only [Nat.pow_eq]
  split_ifs with hs
  · refine ⟨by positivity, ?_⟩
    rw [Binary64.zpow_of_neg hs]
    push_cast
    field_simp
  · refine ⟨h1, ?_⟩
    rw [Binary64.zpow_of_nonneg hs]
    push_cast
    field_simp

theorem HasUnit.has_iff {r : RoundingRange} (h : r.HasUnit) {n : ℕ} {scale : ℤ} :
    r.has n scale ↔ r.Holds (n * 10 ^ scale) := by
  obtain ⟨hden, heq⟩ := h.measure n scale
  have hunit := h.unitValue_pos
  have hpos : (0 : ℚ) < (r.measure n scale).2 := by exact_mod_cast hden
  unfold has Holds
  rw [← heq]
  simp only [mul_le_mul_iff_left₀ hunit, mul_lt_mul_iff_left₀ hunit, le_div_iff₀ hpos,
    div_le_iff₀ hpos, lt_div_iff₀ hpos, div_lt_iff₀ hpos]
  split_ifs
  · rw [Bool.and_eq_true, decide_eq_true_iff, decide_eq_true_iff]
    norm_cast
  · rw [Bool.and_eq_true, decide_eq_true_iff, decide_eq_true_iff]
    norm_cast

/-- The number lies between two neighbours on each grid. -/
theorem HasUnit.below {r : RoundingRange} (h : r.HasUnit) (scale : ℤ) :
    r.below scale * 10 ^ scale ≤ r.middle * r.unitValue ∧
      r.middle * r.unitValue < (r.below scale + 1) * 10 ^ scale := by
  obtain ⟨h1, h2⟩ := h
  have hq2 : (0 : ℚ) < r.unit.2 := by exact_mod_cast h2
  have hten : (0 : ℚ) < 10 ^ scale.natAbs := by positivity
  have hfloor : ∀ a b : ℕ, 0 < b → ((a / b : ℕ) : ℚ) ≤ a / b ∧ (a / b : ℚ) < (a / b : ℕ) + 1 := by
    intro a b hb
    have hbq : (0 : ℚ) < b := by exact_mod_cast hb
    rw [le_div_iff₀ hbq, div_lt_iff₀ hbq, add_mul, one_mul]
    constructor
    · exact_mod_cast Nat.div_mul_le_self a b
    · exact_mod_cast Nat.lt_div_mul_add hb
  unfold RoundingRange.below unitValue
  simp only [Nat.pow_eq]
  split_ifs with hs
  · obtain ⟨hl, hh⟩ := hfloor (r.middle * r.unit.1 * 10 ^ scale.natAbs) r.unit.2 h2
    have heq : (r.middle * (r.unit.1 / r.unit.2) : ℚ) =
        ((r.middle * r.unit.1 * 10 ^ scale.natAbs : ℕ) / r.unit.2 : ℚ) * 10 ^ scale := by
      rw [Binary64.zpow_of_neg hs]
      push_cast
      field_simp
    have hpos : (0 : ℚ) < 10 ^ scale := zpow_pos (by norm_num) _
    rw [heq]
    exact ⟨mul_le_mul_of_nonneg_right hl hpos.le, mul_lt_mul_of_pos_right hh hpos⟩
  · obtain ⟨hl, hh⟩ := hfloor (r.middle * r.unit.1) (r.unit.2 * 10 ^ scale.natAbs) (by positivity)
    have heq : (r.middle * (r.unit.1 / r.unit.2) : ℚ) =
        ((r.middle * r.unit.1 : ℕ) / (r.unit.2 * 10 ^ scale.natAbs : ℕ) : ℚ) * 10 ^ scale := by
      rw [Binary64.zpow_of_nonneg hs]
      push_cast
      field_simp
    have hpos : (0 : ℚ) < 10 ^ scale := zpow_pos (by norm_num) _
    rw [heq]
    exact ⟨mul_le_mul_of_nonneg_right hl hpos.le, mul_lt_mul_of_pos_right hh hpos⟩

/-- On a grid that is fine enough the point above the number is in the range. -/
theorem holds_above {mantissa : ℕ} {exponent scale : ℤ} (hm : mantissa ≠ 0)
    (hfine : (10 : ℚ) ^ scale < 2 * (of mantissa exponent).unitValue) :
    (of mantissa exponent).Holds (((of mantissa exponent).below scale + 1 : ℕ) * 10 ^ scale) := by
  have hunit := (hasUnit_of mantissa exponent).unitValue_pos
  obtain ⟨hl, hh⟩ := (hasUnit_of mantissa exponent).below scale
  have hmiddle : ((of mantissa exponent).middle : ℚ) = 4 * mantissa := by
    change ((4 * mantissa : ℕ) : ℚ) = _
    push_cast
    rfl
  have hhigh : ((of mantissa exponent).high : ℚ) = 4 * mantissa + 2 := by
    change ((4 * mantissa + 2 : ℕ) : ℚ) = _
    push_cast
    rfl
  have hlow : ((of mantissa exponent).low : ℚ) < 4 * mantissa := by
    rw [low_of mantissa exponent hm]
    split_ifs <;> linarith
  rw [hmiddle] at hl hh
  have habove : (of mantissa exponent).low * (of mantissa exponent).unitValue <
      ((of mantissa exponent).below scale + 1) * 10 ^ scale :=
    (mul_lt_mul_of_pos_right hlow hunit).trans hh
  have hbelow : ((of mantissa exponent).below scale + 1) * 10 ^ scale <
      (of mantissa exponent).high * (of mantissa exponent).unitValue := by
    rw [hhigh]
    linarith
  unfold Holds
  push_cast
  split_ifs
  · exact ⟨habove.le, hbelow.le⟩
  · exact ⟨habove, hbelow⟩

theorem HasUnit.onGrid?_holds {r : RoundingRange} (h : r.HasUnit) {scale : ℤ} {n : Numeral}
    (hn : r.onGrid? scale = some n) : r.Holds n.toRat := by
  have hnear : ∀ k, r.nearer k scale = k ∨ r.nearer k scale = k + 1 := by
    intro k
    unfold nearer
    simp only
    split_ifs <;> simp
  unfold onGrid? at hn
  simp only at hn
  split at hn
  case h_1 hlower hupper =>
    cases hn
    rcases hnear (r.below scale) with he | he
    · rw [Numeral.toRat, he]
      exact h.has_iff.mp hlower
    · rw [Numeral.toRat, he]
      exact h.has_iff.mp hupper
  case h_2 hlower _ =>
    cases hn
    exact h.has_iff.mp hlower
  case h_3 _ hupper =>
    cases hn
    exact h.has_iff.mp hupper
  case h_4 => cases hn

theorem HasUnit.onGrid?_isSome {r : RoundingRange} (h : r.HasUnit) {scale : ℤ}
    (hn : r.Holds ((r.below scale + 1 : ℕ) * 10 ^ scale)) : (r.onGrid? scale).isSome := by
  have hupper : r.has (r.below scale + 1) scale = true := h.has_iff.mpr hn
  unfold onGrid?
  simp only [hupper]
  split <;> simp_all

theorem HasUnit.search_holds {r : RoundingRange} (h : r.HasUnit) {steps : ℕ} {scale : ℤ}
    {n : Numeral} (hn : r.search steps scale = some n) : r.Holds n.toRat := by
  induction steps generalizing scale with
  | zero => cases hn
  | succ steps ih =>
    unfold search at hn
    split at hn
    case h_1 numeral hg =>
      cases hn
      exact h.onGrid?_holds hg
    case h_2 => exact ih hn

theorem search_isSome {r : RoundingRange} {steps k : ℕ} {scale : ℤ} (hk : k < steps)
    (h : (r.onGrid? (scale - k)).isSome) : (r.search steps scale).isSome := by
  induction steps generalizing scale k with
  | zero => omega
  | succ steps ih =>
    unfold search
    split
    case h_1 => rfl
    case h_2 hnone =>
      cases k with
      | zero => simp [hnone] at h
      | succ k =>
        refine ih (k := k) (by omega) ?_
        rw [show scale - 1 - (k : ℤ) = scale - (k + 1 : ℕ) by push_cast; ring]
        exact h

end RoundingRange

namespace Numeral
open RoundingRange Binary64

@[simp] theorem toRat_stripZeros (steps : ℕ) (n : Numeral) :
    (n.stripZeros steps).toRat = n.toRat := by
  induction steps generalizing n with
  | zero => rfl
  | succ steps ih =>
    obtain ⟨digits, scale⟩ := n
    unfold stripZeros
    split_ifs with h
    · rw [ih, toRat, toRat]
      have hdigits : (digits : ℚ) = (digits / 10 : ℕ) * 10 := by
        exact_mod_cast (Nat.div_mul_cancel (Nat.dvd_of_mod_eq_zero h.2)).symm
      simp only
      rw [zpow_add₀ (by norm_num : (10 : ℚ) ≠ 0), zpow_one]
      conv_rhs => rw [hdigits]
      ring
    · rfl

def top (mantissa : ℕ) (exponent : ℤ) : ℤ :=
  if exponent < 0 then
    ((ofNat mantissa).length : ℤ) - ((ofNat (Nat.pow 2 exponent.natAbs)).length : ℤ) + 1
  else ((ofNat (mantissa * Nat.pow 2 exponent.natAbs)).length : ℤ)

theorem ten_zpow_length_le {n : ℕ} (h : n ≠ 0) :
    (10 : ℚ) ^ (((ofNat n).length : ℤ) - 1) ≤ n := by
  have hle : ((10 ^ (ofNat n).length : ℕ) : ℚ) ≤ (10 * n : ℕ) := by
    exact_mod_cast pow_length_ofNat_le h
  push_cast at hle
  rw [zpow_sub₀ (by norm_num), zpow_one, zpow_natCast, div_le_iff₀ (by norm_num)]
  linarith

theorem lt_ten_zpow_length (n : ℕ) : (n : ℚ) < 10 ^ ((ofNat n).length : ℤ) := by
  rw [zpow_natCast]
  exact_mod_cast lt_pow_length_ofNat n

/-- The search does not begin far above the number. -/
theorem ten_zpow_top_le {mantissa : ℕ} (exponent : ℤ) (hm : mantissa ≠ 0) :
    (10 : ℚ) ^ (top mantissa exponent - 2) ≤ mantissa * 2 ^ exponent := by
  have hten : (10 : ℚ) ≠ 0 := by norm_num
  have hone : (1 : ℚ) ≤ 10 := by norm_num
  unfold top
  split_ifs with he
  · have hpow := lt_ten_zpow_length (2 ^ exponent.natAbs)
    have hmantissa := ten_zpow_length_le hm
    have hpos : (0 : ℚ) < 2 ^ exponent.natAbs := by positivity
    push_cast at hpow
    rw [zpow_of_neg he, ← div_eq_mul_inv, le_div_iff₀ hpos, Nat.pow_eq]
    generalize ((ofNat mantissa).length : ℤ) = a at *
    generalize ((ofNat (2 ^ exponent.natAbs)).length : ℤ) = b at *
    calc (10 : ℚ) ^ (a - b + 1 - 2) * 2 ^ exponent.natAbs
        ≤ 10 ^ (a - b + 1 - 2) * 10 ^ b :=
          mul_le_mul_of_nonneg_left hpow.le (zpow_pos (by norm_num) _).le
      _ = 10 ^ (a - 1) := by
          rw [← zpow_add₀ hten]
          congr 1
          ring
      _ ≤ mantissa := hmantissa
  · have hne : mantissa * 2 ^ exponent.natAbs ≠ 0 := mul_ne_zero hm (by positivity)
    have hle := ten_zpow_length_le hne
    push_cast at hle
    rw [zpow_of_nonneg he, Nat.pow_eq]
    exact (zpow_le_zpow_right₀ hone (by omega)).trans hle

/-- After nineteen steps the grid is finer than the distance to the next number. -/
theorem ten_zpow_top_lt {mantissa : ℕ} (exponent : ℤ) (hm : mantissa ≠ 0)
    (hlt : mantissa < 2 ^ 53) :
    (10 : ℚ) ^ (top mantissa exponent - 19) < 2 * (RoundingRange.of mantissa exponent).unitValue := by
  have hten : (10 : ℚ) ≠ 0 := by norm_num
  have hpos : (0 : ℚ) < 2 ^ exponent := zpow_pos two_pos _
  have htop := ten_zpow_top_le exponent hm
  have hcast : (mantissa : ℚ) < 2 ^ 53 := by exact_mod_cast hlt
  have hsplit : (10 : ℚ) ^ (top mantissa exponent - 19) =
      10 ^ (top mantissa exponent - 2) / 10 ^ 17 := by
    rw [show top mantissa exponent - 19 = top mantissa exponent - 2 - 17 by ring, zpow_sub₀ hten]
    norm_cast
  rw [hsplit, unitValue_of, div_lt_iff₀ (by norm_num)]
  have hbound : (mantissa : ℚ) * 2 ^ exponent < 2 ^ 53 * 2 ^ exponent :=
    mul_lt_mul_of_pos_right hcast hpos
  norm_num at hbound ⊢
  linarith

/-- The shortest numeral is rounded to the number. -/
theorem shortest_holds {mantissa : ℕ} {exponent : ℤ} (hm : mantissa ≠ 0)
    (hlt : mantissa < 2 ^ 53) :
    (RoundingRange.of mantissa exponent).Holds (shortest mantissa exponent).toRat := by
  have hunit := hasUnit_of mantissa exponent
  have hfine : (10 : ℚ) ^ (top mantissa exponent - (19 : ℕ)) <
      2 * (RoundingRange.of mantissa exponent).unitValue := ten_zpow_top_lt exponent hm hlt
  have hfound : ((RoundingRange.of mantissa exponent).search 24 (top mantissa exponent)).isSome :=
    search_isSome (by decide) (hunit.onGrid?_isSome (holds_above hm hfine))
  obtain ⟨n, hn⟩ := Option.isSome_iff_exists.mp hfound
  have hshort : shortest mantissa exponent = n.stripZeros 20 := by
    unfold shortest
    unfold top at hn
    simp only [hn]
  rw [hshort, toRat_stripZeros]
  exact hunit.search_holds hn

theorem digits_ne_zero_of_holds {mantissa : ℕ} {exponent : ℤ} (hm : mantissa ≠ 0) {n : Numeral}
    (h : (RoundingRange.of mantissa exponent).Holds n.toRat) : n.digits ≠ 0 := by
  intro hz
  have hle := (isNearest_of_holds hm h).le.1
  have hge : (1 : ℚ) ≤ mantissa := by exact_mod_cast Nat.one_le_iff_ne_zero.mpr hm
  rw [toRat, hz, Nat.cast_zero, zero_mul, zero_div] at hle
  linarith

/-- The place of the first digit of a numeral is near to the size of its number. -/
theorem toRat_bounds {n : Numeral} (h : n.digits ≠ 0) :
    (10 : ℚ) ^ (n.scale + (ofNat n.digits).length - 1) ≤ n.toRat ∧
      n.toRat < 10 ^ (n.scale + (ofNat n.digits).length) := by
  have hten : (10 : ℚ) ≠ 0 := by norm_num
  have hpos : (0 : ℚ) < 10 ^ n.scale := zpow_pos (by norm_num) _
  constructor
  · rw [add_sub_assoc, zpow_add₀ hten, toRat, mul_comm]
    exact mul_le_mul_of_nonneg_right (ten_zpow_length_le h) hpos.le
  · rw [zpow_add₀ hten, toRat, mul_comm]
    exact mul_lt_mul_of_pos_left (lt_ten_zpow_length n.digits) hpos

theorem ten_zpow_lt_least : (10 : ℚ) ^ (-330 : ℤ) < 1 / 2 * 2 ^ (-1074 : ℤ) := by
  have hpow : (2 : ℚ) ^ 1080 < 10 ^ 330 := by
    calc (2 : ℚ) ^ 1080 = (2 ^ 36) ^ 30 := by rw [← pow_mul]
      _ < (10 ^ 11) ^ 30 := pow_lt_pow_left₀ (by norm_num) (by norm_num) (by decide)
      _ = 10 ^ 330 := by rw [← pow_mul]
  have hle : (2 : ℚ) ^ 1075 ≤ 2 ^ 1080 := pow_le_pow_right₀ one_le_two (by decide)
  have hhalf : (1 / 2 * 2 ^ (-1074 : ℤ) : ℚ) = (2 ^ 1075)⁻¹ := by
    rw [zpow_neg, show (1074 : ℤ) = (1074 : ℕ) from rfl, zpow_natCast,
      show (2 : ℚ) ^ 1075 = 2 * 2 ^ 1074 from pow_succ' 2 1074, mul_inv, one_div]
  rw [hhalf, zpow_neg, show (330 : ℤ) = (330 : ℕ) from rfl, zpow_natCast]
  exact inv_strictAnti₀ (by positivity) (hle.trans_lt hpow)

theorem greatest_lt_ten_zpow : (2 : ℚ) ^ 53 * 2 ^ (971 : ℤ) < 10 ^ (320 : ℤ) := by
  rw [show (971 : ℤ) = (971 : ℕ) from rfl, show (320 : ℤ) = (320 : ℕ) from rfl, zpow_natCast,
    zpow_natCast, ← pow_add]
  calc (2 : ℚ) ^ (53 + 971) = (2 ^ 32) ^ 32 := by rw [← pow_mul]
    _ < (10 ^ 10) ^ 32 := pow_lt_pow_left₀ (by norm_num) (by norm_num) (by decide)
    _ = 10 ^ 320 := by rw [← pow_mul]

theorem place_bounds {mantissa : ℕ} {exponent : ℤ} (hf : IsFinite mantissa exponent)
    (hm : mantissa ≠ 0) {n : Numeral} (h : (RoundingRange.of mantissa exponent).Holds n.toRat) :
    -330 ≤ n.scale + (ofNat n.digits).length ∧ n.scale + (ofNat n.digits).length ≤ 320 := by
  obtain ⟨hlow, hhigh⟩ := toRat_bounds (digits_ne_zero_of_holds hm h)
  have hone : (1 : ℚ) ≤ 2 := by norm_num
  have hpos : (0 : ℚ) < 2 ^ exponent := zpow_pos two_pos _
  have hge : (1 : ℚ) ≤ mantissa := by exact_mod_cast Nat.one_le_iff_ne_zero.mpr hm
  have hlt : (mantissa : ℚ) + 1 ≤ 2 ^ 53 := by exact_mod_cast hf.mantissa_lt
  obtain ⟨hnl, hnh⟩ := (isNearest_of_holds hm h).le
  rw [le_div_iff₀ hpos] at hnl
  rw [div_le_iff₀ hpos] at hnh
  generalize n.scale + ((ofNat n.digits).length : ℤ) = place at *
  constructor
  · by_contra hsmall
    have hplace : (10 : ℚ) ^ place ≤ 10 ^ (-330 : ℤ) := zpow_le_zpow_right₀ (by norm_num) (by omega)
    have hleast : (2 : ℚ) ^ (-1074 : ℤ) ≤ 2 ^ exponent := zpow_le_zpow_right₀ hone hf.least_le
    have hfloor : 1 / 2 * 2 ^ exponent ≤ n.toRat :=
      (mul_le_mul_of_nonneg_right (by linarith) hpos.le).trans hnl
    linarith [ten_zpow_lt_least]
  · by_contra hlarge
    have hplace : (10 : ℚ) ^ (320 : ℤ) ≤ 10 ^ (place - 1) :=
      zpow_le_zpow_right₀ (by norm_num) (by omega)
    have hgreat : (2 : ℚ) ^ exponent ≤ 2 ^ (971 : ℤ) := zpow_le_zpow_right₀ hone hf.le_greatest
    have hceil : n.toRat ≤ 2 ^ 53 * 2 ^ (971 : ℤ) :=
      hnh.trans (mul_le_mul (by linarith) hgreat hpos.le (by positivity))
    exact absurd ((hplace.trans hlow).trans hceil) (not_le.mpr greatest_lt_ten_zpow)

/-- A numeral in the range of a number is read as this number. -/
theorem ofDecimal_of_holds (negative : Bool) {mantissa : ℕ} {exponent : ℤ}
    (hf : IsFinite mantissa exponent) (hm : mantissa ≠ 0) {n : Numeral}
    (h : (RoundingRange.of mantissa exponent).Holds n.toRat) :
    ofDecimal negative n.digits n.scale = .finite negative mantissa exponent := by
  obtain ⟨hlow, hhigh⟩ := place_bounds hf hm h
  have hdigits := digits_ne_zero_of_holds hm h
  have hfirst : ¬ (n.digits = 0 || n.scale + ((ofNat n.digits).length : ℤ) < -330) = true := by
    simp only [Bool.or_eq_true, decide_eq_true_eq, not_or, not_lt]
    exact ⟨hdigits, hlow⟩
  unfold ofDecimal
  simp only [if_neg hfirst, if_neg (not_lt.mpr hhigh)]
  rw [toRat] at h
  split_ifs with hs
  · refine ofRatio_of_holds negative (pow_ne_zero _ (by decide)) hf hm ?_
    rw [zpow_of_neg hs, ← div_eq_mul_inv] at h
    push_cast [Nat.pow_eq]
    exact h
  · refine ofRatio_of_holds negative one_ne_zero hf hm ?_
    rw [zpow_of_nonneg hs] at h
    push_cast [Nat.pow_eq]
    rw [div_one]
    exact h

end Numeral

end GeoUrn.Decimal
