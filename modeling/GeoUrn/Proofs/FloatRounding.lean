import GeoUrn.Decimal.Shortest
import GeoUrn.Proofs.Numerals

/-!
Rounding to floating-point numbers. Each positive number has the range of the rationals that are
nearest to it, and a ratio or a decimal numeral in this range is read as that number.
-/
namespace GeoUrn.Decimal

namespace Binary64

/-- A mantissa of 53 bits, or a smaller one with the least exponent. -/
structure IsFinite (mantissa : ℕ) (exponent : ℤ) : Prop where
  mantissa_lt : mantissa < 2 ^ 53
  least_le : leastExponent ≤ exponent
  le_greatest : exponent ≤ greatestExponent
  full : 2 ^ 52 ≤ mantissa ∨ exponent = leastExponent

instance (mantissa : ℕ) (exponent : ℤ) : Decidable (IsFinite mantissa exponent) :=
  decidable_of_iff (mantissa < 2 ^ 53 ∧ leastExponent ≤ exponent ∧ exponent ≤ greatestExponent ∧
    (2 ^ 52 ≤ mantissa ∨ exponent = leastExponent))
    ⟨fun ⟨a, b, c, d⟩ => ⟨a, b, c, d⟩, fun ⟨a, b, c, d⟩ => ⟨a, b, c, d⟩⟩

/-- The floating-point numbers that there are, each in its one form. -/
def IsCanonical : Binary64 → Prop
  | .finite _ mantissa exponent => IsFinite mantissa exponent
  | .infinite _ => True
  | .undefined => True

/-- `m` is the whole number that `y` is rounded to. -/
def IsNearest (y : ℚ) (m : ℕ) : Prop :=
  (m - 1 / 2 < y ∧ y < m + 1 / 2) ∨ (m % 2 = 0 ∧ m - 1 / 2 ≤ y ∧ y ≤ m + 1 / 2)

theorem roundDiv_eq_of_le {num den m : ℕ} (hd : 0 < den) (hlow : 2 * m * den ≤ 2 * num + den)
    (hhigh : 2 * num ≤ 2 * m * den + den)
    (hodd : m % 2 ≠ 0 → 2 * m * den ≠ 2 * num + den ∧ 2 * num ≠ 2 * m * den + den) :
    roundDiv num den = m := by
  have hsplit : num = den * (num / den) + num % den := (Nat.div_add_mod num den).symm
  have hrest : num % den < den := Nat.mod_lt num hd
  unfold roundDiv
  generalize num / den = q at *
  generalize num % den = r at *
  subst hsplit
  have hle : m ≤ q + 1 := by
    by_contra hlt
    have : (q + 2) * den ≤ m * den := Nat.mul_le_mul_right den (by omega)
    nlinarith
  have hge : q ≤ m := by
    by_contra hlt
    have : (m + 1) * den ≤ q * den := Nat.mul_le_mul_right den (by omega)
    nlinarith
  obtain rfl | rfl : m = q ∨ m = q + 1 := by omega
  · have hr : 2 * r ≤ den := by nlinarith
    have hne : m % 2 ≠ 0 → 2 * r ≠ den := fun ho he => (hodd ho).2 (by nlinarith)
    simp only
    split_ifs <;> omega
  · have hr : den ≤ 2 * r := by nlinarith
    have hne : (q + 1) % 2 ≠ 0 → den ≠ 2 * r := fun ho he => (hodd ho).1 (by nlinarith)
    simp only
    split_ifs <;> omega

theorem roundDiv_of_isNearest {num den m : ℕ} (hd : den ≠ 0)
    (h : IsNearest (num / den : ℚ) m) : roundDiv num den = m := by
  have hpos : (0 : ℚ) < den := by exact_mod_cast Nat.pos_of_ne_zero hd
  have hlt_iff : ∀ a : ℚ, a < num / den ↔ a * den < num := fun a => lt_div_iff₀ hpos
  have hle_iff : ∀ a : ℚ, a ≤ num / den ↔ a * den ≤ num := fun a => le_div_iff₀ hpos
  have hgt_iff : ∀ a : ℚ, num / den < a ↔ num < a * den := fun a => div_lt_iff₀ hpos
  have hge_iff : ∀ a : ℚ, num / den ≤ a ↔ num ≤ a * den := fun a => div_le_iff₀ hpos
  rcases h with ⟨hl, hh⟩ | ⟨heven, hl, hh⟩
  · rw [hlt_iff] at hl
    rw [hgt_iff] at hh
    have hl' : 2 * m * den < 2 * num + den := by
      have : (2 * m * den : ℚ) < 2 * num + den := by linarith
      exact_mod_cast this
    have hh' : 2 * num < 2 * m * den + den := by
      have : (2 * num : ℚ) < 2 * m * den + den := by linarith
      exact_mod_cast this
    exact roundDiv_eq_of_le (Nat.pos_of_ne_zero hd) hl'.le hh'.le fun _ => ⟨hl'.ne, hh'.ne⟩
  · rw [hle_iff] at hl
    rw [hge_iff] at hh
    have hl' : 2 * m * den ≤ 2 * num + den := by
      have : (2 * m * den : ℚ) ≤ 2 * num + den := by linarith
      exact_mod_cast this
    have hh' : 2 * num ≤ 2 * m * den + den := by
      have : (2 * num : ℚ) ≤ 2 * m * den + den := by linarith
      exact_mod_cast this
    exact roundDiv_eq_of_le (Nat.pos_of_ne_zero hd) hl' hh' fun ho => absurd heven ho

theorem zpow_of_neg {b : ℚ} {k : ℤ} (h : k < 0) : b ^ k = (b ^ k.natAbs)⁻¹ := by
  have hk : k = -(k.natAbs : ℤ) := by omega
  conv_lhs => rw [hk]
  rw [zpow_neg, zpow_natCast]

theorem zpow_of_nonneg {b : ℚ} {k : ℤ} (h : ¬ k < 0) : b ^ k = b ^ k.natAbs := by
  have hk : k = (k.natAbs : ℤ) := by omega
  conv_lhs => rw [hk]
  rw [zpow_natCast]

theorem roundAt_of_isNearest {num den m : ℕ} {exponent : ℤ} (hd : den ≠ 0)
    (h : IsNearest ((num / den : ℚ) / 2 ^ exponent) m) : roundAt num den exponent = m := by
  unfold roundAt
  split_ifs with he
  · refine roundDiv_of_isNearest hd ?_
    rw [zpow_of_neg he, div_inv_eq_mul, div_mul_eq_mul_div] at h
    push_cast [Nat.pow_eq]
    exact h
  · refine roundDiv_of_isNearest (mul_ne_zero hd (pow_ne_zero _ two_ne_zero)) ?_
    rw [zpow_of_nonneg he, div_div] at h
    push_cast [Nat.pow_eq]
    exact h

theorem lt_of_two_zpow_lt {a b : ℤ} (h : (2 : ℚ) ^ a < 2 ^ b) : a < b :=
  (zpow_lt_zpow_iff_right₀ one_lt_two).mp h

theorem pow_log2_le {n : ℕ} (h : n ≠ 0) : (2 : ℚ) ^ (n.log2 : ℤ) ≤ n := by
  rw [zpow_natCast]
  exact_mod_cast Nat.log2_self_le h

theorem lt_pow_log2 (n : ℕ) : (n : ℚ) < 2 ^ ((n.log2 : ℤ) + 1) := by
  have h : n < 2 ^ (n.log2 + 1) := Nat.lt_log2_self
  rw [← Nat.cast_one (R := ℤ), ← Nat.cast_add, zpow_natCast]
  exact_mod_cast h

/-- The logarithms of both sides of a ratio settle its exponent but for one. -/
theorem ratio_bounds {num den : ℕ} (hn : num ≠ 0) (hd : den ≠ 0) :
    (2 : ℚ) ^ ((num.log2 : ℤ) - den.log2 - 1) < num / den ∧
      (num / den : ℚ) < 2 ^ ((num.log2 : ℤ) - den.log2 + 1) := by
  have hpos : (0 : ℚ) < den := by exact_mod_cast Nat.pos_of_ne_zero hd
  have htwo : (0 : ℚ) < 2 := two_pos
  constructor
  · rw [lt_div_iff₀ hpos]
    calc (2 : ℚ) ^ ((num.log2 : ℤ) - den.log2 - 1) * den
        < 2 ^ ((num.log2 : ℤ) - den.log2 - 1) * 2 ^ ((den.log2 : ℤ) + 1) :=
          mul_lt_mul_of_pos_left (lt_pow_log2 den) (zpow_pos htwo _)
      _ = 2 ^ (num.log2 : ℤ) := by
          rw [← zpow_add₀ htwo.ne']
          congr 1
          ring
      _ ≤ num := pow_log2_le hn
  · rw [div_lt_iff₀ hpos]
    calc (num : ℚ) < 2 ^ ((num.log2 : ℤ) + 1) := lt_pow_log2 num
      _ = 2 ^ ((num.log2 : ℤ) - den.log2 + 1) * 2 ^ (den.log2 : ℤ) := by
          rw [← zpow_add₀ htwo.ne']
          congr 1
          ring
      _ ≤ 2 ^ ((num.log2 : ℤ) - den.log2 + 1) * den :=
          mul_le_mul_of_nonneg_left (pow_log2_le hd) (zpow_pos htwo _).le

/-- The test whether the guess leaves a mantissa that is too small. -/
theorem ratio_lt_iff {num den : ℕ} {guess : ℤ} (hd : den ≠ 0) :
    (if guess < 0 then decide (num * Nat.pow 2 guess.natAbs < den * Nat.pow 2 52)
      else decide (num < den * Nat.pow 2 52 * Nat.pow 2 guess.natAbs)) = true ↔
      (num / den : ℚ) < 2 ^ (52 + guess) := by
  have hpos : (0 : ℚ) < den := by exact_mod_cast Nat.pos_of_ne_zero hd
  have hpow : (0 : ℚ) < 2 ^ guess.natAbs := by positivity
  rw [zpow_add₀ two_ne_zero, show (2 : ℚ) ^ (52 : ℤ) = 2 ^ 52 by norm_cast, div_lt_iff₀ hpos]
  split_ifs with hg
  · have hside : (2 : ℚ) ^ 52 * den = ((den * 2 ^ 52 : ℕ) : ℚ) := by
      push_cast
      ring
    have hnum : (num : ℚ) * 2 ^ guess.natAbs = ((num * 2 ^ guess.natAbs : ℕ) : ℚ) := by push_cast; rfl
    rw [zpow_of_neg hg, mul_right_comm, ← div_eq_mul_inv, lt_div_iff₀ hpow, hside, hnum,
      Nat.cast_lt, decide_eq_true_iff]
    rfl
  · have hside : (2 : ℚ) ^ 52 * 2 ^ guess.natAbs * den =
        ((den * 2 ^ 52 * 2 ^ guess.natAbs : ℕ) : ℚ) := by
      push_cast
      ring
    rw [zpow_of_nonneg hg, hside, Nat.cast_lt, decide_eq_true_iff]
    rfl

theorem exponentOf_eq {num den : ℕ} {k : ℤ} (hn : num ≠ 0) (hd : den ≠ 0)
    (hlow : (2 : ℚ) ^ (52 + k) ≤ num / den) (hhigh : (num / den : ℚ) < 2 ^ (53 + k)) :
    exponentOf num den = max leastExponent k := by
  obtain ⟨hl, hh⟩ := ratio_bounds hn hd
  unfold exponentOf
  simp only [ratio_lt_iff hd]
  generalize hguess : (num.log2 : ℤ) - den.log2 - 52 = guess
  have hbelow : (num.log2 : ℤ) - den.log2 - 1 = guess + 51 := by omega
  have habove : (num.log2 : ℤ) - den.log2 + 1 = guess + 53 := by omega
  rw [hbelow] at hl
  rw [habove] at hh
  congr 1
  split_ifs with hs
  · have h1 : 52 + k < 52 + guess := lt_of_two_zpow_lt (hlow.trans_lt hs)
    have h2 : guess + 51 < 53 + k := lt_of_two_zpow_lt (hl.trans hhigh)
    omega
  · have h1 : 52 + k < guess + 53 := lt_of_two_zpow_lt (hlow.trans_lt hh)
    have h2 : 52 + guess < 53 + k := lt_of_two_zpow_lt ((not_lt.mp hs).trans_lt hhigh)
    omega

/-- A ratio that is too small for a full mantissa has the least exponent. -/
theorem exponentOf_of_small {num den : ℕ} (hn : num ≠ 0) (hd : den ≠ 0)
    (h : (num / den : ℚ) < 2 ^ (52 + leastExponent)) : exponentOf num den = leastExponent := by
  have hpos : (0 : ℚ) < num / den :=
    div_pos (by exact_mod_cast Nat.pos_of_ne_zero hn) (by exact_mod_cast Nat.pos_of_ne_zero hd)
  obtain ⟨k, hlow, hhigh⟩ := exists_mem_Ico_zpow hpos (one_lt_two (α := ℚ))
  have hk : k < 52 + leastExponent := lt_of_two_zpow_lt (hlow.trans_lt h)
  have he : exponentOf num den = max leastExponent (k - 52) := by
    refine exponentOf_eq hn hd ?_ ?_
    · rwa [show 52 + (k - 52) = k by ring]
    · rwa [show 53 + (k - 52) = k + 1 by ring]
  rw [he, max_eq_left (by omega)]

end Binary64

namespace RoundingRange
open Binary64

def unitValue (r : RoundingRange) : ℚ := r.unit.1 / r.unit.2

/-- Whether a rational number is rounded to the number of the range. -/
def Holds (r : RoundingRange) (x : ℚ) : Prop :=
  if r.closed then r.low * r.unitValue ≤ x ∧ x ≤ r.high * r.unitValue
  else r.low * r.unitValue < x ∧ x < r.high * r.unitValue

theorem unitValue_of (mantissa : ℕ) (exponent : ℤ) :
    (of mantissa exponent).unitValue = 2 ^ exponent / 4 := by
  have hfour : (2 : ℚ) ^ exponent / 4 = 2 ^ (exponent - 2) := by
    rw [zpow_sub₀ two_ne_zero]
    norm_num
  have hunit : (of mantissa exponent).unit =
      if exponent < 2 then (1, 2 ^ (2 - exponent).natAbs) else (2 ^ (exponent - 2).natAbs, 1) := rfl
  rw [hfour, unitValue, hunit]
  split_ifs with h
  · have habs : (2 - exponent).natAbs = (exponent - 2).natAbs := by omega
    rw [zpow_of_neg (by omega), habs]
    simp
  · rw [zpow_of_nonneg (by omega)]
    simp

theorem low_of (mantissa : ℕ) (exponent : ℤ) (hm : mantissa ≠ 0) :
    ((of mantissa exponent).low : ℚ) =
      if mantissa = 2 ^ 52 ∧ leastExponent < exponent then 4 * (mantissa : ℚ) - 1
      else 4 * mantissa - 2 := by
  change ((if _ then _ else _ : ℕ) : ℚ) = _
  rw [Nat.pow_eq]
  split_ifs with h
  · rw [Nat.cast_sub (by omega)]
    push_cast
    rfl
  · rw [Nat.cast_sub (by omega)]
    push_cast
    rfl

theorem isNearest_of_holds {mantissa : ℕ} {exponent : ℤ} {x : ℚ} (hm : mantissa ≠ 0)
    (h : (of mantissa exponent).Holds x) : IsNearest (x / 2 ^ exponent) mantissa := by
  have hpos : (0 : ℚ) < 2 ^ exponent := zpow_pos two_pos _
  have hlow : 4 * (mantissa : ℚ) - 2 ≤ (of mantissa exponent).low := by
    rw [low_of mantissa exponent hm]
    split_ifs <;> linarith
  have hhigh : ((of mantissa exponent).high : ℚ) = 4 * mantissa + 2 := by
    change ((4 * mantissa + 2 : ℕ) : ℚ) = _
    push_cast
    rfl
  unfold Holds at h
  rw [unitValue_of, hhigh] at h
  split_ifs at h with hc
  · have heven : mantissa % 2 = 0 := of_decide_eq_true hc
    refine Or.inr ⟨heven, ?_, ?_⟩
    · rw [le_div_iff₀ hpos]
      nlinarith [h.1]
    · rw [div_le_iff₀ hpos]
      linarith [h.2]
  · refine Or.inl ⟨?_, ?_⟩
    · rw [lt_div_iff₀ hpos]
      nlinarith [h.1]
    · rw [div_lt_iff₀ hpos]
      linarith [h.2]

/-- Below a power of two the range is narrower. -/
theorem le_of_holds_power {exponent : ℤ} {x : ℚ} (hl : leastExponent < exponent)
    (h : (of (2 ^ 52) exponent).Holds x) : (2 ^ 52 - 1 / 4 : ℚ) ≤ x / 2 ^ exponent := by
  have hpos : (0 : ℚ) < 2 ^ exponent := zpow_pos two_pos _
  have hlow := low_of (2 ^ 52) exponent (by decide)
  rw [if_pos ⟨rfl, hl⟩] at hlow
  have hle : ((of (2 ^ 52) exponent).low : ℚ) * (2 ^ exponent / 4) ≤ x := by
    unfold Holds at h
    rw [unitValue_of] at h
    split_ifs at h
    · exact h.1
    · exact h.1.le
  rw [le_div_iff₀ hpos]
  rw [hlow] at hle
  push_cast at hle
  linarith

end RoundingRange

namespace Binary64
open RoundingRange

theorem IsNearest.le {y : ℚ} {m : ℕ} (h : IsNearest y m) : m - 1 / 2 ≤ y ∧ y ≤ m + 1 / 2 := by
  rcases h with h | h
  · exact ⟨h.1.le, h.2.le⟩
  · exact h.2

/-- The largest mantissa is odd, so that its range ends before the next power of two. -/
theorem IsNearest.lt_full {y : ℚ} {m : ℕ} (h : IsNearest y m) (hm : m < 2 ^ 53) :
    y < 2 ^ 53 := by
  have hcast : (m : ℚ) + 1 ≤ 2 ^ 53 := by exact_mod_cast hm
  linarith [h.le.2]

theorem ofRatio_of_round (negative : Bool) {num den mantissa : ℕ} {exponent : ℤ} (hn : num ≠ 0)
    (hexp : exponentOf num den = exponent) (hround : roundAt num den exponent = mantissa)
    (hm : mantissa < 2 ^ 53) (he : exponent ≤ greatestExponent) :
    ofRatio negative num den = .finite negative mantissa exponent := by
  have hne : mantissa ≠ Nat.pow 2 53 := hm.ne
  unfold ofRatio
  simp only [if_neg hn, hexp, hround, if_neg hne]
  exact if_neg (not_lt.mpr he)

/-- A mantissa that is rounded up to the next power of two gets a greater exponent. -/
theorem ofRatio_of_carry (negative : Bool) {num den : ℕ} {exponent : ℤ} (hn : num ≠ 0)
    (hexp : exponentOf num den = exponent - 1) (hround : roundAt num den (exponent - 1) = 2 ^ 53)
    (he : exponent ≤ greatestExponent) :
    ofRatio negative num den = .finite negative (2 ^ 52) exponent := by
  have hpow : 2 ^ 53 = Nat.pow 2 53 := rfl
  unfold ofRatio
  simp only [if_neg hn, hexp, hround, if_pos hpow, sub_add_cancel]
  exact if_neg (not_lt.mpr he)

/-- A ratio in the range of a number is read as this number. -/
theorem ofRatio_of_holds (negative : Bool) {num den mantissa : ℕ} {exponent : ℤ}
    (hd : den ≠ 0) (hf : IsFinite mantissa exponent) (hm : mantissa ≠ 0)
    (h : (RoundingRange.of mantissa exponent).Holds (num / den)) :
    ofRatio negative num den = .finite negative mantissa exponent := by
  have hpos : (0 : ℚ) < 2 ^ exponent := zpow_pos two_pos _
  have hnear := isNearest_of_holds hm h
  have hlt := hnear.lt_full hf.mantissa_lt
  have hn : num ≠ 0 := by
    rintro rfl
    have hge : (1 : ℚ) ≤ mantissa := by exact_mod_cast Nat.one_le_iff_ne_zero.mpr hm
    have hle := hnear.le.1
    rw [Nat.cast_zero, zero_div, zero_div] at hle
    linarith
  have hround : roundAt num den exponent = mantissa := roundAt_of_isNearest hd hnear
  by_cases hfull : (2 : ℚ) ^ 52 ≤ (num / den) / 2 ^ exponent
  · have hexp : exponentOf num den = exponent := by
      rw [exponentOf_eq hn hd (k := exponent), max_eq_right hf.least_le]
      · rw [zpow_add₀ two_ne_zero, ← le_div_iff₀ hpos]
        exact_mod_cast hfull
      · rw [zpow_add₀ two_ne_zero, ← div_lt_iff₀ hpos]
        exact_mod_cast hlt
    exact ofRatio_of_round negative hn hexp hround hf.mantissa_lt hf.le_greatest
  rw [not_le] at hfull
  by_cases hleast : exponent = leastExponent
  · have hexp : exponentOf num den = exponent := by
      rw [hleast] at hfull hpos ⊢
      refine exponentOf_of_small hn hd ?_
      rw [zpow_add₀ two_ne_zero, ← div_lt_iff₀ hpos]
      exact_mod_cast hfull
    exact ofRatio_of_round negative hn hexp hround hf.mantissa_lt hf.le_greatest
  -- Just below a power of two a ratio has the exponent before, and its mantissa carries over.
  have hlarge : leastExponent < exponent := lt_of_le_of_ne hf.least_le (Ne.symm hleast)
  have hpower : mantissa = 2 ^ 52 := by
    by_contra hne
    have hmin : 2 ^ 52 ≤ mantissa := hf.full.resolve_right hleast
    have hnext : (2 : ℚ) ^ 52 + 1 ≤ mantissa := by
      exact_mod_cast Nat.succ_le_of_lt (lt_of_le_of_ne hmin (Ne.symm hne))
    linarith [hnear.le.1]
  subst hpower
  have hquarter := le_of_holds_power hlarge h
  have hpos' : (0 : ℚ) < 2 ^ (exponent - 1) := zpow_pos two_pos _
  have hhalf : (num / den : ℚ) / 2 ^ (exponent - 1) = 2 * ((num / den) / 2 ^ exponent) := by
    rw [zpow_sub₀ two_ne_zero, zpow_one]
    field_simp
  have hexp : exponentOf num den = exponent - 1 := by
    rw [exponentOf_eq hn hd (k := exponent - 1), max_eq_right (by omega)]
    · rw [zpow_add₀ two_ne_zero, ← le_div_iff₀ hpos', hhalf]
      norm_num at hquarter ⊢
      linarith
    · rw [zpow_add₀ two_ne_zero, ← div_lt_iff₀ hpos', hhalf]
      norm_num at hfull ⊢
      linarith
  have hcarry : roundAt num den (exponent - 1) = 2 ^ 53 := by
    refine roundAt_of_isNearest hd (Or.inr ⟨by decide, ?_, ?_⟩)
    · rw [hhalf]
      push_cast
      linarith
    · rw [hhalf]
      push_cast
      linarith
  exact ofRatio_of_carry negative hn hexp hcarry hf.le_greatest

end Binary64

end GeoUrn.Decimal
