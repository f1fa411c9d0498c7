import GeoUrn.Decimal.Digits
import GeoUrn.Proofs.CodePoints

/-!
Numerals. The digits of a number say the number, there is no needless zero in front, and their
number tells how large it is.
-/
namespace GeoUrn.Decimal

theorem isDigit_digitChar {d : ℕ} (h : d < 10) : isDigit (digitChar d) := by
  interval_cases d <;> decide

theorem toNat_digitChar {d : ℕ} (h : d < 10) : (digitChar d).toNat - 48 = d := by
  interval_cases d <;> decide

theorem digitChar_ne_zero {d : ℕ} (h : d < 10) (hd : d ≠ 0) : digitChar d ≠ '0' := by
  interval_cases d
  · exact absurd rfl hd
  all_goals decide

theorem digits_ne_nil (b n : ℕ) : digits b n ≠ [] := by
  rw [digits]
  split <;> simp

theorem ofNat_ne_nil (n : ℕ) : ofNat n ≠ [] := digits_ne_nil 10 n

theorem digits_of_lt {b n : ℕ} (h : n < b) : digits b n = [digitChar n] := by
  rw [digits, dif_pos (Or.inl h)]

theorem digits_of_le {b n : ℕ} (hb : 2 ≤ b) (h : b ≤ n) :
    digits b n = digits b (n / b) ++ [digitChar (n % b)] := by
  rw [digits, dif_neg (by omega)]

theorem ofNat_of_lt {n : ℕ} (h : n < 10) : ofNat n = [digitChar n] := digits_of_lt h

theorem ofNat_of_le {n : ℕ} (h : 10 ≤ n) : ofNat n = ofNat (n / 10) ++ [digitChar (n % 10)] :=
  digits_of_le (by decide) h

/-- The numbers below the base are written with one digit, and all others with one digit more than
what is left of them without their last digit. -/
theorem digits_induction {b : ℕ} (hb : 2 ≤ b) {motive : ℕ → Prop} (digit : ∀ n < b, motive n)
    (more : ∀ n, b ≤ n → motive (n / b) → motive n) (n : ℕ) : motive n := by
  induction n using Nat.strong_induction_on with
  | _ n ih =>
    by_cases h : n < b
    · exact digit n h
    · exact more n (by omega) (ih (n / b) (Nat.div_lt_self (by omega) hb))

theorem ofNat_induction {motive : ℕ → Prop} (digit : ∀ n < 10, motive n)
    (tens : ∀ n, 10 ≤ n → motive (n / 10) → motive n) (n : ℕ) : motive n :=
  digits_induction (by decide) digit tens n

theorem isDigit_of_mem_ofNat (n : ℕ) : ∀ c ∈ ofNat n, isDigit c := by
  induction n using ofNat_induction with
  | digit n h =>
    rw [ofNat_of_lt h]
    simp [isDigit_digitChar h]
  | tens n h ih =>
    rw [ofNat_of_le h]
    intro c hc
    rcases List.mem_append.mp hc with hc | hc
    · exact ih c hc
    · rw [List.mem_singleton.mp hc]
      exact isDigit_digitChar (Nat.mod_lt n (by decide))

theorem value_append (s t : Text) : value (s ++ t) = value s * 10 ^ t.length + value t := by
  induction t using List.reverseRecOn with
  | nil => simp [value]
  | append_singleton t c ih =>
    have hstep : ∀ u : Text, value (u ++ [c]) = value u * 10 + (c.toNat - 48) := by
      intro u
      simp [value]
    rw [← List.append_assoc, hstep, hstep, ih]
    simp only [List.length_append, List.length_singleton, pow_succ]
    ring

@[simp] theorem value_ofNat (n : ℕ) : value (ofNat n) = n := by
  induction n using ofNat_induction with
  | digit n h =>
    rw [ofNat_of_lt h]
    simp [value, toNat_digitChar h]
  | tens n h ih =>
    have hlast : value [digitChar (n % 10)] = n % 10 := by
      simp [value, toNat_digitChar (Nat.mod_lt n (by decide : 0 < 10))]
    rw [ofNat_of_le h, value_append, ih, hlast, List.length_singleton, pow_one]
    omega

@[simp] theorem value_zeros (k : ℕ) : value (List.replicate k '0') = 0 := by
  induction k with
  | zero => rfl
  | succ k ih =>
    rw [List.replicate_succ', value_append, ih]
    decide

theorem head?_ofNat {n : ℕ} (h : n ≠ 0) : (ofNat n).head? ≠ some (CodePoint.char '0') := by
  induction n using ofNat_induction with
  | digit n hn =>
    rw [ofNat_of_lt hn]
    simp [digitChar_ne_zero hn h]
  | tens n hn ih =>
    rw [ofNat_of_le hn, List.head?_append_of_ne_nil _ (ofNat_ne_nil _)]
    exact ih (by omega)

theorem length_ofNat_pos (n : ℕ) : 0 < (ofNat n).length :=
  List.length_pos_iff.mpr (ofNat_ne_nil n)

theorem lt_pow_length_ofNat (n : ℕ) : n < 10 ^ (ofNat n).length := by
  induction n using ofNat_induction with
  | digit n h =>
    rw [ofNat_of_lt h]
    simpa using h
  | tens n h ih =>
    rw [ofNat_of_le h, List.length_append, List.length_singleton, pow_succ]
    omega

theorem pow_length_ofNat_le {n : ℕ} (h : n ≠ 0) : 10 ^ (ofNat n).length ≤ 10 * n := by
  induction n using ofNat_induction with
  | digit n hn =>
    rw [ofNat_of_lt hn, List.length_singleton]
    omega
  | tens n hn ih =>
    have hrest := ih (by omega)
    rw [ofNat_of_le hn, List.length_append, List.length_singleton, pow_succ]
    omega

theorem isDigit_of_mem_padded (width n : ℕ) : ∀ c ∈ padded width n, isDigit c := by
  intro c hc
  rcases List.mem_append.mp hc with hc | hc
  · rw [List.eq_of_mem_replicate hc]
    decide
  · exact isDigit_of_mem_ofNat n c hc

theorem value_padded (width n : ℕ) : value (padded width n) = n := by
  rw [padded, widen, value_append, value_zeros, value_ofNat]
  simp

/-- A number below a power of the base has no more digits than the power says. -/
theorem length_digits_le {b width n : ℕ} (hb : 2 ≤ b) (hw : 0 < width) (h : n < b ^ width) :
    (digits b n).length ≤ width := by
  induction width generalizing n with
  | zero => omega
  | succ width ih =>
    rcases lt_or_ge n b with hn | hn
    · simp [digits_of_lt hn]
    · have hpos : 0 < width := by
        by_contra h0
        simp [Nat.eq_zero_of_not_pos h0] at h
        omega
      have hquot : n / b < b ^ width := Nat.div_lt_of_lt_mul (by rwa [← pow_succ'])
      have hlen := ih hpos hquot
      simp [digits_of_le hb hn, hlen]

theorem length_widen {width : ℕ} {numeral : Text} (h : numeral.length ≤ width) :
    (widen width numeral).length = width := by
  simp [widen, h]

theorem length_padded {width n : ℕ} (hw : 0 < width) (h : n < 10 ^ width) :
    (padded width n).length = width :=
  length_widen (length_digits_le (by decide) hw h)

def hexDigits : Text := "0123456789abcdef"

theorem digitChar_mem_hexDigits {d : ℕ} (h : d < 16) : digitChar d ∈ hexDigits := by
  interval_cases d <;> decide

theorem hexDigit?_digitChar {d : ℕ} (h : d < 16) : hexDigit? (digitChar d) = some d := by
  interval_cases d <;> decide

theorem mem_hexDigits_of_mem_digits (n : ℕ) : ∀ c ∈ digits 16 n, c ∈ hexDigits := by
  induction n using digits_induction (show 2 ≤ 16 by decide) with
  | digit n h => simp [digits_of_lt h, digitChar_mem_hexDigits h]
  | more n h ih =>
    intro c hc
    rw [digits_of_le (by decide) h] at hc
    rcases List.mem_append.mp hc with hc | hc
    · exact ih c hc
    · rw [List.mem_singleton.mp hc]
      exact digitChar_mem_hexDigits (Nat.mod_lt n (by decide))

theorem mem_hexDigits_of_mem_hex (width n : ℕ) : ∀ c ∈ hex width n, c ∈ hexDigits := by
  intro c hc
  rcases List.mem_append.mp hc with hc | hc
  · rw [List.eq_of_mem_replicate hc]
    decide
  · exact mem_hexDigits_of_mem_digits n c hc

theorem length_hex {width n : ℕ} (hw : 0 < width) (h : n < 16 ^ width) :
    (hex width n).length = width :=
  length_widen (length_digits_le (by decide) hw h)

/-- The number that hexadecimal digits stand for when those of `start` go before them. -/
def hexValueFrom? (start : ℕ) (numeral : Text) : Option ℕ :=
  numeral.foldlM (fun n c => (hexDigit? c).map (16 * n + ·)) start

theorem hexValueFrom?_append (start : ℕ) (s t : Text) :
    hexValueFrom? start (s ++ t) = (hexValueFrom? start s).bind fun n => hexValueFrom? n t :=
  List.foldlM_append

theorem hexValueFrom?_zeros (start k : ℕ) :
    hexValueFrom? start (List.replicate k '0') = some (16 ^ k * start) := by
  induction k generalizing start with
  | zero => simp [hexValueFrom?]
  | succ k ih =>
    have hzero : hexDigit? '0' = some 0 := by decide
    have hstep : hexValueFrom? start (List.replicate (k + 1) '0') =
        hexValueFrom? (16 * start) (List.replicate k '0') := by
      simp [hexValueFrom?, List.replicate_succ, hzero]
    rw [hstep, ih, pow_succ, mul_assoc]

theorem hexValueFrom?_digits (start n : ℕ) :
    hexValueFrom? start (digits 16 n) = some (16 ^ (digits 16 n).length * start + n) := by
  induction n using digits_induction (show 2 ≤ 16 by decide) with
  | digit n h => simp [digits_of_lt h, hexValueFrom?, hexDigit?_digitChar h]
  | more n h ih =>
    have hlast (m : ℕ) : hexValueFrom? m [digitChar (n % 16)] = some (16 * m + n % 16) := by
      simp [hexValueFrom?, hexDigit?_digitChar (Nat.mod_lt n (show 0 < 16 by decide))]
    rw [digits_of_le (by decide) h, hexValueFrom?_append, ih, Option.bind_some, hlast,
      List.length_append, List.length_singleton, pow_succ]
    congr 1
    have hdiv := Nat.div_add_mod n 16
    calc 16 * (16 ^ (digits 16 (n / 16)).length * start + n / 16) + n % 16
        = 16 ^ (digits 16 (n / 16)).length * 16 * start + (16 * (n / 16) + n % 16) := by ring
      _ = 16 ^ (digits 16 (n / 16)).length * 16 * start + n := by rw [hdiv]

theorem hexValueFrom?_hex {width n : ℕ} (hw : 0 < width) (h : n < 16 ^ width) (start : ℕ) :
    hexValueFrom? start (hex width n) = some (16 ^ width * start + n) := by
  have hlen : (digits 16 n).length ≤ width := length_digits_le (by decide) hw h
  have hpow : 16 ^ (digits 16 n).length * 16 ^ (width - (digits 16 n).length) = 16 ^ width := by
    rw [← pow_add, Nat.add_sub_cancel' hlen]
  rw [hex, widen, hexValueFrom?_append, hexValueFrom?_zeros, Option.bind_some, hexValueFrom?_digits,
    ← mul_assoc, hpow]

end GeoUrn.Decimal
