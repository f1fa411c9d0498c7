import GeoUrn.Proofs.Calendar
import GeoUrn.Proofs.Numerals

/-!
The order of timestamps and of the names of runs, as texts. Numerals of a fixed width stand in the
order of their numbers, so timestamps stand in the order of their instants as long as both have a
fraction. The fraction is left out at a whole second, which therefore comes after all other instants
of its second.
-/
open GeoUrn.CodePoint (char)

namespace GeoUrn.Decimal

theorem value_cons (c : CodePoint) (x : Text) :
    value (c :: x) = (c.toNat - 48) * 10 ^ x.length + value x := by
  have h := value_append [c] x
  simpa [value] using h

theorem isDigit_iff {c : CodePoint} : isDigit c ↔ 48 ≤ c.toNat ∧ c.toNat ≤ 57 := by
  simp [isDigit, CodePoint.le_iff]

theorem value_lt {x : Text} (h : ∀ c ∈ x, isDigit c) : value x < 10 ^ x.length := by
  induction x with
  | nil => simp [value]
  | cons c x ih =>
    obtain ⟨hc, hx⟩ := List.forall_mem_cons.mp h
    have hdigit := isDigit_iff.mp hc
    have hrest := ih hx
    rw [value_cons, List.length_cons, pow_succ]
    have hfirst : (c.toNat - 48) * 10 ^ x.length ≤ 9 * 10 ^ x.length :=
      Nat.mul_le_mul_right _ (by omega)
    omega

/-- Of two numerals with as many digits the one of the smaller number comes first, whatever is
written behind them. -/
theorem append_lt_append_of_value {x y : Text} (hlen : x.length = y.length)
    (hx : ∀ c ∈ x, isDigit c) (hy : ∀ c ∈ y, isDigit c) (h : value x < value y) (s t : Text) :
    x ++ s < y ++ t := by
  induction x generalizing y with
  | nil =>
    rw [List.eq_nil_of_length_eq_zero hlen.symm] at h
    simp at h
  | cons c x ih =>
    obtain ⟨d, y, rfl⟩ := List.exists_cons_of_length_eq_add_one hlen.symm
    obtain ⟨hc, hx⟩ := List.forall_mem_cons.mp hx
    obtain ⟨hd, hrest⟩ := List.forall_mem_cons.mp hy
    have htails : x.length = y.length := by simpa using hlen
    rw [List.cons_append, List.cons_append, List.cons_lt_cons_iff]
    rw [value_cons, value_cons, htails] at h
    rcases lt_trichotomy c d with hlt | heq | hgt
    · exact Or.inl hlt
    · subst heq
      exact Or.inr ⟨rfl, ih htails hx hrest (by omega)⟩
    · -- A larger first digit outweighs all digits that follow the smaller one.
      have hbound := value_lt hrest
      have hfirst : (d.toNat - 48 + 1) * 10 ^ y.length ≤ (c.toNat - 48) * 10 ^ y.length := by
        apply Nat.mul_le_mul_right
        have hcode : d.toNat < c.toNat := hgt
        have hc := isDigit_iff.mp hc
        have hd := isDigit_iff.mp hd
        omega
      rw [Nat.add_mul, one_mul] at hfirst
      omega

theorem padded_append_lt {width m n : ℕ} (h : m < n) (hn : n < 10 ^ width) (s t : Text) :
    padded width m ++ s < padded width n ++ t := by
  have hw : 0 < width := by
    by_contra h0
    simp [Nat.eq_zero_of_not_pos h0] at hn
    omega
  apply append_lt_append_of_value
  · rw [length_padded hw (h.trans hn), length_padded hw hn]
  · exact isDigit_of_mem_padded width m
  · exact isDigit_of_mem_padded width n
  · rwa [value_padded, value_padded]

end GeoUrn.Decimal

namespace GeoUrn.Instant
open Decimal

/-- What stands before each field, and with how many digits it is written. -/
def layout : List (Text × ℕ) :=
  [([], 4), (['-'], 2), (['-'], 2), (['T'], 2), ([':'], 2), ([':'], 2)]

/-- Numbers written after the marks and with the digits of a layout. -/
def written : List (Text × ℕ) → List ℕ → Text
  | (mark, width) :: layout, n :: numbers => mark ++ (padded width n ++ written layout numbers)
  | _, _ => []

/-- Whether each number can be written with as many digits as the layout has for it. -/
def Fits (layout : List (Text × ℕ)) (numbers : List ℕ) : Prop :=
  List.Forall₂ (fun place n => 0 < place.2 ∧ n < 10 ^ place.2) layout numbers

/-- The fraction of a second, unless it is zero, and the letter of universal time. -/
def ending (t : Instant) : Text :=
  (if t.microsecond = 0 then [] else char '.' :: padded 6 t.microsecond) ++ [char 'Z']

theorem timestamp_eq (t : Instant) : t.timestamp = written layout t.fields ++ t.ending := by
  simp [timestamp, written, layout, fields, ending]

theorem IsReading.fits {t : Instant} (h : t.IsReading) : Fits layout t.fields := by
  have hyear := h.year_le
  have hmonth := h.month_le
  have hday := h.day_le.trans (monthLength_le t.year t.month)
  have hhour := h.hour_lt
  have hminute := h.minute_lt
  have hsecond := h.second_lt
  simp only [Fits, layout, fields, List.forall₂_cons, List.forall₂_nil_left_iff]
  norm_num
  omega

/-- Numbers in one layout stand in their order, whatever is written behind them. -/
theorem written_append_lt {layout : List (Text × ℕ)} {m n : List ℕ} (hm : Fits layout m)
    (hn : Fits layout n) (h : m < n) (s t : Text) :
    written layout m ++ s < written layout n ++ t := by
  induction hn generalizing m with
  | nil =>
    cases hm
    exact absurd h (lt_irrefl _)
  | @cons place k layout n hk hn ih =>
    obtain ⟨mark, width⟩ := place
    cases hm with
    | @cons _ j _ m hj hm =>
      simp only [written, List.append_assoc]
      apply List.append_left_lt
      rcases List.cons_lt_cons_iff.mp h with hlt | ⟨rfl, hlt⟩
      · exact padded_append_lt hlt hk.2 _ _
      · apply List.append_left_lt
        exact ih hm hlt

variable {a b : Instant}

theorem ending_append_lt (ha : a.microsecond ≠ 0) (hb : b.microsecond < 1000000)
    (h : a.microsecond < b.microsecond) (s t : Text) : a.ending ++ s < b.ending ++ t := by
  have hb0 : b.microsecond ≠ 0 := by omega
  simp only [ending, if_neg ha, if_neg hb0, List.append_assoc, List.cons_append]
  apply List.cons_lt_cons_iff.mpr
  exact Or.inr ⟨rfl, padded_append_lt h hb _ _⟩

/-- The letter that ends a timestamp comes after the point that begins a fraction. -/
theorem ending_lt_of_whole (ha : a.microsecond = 0) (hb : b.microsecond ≠ 0) (s t : Text) :
    b.ending ++ s < a.ending ++ t := by
  simp only [ending, if_pos ha, if_neg hb, List.append_assoc, List.cons_append, List.nil_append]
  apply List.cons_lt_cons_iff.mpr
  exact Or.inl (by decide)

theorem eq_whole_iff : a = { b with microsecond := 0 } ↔ a.fields = b.fields ∧ a.microsecond = 0 := by
  obtain ⟨_, _, _, _, _, _, _⟩ := a
  obtain ⟨_, _, _, _, _, _, _⟩ := b
  simp [fields, and_assoc]

theorem timestamp_append_lt (ha : a.IsReading) (hb : b.IsReading)
    (h : a.microseconds < b.microseconds) (hne : a ≠ { b with microsecond := 0 }) (s t : Text) :
    a.timestamp ++ s < b.timestamp ++ t := by
  rw [timestamp_eq, timestamp_eq, List.append_assoc, List.append_assoc]
  rcases (microseconds_lt_iff ha hb).mp h with hlt | ⟨heq, hmicro⟩
  · exact written_append_lt ha.fits hb.fits hlt _ _
  · rw [heq]
    apply List.append_left_lt
    have ha0 : a.microsecond ≠ 0 := fun h0 => hne (eq_whole_iff.mpr ⟨heq, h0⟩)
    exact ending_append_lt ha0 hb.microsecond_lt hmicro s t

theorem timestamp_whole_append_lt (h : a.microseconds < b.microseconds)
    (he : a = { b with microsecond := 0 }) (s t : Text) : b.timestamp ++ s < a.timestamp ++ t := by
  obtain ⟨heq, ha0⟩ := eq_whole_iff.mp he
  have hb0 : b.microsecond ≠ 0 := by
    have hseconds := seconds_eq_of_fields heq
    simp only [microseconds] at h
    omega
  rw [timestamp_eq, timestamp_eq, List.append_assoc, List.append_assoc, heq]
  apply List.append_left_lt
  exact ending_lt_of_whole ha0 hb0 s t

/-- Of two readings the earlier one is written first, unless it is the whole second of the other. -/
theorem timestamp_append_lt_iff (ha : a.IsReading) (hb : b.IsReading)
    (h : a.microseconds < b.microseconds) (s t : Text) :
    a.timestamp ++ s < b.timestamp ++ t ↔ a ≠ { b with microsecond := 0 } := by
  constructor
  · intro hlt he
    exact List.lt_asymm hlt (timestamp_whole_append_lt h he t s)
  · intro hne
    exact timestamp_append_lt ha hb h hne s t

/-- Whether a text has a form: a digit for every zero of it, and its other characters. -/
def HasForm (form text : Text) : Prop :=
  List.Forall₂ (fun f c => if f = char '0' then isDigit c = true else c = f) form text

def fullForm : Text := "0000-00-00T00:00:00.000000Z"

def formOf : List (Text × ℕ) → Text
  | [] => []
  | (mark, width) :: layout => mark ++ (List.replicate width (char '0') ++ formOf layout)

theorem hasForm_self (text : Text) : HasForm text text := by
  apply List.forall₂_same.mpr
  intro c _
  split_ifs with h
  · rw [h]
    decide
  · rfl

theorem HasForm.append {form text form' text' : Text} (h : HasForm form text)
    (h' : HasForm form' text') : HasForm (form ++ form') (text ++ text') :=
  List.rel_append h h'

theorem hasForm_digits {x : Text} (h : ∀ c ∈ x, isDigit c) :
    HasForm (List.replicate x.length (char '0')) x := by
  induction x with
  | nil => exact List.Forall₂.nil
  | cons c x ih =>
    obtain ⟨hc, hx⟩ := List.forall_mem_cons.mp h
    exact List.Forall₂.cons hc (ih hx)

theorem hasForm_padded {width n : ℕ} (hw : 0 < width) (h : n < 10 ^ width) :
    HasForm (List.replicate width (char '0')) (padded width n) := by
  have hform := hasForm_digits (isDigit_of_mem_padded width n)
  rwa [length_padded hw h] at hform

theorem hasForm_written {layout : List (Text × ℕ)} {numbers : List ℕ}
    (h : Fits layout numbers) : HasForm (formOf layout) (written layout numbers) := by
  induction h with
  | nil => exact List.Forall₂.nil
  | @cons place n layout numbers hn h ih =>
    obtain ⟨mark, width⟩ := place
    exact (hasForm_self mark).append ((hasForm_padded hn.1 hn.2).append ih)

/-- A timestamp has its full form exactly if it is not of a whole second. -/
theorem hasForm_timestamp_iff (h : a.IsReading) :
    HasForm fullForm a.timestamp ↔ a.microsecond ≠ 0 := by
  have hfront := hasForm_written h.fits
  rw [timestamp_eq]
  constructor
  · intro hfull h0
    have hlen := hfront.length_eq
    have hall := hfull.length_eq
    simp only [ending, h0, if_true, List.length_append, ← hlen] at hall
    exact absurd hall (by decide)
  · intro h0
    have hpart := hasForm_padded (by decide : 0 < 6) h.microsecond_lt
    have hback := (hasForm_self [char '.']).append (hpart.append (hasForm_self [char 'Z']))
    have hend : a.ending = [char '.'] ++ (padded 6 a.microsecond ++ [char 'Z']) := by
      simp [ending, h0]
    rw [hend]
    exact hfront.append hback

/-- Timestamps and names of runs stand in the order of their readings, whatever the random digits
are, and a timestamp has six digits after the point. Whole seconds alone are the exception: they
are written without a fraction, and come after the later readings of their second. -/
theorem timestamps_in_order_but_whole_seconds (ha : a.IsReading) (hb : b.IsReading)
    (h : a.microseconds < b.microseconds) :
    (a.timestamp < b.timestamp ↔ a ≠ { b with microsecond := 0 }) ∧
    (∀ random other, runId a random < runId b other ↔ a ≠ { b with microsecond := 0 }) ∧
    (HasForm fullForm a.timestamp ↔ a.microsecond ≠ 0) := by
  refine ⟨?_, ?_, hasForm_timestamp_iff ha⟩
  · have hiff := timestamp_append_lt_iff ha hb h [] []
    rwa [List.append_nil, List.append_nil] at hiff
  · intro random other
    exact timestamp_append_lt_iff ha hb h _ _

/-- The last microsecond of a year. -/
def endOfYear : Instant := ⟨2026, 12, 31, 23, 59, 59, 999999⟩

theorem timestamps_in_order_over_new_year :
    endOfYear.IsReading ∧ (⟨2027, 1, 1, 0, 0, 0, 0⟩ : Instant).IsReading ∧
    endOfYear.microseconds < (⟨2027, 1, 1, 0, 0, 0, 0⟩ : Instant).microseconds ∧
    endOfYear.timestamp < (⟨2027, 1, 1, 0, 0, 0, 0⟩ : Instant).timestamp ∧
    runId endOfYear ['f'] < runId ⟨2027, 1, 1, 0, 0, 0, 0⟩ ['0'] ∧
    HasForm fullForm endOfYear.timestamp := by
  have ha : endOfYear.IsReading := by
    constructor <;> decide
  have hb : (⟨2027, 1, 1, 0, 0, 0, 0⟩ : Instant).IsReading := by
    constructor <;> decide
  have h : endOfYear.microseconds < (⟨2027, 1, 1, 0, 0, 0, 0⟩ : Instant).microseconds :=
    (microseconds_lt_iff ha hb).mpr (Or.inl (by decide))
  obtain ⟨htime, hrun, hform⟩ := timestamps_in_order_but_whole_seconds ha hb h
  exact ⟨ha, hb, h, htime.mpr (by decide), (hrun _ _).mpr (by decide), hform.mpr (by decide)⟩

/-- A second of some day, and the first microsecond after it. -/
def wholeSecond : Instant := ⟨2026, 2, 3, 12, 34, 56, 0⟩

theorem whole_second_comes_late :
    wholeSecond.IsReading ∧ { wholeSecond with microsecond := 1 }.IsReading ∧
    wholeSecond.microseconds < { wholeSecond with microsecond := 1 }.microseconds ∧
    ¬ wholeSecond.timestamp < { wholeSecond with microsecond := 1 }.timestamp ∧
    (∀ random other, ¬ runId wholeSecond random < runId { wholeSecond with microsecond := 1 } other) ∧
    ¬ HasForm fullForm wholeSecond.timestamp := by
  have ha : wholeSecond.IsReading := by
    constructor <;> decide
  have hb : { wholeSecond with microsecond := 1 }.IsReading := by
    constructor <;> decide
  have h : wholeSecond.microseconds < { wholeSecond with microsecond := 1 }.microseconds :=
    (microseconds_lt_iff ha hb).mpr (Or.inr ⟨rfl, Nat.one_pos⟩)
  have hlate (s t : Text) :
      ¬ wholeSecond.timestamp ++ s < { wholeSecond with microsecond := 1 }.timestamp ++ t :=
    fun hlt => (timestamp_append_lt_iff ha hb h s t).mp hlt rfl
  refine ⟨ha, hb, h, ?_, fun random other => hlate _ _, ?_⟩
  · have hlate := hlate [] []
    rwa [List.append_nil, List.append_nil] at hlate
  · exact fun hform => (hasForm_timestamp_iff ha).mp hform rfl

example : wholeSecond.timestamp = ("2026-02-03T12:34:56Z" : String) := by
  decide +kernel

end GeoUrn.Instant
