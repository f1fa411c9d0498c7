import GeoUrn.Site
import Mathlib

/-!
The calendar. Readings of a clock are counted in microseconds from the beginning of year zero, with
years and months of their own lengths. Of two readings the one with the smaller count has the
smaller field where they first differ.
-/
namespace GeoUrn

/-- Every fourth year is a leap year, except the hundredth that is no four-hundredth. -/
def isLeapYear (year : ℕ) : Bool := year % 4 = 0 && (year % 100 ≠ 0 || year % 400 = 0)

/-- The days of a month; the months have the numbers from one to twelve. -/
def monthLength (year : ℕ) : ℕ → ℕ
  | 1 | 3 | 5 | 7 | 8 | 10 | 12 => 31
  | 4 | 6 | 9 | 11 => 30
  | 2 => if isLeapYear year then 29 else 28
  | _ => 0

def daysBeforeMonth (year : ℕ) : ℕ → ℕ
  | 0 => 0
  | month + 1 => daysBeforeMonth year month + monthLength year month

def daysBeforeYear : ℕ → ℕ
  | 0 => 0
  | year + 1 => daysBeforeYear year + daysBeforeMonth year 13

namespace Instant

/-- What a clock can show in the years that are written with four digits. -/
structure IsReading (t : Instant) : Prop where
  year_pos : 1 ≤ t.year
  year_le : t.year ≤ 9999
  month_pos : 1 ≤ t.month
  month_le : t.month ≤ 12
  day_pos : 1 ≤ t.day
  day_le : t.day ≤ monthLength t.year t.month
  hour_lt : t.hour < 24
  minute_lt : t.minute < 60
  second_lt : t.second < 60
  microsecond_lt : t.microsecond < 1000000

def days (t : Instant) : ℕ := daysBeforeYear t.year + daysBeforeMonth t.year t.month + (t.day - 1)

def seconds (t : Instant) : ℕ := ((t.days * 24 + t.hour) * 60 + t.minute) * 60 + t.second

def microseconds (t : Instant) : ℕ := t.seconds * 1000000 + t.microsecond

def fields (t : Instant) : List ℕ := [t.year, t.month, t.day, t.hour, t.minute, t.second]

end Instant

theorem monthLength_le (year month : ℕ) : monthLength year month ≤ 31 := by
  unfold monthLength
  grind

theorem daysBeforeMonth_mono (year : ℕ) : Monotone (daysBeforeMonth year) := by
  apply monotone_nat_of_le_succ
  intro month
  simp [daysBeforeMonth]

theorem daysBeforeYear_mono : Monotone daysBeforeYear := by
  apply monotone_nat_of_le_succ
  intro year
  simp [daysBeforeYear]

namespace Instant

variable {a b : Instant}

/-- A month ends before a later one of its year begins. -/
theorem IsReading.day_in_month (h : a.IsReading) {month : ℕ} (hm : a.month < month) :
    daysBeforeMonth a.year a.month + (a.day - 1) < daysBeforeMonth a.year month := by
  have hnext := daysBeforeMonth_mono a.year (Nat.succ_le_of_lt hm)
  have hday := h.day_pos
  have hlast := h.day_le
  simp only [daysBeforeMonth] at hnext
  omega

/-- A year ends before a later one begins. -/
theorem IsReading.day_in_year (h : a.IsReading) {year : ℕ} (hy : a.year < year) :
    a.days < daysBeforeYear year := by
  have hnext := daysBeforeYear_mono (Nat.succ_le_of_lt hy)
  have hlast := h.month_le
  have hmonth := h.day_in_month (show a.month < 13 by omega)
  simp only [daysBeforeYear] at hnext
  simp only [days]
  omega

theorem days_lt_of_year (ha : a.IsReading) (h : a.year < b.year) : a.days < b.days := by
  have hyear := ha.day_in_year h
  simp only [days] at hyear ⊢
  omega

theorem days_lt_of_month (ha : a.IsReading) (hy : a.year = b.year) (h : a.month < b.month) :
    a.days < b.days := by
  have hmonth := ha.day_in_month h
  rw [hy] at hmonth
  simp only [days, hy]
  omega

theorem days_lt_of_day (ha : a.IsReading) (hy : a.year = b.year) (hm : a.month = b.month)
    (h : a.day < b.day) : a.days < b.days := by
  have hday := ha.day_pos
  simp only [days, hy, hm]
  omega

theorem seconds_lt_of_days (ha : a.IsReading) (h : a.days < b.days) : a.seconds < b.seconds := by
  have hhour := ha.hour_lt
  have hminute := ha.minute_lt
  have hsecond := ha.second_lt
  simp only [seconds]
  omega

theorem seconds_lt_of_fields (ha : a.IsReading) (h : a.fields < b.fields) :
    a.seconds < b.seconds := by
  have hminute := ha.minute_lt
  have hsecond := ha.second_lt
  simp only [fields, List.cons_lt_cons_iff, lt_self_iff_false, and_false, or_false] at h
  rcases h with hy | ⟨hy, hm | ⟨hm, hd | ⟨hd, h⟩⟩⟩
  · exact seconds_lt_of_days ha (days_lt_of_year ha hy)
  · exact seconds_lt_of_days ha (days_lt_of_month ha hy hm)
  · exact seconds_lt_of_days ha (days_lt_of_day ha hy hm hd)
  · have hdays : a.days = b.days := by simp only [days, hy, hm, hd]
    simp only [seconds, hdays]
    omega

theorem seconds_eq_of_fields (h : a.fields = b.fields) : a.seconds = b.seconds := by
  simp only [fields, List.cons.injEq, and_true] at h
  obtain ⟨hy, hm, hd, hh, hmin, hs⟩ := h
  simp only [seconds, days, hy, hm, hd, hh, hmin, hs]

/-- An earlier reading has the smaller fields, or the same ones and the smaller fraction. -/
theorem microseconds_lt_iff (ha : a.IsReading) (hb : b.IsReading) :
    a.microseconds < b.microseconds ↔
      a.fields < b.fields ∨ a.fields = b.fields ∧ a.microsecond < b.microsecond := by
  have hmicro := ha.microsecond_lt
  have hother := hb.microsecond_lt
  simp only [microseconds]
  rcases lt_trichotomy a.fields b.fields with hlt | heq | hgt
  · have hseconds := seconds_lt_of_fields ha hlt
    exact iff_of_true (by omega) (Or.inl hlt)
  · have hseconds := seconds_eq_of_fields heq
    simp [heq, hseconds]
  · have hseconds := seconds_lt_of_fields hb hgt
    have hnot : ¬ (a.fields < b.fields ∨ a.fields = b.fields ∧ a.microsecond < b.microsecond) := by
      rintro (hlt | ⟨heq, -⟩)
      · exact lt_asymm hlt hgt
      · exact hgt.ne heq.symm
    exact iff_of_false (by omega) hnot

end Instant

end GeoUrn
