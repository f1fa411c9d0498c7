import GeoUrn.Proofs.Blanks
import GeoUrn.Text.Span

/-!
Positions as lengths. When a text is written as a concatenation, what a range of positions says
is said by a part: slices are parts, and the loops over positions are the scans of a part.
-/
namespace GeoUrn.Text

theorem bound_natCast (length position : ℕ) : bound length position = min position length := by
  simp [bound]

theorem slice_natCast (text : Text) (lower upper : ℕ) :
    slice text lower upper = (text.take upper).drop lower := by
  rw [slice, bound_natCast, bound_natCast, ← List.take_eq_take_min]
  rcases Nat.le_total lower text.length with h | h
  · rw [Nat.min_eq_left h]
  · rw [Nat.min_eq_right h, List.drop_eq_nil_of_le (by simp), List.drop_eq_nil_of_le (by simp; omega)]

theorem slice_append (x y : Text) (n : ℕ) : slice (x ++ y) x.length (x.length + n) = y.take n := by
  rw [← Nat.cast_add, slice_natCast, List.take_length_add_append, List.drop_left]

theorem charAt_append (x : Text) (c : CodePoint) (z : Text) :
    charAt (x ++ c :: z) x.length = .ok c := by
  have hn : ¬ (x.length : ℤ) < 0 := by omega
  simp only [charAt, if_neg hn, Int.toNat_natCast]
  simp

theorem find?_append (x y : Text) (c : CodePoint) :
    find? (x ++ y) c x.length = (y.findIdx? (· == c)).map (x.length + ·) := by
  simp [find?, bound_natCast]

/-- The first place of a character is where the first piece ends. -/
theorem find?_append_cons (x : Text) {y : Text} {c : CodePoint} (h : c ∉ y) (z : Text) :
    find? (x ++ (y ++ c :: z)) c x.length = some (x.length + y.length) := by
  have hy : y.findIdx? (· == c) = none := by
    rw [List.findIdx?_eq_none_iff]
    intro d hd
    simp only [beq_eq_false_iff_ne]
    rintro rfl
    exact h hd
  simp [find?_append, List.findIdx?_append, List.findIdx?_cons, hy]

theorem find?_eq_none {x y : Text} {c : CodePoint} (h : c ∉ y) : find? (x ++ y) c x.length = none := by
  rw [find?_append, Option.map_eq_none_iff, List.findIdx?_eq_none_iff]
  intro d hd
  simp only [beq_eq_false_iff_ne]
  rintro rfl
  exact h hd

theorem skipLeading_append (x y z : Text) :
    skipLeading (x ++ (y ++ z)) x.length (x.length + y.length) =
      .ok (x.length + (y.takeWhile isBlank).length) := by
  induction y generalizing x with
  | nil =>
    rw [skipLeading, if_neg (by simp)]
    simp
  | cons c y ih =>
    rw [skipLeading, if_pos (by simp), List.cons_append, charAt_append]
    by_cases hb : isBlank c
    · have := ih (x ++ [c])
      simp only [List.append_assoc, List.singleton_append, List.length_append,
        List.length_singleton, Nat.cast_add, Nat.cast_one] at this
      simp only [hb, if_true, List.length_cons, Nat.cast_add, Nat.cast_one,
        List.takeWhile_cons_of_pos]
      rw [show (x.length : ℤ) + (y.length + 1) = x.length + 1 + y.length by ring, this]
      ring_nf
    · simp [hb]

theorem skipTrailing_append (x y z : Text) :
    skipTrailing (x ++ (y ++ z)) x.length (x.length + y.length) =
      .ok (x.length + (trimRight y).length) := by
  induction y using List.reverseRecOn generalizing z with
  | nil =>
    rw [skipTrailing, if_neg (by simp)]
    simp [trimRight]
  | append_singleton y c ih =>
    have hlast : (x.length : ℤ) + (y ++ [c]).length - 1 = (x ++ y).length := by
      simp only [List.length_append, List.length_singleton, Nat.cast_add, Nat.cast_one]
      ring
    have htext : x ++ ((y ++ [c]) ++ z) = (x ++ y) ++ c :: z := by simp
    rw [skipTrailing, if_pos (by simp), hlast, htext, charAt_append]
    by_cases hb : isBlank c
    · have := ih (c :: z)
      simp only [hb, if_true]
      rw [List.length_append, Nat.cast_add, List.append_assoc, this]
      change _ = Except.ok ((x.length : ℤ) + ((y ++ [c]).rdropWhile isBlank).length)
      rw [List.rdropWhile_concat_pos isBlank y c hb]
      rfl
    · simp only [hb, Bool.false_eq_true, if_false]
      change _ = Except.ok ((x.length : ℤ) + ((y ++ [c]).rdropWhile isBlank).length)
      rw [List.rdropWhile_concat_neg isBlank y c hb]

theorem trimBounds_append (x y z : Text) :
    trimBounds (x ++ (y ++ z)) x.length (x.length + y.length) =
      .ok (x.length + (y.takeWhile isBlank).length,
        x.length + (y.takeWhile isBlank).length + (trim y).length) := by
  have hy : y = y.takeWhile isBlank ++ trimLeft y := List.takeWhile_append_dropWhile.symm
  have htail := skipTrailing_append (x ++ y.takeWhile isBlank) (trimLeft y) z
  have htext : (x ++ y.takeWhile isBlank) ++ (trimLeft y ++ z) = x ++ (y ++ z) := by
    rw [List.append_assoc, ← List.append_assoc (y.takeWhile isBlank), ← hy]
  have hupper : ((x ++ y.takeWhile isBlank).length : ℤ) + (trimLeft y).length =
      x.length + y.length := by
    conv_rhs => rw [hy]
    simp only [List.length_append, Nat.cast_add]
    ring
  rw [htext, hupper, List.length_append, Nat.cast_add] at htail
  simp only [trimBounds, skipLeading_append, htail]
  rfl

/-- A range without its blanks is the part of the text without its blanks. -/
theorem trimRange_append (x y z : Text) :
    trimRange (x ++ (y ++ z)) x.length (x.length + y.length) = .ok (trim y) := by
  obtain ⟨blanks, hb⟩ := prefix_trimRight (trimLeft y)
  have hy : y = y.takeWhile isBlank ++ (trim y ++ blanks) := by
    rw [trim, hb]
    exact List.takeWhile_append_dropWhile.symm
  have htext : x ++ (y ++ z) = (x ++ y.takeWhile isBlank) ++ (trim y ++ (blanks ++ z)) := by
    conv_lhs => rw [hy]
    simp only [List.append_assoc]
  simp only [trimRange, trimBounds_append, Except.map]
  rw [htext, ← Nat.cast_add, ← List.length_append, slice_append, List.take_left]

theorem skipIdentifier_append (x y : Text) :
    skipIdentifier (x ++ y) x.length = .ok (x.length + (identifierRun y).length) := by
  induction y generalizing x with
  | nil =>
    rw [skipIdentifier, if_neg (by simp)]
    simp [identifierRun]
  | cons c y ih =>
    rw [skipIdentifier, if_pos (by simp), charAt_append]
    by_cases hc : isIdentifierPart c
    · have := ih (x ++ [c])
      simp only [List.append_assoc, List.singleton_append, List.length_append,
        List.length_singleton, Nat.cast_add, Nat.cast_one] at this
      simp only [hc, if_true, this, identifierRun, List.takeWhile_cons_of_pos, List.length_cons,
        Nat.cast_add, Nat.cast_one]
      ring_nf
    · simp [hc, identifierRun]

end GeoUrn.Text
