import GeoUrn.Proofs.CodePoints

/-!
UTF-8 written and read back. The bytes of each character are read as this character, so that a text
without surrogates is read from its UTF-8 form as it was.
-/
namespace GeoUrn.Text

theorem toNat_toUInt8 {k : ℕ} (h : k < 256) : k.toUInt8.toNat = k := Nat.mod_eq_of_lt h

theorem ofByte?_one {n : ℕ} (h : n < 0x80) :
    Utf8Lead.ofByte? n.toUInt8 = some ⟨n, 0, 0x80, 0xBF⟩ := by
  have hlt : n.toUInt8 < 0x80 := by
    rw [UInt8.lt_iff_toNat_lt, toNat_toUInt8 (by omega)]
    exact h
  rw [Utf8Lead.ofByte?, if_pos hlt, toNat_toUInt8 (by omega)]

theorem ofByte?_two {d : ℕ} (hlow : 2 ≤ d) (hhigh : d < 32) :
    Utf8Lead.ofByte? (0xC0 + d).toUInt8 = some ⟨d, 1, 0x80, 0xBF⟩ := by
  interval_cases d <;> rfl

theorem ofByte?_three {d : ℕ} (h : d < 16) : Utf8Lead.ofByte? (0xE0 + d).toUInt8 =
    some ⟨d, 2, if d = 0 then 0xA0 else 0x80, if d = 0xD then 0x9F else 0xBF⟩ := by
  interval_cases d <;> rfl

theorem ofByte?_four {d : ℕ} (h : d < 5) : Utf8Lead.ofByte? (0xF0 + d).toUInt8 =
    some ⟨d, 3, if d = 0 then 0x90 else 0x80, if d = 4 then 0x8F else 0xBF⟩ := by
  interval_cases d <;> rfl

theorem decodeFrom_lead {position k : ℕ} {lead : Utf8Lead}
    (h : Utf8Lead.ofByte? k.toUInt8 = some lead) (hf : lead.following ≠ 0) (rest : Bytes) :
    decodeFrom position none (k.toUInt8 :: rest) =
      decodeFrom (position + 1)
        (some ⟨lead.share, lead.following, lead.low, lead.high, [k.toUInt8]⟩) rest := by
  rw [decodeFrom, h]
  simp only [hf, if_false]

/-- A following byte adds six bits to the value. -/
theorem decodeFrom_following {position d : ℕ} {p : Utf8Pending} (hd : d < 64)
    (hlow : p.low.toNat ≤ 0x80 + d) (hhigh : 0x80 + d ≤ p.high.toNat) (hm : p.missing ≠ 1)
    (rest : Bytes) :
    decodeFrom position (some p) ((0x80 + d).toUInt8 :: rest) =
      decodeFrom (position + 1) (some ⟨p.value * 64 + d, p.missing - 1, 0x80, 0xBF,
        p.sequence ++ [(0x80 + d).toUInt8]⟩) rest := by
  have hk : 0x80 + d < 256 := by omega
  have hin : (decide (p.low ≤ (0x80 + d).toUInt8) && decide ((0x80 + d).toUInt8 ≤ p.high)) = true := by
    rw [Bool.and_eq_true, decide_eq_true_iff, decide_eq_true_iff, UInt8.le_iff_toNat_le,
      UInt8.le_iff_toNat_le, toNat_toUInt8 hk]
    exact ⟨hlow, hhigh⟩
  rw [decodeFrom]
  simp only [hin, if_true, hm, if_false, toNat_toUInt8 hk, Nat.add_sub_cancel_left]

theorem decodeFrom_last {position d : ℕ} {p : Utf8Pending} (hd : d < 64)
    (hlow : p.low.toNat ≤ 0x80 + d) (hhigh : 0x80 + d ≤ p.high.toNat) (hm : p.missing = 1)
    (rest : Bytes) :
    decodeFrom position (some p) ((0x80 + d).toUInt8 :: rest) =
      (decodeFrom (position + 1) none rest).map fun r =>
        (CodePoint.char (Char.ofNat (p.value * 64 + d)) :: r.1, r.2) := by
  have hk : 0x80 + d < 256 := by omega
  have hin : (decide (p.low ≤ (0x80 + d).toUInt8) && decide ((0x80 + d).toUInt8 ≤ p.high)) = true := by
    rw [Bool.and_eq_true, decide_eq_true_iff, decide_eq_true_iff, UInt8.le_iff_toNat_le,
      UInt8.le_iff_toNat_le, toNat_toUInt8 hk]
    exact ⟨hlow, hhigh⟩
  rw [decodeFrom]
  simp only [hin, if_true, hm, toNat_toUInt8 hk, Nat.add_sub_cancel_left]

/-- The bytes of a character are read as this character. -/
theorem decodeFrom_encodePoint (position : ℕ) (c : Char) (rest : Bytes) :
    decodeFrom position none (encodePoint c ++ rest) =
      (decodeFrom (position + (encodePoint c).length) none rest).map fun r =>
        (CodePoint.char c :: r.1, r.2) := by
  have hvalid : c.toNat < 0xD800 ∨ 0xDFFF < c.toNat ∧ c.toNat < 0x110000 := c.valid
  have hback := Char.ofNat_toNat c
  unfold encodePoint
  rw [CodePoint.toNat_char]
  generalize c.toNat = n at *
  simp only
  split_ifs with h1 h2 h3
  · rw [List.singleton_append, decodeFrom, ofByte?_one h1]
    simp only [if_true, hback, List.length_singleton]
  · have hvalue : n / 64 * 64 + n % 64 = n := by omega
    rw [List.cons_append, List.singleton_append,
      decodeFrom_lead (ofByte?_two (by omega) (by omega)) one_ne_zero,
      decodeFrom_last (by omega) (by simp) (by simp; omega) rfl, hvalue, hback]
    rfl
  · -- The second byte has a narrower range after the least lead and after that of surrogates.
    have hlow : (if n / 4096 = 0 then (0xA0 : UInt8) else 0x80).toNat ≤ 0x80 + n / 64 % 64 := by
      split_ifs
      · simp
        omega
      · simp
    have hhigh : 0x80 + n / 64 % 64 ≤ (if n / 4096 = 0xD then (0x9F : UInt8) else 0xBF).toNat := by
      split_ifs <;> simp <;> omega
    have hvalue : (n / 4096 * 64 + n / 64 % 64) * 64 + n % 64 = n := by omega
    rw [List.cons_append, List.cons_append, List.singleton_append,
      decodeFrom_lead (ofByte?_three (by omega)) two_ne_zero,
      decodeFrom_following (by omega) hlow hhigh (show 2 ≠ 1 by decide),
      decodeFrom_last (by omega) (by simp) (by simp; omega) rfl]
    simp only [hvalue, hback]
    rfl
  · have hlow : (if n / 262144 = 0 then (0x90 : UInt8) else 0x80).toNat ≤
        0x80 + n / 4096 % 64 := by
      split_ifs
      · simp
        omega
      · simp
    have hhigh : 0x80 + n / 4096 % 64 ≤
        (if n / 262144 = 4 then (0x8F : UInt8) else 0xBF).toNat := by
      split_ifs <;> simp <;> omega
    have hvalue : ((n / 262144 * 64 + n / 4096 % 64) * 64 + n / 64 % 64) * 64 + n % 64 = n := by
      omega
    rw [List.cons_append, List.cons_append, List.cons_append, List.singleton_append,
      decodeFrom_lead (ofByte?_four (by omega)) three_ne_zero,
      decodeFrom_following (by omega) hlow hhigh (show 3 ≠ 1 by decide),
      decodeFrom_following (by omega) (by simp) (by simp; omega)
        (show 3 - 1 ≠ 1 by decide),
      decodeFrom_last (by omega) (by simp) (by simp; omega) rfl]
    simp only [hvalue, hback]
    rfl

theorem decodeFrom_encodeUtf8 (position : ℕ) {text : Text} (h : Encodable text) :
    decodeFrom position none (encodeUtf8 text) = .ok (text, []) := by
  induction text generalizing position with
  | nil => rfl
  | cons c text ih =>
    obtain ⟨hc, htext⟩ := encodable_cons.mp h
    cases c with
    | surrogate half => cases hc
    | char c =>
      rw [encodeUtf8, List.flatMap_cons, decodeFrom_encodePoint]
      exact congrArg (Except.map _) (ih _ htext)

/-- A text without surrogates is read from its UTF-8 form. -/
theorem decodeUtf8_encodeUtf8 {text : Text} (h : Encodable text) :
    decodeUtf8 (encodeUtf8 text) = .ok text := by
  rw [decodeUtf8, decodeFrom_encodeUtf8 0 h]

theorem encodeUtf8_append (s t : Text) : encodeUtf8 (s ++ t) = encodeUtf8 s ++ encodeUtf8 t :=
  List.flatMap_append

theorem eq_of_encodeUtf8_eq {s t : Text} (hs : Encodable s) (ht : Encodable t)
    (h : encodeUtf8 s = encodeUtf8 t) : s = t := by
  have hs := decodeUtf8_encodeUtf8 hs
  rw [h, decodeUtf8_encodeUtf8 ht] at hs
  exact (Except.ok.inj hs).symm

end GeoUrn.Text
