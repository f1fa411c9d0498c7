import GeoUrn.Proofs.HttpReading

/-!
Positions that lie inside a text. A position that is not below minus the length and stays below the
length has a character, and the loops over positions ask for no other. An HTTP form is looked for at
any position: where the path of an entry has been found, the text goes on, so that all positions
after it lie inside.
-/
namespace GeoUrn.Text

/-- The character that counts from the front is there, if the number is not too large. -/
theorem charAt_index_iff {text : Text} {position index : ℤ}
    (h : (if position < 0 then position + text.length else position) = index) :
    (∃ c, charAt text position = .ok c) ↔ 0 ≤ index ∧ index < text.length := by
  simp only [charAt, h]
  split_ifs with hneg
  · simp only [exists_false, false_iff]
    omega
  · cases hc : text[index.toNat]? with
    | none =>
      have hlen := List.getElem?_eq_none_iff.mp hc
      simp only [reduceCtorEq, exists_false, false_iff]
      omega
    | some c =>
      obtain ⟨hlen, -⟩ := List.getElem?_eq_some_iff.mp hc
      simp only [Except.ok.injEq, exists_eq', true_iff]
      omega

theorem charAt_inside_iff {text : Text} {position : ℤ} :
    (∃ c, charAt text position = .ok c) ↔
      -(text.length : ℤ) ≤ position ∧ position < text.length := by
  rw [charAt_index_iff rfl]
  split_ifs <;> omega

theorem charAt_inside_ne_error {text : Text} {position : ℤ} {fault : SpanFault}
    (hl : -(text.length : ℤ) ≤ position) (hu : position < text.length) :
    charAt text position ≠ .error fault := by
  obtain ⟨c, hok⟩ := charAt_inside_iff.mpr ⟨hl, hu⟩
  rw [hok]
  simp

theorem skipLeading_inside {text : Text} {lower upper : ℤ} (hl : -(text.length : ℤ) ≤ lower)
    (hu : upper ≤ text.length) :
    ∃ first, skipLeading text lower upper = .ok first ∧ lower ≤ first := by
  fun_induction skipLeading text lower upper with
  | case1 lower hlt fault hc =>
    exact absurd hc (charAt_inside_ne_error hl (hlt.trans_le hu))
  | case2 lower hlt c hc hb ih =>
    obtain ⟨first, hfirst, hle⟩ := ih (by omega)
    exact ⟨first, hfirst, by omega⟩
  | case3 lower => exact ⟨lower, rfl, le_rfl⟩
  | case4 lower => exact ⟨lower, rfl, le_rfl⟩

theorem skipTrailing_inside {text : Text} {lower upper : ℤ} (hl : -(text.length : ℤ) ≤ lower)
    (hu : upper ≤ text.length) : ∃ last, skipTrailing text lower upper = .ok last := by
  fun_induction skipTrailing text lower upper with
  | case1 upper hlt fault hc =>
    exact absurd hc (charAt_inside_ne_error (by omega) (by omega))
  | case2 upper hlt c hc hb ih => exact ih (by omega)
  | case3 upper => exact ⟨upper, rfl⟩
  | case4 upper => exact ⟨upper, rfl⟩

theorem trimRange_inside {text : Text} {lower upper : ℤ} (hl : -(text.length : ℤ) ≤ lower)
    (hu : upper ≤ text.length) : ∃ piece, trimRange text lower upper = .ok piece := by
  obtain ⟨first, hfirst, hle⟩ := skipLeading_inside hl hu
  obtain ⟨last, hlast⟩ := skipTrailing_inside (hl.trans hle) hu
  exact ⟨slice text first last, by simp only [trimRange, trimBounds, hfirst, hlast, Except.map]⟩

theorem skipIdentifier_inside {text : Text} {start : ℤ} (h : -(text.length : ℤ) ≤ start) :
    ∃ stop, skipIdentifier text start = .ok stop ∧ start ≤ stop := by
  fun_induction skipIdentifier text start with
  | case1 start hlt fault hc =>
    exact absurd hc (charAt_inside_ne_error h hlt)
  | case2 start hlt c hc hi ih =>
    obtain ⟨stop, hstop, hle⟩ := ih (by omega)
    exact ⟨stop, hstop, by omega⟩
  | case3 start => exact ⟨start, rfl, le_rfl⟩
  | case4 start => exact ⟨start, rfl, le_rfl⟩

theorem lower_eq_nil_iff {text : Text} : lower text = [] ↔ text = [] := by
  cases text with
  | nil => simp [lower, lowerAfter]
  | cons c rest =>
    simp only [lower, lowerAfter]
    split_ifs <;> simp

/-- What a slice says has been found before its end, which therefore lies in the text. -/
theorem neg_length_lt_of_slice {text : Text} {start stop : ℤ} (h : slice text start stop ≠ []) :
    -(text.length : ℤ) < stop := by
  by_contra hle
  have hb : bound text.length stop = 0 := by
    simp only [bound]
    split_ifs <;> omega
  rw [slice, hb] at h
  simp at h

end GeoUrn.Text

namespace GeoUrn.HttpForm
open Text

variable {expected : Option Text} {url : Text}

theorem authorityEnd?_inside {stop : ℤ} (h : -(url.length : ℤ) ≤ stop) :
    ∃ found, authorityEnd? expected url stop = .ok found ∧ ∀ position ∈ found, stop ≤ position := by
  cases expected with
  | none =>
    obtain ⟨position, hp, hle⟩ := skipIdentifier_inside h
    exact ⟨some position, by rw [authorityEnd?, hp]; rfl, by simpa using hle⟩
  | some authority =>
    refine ⟨_, rfl, fun position hp => ?_⟩
    split_ifs at hp
    · obtain rfl := Option.some.inj hp
      omega
    · cases hp

/-- The number sign is found at a position from the front, also where the authority ends at one from
the end. -/
theorem anchor?_inside {position : ℤ} (h : -(url.length : ℤ) ≤ position) :
    ∃ found, anchor? url position = .ok found ∧ ∀ anchor ∈ found, 0 ≤ anchor := by
  by_cases hlt : position < url.length
  · obtain ⟨c, hc⟩ := charAt_inside_iff.mpr ⟨h, hlt⟩
    rw [anchor?, if_pos hlt, hc]
    simp only
    split_ifs with hdot hsign hneg
    · refine ⟨_, rfl, fun anchor ha => ?_⟩
      obtain ⟨place, -, rfl⟩ := Option.map_eq_some_iff.mp ha
      exact Int.natCast_nonneg place
    · exact ⟨none, rfl, by simp⟩
    · exact ⟨some position, rfl, by simpa using hneg⟩
    · exact ⟨none, rfl, by simp⟩
  · exact ⟨none, by rw [anchor?, if_neg hlt], by simp⟩

theorem codeAfter?_inside {anchor : ℤ} (h : 0 ≤ anchor) :
    ∃ code, codeAfter? url anchor = .ok code := by
  obtain ⟨piece, hp⟩ := @trimRange_inside url (anchor + 1) url.length (by omega) le_rfl
  exact ⟨_, by rw [codeAfter?, hp]; rfl⟩

theorem ofAuthority?_inside {type : Text} {stop : ℤ} (h : -(url.length : ℤ) ≤ stop) :
    ∃ form, ofAuthority? type expected url stop = .ok form := by
  rw [ofAuthority?]
  obtain ⟨found, hfound, hle⟩ := @authorityEnd?_inside expected url stop h
  rw [hfound]
  cases found with
  | none => exact ⟨none, rfl⟩
  | some authorityEnd =>
    simp only
    split_ifs
    · exact ⟨none, rfl⟩
    · obtain ⟨anchor, hanchor, hpos⟩ := anchor?_inside (h.trans (hle authorityEnd rfl))
      rw [hanchor]
      cases anchor with
      | none => exact ⟨none, rfl⟩
      | some anchor =>
        obtain ⟨code, hcode⟩ := @codeAfter?_inside url anchor (hpos anchor rfl)
        exact ⟨_, by simp only [hcode]; rfl⟩

/-- An entry can be tried at every position. Its path has some character, so where it is found at a
position that counts from the end, it ends behind the first character of the text. -/
theorem ofEntry?_inside {entry : Text × Text} (hpath : entry.2 ≠ []) (start : ℤ) :
    ∃ form, ofEntry? entry expected url start = .ok form := by
  rw [ofEntry?_eq_ofAuthority?]
  split_ifs with h
  · exact ⟨none, rfl⟩
  · obtain ⟨-, hsame⟩ := not_or.mp h
    refine ofAuthority?_inside (@neg_length_lt_of_slice url start _ fun hnil => hpath ?_).le
    rw [hnil, not_not, eq_comm, show lower [] = [] from rfl, lower_eq_nil_iff] at hsame
    exact hsame

theorem firstOf?_inside {entries : List (Text × Text)} (h : ∀ e ∈ entries, e.2 ≠ [])
    (type : Option Text) (start : ℤ) :
    ∃ form, firstOf? type expected url start entries = .ok form := by
  induction entries with
  | nil => exact ⟨none, rfl⟩
  | cons entry rest ih =>
    obtain ⟨hentry, hrest⟩ := List.forall_mem_cons.mp h
    rw [firstOf?]
    split_ifs
    · exact ih hrest
    · obtain ⟨form, hform⟩ := @ofEntry?_inside expected url entry hentry start
      rw [hform]
      cases form with
      | none => exact ih hrest
      | some form => exact ⟨some form, rfl⟩

theorem recognize?_inside (registry : Registry) (type expected : Option Text) (url : Text)
    (start : ℤ) : ∃ form, recognize? registry type expected url start = .ok form := by
  rw [recognize?]
  split_ifs
  · exact ⟨none, rfl⟩
  · exact firstOf?_inside (fun e he => (registry.complete e he).2) type start

end GeoUrn.HttpForm
