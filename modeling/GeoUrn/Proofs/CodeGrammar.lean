import GeoUrn.Proofs.CodePieces

/-!
The grammar of codes, on the pieces between the separators. A text of one piece is a code. Else the
first piece decides: the expected authority with the code behind it, an HTTP form, or a URN of the
expected type and authority. An authority that is spelled like a scheme comes before the scheme.
-/
namespace GeoUrn.Code
open Text Component
open Definition (piece readsAny_one readsAny_pair)

/-- When the pieces of a text begin those of a URN of this type and authority, and go on. -/
structure IsUrnOf (type authority : Text) (pieces : List Text) : Prop where
  length : 6 ≤ pieces.length
  scheme : sameIgnoringCase (piece pieces 0) ['u', 'r', 'n']
  namespace_ : sameIgnoringCase (piece pieces 1) ['o', 'g', 'c'] ∨
    sameIgnoringCase (piece pieces 1) ['x', '-', 'o', 'g', 'c']
  definition : sameIgnoringCase (piece pieces 2) ['d', 'e', 'f']
  objectType : sameIgnoringCase (piece pieces 3) type
  authority : sameIgnoringCase (piece pieces 4) authority

instance (type authority : Text) (pieces : List Text) :
    Decidable (IsUrnOf type authority pieces) :=
  decidable_of_iff (6 ≤ pieces.length ∧ sameIgnoringCase (piece pieces 0) ['u', 'r', 'n'] ∧
      (sameIgnoringCase (piece pieces 1) ['o', 'g', 'c'] ∨
        sameIgnoringCase (piece pieces 1) ['x', '-', 'o', 'g', 'c']) ∧
      sameIgnoringCase (piece pieces 2) ['d', 'e', 'f'] ∧
      sameIgnoringCase (piece pieces 3) type ∧ sameIgnoringCase (piece pieces 4) authority)
    ⟨fun ⟨hl, hs, hn, hd, ht, ha⟩ => ⟨hl, hs, hn, hd, ht, ha⟩, fun ⟨hl, hs, hn, hd, ht, ha⟩ =>
      ⟨hl, hs, hn, hd, ht, ha⟩⟩

/-- What is expected must be said piece by piece, and the other pieces are left. -/
theorem expectPieces?_eq_some_iff {expected : List (List Text)} {pieces rest : List Text} :
    expectPieces? expected pieces = some rest ↔ ∃ front, pieces = front ++ rest ∧
      List.Forall₂ (fun words piece => readsAny words piece = true) expected front := by
  induction expected generalizing pieces with
  | nil => simp [expectPieces?]
  | cons words more ih =>
    cases pieces with
    | nil =>
      refine iff_of_false (Option.some_ne_none rest).symm ?_
      rintro ⟨front, hp, hfront⟩
      obtain ⟨rfl, -⟩ := List.append_eq_nil_iff.mp hp.symm
      cases hfront
    | cons first others =>
      rw [expectPieces?, Option.ite_none_right_eq_some, ih]
      constructor
      · rintro ⟨hw, front, rfl, hfront⟩
        exact ⟨first :: front, rfl, .cons hw hfront⟩
      · rintro ⟨front, hp, hfront⟩
        cases hfront with
        | cons hw hmore =>
          obtain ⟨rfl, rfl⟩ := List.cons.inj hp
          exact ⟨hw, _, rfl, hmore⟩

/-- The four components after the scheme of a URN, with something behind them. -/
theorem expectPieces?_urn_iff {type authority scheme : Text} (hs : reads urnScheme scheme)
    {pieces rest : List Text} :
    (expectPieces? [namespaces, [definition], [type], [authority]] pieces = some rest ∧
        rest ≠ []) ↔
      IsUrnOf type authority (scheme :: pieces) ∧ rest = (scheme :: pieces).drop 5 := by
  rw [expectPieces?_eq_some_iff]
  constructor
  · rintro ⟨⟨front, rfl, hfront⟩, hne⟩
    rcases hfront with _ | ⟨hn, _ | ⟨hw, _ | ⟨ht, _ | ⟨ha, _ | _⟩⟩⟩⟩
    have hpos := List.length_pos_of_ne_nil hne
    refine ⟨⟨?_, hs, (readsAny_pair _ _ _).mp hn, (readsAny_one _ _).mp hw,
      (readsAny_one _ _).mp ht, (readsAny_one _ _).mp ha⟩, rfl⟩
    simp only [List.length_cons, List.cons_append, List.nil_append]
    omega
  · rintro ⟨h, rfl⟩
    match pieces, h with
    | n :: w :: t :: a :: c :: others, h =>
      refine ⟨⟨[n, w, t, a], rfl, ?_⟩, List.cons_ne_nil c others⟩
      exact .cons ((readsAny_pair _ _ n).mpr h.namespace_) <|
        .cons ((readsAny_one _ w).mpr h.definition) <|
        .cons ((readsAny_one _ t).mpr h.objectType) <|
        .cons ((readsAny_one _ a).mpr h.authority) .nil
    -- Four pieces or fewer leave nothing behind the authority.
    | [], h | [_], h | [_, _], h | [_, _, _], h | [_, _, _, _], h =>
      exact absurd h.length (by simp)

theorem expectPieces?_urn_bind_lastOf? (type authority : Text) {scheme : Text}
    (hs : reads urnScheme scheme) (pieces : List Text) :
    (expectPieces? [namespaces, [definition], [type], [authority]] pieces).bind lastOf? =
      if IsUrnOf type authority (scheme :: pieces) then lastOf? ((scheme :: pieces).drop 5)
      else none := by
  split_ifs with h
  · rw [((expectPieces?_urn_iff hs).mpr ⟨h, rfl⟩).1]
    rfl
  · rw [Option.bind_eq_none_iff]
    intro rest hrest
    cases rest with
    | nil => rfl
    | cons c others =>
      exact absurd ((expectPieces?_urn_iff hs).mp ⟨hrest, List.cons_ne_nil c others⟩).1 h

/-- The first piece decides between the forms of a text with some separator. -/
theorem read_of_cut {text scheme rest : Text} (hcut : cut separator text = (scheme, some rest))
    {registry : Registry} {type authority : Text} {found : Option HttpForm}
    (hfound : HttpForm.recognize? registry (some type) (some authority) text
      ((text.idxOf separator + 1 : ℕ) : ℤ) = .ok found) :
    read registry type authority text = .ok (
      if reads authority scheme then lastOf? (split separator rest)
      else if reads httpScheme scheme then
        found.bind fun form => if separator ∈ form.code then none else some form.code
      else if IsUrnOf type authority (scheme :: split separator rest) then
        lastOf? ((scheme :: split separator rest).drop 5)
      else none) := by
  rw [Definition.idxOf_eq hcut, Nat.cast_add, Nat.cast_one] at hfound
  rw [read, hcut]
  simp only [hfound, expect?_bind_afterVersion?]
  rw [afterVersion?_eq]
  split_ifs with ha hh hu hurn hurn
  · rfl
  · cases found <;> rfl
  · rw [expectPieces?_urn_bind_lastOf? type authority hu, if_pos hurn]
  · rw [expectPieces?_urn_bind_lastOf? type authority hu, if_neg hurn]
  · exact absurd hurn.scheme hu
  · rfl

/-- The code of every text for every type and authority, from its pieces. The HTTP form that counts
is what is recognized after the first separator. -/
theorem read_eq_pieces (registry : Registry) (type authority text : Text) :
    ∃ found, HttpForm.recognize? registry (some type) (some authority) text
        ((text.idxOf separator + 1 : ℕ) : ℤ) = .ok found ∧
      read registry type authority text = .ok (
        if (split separator text).length = 1 then trimmed? text
        else if sameIgnoringCase (piece (split separator text) 0) authority then
          lastOf? ((split separator text).drop 1)
        else if sameIgnoringCase (piece (split separator text) 0) ['h', 't', 't', 'p'] then
          found.bind fun form => if separator ∈ form.code then none else some form.code
        else if IsUrnOf type authority (split separator text) then
          lastOf? ((split separator text).drop 5)
        else none) := by
  refine ⟨_, HttpForm.recognize?_eq _ _ _ _ _, ?_⟩
  rcases cut_cases separator text with ⟨hn, hcut⟩ | ⟨scheme, rest, -, -, hcut⟩
  · rw [read, hcut, split_of_not_mem hn]
    rfl
  · have hsplit : split separator text = scheme :: split separator rest := by
      rw [split_eq_cut, hcut]
      rfl
    have hlen : (scheme :: split separator rest).length ≠ 1 := by
      have := List.length_pos_of_ne_nil (split_ne_nil separator rest)
      rw [List.length_cons]
      omega
    rw [read_of_cut hcut (HttpForm.recognize?_eq _ _ _ _ _), hsplit, if_neg hlen]
    rfl

/-- An authority that is spelled like the scheme hides the URN. -/
example : read .standard ['c', 'r', 's'] ['U', 'R', 'N'] ("urn:ogc:def:crs:URN::4326" : String) =
    .ok none := by
  decide +kernel

end GeoUrn.Code
