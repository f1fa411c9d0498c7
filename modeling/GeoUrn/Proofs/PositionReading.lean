import GeoUrn.Proofs.CodeGrammar
import GeoUrn.Proofs.PositionBounds

/-!
Reading by positions. `scan` goes through an identifier from one separator to the next and looks at
the characters between two positions, where `read` takes the text apart. Both say the same, so that
`scan` never asks for a character outside the text.
-/
namespace GeoUrn.Text

theorem skipLeading_to_end (x y : Text) :
    skipLeading (x ++ y) x.length (x ++ y).length = .ok (x ++ y.takeWhile isBlank).length := by
  have h := skipLeading_append x y []
  rw [List.append_nil] at h
  rw [List.length_append, Nat.cast_add, h, List.length_append, Nat.cast_add]

theorem skipTrailing_to_end (x y : Text) :
    skipTrailing (x ++ y) x.length (x ++ y).length = .ok (x ++ trimRight y).length := by
  have h := skipTrailing_append x y []
  rw [List.append_nil] at h
  rw [List.length_append, Nat.cast_add, h, List.length_append, Nat.cast_add]

theorem append_takeWhile_trimLeft (x y : Text) :
    (x ++ y.takeWhile isBlank) ++ trimLeft y = x ++ y := by
  rw [List.append_assoc]
  exact congrArg _ List.takeWhile_append_dropWhile

theorem slice_trimRight (x y : Text) :
    slice (x ++ y) x.length (x ++ trimRight y).length = trimRight y := by
  rw [List.length_append, Nat.cast_add, slice_append]
  exact (List.prefix_iff_eq_take.mp (prefix_trimRight y)).symm

theorem length_behind (x piece : Text) :
    (x.length : ℤ) + piece.length + 1 = (x ++ piece ++ [separator]).length := by
  simp only [List.length_append, List.length_singleton, Nat.cast_add, Nat.cast_one]

theorem append_behind (x piece behind : Text) :
    x ++ (piece ++ separator :: behind) = (x ++ piece ++ [separator]) ++ behind := by
  simp only [List.append_assoc, List.singleton_append]

end GeoUrn.Text

namespace GeoUrn.Component
open Text

/-- A range says what the part of the text says. -/
theorem regionMatches_append (component x y z : Text) :
    regionMatches component (x ++ (y ++ z)) x.length (x.length + y.length) =
      .ok (reads component y) := by
  have hslice := trimRange_append x y z
  simp only [trimRange, trimBounds_append, Except.map, Except.ok.injEq] at hslice
  simp only [regionMatches, trimBounds_append, Except.map, hslice, reads, sameIgnoringCase,
    add_sub_cancel_left, Nat.cast_inj, beq_eq_decide]

theorem matchesAny_append (x y z : Text) (components : List Text) :
    matchesAny (x ++ (y ++ z)) x.length (x.length + y.length) components =
      .ok (readsAny components y) := by
  induction components with
  | nil => rfl
  | cons component more ih =>
    rw [matchesAny, regionMatches_append, ih]
    cases hr : reads component y <;> simp [readsAny, hr]

theorem find?_without_scheme {text : Text} (h : separator ∉ text) :
    find? text separator 0 = none := find?_eq_none (x := []) h

theorem find?_scheme {scheme : Text} (h : separator ∉ scheme) (rest : Text) :
    find? (scheme ++ separator :: rest) separator 0 = some scheme.length := by
  simpa using find?_append_cons [] h rest

theorem regionMatches_scheme (component scheme rest : Text) :
    regionMatches component (scheme ++ rest) 0 scheme.length = .ok (reads component scheme) := by
  simpa using regionMatches_append component [] scheme rest

end GeoUrn.Component

namespace GeoUrn.Definition
open Text Component

/-- Takes what stands between two positions into the definition. -/
def Slot.takeAt? (text : Text) (lower upper : ℤ) (d : Definition) :
    Slot → Except SpanFault (Option Definition)
  | .fixed words => (matchesAny text lower upper words).map fun found => if found then some d else none
  | .objectType =>
    (trimRange text lower upper).map fun value => some { d with objectType := orNone value }
  | .authority =>
    (trimRange text lower upper).map fun value => some { d with authority := orNone value }
  | .version =>
    (trimRange text lower upper).map fun value => some { d with version := orNone value }
  | .code =>
    (trimRange text lower upper).map fun value =>
      (orNone value).map fun code => { d with code := some code }

def parametersAt (text : Text) (start : ℤ) : List Text :=
  if start < text.length then split separator (slice text start text.length) else []

/-- Walks through the components from a position on. Only the last of them may go up to the end of
the text. -/
def walkAt (text : Text) : List Slot → ℤ → Definition → Except SpanFault (Option Definition)
  | [], start, d => .ok (some { d with parameters := parametersAt text start })
  | slot :: more, lower, d => do
    match find? text separator lower with
    | some upper =>
      match ← slot.takeAt? text lower upper d with
      | some d => walkAt text more (upper + 1) d
      | none => return none
    | none =>
      if more.isEmpty then
        match ← slot.takeAt? text lower text.length d with
        | some d => walkAt text more (text.length + 1) d
        | none => return none
      else return none

def scan (registry : Registry) (text : Text) : Except SpanFault (Option Definition) := do
  match find? text separator 0 with
  | none => return none
  | some upper =>
    if ← regionMatches httpScheme text 0 upper then
      let form ← HttpForm.recognize? registry none none text (upper + 1)
      return form.map ofHttpForm
    else walkAt text slots 0 blank

theorem Slot.takeAt?_append (x y z : Text) (d : Definition) (slot : Slot) :
    slot.takeAt? (x ++ (y ++ z)) x.length (x.length + y.length) d = .ok (slot.take? y d) := by
  cases slot with
  | fixed words => rw [takeAt?, matchesAny_append, take?, Except.map]
  | objectType => rw [takeAt?, trimRange_append, take?, Except.map, trimmed?_eq_orNone]
  | authority => rw [takeAt?, trimRange_append, take?, Except.map, trimmed?_eq_orNone]
  | version => rw [takeAt?, trimRange_append, take?, Except.map, trimmed?_eq_orNone]
  | code => rw [takeAt?, trimRange_append, take?, Except.map, trimmed?_eq_orNone]

theorem parametersAt_append (x rest : Text) :
    parametersAt (x ++ rest) x.length = parametersOf (some rest) := by
  cases rest with
  | nil => simp [parametersAt, parametersOf]
  | cons c rest =>
    have hslice : slice (x ++ c :: rest) x.length (x ++ c :: rest).length = c :: rest := by
      rw [List.length_append, Nat.cast_add, slice_append, List.take_length]
    rw [parametersAt, hslice, if_pos (by simp), parametersOf]
    exact List.cons_ne_nil c rest

/-- Behind the end of the text there are no parameters, and no component either. -/
theorem walkAt_nil_behind (text : Text) (d : Definition) :
    walkAt text [] (text.length + 1) d = .ok (walk [] none d) := by
  rw [walkAt, parametersAt, if_neg (by omega)]
  rfl

theorem Slot.takeAt?_to_end (x y : Text) (d : Definition) (slot : Slot) :
    slot.takeAt? (x ++ y) x.length (x ++ y).length d = .ok (slot.take? y d) := by
  have h := slot.takeAt?_append x y [] d
  rwa [List.append_nil, ← Nat.cast_add, ← List.length_append] at h

/-- The walk from a position is the walk through what stands there. -/
theorem walkAt_append (slots : List Slot) (x rest : Text) (d : Definition) :
    walkAt (x ++ rest) slots x.length d = .ok (walk slots (some rest) d) := by
  -- What lies before the position, here x, grows by each component and its separator.
  induction slots generalizing x rest d with
  | nil => rw [walkAt, parametersAt_append, walk]
  | cons slot more ih =>
    rw [walkAt, walk]
    rcases cut_cases separator rest with ⟨hn, hcut⟩ | ⟨piece, behind, hn, rfl, hcut⟩
    · rw [find?_eq_none hn, hcut]
      simp only [Slot.takeAt?_to_end, bind, Except.bind]
      cases more with
      | nil =>
        simp only [List.isEmpty_nil, if_true, walkAt_nil_behind]
        cases slot.take? rest d <;> rfl
      | cons next more => cases slot.take? rest d <;> rfl
    · have hnext (d : Definition) : walkAt (x ++ (piece ++ separator :: behind)) more
          (x.length + piece.length + 1) d = .ok (walk more (some behind) d) := by
        rw [length_behind, append_behind, ih]
      rw [find?_append_cons x hn, hcut]
      simp only [Nat.cast_add, Slot.takeAt?_append, bind, Except.bind]
      cases slot.take? piece d with
      | none => rfl
      | some d => exact hnext d

/-- An identifier says the same by positions and by pieces. -/
theorem scan_eq_read (registry : Registry) (text : Text) :
    scan registry text = read registry text := by
  rcases cut_cases separator text with ⟨hn, hcut⟩ | ⟨scheme, rest, hn, rfl, hcut⟩
  · rw [scan, read, find?_without_scheme hn, hcut]
    rfl
  · have hwalk := walkAt_append slots [] (scheme ++ separator :: rest) blank
    rw [scan, read, find?_scheme hn, hcut]
    simp only [regionMatches_scheme, bind, Except.bind]
    split_ifs
    · cases HttpForm.recognize? registry none none (scheme ++ separator :: rest)
        (scheme.length + 1) <;> rfl
    · exact hwalk

theorem exists_read (registry : Registry) (text : Text) : ∃ d, read registry text = .ok d := by
  by_cases h : IsHttp (split separator text)
  · rw [read_of_isHttp h, HttpForm.recognize?_eq]
    exact ⟨_, rfl⟩
  · exact ⟨_, read_of_not_isHttp h registry⟩

end GeoUrn.Definition

namespace GeoUrn.Code
open Text Component

def lastAt (text : Text) (start : ℤ) : Except SpanFault (Option Text) := do
  let stop ← skipTrailing text start text.length
  return some (slice text start stop)

def afterVersionAt? (text : Text) (start : ℤ) : Except SpanFault (Option Text) := do
  let first ← skipLeading text start text.length
  if text.length ≤ first then return none
  else
    match find? text separator first with
    | none => lastAt text first
    | some place =>
      let second ← skipLeading text (place + 1) text.length
      if text.length ≤ second ∨ (find? text separator second).isSome then return none
      else lastAt text second

/-- The position after some components, each of which must say one of its words. -/
def expectAt? (text : Text) : List (List Text) → ℤ → Except SpanFault (Option ℤ)
  | [], start => .ok (some start)
  | words :: more, lower => do
    match find? text separator lower with
    | none => return none
    | some upper =>
      if ← matchesAny text lower upper words then expectAt? text more (upper + 1)
      else return none

def scan (registry : Registry) (type authority text : Text) : Except SpanFault (Option Text) := do
  match find? text separator 0 with
  | none => return trimmed? text
  | some upper =>
    if ← regionMatches authority text 0 upper then afterVersionAt? text (upper + 1)
    else if ← regionMatches httpScheme text 0 upper then
      match ← HttpForm.recognize? registry (some type) (some authority) text (upper + 1) with
      | none => return none
      | some form => return if separator ∈ form.code then none else some form.code
    else if ← regionMatches urnScheme text 0 upper then
      match ← expectAt? text [namespaces, [definition], [type], [authority]] (upper + 1) with
      | none => return none
      | some start => afterVersionAt? text start
    else return none

theorem lastAt_append (x y : Text) :
    lastAt (x ++ y) x.length = .ok (some (trimRight y)) := by
  rw [lastAt, skipTrailing_to_end]
  simp only [bind, Except.bind, slice_trimRight]
  rfl

theorem length_le_iff_trimLeft_nil (x y : Text) :
    ((x ++ y).length : ℤ) ≤ (x ++ y.takeWhile isBlank).length ↔ trimLeft y = [] := by
  rw [← append_takeWhile_trimLeft x y, @List.length_append _ _ (trimLeft y),
    ← List.length_eq_zero_iff]
  omega

theorem isSome_find?_iff (x y : Text) :
    (find? (x ++ y) separator x.length).isSome ↔ separator ∈ y := by
  rcases cut_cases separator y with ⟨hn, -⟩ | ⟨piece, behind, hn, rfl, -⟩
  · simp [find?_eq_none hn, hn]
  · simp [find?_append_cons x hn]

theorem afterVersionAt?_append (x y : Text) :
    afterVersionAt? (x ++ y) x.length = .ok (afterVersion? y) := by
  rw [afterVersionAt?, skipLeading_to_end, afterVersion?]
  simp only [bind, Except.bind, length_le_iff_trimLeft_nil]
  rw [← append_takeWhile_trimLeft x y]
  cases ht : trimLeft y with
  | nil => rfl
  | cons c rest =>
    rw [if_neg (List.cons_ne_nil c rest)]
    generalize x ++ y.takeWhile isBlank = front
    rcases cut_cases separator (c :: rest) with ⟨hn, hcut⟩ | ⟨version, code, hn, he, hcut⟩
    · rw [find?_eq_none hn]
      simp only [hcut]
      exact lastAt_append front (c :: rest)
    · have hfind := find?_append_cons front hn code
      rw [← he] at hfind
      rw [hfind]
      simp only [hcut, Nat.cast_add]
      rw [length_behind, he, append_behind]
      generalize front ++ version ++ [separator] = front
      simp only [skipLeading_to_end, length_le_iff_trimLeft_nil]
      rw [← append_takeWhile_trimLeft front code]
      simp only [isSome_find?_iff, lastAt_append]
      cases trimLeft code with
      | nil => rfl
      | cons d more =>
        simp only [reduceCtorEq, false_or]
        split_ifs <;> rfl

/-- The components are found at a position as they are found in the text that stands there. -/
theorem expectAt?_append (expected : List (List Text)) (x y : Text) :
    (expectAt? (x ++ y) expected x.length = .ok none ∧ expect? expected y = none) ∨
      ∃ front behind, y = front ++ behind ∧ expect? expected y = some behind ∧
        expectAt? (x ++ y) expected x.length = .ok (some (x ++ front).length) := by
  induction expected generalizing x y with
  | nil => exact Or.inr ⟨[], y, rfl, rfl, by rw [List.append_nil]; rfl⟩
  | cons words more ih =>
    rw [expectAt?, expect?]
    rcases cut_cases separator y with ⟨hn, hcut⟩ | ⟨piece, behind, hn, rfl, hcut⟩
    · rw [find?_eq_none hn, hcut]
      exact Or.inl ⟨rfl, rfl⟩
    · rw [find?_append_cons x hn, hcut]
      simp only [Nat.cast_add, matchesAny_append, bind, Except.bind]
      split_ifs
      · rw [length_behind, append_behind]
        rcases ih (x ++ piece ++ [separator]) behind with h | ⟨front, rest, rfl, hr, hp⟩
        · exact Or.inl h
        · refine Or.inr ⟨piece ++ separator :: front, rest, by simp, hr, ?_⟩
          rw [hp]
          simp
      · exact Or.inl ⟨rfl, rfl⟩

/-- The code is the same by positions and by pieces. -/
theorem scan_eq_read (registry : Registry) (type authority text : Text) :
    scan registry type authority text = read registry type authority text := by
  rcases cut_cases separator text with ⟨hn, hcut⟩ | ⟨scheme, rest, hn, rfl, hcut⟩
  · rw [scan, read, find?_without_scheme hn, hcut]
    rfl
  · have hstart : (scheme.length : ℤ) + 1 = (scheme ++ [separator]).length := by simp
    have htext : scheme ++ separator :: rest = (scheme ++ [separator]) ++ rest := by simp
    have hafter : afterVersionAt? (scheme ++ separator :: rest) (scheme.length + 1) =
        .ok (afterVersion? rest) := by
      rw [hstart, htext, afterVersionAt?_append]
    rw [scan, read, find?_scheme hn, hcut]
    simp only [regionMatches_scheme, bind, Except.bind, hafter]
    split_ifs
    · rfl
    · cases HttpForm.recognize? registry (some type) (some authority)
        (scheme ++ separator :: rest) (scheme.length + 1) with
      | error fault => rfl
      | ok form => cases form <;> rfl
    · rw [hstart, htext]
      rcases expectAt?_append [namespaces, [definition], [type], [authority]]
        (scheme ++ [separator]) rest with ⟨hp, hr⟩ | ⟨front, behind, rfl, hr, hp⟩
      · rw [hp, hr]
        rfl
      · rw [hp, hr, ← List.append_assoc]
        exact afterVersionAt?_append (scheme ++ [separator] ++ front) behind
    · rfl

theorem exists_read (registry : Registry) (type authority text : Text) :
    ∃ code, read registry type authority text = .ok code := by
  rcases cut_cases separator text with ⟨-, hcut⟩ | ⟨scheme, rest, -, -, hcut⟩
  · exact ⟨trimmed? text, by rw [read, hcut]⟩
  · exact ⟨_, read_of_cut hcut (HttpForm.recognize?_eq _ _ _ _ _)⟩

end GeoUrn.Code

namespace GeoUrn.Registry
open Text

/-- A single character is there exactly at the positions from minus the length of the text up to the
length less one. Reading an identifier or its code asks for no other, whether the text is taken
apart or gone through by positions, and an HTTP form can be looked for at every position, also below
the front of the text and behind its end. So all three always answer. -/
theorem reading_stays_inside (registry : Registry) :
    (∀ (text : Text) (position : ℤ), (∃ c, charAt text position = .ok c) ↔
      -(text.length : ℤ) ≤ position ∧ position ≤ text.length - 1) ∧
    (∀ text, ∃ d, Definition.read registry text = .ok d ∧ Definition.scan registry text = .ok d) ∧
    (∀ type authority text, ∃ code, Code.read registry type authority text = .ok code ∧
      Code.scan registry type authority text = .ok code) ∧
    ∀ type authority url (start : ℤ), ∃ form,
      HttpForm.recognize? registry type authority url start = .ok form := by
  refine ⟨fun text position => ?_, fun text => ?_, fun type authority text => ?_,
    HttpForm.recognize?_inside registry⟩
  · rw [charAt_inside_iff]
    omega
  · obtain ⟨d, hd⟩ := Definition.exists_read registry text
    exact ⟨d, hd, (Definition.scan_eq_read registry text).trans hd⟩
  · obtain ⟨code, hcode⟩ := Code.exists_read registry type authority text
    exact ⟨code, hcode, (Code.scan_eq_read registry type authority text).trans hcode⟩

/-- A path whose first letter is written with two characters in lower case, as the capital I with a
dot is. -/
def dottedPath : Registry where
  entries := [(['t'], ['i', '\u0307', 'x'])]
  complete := by simp
  distinct := by simp

/-- The path is found in two characters, though the third position before them is below the front. -/
example : HttpForm.recognize? dottedPath none none ("İxa.b#1" : String) (-8) =
    .ok (some ⟨['t'], ['a'], ['1']⟩) := by
  decide +kernel

end GeoUrn.Registry
