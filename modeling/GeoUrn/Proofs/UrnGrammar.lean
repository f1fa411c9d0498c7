import GeoUrn.Definition.Parse
import GeoUrn.Proofs.HttpReading

/-!
The grammar of identifiers, on the pieces between the separators. The walk through a URN fills its
slots with one piece each, so a URN has at least seven pieces, of which the first three are fixed
words and the seventh is not blank; what follows is taken as it stands.
-/
namespace GeoUrn.Definition
open Text

def Spells (word text : Text) : Prop := text.map CodePoint.toLower = word

instance (word text : Text) : Decidable (Spells word text) := inferInstanceAs (Decidable (_ = _))

def piece (pieces : List Text) (i : ℕ) : Text := trim (pieces.getD i [])

structure IsUrn (pieces : List Text) : Prop where
  length : 7 ≤ pieces.length
  scheme : Spells ['u', 'r', 'n'] (piece pieces 0)
  namespace_ : Spells ['o', 'g', 'c'] (piece pieces 1) ∨
    Spells ['x', '-', 'o', 'g', 'c'] (piece pieces 1)
  definition : Spells ['d', 'e', 'f'] (piece pieces 2)
  code : piece pieces 6 ≠ []

structure IsHttp (pieces : List Text) : Prop where
  length : 2 ≤ pieces.length
  scheme : Spells ['h', 't', 't', 'p'] (piece pieces 0)

instance (pieces : List Text) : Decidable (IsUrn pieces) :=
  decidable_of_iff (7 ≤ pieces.length ∧ Spells ['u', 'r', 'n'] (piece pieces 0) ∧
      (Spells ['o', 'g', 'c'] (piece pieces 1) ∨
        Spells ['x', '-', 'o', 'g', 'c'] (piece pieces 1)) ∧
      Spells ['d', 'e', 'f'] (piece pieces 2) ∧ piece pieces 6 ≠ [])
    ⟨fun ⟨hl, hs, hn, hd, hc⟩ => ⟨hl, hs, hn, hd, hc⟩, fun ⟨hl, hs, hn, hd, hc⟩ =>
      ⟨hl, hs, hn, hd, hc⟩⟩

instance (pieces : List Text) : Decidable (IsHttp pieces) :=
  decidable_of_iff (2 ≤ pieces.length ∧ Spells ['h', 't', 't', 'p'] (piece pieces 0))
    ⟨fun ⟨hl, hs⟩ => ⟨hl, hs⟩, fun ⟨hl, hs⟩ => ⟨hl, hs⟩⟩

def orNone (text : Text) : Option Text := if text = [] then none else some text

def parametersIn (pieces : List Text) : List Text := if pieces = [[]] then [] else pieces

def ofPieces (pieces : List Text) : Definition where
  isHttp := false
  objectType := orNone (piece pieces 3)
  authority := orNone (piece pieces 4)
  version := orNone (piece pieces 5)
  code := some (piece pieces 6)
  parameters := parametersIn (pieces.drop 7)

theorem reads_iff_spells {word : Text} (hw : IsPlain word) (text : Text) :
    Component.reads word text ↔ Spells word (trim text) :=
  sameIgnoringCase_plain_iff hw (trim text)

theorem readsAny_one (word text : Text) :
    Component.readsAny [word] text ↔ Component.reads word text := by
  simp [Component.readsAny]

theorem readsAny_pair (first second text : Text) :
    Component.readsAny [first, second] text ↔
      Component.reads first text ∨ Component.reads second text := by
  simp [Component.readsAny]

theorem readsAny_singleton {word : Text} (hw : IsPlain word) (text : Text) :
    Component.readsAny [word] text ↔ Spells word (trim text) :=
  (readsAny_one word text).trans (reads_iff_spells hw text)

theorem readsAny_namespaces (text : Text) : Component.readsAny Component.namespaces text ↔
    Spells ['o', 'g', 'c'] (trim text) ∨ Spells ['x', '-', 'o', 'g', 'c'] (trim text) := by
  rw [Component.namespaces, readsAny_pair, reads_iff_spells (by decide),
    reads_iff_spells (by decide)]

theorem parametersOf_eq (rest : Option Text) :
    parametersOf rest = parametersIn (piecesAfter Component.separator rest) := by
  match rest with
  | none => rfl
  | some [] => rfl
  | some (c :: rest) =>
    have hne : split Component.separator (c :: rest) ≠ [[]] := fun h =>
      absurd (split_eq_singleton_nil h) (List.cons_ne_nil c rest)
    rw [parametersOf, piecesAfter, parametersIn, if_neg hne]
    simp

/-- Fills the slots with one piece each, and leaves the other pieces as parameters. -/
def fill : List Slot → List Text → Definition → Option Definition
  | [], pieces, d => some { d with parameters := parametersIn pieces }
  | _ :: _, [], _ => none
  | slot :: more, piece :: pieces, d => (slot.take? piece d).bind (fill more pieces)

theorem walk_eq_fill (slots : List Slot) (rest : Option Text) (d : Definition) :
    walk slots rest d = fill slots (piecesAfter Component.separator rest) d := by
  induction slots generalizing rest d with
  | nil => rw [walk, fill, parametersOf_eq]
  | cons slot more ih =>
    cases rest with
    | none => rfl
    | some text =>
      rw [walk, piecesAfter, split_eq_cut, fill]
      cases slot.take? (cut Component.separator text).1 d with
      | none => rfl
      | some d => exact ih _ d

theorem ofUrn?_eq_fill (text : Text) :
    ofUrn? text = fill slots (split Component.separator text) blank := walk_eq_fill _ (some text) _

theorem fill_eq_none {slots : List Slot} {pieces : List Text} (h : pieces.length < slots.length)
    (d : Definition) : fill slots pieces d = none := by
  induction slots generalizing pieces d with
  | nil => simp at h
  | cons slot more ih =>
    cases pieces with
    | nil => rfl
    | cons piece pieces =>
      rw [fill, Option.bind_eq_none_iff]
      exact fun d' _ => ih (by simpa using h) d'

theorem trimmed?_eq_orNone (text : Text) : trimmed? text = orNone (trim text) := trimmed?_eq text

theorem getD_orNone (text : Text) : (orNone text).getD [] = text := by
  unfold orNone
  split_ifs with h <;> simp [h]

theorem exists_of_seven_le {pieces : List Text} (h : 7 ≤ pieces.length) :
    ∃ s n w t a v c rest, pieces = s :: n :: w :: t :: a :: v :: c :: rest := by
  match pieces, h with
  | s :: n :: w :: t :: a :: v :: c :: rest, _ => exact ⟨s, n, w, t, a, v, c, rest, rfl⟩

/-- Seven slots take seven pieces, whatever follows. -/
theorem fill_slots (s n w t a v c : Text) (rest : List Text) :
    fill slots (s :: n :: w :: t :: a :: v :: c :: rest) blank =
      if IsUrn (s :: n :: w :: t :: a :: v :: c :: rest) then
        some (ofPieces (s :: n :: w :: t :: a :: v :: c :: rest)) else none := by
  have hs : Component.readsAny [Component.urnScheme] s ↔ _ := readsAny_singleton (by decide) s
  have hn := readsAny_namespaces n
  have hw : Component.readsAny [Component.definition] w ↔ _ := readsAny_singleton (by decide) w
  split_ifs with h
  · have hc : trimmed? c = some (trim c) := trimmed?_eq_some_iff.mpr ⟨rfl, h.code⟩
    simp only [fill, slots, Slot.take?, hs.mpr h.scheme, hn.mpr h.namespace_,
      hw.mpr h.definition, hc, if_true, Option.bind_some, Option.map_some, trimmed?_eq_orNone]
    rfl
  · rw [Option.eq_none_iff_forall_ne_some]
    intro d hd
    simp only [fill, slots, Slot.take?, Option.bind_eq_some_iff, Option.ite_none_right_eq_some,
      Option.map_eq_some_iff] at hd
    obtain ⟨_, ⟨hs', -⟩, _, ⟨hn', -⟩, _, ⟨hw', -⟩, _, -, _, -, _, -, _, ⟨code, hc, -⟩, -⟩ := hd
    obtain ⟨rfl, hne⟩ := trimmed?_eq_some_iff.mp hc
    exact h ⟨by simp, hs.mp hs', hn.mp hn', hw.mp hw', hne⟩

theorem ofUrn?_eq (text : Text) :
    ofUrn? text = if IsUrn (split Component.separator text) then
      some (ofPieces (split Component.separator text)) else none := by
  rw [ofUrn?_eq_fill]
  generalize split Component.separator text = pieces
  rcases le_or_gt 7 pieces.length with h | h
  · obtain ⟨s, n, w, t, a, v, c, rest, rfl⟩ := exists_of_seven_le h
    exact fill_slots s n w t a v c rest
  · rw [fill_eq_none h, if_neg]
    intro hu
    have := hu.length
    omega

theorem isHttp_iff {text scheme rest : Text}
    (hcut : cut Component.separator text = (scheme, some rest)) :
    IsHttp (split Component.separator text) ↔ Component.reads Component.httpScheme scheme := by
  rw [reads_iff_spells (by decide), split_eq_cut, hcut]
  obtain ⟨p, more, hp⟩ := List.exists_cons_of_ne_nil (split_ne_nil Component.separator rest)
  refine ⟨fun h => h.scheme, fun h => ⟨?_, h⟩⟩
  simp [piecesAfter, hp]

theorem idxOf_eq {text scheme rest : Text}
    (hcut : cut Component.separator text = (scheme, some rest)) :
    text.idxOf Component.separator = scheme.length := by
  rcases cut_cases Component.separator text with ⟨-, he⟩ | ⟨piece, behind, hn, rfl, he⟩
  · rw [he] at hcut
    cases hcut
  · rw [he] at hcut
    cases hcut
    rw [List.idxOf_append_of_notMem hn, List.idxOf_cons_self]
    rfl

theorem IsHttp.exists_cut {text : Text} (h : IsHttp (split Component.separator text)) :
    ∃ scheme rest, cut Component.separator text = (scheme, some rest) := by
  rcases cut_cases Component.separator text with ⟨-, hcut⟩ | ⟨scheme, rest, -, -, hcut⟩
  · rw [split_eq_cut, hcut] at h
    exact absurd h.length (by simp [piecesAfter])
  · exact ⟨scheme, rest, hcut⟩

theorem read_of_isHttp {text : Text} (h : IsHttp (split Component.separator text))
    (registry : Registry) :
    read registry text = (HttpForm.recognize? registry none none text
      ((text.idxOf Component.separator + 1 : ℕ) : ℤ)).map (Option.map ofHttpForm) := by
  obtain ⟨scheme, rest, hcut⟩ := h.exists_cut
  rw [read]
  simp only [hcut, if_pos ((isHttp_iff hcut).mp h), idxOf_eq hcut]
  rfl

theorem read_of_not_isHttp {text : Text} (h : ¬ IsHttp (split Component.separator text))
    (registry : Registry) :
    read registry text = .ok (if IsUrn (split Component.separator text) then
      some (ofPieces (split Component.separator text)) else none) := by
  rw [read]
  rcases cut_cases Component.separator text with ⟨-, hcut⟩ | ⟨scheme, rest, -, -, hcut⟩
  · rw [split_eq_cut, hcut, if_neg fun hu => absurd hu.length (by simp [piecesAfter])]
  · simp only [hcut]
    rw [if_neg fun hs => h ((isHttp_iff hcut).mpr hs), ofUrn?_eq]

/-- A text whose first piece says `http` is read as an HTTP form after that piece, or not at all.
Any other text is read exactly if its pieces are those of a URN, and then it says what they say. -/
theorem read_eq_grammar (registry : Registry) (text : Text) :
    read registry text =
      if IsHttp (split Component.separator text) then
        (HttpForm.recognize? registry none none text
          ((text.idxOf Component.separator + 1 : ℕ) : ℤ)).map (Option.map ofHttpForm)
      else if IsUrn (split Component.separator text) then
        .ok (some (ofPieces (split Component.separator text)))
      else .ok none := by
  split_ifs with hh hu
  · exact read_of_isHttp hh registry
  · rw [read_of_not_isHttp hh, if_pos hu]
  · rw [read_of_not_isHttp hh, if_neg hu]

example : read .standard (" urn : x-ogc : def : uom : EPSG : : 9001 :-1:" : String) =
    .ok (some ⟨false, some ['u', 'o', 'm'], some ['E', 'P', 'S', 'G'], none,
      some ['9', '0', '0', '1'], [['-', '1'], []]⟩) := by
  decide +kernel

theorem IsUrn.not_isHttp {pieces : List Text} (h : IsUrn pieces) : ¬ IsHttp pieces := by
  intro hh
  have he := h.scheme.symm.trans hh.scheme
  exact absurd he (by decide)

theorem read_urn_iff {registry : Registry} {text : Text} {d : Definition} :
    read registry text = .ok (some d) ∧ d.isHttp = false ↔
      IsUrn (split Component.separator text) ∧ d = ofPieces (split Component.separator text) := by
  constructor
  · rintro ⟨hread, hd⟩
    by_cases hh : IsHttp (split Component.separator text)
    · rw [read_of_isHttp hh, HttpForm.recognize?_eq] at hread
      obtain ⟨form, -, rfl⟩ := Option.map_eq_some_iff.mp (Except.ok.inj hread)
      cases hd
    · rw [read_of_not_isHttp hh] at hread
      exact (Option.ite_none_right_eq_some.mp (Except.ok.inj hread)).imp_right
        fun he => (Option.some.inj he).symm
  · rintro ⟨hu, rfl⟩
    rw [read_of_not_isHttp hu.not_isHttp, if_pos hu]
    exact ⟨rfl, rfl⟩

theorem read_http_iff {registry : Registry} {text : Text} {d : Definition} :
    read registry text = .ok (some d) ∧ d.isHttp = true ↔
      IsHttp (split Component.separator text) ∧ ∃ form, d = ofHttpForm form ∧
        HttpForm.recognize? registry none none text
          ((text.idxOf Component.separator + 1 : ℕ) : ℤ) = .ok (some form) := by
  constructor
  · rintro ⟨hread, hd⟩
    by_cases hh : IsHttp (split Component.separator text)
    · rw [read_of_isHttp hh, HttpForm.recognize?_eq] at hread
      obtain ⟨form, hform, rfl⟩ := Option.map_eq_some_iff.mp (Except.ok.inj hread)
      exact ⟨hh, form, rfl, by rw [HttpForm.recognize?_eq, hform]⟩
    · rw [read_of_not_isHttp hh] at hread
      obtain ⟨-, he⟩ := Option.ite_none_right_eq_some.mp (Except.ok.inj hread)
      cases he
      cases hd
  · rintro ⟨hh, form, rfl, hform⟩
    rw [read_of_isHttp hh, hform]
    exact ⟨rfl, rfl⟩

end GeoUrn.Definition
