import GeoUrn.Proofs.UrnGrammar

/-!
URNs written and read back. A definition comes back from its URN exactly if it is one that some
URN says: its values are not empty, have no separator and no blanks at their ends, it has a code,
and its parameters have no separators and are not a single empty text.
-/
namespace GeoUrn.Definition
open Text

/-- What a component of a URN can say. -/
structure IsComponent (text : Text) : Prop where
  ne_nil : text ≠ []
  no_separator : Component.separator ∉ text
  trimmed : IsTrimmed text

/-- The definitions that URNs say. -/
structure IsUrnRecord (d : Definition) : Prop where
  isHttp : d.isHttp = false
  objectType : ∀ text ∈ d.objectType, IsComponent text
  authority : ∀ text ∈ d.authority, IsComponent text
  version : ∀ text ∈ d.version, IsComponent text
  code : ∃ text, d.code = some text ∧ IsComponent text
  parameters : d.parameters ≠ [[]] ∧ ∀ text ∈ d.parameters, Component.separator ∉ text

theorem identifierRanges_not_blank : ∀ r ∈ identifierRanges, ∀ b ∈ blankRanges,
    r.last < b.first ∨ b.last < r.first := by
  decide +kernel

theorem isBlank_of_isIdentifierPart {c : CodePoint} (h : isIdentifierPart c) : isBlank c = false := by
  obtain ⟨r, hr, hfirst, hlast⟩ := (inRanges_iff _ c).mp h
  rw [isBlank_eq_false_iff]
  intro b hb
  have := identifierRanges_not_blank r hr b hb
  omega

theorem ne_separator_of_isIdentifierPart {c : CodePoint} (h : isIdentifierPart c) :
    c ≠ Component.separator := by
  rintro rfl
  exact absurd h (by decide +kernel)

/-- A text without any blanks has none at its ends. -/
theorem isComponent_of_forall {text : Text} (hne : text ≠ [])
    (h : ∀ c ∈ text, isBlank c = false ∧ c ≠ Component.separator) : IsComponent text where
  ne_nil := hne
  no_separator hm := (h _ hm).2 rfl
  trimmed := ⟨fun c hc => (h c (List.mem_of_head? hc)).1,
    fun c hc => (h c (List.mem_of_getLast? hc)).1⟩

theorem separator_not_mem_piece (text : Text) (i : ℕ) :
    Component.separator ∉ piece (split Component.separator text) i := by
  intro h
  have hm := mem_of_mem_trim h
  rw [List.getD_eq_getElem?_getD] at hm
  cases hi : (split Component.separator text)[i]? with
  | none => simp [hi] at hm
  | some p =>
    rw [hi] at hm
    exact not_mem_of_mem_split _ _ p (List.mem_of_getElem? hi) hm

theorem isComponent_piece {text : Text} {i : ℕ}
    (h : piece (split Component.separator text) i ≠ []) :
    IsComponent (piece (split Component.separator text) i) :=
  ⟨h, separator_not_mem_piece text i, isTrimmed_trim _⟩

theorem isComponent_of_mem_orNone {text component : Text} {i : ℕ}
    (h : component ∈ orNone (piece (split Component.separator text) i)) :
    IsComponent component := by
  obtain ⟨hne, he⟩ := Option.ite_none_left_eq_some.mp h
  cases he
  exact isComponent_piece hne

/-- Every definition that is read from a URN is one of those that come back. -/
theorem IsUrn.isUrnRecord {text : Text} (h : IsUrn (split Component.separator text)) :
    IsUrnRecord (ofPieces (split Component.separator text)) where
  isHttp := rfl
  objectType _ := isComponent_of_mem_orNone
  authority _ := isComponent_of_mem_orNone
  version _ := isComponent_of_mem_orNone
  code := ⟨_, rfl, isComponent_piece h.code⟩
  parameters := by
    simp only [ofPieces, parametersIn]
    split_ifs with hp
    · simp
    · exact ⟨hp, fun p hm => not_mem_of_mem_split _ _ p (List.mem_of_mem_drop hm)⟩

/-- The pieces of the URN of a definition, if the definition has no separators in it. -/
def urnPieces (d : Definition) : List Text :=
  ['u', 'r', 'n'] :: ['o', 'g', 'c'] :: ['d', 'e', 'f'] :: d.objectType.getD [] ::
    d.authority.getD [] :: d.version.getD [] :: d.code.getD [] :: d.parameters

theorem toUrn_eq_join (d : Definition) : d.toUrn = join [Component.separator] (urnPieces d) :=
  rfl

theorem not_isHttp_toUrn (d : Definition) : ¬ IsHttp (split Component.separator d.toUrn) := by
  intro h
  have hn : Component.separator ∉ (['u', 'r', 'n'] : Text) := by decide
  have hcut : cut Component.separator d.toUrn =
      ((['u', 'r', 'n'] : Text), some (join [Component.separator] (urnPieces d).tail)) :=
    cut_append hn _
  have hs := h.scheme
  rw [split_eq_cut, hcut] at hs
  have hw : ¬ Spells ['h', 't', 't', 'p'] (trim ['u', 'r', 'n']) := by decide
  exact hw hs

theorem separator_not_mem_getD {o : Option Text} (h : ∀ text ∈ o, IsComponent text) :
    Component.separator ∉ o.getD [] := by
  cases o with
  | none => exact List.not_mem_nil
  | some text => exact (h text rfl).no_separator

theorem IsUrnRecord.isComponent_code {d : Definition} (h : IsUrnRecord d) :
    ∀ text ∈ d.code, IsComponent text := by
  obtain ⟨code, he, hc⟩ := h.code
  rw [he]
  rintro text ⟨⟩
  exact hc

theorem IsUrnRecord.separator_not_mem {d : Definition} (h : IsUrnRecord d) :
    ∀ piece ∈ urnPieces d, Component.separator ∉ piece := by
  simp only [urnPieces, List.forall_mem_cons]
  exact ⟨by decide, by decide, by decide, separator_not_mem_getD h.objectType,
    separator_not_mem_getD h.authority, separator_not_mem_getD h.version,
    separator_not_mem_getD h.isComponent_code, h.parameters.2⟩

theorem IsUrnRecord.split_toUrn {d : Definition} (h : IsUrnRecord d) :
    split Component.separator d.toUrn = urnPieces d := by
  rw [toUrn_eq_join]
  exact split_join (List.cons_ne_nil _ _) h.separator_not_mem

theorem orNone_trim_getD {o : Option Text} (h : ∀ text ∈ o, IsComponent text) :
    orNone (trim (o.getD [])) = o := by
  cases o with
  | none => rfl
  | some text =>
    have ht := h text rfl
    rw [Option.getD_some, trim_eq_self_iff.mpr ht.trimmed, orNone, if_neg ht.ne_nil]

theorem IsUrnRecord.trim_code {d : Definition} (h : IsUrnRecord d) :
    some (trim (d.code.getD [])) = d.code ∧ trim (d.code.getD []) ≠ [] := by
  obtain ⟨code, he, hc⟩ := h.code
  rw [he, Option.getD_some, trim_eq_self_iff.mpr hc.trimmed]
  exact ⟨rfl, hc.ne_nil⟩

/-- Behind the words that are written, only a code is needed. -/
theorem isUrn_written_iff {t a v c : Text} {rest : List Text} :
    IsUrn (['u', 'r', 'n'] :: ['o', 'g', 'c'] :: ['d', 'e', 'f'] :: t :: a :: v :: c :: rest) ↔
      trim c ≠ [] := by
  have hs : Spells ['u', 'r', 'n'] (trim ['u', 'r', 'n']) := by decide
  have hn : Spells ['o', 'g', 'c'] (trim ['o', 'g', 'c']) := by decide
  have hw : Spells ['d', 'e', 'f'] (trim ['d', 'e', 'f']) := by decide
  exact ⟨fun h => h.code, fun hc => ⟨by simp, hs, Or.inl hn, hw, hc⟩⟩

theorem IsUrnRecord.isUrn {d : Definition} (h : IsUrnRecord d) : IsUrn (urnPieces d) :=
  isUrn_written_iff.mpr h.trim_code.2

theorem IsUrnRecord.ofPieces_urnPieces {d : Definition} (h : IsUrnRecord d) :
    ofPieces (urnPieces d) = d := by
  have ht : orNone (piece (urnPieces d) 3) = d.objectType := orNone_trim_getD h.objectType
  have ha : orNone (piece (urnPieces d) 4) = d.authority := orNone_trim_getD h.authority
  have hv : orNone (piece (urnPieces d) 5) = d.version := orNone_trim_getD h.version
  have hc : some (piece (urnPieces d) 6) = d.code := h.trim_code.1
  have hp : parametersIn ((urnPieces d).drop 7) = d.parameters := if_neg h.parameters.1
  rw [ofPieces, ht, ha, hv, hc, hp, ← h.isHttp]

theorem IsUrnRecord.read_toUrn {d : Definition} (h : IsUrnRecord d) (registry : Registry) :
    read registry d.toUrn = .ok (some d) := by
  rw [read_of_not_isHttp (not_isHttp_toUrn d), h.split_toUrn, if_pos h.isUrn,
    h.ofPieces_urnPieces]

/-- A definition comes back from its URN exactly if it is one that some URN says. So a text that is
read as a URN has the same definition, parameters and all, as the URN that is written from it. -/
theorem read_toUrn_iff (registry : Registry) :
    (∀ d : Definition, read registry d.toUrn = .ok (some d) ↔ IsUrnRecord d) ∧
      ∀ text d, read registry text = .ok (some d) → d.isHttp = false →
        read registry d.toUrn = .ok (some d) ∧
          ∀ d', read registry d.toUrn = .ok (some d') → d'.toUrn = d.toUrn := by
  refine ⟨fun d => ⟨fun h => ?_, fun h => h.read_toUrn registry⟩, fun text d hread hd => ?_⟩
  · rw [read_of_not_isHttp (not_isHttp_toUrn d)] at h
    obtain ⟨hu, he⟩ := Option.ite_none_right_eq_some.mp (Except.ok.inj h)
    rw [← Option.some.inj he]
    exact hu.isUrnRecord
  · obtain ⟨hu, rfl⟩ := read_urn_iff.mp ⟨hread, hd⟩
    have hback := hu.isUrnRecord.read_toUrn registry
    refine ⟨hback, fun d' hd' => ?_⟩
    rw [hback] at hd'
    cases hd'
    rfl

theorem read_toUrn_of_padded :
    ∃ d, read .standard (" urn : x-OGC : def : crs : EPSG : : 4326 : a ::" : String) =
        .ok (some d) ∧ d.parameters = ([[' ', 'a', ' '], [], []] : List Text) ∧
          read .standard d.toUrn = .ok (some d) := by
  have hread : read .standard (" urn : x-OGC : def : crs : EPSG : : 4326 : a ::" : String) =
      .ok (some ⟨false, some ['c', 'r', 's'], some ['E', 'P', 'S', 'G'], none,
        some ['4', '3', '2', '6'], [[' ', 'a', ' '], [], []]⟩) := by decide +kernel
  exact ⟨_, hread, rfl, ((read_toUrn_iff .standard).2 _ _ hread rfl).1⟩

end GeoUrn.Definition
