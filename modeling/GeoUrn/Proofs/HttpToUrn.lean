import GeoUrn.Proofs.HttpRoundTrip

/-!
HTTP forms rewritten as URNs. The code of an HTTP form may have separators in it, which a URN reads
as the end of the code. Type, authority, version and code come through exactly if there are none.
-/
namespace GeoUrn.Definition
open Text
open Component (separator)

/-- The pieces of the URN of a definition without parameters, whatever its code has in it. -/
theorem split_toUrn_of_code {d : Definition} (ht : separator ∉ d.objectType.getD [])
    (ha : separator ∉ d.authority.getD []) (hv : separator ∉ d.version.getD [])
    (hp : d.parameters = []) :
    split separator d.toUrn = (['u', 'r', 'n'] : Text) :: ['o', 'g', 'c'] :: ['d', 'e', 'f'] ::
      d.objectType.getD [] :: d.authority.getD [] :: d.version.getD [] ::
        split separator (d.code.getD []) := by
  have hfront : ∀ piece ∈ ([['u', 'r', 'n'], ['o', 'g', 'c'], ['d', 'e', 'f'],
      d.objectType.getD [], d.authority.getD [], d.version.getD []] : List Text),
      separator ∉ piece := by
    simp only [List.forall_mem_cons]
    exact ⟨by decide, by decide, by decide, ht, ha, hv, by simp⟩
  rw [toUrn_eq_join, urnPieces, hp]
  exact split_join_concat hfront _

theorem IsHttpRecord.isComponent_authority {registry : Registry} {d : Definition}
    (h : IsHttpRecord registry d) : ∀ text ∈ d.authority, IsComponent text := by
  obtain ⟨name, he, hne, hi⟩ := h.authority
  rw [he]
  rintro _ ⟨⟩
  exact isComponent_of_forall hne fun c hc =>
    ⟨isBlank_of_isIdentifierPart (hi c hc), ne_separator_of_isIdentifierPart (hi c hc)⟩

/-- The URN of an HTTP form is cut at the first separator of the code. -/
theorem IsHttpRecord.read_toUrn {origin : Registry} {d : Definition} (h : IsHttpRecord origin d)
    (ht : ∀ type ∈ origin.types, IsComponent type) (registry : Registry) :
    read registry d.toUrn = .ok (
      if trim (cut separator (d.code.getD [])).1 = [] then none
      else some ⟨false, d.objectType, d.authority, none,
        some (trim (cut separator (d.code.getD [])).1),
        parametersOf (cut separator (d.code.getD [])).2⟩) := by
  have hto : ∀ text ∈ d.objectType, IsComponent text := by
    obtain ⟨type, hm, he⟩ := h.objectType
    rw [he]
    rintro _ ⟨⟩
    exact ht type hm
  have hao := h.isComponent_authority
  have hsplit := split_toUrn_of_code (separator_not_mem_getD hto) (separator_not_mem_getD hao)
    (by simp [h.version]) h.parameters
  rw [split_eq_cut separator (d.code.getD []), h.version, Option.getD_none] at hsplit
  rw [read_of_not_isHttp (not_isHttp_toUrn d), hsplit]
  generalize cut separator (d.code.getD []) = code
  have hof : ofPieces (['u', 'r', 'n'] :: ['o', 'g', 'c'] :: ['d', 'e', 'f'] ::
      d.objectType.getD [] :: d.authority.getD [] :: [] :: code.1 ::
        piecesAfter separator code.2) =
      ⟨false, orNone (trim (d.objectType.getD [])), orNone (trim (d.authority.getD [])), none,
        some (trim code.1), parametersIn (piecesAfter separator code.2)⟩ := rfl
  rw [hof, orNone_trim_getD hto, orNone_trim_getD hao, ← parametersOf_eq]
  simp only [isUrn_written_iff, ne_eq, ite_not]

theorem isComponent_of_mem_types_standard : ∀ type ∈ Registry.standard.types, IsComponent type := by
  intro type h
  obtain rfl := List.mem_singleton.mp h
  exact ⟨by decide, by decide, by decide⟩

theorem parametersOf_some (rest : Text) :
    parametersOf (some rest) = if rest = [] then [] else split separator rest := by
  cases rest <;> rfl

/-- Without separators in its code a definition of an HTTP form comes back from its URN as one that
a URN says. Else the code ends at the first separator, and what follows is read as parameters; if
nothing stands before it, the URN cannot be read. -/
theorem read_toUrn_of_http {text : Text} {d : Definition}
    (h : read .standard text = .ok (some d)) (hd : d.isHttp = true) (registry : Registry) :
    ∃ code, d.code = some code ∧
      (separator ∉ code → read registry d.toUrn = .ok (some { d with isHttp := false })) ∧
      (∀ head tail, code = head ++ separator :: tail → separator ∉ head →
        read registry d.toUrn = .ok (
          if trim head = [] then none
          else some ⟨false, d.objectType, d.authority, none, some (trim head),
            if tail = [] then [] else split separator tail⟩)) ∧
      ((∃ d', read registry d.toUrn = .ok (some d') ∧ d'.objectType = d.objectType ∧
        d'.authority = d.authority ∧ d'.version = d.version ∧ d'.code = d.code) ↔
          separator ∉ code) := by
  have hrecord := isHttpRecord_of_read h hd
  obtain ⟨code, hcode, hne, htrim⟩ := hrecord.code
  have hread := hrecord.read_toUrn isComponent_of_mem_types_standard registry
  rw [hcode, Option.getD_some] at hread
  have hkept : separator ∉ code → read registry d.toUrn = .ok (some { d with isHttp := false }) := by
    intro hn
    have hd' : { d with isHttp := false } =
        (⟨false, d.objectType, d.authority, none, some code, []⟩ : Definition) := by
      rw [hrecord.version, hcode, hrecord.parameters]
    rw [hread, cut_of_not_mem hn, trim_eq_self_iff.mpr htrim, if_neg hne, hd']
    rfl
  have hcutoff : ∀ head tail, code = head ++ separator :: tail → separator ∉ head →
      read registry d.toUrn = .ok (
        if trim head = [] then none
        else some ⟨false, d.objectType, d.authority, none, some (trim head),
          if tail = [] then [] else split separator tail⟩) := by
    rintro head tail rfl hn
    rw [hread, cut_append hn, parametersOf_some]
  refine ⟨code, hcode, hkept, hcutoff, ?_, fun hn => ⟨_, hkept hn, rfl, rfl, rfl, rfl⟩⟩
  rintro ⟨d', hd', -, -, -, hc⟩ hmem
  -- The code that is read ends before the first separator, so it is not the whole code.
  obtain ⟨head, tail, he, hn⟩ := List.eq_append_cons_of_mem hmem
  rw [hcutoff head tail he hn] at hd'
  obtain ⟨-, hd'⟩ := Option.ite_none_left_eq_some.mp (Except.ok.inj hd')
  rw [← Option.some.inj hd', hcode] at hc
  have hhead : separator ∈ trim head := Option.some.inj hc ▸ hmem
  exact hn (mem_of_mem_trim hhead)

theorem read_toUrn_of_http_of_separators :
    ∃ d, read .standard ("http://www.opengis.net/gml/srs/epsg.xml# a : b:: " : String) =
        .ok (some d) ∧ d.isHttp = true ∧
      read .standard d.toUrn = .ok (some ⟨false, some ['c', 'r', 's'], some ['e', 'p', 's', 'g'],
        none, some ['a'], [[' ', 'b'], [], []]⟩) := by
  have hread : read .standard ("http://www.opengis.net/gml/srs/epsg.xml# a : b:: " : String) =
      .ok (some ⟨true, some ['c', 'r', 's'], some ['e', 'p', 's', 'g'], none,
        some ['a', ' ', ':', ' ', 'b', ':', ':'], []⟩) := by
    rw [read_of_isHttp (by decide +kernel), HttpForm.recognize?_eq]
    decide +kernel
  obtain ⟨code, hcode, -, hcutoff, -⟩ := read_toUrn_of_http hread rfl .standard
  cases hcode
  refine ⟨_, hread, rfl, ?_⟩
  rw [hcutoff ['a', ' '] [' ', 'b', ':', ':'] rfl (by decide)]
  decide +kernel

end GeoUrn.Definition
