import GeoUrn.Proofs.CodeGrammar
import GeoUrn.Proofs.HttpGrammar

/-!
Codes and definitions. Where a text is read as a definition, its code for the type and authority of
that definition is the one the definition has, if nothing stands behind the code; for any other
type or authority it has none.
-/
open GeoUrn.CodePoint (char)

namespace GeoUrn.HttpForm
open Text

theorem not_mem_identifierRun {c : CodePoint} (hc : isIdentifierPart c = false) (text : Text) :
    c ∉ identifierRun text := by
  intro h
  have hp : isIdentifierPart c = true := List.mem_takeWhile_imp h
  rw [hc] at hp
  cases hp

theorem stop_not_mem_identifierRun (text : Text) :
    char '.' ∉ identifierRun text ∧ char '#' ∉ identifierRun text :=
  ⟨not_mem_identifierRun (by decide +kernel) text, not_mem_identifierRun (by decide +kernel) text⟩

theorem stop_not_mem_of_lower_eq {x y : Text} (h : lower x = lower y)
    (hy : char '.' ∉ y ∧ char '#' ∉ y) :
    char '.' ∉ x ∧ char '#' ∉ x := by
  obtain ⟨hdot, hsign⟩ := hy
  rw [← mem_lower_iff (by decide) (by decide), ← h, mem_lower_iff (by decide) (by decide)] at hdot
  rw [← mem_lower_iff (by decide) (by decide), ← h, mem_lower_iff (by decide) (by decide)] at hsign
  exact ⟨hdot, hsign⟩

/-- An authority without full stops and number signs ends at the first of these. -/
theorem takeWhile_stop {found extension : Text} (hf : char '.' ∉ found ∧ char '#' ∉ found)
    (he : IsExtension extension) (rest : Text) :
    (found ++ (extension ++ char '#' :: rest)).takeWhile (fun c => c != char '.' && c != char '#') =
      found := by
  have hall : ∀ c ∈ found, (c != char '.' && c != char '#') = true := by
    intro c hc
    simp only [Bool.and_eq_true, bne_iff_ne]
    exact ⟨fun h => hf.1 (h ▸ hc), fun h => hf.2 (h ▸ hc)⟩
  rw [List.takeWhile_append_of_pos hall]
  rcases he with rfl | ⟨name, rfl, -⟩ <;> simp

/-- A text has one path and one authority, if the authority has no full stop and number sign. -/
theorem authority_unique {path : Text} {expected expected' : Option Text} {parts parts' : Parts}
    (h : Recognizes path expected parts) (h' : Recognizes path expected' parts')
    (ha : char '.' ∉ parts.authority ∧ char '#' ∉ parts.authority)
    (ha' : char '.' ∉ parts'.authority ∧ char '#' ∉ parts'.authority) (ht : parts.text = parts'.text) :
    parts.authority = parts'.authority := by
  have hlen : parts.path.length = parts'.path.length := h.path_length.trans h'.path_length.symm
  obtain ⟨-, hrest⟩ := List.append_inj ht hlen
  have hstop := takeWhile_stop ha h.extension parts.rest
  rw [hrest, takeWhile_stop ha' h'.extension] at hstop
  exact hstop.symm

theorem Recognizes.stop_not_mem {path : Text} {parts : Parts} (h : Recognizes path none parts) :
    char '.' ∉ parts.authority ∧ char '#' ∉ parts.authority := by
  have ha : parts.authority = identifierRun _ := h.authority
  rw [ha]
  exact stop_not_mem_identifierRun _

/-- With an expected authority an entry reads what it reads without, or nothing. -/
theorem readTail?_expected {entry : Text × Text} {tail : Text} {form : HttpForm}
    (h : readTail? entry none tail = some form) {authority : Text}
    (ha : char '.' ∉ authority ∧ char '#' ∉ authority) :
    readTail? entry (some authority) tail =
      if sameIgnoringCase authority form.authority then
        some { form with authority := authority } else none := by
  obtain ⟨parts, rfl, hparts, rfl⟩ := readTail?_eq_some_iff.mp h
  have hiff : sameIgnoringCase authority parts.authority ↔
      parts.authority.length = authority.length ∧ lower parts.authority = lower authority := by
    rw [sameIgnoringCase_comm, sameIgnoringCase_iff]
  split_ifs with hs
  · exact readTail?_eq_some_iff.mpr
      ⟨parts, rfl, { hparts with authority := hiff.mp hs }, rfl⟩
  · rw [Option.eq_none_iff_forall_ne_some]
    intro form' hform'
    obtain ⟨parts', ht, hparts', -⟩ := readTail?_eq_some_iff.mp hform'
    have hsame : parts'.authority.length = authority.length ∧
        lower parts'.authority = lower authority := hparts'.authority
    have hstop := stop_not_mem_of_lower_eq hsame.2 ha
    have he := authority_unique hparts hparts' hparts.stop_not_mem hstop ht
    exact hs (hiff.mpr (he ▸ hsame))

/-- If no two types are the same up to case, only the entry of the expected type reads a form. -/
theorem findSome?_readTyped? {entries : List (Text × Text)}
    (hT : (entries.map fun e => lower e.1).Nodup) {entry : Text × Text} (he : entry ∈ entries)
    {type : Text} (ht : lower type = lower entry.1) (expected : Option Text) (tail : Text) :
    entries.findSome? (readTyped? (some type) expected tail) = readTail? entry expected tail := by
  have hother {e : Text × Text} (hne : lower e.1 ≠ lower entry.1) :
      readTyped? (some type) expected tail e = none :=
    if_neg fun h => hne ((hasType_iff.mp h type rfl).trans ht)
  have hown : readTyped? (some type) expected tail entry = readTail? entry expected tail :=
    if_pos (hasType_iff.mpr fun t h => by cases h; exact ht.symm)
  induction entries with
  | nil => cases he
  | cons first more ih =>
    obtain ⟨hfirst, hmore⟩ := List.nodup_cons.mp hT
    rw [List.findSome?_cons]
    rcases List.mem_cons.mp he with rfl | he
    · have hnone : more.findSome? (readTyped? (some type) expected tail) = none := by
        rw [List.findSome?_eq_none_iff]
        exact fun e hm => hother fun h => hfirst (List.mem_map.mpr ⟨e, hm, h⟩)
      rw [hown, hnone]
      cases readTail? entry expected tail <;> rfl
    · have hne : lower first.1 ≠ lower entry.1 :=
        fun h => hfirst (List.mem_map.mpr ⟨entry, he, h.symm⟩)
      rw [hother hne]
      exact ih hmore he

/-- What recognition finds for any type and authority, it finds for its own, and for no other
authority. -/
theorem recognize?_expected {registry : Registry} (hT : (registry.types.map lower).Nodup)
    {url : Text} {start : ℕ} {form : HttpForm}
    (h : recognize? registry none none url start = .ok (some form)) {type authority : Text}
    (ht : lower type = lower form.objectType) (ha : char '.' ∉ authority ∧ char '#' ∉ authority) :
    recognize? registry (some type) (some authority) url start =
      .ok (if sameIgnoringCase authority form.authority then
        some { form with authority := authority } else none) := by
  rw [recognize?_eq] at h ⊢
  obtain ⟨entry, he, hentry⟩ := List.exists_of_findSome?_eq_some (Except.ok.inj h)
  have hread : readTail? entry none (url.drop start) = some form := hentry
  obtain ⟨parts, -, -, rfl⟩ := readTail?_eq_some_iff.mp hread
  rw [Registry.types, List.map_map] at hT
  rw [findSome?_readTyped? hT he ht, readTail?_expected hread ha]

end GeoUrn.HttpForm

namespace GeoUrn.Code
open Text Component

theorem not_reads_of_reads {word authority text : Text} (hw : reads word text)
    (ha : ¬ sameIgnoringCase authority word) : ¬ reads authority text := by
  intro h
  refine ha (sameIgnoringCase_trans ?_ hw)
  rw [sameIgnoringCase_comm]
  exact h

/-- What is left to expect of a URN is its type and its authority. -/
theorem isUrnOf_iff {s n w t a v c : Text} {rest : List Text}
    (hu : Definition.IsUrn (s :: n :: w :: t :: a :: v :: c :: rest)) (type authority : Text) :
    IsUrnOf type authority (s :: n :: w :: t :: a :: v :: c :: rest) ↔
      reads type t ∧ reads authority a := by
  refine ⟨fun h => ⟨h.objectType, h.authority⟩, fun ⟨ht, ha⟩ => ⟨?_, ?_, ?_, ?_, ht, ha⟩⟩
  · simp
  · exact (sameIgnoringCase_plain_iff (by decide) _).mpr hu.scheme
  · exact hu.namespace_.imp (sameIgnoringCase_plain_iff (by decide) _).mpr
      (sameIgnoringCase_plain_iff (by decide) _).mpr
  · exact (sameIgnoringCase_plain_iff (by decide) _).mpr hu.definition

theorem read_of_isUrn {text : Text} (hu : Definition.IsUrn (split separator text))
    {authority : Text} (ha : ¬ sameIgnoringCase authority urnScheme) (registry : Registry)
    (type : Text) :
    read registry type authority text =
      .ok (if sameIgnoringCase type
            ((Definition.ofPieces (split separator text)).objectType.getD []) ∧
          sameIgnoringCase authority
            ((Definition.ofPieces (split separator text)).authority.getD []) ∧
          (split separator text).length = 7 then
        (Definition.ofPieces (split separator text)).code else none) := by
  have hnot := hu.not_isHttp
  obtain ⟨s, n, w, t, a, v, c, rest, hp⟩ := Definition.exists_of_seven_le hu.length
  obtain ⟨behind, hcut, hbehind⟩ := cut_of_split_cons_cons hp
  rw [Definition.isHttp_iff hcut] at hnot
  rw [hp] at hu ⊢
  have hs : reads urnScheme s := (Definition.reads_iff_spells (by decide) s).mpr hu.scheme
  have hc : trimmed? c = some (trim c) := trimmed?_eq_some_iff.mpr ⟨rfl, hu.code⟩
  have hlast : lastOf? (v :: c :: rest) = if rest = [] then some (trim c) else none := by
    cases rest <;> simp [lastOf?, hc]
  have hlen : (s :: n :: w :: t :: a :: v :: c :: rest).length = 7 ↔ rest = [] := by simp
  rw [read_of_cut hcut (HttpForm.recognize?_eq _ _ _ _ _), hbehind,
    if_neg (not_reads_of_reads hs ha), if_neg hnot]
  simp only [isUrnOf_iff hu, List.drop_succ_cons, List.drop_zero, hlast, Definition.ofPieces,
    Definition.getD_orNone, hlen, ← and_assoc, ite_and]
  rw [sameIgnoringCase_comm type, sameIgnoringCase_comm authority]
  rfl

theorem read_of_isHttp {text : Text} (hh : Definition.IsHttp (split separator text))
    {authority : Text} (ha : ¬ sameIgnoringCase authority httpScheme) (registry : Registry)
    (type : Text) :
    read registry type authority text =
      (HttpForm.recognize? registry (some type) (some authority) text
        ((text.idxOf separator + 1 : ℕ) : ℤ)).map
          (Option.bind · fun form => if separator ∈ form.code then none else some form.code) := by
  obtain ⟨scheme, rest, hcut⟩ := hh.exists_cut
  have hs := (Definition.isHttp_iff hcut).mp hh
  rw [read, hcut, Definition.idxOf_eq hcut]
  simp only [if_neg (not_reads_of_reads hs ha), if_pos hs]
  refine congrArg₂ Except.map (funext fun form => ?_) rfl
  cases form <;> rfl

/-- The code of a text for a type and an authority agrees with the definition that the text is read
as. From a URN it is found for the type and the authority of the definition if the URN ends with
the code. From an HTTP form it is found for the authority of the definition if the code has no
separator. -/
theorem read_eq_definition_code (registry : Registry) (hT : (registry.types.map lower).Nodup)
    (text : Text) (d : Definition) (hd : Definition.read registry text = .ok (some d))
    (authority : Text) (hu : ¬ sameIgnoringCase authority urnScheme)
    (hh : ¬ sameIgnoringCase authority httpScheme) :
    (d.isHttp = false → ∀ type, read registry type authority text =
      .ok (if sameIgnoringCase type (d.objectType.getD []) ∧
          sameIgnoringCase authority (d.authority.getD []) ∧
          (split separator text).length = 7 then d.code else none)) ∧
    (d.isHttp = true → ∀ type, lower type = lower (d.objectType.getD []) →
      char '.' ∉ authority → char '#' ∉ authority → read registry type authority text =
        .ok (if sameIgnoringCase authority (d.authority.getD []) ∧ separator ∉ d.code.getD [] then
          d.code else none)) := by
  constructor
  · intro hurn type
    obtain ⟨hpieces, rfl⟩ := Definition.read_urn_iff.mp ⟨hd, hurn⟩
    exact read_of_isUrn hpieces hu registry type
  · intro hhttp type ht hdot hsign
    obtain ⟨hpieces, form, rfl, hform⟩ := Definition.read_http_iff.mp ⟨hd, hhttp⟩
    rw [read_of_isHttp hpieces hh, HttpForm.recognize?_expected hT hform ht ⟨hdot, hsign⟩]
    simp only [Definition.ofHttpForm, Option.getD_some, Except.map]
    by_cases hs : sameIgnoringCase authority form.authority
    · by_cases hc : separator ∈ form.code
      · simp [hs, hc]
      · simp [hs, hc]
    · simp [hs]

theorem read_definition_code_of_epsg :
    read .standard ['C', 'R', 'S'] ['e', 'p', 's', 'g']
        ("urn:ogc:def:crs:EPSG:8.2:4326" : String) = .ok (some ['4', '3', '2', '6']) ∧
      read .standard ['C', 'R', 'S'] ['e', 'p', 's', 'g']
        ("http://www.opengis.net/gml/srs/EPSG.xml#4326" : String) =
          .ok (some ['4', '3', '2', '6']) := by
  have hT : (Registry.standard.types.map lower).Nodup := List.nodup_singleton _
  have hurn : Definition.read .standard ("urn:ogc:def:crs:EPSG:8.2:4326" : String) =
      .ok (some ⟨false, some ['c', 'r', 's'], some ['E', 'P', 'S', 'G'], some ['8', '.', '2'],
        some ['4', '3', '2', '6'], []⟩) := by decide +kernel
  have hhttp : Definition.read .standard
      ("http://www.opengis.net/gml/srs/EPSG.xml#4326" : String) =
      .ok (some ⟨true, some ['c', 'r', 's'], some ['E', 'P', 'S', 'G'], none,
        some ['4', '3', '2', '6'], []⟩) := by
    rw [Definition.read_of_isHttp (by decide +kernel), HttpForm.recognize?_eq]
    decide +kernel
  constructor
  · rw [(read_eq_definition_code .standard hT _ _ hurn ['e', 'p', 's', 'g'] (by decide +kernel)
      (by decide +kernel)).1 rfl]
    decide +kernel
  · rw [(read_eq_definition_code .standard hT _ _ hhttp ['e', 'p', 's', 'g'] (by decide +kernel)
      (by decide +kernel)).2 rfl _ (by decide +kernel) (by decide) (by decide)]
    decide +kernel

end GeoUrn.Code
