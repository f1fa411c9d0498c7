import GeoUrn.AuthorityCode
import GeoUrn.Proofs.CodeAgreement
import GeoUrn.Proofs.CodeGrammar
import GeoUrn.Proofs.UrnRoundTrip

/-!
URNs built from the codes of authorities. The characters that are kept are neither blanks nor
separators, so that what is built says the kept components, and building it again changes nothing.
-/
namespace GeoUrn.Code
open Text Component Definition

/-- The code of the URN of a definition without parameters. An authority that is spelled like the
scheme is found in the place of the scheme, with too many pieces behind it. -/
theorem read_toUrn {d : Definition} (h : IsUrnRecord d) (hp : d.parameters = [])
    (registry : Registry) (type authority : Text) :
    read registry type authority d.toUrn =
      .ok (if sameIgnoringCase authority ['u', 'r', 'n'] then none
        else if sameIgnoringCase type (d.objectType.getD []) ∧
            sameIgnoringCase authority (d.authority.getD []) then d.code
        else none) := by
  have hsplit := h.split_toUrn
  by_cases hu : sameIgnoringCase authority ['u', 'r', 'n']
  · -- The scheme says the authority, and six pieces behind it are too many for a code.
    rw [urnPieces, hp] at hsplit
    obtain ⟨rest, hcut, hrest⟩ := cut_of_split_cons_cons hsplit
    have hs : reads authority ['u', 'r', 'n'] := by
      rw [sameIgnoringCase_comm] at hu
      exact hu
    rw [read_of_cut hcut (HttpForm.recognize?_eq _ _ _ _ _), if_pos hs, if_pos hu, hrest]
    rfl
  · have hurn : IsUrn (split separator d.toUrn) := by
      rw [hsplit]
      exact h.isUrn
    have hlen : (urnPieces d).length = 7 := by simp [urnPieces, hp]
    rw [read_of_isUrn hurn hu, hsplit, h.ofPieces_urnPieces, if_neg hu]
    simp only [hlen, and_true]

end GeoUrn.Code

namespace GeoUrn.AuthorityCode
open Text Definition

theorem not_blank_of_isKept {c : CodePoint} (h : isKept c) :
    isBlank c = false ∧ c ≠ Component.separator := by
  simp only [isKept, Bool.or_eq_true, decide_eq_true_eq] at h
  rcases h with (rfl | rfl) | h
  · exact ⟨by decide, by decide⟩
  · exact ⟨by decide, by decide⟩
  · exact ⟨isBlank_of_isIdentifierPart h, ne_separator_of_isIdentifierPart h⟩

theorem isComponent_kept {component : Option Text} (h : kept component ≠ []) :
    IsComponent (kept component) :=
  isComponent_of_forall h fun _ hc => not_blank_of_isKept (List.mem_filter.mp hc).2

theorem kept_some_kept (component : Option Text) : kept (some (kept component)) = kept component :=
  List.filter_eq_self.mpr fun _ hc => (List.mem_filter.mp hc).2

theorem kept_orNone_kept (component : Option Text) :
    kept (orNone (kept component)) = kept component := by
  rw [orNone]
  split_ifs with h
  · rw [h]
    rfl
  · exact kept_some_kept component

structure IsComplete (objectType : Option Text) (id : AuthorityCode) : Prop where
  objectType : kept objectType ≠ []
  codespace : kept id.codespace ≠ []
  code : kept id.code ≠ []

def said (objectType : Option Text) (id : AuthorityCode) : Definition where
  isHttp := false
  objectType := some (kept objectType)
  authority := some (kept id.codespace)
  version := orNone (kept id.version)
  code := some (kept id.code)
  parameters := []

theorem toUrn_said (objectType : Option Text) (id : AuthorityCode) :
    (said objectType id).toUrn = join [Component.separator]
      [Component.urnLead, kept objectType, kept id.codespace, kept id.version, kept id.code] := by
  simp [Definition.toUrn, said, getD_orNone]

theorem toUrn?_eq_none_iff {objectType : Option Text} {id : AuthorityCode} :
    toUrn? objectType id = none ↔
      kept objectType = [] ∨ kept id.codespace = [] ∨ kept id.code = [] := by
  simp only [toUrn?]
  split_ifs with h
  · exact iff_of_true rfl (by simpa [or_assoc] using h)
  · exact iff_of_false not_false (by simpa [or_assoc] using h)

theorem toUrn?_eq_some_iff {objectType : Option Text} {id : AuthorityCode} {urn : Text} :
    toUrn? objectType id = some urn ↔ IsComplete objectType id ∧ urn = (said objectType id).toUrn := by
  rw [toUrn_said]
  simp only [toUrn?, Option.ite_none_left_eq_some, Bool.or_eq_true, List.isEmpty_iff, not_or,
    Option.some.injEq]
  constructor
  · rintro ⟨⟨⟨ht, hs⟩, hc⟩, rfl⟩
    exact ⟨⟨ht, hs, hc⟩, rfl⟩
  · rintro ⟨⟨ht, hs, hc⟩, rfl⟩
    exact ⟨⟨⟨ht, hs⟩, hc⟩, rfl⟩

theorem IsComplete.isUrnRecord {objectType : Option Text} {id : AuthorityCode}
    (h : IsComplete objectType id) : IsUrnRecord (said objectType id) where
  isHttp := rfl
  objectType := by
    rintro _ ⟨⟩
    exact isComponent_kept h.objectType
  authority := by
    rintro _ ⟨⟩
    exact isComponent_kept h.codespace
  version := by
    intro version hv
    obtain ⟨hne, he⟩ := Option.ite_none_left_eq_some.mp hv
    cases he
    exact isComponent_kept hne
  code := ⟨_, rfl, isComponent_kept h.code⟩
  parameters := by simp [said]

/-- Only the characters that are kept count. -/
theorem toUrn?_congr {objectType objectType' : Option Text} {id id' : AuthorityCode}
    (ht : kept objectType = kept objectType') (hs : kept id.codespace = kept id'.codespace)
    (hv : kept id.version = kept id'.version) (hc : kept id.code = kept id'.code) :
    toUrn? objectType id = toUrn? objectType' id' := by
  simp only [toUrn?, ht, hs, hv, hc]

theorem toUrn?_said (objectType : Option Text) (id : AuthorityCode) :
    toUrn? (said objectType id).objectType ⟨(said objectType id).authority,
      (said objectType id).version, (said objectType id).code⟩ = toUrn? objectType id :=
  toUrn?_congr (kept_some_kept _) (kept_some_kept _) (kept_orNone_kept _) (kept_some_kept _)

/-- A URN is built if type, codespace and code have characters that are kept. It says the kept
components, which give the same URN again, and it has the kept code unless the authority is spelled
like the scheme. A code that must be given and one given by its components have the same URN. -/
theorem toUrn?_says_kept (objectType : Option Text) (id : AuthorityCode) :
    (toUrn? objectType id = none ↔
      kept objectType = [] ∨ kept id.codespace = [] ∨ kept id.code = []) ∧
    (∀ urn, toUrn? objectType id = some urn →
      (∀ registry, Definition.read registry urn = .ok (some ⟨false, some (kept objectType),
        some (kept id.codespace), orNone (kept id.version), some (kept id.code), []⟩)) ∧
      toUrn? (some (kept objectType)) ⟨some (kept id.codespace), orNone (kept id.version),
        some (kept id.code)⟩ = some urn ∧
      ∀ registry, Code.read registry (kept objectType) (kept id.codespace) urn =
        .ok (if sameIgnoringCase (kept id.codespace) ['u', 'r', 'n'] then none
          else some (kept id.code))) ∧
    requireUrn objectType (some id) = .ok (toUrn? objectType id) ∧
    urnOf objectType id.codespace id.code id.version = .ok (toUrn? objectType id) := by
  refine ⟨toUrn?_eq_none_iff, fun urn hurn => ?_, rfl, rfl⟩
  obtain ⟨hid, rfl⟩ := toUrn?_eq_some_iff.mp hurn
  refine ⟨hid.isUrnRecord.read_toUrn, (toUrn?_said objectType id).trans hurn, fun registry => ?_⟩
  have hsame (text : Text) : sameIgnoringCase text text := sameIgnoringCase_iff.mpr ⟨rfl, rfl⟩
  rw [Code.read_toUrn hid.isUrnRecord rfl]
  simp only [said, Option.getD_some, hsame, and_self, if_true]

theorem toUrn?_says_kept_of_unclean :
    ∃ urn, toUrn? (some ['c', 'r', 's', ':']) ⟨some [' ', 'I', 'G', 'N', '-', 'F', '\n'],
        some [':', '/'], some ['4', '/', '2', '.', 'é', '\u00A0']⟩ = some urn ∧
      Definition.read .standard urn = .ok (some ⟨false, some ['c', 'r', 's'],
        some ['I', 'G', 'N', '-', 'F'], none, some ['4', '2', '.', 'é'], []⟩) ∧
      Code.read .standard ['c', 'r', 's'] ['I', 'G', 'N', '-', 'F'] urn =
        .ok (some ['4', '2', '.', 'é']) := by
  have hurn : toUrn? (some ['c', 'r', 's', ':']) ⟨some [' ', 'I', 'G', 'N', '-', 'F', '\n'],
        some [':', '/'], some ['4', '/', '2', '.', 'é', '\u00A0']⟩ =
      some ("urn:ogc:def:crs:IGN-F::42.é" : Text) := by decide +kernel
  obtain ⟨hread, -, hcode⟩ := (toUrn?_says_kept _ _).2.1 _ hurn
  refine ⟨_, hurn, ?_, ?_⟩
  · rw [hread]
    decide +kernel
  · have ht : (['c', 'r', 's'] : Text) = kept (some ['c', 'r', 's', ':']) := by decide +kernel
    have ha : (['I', 'G', 'N', '-', 'F'] : Text) = kept (some [' ', 'I', 'G', 'N', '-', 'F', '\n']) := by
      decide +kernel
    rw [ht, ha, hcode]
    decide +kernel

end GeoUrn.AuthorityCode
