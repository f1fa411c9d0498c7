import GeoUrn.Proofs.HttpGrammar
import GeoUrn.Proofs.Tables
import GeoUrn.Proofs.UrnRoundTrip

/-!
HTTP forms written and read back. Under a registry whose paths tell its entries apart, a definition
comes back from its HTTP form exactly if it is one that some HTTP form says. Whatever extension and
spelling that form had, the one that is written has the same definition.
-/
open GeoUrn.CodePoint (char)

namespace GeoUrn.Registry
open Text

theorem path?_of_mem {registry : Registry} {type path : Text}
    (h : (type, path) ∈ registry.entries) : registry.path? type = some path := by
  rw [path?, (Table.get?_eq_some_iff registry.distinct).mpr h]

theorem mem_types_iff {registry : Registry} {type : Text} :
    type ∈ registry.types ↔ ∃ path, (type, path) ∈ registry.entries := by
  simp [types]

/-- Registries with ASCII paths, none of which begins the path of another entry up to case. -/
structure IsSeparated (registry : Registry) : Prop where
  ascii : ∀ e ∈ registry.entries, ∀ c ∈ e.2, c.toNat < 128
  no_prefix : ∀ e ∈ registry.entries, ∀ other ∈ registry.entries, e ≠ other →
    ¬ lower e.2 <+: lower other.2

theorem isSeparated_standard : standard.IsSeparated where
  ascii := by simp [standard, crsPath]
  no_prefix e he other ho hne :=
    absurd ((List.mem_singleton.mp he).trans (List.mem_singleton.mp ho).symm) hne

theorem IsSeparated.eq_of_path {registry : Registry} (h : registry.IsSeparated)
    {entry other : Text × Text} (he : entry ∈ registry.entries) (ho : other ∈ registry.entries)
    {behind : Text} (hs : sameIgnoringCase ((entry.2 ++ behind).take other.2.length) other.2) :
    other = entry := by
  by_contra hne
  obtain ⟨-, hl⟩ := sameIgnoringCase_iff.mp hs
  rcases lower_prefix_or (h.ascii entry he) hl with hp | hp
  · exact h.no_prefix other ho entry he hne hp
  · exact h.no_prefix entry he other ho (Ne.symm hne) hp

end GeoUrn.Registry

namespace GeoUrn.HttpForm
open Text

/-- A text that begins with the path of an entry is read by this entry or by none. -/
theorem findSome?_readTyped?_path {registry : Registry} (h : registry.IsSeparated)
    {entry : Text × Text} (he : entry ∈ registry.entries) (behind : Text) :
    registry.entries.findSome? (readTyped? none none (entry.2 ++ behind)) =
      readTail? entry none (entry.2 ++ behind) := by
  cases hf : registry.entries.findSome? (readTyped? none none (entry.2 ++ behind)) with
  | none => exact (List.findSome?_eq_none_iff.mp hf entry he).symm
  | some form =>
    -- The entry that reads has its path in front as well, so it is no other.
    obtain ⟨other, ho, hother⟩ := List.exists_of_findSome?_eq_some hf
    have hread : readTail? other none (entry.2 ++ behind) = some form := hother
    have hpath : sameIgnoringCase ((entry.2 ++ behind).take other.2.length) other.2 := by
      by_contra hn
      rw [readTail?, if_neg hn] at hread
      cases hread
    rw [← h.eq_of_path he ho hpath] at hread ⊢
    exact hread.symm

theorem identifierRun_append_dot {authority : Text} (h : ∀ c ∈ authority, isIdentifierPart c)
    (rest : Text) : identifierRun (authority ++ char '.' :: rest) = authority := by
  have hdot : ¬ isIdentifierPart '.' := by decide +kernel
  rw [identifierRun, List.takeWhile_append_of_pos h, List.takeWhile_cons_of_neg hdot,
    List.append_nil]

theorem exists_not_blank {text : Text} (hne : text ≠ []) (ht : IsTrimmed text) :
    ∃ c ∈ text, isBlank c = false := by
  obtain ⟨c, rest, rfl⟩ := List.exists_cons_of_ne_nil hne
  exact ⟨c, List.mem_cons_self, ht.1 c rfl⟩

theorem readTail?_written (entry : Text × Text) {authority code : Text} (ha : authority ≠ [])
    (hi : ∀ c ∈ authority, isIdentifierPart c) (hc : code ≠ []) (ht : IsTrimmed code) :
    readTail? entry none (entry.2 ++ (authority ++ (Definition.extension ++ code))) =
      some ⟨entry.1, authority, code⟩ := by
  rw [readTail?_eq_some_iff]
  refine ⟨⟨entry.2, authority, ['.', 'x', 'm', 'l'], code⟩, rfl, ⟨rfl, rfl, ha, ?_, ?_, ?_⟩, ?_⟩
  · exact (identifierRun_append_dot hi _).symm
  · exact Or.inr ⟨['x', 'm', 'l'], rfl, by decide⟩
  · exact exists_not_blank hc ht
  · rw [trim_eq_self_iff.mpr ht]
    rfl

end GeoUrn.HttpForm

namespace GeoUrn.Definition
open Text

/-- The definitions that HTTP forms say under a registry. -/
structure IsHttpRecord (registry : Registry) (d : Definition) : Prop where
  isHttp : d.isHttp = true
  objectType : ∃ type ∈ registry.types, d.objectType = some type
  authority : ∃ authority, d.authority = some authority ∧ authority ≠ [] ∧
    ∀ c ∈ authority, isIdentifierPart c
  version : d.version = none
  code : ∃ code, d.code = some code ∧ code ≠ [] ∧ IsTrimmed code
  parameters : d.parameters = []

/-- Every definition that is read from an HTTP form is one of those that come back. -/
theorem isHttpRecord_of_read {registry : Registry} {text : Text} {d : Definition}
    (h : read registry text = .ok (some d)) (hd : d.isHttp = true) : IsHttpRecord registry d := by
  obtain ⟨-, form, rfl, hform⟩ := read_http_iff.mp ⟨h, hd⟩
  rw [HttpForm.recognize?_eq] at hform
  obtain ⟨entry, he, hentry⟩ := List.exists_of_findSome?_eq_some (Except.ok.inj hform)
  obtain ⟨-, parts, -, hparts, rfl⟩ := HttpForm.readTyped?_eq_some_iff.mp hentry
  have ha : parts.authority = identifierRun _ := hparts.authority
  refine ⟨rfl, ⟨entry.1, List.mem_map.mpr ⟨entry, he, rfl⟩, rfl⟩,
    ⟨parts.authority, rfl, hparts.authority_ne_nil, fun c hc => ?_⟩, rfl,
    ⟨trim parts.rest, rfl, fun hn => ?_, isTrimmed_trim _⟩, rfl⟩
  · rw [ha] at hc
    exact List.mem_takeWhile_imp hc
  · obtain ⟨c, hc, hb⟩ := hparts.code
    rw [trim_eq_nil_iff.mp hn c hc] at hb
    cases hb

theorem read_httpLead (registry : Registry) (rest : Text) :
    read registry (httpLead ++ rest) =
      .ok ((registry.entries.findSome? (HttpForm.readTyped? none none rest)).map ofHttpForm) := by
  have hcut : cut Component.separator (httpLead ++ rest) = ((['h', 't', 't', 'p'] : Text), some rest) :=
    cut_append (by decide : Component.separator ∉ (['h', 't', 't', 'p'] : Text)) rest
  have hs : Component.reads Component.httpScheme ['h', 't', 't', 'p'] := by decide +kernel
  rw [read_of_isHttp ((isHttp_iff hcut).mpr hs), HttpForm.recognize?_eq, idxOf_eq hcut]
  rfl

theorem toText_of_path {registry : Registry} {d : Definition} {type path : Text}
    (hd : d.isHttp = true) (ht : d.objectType = some type)
    (hp : (type, path) ∈ registry.entries) : d.toText registry =
      httpLead ++ (path ++ (d.authority.getD [] ++ (extension ++ d.code.getD []))) := by
  simp [toText, hd, ht, Registry.path?_of_mem hp]

theorem IsHttpRecord.read_toText {registry : Registry} (hr : registry.IsSeparated) {d : Definition}
    (h : IsHttpRecord registry d) : read registry (d.toText registry) = .ok (some d) := by
  obtain ⟨isHttp, objectType, authority, version, code, parameters⟩ := d
  obtain ⟨rfl, ⟨type, htype, rfl⟩, ⟨name, rfl, hn, hi⟩, rfl, ⟨value, rfl, hc, ht⟩, rfl⟩ := h
  obtain ⟨path, hp⟩ := Registry.mem_types_iff.mp htype
  have htext : toText registry ⟨true, some type, some name, none, some value, []⟩ =
      httpLead ++ (path ++ (name ++ (extension ++ value))) := toText_of_path rfl rfl hp
  rw [htext, read_httpLead, HttpForm.findSome?_readTyped?_path hr hp,
    HttpForm.readTail?_written (type, path) hn hi hc ht]
  rfl

theorem toText_of_not_isHttp {registry : Registry} {d : Definition} (h : d.isHttp = false) :
    d.toText registry = d.toUrn := by
  simp [toText, h]

/-- A definition of an HTTP form comes back from the form that is written exactly if it is one that
some HTTP form says. So every text that is read at all, as an HTTP form or as a URN, has the same
definition as the text that is written from it. The standard registry is separated. -/
theorem read_toText_iff :
    Registry.standard.IsSeparated ∧ ∀ registry : Registry, registry.IsSeparated →
      (∀ d : Definition, d.isHttp = true →
        (read registry (d.toText registry) = .ok (some d) ↔ IsHttpRecord registry d)) ∧
      ∀ text d, read registry text = .ok (some d) →
        read registry (d.toText registry) = .ok (some d) := by
  refine ⟨Registry.isSeparated_standard, fun registry hr => ⟨fun d hd => ?_, fun text d hread => ?_⟩⟩
  · exact ⟨fun h => isHttpRecord_of_read h hd, fun h => h.read_toText hr⟩
  · cases hd : d.isHttp with
    | true => exact (isHttpRecord_of_read hread hd).read_toText hr
    | false =>
      obtain ⟨hu, rfl⟩ := read_urn_iff.mp ⟨hread, hd⟩
      rw [toText_of_not_isHttp hd]
      exact hu.isUrnRecord.read_toUrn registry

/-- Two servers whose types are the same up to case. -/
def twoServers : Registry where
  entries := [(['c', 'r', 's'], Registry.crsPath), (['C', 'R', 'S'], ['/', '/', 'x', '/'])]
  complete := by simp [Registry.crsPath]
  distinct := by simp

theorem isSeparated_twoServers : twoServers.IsSeparated where
  ascii := by simp [twoServers, Registry.crsPath]
  no_prefix := by
    have hfirst : ¬ lower Registry.crsPath <+: lower ['/', '/', 'x', '/'] := by decide +kernel
    have hsecond : ¬ lower ['/', '/', 'x', '/'] <+: lower Registry.crsPath := by decide +kernel
    simp [twoServers, hfirst, hsecond]

theorem read_toText_of_other_spelling :
    twoServers.IsSeparated ∧
    ∃ d, read twoServers (" HTTP ://X/IGN_F.v1.gml#  RGF93 : # 2 " : String) = .ok (some d) ∧
      d.objectType = some (['C', 'R', 'S'] : Text) ∧ d.isHttp = true ∧ IsHttpRecord twoServers d ∧
        read twoServers (d.toText twoServers) = .ok (some d) := by
  have hread : read twoServers (" HTTP ://X/IGN_F.v1.gml#  RGF93 : # 2 " : String) =
      .ok (some ⟨true, some ['C', 'R', 'S'], some ['I', 'G', 'N', '_', 'F'], none,
        some ['R', 'G', 'F', '9', '3', ' ', ':', ' ', '#', ' ', '2'], []⟩) := by
    rw [read_of_isHttp (by decide +kernel), HttpForm.recognize?_eq]
    decide +kernel
  obtain ⟨hiff, hback⟩ := read_toText_iff.2 twoServers isSeparated_twoServers
  exact ⟨isSeparated_twoServers, _, hread, rfl, rfl, (hiff _ rfl).mp (hback _ _ hread),
    hback _ _ hread⟩

end GeoUrn.Definition
