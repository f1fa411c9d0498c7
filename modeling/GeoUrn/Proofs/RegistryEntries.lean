import GeoUrn.Proofs.HttpRoundTrip

/-!
The entries of a registry, in three readings. A registry is made of pairs if every entry is complete.
The path of a type is that of its own entry, else of the first entry whose type is the same up to
case. Recognition tries the entries with the expected type up to case, and the entry through which
an HTTP form was read is the one under whose path it is written.
-/
namespace GeoUrn.Registry
open Text

theorem isIncomplete_iff {entry : Text × Text} :
    isIncomplete entry ↔ entry.1 = [] ∨ entry.2 = [] := by
  simp [isIncomplete]

/-- Either some entry is incomplete and the pairs are refused, or they make a registry. -/
theorem ofPairs_cases (pairs : List (Text × Text)) :
    ((∃ e ∈ Table.settled pairs, e.1 = [] ∨ e.2 = []) ∧ ∃ fault, ofPairs pairs = .error fault) ∨
      ((¬ ∃ e ∈ Table.settled pairs, e.1 = [] ∨ e.2 = []) ∧
        ∃ registry, ofPairs pairs = .ok registry ∧ registry.entries = Table.settled pairs) := by
  rw [← Table.ofPairs_eq_settled]
  unfold ofPairs
  split
  · rename_i entry h
    have hentry := List.find?_some h
    exact Or.inl ⟨⟨entry, List.mem_of_find?_eq_some h, isIncomplete_iff.mp hentry⟩, _, rfl⟩
  · rename_i h
    refine Or.inr ⟨?_, _, rfl, rfl⟩
    rintro ⟨e, he, hempty⟩
    exact List.find?_eq_none.mp h e he (isIncomplete_iff.mpr hempty)

theorem exists_fault_iff (pairs : List (Text × Text)) :
    (∃ fault, ofPairs pairs = .error fault) ↔ ∃ e ∈ Table.settled pairs, e.1 = [] ∨ e.2 = [] := by
  rcases ofPairs_cases pairs with ⟨h, hfault⟩ | ⟨h, registry, hok, -⟩
  · exact iff_of_true hfault h
  · refine iff_of_false ?_ h
    rintro ⟨fault, hfault⟩
    rw [hok] at hfault
    cases hfault

theorem entries_of_ofPairs {pairs : List (Text × Text)} {registry : Registry}
    (h : ofPairs pairs = .ok registry) : registry.entries = Table.settled pairs := by
  rcases ofPairs_cases pairs with ⟨-, fault, hfault⟩ | ⟨-, other, hok, he⟩
  · rw [hfault] at h
    cases h
  · rw [hok] at h
    cases h
    exact he

variable {registry : Registry} {type path : Text}

theorem path?_of_not_mem (h : ∀ path, (type, path) ∉ registry.entries) :
    registry.path? type =
      (registry.entries.find? fun e => lower e.1 == lower type).map Prod.snd := by
  have hnone : Table.get? type registry.entries = none := by
    apply Option.eq_none_iff_forall_ne_some.mpr
    intro path hpath
    exact h path ((Table.get?_eq_some_iff registry.distinct).mp hpath)
  rw [path?, hnone]

/-- The entry that gives the path of a type. -/
theorem path?_eq_some_iff : registry.path? type = some path ↔
    (type, path) ∈ registry.entries ∨
      (∀ own, (type, own) ∉ registry.entries) ∧ ∃ before name after,
        registry.entries = before ++ (name, path) :: after ∧ lower name = lower type ∧
          ∀ e ∈ before, lower e.1 ≠ lower type := by
  by_cases hown : ∃ own, (type, own) ∈ registry.entries
  · obtain ⟨own, hmem⟩ := hown
    rw [path?_of_mem hmem]
    constructor
    · rintro ⟨⟩
      exact Or.inl hmem
    · rintro (hpath | ⟨hnot, -⟩)
      · rw [← path?_of_mem hmem, path?_of_mem hpath]
      · exact absurd hmem (hnot own)
  · have hnot : ∀ own, (type, own) ∉ registry.entries := fun own h => hown ⟨own, h⟩
    rw [path?_of_not_mem hnot, or_iff_right (hnot path), and_iff_right hnot]
    simp only [Option.map_eq_some_iff, List.find?_eq_some_iff_append, beq_iff_eq,
      Bool.not_eq_eq_eq_not, Bool.not_true, beq_eq_false_iff_ne]
    constructor
    · rintro ⟨⟨name, path⟩, ⟨hname, before, after, hentries, hbefore⟩, rfl⟩
      exact ⟨before, name, after, hentries, hname, hbefore⟩
    · rintro ⟨before, name, after, hentries, hname, hbefore⟩
      exact ⟨(name, path), ⟨hname, before, after, hentries, hbefore⟩, rfl⟩

end GeoUrn.Registry

namespace GeoUrn.HttpForm
open Text

/-- The entries with the expected type up to case, in their order. -/
def tried (registry : Registry) (type : Option Text) : List (Text × Text) :=
  registry.entries.filter (hasType type)

/-- Entries of other types are passed over. -/
theorem firstOf?_eq_filter (type authority : Option Text) (url : Text) (start : ℤ)
    (entries : List (Text × Text)) :
    firstOf? type authority url start entries =
      firstOf? none authority url start (entries.filter (hasType type)) := by
  induction entries with
  | nil => rfl
  | cons entry rest ih =>
    have hskip : (type.any fun t => lower entry.1 != lower t) = !hasType type entry := by
      cases type <;> simp [hasType, bne]
    rw [firstOf?, hskip, ih]
    cases ht : hasType type entry with
    | true => simp [ht, firstOf?]
    | false => simp [ht]

theorem tried_eq_nil_iff {registry : Registry} {type : Text} :
    tried registry (some type) = [] ↔ registry.contains type = false := by
  rw [← Bool.not_eq_true, contains_iff]
  simp [tried, hasType]

/-- A type that is not registered is refused at once, as no entry would be tried for it. -/
theorem recognize?_eq_tried (registry : Registry) (type authority : Option Text) (url : Text)
    (start : ℤ) :
    recognize? registry type authority url start =
      firstOf? none authority url start (tried registry type) := by
  rw [recognize?, firstOf?_eq_filter]
  split_ifs with h
  · obtain ⟨t, rfl, hc⟩ : ∃ t, type = some t ∧ registry.contains t = false := by
      cases type with
      | none => cases h
      | some t => exact ⟨t, rfl, by simpa using h⟩
    rw [tried_eq_nil_iff.mpr hc]
    rfl
  · rfl

end GeoUrn.HttpForm

namespace GeoUrn.Definition
open Text Component

def behindScheme (text : Text) : Text := text.drop (text.idxOf separator + 1)

/-- Whether a text is read through an entry: this entry fits, and none before it does. -/
def IsThrough (registry : Registry) (entry : Text × Text) (text : Text) : Prop :=
  ∃ before after, registry.entries = before ++ entry :: after ∧
    HttpForm.Fits none none (behindScheme text) entry ∧
    ∀ e ∈ before, ¬ HttpForm.Fits none none (behindScheme text) e

theorem exists_isThrough {registry : Registry} {text : Text} {d : Definition}
    (h : read registry text = .ok (some d)) (hd : d.isHttp = true) :
    ∃ entry, IsThrough registry entry text := by
  obtain ⟨-, form, -, hform⟩ := read_http_iff.mp ⟨h, hd⟩
  rw [HttpForm.recognize?_eq] at hform
  obtain ⟨before, entry, after, hentries, hread, hbefore⟩ :=
    List.findSome?_eq_some_iff.mp (Except.ok.inj hform)
  obtain ⟨htype, parts, htext, hparts, -⟩ := HttpForm.readTyped?_eq_some_iff.mp hread
  refine ⟨entry, before, after, hentries, ⟨htype, parts, htext, hparts⟩, ?_⟩
  intro e he
  exact HttpForm.readTyped?_eq_none_iff.mp (hbefore e he)

/-- The definition has the type of the entry through which it was read. -/
theorem IsThrough.objectType {registry : Registry} {entry : Text × Text} {text : Text}
    (ht : IsThrough registry entry text) {d : Definition}
    (h : read registry text = .ok (some d)) (hd : d.isHttp = true) :
    d.objectType = some entry.1 := by
  obtain ⟨-, form, rfl, hform⟩ := read_http_iff.mp ⟨h, hd⟩
  obtain ⟨before, after, hentries, ⟨htype, parts, htext, hparts⟩, hbefore⟩ := ht
  have hread : HttpForm.readTyped? none none (behindScheme text) entry =
      some ⟨entry.1, parts.authority, trim parts.rest⟩ :=
    HttpForm.readTyped?_eq_some_iff.mpr ⟨htype, parts, htext, hparts, rfl⟩
  have hfirst : registry.entries.findSome? (HttpForm.readTyped? none none (behindScheme text)) =
      some ⟨entry.1, parts.authority, trim parts.rest⟩ := by
    apply List.findSome?_eq_some_iff.mpr
    refine ⟨before, entry, after, hentries, hread, ?_⟩
    intro e he
    exact HttpForm.readTyped?_eq_none_iff.mpr (hbefore e he)
  rw [HttpForm.recognize?_eq] at hform
  have hsame := hfirst.symm.trans (Except.ok.inj hform)
  rw [← Option.some.inj hsame]
  rfl

theorem IsThrough.mem {registry : Registry} {entry : Text × Text} {text : Text}
    (ht : IsThrough registry entry text) : entry ∈ registry.entries := by
  obtain ⟨before, after, hentries, -⟩ := ht
  simp [hentries]

end GeoUrn.Definition

namespace GeoUrn.Registry
open Text Definition

/-- Pairs make a registry unless an entry would be incomplete, where a repeated type keeps its place
and takes its last path. The path of a type is that of the entry with exactly this name, else that
of the first entry with this name up to case; it is registered if there is such an entry, and only
then would some entry be tried for it. An HTTP form is read with the type of its entry, whose path is
the path of the type and stands in the form that is written. -/
theorem lookup_agrees_with_recognition :
    (∀ pairs, ((∃ fault, ofPairs pairs = .error fault) ↔
        ∃ e ∈ Table.settled pairs, e.1 = [] ∨ e.2 = []) ∧
      ∀ registry, ofPairs pairs = .ok registry → registry.entries = Table.settled pairs) ∧
    (∀ (registry : Registry) (type : Text),
      (∀ path, registry.path? type = some path ↔ (type, path) ∈ registry.entries ∨
        (∀ own, (type, own) ∉ registry.entries) ∧ ∃ before name after,
          registry.entries = before ++ (name, path) :: after ∧ lower name = lower type ∧
            ∀ e ∈ before, lower e.1 ≠ lower type) ∧
      (registry.contains type ↔ ∃ e ∈ registry.entries, lower e.1 = lower type) ∧
      (registry.contains type = false ↔ HttpForm.tried registry (some type) = []) ∧
      ∀ authority url (start : ℤ),
        HttpForm.recognize? registry (some type) authority url start =
          HttpForm.firstOf? none authority url start (HttpForm.tried registry (some type))) ∧
    ∀ (registry : Registry) text d, read registry text = .ok (some d) → d.isHttp = true →
      (∃ entry, IsThrough registry entry text) ∧ ∀ entry, IsThrough registry entry text →
        d.objectType = some entry.1 ∧ registry.path? entry.1 = some entry.2 ∧
          httpLead ++ entry.2 <+: d.toText registry := by
  refine ⟨fun pairs => ⟨exists_fault_iff pairs, fun _ => entries_of_ofPairs⟩,
    fun registry type => ⟨fun path => path?_eq_some_iff, HttpForm.contains_iff registry type,
      HttpForm.tried_eq_nil_iff.symm, HttpForm.recognize?_eq_tried registry (some type)⟩, ?_⟩
  intro registry text d hread hd
  refine ⟨exists_isThrough hread hd, ?_⟩
  intro entry hentry
  have htype := hentry.objectType hread hd
  refine ⟨htype, path?_of_mem hentry.mem, ?_⟩
  rw [toText_of_path hd htype hentry.mem, ← List.append_assoc]
  exact List.prefix_append _ _

/-- Three pairs of two types that are the same up to case, of which the first comes twice. -/
def repeatedPairs : List (Text × Text) :=
  [(['c', 'r', 's'], ['/', '/', 'y', '/']), (['C', 'R', 'S'], ['/', '/', 'x', '/']),
   (['c', 'r', 's'], crsPath)]

theorem lookup_agrees_with_recognition_of_repeated_type :
    ofPairs repeatedPairs = .ok twoServers ∧ twoServers.entries = Table.settled repeatedPairs ∧
    twoServers.path? ['C', 'r', 's'] = some crsPath ∧
    ∃ d, read twoServers ("http://X/epsg#4326" : String) = .ok (some d) ∧ d.isHttp = true ∧
      ∃ entry, IsThrough twoServers entry ("http://X/epsg#4326" : String) ∧
        d.objectType = some entry.1 ∧ twoServers.path? entry.1 = some entry.2 ∧
          httpLead ++ entry.2 <+: d.toText twoServers := by
  obtain ⟨hpairs, htypes, hforms⟩ := lookup_agrees_with_recognition
  have hok : ofPairs repeatedPairs = .ok twoServers := by rfl
  have hread : read twoServers ("http://X/epsg#4326" : String) =
      .ok (some ⟨true, some ['C', 'R', 'S'], some ['e', 'p', 's', 'g'], none,
        some ['4', '3', '2', '6'], []⟩) := by
    rw [read_of_isHttp (by decide +kernel), HttpForm.recognize?_eq]
    decide +kernel
  obtain ⟨⟨entry, hentry⟩, hall⟩ := hforms _ _ _ hread rfl
  refine ⟨hok, (hpairs _).2 _ hok, ?_, _, hread, rfl, entry, hentry, hall entry hentry⟩
  apply ((htypes twoServers ['C', 'r', 's']).1 crsPath).mpr
  refine Or.inr ⟨?_, [], ['c', 'r', 's'], _, rfl, by decide +kernel, by simp⟩
  simp [twoServers]

end GeoUrn.Registry
