import GeoUrn.Proofs.CodeGrammar
import GeoUrn.Proofs.HttpRoundTrip

/-!
Which entries of a registry count. Entries that are added at the end leave alone what was recognized
before, entries of other types do not count where a type is expected, and for a text whose first
piece does not say `http` none counts.
-/
namespace GeoUrn.Registry
open Text

def ofType (registry : Registry) (type : Text) : Registry where
  entries := registry.entries.filter fun entry => lower entry.1 == lower type
  complete entry he := registry.complete entry (List.mem_filter.mp he).1
  distinct := registry.distinct.sublist (List.filter_sublist.map Prod.fst)

theorem mem_ofType {registry : Registry} {type : Text} {entry : Text × Text} :
    entry ∈ (registry.ofType type).entries ↔
      entry ∈ registry.entries ∧ lower entry.1 = lower type := by
  simp [ofType]

theorem contains_ofType (registry : Registry) (type : Text) :
    (registry.ofType type).contains type = registry.contains type := by
  rw [Bool.eq_iff_iff, HttpForm.contains_iff, HttpForm.contains_iff]
  simp only [mem_ofType, and_assoc, and_self]

theorem contains_of_extends {registry larger : Registry} (h : registry.entries <+: larger.entries)
    {type : Text} (hc : registry.contains type) : larger.contains type := by
  obtain ⟨entry, he, ht⟩ := (HttpForm.contains_iff registry type).mp hc
  exact (HttpForm.contains_iff larger type).mpr ⟨entry, h.subset he, ht⟩

end GeoUrn.Registry

namespace GeoUrn.HttpForm
open Text

/-- Further entries are tried only where none of those before them fits. -/
theorem firstOf?_append (type authority : Option Text) (url : Text) (start : ℤ)
    (entries further : List (Text × Text)) :
    firstOf? type authority url start (entries ++ further) =
      match firstOf? type authority url start entries with
      | .ok none => firstOf? type authority url start further
      | answer => answer := by
  induction entries with
  | nil => rfl
  | cons entry rest ih =>
    rw [List.cons_append, firstOf?, firstOf?]
    split_ifs
    · exact ih
    · cases ofEntry? entry authority url start with
      | error fault => rfl
      | ok form =>
        cases form with
        | none => exact ih
        | some form => rfl

/-- Entries of other types than the expected one can be left out. -/
theorem firstOf?_filter (type : Text) (authority : Option Text) (url : Text) (start : ℤ)
    (entries : List (Text × Text)) :
    firstOf? (some type) authority url start
        (entries.filter fun entry => lower entry.1 == lower type) =
      firstOf? (some type) authority url start entries := by
  induction entries with
  | nil => rfl
  | cons entry rest ih =>
    by_cases ht : lower entry.1 = lower type
    · have hk : (lower entry.1 == lower type) = true := by simp [ht]
      rw [List.filter_cons_of_pos (by exact hk), firstOf?, firstOf?, ih]
    · have hk : ¬ (lower entry.1 == lower type) = true := by simp [ht]
      have hs : ((some type).any fun t => lower entry.1 != lower t) = true := by simp [ht]
      rw [List.filter_cons_of_neg (by exact hk), firstOf?, if_pos hs, ih]

theorem recognize?_of_extends {registry larger : Registry}
    (h : registry.entries <+: larger.entries) {type authority : Option Text} {url : Text} {start : ℤ}
    {form : HttpForm} (hform : recognize? registry type authority url start = .ok (some form)) :
    recognize? larger type authority url start = .ok (some form) := by
  rw [recognize?] at hform ⊢
  by_cases hg : type.any fun t => !registry.contains t
  · rw [if_pos hg] at hform
    cases hform
  · -- A type that is registered stays registered.
    have hg' : ¬ (type.any fun t => !larger.contains t) = true := by
      cases type with
      | none => simp
      | some t =>
        have hc : registry.contains t = true := by simpa using hg
        simp [Registry.contains_of_extends h hc]
    obtain ⟨further, he⟩ := h
    rw [if_neg hg] at hform
    rw [if_neg hg', ← he, firstOf?_append, hform]

/-- What is made of a form that was recognized stays the same. -/
theorem map_recognize?_of_extends {α : Type} {registry larger : Registry}
    (h : registry.entries <+: larger.entries) {type authority : Option Text} {url : Text} {start : ℤ}
    {f : Option HttpForm → Option α} (hf : f none = none) {a : α}
    (ha : (recognize? registry type authority url start).map f = .ok (some a)) :
    (recognize? larger type authority url start).map f = .ok (some a) := by
  cases hr : recognize? registry type authority url start with
  | error fault =>
    rw [hr] at ha
    cases ha
  | ok form =>
    rw [hr] at ha
    cases form with
    | none =>
      have hnone : f none = some a := Except.ok.inj ha
      rw [hf] at hnone
      cases hnone
    | some form => rw [recognize?_of_extends h hr, ← ha]

theorem recognize?_ofType (registry : Registry) (type : Text) (authority : Option Text)
    (url : Text) (start : ℤ) :
    recognize? (registry.ofType type) (some type) authority url start =
      recognize? registry (some type) authority url start := by
  have hg : ((some type).any fun t => !(registry.ofType type).contains t) =
      (some type).any fun t => !registry.contains t := by
    simp [Registry.contains_ofType]
  rw [recognize?, recognize?, hg, Registry.ofType, firstOf?_filter]

end GeoUrn.HttpForm

namespace GeoUrn.Definition
open Text

theorem read_of_extends {registry larger : Registry} (h : registry.entries <+: larger.entries)
    {text : Text} {d : Definition} (hd : read registry text = .ok (some d)) :
    read larger text = .ok (some d) := by
  by_cases hh : IsHttp (split Component.separator text)
  · rw [read_of_isHttp hh] at hd ⊢
    exact HttpForm.map_recognize?_of_extends h rfl hd
  · rw [read_of_not_isHttp hh] at hd ⊢
    exact hd

/-- Where no HTTP form can be, the registry does not count. -/
theorem read_irrelevant {text : Text}
    (h : ¬ Component.reads Component.httpScheme (cut Component.separator text).1)
    (registry other : Registry) : read registry text = read other text := by
  have hh : ¬ IsHttp (split Component.separator text) := by
    intro hh
    obtain ⟨scheme, rest, hcut⟩ := hh.exists_cut
    rw [hcut] at h
    exact h ((isHttp_iff hcut).mp hh)
  rw [read_of_not_isHttp hh, read_of_not_isHttp hh]

end GeoUrn.Definition

namespace GeoUrn.Code
open Text Component

theorem read_of_extends {registry larger : Registry} (h : registry.entries <+: larger.entries)
    {type authority text code : Text} (hc : read registry type authority text = .ok (some code)) :
    read larger type authority text = .ok (some code) := by
  rcases cut_cases separator text with ⟨-, hcut⟩ | ⟨scheme, rest, -, -, hcut⟩
  · rw [read, hcut] at hc ⊢
    exact hc
  · rw [read, hcut] at hc ⊢
    simp only at hc ⊢
    by_cases ha : reads authority scheme
    · rw [if_pos ha] at hc ⊢
      exact hc
    by_cases hs : reads httpScheme scheme
    · rw [if_neg ha, if_pos hs] at hc ⊢
      exact HttpForm.map_recognize?_of_extends h rfl hc
    · rw [if_neg ha, if_neg hs] at hc ⊢
      exact hc

theorem read_ofType (registry : Registry) (type authority text : Text) :
    read (registry.ofType type) type authority text = read registry type authority text := by
  simp only [read, HttpForm.recognize?_ofType]

theorem read_irrelevant {text : Text} (h : ¬ reads httpScheme (cut separator text).1)
    (registry other : Registry) (type authority : Text) :
    read registry type authority text = read other type authority text := by
  rcases cut_cases separator text with ⟨-, hcut⟩ | ⟨scheme, rest, -, -, hcut⟩
  · rw [read, read, hcut]
  · rw [hcut] at h
    rw [read, read, hcut]
    simp only [if_neg h]

end GeoUrn.Code

namespace GeoUrn.Registry
open Text
open Definition (piece)

/-- The first piece of a text, as a component, and as it is cut off. -/
theorem reads_cut_iff (component text : Text) :
    Component.reads component (cut Component.separator text).1 ↔
      sameIgnoringCase (piece (split Component.separator text) 0) component := by
  rw [split_eq_cut]
  rfl

/-- What a registry recognizes, it goes on to recognize when entries are added at its end. Where a
type is expected, only the entries of this type count. A text whose first piece does not say `http`
is read alike under all registries. -/
theorem extension_keeps_recognized :
    (∀ (registry larger : Registry) (further : List (Text × Text)),
      larger.entries = registry.entries ++ further →
        (∀ text d, Definition.read registry text = .ok (some d) →
          Definition.read larger text = .ok (some d)) ∧
        (∀ type authority url (start : ℤ) form,
          HttpForm.recognize? registry type authority url start = .ok (some form) →
          HttpForm.recognize? larger type authority url start = .ok (some form)) ∧
        ∀ type authority text code, Code.read registry type authority text = .ok (some code) →
          Code.read larger type authority text = .ok (some code)) ∧
    (∀ (registry : Registry) (type : Text),
      (∀ authority text, Code.read registry type authority text =
        Code.read (registry.ofType type) type authority text) ∧
      ∀ authority url (start : ℤ),
        HttpForm.recognize? registry (some type) authority url start =
          HttpForm.recognize? (registry.ofType type) (some type) authority url start) ∧
    ∀ text, ¬ sameIgnoringCase (piece (split Component.separator text) 0) ['h', 't', 't', 'p'] →
      ∀ registry other : Registry, Definition.read registry text = Definition.read other text ∧
        ∀ type authority, Code.read registry type authority text =
          Code.read other type authority text := by
  refine ⟨fun registry larger further he => ?_, fun registry type => ?_, fun text ht => ?_⟩
  · have h : registry.entries <+: larger.entries := ⟨further, he.symm⟩
    exact ⟨fun _ _ => Definition.read_of_extends h, fun _ _ _ _ _ => HttpForm.recognize?_of_extends h,
      fun _ _ _ _ => Code.read_of_extends h⟩
  · exact ⟨fun authority text => (Code.read_ofType registry type authority text).symm,
      fun authority url start => (HttpForm.recognize?_ofType registry type authority url start).symm⟩
  · have h : ¬ Component.reads Component.httpScheme (cut Component.separator text).1 :=
      fun hr => ht ((reads_cut_iff _ text).mp hr)
    exact fun registry other => ⟨Definition.read_irrelevant h registry other,
      fun type authority => Code.read_irrelevant h registry other type authority⟩

/-- An entry for another server behind the standard one, and texts of all three forms. -/
theorem extension_keeps_recognized_of_two_servers :
    Definition.twoServers.entries =
      standard.entries ++ ([(['C', 'R', 'S'], ['/', '/', 'x', '/'])] : List (Text × Text)) ∧
    (∃ d, Definition.read standard ("http://www.opengis.net/gml/srs/epsg.xml#4326" : String) =
        .ok (some d) ∧
      Definition.read Definition.twoServers
        ("http://www.opengis.net/gml/srs/epsg.xml#4326" : String) = .ok (some d)) ∧
    (∃ form, HttpForm.recognize? standard none none
        ("//www.opengis.net/gml/srs/epsg#4326" : String) 0 = .ok (some form) ∧
      HttpForm.recognize? Definition.twoServers none none
        ("//www.opengis.net/gml/srs/epsg#4326" : String) 0 = .ok (some form)) ∧
    (Code.read standard ['c', 'r', 's'] ['E', 'P', 'S', 'G']
        ("http://www.opengis.net/gml/srs/epsg.xml#4326" : String) =
          .ok (some ['4', '3', '2', '6']) ∧
      Code.read Definition.twoServers ['c', 'r', 's'] ['E', 'P', 'S', 'G']
        ("http://www.opengis.net/gml/srs/epsg.xml#4326" : String) =
          .ok (some ['4', '3', '2', '6'])) ∧
    (¬ sameIgnoringCase (piece (split Component.separator (" urn:ogc" : String)) 0)
        ['h', 't', 't', 'p'] ∧
      Definition.read standard (" urn:ogc" : String) =
        Definition.read Definition.twoServers (" urn:ogc" : String)) := by
  have he : Definition.twoServers.entries =
      standard.entries ++ ([(['C', 'R', 'S'], ['/', '/', 'x', '/'])] : List (Text × Text)) := rfl
  obtain ⟨hlarger, -, hother⟩ := extension_keeps_recognized
  obtain ⟨hread, hform, hcode⟩ := hlarger _ _ _ he
  have hd : Definition.read standard ("http://www.opengis.net/gml/srs/epsg.xml#4326" : String) =
      .ok (some ⟨true, some ['c', 'r', 's'], some ['e', 'p', 's', 'g'], none,
        some ['4', '3', '2', '6'], []⟩) := by
    rw [Definition.read_of_isHttp (by decide +kernel), HttpForm.recognize?_eq]
    decide +kernel
  have hf : HttpForm.recognize? standard none none
      ("//www.opengis.net/gml/srs/epsg#4326" : String) (0 : ℕ) =
        .ok (some ⟨['c', 'r', 's'], ['e', 'p', 's', 'g'], ['4', '3', '2', '6']⟩) := by
    rw [HttpForm.recognize?_eq]
    decide +kernel
  have hc : Code.read standard ['c', 'r', 's'] ['E', 'P', 'S', 'G']
      ("http://www.opengis.net/gml/srs/epsg.xml#4326" : String) =
        .ok (some ['4', '3', '2', '6']) := by
    have hcut : cut Component.separator ("http://www.opengis.net/gml/srs/epsg.xml#4326" : String) =
        ((['h', 't', 't', 'p'] : Text),
          some ("//www.opengis.net/gml/srs/epsg.xml#4326" : Text)) := rfl
    rw [Code.read_of_cut hcut (HttpForm.recognize?_eq _ _ _ _ _)]
    decide +kernel
  have ht : ¬ sameIgnoringCase (piece (split Component.separator (" urn:ogc" : String)) 0)
      ['h', 't', 't', 'p'] := by decide +kernel
  exact ⟨he, ⟨_, hd, hread _ _ hd⟩, ⟨_, hf, hform _ _ _ _ _ hf⟩, ⟨hc, hcode _ _ _ _ hc⟩, ht,
    (hother _ ht _ _).1⟩

/-- Blanks around `http` do not keep a text from being an HTTP form, so that its first piece has to
be compared without them. -/
theorem read_depends_on_registry_of_padded_scheme :
    ¬ ∀ text, ¬ sameIgnoringCase ((split Component.separator text).headD []) ['h', 't', 't', 'p'] →
      ∀ registry other : Registry,
        Definition.read registry text = Definition.read other text := by
  intro h
  have he := h (" http://x/epsg#4326" : String) (by decide +kernel) standard Definition.twoServers
  rw [Definition.read_of_isHttp (by decide +kernel), Definition.read_of_isHttp (by decide +kernel),
    HttpForm.recognize?_eq, HttpForm.recognize?_eq] at he
  exact absurd he (by decide +kernel)

end GeoUrn.Registry
