import GeoUrn.Proofs.HttpReading

/-!
The grammar of HTTP forms. The text after `http:` is the path of an entry, an authority, an
extension that may be left out, a number sign and a code. `recognize?` answers with the first entry
that the text fits, in the order of the registry, and with nothing if it fits none.
-/
namespace GeoUrn.HttpForm
open Text
open CodePoint (char)

/-- The parts of the text after `http:`, with a number sign before the last of them. -/
structure Parts where
  path : Text
  authority : Text
  extension : Text
  rest : Text

def Parts.text (parts : Parts) : Text :=
  parts.path ++ (parts.authority ++ (parts.extension ++ char '#' :: parts.rest))

/-- Without an expected authority all identifier characters are taken, else as many characters as
are expected, and they must say the same up to case. -/
def IsAuthority (expected : Option Text) (found behind : Text) : Prop :=
  match expected with
  | none => found = identifierRun (found ++ behind)
  | some authority => found.length = authority.length ∧ lower found = lower authority

/-- An extension is empty, or a full stop with any characters but number signs. -/
def IsExtension (extension : Text) : Prop :=
  extension = [] ∨ ∃ name, extension = char '.' :: name ∧ char '#' ∉ name

/-- When an entry with this path recognizes the parts of a text. -/
structure Recognizes (path : Text) (expected : Option Text) (parts : Parts) : Prop where
  path_length : parts.path.length = path.length
  path_lower : lower parts.path = lower path
  authority_ne_nil : parts.authority ≠ []
  authority : IsAuthority expected parts.authority (parts.extension ++ char '#' :: parts.rest)
  extension : IsExtension parts.extension
  code : ∃ c ∈ parts.rest, isBlank c = false

/-- An entry fits if it has the expected type and recognizes the text. -/
def Fits (type expected : Option Text) (tail : Text) (entry : Text × Text) : Prop :=
  (∀ t ∈ type, lower entry.1 = lower t) ∧
    ∃ parts : Parts, tail = parts.text ∧ Recognizes entry.2 expected parts

theorem trimmed?_eq_some_iff_exists {rest code : Text} :
    trimmed? rest = some code ↔ (∃ c ∈ rest, isBlank c = false) ∧ code = trim rest := by
  have hne : (∃ c ∈ rest, isBlank c = false) ↔ trim rest ≠ [] := by
    rw [ne_eq, trim_eq_nil_iff]
    simp
  rw [trimmed?_eq_some_iff, hne]
  constructor
  · rintro ⟨rfl, h⟩
    exact ⟨h, rfl⟩
  · rintro ⟨h, rfl⟩
    exact ⟨rfl, h⟩

theorem codeIn?_eq_some_iff {tail code : Text} :
    codeIn? tail = some code ↔ ∃ extension rest, tail = extension ++ char '#' :: rest ∧
      IsExtension extension ∧ (∃ c ∈ rest, isBlank c = false) ∧ code = trim rest := by
  constructor
  · intro h
    cases tail with
    | nil => cases h
    | cons c tail =>
      simp only [codeIn?] at h
      split_ifs at h with hdot hsign
      · obtain ⟨rest, hcut, hcode⟩ := Option.bind_eq_some_iff.mp h
        rcases cut_cases (char '#') tail with ⟨-, he⟩ | ⟨name, behind, hname, rfl, he⟩
        · rw [he] at hcut
          cases hcut
        · rw [he] at hcut
          cases hcut
          exact ⟨char '.' :: name, rest, by rw [hdot]; rfl, Or.inr ⟨name, rfl, hname⟩,
            trimmed?_eq_some_iff_exists.mp hcode⟩
      · exact ⟨[], tail, by rw [hsign]; rfl, Or.inl rfl, trimmed?_eq_some_iff_exists.mp h⟩
  · rintro ⟨extension, rest, rfl, rfl | ⟨name, rfl, hname⟩, hcode⟩
    · simpa [codeIn?] using trimmed?_eq_some_iff_exists.mpr hcode
    · simpa [codeIn?, cut_append hname] using trimmed?_eq_some_iff_exists.mpr hcode

theorem admits_iff {expected : Option Text} {found : Text} :
    admits expected found ↔ found ≠ [] ∧ ∀ authority ∈ expected,
      found.length = authority.length ∧ lower found = lower authority := by
  cases expected <;> simp [admits, sameIgnoringCase_iff]

theorem isAuthority_iff {expected : Option Text} {found behind : Text} :
    IsAuthority expected found behind ↔ authorityIn expected (found ++ behind) = found ∧
      ∀ authority ∈ expected,
        found.length = authority.length ∧ lower found = lower authority := by
  cases expected with
  | none => simp [IsAuthority, authorityIn, eq_comm]
  | some authority =>
    simp only [IsAuthority, authorityIn, Option.mem_def, Option.some.injEq, forall_eq']
    refine ⟨fun h => ⟨?_, h⟩, fun h => h.2⟩
    rw [← h.1, List.take_left]

theorem readAuthority?_eq_some_iff {type tail : Text} {expected : Option Text} {form : HttpForm} :
    readAuthority? type expected tail = some form ↔
      ∃ found extension rest, tail = found ++ (extension ++ char '#' :: rest) ∧ found ≠ [] ∧
        IsAuthority expected found (extension ++ char '#' :: rest) ∧ IsExtension extension ∧
        (∃ c ∈ rest, isBlank c = false) ∧ form = ⟨type, expected.getD found, trim rest⟩ := by
  rw [readAuthority?]
  constructor
  · intro h
    split_ifs at h with ha
    obtain ⟨hne, hsame⟩ := admits_iff.mp ha
    obtain ⟨code, hcode, rfl⟩ := Option.map_eq_some_iff.mp h
    obtain ⟨extension, rest, hdrop, hext, hrest, rfl⟩ := codeIn?_eq_some_iff.mp hcode
    have htail : tail = authorityIn expected tail ++ (extension ++ char '#' :: rest) := by
      rw [← hdrop, authorityIn_append_drop]
    refine ⟨_, extension, rest, htail, hne, isAuthority_iff.mpr ⟨?_, hsame⟩, hext, hrest, rfl⟩
    rw [← htail]
  · rintro ⟨found, extension, rest, rfl, hne, hauth, hext, hrest, rfl⟩
    obtain ⟨hin, hsame⟩ := isAuthority_iff.mp hauth
    have hcode : codeIn? (extension ++ char '#' :: rest) = some (trim rest) :=
      codeIn?_eq_some_iff.mpr ⟨extension, rest, rfl, hext, hrest, rfl⟩
    simp only [hin, if_pos (admits_iff.mpr ⟨hne, hsame⟩), List.drop_left, hcode]
    rfl

theorem readTail?_eq_some_iff {entry : Text × Text} {expected : Option Text} {tail : Text}
    {form : HttpForm} :
    readTail? entry expected tail = some form ↔
      ∃ parts : Parts, tail = parts.text ∧ Recognizes entry.2 expected parts ∧
        form = ⟨entry.1, expected.getD parts.authority, trim parts.rest⟩ := by
  rw [readTail?]
  constructor
  · intro h
    split_ifs at h with hpath
    obtain ⟨hlen, hlow⟩ := sameIgnoringCase_iff.mp hpath
    obtain ⟨found, extension, rest, hdrop, hne, hauth, hext, hrest, hform⟩ :=
      readAuthority?_eq_some_iff.mp h
    refine ⟨⟨tail.take entry.2.length, found, extension, rest⟩, ?_,
      ⟨hlen, hlow, hne, hauth, hext, hrest⟩, hform⟩
    simp only [Parts.text, ← hdrop, List.take_append_drop]
  · rintro ⟨parts, rfl, ⟨hlen, hlow, hne, hauth, hext, hrest⟩, rfl⟩
    rw [Parts.text, ← hlen, List.take_left, List.drop_left,
      if_pos (sameIgnoringCase_iff.mpr ⟨hlen, hlow⟩)]
    exact readAuthority?_eq_some_iff.mpr
      ⟨parts.authority, parts.extension, parts.rest, rfl, hne, hauth, hext, hrest, rfl⟩

theorem hasType_iff {type : Option Text} {entry : Text × Text} :
    hasType type entry ↔ ∀ t ∈ type, lower entry.1 = lower t := by
  cases type <;> simp [hasType]

theorem readTyped?_eq_some_iff {type expected : Option Text} {tail : Text} {entry : Text × Text}
    {form : HttpForm} :
    readTyped? type expected tail entry = some form ↔ (∀ t ∈ type, lower entry.1 = lower t) ∧
      ∃ parts : Parts, tail = parts.text ∧ Recognizes entry.2 expected parts ∧
        form = ⟨entry.1, expected.getD parts.authority, trim parts.rest⟩ := by
  rw [readTyped?, ← hasType_iff]
  split_ifs with h
  · rw [readTail?_eq_some_iff]
    simp [h]
  · simp [h]

theorem readTyped?_eq_none_iff {type expected : Option Text} {tail : Text} {entry : Text × Text} :
    readTyped? type expected tail entry = none ↔ ¬ Fits type expected tail entry := by
  rw [Option.eq_none_iff_forall_ne_some]
  constructor
  · rintro h ⟨htype, parts, htail, hparts⟩
    exact h _ (readTyped?_eq_some_iff.mpr ⟨htype, parts, htail, hparts, rfl⟩)
  · rintro h form hform
    obtain ⟨htype, parts, htail, hparts, -⟩ := readTyped?_eq_some_iff.mp hform
    exact h ⟨htype, parts, htail, hparts⟩

/-- Recognition always answers. It gives a form exactly if some entry fits the text, and then what
the first entry that fits makes of its parts. -/
theorem recognize?_first_fitting (registry : Registry) (type expected : Option Text) (url : Text)
    (start : ℕ) :
    ∃ answer, recognize? registry type expected url start = .ok answer ∧
      (∀ form, answer = some form ↔ ∃ before entry after, ∃ parts : Parts,
        registry.entries = before ++ entry :: after ∧
        (∀ e ∈ before, ¬ Fits type expected (url.drop start) e) ∧
        (∀ t ∈ type, lower entry.1 = lower t) ∧
        url.drop start = parts.text ∧ Recognizes entry.2 expected parts ∧
        form = ⟨entry.1, expected.getD parts.authority, trim parts.rest⟩) ∧
      (answer = none ↔ ∀ e ∈ registry.entries, ¬ Fits type expected (url.drop start) e) := by
  refine ⟨_, recognize?_eq registry type expected url start, fun form => ?_, ?_⟩
  · rw [List.findSome?_eq_some_iff]
    constructor
    · rintro ⟨before, entry, after, hentries, hform, hbefore⟩
      obtain ⟨htype, parts, htail, hparts, hform⟩ := readTyped?_eq_some_iff.mp hform
      exact ⟨before, entry, after, parts, hentries,
        fun e he => readTyped?_eq_none_iff.mp (hbefore e he), htype, htail, hparts, hform⟩
    · rintro ⟨before, entry, after, parts, hentries, hbefore, htype, htail, hparts, hform⟩
      exact ⟨before, entry, after, hentries,
        readTyped?_eq_some_iff.mpr ⟨htype, parts, htail, hparts, hform⟩,
        fun e he => readTyped?_eq_none_iff.mpr (hbefore e he)⟩
  · rw [List.findSome?_eq_none_iff]
    simp only [readTyped?_eq_none_iff]

end GeoUrn.HttpForm
