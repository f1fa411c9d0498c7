import GeoUrn.Proofs.RowRecords

/-!
The canonical texts of rows, read once more. Each of them is kept as it stands and says the
definition from which it was written, so reading them changes nothing.
-/
namespace GeoUrn.Text

theorem isChomped_of_isTrimmed {text : Text} (h : IsTrimmed text) : IsChomped text := by
  intro c hc
  have hb := h.2 c hc
  constructor
  · rintro rfl
    exact absurd hb (by decide)
  · rintro rfl
    exact absurd hb (by decide)

/-- How a text ends is seen from its last part. -/
theorem isChomped_append_iff {front back : Text} (h : back ≠ []) :
    IsChomped (front ++ back) ↔ IsChomped back := by
  rw [IsChomped, IsChomped, List.getLast?_append_of_ne_nil _ h]

/-- It is also seen from the last of the pieces that it is joined from. -/
theorem isChomped_join_append_iff {front back : List Text} (hfront : front ≠ [])
    (hback : back ≠ []) (sep : CodePoint) :
    IsChomped (join [sep] (front ++ back)) ↔ IsChomped (sep :: join [sep] back) := by
  rw [join_append hfront hback, isChomped_append_iff (by simp)]
  rfl

end GeoUrn.Text

namespace GeoUrn.Definition
open Text

variable {registry : Registry} {text : Text} {d : Definition}

theorem head?_toText (registry : Registry) (d : Definition) :
    (d.toText registry).head? = some (CodePoint.char 'u') ∨
      (d.toText registry).head? = some (CodePoint.char 'h') := by
  unfold toText
  split
  · exact Or.inr rfl
  · exact Or.inl rfl

theorem IsHttpRecord.isChomped_toText (h : IsHttpRecord registry d) :
    IsChomped (d.toText registry) := by
  obtain ⟨type, htype, he⟩ := h.objectType
  obtain ⟨code, hcode, hne, htrimmed⟩ := h.code
  obtain ⟨path, hpath⟩ := Registry.mem_types_iff.mp htype
  have hchomped : IsChomped (d.code.getD []) := hcode ▸ isChomped_of_isTrimmed htrimmed
  have hne' : d.code.getD [] ≠ [] := hcode ▸ hne
  rw [toText_of_path h.isHttp he hpath]
  simp only [← List.append_assoc]
  exact (isChomped_append_iff hne').mpr hchomped

/-- Without parameters a URN ends with its code. -/
theorem IsUrnRecord.isChomped_toUrn (h : IsUrnRecord d) (hp : d.parameters = []) :
    IsChomped d.toUrn := by
  obtain ⟨code, hcode, hc⟩ := h.code
  have hpieces : urnPieces d = (urnPieces d).take 6 ++ [code] := by simp [urnPieces, hcode, hp]
  have hlast : IsChomped ([Component.separator] ++ code) :=
    (isChomped_append_iff hc.ne_nil).mpr (isChomped_of_isTrimmed hc.trimmed)
  rw [toUrn_eq_join, hpieces, isChomped_join_append_iff (by simp [urnPieces]) (by simp)]
  exact hlast

/-- With parameters it ends as the text does from which it was read. -/
theorem IsUrn.isChomped_toUrn (hu : IsUrn (split Component.separator text))
    (h : IsChomped text) : IsChomped (ofPieces (split Component.separator text)).toUrn := by
  by_cases hp : (ofPieces (split Component.separator text)).parameters = []
  · exact hu.isUrnRecord.isChomped_toUrn hp
  · generalize hpieces : split Component.separator text = pieces at hu hp
    have hdrop : (ofPieces pieces).parameters = pieces.drop 7 := by
      simp only [ofPieces, parametersIn] at hp ⊢
      split_ifs at hp ⊢
      · exact absurd rfl hp
      · rfl
    have htake : pieces.take 7 ≠ [] :=
      List.ne_nil_of_length_pos (by simpa using Nat.lt_of_lt_of_le (by decide) hu.length)
    have htext : text = join [Component.separator] (pieces.take 7 ++ pieces.drop 7) := by
      rw [List.take_append_drop, ← hpieces, join_split]
    have hurn : urnPieces (ofPieces pieces) =
        (urnPieces (ofPieces pieces)).take 7 ++ (ofPieces pieces).parameters := rfl
    -- Both texts are joined from seven pieces and then the same parameters.
    rw [htext, isChomped_join_append_iff htake (hdrop ▸ hp)] at h
    rw [toUrn_eq_join, hurn, isChomped_join_append_iff (by simp [urnPieces]) hp, hdrop]
    exact h

theorem isChomped_toText (hread : read registry text = .ok (some d)) (h : IsChomped text) :
    IsChomped (d.toText registry) := by
  cases hd : d.isHttp with
  | true => exact (isHttpRecord_of_read hread hd).isChomped_toText
  | false =>
    obtain ⟨hu, rfl⟩ := read_urn_iff.mp ⟨hread, hd⟩
    rw [toText_of_not_isHttp hd]
    exact hu.isChomped_toUrn h

theorem IsRecord.read_toText (hr : registry.IsSeparated) (h : IsRecord registry d) :
    read registry (d.toText registry) = .ok (some d) := by
  rcases h with h | h
  · rw [toText_of_not_isHttp h.isHttp]
    exact h.read_toUrn registry
  · exact h.read_toText hr

end GeoUrn.Definition

namespace GeoUrn.Batch
open Text

/-- A line that is neither skipped nor shortened, and says the definition. -/
structure IsCanonical (config : Config) (d : Definition) (text : Text) : Prop where
  kept : ¬ IsSkipped config text
  chomped : chomp text = text
  read : Definition.read config.registry text = .ok (some d)

variable {config : Config} {d : Definition}

theorem IsCanonical.rowOf_eq {text : Text} (h : IsCanonical config d text) (n : ℕ) :
    rowOf config n text = ⟨n, text, some d⟩ := by
  rw [rowOf, h.chomped, Definition.parse?_eq_some_iff.mpr h.read]

/-- A text is not skipped if it begins with a character that is neither blank nor a number sign. -/
theorem not_isSkipped (hmark : config.commentMark = none ∨
      config.commentMark = some Config.commentSign)
    {text : Text} (hchomp : chomp text = text) {c : CodePoint} (hc : text.head? = some c)
    (hblank : isBlank c = false) (hsign : c ≠ '#') : ¬ IsSkipped config text := by
  have hleft : trimLeft text = text := by
    rw [trimLeft_eq_self_iff, hc]
    rintro _ ⟨⟩
    exact hblank
  rw [IsSkipped, hchomp]
  rintro (⟨-, hall⟩ | ⟨mark, hm, hprefix⟩)
  · rw [hall c (List.mem_of_head? hc)] at hblank
    cases hblank
  · rcases hmark with hnone | hsome
    · rw [hnone] at hm
      cases hm
    · rw [hsome] at hm
      cases hm
      rw [trim, hleft] at hprefix
      obtain ⟨rest, rfl⟩ := hprefix.trans (prefix_trimRight text)
      cases hc
      exact hsign rfl

/-- What is written of a definition that was read from a line is canonical. -/
theorem isCanonical_toText (hr : config.registry.IsSeparated)
    (hmark : config.commentMark = none ∨ config.commentMark = some Config.commentSign)
    {raw : Text} (h : Definition.parse? config.registry (chomp raw) = some d) :
    IsCanonical config d (d.toText config.registry) := by
  have hread := Definition.parse?_eq_some_iff.mp h
  have hchomp : chomp (d.toText config.registry) = d.toText config.registry :=
    chomp_eq_self_iff.mpr (Definition.isChomped_toText hread (isChomped_chomp raw))
  refine ⟨?_, hchomp, (Definition.isRecord_of_read hread).read_toText hr⟩
  rcases Definition.head?_toText config.registry d with hc | hc
  · exact not_isSkipped hmark hchomp hc (by decide) (by decide)
  · exact not_isSkipped hmark hchomp hc (by decide) (by decide)

/-- The texts that are written of the definitions of rows, in order. -/
def canonicalTexts (registry : Registry) (rows : List Row) : List Text :=
  (rows.filterMap Row.definition).map (Definition.toText registry)

def canonicalRow (registry : Registry) (number : ℕ) (d : Definition) : Row :=
  ⟨number, d.toText registry, some d⟩

theorem keptRowsFrom_canonical {definitions : List Definition}
    (h : ∀ d ∈ definitions, IsCanonical config d (d.toText config.registry)) (first : ℕ) :
    keptRowsFrom config first (definitions.map (Definition.toText config.registry)) =
      definitions.mapIdx fun i d => canonicalRow config.registry (i + first) d := by
  induction definitions generalizing first with
  | nil => rfl
  | cons d more ih =>
    obtain ⟨hd, hmore⟩ := List.forall_mem_cons.mp h
    rw [List.map_cons, keptRowsFrom_kept hd.kept, hd.rowOf_eq, ih hmore, List.mapIdx_cons]
    simp [canonicalRow, Nat.add_right_comm, Nat.add_assoc]

theorem filterMap_definition_canonical (registry : Registry) (number : ℕ → ℕ)
    (definitions : List Definition) :
    (definitions.mapIdx fun i d => canonicalRow registry (number i) d).filterMap Row.definition =
      definitions := by
  induction definitions generalizing number with
  | nil => rfl
  | cons d more ih =>
    have hd : (canonicalRow registry (number 0) d).definition = some d := rfl
    rw [List.mapIdx_cons, List.filterMap_cons_some hd, ih fun i => number (i + 1)]

theorem isCanonical_of_mem_keptRows (hr : config.registry.IsSeparated)
    (hmark : config.commentMark = none ∨ config.commentMark = some Config.commentSign)
    {lines : List Text} (hd : d ∈ (keptRows config lines).filterMap Row.definition) :
    IsCanonical config d (d.toText config.registry) := by
  obtain ⟨row, hrow, hdefinition⟩ := List.mem_filterMap.mp hd
  obtain ⟨n, raw, -, rfl⟩ := exists_of_mem_keptRowsFrom hrow
  exact isCanonical_toText hr hmark hdefinition

/-- Canonical texts are a fixed point: whatever the lines are from which the definitions were read,
reading the texts that are written of them gives one row for each, under its own number, with the
text as it stands and the same definition. So the texts that are written of these rows are the same
once more. -/
theorem parseLines_canonicalTexts :
    Registry.standard.IsSeparated ∧ ∀ config : Config, config.registry.IsSeparated →
      config.commentMark = none ∨ config.commentMark = some Config.commentSign →
      ∀ (lines : List Text) (site : Site), ∃ rows again,
        parseLines config none lines site = (.ok rows, ⟨none, site⟩) ∧
        parseLines config none (canonicalTexts config.registry rows) site = (.ok again, ⟨none, site⟩) ∧
        again = (rows.filterMap Row.definition).mapIdx (fun i d =>
          ⟨i + 1, d.toText config.registry, some d⟩) ∧
        (∀ text ∈ canonicalTexts config.registry rows,
          ¬ IsSkipped config text ∧ chomp text = text) ∧
        canonicalTexts config.registry again = canonicalTexts config.registry rows := by
  refine ⟨Registry.isSeparated_standard, fun config hr hmark lines site => ?_⟩
  have hcanonical : ∀ d ∈ (keptRows config lines).filterMap Row.definition,
      IsCanonical config d (d.toText config.registry) :=
    fun d => isCanonical_of_mem_keptRows hr hmark
  have hagain : keptRows config (canonicalTexts config.registry (keptRows config lines)) =
      ((keptRows config lines).filterMap Row.definition).mapIdx fun i d =>
        canonicalRow config.registry (i + 1) d := keptRowsFrom_canonical hcanonical 1
  refine ⟨keptRows config lines, _, parseLines_none config lines site,
    parseLines_none config _ site, hagain, ?_, ?_⟩
  · rw [canonicalTexts, List.forall_mem_map]
    exact fun d hd => ⟨(hcanonical d hd).kept, (hcanonical d hd).chomped⟩
  · rw [hagain, canonicalTexts, filterMap_definition_canonical config.registry (· + 1)]
    rfl

/-- A URN whose last parameter has a line break and ends in a blank, an HTTP form with blanks and
another extension, and a line that is neither. -/
def spelledLines : List Text :=
  ["urn:x-ogc:DEF: crs :EPSG::4326:a\nb \r\n", "# c", "HTTP://www.opengis.net/gml/srs/A.v1# 1 \n",
    "no"]

theorem parseLines_canonicalTexts_of_spelled_lines :
    Registry.standard.IsSeparated ∧ Config.standard.commentMark = some Config.commentSign ∧
    ∃ rows again,
      parseLines .standard none spelledLines freshLog.2 = (.ok rows, ⟨none, freshLog.2⟩) ∧
      canonicalTexts .standard rows =
        ["urn:ogc:def:crs:EPSG::4326:a\nb ", "http://www.opengis.net/gml/srs/A.xml#1"] ∧
      parseLines .standard none (canonicalTexts .standard rows) freshLog.2 =
        (.ok again, ⟨none, freshLog.2⟩) ∧
      canonicalTexts .standard again = canonicalTexts .standard rows := by
  obtain ⟨hseparated, hfixed⟩ := parseLines_canonicalTexts
  obtain ⟨rows, again, hrows, hagain, -, -, htexts⟩ :=
    hfixed .standard hseparated (Or.inr rfl) spelledLines freshLog.2
  have hkept : canonicalTexts .standard (keptRows .standard spelledLines) =
      ["urn:ogc:def:crs:EPSG::4326:a\nb ", "http://www.opengis.net/gml/srs/A.xml#1"] := by
    decide +kernel
  have he := (Prod.mk.inj ((parseLines_none _ _ _).symm.trans hrows)).1
  obtain rfl : keptRows .standard spelledLines = rows := Except.ok.inj he
  exact ⟨hseparated, rfl, _, _, hrows, hkept, hagain, htexts⟩

end GeoUrn.Batch
