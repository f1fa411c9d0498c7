import GeoUrn.Proofs.JsonSchema
import GeoUrn.Proofs.RowFiles
import GeoUrn.Proofs.RowRecords

/-!
Rows and the published schemas. The schema of definitions rejects some definitions that can be
built by hand; none of these is ever read, so all rows that a batch produces satisfy the schemas,
and beyond them the whole data model.
-/
namespace GeoUrn

open Json (Schema Value)

namespace Definition

def optionalSchema : Schema := .all [.type [.string, .null], .minLength 1]

def codeSchema : Schema := .all [.type [.string], .minLength 1]

def parametersSchema : Schema :=
  .all [.type [.array, .null], .items (.type [.string]), .minItems 1]

def urnSchema : Schema := .all [.type [.string], .lead "urn:ogc:def:"]

def schema : Schema :=
  .record [
    ("is_http", .type [.boolean]),
    ("type", optionalSchema),
    ("authority", optionalSchema),
    ("version", optionalSchema),
    ("code", codeSchema),
    ("parameters", parametersSchema),
    ("urn", urnSchema)]

end Definition

namespace Batch

def lineSchema : Schema := .all [.type [.integer], .minimum 1]

def definitionSchema : Schema :=
  .oneOf [.type [.null], .all [.type [.object], .required ["code", "urn"]]]

def Row.schema : Schema :=
  .record [
    ("line", lineSchema),
    ("input", .type [.string]),
    ("recognized", .type [.boolean]),
    ("definition", definitionSchema)]

end Batch

namespace Definition
open Json.Schema

theorem accepts_optionalSchema_iff (o : Option Text) :
    optionalSchema.accepts (.ofOption .text o) ↔ o ≠ some [] := by
  rw [optionalSchema, accepts_both_iff]
  cases o with
  | none => simp [Value.ofOption, accepts, Json.Kind.includes]
  | some text => simp [Value.ofOption, accepts, Json.Kind.includes, Nat.one_le_iff_ne_zero]

theorem accepts_codeSchema_iff (o : Option Text) :
    codeSchema.accepts (.ofOption .text o) ↔ ∃ code, o = some code ∧ code ≠ [] := by
  rw [codeSchema, accepts_both_iff]
  cases o with
  | none => simp [Value.ofOption, accepts, Json.Kind.includes]
  | some text => simp [Value.ofOption, accepts, Json.Kind.includes, Nat.one_le_iff_ne_zero]

theorem accepts_parametersSchema (parameters : List Text) :
    parametersSchema.accepts (parametersJson parameters) := by
  rw [parametersSchema, accepts_all_iff]
  cases parameters with
  | nil => simp [parametersJson, accepts, Json.Kind.includes]
  | cons text more => simp [parametersJson, Value.texts, accepts, Json.Kind.includes]

theorem lead_toUrn (d : Definition) : ("urn:ogc:def:" : Text) <+: d.toUrn :=
  ⟨Text.join [Component.separator] (urnPieces d).tail.tail.tail, rfl⟩

theorem accepts_urnSchema (d : Definition) : urnSchema.accepts (.text d.toUrn) := by
  have hlead : ("urn:ogc:def:" : Text).isPrefixOf d.toUrn :=
    List.isPrefixOf_iff_prefix.mpr d.lead_toUrn
  rw [urnSchema, accepts_both_iff]
  exact ⟨by simp [accepts, Json.Kind.includes], by rw [accepts, hlead]⟩

/-- A definition is accepted if no component is empty instead of missing, and the code is not
missing. -/
theorem accepts_toJson_iff (d : Definition) : schema.accepts d.toJson ↔
    d.objectType ≠ some [] ∧ d.authority ≠ some [] ∧ d.version ≠ some [] ∧
      ∃ code, d.code = some code ∧ code ≠ [] := by
  obtain ⟨hhttp, htype, hauthority, hversion, hcode, hparameters, hurn⟩ := d.member?_toJson
  have hbool : (type [.boolean]).accepts (.bool d.isHttp) := by
    simp [accepts, Json.Kind.includes]
  unfold toJson at *
  rw [schema, accepts_record_iff]
  simp only [List.forall_mem_cons, hhttp, htype, hauthority, hversion, hcode, hparameters, hurn,
    Option.some.injEq, exists_eq_left', accepts_optionalSchema_iff, accepts_codeSchema_iff,
    accepts_parametersSchema, accepts_urnSchema, hbool]
  simp

/-- A code must be there, also in a definition that was built by hand. -/
example : schema.accepts (toJson ⟨false, some ['c', 'r', 's'], none, none, none, []⟩) = false := by
  decide +kernel

end Definition

namespace Batch
open Json.Schema

theorem accepts_lineSchema_iff (n : ℤ) : lineSchema.accepts (.ofInt n) ↔ 1 ≤ n := by
  rw [lineSchema, accepts_both_iff]
  simp [Value.ofInt, accepts, Json.Kind.includes, Json.Number.isWhole, Json.Number.isAtLeast]

theorem accepts_definitionSchema (o : Option Definition) :
    definitionSchema.accepts (.ofOption Definition.toJson o) := by
  rw [definitionSchema, accepts_oneOf_pair_iff, accepts_both_iff]
  cases o with
  | none => simp [Value.ofOption, accepts, Json.Kind.includes]
  | some d =>
    have hnull : (type [.null]).accepts d.toJson = false := rfl
    have hobject : (type [.object]).accepts d.toJson := rfl
    have hrequired : (required ["code", "urn"]).accepts d.toJson := rfl
    simp only [Value.ofOption, hnull, hobject, hrequired]
    simp

/-- A row is accepted if its number is. -/
theorem Row.accepts_toJson_iff (row : Row) : schema.accepts row.toJson ↔ 1 ≤ row.line := by
  obtain ⟨hline, hinput, hrecognized, hdefinition⟩ := row.member?_toJson
  have htext : (type [.string]).accepts (.text row.input) := by simp [accepts, Json.Kind.includes]
  have hbool : (type [.boolean]).accepts (.bool row.recognized) := by
    simp [accepts, Json.Kind.includes]
  unfold toJson at *
  rw [schema, accepts_record_iff]
  simp only [List.forall_mem_cons, hline, hinput, hrecognized, hdefinition, Option.some.injEq,
    exists_eq_left', accepts_lineSchema_iff, accepts_definitionSchema, htext, hbool]
  simp

end Batch

namespace Definition
open Text

/-- What else the data model says of the JSON object of a definition that a URN says. -/
structure FitsUrn (v : Value) : Prop where
  components : ∀ name ∈ (["type", "authority", "version"] : List Text),
    ∃ u, v.member? name = some u ∧ (u = .null ∨ ∃ text, u = .text text ∧ IsComponent text)
  code : ∃ code, v.member? "code" = some (.text code) ∧ Component.separator ∉ code

/-- What else it says of the JSON object of a definition that an HTTP form says. -/
structure FitsHttp (registry : Registry) (v : Value) : Prop where
  objectType : ∃ type ∈ registry.types, v.member? "type" = some (.text type)
  authority : ∃ authority, v.member? "authority" = some (.text authority) ∧ authority ≠ [] ∧
    ∀ c ∈ authority, isIdentifierPart c
  version : v.member? "version" = some .null
  parameters : v.member? "parameters" = some .null

structure Fits (registry : Registry) (v : Value) : Prop where
  accepted : schema.accepts v
  code : ∃ code, v.member? "code" = some (.text code) ∧ code ≠ [] ∧ IsTrimmed code
  parameters : v.member? "parameters" = some .null ∨
    ∃ texts, v.member? "parameters" = some (.texts texts) ∧ texts ≠ []
  urn : ∃ urn, v.member? "urn" = some (.text urn) ∧ ("urn:ogc:def:" : Text) <+: urn
  form : (v.member? "is_http" = some (.bool false) ∧ FitsUrn v) ∨
    (v.member? "is_http" = some (.bool true) ∧ FitsHttp registry v)

variable {registry : Registry} {d : Definition}

theorem null_or_isComponent {o : Option Text} (h : ∀ text ∈ o, IsComponent text) :
    Value.ofOption .text o = .null ∨
      ∃ text, Value.ofOption .text o = .text text ∧ IsComponent text := by
  cases o with
  | none => exact Or.inl rfl
  | some text => exact Or.inr ⟨text, rfl, h text rfl⟩

theorem IsUrnRecord.fitsUrn (h : IsUrnRecord d) : FitsUrn d.toJson := by
  obtain ⟨-, htype, hauthority, hversion, hmember, -⟩ := d.member?_toJson
  obtain ⟨code, hcode, hc⟩ := h.code
  refine ⟨?_, code, by rw [hmember, hcode, Value.ofOption], hc.no_separator⟩
  simp only [List.forall_mem_cons]
  exact ⟨⟨_, htype, null_or_isComponent h.objectType⟩,
    ⟨_, hauthority, null_or_isComponent h.authority⟩,
    ⟨_, hversion, null_or_isComponent h.version⟩, List.forall_mem_nil _⟩

theorem IsHttpRecord.fitsHttp (h : IsHttpRecord registry d) : FitsHttp registry d.toJson := by
  obtain ⟨-, htype, hauthority, hversion, -, hparameters, -⟩ := d.member?_toJson
  obtain ⟨type, hregistered, he⟩ := h.objectType
  obtain ⟨authority, ha, hne, hidentifier⟩ := h.authority
  refine ⟨⟨type, hregistered, ?_⟩, ⟨authority, ?_, hne, hidentifier⟩, ?_, ?_⟩
  · rw [htype, he, Value.ofOption]
  · rw [hauthority, ha, Value.ofOption]
  · rw [hversion, h.version, Value.ofOption]
  · rw [hparameters, h.parameters]
    rfl

theorem IsRecord.accepts_toJson (h : IsRecord registry d) : schema.accepts d.toJson := by
  obtain ⟨code, hcode, hne, -⟩ := h.exists_code
  have hfilled {o : Option Text} (ho : ∀ text ∈ o, IsComponent text) : o ≠ some [] :=
    fun he => (ho [] he).ne_nil rfl
  rw [accepts_toJson_iff]
  rcases h with h | h
  · exact ⟨hfilled h.objectType, hfilled h.authority, hfilled h.version, code, hcode, hne⟩
  · obtain ⟨type, hm, htype⟩ := h.objectType
    obtain ⟨authority, hauthority, hne', -⟩ := h.authority
    obtain ⟨path, hp⟩ := Registry.mem_types_iff.mp hm
    have ht : type ≠ [] := (registry.complete _ hp).1
    refine ⟨?_, ?_, ?_, code, hcode, hne⟩
    · simpa [htype] using ht
    · simpa [hauthority] using hne'
    · simp [h.version]

theorem IsRecord.fits (h : IsRecord registry d) : Fits registry d.toJson := by
  obtain ⟨hhttp, -, -, -, hcode, hparameters, hurn⟩ := d.member?_toJson
  obtain ⟨code, he, hne, htrimmed⟩ := h.exists_code
  refine ⟨h.accepts_toJson, ⟨code, ?_, hne, htrimmed⟩, ?_, ⟨_, hurn, d.lead_toUrn⟩, ?_⟩
  · rw [hcode, he, Value.ofOption]
  · rw [hparameters]
    cases d.parameters with
    | nil => exact Or.inl rfl
    | cons text more => exact Or.inr ⟨text :: more, rfl, List.cons_ne_nil _ _⟩
  · rw [hhttp]
    rcases h with h | h
    · exact Or.inl ⟨by rw [h.isHttp], h.fitsUrn⟩
    · exact Or.inr ⟨by rw [h.isHttp], h.fitsHttp⟩

end Definition

namespace Batch
open Audit (Logger)
open Text

/-- What the data model says of the JSON object of the row with this number. -/
structure Row.Fits (registry : Registry) (number : ℤ) (v : Value) : Prop where
  accepted : Row.schema.accepts v
  line : v.member? "line" = some (.ofInt number) ∧ 1 ≤ number
  input : ∃ input, v.member? "input" = some (.text input) ∧ IsChomped input
  definition : ∃ recognized definition, v.member? "recognized" = some (.bool recognized) ∧
    v.member? "definition" = some definition ∧ (recognized = true ↔ definition ≠ .null) ∧
      (definition ≠ .null → Definition.Fits registry definition)

theorem fits_rowOf (config : Config) {n : ℕ} (hn : 1 ≤ n) (raw : Text) :
    Row.Fits config.registry n (rowOf config n raw).toJson where
  accepted := by
    rw [Row.accepts_toJson_iff]
    simpa [rowOf] using hn
  line := ⟨rfl, by omega⟩
  input := ⟨chomp raw, rfl, isChomped_chomp raw⟩
  definition := by
    refine ⟨_, _, rfl, rfl, ?_, ?_⟩
    · cases hd : (rowOf config n raw).definition with
      | none => simp [Row.recognized, hd, Value.ofOption]
      | some d => simp [Row.recognized, hd, Value.ofOption, d.toJson_ne_null]
    · cases hd : (rowOf config n raw).definition with
      | none => exact fun h => absurd rfl h
      | some d => exact fun _ => (Definition.isRecord_of_parse? hd).fits

theorem fits_of_mem_keptRows {config : Config} {lines : List Text} {row : Row}
    (h : row ∈ keptRows config lines) : Row.Fits config.registry row.line row.toJson := by
  obtain ⟨n, raw, hn, rfl⟩ := exists_of_mem_keptRowsFrom h
  exact fits_rowOf config hn raw

/-- Every row that is produced, one for each line that is not skipped, satisfies both published
schemas and the data model, whatever the lines and the configuration are; the numbers go up from row
to row. No definition without a code is ever read. -/
theorem parseLines_fits_data_model (config : Config) (lines : List Text) (site : Site) :
    parseLines config none lines site = (.ok (keptRows config lines), ⟨none, site⟩) ∧
    (∀ (logger : Option Logger) (rows : List Row),
      (parseLines config logger lines site).1 = .ok rows →
        (rows.Pairwise fun row later => row.line < later.line) ∧
          ∀ row ∈ rows, Row.Fits config.registry row.line row.toJson) ∧
    ∀ registry text d, Definition.read registry text = .ok (some d) → d.code ≠ none := by
  refine ⟨parseLines_none config lines site, fun logger rows h => ?_, ?_⟩
  · rw [rows_eq_keptRows h]
    exact ⟨pairwise_line_keptRowsFrom config 1 lines, fun row => fits_of_mem_keptRows⟩
  · intro registry text d h
    obtain ⟨code, hcode, -⟩ := (Definition.isRecord_of_read h).exists_code
    simp [hcode]

/-- A URN with blanks and parameters, a comment, an HTTP form, and a line that is neither. -/
def bothForms : List Text :=
  [" urn : OGC :def::EPSG: 8.2 : 4326 : a :\r\n", "# c\n", "HTTP://www.opengis.net/gml/srs/a#1 ",
    "no"]

def rowsOfBothForms : List Row :=
  [⟨1, " urn : OGC :def::EPSG: 8.2 : 4326 : a :",
      some ⟨false, none, some "EPSG", some "8.2", some "4326", [[' ', 'a', ' '], []]⟩⟩,
   ⟨3, "HTTP://www.opengis.net/gml/srs/a#1 ",
      some ⟨true, some "crs", some "a", none, some "1", []⟩⟩,
   ⟨4, "no", none⟩]

theorem parseLines_fits_data_model_of_both_forms :
    (parseLines .standard none bothForms freshLog.2).1 = .ok rowsOfBothForms ∧
    (rowsOfBothForms.Pairwise fun row later => row.line < later.line) ∧
    (∀ row ∈ rowsOfBothForms, Row.Fits .standard row.line row.toJson) ∧
    ∃ d, Definition.read .standard (" urn : OGC :def::EPSG: 8.2 : 4326 : a :" : String) =
        .ok (some d) ∧ d.code ≠ none := by
  have hrows : keptRows .standard bothForms = rowsOfBothForms := by decide +kernel
  have hparse : (parseLines .standard none bothForms freshLog.2).1 = .ok rowsOfBothForms := by
    rw [parseLines_none, hrows]
  have hread : Definition.read .standard
      (" urn : OGC :def::EPSG: 8.2 : 4326 : a :" : String) = .ok (some
        ⟨false, none, some "EPSG", some "8.2", some "4326", [[' ', 'a', ' '], []]⟩) := by
    decide +kernel
  obtain ⟨-, hfits, hcode⟩ := parseLines_fits_data_model .standard bothForms freshLog.2
  obtain ⟨hline, hmodel⟩ := hfits none rowsOfBothForms hparse
  exact ⟨hparse, hline, hmodel, _, hread, hcode _ _ _ hread⟩

end Batch

end GeoUrn
