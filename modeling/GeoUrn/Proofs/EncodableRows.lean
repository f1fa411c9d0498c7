import GeoUrn.Proofs.RowRecords
import GeoUrn.Proofs.Utf8RoundTrip
import GeoUrn.Proofs.JsonTexts

/-!
Texts without surrogates from end to end. Bytes that are UTF-8 are read as such a text, and so are
its lines, the definitions that these lines say, and the rows that hold them.
-/
namespace GeoUrn

namespace Text

variable {text : Text}

theorem encodable_of_decodeFrom (bytes : Bytes) :
    ∀ {position : ℕ} {pending : Option Utf8Pending} {text : Text} {left : Bytes},
      decodeFrom position pending bytes = .ok (text, left) → Encodable text := by
  induction bytes with
  | nil =>
    intro position pending text left h
    cases pending <;> cases h <;> exact encodable_nil
  | cons b rest ih =>
    have hmap : ∀ {position : ℕ} {c : Char} {text : Text} {left : Bytes},
        ((decodeFrom position none rest).map fun r => (CodePoint.char c :: r.1, r.2)) =
          .ok (text, left) → Encodable text := by
      intro position c text left h
      cases hr : decodeFrom position none rest with
      | error flaw =>
        rw [hr] at h
        cases h
      | ok read =>
        rw [hr] at h
        cases h
        exact encodable_cons.mpr ⟨rfl, ih hr⟩
    intro position pending text left h
    cases pending with
    | none =>
      rw [decodeFrom] at h
      split at h
      · cases h
      · split_ifs at h
        · exact hmap h
        · exact ih h
    | some p =>
      rw [decodeFrom] at h
      simp only at h
      split_ifs at h
      · exact hmap h
      · exact ih h

theorem encodable_of_decodeUtf8 {bytes : Bytes} (h : decodeUtf8 bytes = .ok text) :
    Encodable text := by
  unfold decodeUtf8 at h
  split at h
  · cases h
  · next hread =>
    cases h
    exact encodable_of_decodeFrom bytes hread
  · cases h

theorem encodable_unifyLineEnds (h : Encodable text) : Encodable (unifyLineEnds text) := by
  induction text using unifyLineEnds.induct with
  | case1 => exact encodable_nil
  | case2 rest ih =>
    rw [unifyLineEnds]
    exact encodable_cons.mpr ⟨rfl, ih (encodable_cons.mp (encodable_cons.mp h).2).2⟩
  | case3 c rest hne ih =>
    obtain ⟨hc, hrest⟩ := encodable_cons.mp h
    rw [unifyLineEnds]
    · refine encodable_cons.mpr ⟨?_, ih hrest⟩
      split_ifs
      · rfl
      · exact hc
    · exact hne

theorem encodable_piecesAt {isEnd : CodePoint → Bool} (h : Encodable text) :
    ∀ piece ∈ piecesAt isEnd text, Encodable piece := by
  induction text with
  | nil => exact List.forall_mem_nil _
  | cons c rest ih =>
    obtain ⟨hc, hrest⟩ := encodable_cons.mp h
    have hpieces := ih hrest
    rw [piecesAt]
    split_ifs
    · exact List.forall_mem_cons.mpr ⟨encodable_nil, hpieces⟩
    · cases hp : piecesAt isEnd rest with
      | nil => simpa using hc
      | cons piece more =>
        rw [hp, List.forall_mem_cons] at hpieces
        exact List.forall_mem_cons.mpr ⟨encodable_cons.mpr ⟨hc, hpieces.1⟩, hpieces.2⟩

theorem encodable_dropEnd (h : Encodable text) (p : CodePoint → Bool) :
    Encodable (text.reverse.dropWhile p).reverse :=
  h.mono fun _ hc =>
    List.mem_reverse.mp ((List.dropWhile_sublist _).subset (List.mem_reverse.mp hc))

theorem encodable_chomp (h : Encodable text) : Encodable (chomp text) := encodable_dropEnd h _

theorem encodable_trim (h : Encodable text) : Encodable (trim text) :=
  h.mono fun _ => mem_of_mem_trim

theorem encodable_join {sep : Text} {pieces : List Text} (hsep : Encodable sep) :
    Encodable (join sep pieces) ↔ ∀ piece ∈ pieces, Encodable piece := by
  induction pieces with
  | nil => simp [join]
  | cons piece more ih =>
    cases more with
    | nil => simp [join]
    | cons next more => simp [join, hsep, ih] at ih ⊢

theorem encodable_split {sep : CodePoint} (hsep : sep.isSurrogate = false) (h : Encodable text) :
    ∀ piece ∈ split sep text, Encodable piece := by
  rw [← join_split sep text, encodable_join (encodable_cons.mpr ⟨hsep, encodable_nil⟩)] at h
  exact h

end Text

open Text (Encodable)

namespace Reading

theorem encodable_decodeBlock {bytes left : Bytes} {text : Text}
    (h : decodeBlock bytes = .ok (text, left)) : Encodable text := by
  unfold decodeBlock at h
  cases hd : Text.decodeFrom 0 none bytes with
  | ok read =>
    rw [hd] at h
    cases h
    exact Text.encodable_of_decodeFrom bytes hd
  | error flaw =>
    rw [hd] at h
    simp only at h
    split_ifs at h
    cases ht : Text.decodeFrom 0 none (bytes.take flaw.position) with
    | error flaw =>
      rw [ht] at h
      cases h
    | ok read =>
      rw [ht] at h
      cases h
      exact Text.encodable_of_decodeFrom _ ht

theorem encodable_ofBlocks (waiting : Bytes) (blocks : List Bytes) :
    Encodable (ofBlocks waiting blocks).text := by
  induction blocks generalizing waiting with
  | nil =>
    rw [ofBlocks]
    split
    · exact Text.encodable_nil
    · next hd => exact Text.encodable_of_decodeUtf8 hd
  | cons block rest ih =>
    rw [ofBlocks]
    split
    · exact Text.encodable_nil
    · next hd => exact Text.encodable_append.mpr ⟨encodable_decodeBlock hd, ih _⟩

theorem encodable_ofBytes (bytes : Bytes) : Encodable (ofBytes bytes).text := by
  unfold ofBytes
  split_ifs
  · exact Text.encodable_nil
  · split
    · exact Text.encodable_nil
    · exact encodable_ofBlocks _ _

/-- Bytes are read as lines without surrogates. -/
theorem encodable_lines (bytes : Bytes) : ∀ line ∈ (ofBytes bytes).lines, Encodable line := by
  have htext := encodable_ofBytes bytes
  unfold lines
  split
  · exact Text.encodable_piecesAt (Text.encodable_unifyLineEnds htext)
  · have hwhole : Encodable (withoutOpenReturn (ofBytes bytes).text) := by
      unfold withoutOpenReturn
      split_ifs
      · exact htext.mono fun _ => List.mem_of_mem_dropLast
      · exact htext
    exact Text.encodable_piecesAt (Text.encodable_dropEnd (Text.encodable_unifyLineEnds hwhole) _)

end Reading

namespace Definition

structure IsEncodable (d : Definition) : Prop where
  objectType : ∀ text ∈ d.objectType, Encodable text
  authority : ∀ text ∈ d.authority, Encodable text
  version : ∀ text ∈ d.version, Encodable text
  code : ∀ text ∈ d.code, Encodable text
  parameters : ∀ text ∈ d.parameters, Encodable text

instance (d : Definition) : Decidable d.IsEncodable :=
  decidable_of_iff ((∀ text ∈ d.objectType, Encodable text) ∧
      (∀ text ∈ d.authority, Encodable text) ∧ (∀ text ∈ d.version, Encodable text) ∧
      (∀ text ∈ d.code, Encodable text) ∧ ∀ text ∈ d.parameters, Encodable text)
    ⟨fun ⟨ht, ha, hv, hc, hp⟩ => ⟨ht, ha, hv, hc, hp⟩, fun ⟨ht, ha, hv, hc, hp⟩ =>
      ⟨ht, ha, hv, hc, hp⟩⟩

theorem encodable_getD {o : Option Text} (h : ∀ text ∈ o, Encodable text) :
    Encodable (o.getD []) := by
  cases o with
  | none => exact Text.encodable_nil
  | some text => exact h text rfl

theorem IsEncodable.toUrn {d : Definition} (h : d.IsEncodable) : Encodable d.toUrn := by
  have hlead : Encodable Component.urnLead := by decide
  rw [Definition.toUrn, Text.encodable_join (by decide)]
  simp only [List.cons_append, List.forall_mem_cons, List.map_cons, List.map_nil, List.nil_append]
  exact ⟨hlead, encodable_getD h.objectType, encodable_getD h.authority, encodable_getD h.version,
    encodable_getD h.code, h.parameters⟩

/-- The JSON object of a definition has surrogates exactly if a component has some. -/
theorem encodable_toJson {d : Definition} : d.toJson.Encodable ↔ d.IsEncodable := by
  have hparameters : (parametersJson d.parameters).Encodable ↔
      ∀ text ∈ d.parameters, Encodable text := by
    unfold parametersJson
    split_ifs with hp
    · simp [List.isEmpty_iff.mp hp]
    · exact Json.Value.encodable_texts
  simp only [toJson, Json.Value.encodable_object_cons, Json.Value.encodable_ofOption,
    Json.Value.encodable_text, hparameters]
  constructor
  · rintro ⟨-, -, -, ht, -, ha, -, hv, -, hc, -, hp, -⟩
    exact ⟨ht, ha, hv, hc, hp⟩
  · intro h
    simpa [h.toUrn] using ⟨h.objectType, h.authority, h.version, h.code, h.parameters⟩

theorem encodable_of_mem_orNone {text component : Text} (h : Encodable text) :
    component ∈ orNone text → Encodable component := by
  unfold orNone
  split_ifs <;> rintro ⟨⟩
  exact h

/-- The pieces of a text without surrogates say a definition without surrogates. -/
theorem isEncodable_ofPieces {pieces : List Text} (h : ∀ piece ∈ pieces, Encodable piece) :
    (ofPieces pieces).IsEncodable := by
  have hpiece : ∀ i, Encodable (piece pieces i) := by
    intro i
    refine Text.encodable_trim ?_
    rw [List.getD_eq_getElem?_getD]
    cases hi : pieces[i]? with
    | none => exact Text.encodable_nil
    | some text => exact h text (List.mem_of_getElem? hi)
  refine ⟨fun _ => encodable_of_mem_orNone (hpiece 3), fun _ => encodable_of_mem_orNone (hpiece 4),
    fun _ => encodable_of_mem_orNone (hpiece 5), ?_, ?_⟩
  · rintro _ ⟨⟩
    exact hpiece 6
  · intro text ht
    simp only [ofPieces, parametersIn] at ht
    split_ifs at ht
    · cases ht
    · exact h text (List.mem_of_mem_drop ht)

/-- Under a registry whose types have no surrogates a text without surrogates says a definition
without surrogates. -/
theorem isEncodable_of_read {registry : Registry} {text : Text} {d : Definition}
    (hr : ∀ type ∈ registry.types, Encodable type) (ht : Encodable text)
    (h : read registry text = .ok (some d)) : d.IsEncodable := by
  cases hd : d.isHttp with
  | false =>
    obtain ⟨-, rfl⟩ := read_urn_iff.mp ⟨h, hd⟩
    exact isEncodable_ofPieces (Text.encodable_split rfl ht)
  | true =>
    obtain ⟨-, form, rfl, hform⟩ := read_http_iff.mp ⟨h, hd⟩
    rw [HttpForm.recognize?_eq] at hform
    obtain ⟨entry, he, hentry⟩ := List.exists_of_findSome?_eq_some (Except.ok.inj hform)
    obtain ⟨-, parts, htail, -, rfl⟩ := HttpForm.readTyped?_eq_some_iff.mp hentry
    have hparts : Encodable parts.text := htail ▸ ht.mono fun _ => List.mem_of_mem_drop
    simp only [HttpForm.Parts.text, Text.encodable_append, Text.encodable_cons] at hparts
    obtain ⟨-, ha, -, -, hrest⟩ := hparts
    refine ⟨?_, ?_, ?_, ?_, List.forall_mem_nil _⟩
    · rintro _ ⟨⟩
      exact hr _ (List.mem_map_of_mem he)
    · rintro _ ⟨⟩
      exact ha
    · rintro _ ⟨⟩
    · rintro _ ⟨⟩
      exact Text.encodable_trim hrest

end Definition

namespace Batch

/-- Neither the text of the row nor its definition has surrogates. -/
structure Row.IsEncodable (row : Row) : Prop where
  input : Encodable row.input
  definition : ∀ d ∈ row.definition, d.IsEncodable

instance (row : Row) : Decidable row.IsEncodable :=
  decidable_of_iff (Encodable row.input ∧ ∀ d ∈ row.definition, d.IsEncodable)
    ⟨fun ⟨hi, hd⟩ => ⟨hi, hd⟩, fun ⟨hi, hd⟩ => ⟨hi, hd⟩⟩

theorem Row.encodable_toJson {row : Row} : row.toJson.Encodable ↔ row.IsEncodable := by
  simp only [toJson, Json.Value.encodable_object_cons, Json.Value.encodable_ofOption,
    Json.Value.encodable_text, Definition.encodable_toJson]
  constructor
  · rintro ⟨-, -, -, hi, -, -, -, hd, -⟩
    exact ⟨hi, hd⟩
  · intro h
    simpa [h.input] using h.definition

theorem isEncodable_rowOf {config : Config} {raw : Text}
    (hr : ∀ type ∈ config.registry.types, Encodable type) (hraw : Encodable raw) (number : ℕ) :
    (rowOf config number raw).IsEncodable where
  input := Text.encodable_chomp hraw
  definition _ hd := Definition.isEncodable_of_read hr (Text.encodable_chomp hraw)
    (Definition.parse?_eq_some_iff.mp hd)

/-- The rows of lines without surrogates have none. -/
theorem isEncodable_of_mem_keptRows {config : Config} {lines : List Text}
    (hr : ∀ type ∈ config.registry.types, Encodable type) (hl : ∀ line ∈ lines, Encodable line) :
    ∀ row ∈ keptRows config lines, row.IsEncodable := by
  intro row hrow
  obtain ⟨⟨raw, n⟩, hline, rfl⟩ := List.mem_map.mp hrow
  exact isEncodable_rowOf hr (hl raw (List.fst_mem_of_mem_zipIdx (List.mem_filter.mp hline).1)) n

end Batch

end GeoUrn
