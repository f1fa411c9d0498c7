import GeoUrn.Proofs.EncodableRows
import GeoUrn.Proofs.FileTrees
import GeoUrn.Proofs.JsonLines

/-!
Files of rows. Rows without surrogates can be read back from the file in which they were written:
each stands on a line of its own, and nothing of it is lost. Surrogates end the writing.
-/
namespace GeoUrn

open CodePoint (char)

namespace Json.Value

def bool? : Value → Option Bool
  | .bool b => some b
  | _ => none

def int? : Value → Option ℤ
  | .number (.whole n) => some n
  | _ => none

def text? : Value → Option Text
  | .text t => some t
  | _ => none

def option? {α : Type} (read : Value → Option α) : Value → Option (Option α)
  | .null => some none
  | v => (read v).map some

def texts? : Value → Option (List Text)
  | .array elements => elements.mapM text?
  | _ => none

theorem int?_ofInt (n : ℤ) : (ofInt n).int? = some n := rfl

theorem option?_ofOption {α : Type} {toValue : α → Value} {read : Value → Option α}
    (hread : ∀ a, read (toValue a) = some a) (hnull : ∀ a, toValue a ≠ .null) :
    ∀ a, (ofOption toValue a).option? read = some a
  | none => rfl
  | some a => by
    have ha := hread a
    have hn := hnull a
    rw [ofOption]
    generalize toValue a = v at ha hn
    cases v with
    | null => exact absurd rfl hn
    | _ => rw [option?, ha, Option.map_some]; simp

theorem option?_text : ∀ t : Option Text, (ofOption .text t).option? text? = some t :=
  option?_ofOption (fun _ => rfl) fun t => by simp

theorem texts?_texts (ts : List Text) : (texts ts).texts? = some ts := by
  rw [texts, texts?]
  induction ts with
  | nil => rfl
  | cons t ts ih => simp [List.mapM_cons, text?, ih]

end Json.Value

open Json (Value)

namespace Definition

theorem isProper_toJson (d : Definition) : d.toJson.IsProper := by
  have hparameters : (parametersJson d.parameters).IsProper := by
    unfold parametersJson
    split_ifs
    · exact .null
    · exact Value.isProper_texts _
  refine .object _ ?_
  simp only [List.forall_mem_cons]
  exact ⟨.bool _, Value.isProper_ofOption .text _, Value.isProper_ofOption .text _,
    Value.isProper_ofOption .text _, Value.isProper_ofOption .text _, hparameters, .text _,
    List.forall_mem_nil _⟩

/-- The members of the JSON object of a definition. -/
theorem member?_toJson (d : Definition) :
    d.toJson.member? "is_http" = some (.bool d.isHttp) ∧
    d.toJson.member? "type" = some (.ofOption .text d.objectType) ∧
    d.toJson.member? "authority" = some (.ofOption .text d.authority) ∧
    d.toJson.member? "version" = some (.ofOption .text d.version) ∧
    d.toJson.member? "code" = some (.ofOption .text d.code) ∧
    d.toJson.member? "parameters" = some (parametersJson d.parameters) ∧
    d.toJson.member? "urn" = some (.text d.toUrn) :=
  ⟨rfl, rfl, rfl, rfl, rfl, rfl, rfl⟩

def parameters? : Value → Option (List Text)
  | .null => some []
  | v => v.texts?

theorem parameters?_parametersJson (ps : List Text) : parameters? (parametersJson ps) = some ps := by
  cases ps with
  | nil => rfl
  | cons p ps => exact Value.texts?_texts (p :: ps)

/-- The definition that a JSON object says. Its URN is not needed. -/
def ofJson? (v : Value) : Option Definition := do
  let isHttp ← (v.member? "is_http").bind Value.bool?
  let objectType ← (v.member? "type").bind (Value.option? Value.text?)
  let authority ← (v.member? "authority").bind (Value.option? Value.text?)
  let version ← (v.member? "version").bind (Value.option? Value.text?)
  let code ← (v.member? "code").bind (Value.option? Value.text?)
  let parameters ← (v.member? "parameters").bind parameters?
  return ⟨isHttp, objectType, authority, version, code, parameters⟩

theorem ofJson?_toJson (d : Definition) : ofJson? d.toJson = some d := by
  obtain ⟨hhttp, htype, hauthority, hversion, hcode, hparameters, -⟩ := d.member?_toJson
  simp only [ofJson?, hhttp, htype, hauthority, hversion, hcode, hparameters, Option.bind_some,
    Value.bool?, Value.option?_text, parameters?_parametersJson]
  rfl

theorem toJson_ne_null (d : Definition) : d.toJson ≠ .null := by simp [toJson]

end Definition

namespace Batch

namespace Row

theorem isProper_toJson (row : Row) : row.toJson.IsProper := by
  refine .object _ ?_
  simp only [List.forall_mem_cons]
  exact ⟨Value.isProper_ofInt _, .text _, .bool _,
    Value.isProper_ofOption Definition.isProper_toJson _, List.forall_mem_nil _⟩

/-- The members of the JSON object of a row. -/
theorem member?_toJson (row : Row) :
    row.toJson.member? "line" = some (.ofInt row.line) ∧
    row.toJson.member? "input" = some (.text row.input) ∧
    row.toJson.member? "recognized" = some (.bool row.recognized) ∧
    row.toJson.member? "definition" = some (.ofOption Definition.toJson row.definition) :=
  ⟨rfl, rfl, rfl, rfl⟩

/-- The row that a JSON object says. Whether it is recognized is seen from its definition. -/
def ofJson? (v : Value) : Option Row := do
  let line ← (v.member? "line").bind Value.int?
  let input ← (v.member? "input").bind Value.text?
  let definition ← (v.member? "definition").bind (Value.option? Definition.ofJson?)
  return ⟨line, input, definition⟩

theorem ofJson?_toJson (row : Row) : ofJson? row.toJson = some row := by
  obtain ⟨hline, hinput, -, hdefinition⟩ := row.member?_toJson
  have hback := Value.option?_ofOption Definition.ofJson?_toJson Definition.toJson_ne_null
    row.definition
  simp only [ofJson?, hline, hinput, hdefinition, Option.bind_some, Value.int?_ofInt, Value.text?,
    hback]
  rfl

theorem toJson_injective : Function.Injective toJson := by
  intro row other h
  have hrow := ofJson?_toJson row
  rw [h, ofJson?_toJson] at hrow
  exact (Option.some.inj hrow).symm

end Row

theorem toText_eq_lines (rows : List Row) :
    toText rows = (rows.map Row.toJson).flatMap Value.line := by
  rw [List.flatMap_map]
  rfl

theorem isProper_of_mem_rows (rows : List Row) : ∀ v ∈ rows.map Row.toJson, v.IsProper :=
  List.forall_mem_map.mpr fun row _ => row.isProper_toJson

theorem toText_injective {rows others : List Row} (h : toText rows = toText others) :
    rows = others := by
  rw [toText_eq_lines, toText_eq_lines] at h
  have hjson := Json.eq_of_lines_eq (isProper_of_mem_rows rows) (isProper_of_mem_rows others) h
  exact List.map_injective_iff.mpr Row.toJson_injective hjson

/-- The text has one line for each row, in order, from which the row can be read back, and no other
control character than the ends of these lines. -/
structure SaysRows (text : Text) (rows : List Row) : Prop where
  count : text.count (char '\n') = rows.length
  ended : 0 < rows.length → text.getLast? = some (char '\n')
  plain : ∀ c ∈ text, c ≠ char '\n' → 0x20 ≤ c.toNat
  piece : ∀ i (h : i < rows.length), ∃ piece, (Text.split (char '\n') text)[i]? = some piece ∧
    Json.read piece = .ok rows[i].toJson ∧ Row.ofJson? rows[i].toJson = some rows[i]

theorem saysRows_toText (rows : List Row) : SaysRows (toText rows) rows := by
  have hlines := Json.hasLines (isProper_of_mem_rows rows)
  rw [← toText_eq_lines] at hlines
  refine ⟨?_, ?_, hlines.plain, ?_⟩
  · rw [hlines.count, List.length_map]
  · intro h
    refine hlines.ended ?_
    simpa [List.length_pos_iff] using h
  · intro i hi
    obtain ⟨piece, hpiece, hread⟩ := hlines.piece i (by simpa using hi)
    rw [List.getElem_map] at hread
    exact ⟨piece, hpiece, hread, Row.ofJson?_toJson rows[i]⟩

theorem Row.flatten_pieces (row : Row) : row.pieces.flatten = row.toLine := by
  simp [Row.pieces, Row.toLine, Json.flatten_compactPieces]

theorem flatten_pieces (rows : List Row) : (rows.flatMap Row.pieces).flatten = toText rows := by
  induction rows with
  | nil => rfl
  | cons row rows ih =>
    rw [List.flatMap_cons, List.flatten_append, ih, row.flatten_pieces]
    rfl

theorem encodable_toText {rows : List Row} :
    Text.Encodable (toText rows) ↔ ∀ row ∈ rows, row.IsEncodable := by
  rw [toText, Text.encodable_flatMap]
  refine forall₂_congr fun row _ => ?_
  rw [← Row.encodable_toJson, ← Json.encodable_compact]
  simp [Row.toLine]

theorem writeRows_eq {rows : List Row} (h : ∀ row ∈ rows, row.IsEncodable) (path : Path)
    (files : FileTree) :
    writeRows rows path files =
      match files.writeDeep path (Text.encodeUtf8 (toText rows)) with
      | (.error fault, files) => (.error fault, files)
      | (.ok (), files) => (.ok rows.length, files) := by
  have hpieces := encodable_toText.mpr h
  rw [← flatten_pieces] at hpieces
  have htaken : Text.taken (rows.flatMap Row.pieces) = (toText rows, none) := by
    rw [Text.taken_of_encodable hpieces, flatten_pieces]
  cases hw : files.writeDeep path (Text.encodeUtf8 (toText rows)) with
  | mk result after => cases result <;> simp only [writeRows, htaken, hw]

theorem writeRows_of_accepts {files : FileTree} {path : Path} (h : files.Accepts path)
    {rows : List Row} (hr : ∀ row ∈ rows, row.IsEncodable) :
    ∃ after, writeRows rows path files = (.ok rows.length, after) ∧
      after.read path = .ok (Text.encodeUtf8 (toText rows)) := by
  obtain ⟨place, made, hp⟩ := h
  have hread := FileTree.read_of_writeDeep hp (Text.encodeUtf8 (toText rows))
  refine ⟨_, ?_, hread⟩
  rw [writeRows_eq hr, FileTree.writeDeep_eq, hp]

theorem writeRows_of_not_accepts {files : FileTree} {path : Path} (h : ¬ files.Accepts path)
    {rows : List Row} (hr : ∀ row ∈ rows, row.IsEncodable) :
    ∃ fault made, files.prepare path = (.error fault, made) ∧
      writeRows rows path files = (.error fault, made) := by
  cases hp : files.prepare path with
  | mk result made =>
    cases result with
    | ok place => exact absurd ⟨place, made, hp⟩ h
    | error fault =>
      refine ⟨fault, made, rfl, ?_⟩
      rw [writeRows_eq hr, FileTree.writeDeep_eq, hp]

theorem files_writeRows {rows : List Row} (h : ∀ row ∈ rows, row.IsEncodable) (path : Path)
    (files : FileTree) : (writeRows rows path files).2 =
      (files.writeDeep path (Text.encodeUtf8 (toText rows))).2 := by
  rw [writeRows_eq h]
  rcases files.writeDeep path (Text.encodeUtf8 (toText rows)) with ⟨_ | _, after⟩ <;> rfl

/-- The writing of rows ends before the first piece with surrogates. -/
theorem writeRows_of_surrogates {files : FileTree} {path : Path} (h : files.Accepts path)
    {rows : List Row} (hr : ¬ ∀ row ∈ rows, row.IsEncodable) :
    ∃ flaw after text, writeRows rows path files = (.error (.notEncodable flaw), after) ∧
      after.read path = .ok (Text.encodeUtf8 text) ∧ Text.Encodable text ∧ text <+: toText rows := by
  obtain ⟨place, made, hp⟩ := h
  cases ht : Text.taken (rows.flatMap Row.pieces) with
  | mk text flaw =>
    have hread := FileTree.read_of_writeDeep hp (Text.encodeUtf8 text)
    have hprefix := Text.taken_prefix (rows.flatMap Row.pieces)
    have hencodable := Text.encodable_taken (rows.flatMap Row.pieces)
    rw [ht] at hencodable
    rw [ht, flatten_pieces] at hprefix
    cases flaw with
    | none =>
      have hall := Text.taken_eq_none_iff.mp (congrArg Prod.snd ht)
      rw [← Text.encodable_flatten, flatten_pieces, encodable_toText] at hall
      exact absurd hall hr
    | some flaw =>
      refine ⟨flaw, _, text, ?_, hread, hencodable, hprefix⟩
      rw [writeRows, ht]
      simp only [FileTree.writeDeep_eq, hp]

/-- Nothing is lost when rows without surrogates are written: whatever the file held before, its text
has a line for each row from which this row can be read back, so that other rows make another file.
Rows with surrogates are not written to their end. -/
theorem writeRows_says_rows {files : FileTree} {path : Path} (h : files.Accepts path)
    (rows : List Row) :
    ((∀ row ∈ rows, row.IsEncodable) → ∃ after bytes text,
      writeRows rows path files = (.ok rows.length, after) ∧
      after.read path = .ok bytes ∧ Text.decodeUtf8 bytes = .ok text ∧ SaysRows text rows ∧
      ∀ (others : List Row) (otherFiles : FileTree) (otherPath : Path),
        (∀ row ∈ others, row.IsEncodable) → otherFiles.Accepts otherPath →
        (writeRows others otherPath otherFiles).2.read otherPath = .ok bytes → others = rows) ∧
    ((¬ ∀ row ∈ rows, row.IsEncodable) → ∃ flaw after text,
      writeRows rows path files = (.error (.notEncodable flaw), after) ∧
      after.read path = .ok (Text.encodeUtf8 text) ∧ Text.Encodable text ∧
      text <+: toText rows) := by
  refine ⟨fun hr => ?_, writeRows_of_surrogates h⟩
  obtain ⟨after, hw, hread⟩ := writeRows_of_accepts h hr
  have htext := encodable_toText.mpr hr
  refine ⟨after, _, toText rows, hw, hread, Text.decodeUtf8_encodeUtf8 htext, saysRows_toText rows, ?_⟩
  intro others otherFiles otherPath ho ha heq
  obtain ⟨otherAfter, hw', hread'⟩ := writeRows_of_accepts ha ho
  rw [hw', hread'] at heq
  exact toText_injective
    (Text.eq_of_encodeUtf8_eq (encodable_toText.mpr ho) htext (Except.ok.inj heq))

/-- A file whose text does not end in a line end. -/
def formerFiles : FileTree :=
  ⟨[['/'], ['w']], [([['/'], ['w'], ['r']], .file [0x6F, 0x6C, 0x64])]⟩

/-- Rows whose texts have quotes, backslashes, and line ends of all kinds. -/
def awkwardRows : List Row :=
  [⟨-3, ['"', '\n', '\u2028', '"'], none⟩,
   ⟨7, ['\\'], some ⟨false, some ['"'], none, none, none, [[], ['\r', '\n']]⟩⟩]

theorem writeRows_says_rows_of_former_text : formerFiles.Accepts ⟨[['r']]⟩ ∧
    (∀ row ∈ awkwardRows, row.IsEncodable) ∧
    ∃ after bytes text, writeRows awkwardRows ⟨[['r']]⟩ formerFiles = (.ok 2, after) ∧
      after.read ⟨[['r']]⟩ = .ok bytes ∧ Text.decodeUtf8 bytes = .ok text ∧
      SaysRows text awkwardRows ∧
      ∀ (others : List Row) (otherFiles : FileTree) (otherPath : Path),
        (∀ row ∈ others, row.IsEncodable) → otherFiles.Accepts otherPath →
        (writeRows others otherPath otherFiles).2.read otherPath = .ok bytes →
        others = awkwardRows :=
  have h : formerFiles.Accepts ⟨[['r']]⟩ := ⟨_, _, rfl⟩
  have hr : ∀ row ∈ awkwardRows, row.IsEncodable := by decide
  ⟨h, hr, (writeRows_says_rows h awkwardRows).1 hr⟩

/-- A row with a surrogate is not written: its record is cut off where the surrogate is. -/
theorem writeRows_cuts_surrogate : formerFiles.Accepts ⟨[['r']]⟩ ∧
    (writeRows [⟨1, [.surrogate 0], none⟩] ⟨[['r']]⟩ formerFiles).1 =
      .error (.notEncodable ⟨1, [.surrogate 0]⟩) ∧
    (writeRows [⟨1, [.surrogate 0], none⟩] ⟨[['r']]⟩ formerFiles).2.read ⟨[['r']]⟩ =
      .ok (Text.encodeUtf8 (Text.ofChars "\x7b\"line\":1,\"input\":")) := by
  refine ⟨⟨_, _, rfl⟩, ?_, ?_⟩ <;> decide +kernel

end Batch

end GeoUrn
