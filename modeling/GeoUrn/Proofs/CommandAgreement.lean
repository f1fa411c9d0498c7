import GeoUrn.Proofs.BatchEndings
import GeoUrn.Proofs.CodeAgreement
import GeoUrn.Proofs.LineEnds
import GeoUrn.Proofs.RowRecords

/-!
One identifier and many. The commands for a single identifier answer what a batch writes in the row
of this identifier, whatever the characters of it are. Only escape sequences are lost when a code is
printed; in the JSON text they are escaped.
-/
namespace GeoUrn.Command

open Batch (Row)
open Component (separator urnScheme)
open Text (sameIgnoringCase split)
open CodePoint (char)

section

variable {before parts : Text} {letter : CodePoint}

theorem plain_append (h : escapeChar ∉ before) (rest : Text) :
    plain (before ++ rest) = before ++ plain rest := by
  induction before with
  | nil => rfl
  | cons c before ih =>
    obtain ⟨hc, hbefore⟩ := not_or.mp (mt List.mem_cons.mpr h)
    have hnext := ih hbefore
    rw [plain] at hnext
    rw [plain, List.cons_append, plainAfter, if_neg (Ne.symm hc)]
    exact congrArg (List.cons c) hnext

/-- A text without escape characters is printed as it is. -/
theorem plain_of_not_mem (h : escapeChar ∉ before) : plain before = before := by
  simpa [plain, plainAfter] using plain_append h []

theorem not_isSequencePart_of_isAsciiLetter (h : isAsciiLetter letter) :
    isSequencePart letter = false := by
  have hle : 'A' ≤ letter := by
    simp only [isAsciiLetter, Bool.or_eq_true, Bool.and_eq_true, decide_eq_true_eq] at h
    obtain ⟨hlow, -⟩ | ⟨hlow, -⟩ := h
    · exact le_trans (by decide) hlow
    · exact hlow
  have hsemicolon : letter ≠ ';' := (lt_of_lt_of_le (by decide) hle).ne'
  have hquestion : letter ≠ '?' := (lt_of_lt_of_le (by decide) hle).ne'
  have hdigit : ¬ letter ≤ '9' := not_le_of_gt (lt_of_lt_of_le (by decide) hle)
  simp [isSequencePart, hsemicolon, hquestion, hdigit]

theorem plainAfter_sequence (hparts : ∀ c ∈ parts, isSequencePart c)
    (hletter : isAsciiLetter letter) (d e : CodePoint) (held rest : Text) :
    plainAfter (d :: e :: held) (parts ++ letter :: rest) = plain rest := by
  induction parts generalizing held with
  | nil =>
    have hne : letter ≠ escapeChar := by
      rintro rfl
      exact absurd hletter (by decide)
    rw [List.nil_append, plainAfter, if_neg hne]
    · simp [not_isSequencePart_of_isAsciiLetter hletter, hletter, plain]
    all_goals simp
  | cons c parts ih =>
    obtain ⟨hc, hmore⟩ := List.forall_mem_cons.mp hparts
    have hne : c ≠ escapeChar := by
      rintro rfl
      exact absurd hc (by decide)
    rw [List.cons_append, plainAfter, if_neg hne]
    · simp only [hc, if_true]
      exact ih hmore (held ++ [c])
    all_goals simp

/-- A whole escape sequence is left out. -/
theorem plain_sequence (hparts : ∀ c ∈ parts, isSequencePart c) (hletter : isAsciiLetter letter)
    (rest : Text) : plain (escapeChar :: char '[' :: (parts ++ letter :: rest)) = plain rest := by
  rw [plain, plainAfter, if_pos rfl, plainAfter, if_neg (by decide)]
  exact plainAfter_sequence hparts hletter escapeChar '[' [] rest

end

section

variable {word : Chars} {rules : List OptionRule}

theorem WordKind.of_argument (h : word.head? ≠ some '-') : WordKind.of word = .argument := by
  unfold WordKind.of
  split <;> simp_all

theorem readWords_argument (h : word.head? ≠ some '-') (rest : List Chars) (given : Given) :
    readWords rules none (word :: rest) given =
      readWords rules none rest (given.addArguments [word]) := by
  rw [readWords, WordKind.of_argument h]

theorem ofArguments_parse (h : word.head? ≠ some '-') :
    Invocation.ofArguments ["parse", word, "--json"] = some (.parse word true) := by
  have hgiven : readAll Invocation.parseRules [word, "--json"] = some ⟨[("json", [])], [word]⟩ := by
    rw [readAll, readWords_argument h]
    rfl
  change (readAll Invocation.parseRules [word, "--json"]).bind (fun given =>
    Invocation.unlessHelp given (Invocation.ofParse given)) = _
  rw [hgiven]
  rfl

theorem ofArguments_code (h : word.head? ≠ some '-') (type authority : Chars) :
    Invocation.ofArguments ["code", word, "--type", type, "--authority", authority] =
      some (.code word type authority) := by
  have hgiven : readAll Invocation.codeRules [word, "--type", type, "--authority", authority] =
      some ⟨[("type", type), ("authority", authority)], [word]⟩ := by
    rw [readAll, readWords_argument h]
    rfl
  change (readAll Invocation.codeRules [word, "--type", type, "--authority", authority]).bind
    (fun given => Invocation.unlessHelp given (Invocation.ofCode given)) = _
  rw [hgiven]
  rfl

theorem run_parse (h : word.head? ≠ some '-') (site : Site) :
    run ["parse", word, "--json"] site = (site, .ended (runParse (Text.ofChars word) true)) := by
  rw [run, ofArguments_parse h]
  rfl

theorem run_code (h : word.head? ≠ some '-') (type authority : Chars) (site : Site) :
    run ["code", word, "--type", type, "--authority", authority] site =
      (site,
        .ended (runCode (Text.ofChars word) (Text.ofChars type) (Text.ofChars authority))) := by
  rw [run, ofArguments_code h]
  rfl

end

/-- What the commands for one identifier answer for this input, the text of a row, is what the row
says. -/
structure Answers (row : Row) (input : Chars) : Prop where
  recognized : row.recognized = true → ∀ site, ∃ line definition,
    run ["parse", input, "--json"] site = (site, .ended ⟨0, line ++ [char '\n'], [], none⟩) ∧
    char '\n' ∉ line ∧ Json.read line = .ok definition ∧
    row.toJson.member? "definition" = some definition
  unrecognized : row.recognized = false → ∀ site, ∃ message,
    run ["parse", input, "--json"] site = (site, .ended ⟨3, [], message, none⟩)
  code : ∀ d type authority, row.definition = some d → d.isHttp = false →
    (split separator row.input).length = 7 → d.objectType = some type →
    d.authority = some authority → ¬ sameIgnoringCase authority urnScheme →
    ∃ typeWord authorityWord : Chars, Text.ofChars typeWord = type ∧
      Text.ofChars authorityWord = authority ∧ ∀ site, ∃ code, d.code = some code ∧
        run ["code", input, "--type", typeWord, "--authority", authorityWord] site =
          (site, .ended ⟨0, plain code ++ [char '\n'], [], none⟩) ∧
        (escapeChar ∉ code → plain code = code)

section

variable {row : Row} {d : Definition}

theorem printed_singleton (line : Text) : Report.printed [line] = plain line ++ [char '\n'] :=
  List.flatMap_singleton _ _

theorem runParse_of_some {text : Text} (h : Definition.parse? .standard text = some d) :
    runParse text true = ⟨0, d.toJson.spaced ++ [char '\n'], [], none⟩ := by
  have hplain : plain d.toJson.spaced = d.toJson.spaced :=
    plain_of_not_mem ((Json.isPlainText_spaced d.toJson).not_mem (by decide))
  rw [runParse, h]
  simp only [if_true, Report.success]
  rw [printed_singleton, hplain]

/-- The code of a URN without parameters is found with its own type and authority. -/
theorem parse?_code_of_urn {text type authority : Text}
    (h : Definition.parse? .standard text = some d) (hurn : d.isHttp = false)
    (hlength : (split separator text).length = 7) (htype : d.objectType = some type)
    (hauthority : d.authority = some authority) (hu : ¬ sameIgnoringCase authority urnScheme) :
    Code.parse? .standard type authority text = d.code := by
  obtain ⟨hpieces, rfl⟩ := Definition.read_urn_iff.mp ⟨Definition.parse?_eq_some_iff.mp h, hurn⟩
  have hself (word : Text) : sameIgnoringCase word word := Text.sameIgnoringCase_iff.mpr ⟨rfl, rfl⟩
  rw [Code.parse?, Code.read_of_isUrn hpieces hu, htype, hauthority]
  simp only [Option.getD_some, hself, hlength, true_and, if_true]

theorem answers {input : Chars} (hinput : input.head? ≠ some '-')
    (htext : Text.ofChars input = row.input) (he : row.IsEncodable)
    (hrow : row.definition = Definition.parse? .standard row.input) : Answers row input where
  recognized hr site := by
    obtain ⟨d, hd⟩ := Option.isSome_iff_exists.mp hr
    refine ⟨d.toJson.spaced, d.toJson, ?_, (Json.isPlainText_spaced _).not_mem (by decide),
      Json.read_spaced d.isProper_toJson, ?_⟩
    · rw [run_parse hinput, htext, runParse_of_some (hrow.symm.trans hd)]
    · rw [Row.toJson, hd]
      rfl
  unrecognized hr site := by
    have hnone : Definition.parse? .standard row.input = none :=
      hrow.symm.trans (Option.not_isSome_iff_eq_none.mp (Bool.eq_false_iff.mp hr))
    rw [run_parse hinput, htext, runParse, hnone]
    exact ⟨_, rfl⟩
  code d type authority hd hurn hlength htype hauthority hu := by
    have hparse := hrow.symm.trans hd
    have hencodable := he.definition d hd
    obtain ⟨typeWord, rfl⟩ := Text.exists_ofChars (hencodable.objectType type htype)
    obtain ⟨authorityWord, rfl⟩ := Text.exists_ofChars (hencodable.authority authority hauthority)
    obtain ⟨code, hcode, -⟩ := (Definition.isRecord_of_parse? hparse).exists_code
    refine ⟨typeWord, authorityWord, rfl, rfl, fun site => ⟨code, hcode, ?_, plain_of_not_mem⟩⟩
    rw [run_code hinput, runCode, htext,
      parse?_code_of_urn hparse hurn hlength htype hauthority hu, hcode]
    simp only [Report.success]
    rw [printed_singleton]

end

namespace BatchRun

variable {run : BatchRun}

theorem registry_configOf (job : BatchJob) : (configOf job).registry = .standard := by
  unfold configOf
  split_ifs <;> rfl

/-- A batch that ends well has written the rows of what it read. -/
theorem exists_rows_of_exitCode (asked : Invocation.ofArguments run.words = some (.batch run.job))
    (ended : run.outcome.exitCode = 0) : ∃ read,
    (¬ run.IsLog (run.placeOf run.job.input) → read = run.input) ∧
    (¬ run.IsLog (run.placeOf run.job.output) →
      run.after.files.read (Path.ofText run.job.output) =
        .ok (Text.encodeUtf8 (Batch.toText (rowsIn run.job read)))) := by
  obtain ⟨-, hne⟩ | ⟨noZero, isInput⟩ := refused_or_begun asked
  · exact absurd ended hne
  · obtain ⟨report, houtcome, hending⟩ := exists_ending asked noZero isInput
    rw [houtcome] at ended
    cases hending with
    | escaped => cases ended
    | failed => cases ended
    | finished _ _ read_eq _ _ output => exact ⟨_, read_eq, output⟩

theorem answers_of_mem_rowsIn {job : BatchJob} {bytes : Bytes} {row : Row}
    (h : row ∈ rowsIn job bytes) :
    ∃ input, Text.ofChars input = row.input ∧ (input.head? ≠ some '-' → Answers row input) := by
  have he := encodable_rowsIn job bytes row h
  obtain ⟨input, htext⟩ := Text.exists_ofChars he.input
  obtain ⟨n, raw, -, rfl⟩ := Batch.exists_of_mem_keptRowsFrom h
  refine ⟨input, htext.symm, fun hinput => answers hinput htext.symm he ?_⟩
  rw [Batch.rowOf, registry_configOf]

/-- For each row that a batch writes, the commands for one identifier answer what the row says: the
same definition, or that there is none, and the code of a URN without parameters. -/
theorem rows_answered (run : BatchRun)
    (asked : Invocation.ofArguments run.words = some (.batch run.job))
    (ended : run.outcome.exitCode = 0) :
    ∃ rows, (¬ run.IsLog (run.placeOf run.job.input) → rows = run.rows) ∧
      (¬ run.IsLog (run.placeOf run.job.output) →
        run.after.files.read (Path.ofText run.job.output) =
          .ok (Text.encodeUtf8 (Batch.toText rows))) ∧
      Batch.SaysRows (Batch.toText rows) rows ∧
      ∀ row ∈ rows, ∃ input, Text.ofChars input = row.input ∧
        (input.head? ≠ some '-' → Answers row input) := by
  obtain ⟨read, hread, houtput⟩ := exists_rows_of_exitCode asked ended
  refine ⟨rowsIn run.job read, fun hin => ?_, houtput, Batch.saysRows_toText _,
    fun row => answers_of_mem_rowsIn⟩
  rw [hread hin]
  rfl

/-- A URN whose code begins with an escape sequence. -/
def markedInput : Chars := "urn:ogc:def:crs:EPSG::\x1b[0m1"

/-- The text of an input: this URN, and what is no identifier. -/
def markedText : Text := Text.ofChars markedInput ++ "\nno\n"

def markedRun : BatchRun := renewingRun (Text.encodeUtf8 markedText)

def markedRow : Row :=
  ⟨1, Text.ofChars markedInput,
    some ⟨false, some "crs", some "EPSG", none, some "\x1b[0m1", []⟩⟩

theorem reading_markedRun : markedRun.reading = ⟨markedText, none⟩ := by
  have hencodable : Text.Encodable markedText := by decide
  have hhead : markedText.head? ≠ some (char Reading.markChar) := by decide
  change Reading.ofBytes (Reading.fileBytes false markedText) = ⟨markedText, none⟩
  exact Reading.ofBytes_fileBytes hencodable (.inr hhead)

theorem rows_markedRun : markedRun.rows = [markedRow, ⟨2, "no", none⟩] := by
  rw [rows, reading_markedRun]
  decide +kernel

theorem exitCode_markedRun : markedRun.outcome.exitCode = 0 := by
  obtain ⟨hin, -⟩ := renewingRun_not_isLog (Text.encodeUtf8 markedText)
  refine (exitCode_eq_zero_iff rfl rfl rfl hin).2.mpr ⟨?_, ?_, _, _, rfl⟩
  · rintro name hname
    cases hname
    exact ⟨_, _, rfl⟩
  · rw [show (renewingRun (Text.encodeUtf8 markedText)).reading = ⟨markedText, none⟩ from
      reading_markedRun]

theorem rows_answered_of_marked_row :
    Invocation.ofArguments markedRun.words = some (.batch markedRun.job) ∧
      markedRun.outcome.exitCode = 0 ∧
      markedRun.after.files.read (Path.ofText "o") = .ok (Text.encodeUtf8
        (Batch.toText [markedRow, ⟨2, "no", none⟩])) ∧
      (∃ line definition, Command.run ["parse", markedInput, "--json"] markedRun.site =
          (markedRun.site, .ended ⟨0, line ++ [char '\n'], [], none⟩) ∧
        Json.read line = .ok definition ∧
        markedRow.toJson.member? "definition" = some definition) ∧
      Command.run ["code", markedInput, "--type", "crs", "--authority", "EPSG"] markedRun.site =
        (markedRun.site, .ended ⟨0, plain "\x1b[0m1" ++ [char '\n'], [], none⟩) ∧
      (∃ message, Command.run ["parse", "no", "--json"] markedRun.site =
        (markedRun.site, .ended ⟨3, [], message, none⟩)) := by
  obtain ⟨hin, hout⟩ := renewingRun_not_isLog (Text.encodeUtf8 markedText)
  obtain ⟨written, hrows, houtput, -, hanswers⟩ := rows_answered markedRun rfl exitCode_markedRun
  obtain rfl : written = _ := (hrows hin).trans rows_markedRun
  obtain ⟨⟨marked, hmarked, hfirst⟩, hrest⟩ := List.forall_mem_cons.mp hanswers
  obtain ⟨other, hother, hsecond⟩ := List.forall_mem_singleton.mp hrest
  obtain rfl : marked = markedInput := Text.ofChars_injective hmarked
  obtain rfl : other = "no" := Text.ofChars_injective hother
  have hanswer := hfirst (by decide)
  obtain ⟨line, definition, hrun, -, hread, hmember⟩ := hanswer.recognized rfl markedRun.site
  obtain ⟨type, authority, htype, hauthority, hcode⟩ :=
    hanswer.code _ _ _ rfl rfl (by decide +kernel) rfl rfl (by decide +kernel)
  obtain rfl : type = "crs" := Text.ofChars_injective htype
  obtain rfl : authority = "EPSG" := Text.ofChars_injective hauthority
  obtain ⟨code, hsome, hprinted, -⟩ := hcode markedRun.site
  obtain rfl := Option.some.inj hsome
  exact ⟨rfl, exitCode_markedRun, houtput hout, ⟨line, definition, hrun, hread, hmember⟩,
    hprinted, (hsecond (by decide)).unrecognized rfl markedRun.site⟩

/-- The code of the row has four characters more than what is printed for it. -/
theorem code_printed_without_sequence :
    Invocation.ofArguments markedRun.words = some (.batch markedRun.job) ∧
      markedRun.outcome.exitCode = 0 ∧
      markedRun.after.files.read (Path.ofText markedRun.job.output) =
        .ok (Text.encodeUtf8 (Batch.toText markedRun.rows)) ∧
      markedRow ∈ markedRun.rows ∧ Text.ofChars markedInput = markedRow.input ∧
      markedInput.head? ≠ some '-' ∧
      (split separator markedRow.input).length = 7 ∧
      ¬ sameIgnoringCase "EPSG" urnScheme ∧
      markedRow.definition =
        some ⟨false, some "crs", some "EPSG", none, some "\x1b[0m1", []⟩ ∧
      Command.run ["code", markedInput, "--type", "crs", "--authority", "EPSG"] markedRun.site =
        (markedRun.site, .ended ⟨0, "1\n", [], none⟩) ∧
      ("1\n" : Text) ≠ "\x1b[0m1\n" := by
  have hinput : markedInput.head? ≠ some '-' := by decide
  have hlength : (split separator markedRow.input).length = 7 := by decide +kernel
  have hu : ¬ sameIgnoringCase "EPSG" urnScheme := by decide +kernel
  have hparse : Definition.parse? .standard (Text.ofChars markedInput) = markedRow.definition := by
    decide +kernel
  have hcode := parse?_code_of_urn hparse rfl hlength rfl rfl hu
  have hdigit : ∀ c ∈ [char '0'], isSequencePart c := List.forall_mem_singleton.mpr rfl
  have hletter : isAsciiLetter 'm' := rfl
  have hplain : plain "\x1b[0m1" = plain ['1'] := plain_sequence hdigit hletter ['1']
  obtain ⟨hin, hout⟩ := renewingRun_not_isLog (Text.encodeUtf8 markedText)
  obtain ⟨read, hread, houtput⟩ := exists_rows_of_exitCode rfl exitCode_markedRun
  have hwritten := houtput hout
  rw [hread hin] at hwritten
  refine ⟨rfl, exitCode_markedRun, hwritten, ?_, rfl, hinput, hlength, hu, rfl, ?_, by decide⟩
  · rw [rows_markedRun]
    exact List.mem_cons_self
  · rw [run_code hinput, runCode, hcode]
    simp only [Report.success]
    rw [printed_singleton, hplain]
    rfl

end BatchRun

end GeoUrn.Command
