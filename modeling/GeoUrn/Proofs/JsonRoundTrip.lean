import GeoUrn.Proofs.NumberTexts

/-!
JSON written and read back. Every value is read from its text as it was, however it is laid out.
-/
namespace GeoUrn.Json
open Decimal
open CodePoint (char)

theorem hex_four {n : ℕ} (h : n < 256) :
    hex 4 n = [char '0', char '0', digitChar (n / 16), digitChar (n % 16)] := by
  unfold hex widen
  by_cases hn : n < 16
  · rw [digits_of_lt hn, Nat.div_eq_of_lt hn, Nat.mod_eq_of_lt hn]
    rfl
  · rw [digits, dif_neg (by omega), digits_of_lt (by omega)]
    rfl

theorem readUnicode_hex {n : ℕ} (h : n < 256) (rest : Text) :
    readUnicode (hex 4 n ++ rest) = some (CodePoint.ofNat n, rest) := by
  have hzero : hexDigit? '0' = some 0 := by decide
  have hunit : readUnit (hex 4 n ++ rest) = some (n, rest) := by
    have hvalue : ((0 * 16 + 0) * 16 + n / 16) * 16 + n % 16 = n := by omega
    rw [hex_four h]
    simp only [List.cons_append, List.nil_append, readUnit, hzero,
      hexDigit?_digitChar (show n / 16 < 16 by omega), hexDigit?_digitChar (show n % 16 < 16 by omega),
      hvalue]
  have hlow : (decide (n < 0xD800) || decide (0xDFFF < n)) = true := by
    rw [decide_eq_true (by omega), Bool.true_or]
  unfold readUnicode
  simp only [hunit, hlow, if_true]

/-- One step of the reader takes one escaped character. -/
theorem readString_escaped (start : Text) (fuel : ℕ) (c : CodePoint) (rest : Text) :
    readString start (fuel + 1) (escaped c ++ rest) =
      (readString start fuel rest).map fun r => (c :: r.1, r.2) := by
  unfold escaped
  split_ifs with h1 h2 h3 h4 h5 h6 h7 h8
  case pos => subst h1; rfl
  case pos => subst h2; rfl
  case pos => subst h3; rfl
  case pos => subst h4; rfl
  case pos => subst h5; rfl
  case pos => subst h6; rfl
  case pos => subst h7; rfl
  case pos =>
    have hread := readUnicode_hex (show c.toNat < 256 by omega) rest
    rw [CodePoint.ofNat_toNat] at hread
    simp [readString, hread]
  case neg => simp [readString, h1, h2, h8]

theorem escaped_ne_nil (c : CodePoint) : escaped c ≠ [] := by
  unfold escaped
  split_ifs <;> simp

theorem length_le_flatMap_escaped (t : Text) : t.length ≤ (t.flatMap escaped).length := by
  induction t with
  | nil => exact Nat.le_refl 0
  | cons c t ih =>
    have hpos := List.length_pos_iff.mpr (escaped_ne_nil c)
    rw [List.flatMap_cons, List.length_append, List.length_cons]
    omega

theorem readString_render (start t rest : Text) {fuel : ℕ} (h : t.length < fuel) :
    readString start fuel (t.flatMap escaped ++ char '"' :: rest) = .ok (t, rest) := by
  induction t generalizing fuel with
  | nil =>
    obtain ⟨fuel, rfl⟩ := Nat.exists_eq_add_one_of_ne_zero (by omega : fuel ≠ 0)
    rfl
  | cons c t ih =>
    obtain ⟨fuel, rfl⟩ := Nat.exists_eq_add_one_of_ne_zero (by omega : fuel ≠ 0)
    rw [List.length_cons] at h
    rw [List.flatMap_cons, List.append_assoc, readString_escaped, ih (by omega)]
    rfl

/-- The reader gives each string as many steps as there are characters left. -/
theorem readString_renderString (t rest : Text) :
    ∃ body, renderString t ++ rest = char '"' :: body ∧
      readString (char '"' :: body) (body.length + 1) body = .ok (t, rest) := by
  refine ⟨t.flatMap escaped ++ char '"' :: rest, by simp [renderString], ?_⟩
  refine readString_render _ t rest ?_
  have hle := length_le_flatMap_escaped t
  rw [List.length_append, List.length_cons]
  omega

theorem skipBlanks_of_head {text : Text} (h : ∀ c ∈ text.head?, isJsonBlank c = false) :
    skipBlanks text = text := by
  cases text with
  | nil => rfl
  | cons c rest => simp [skipBlanks, h c rfl]

theorem skipBlanks_append {blanks text : Text} (hb : ∀ c ∈ blanks, isJsonBlank c)
    (h : ∀ c ∈ text.head?, isJsonBlank c = false) : skipBlanks (blanks ++ text) = text := by
  rw [skipBlanks, List.dropWhile_append_of_pos hb]
  exact skipBlanks_of_head h

/-- Commas and colons are followed by nothing but blanks. -/
structure Style.IsPlain (style : Style) : Prop where
  comma : ∃ blanks, style.comma = char ',' :: blanks ∧ ∀ c ∈ blanks, isJsonBlank c
  colon : ∃ blanks, style.colon = char ':' :: blanks ∧ ∀ c ∈ blanks, isJsonBlank c

theorem isPlain_compactStyle : compactStyle.IsPlain where
  comma := ⟨[], rfl, by simp⟩
  colon := ⟨[], rfl, by simp⟩

theorem isPlain_spacedStyle : spacedStyle.IsPlain where
  comma := ⟨[' '], rfl, List.forall_mem_singleton.mpr (by decide)⟩
  colon := ⟨[' '], rfl, List.forall_mem_singleton.mpr (by decide)⟩

/-- All numbers in the value are in their one form. -/
inductive Value.IsProper : Value → Prop
  | null : IsProper .null
  | bool (b : Bool) : IsProper (.bool b)
  | number (n : Number) (h : n.IsProper) : IsProper (.number n)
  | text (t : Text) : IsProper (.text t)
  | array (elements : List Value) (h : ∀ v ∈ elements, IsProper v) : IsProper (.array elements)
  | object (members : Members) (h : ∀ m ∈ members, IsProper m.2) : IsProper (.object members)

def StartsValue (text : Text) : Prop :=
  ∃ c rest, text = c :: rest ∧ isJsonBlank c = false ∧ c ≠ ']' ∧ c ≠ '\x7d' ∧ c ≠ '\uFEFF'

theorem StartsValue.append {text : Text} (h : StartsValue text) (rest : Text) :
    StartsValue (text ++ rest) := by
  obtain ⟨c, more, rfl, hc⟩ := h
  exact ⟨c, more ++ rest, rfl, hc⟩

theorem StartsValue.not_blank {text : Text} (h : StartsValue text) :
    ∀ c ∈ text.head?, isJsonBlank c = false := by
  obtain ⟨c, more, rfl, hc, -⟩ := h
  rintro d ⟨⟩
  exact hc

theorem startsValue_number {n : Number} (hn : n.IsProper) : StartsValue n.render := by
  obtain ⟨c, rest, he, hc⟩ := exists_numberStart hn
  refine ⟨c, rest, he, ?_, hc.ne (by decide), hc.ne (by decide), hc.ne (by decide)⟩
  have hspace : c ≠ ' ' := hc.ne (by decide)
  have htab : c ≠ '\t' := hc.ne (by decide)
  have hfeed : c ≠ '\n' := hc.ne (by decide)
  have hreturn : c ≠ '\r' := hc.ne (by decide)
  simp [isJsonBlank, hspace, htab, hfeed, hreturn]

theorem startsValue_render (style : Style) {v : Value} (hv : v.IsProper) :
    StartsValue (v.render style) := by
  cases hv with
  | null => exact ⟨'n', _, rfl, by decide⟩
  | bool b =>
    cases b with
    | false => exact ⟨'f', _, rfl, by decide⟩
    | true => exact ⟨'t', _, rfl, by decide⟩
  | number n hn => exact startsValue_number hn
  | text t => exact ⟨'"', _, rfl, by decide⟩
  | array elements _ => exact ⟨'[', _, rfl, by decide⟩
  | object members _ => exact ⟨'\x7b', _, rfl, by decide⟩

theorem readValue_of_scalar {text : Text} (fuel : ℕ)
    (h : ∀ c ∈ text.head?, c ≠ '"' ∧ c ≠ '[' ∧ c ≠ '\x7b') :
    readValue (fuel + 1) text = readScalar text := by
  rw [readValue]
  · rintro rest rfl
    exact (h '"' rfl).1 rfl
  · rintro rest rfl
    exact (h '[' rfl).2.1 rfl
  · rintro rest rfl
    exact (h '\x7b' rfl).2.2 rfl

theorem endsNumber_cons {c : CodePoint}
    (h : isDigit c = false ∧ c ≠ '.' ∧ c ≠ 'e' ∧ c ≠ 'E') (rest : Text) : EndsNumber (c :: rest) := by
  rintro d ⟨⟩
  exact h

theorem readValue_number {n : Number} (hn : n.IsProper) (fuel : ℕ) {rest : Text}
    (hr : EndsNumber rest) :
    readValue (fuel + 1) (n.render ++ rest) = .ok (.number n, rest) := by
  obtain ⟨c, more, he, hc⟩ := exists_numberStart hn
  rw [readValue_of_scalar, readScalar_number hn hr]
  rw [he]
  rintro d ⟨⟩
  exact ⟨hc.ne (by decide), hc.ne (by decide), hc.ne (by decide)⟩

theorem readValue_text (t : Text) (fuel : ℕ) (rest : Text) :
    readValue (fuel + 1) (renderString t ++ rest) = .ok (.text t, rest) := by
  obtain ⟨body, he, hread⟩ := readString_renderString t rest
  rw [he, readValue, hread]
  rfl

/-- The text after an opening bracket is that of the elements, unless it closes the bracket. -/
theorem readValue_array {fuel : ℕ} {elements : List Value} {text rest : Text}
    (hs : StartsValue text) (h : readElements fuel text = .ok (elements, rest)) :
    readValue (fuel + 1) (char '[' :: text) = .ok (.array elements, rest) := by
  obtain ⟨c, more, rfl, hb, hc, -⟩ := hs
  have hskip : skipBlanks (c :: more) = c :: more := by simp [skipBlanks, hb]
  rw [readValue, hskip]
  split
  case h_1 heq => exact absurd (List.cons.inj heq).1 hc
  case h_2 =>
    rw [h]
    rfl

theorem readValue_object {fuel : ℕ} {members : Members} {text rest : Text}
    (h : readMembers fuel (char '"' :: text) = .ok (members, rest)) :
    readValue (fuel + 1) (char '\x7b' :: char '"' :: text) = .ok (.object members, rest) := by
  have hskip : skipBlanks (char '"' :: text) = char '"' :: text := by simp [skipBlanks, isJsonBlank]
  rw [readValue, hskip]
  change Except.map _ (readMembers fuel (char '"' :: text)) = _
  rw [h]
  rfl

/-- A comma in a style is one comma for the reader. -/
theorem Style.IsPlain.skip_comma {style : Style} (hs : style.IsPlain) {text : Text}
    (h : StartsValue text) :
    ∃ more, style.comma ++ text = char ',' :: more ∧ skipBlanks more = text := by
  obtain ⟨blanks, he, hb⟩ := hs.comma
  refine ⟨blanks ++ text, by rw [he, List.cons_append], skipBlanks_append hb h.not_blank⟩

theorem Style.IsPlain.skip_colon {style : Style} (hs : style.IsPlain) {text : Text}
    (h : StartsValue text) :
    ∃ more, style.colon ++ text = char ':' :: more ∧ skipBlanks more = text := by
  obtain ⟨blanks, he, hb⟩ := hs.colon
  refine ⟨blanks ++ text, by rw [he, List.cons_append], skipBlanks_append hb h.not_blank⟩

/-- The first element is followed by the closing bracket, or by a comma and the others. -/
theorem readElements_last {fuel : ℕ} {v : Value} {text rest : Text}
    (h : readValue fuel text = .ok (v, char ']' :: rest)) :
    readElements (fuel + 1) text = .ok ([v], rest) := by
  rw [readElements, h]
  rfl

theorem readElements_comma {fuel : ℕ} {v : Value} {vs : List Value} {text more rest : Text}
    (h : readValue fuel text = .ok (v, char ',' :: more))
    (hmore : readElements fuel (skipBlanks more) = .ok (vs, rest)) :
    readElements (fuel + 1) text = .ok (v :: vs, rest) := by
  have hskip : skipBlanks (char ',' :: more) = char ',' :: more := by simp [skipBlanks, isJsonBlank]
  rw [readElements, h]
  simp only [hskip, hmore]
  rfl

theorem readMembers_last {fuel : ℕ} {name : Text} {v : Value} {text body more rest : Text}
    (hname : readString (char '"' :: text) (text.length + 1) text = .ok (name, char ':' :: body))
    (hbody : skipBlanks body = more) (h : readValue fuel more = .ok (v, char '\x7d' :: rest)) :
    readMembers (fuel + 1) (char '"' :: text) = .ok ([(name, v)], rest) := by
  have hcolon : skipBlanks (char ':' :: body) = char ':' :: body := by simp [skipBlanks, isJsonBlank]
  have hbrace : skipBlanks (char '\x7d' :: rest) = char '\x7d' :: rest := by simp [skipBlanks, isJsonBlank]
  rw [readMembers, hname]
  simp only [hcolon, hbody, h, hbrace]

theorem readMembers_comma {fuel : ℕ} {name : Text} {v : Value} {ms : Members}
    {text body more next rest : Text}
    (hname : readString (char '"' :: text) (text.length + 1) text = .ok (name, char ':' :: body))
    (hbody : skipBlanks body = more) (h : readValue fuel more = .ok (v, char ',' :: next))
    (hnext : readMembers fuel (skipBlanks next) = .ok (ms, rest)) :
    readMembers (fuel + 1) (char '"' :: text) = .ok ((name, v) :: ms, rest) := by
  have hcolon : skipBlanks (char ':' :: body) = char ':' :: body := by simp [skipBlanks, isJsonBlank]
  have hcomma : skipBlanks (char ',' :: next) = char ',' :: next := by simp [skipBlanks, isJsonBlank]
  rw [readMembers, hname]
  simp only [hcolon, hbody, h, hcomma, hnext]
  rfl

theorem startsValue_renderElements (style : Style) {v : Value} (hv : v.IsProper)
    (vs : List Value) : StartsValue (Value.renderElements style (v :: vs)) := by
  cases vs with
  | nil => exact startsValue_render style hv
  | cons w ws =>
    rw [Value.renderElements, List.append_assoc]
    · exact (startsValue_render style hv).append _
    · simp

theorem startsValue_renderMembers (style : Style) (name : Text) (v : Value) (ms : Members) :
    ∃ text, Value.renderMembers style ((name, v) :: ms) = char '"' :: text := by
  cases ms with
  | nil => exact ⟨_, rfl⟩
  | cons m ms => exact ⟨_, rfl⟩

mutual

/-- A value is read back from its text. The reader is given two steps for each character, which is
more than one for each value and one for each place in a list. -/
theorem readValue_render {style : Style} (hs : style.IsPlain) : ∀ (v : Value), v.IsProper →
    ∀ (fuel : ℕ) (rest : Text), 2 * (v.render style).length ≤ fuel → EndsNumber rest →
      readValue fuel (v.render style ++ rest) = .ok (v, rest)
  | v, hv, 0, rest, hf, _ => by
    obtain ⟨c, more, he, -⟩ := startsValue_render style hv
    rw [he, List.length_cons] at hf
    omega
  | .null, _, fuel + 1, rest, _, _ => by
    rw [readValue_of_scalar]
    · rfl
    · rintro c ⟨⟩
      decide
  | .bool false, _, fuel + 1, rest, _, _ => by
    rw [readValue_of_scalar]
    · rfl
    · rintro c ⟨⟩
      decide
  | .bool true, _, fuel + 1, rest, _, _ => by
    rw [readValue_of_scalar]
    · rfl
    · rintro c ⟨⟩
      decide
  | .number n, .number _ hn, fuel + 1, rest, _, hr => readValue_number hn fuel hr
  | .text t, _, fuel + 1, rest, _, _ => readValue_text t fuel rest
  | .array elements, .array _ hv, fuel + 1, rest, hf, _ => by
    have hread := readElements_render hs elements
    rw [Value.render, List.length_append, List.length_cons, List.length_singleton] at hf
    rw [Value.render, List.append_assoc, List.cons_append]
    cases elements with
    | nil => rfl
    | cons v vs =>
      have hstart := startsValue_renderElements style (hv v List.mem_cons_self) vs
      exact readValue_array (hstart.append _)
        (hread (List.cons_ne_nil v vs) hv fuel rest (by omega))
  | .object members, .object _ hv, fuel + 1, rest, hf, _ => by
    have hread := readMembers_render hs members
    rw [Value.render, List.length_append, List.length_cons, List.length_singleton] at hf
    rw [Value.render, List.append_assoc, List.cons_append]
    cases members with
    | nil => rfl
    | cons m ms =>
      obtain ⟨name, v⟩ := m
      have hmembers := hread (List.cons_ne_nil _ ms) hv fuel rest (by omega)
      obtain ⟨text, he⟩ := startsValue_renderMembers style name v ms
      rw [he] at hmembers ⊢
      exact readValue_object hmembers

theorem readElements_render {style : Style} (hs : style.IsPlain) : ∀ (vs : List Value), vs ≠ [] →
    (∀ v ∈ vs, v.IsProper) → ∀ (fuel : ℕ) (rest : Text),
      2 * (Value.renderElements style vs).length + 1 ≤ fuel →
        readElements fuel (Value.renderElements style vs ++ char ']' :: rest) = .ok (vs, rest)
  | _, _, _, 0, _, hf => by omega
  | [], hne, _, _, _, _ => absurd rfl hne
  | [v], _, hv, fuel + 1, rest, hf => by
    rw [Value.renderElements] at hf ⊢
    have hend : EndsNumber (char ']' :: rest) := endsNumber_cons (by decide) rest
    exact readElements_last
      (readValue_render hs v (hv v List.mem_cons_self) fuel _ (by omega) hend)
  | v :: w :: ws, _, hv, fuel + 1, rest, hf => by
    obtain ⟨hfirst, hothers⟩ := List.forall_mem_cons.mp hv
    have hstart := (startsValue_renderElements style (hothers w List.mem_cons_self) ws).append
      (char ']' :: rest)
    obtain ⟨more, hcomma, hskip⟩ := hs.skip_comma hstart
    obtain ⟨blanks, hstyle, -⟩ := hs.comma
    have hend : EndsNumber (char ',' :: more) := endsNumber_cons (by decide) more
    have hwidth : 1 ≤ style.comma.length := by
      rw [hstyle, List.length_cons]
      omega
    rw [Value.renderElements, List.length_append, List.length_append] at hf
    rw [Value.renderElements, List.append_assoc, List.append_assoc, hcomma]
    · refine readElements_comma (readValue_render hs v hfirst fuel _ (by omega) hend) ?_
      rw [hskip]
      exact readElements_render hs (w :: ws) (List.cons_ne_nil w ws) hothers fuel rest (by omega)
    all_goals simp

theorem readMembers_render {style : Style} (hs : style.IsPlain) : ∀ (ms : List (Text × Value)),
    ms ≠ [] → (∀ m ∈ ms, m.2.IsProper) → ∀ (fuel : ℕ) (rest : Text),
      2 * (Value.renderMembers style ms).length + 1 ≤ fuel →
        readMembers fuel (Value.renderMembers style ms ++ char '\x7d' :: rest) = .ok (ms, rest)
  | _, _, _, 0, _, hf => by omega
  | [], hne, _, _, _, _ => absurd rfl hne
  | [(name, v)], _, hv, fuel + 1, rest, hf => by
    have hproper : v.IsProper := hv (name, v) List.mem_cons_self
    have hend : EndsNumber (char '\x7d' :: rest) := endsNumber_cons (by decide) rest
    obtain ⟨more, hcolon, hskip⟩ := hs.skip_colon
      ((startsValue_render style hproper).append (char '\x7d' :: rest))
    obtain ⟨body, hbody, hname⟩ := readString_renderString name (char ':' :: more)
    rw [Value.renderMembers, List.length_append, List.length_append] at hf
    rw [Value.renderMembers, List.append_assoc, List.append_assoc, hcolon, hbody]
    exact readMembers_last hname hskip (readValue_render hs v hproper fuel _ (by omega) hend)
  | (name, v) :: (next, w) :: ms, _, hv, fuel + 1, rest, hf => by
    obtain ⟨hproper, hothers⟩ := List.forall_mem_cons.mp hv
    obtain ⟨text, htext⟩ := startsValue_renderMembers style next w ms
    have hquote : StartsValue (char '"' :: text ++ char '\x7d' :: rest) := ⟨'"', _, rfl, by decide⟩
    obtain ⟨after, hcomma, hafter⟩ := hs.skip_comma hquote
    obtain ⟨more, hcolon, hskip⟩ := hs.skip_colon
      ((startsValue_render style hproper).append (char ',' :: after))
    obtain ⟨body, hbody, hname⟩ := readString_renderString name (char ':' :: more)
    obtain ⟨blanks, hstyle, -⟩ := hs.comma
    have hend : EndsNumber (char ',' :: after) := endsNumber_cons (by decide) after
    have hwidth : 1 ≤ style.comma.length := by
      rw [hstyle, List.length_cons]
      omega
    have hread := readMembers_render hs ((next, w) :: ms) (List.cons_ne_nil _ ms) hothers fuel rest
    rw [Value.renderMembers, List.length_append, List.length_append, List.length_append,
      List.length_append] at hf
    rw [Value.renderMembers, htext, List.append_assoc, List.append_assoc, List.append_assoc,
      List.append_assoc, hcomma, hcolon, hbody]
    · refine readMembers_comma hname hskip
        (readValue_render hs v hproper fuel _ (by omega) hend) ?_
      rw [hafter, ← htext]
      exact hread (by omega)
    all_goals simp

end

theorem skipBlanks_startsValue {text : Text} (h : StartsValue text) : skipBlanks text = text :=
  skipBlanks_of_head h.not_blank

/-- What is written for a value, in either layout, is read as this value. -/
theorem read_render {style : Style} (hs : style.IsPlain) {v : Value} (hv : v.IsProper) :
    read (v.render style) = .ok v := by
  have hstart := startsValue_render style hv
  have hread := readValue_render hs v hv (2 * (v.render style).length + 2) [] (by omega)
    endsNumber_nil
  rw [List.append_nil] at hread
  have hskip := skipBlanks_startsValue hstart
  obtain ⟨c, more, he, -, -, -, hmark⟩ := hstart
  unfold read
  split
  case h_1 heq =>
    rw [he] at heq
    exact absurd (List.cons.inj heq).1 hmark
  case h_2 =>
    rw [hskip, hread]
    rfl

theorem read_compact {v : Value} (hv : v.IsProper) : read v.compact = .ok v :=
  read_render isPlain_compactStyle hv

theorem read_spaced {v : Value} (hv : v.IsProper) : read v.spaced = .ok v :=
  read_render isPlain_spacedStyle hv

end GeoUrn.Json
