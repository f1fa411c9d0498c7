import GeoUrn.Files.Reading
import Mathlib

/-!
Files read block by block. Decoding is a machine that keeps the bytes of an unfinished character.
Its state carries across the cuts between blocks, so that what is read is the text of the whole
file, or all of it up to the block that has a flaw.
-/
namespace GeoUrn

namespace Text

/-- The bytes of the character that is being read. -/
def held : Option Utf8Pending → Bytes
  | none => []
  | some p => p.sequence

/-- Takes one byte: answers the character that it completes, if it does, and what is then being
read. -/
def step? : Option Utf8Pending → UInt8 → Option (Text × Option Utf8Pending)
  | none, b =>
    match Utf8Lead.ofByte? b with
    | none => none
    | some lead =>
      if lead.following = 0 then some ([.char (Char.ofNat lead.share)], none)
      else some ([], some ⟨lead.share, lead.following, lead.low, lead.high, [b]⟩)
  | some p, b =>
    if p.low ≤ b && b ≤ p.high then
      let value := p.value * 64 + (b.toNat - 0x80)
      if p.missing = 1 then some ([.char (Char.ofNat value)], none)
      else some ([], some ⟨value, p.missing - 1, 0x80, 0xBF, p.sequence ++ [b]⟩)
    else none

def feed? (pending : Option Utf8Pending) : Bytes → Option (Text × Option Utf8Pending)
  | [] => some ([], pending)
  | b :: rest =>
    (step? pending b).bind fun read =>
      (feed? read.2 rest).map fun later => (read.1 ++ later.1, later.2)

theorem feed?_append (pending : Option Utf8Pending) (first second : Bytes) :
    feed? pending (first ++ second) = (feed? pending first).bind fun read =>
      (feed? read.2 second).map fun later => (read.1 ++ later.1, later.2) := by
  induction first generalizing pending with
  | nil => simp [feed?]
  | cons b rest ih =>
    rw [List.cons_append, feed?, feed?]
    cases step? pending b with
    | none => rfl
    | some read =>
      simp only [Option.bind_some, ih, Option.bind_map, Option.map_bind, Function.comp_def,
        Option.map_map, List.append_assoc]

theorem toOption_map {ε α β : Type} (f : α → β) (e : Except ε α) :
    (e.map f).toOption = e.toOption.map f := by
  cases e <;> rfl

/-- Decoding is what the machine does; positions only matter for flaws. -/
theorem toOption_decodeFrom (position : ℕ) (pending : Option Utf8Pending) (bytes : Bytes) :
    (decodeFrom position pending bytes).toOption =
      (feed? pending bytes).map fun read => (read.1, held read.2) := by
  fun_induction decodeFrom position pending bytes with
  | case1 => rfl
  | case2 => rfl
  | case3 position b rest hb => simp [feed?, step?, hb, Except.toOption]
  | case4 position b rest lead hb hf ih =>
    rw [toOption_map, ih]
    simp [feed?, step?, hb, hf, Function.comp_def]
  | case5 position b rest lead hb hf ih =>
    rw [ih]
    simp [feed?, step?, hb, hf]
  | case6 position p b rest hin value hm ih =>
    rw [toOption_map, ih]
    simp only [feed?, step?, hin, if_true, hm]
    simp [Function.comp_def, value]
  | case7 position p b rest hin value hm ih =>
    rw [ih]
    simp only [feed?, step?, hin, if_true, hm, if_false]
    simp [value]
  | case8 position p b rest hin => simp [feed?, step?, hin, Except.toOption]

theorem decodeFrom_eq_ok_iff {position : ℕ} {pending : Option Utf8Pending} {bytes left : Bytes}
    {text : Text} : decodeFrom position pending bytes = .ok (text, left) ↔
      ∃ next, feed? pending bytes = some (text, next) ∧ held next = left := by
  have h := toOption_decodeFrom position pending bytes
  constructor
  · intro hd
    rw [hd, eq_comm] at h
    obtain ⟨⟨found, next⟩, hf, he⟩ := Option.map_eq_some_iff.mp h
    cases he
    exact ⟨next, hf, rfl⟩
  · rintro ⟨next, hf, rfl⟩
    rw [hf] at h
    cases hd : decodeFrom position pending bytes with
    | error flaw =>
      rw [hd] at h
      cases h
    | ok read =>
      rw [hd] at h
      cases h
      rfl

/-- The machine comes to this state by the bytes that it holds. -/
def IsHeld (pending : Option Utf8Pending) : Prop := feed? none (held pending) = some ([], pending)

theorem isHeld_none : IsHeld none := rfl

theorem feed?_singleton (pending : Option Utf8Pending) (b : UInt8) :
    feed? pending [b] = step? pending b := by
  cases h : step? pending b with
  | none => simp [feed?, h]
  | some read => simp [feed?, h]

/-- A step that completes no character adds its byte to those that are held. -/
theorem sequence_of_step? {pending : Option Utf8Pending} {b : UInt8} {text : Text}
    {next : Utf8Pending} (h : step? pending b = some (text, some next)) :
    text = [] ∧ next.sequence = held pending ++ [b] := by
  cases pending with
  | none =>
    simp only [step?] at h
    split at h
    · cases h
    · split_ifs at h
      · cases h
      · cases h
        exact ⟨rfl, rfl⟩
  | some p =>
    simp only [step?] at h
    split_ifs at h
    · cases h
    · obtain ⟨rfl, hnext⟩ := Prod.mk.inj (Option.some.inj h)
      rw [← Option.some.inj hnext]
      exact ⟨rfl, rfl⟩

theorem IsHeld.step {pending next : Option Utf8Pending} (h : IsHeld pending) {b : UInt8}
    {text : Text} (hs : step? pending b = some (text, next)) : IsHeld next := by
  have hfed : feed? none (held pending ++ [b]) = some (text, next) := by
    rw [feed?_append, h, Option.bind_some, feed?_singleton, hs]
    rfl
  cases next with
  | none => exact isHeld_none
  | some q =>
    obtain ⟨rfl, hq⟩ := sequence_of_step? hs
    rw [IsHeld, held, hq, hfed]

theorem IsHeld.feed {pending next : Option Utf8Pending} (h : IsHeld pending) {bytes : Bytes}
    {text : Text} (hf : feed? pending bytes = some (text, next)) : IsHeld next := by
  induction bytes generalizing pending text with
  | nil =>
    cases hf
    exact h
  | cons b rest ih =>
    obtain ⟨⟨first, middle⟩, hs, hrest⟩ := Option.bind_eq_some_iff.mp hf
    obtain ⟨⟨more, last⟩, hmore, he⟩ := Option.map_eq_some_iff.mp hrest
    cases he
    exact ih (h.step hs) hmore

/-- What is held is decoded again with the bytes that follow. -/
theorem IsHeld.feed?_held_append {pending : Option Utf8Pending} (h : IsHeld pending)
    (bytes : Bytes) : feed? none (held pending ++ bytes) = feed? pending bytes := by
  rw [feed?_append, h]
  simp

theorem decodeUtf8_eq_ok_iff {bytes : Bytes} {text : Text} :
    decodeUtf8 bytes = .ok text ↔ feed? none bytes = some (text, none) := by
  constructor
  · intro h
    unfold decodeUtf8 at h
    cases hd : decodeFrom 0 none bytes with
    | error flaw =>
      rw [hd] at h
      cases h
    | ok read =>
      obtain ⟨found, left⟩ := read
      rw [hd] at h
      cases left with
      | nil =>
        cases h
        obtain ⟨next, hfed, hleft⟩ := decodeFrom_eq_ok_iff.mp hd
        have hnext := isHeld_none.feed hfed
        rw [IsHeld, hleft] at hnext
        cases hnext
        exact hfed
      | cons b left => cases h
  · intro h
    rw [decodeUtf8, decodeFrom_eq_ok_iff.mpr ⟨none, h, rfl⟩]
    rfl

/-- Bytes that the machine takes are a text and, at their end, the bytes that it holds. -/
theorem IsHeld.exists_whole {pending next : Option Utf8Pending} (h : IsHeld pending) {bytes : Bytes}
    {text : Text} (hf : feed? pending bytes = some (text, next)) :
    ∃ whole, held pending ++ bytes = whole ++ held next ∧ feed? none whole = some (text, none) := by
  -- The last byte decides: either it ends a character, or it is held with those before it.
  induction bytes using List.reverseRecOn generalizing text next with
  | nil =>
    cases hf
    exact ⟨[], List.append_nil _, rfl⟩
  | append_singleton bytes b ih =>
    cases next with
    | none => exact ⟨_, (List.append_nil _).symm, (h.feed?_held_append _).trans hf⟩
    | some q =>
      rw [feed?_append] at hf
      obtain ⟨⟨first, middle⟩, hfirst, hrest⟩ := Option.bind_eq_some_iff.mp hf
      rw [feed?_singleton] at hrest
      obtain ⟨⟨second, last⟩, hsecond, he⟩ := Option.map_eq_some_iff.mp hrest
      cases he
      obtain ⟨rfl, hq⟩ := sequence_of_step? hsecond
      obtain ⟨whole, hbytes, hwhole⟩ := ih hfirst
      refine ⟨whole, ?_, by rw [hwhole, List.append_nil]⟩
      rw [← List.append_assoc, hbytes, held, hq, List.append_assoc]

theorem error_of_map {ε α β : Type} {f : α → β} {e : Except ε α} {fault : ε}
    (h : e.map f = .error fault) : e = .error fault := by
  cases e with
  | error found =>
    cases h
    rfl
  | ok a => cases h

/-- A flaw is named with the place where the text before it ends. -/
theorem IsHeld.exists_whole_of_error {position : ℕ} {pending : Option Utf8Pending} {bytes : Bytes}
    {flaw : Utf8Flaw} (h : IsHeld pending) (hle : (held pending).length ≤ position)
    (he : decodeFrom position pending bytes = .error flaw) :
    ∃ whole rest text, held pending ++ bytes = whole ++ rest ∧
      flaw.position = position - (held pending).length + whole.length ∧
      feed? none whole = some (text, none) := by
  fun_induction decodeFrom position pending bytes with
  | case1 => cases he
  | case2 => cases he
  | case3 position b rest hb =>
    cases he
    exact ⟨[], _, [], rfl, rfl, rfl⟩
  | case4 position b rest lead hb hf ih =>
    have hs : step? none b = some ([.char (Char.ofNat lead.share)], none) := by simp [step?, hb, hf]
    obtain ⟨whole, left, text, rfl, hposition, hwhole⟩ :=
      ih isHeld_none (Nat.zero_le _) (error_of_map he)
    refine ⟨b :: whole, left, .char (Char.ofNat lead.share) :: text, rfl, ?_,
      by simp [feed?, hs, hwhole]⟩
    simp only [held, List.length_nil, List.length_cons] at hposition ⊢
    omega
  | case5 position b rest lead hb hf ih =>
    have hs : step? none b =
        some ([], some ⟨lead.share, lead.following, lead.low, lead.high, [b]⟩) := by
      simp [step?, hb, hf]
    exact ih (h.step hs) (Nat.le_add_left 1 position) he
  | case6 position p b rest hin value hm ih =>
    have hs : step? (some p) b = some ([.char (Char.ofNat value)], none) := by
      simp only [step?, hin, if_true, hm, value]
    obtain ⟨whole, left, text, rfl, hposition, hwhole⟩ :=
      ih isHeld_none (Nat.zero_le _) (error_of_map he)
    refine ⟨held (some p) ++ b :: whole, left, .char (Char.ofNat value) :: text, by simp, ?_, ?_⟩
    · simp only [held, List.length_nil, List.length_append, List.length_cons] at hle hposition ⊢
      omega
    · rw [h.feed?_held_append, feed?, hs, Option.bind_some, hwhole]
      rfl
  | case7 position p b rest hin value hm ih =>
    have hs : step? (some p) b =
        some ([], some ⟨value, p.missing - 1, 0x80, 0xBF, p.sequence ++ [b]⟩) := by
      simp only [step?, hin, if_true, hm, if_false, value]
    have hlength : (p.sequence ++ [b]).length = p.sequence.length + 1 := List.length_append
    obtain ⟨whole, left, text, hbytes, hposition, hwhole⟩ :=
      ih (h.step hs) (hlength.trans_le (Nat.succ_le_succ hle)) he
    refine ⟨whole, left, text, by simpa [held] using hbytes, ?_, hwhole⟩
    simp only [held, hlength] at hposition ⊢
    omega
  | case8 position p b rest hin =>
    cases he
    exact ⟨[], _, [], rfl, rfl, rfl⟩

theorem not_mem_of_mem_piecesAt {isEnd : CodePoint → Bool} {text piece : Text}
    (h : piece ∈ piecesAt isEnd text) : ∀ c ∈ piece, isEnd c = false := by
  fun_induction piecesAt isEnd text generalizing piece with
  | case1 => cases h
  | case2 c rest hc ih =>
    rcases List.mem_cons.mp h with rfl | hm
    · exact List.forall_mem_nil _
    · exact ih hm
  | case3 c rest hc hnil ih =>
    rw [List.mem_singleton.mp h]
    exact List.forall_mem_singleton.mpr (Bool.eq_false_of_not_eq_true hc)
  | case4 c rest hc first more hcons ih =>
    rw [hcons] at ih
    rcases List.mem_cons.mp h with rfl | hm
    · exact List.forall_mem_cons.mpr ⟨Bool.eq_false_of_not_eq_true hc, ih List.mem_cons_self⟩
    · exact ih (List.mem_cons_of_mem _ hm)

/-- A text that ends with an end is its pieces with their ends. -/
theorem flatMap_piecesAt {e : CodePoint} (text : Text) :
    (piecesAt (· = e) (text ++ [e])).flatMap (· ++ [e]) = text ++ [e] := by
  induction text with
  | nil => simp [piecesAt]
  | cons c rest ih =>
    rw [List.cons_append, piecesAt]
    split_ifs with hc
    · rw [List.flatMap_cons, ih, of_decide_eq_true hc]
      rfl
    · cases hp : piecesAt (· = e) (rest ++ [e]) with
      | nil =>
        rw [hp] at ih
        simp at ih
      | cons piece more =>
        rw [hp] at ih
        simpa using ih

end Text

namespace Reading

open Text

/-- What is wrong with the bytes of a character that the end of a file cuts off. -/
def flawOfEnd (left : Bytes) : Option Utf8Flaw :=
  if left = [] then none else some ⟨0, left, .unexpectedEnd⟩

theorem ofBlocks_nil {pending : Option Utf8Pending} (h : IsHeld pending) :
    ofBlocks (held pending) [] = ⟨[], flawOfEnd (held pending)⟩ := by
  have hd : decodeFrom 0 none (held pending) = .ok ([], held pending) :=
    decodeFrom_eq_ok_iff.mpr ⟨pending, h, rfl⟩
  unfold ofBlocks decodeUtf8
  rw [hd]
  cases held pending with
  | nil => rfl
  | cons b left => simp [flawOfEnd]

/-- Blocks of which all characters but the last are whole are read as the text of them all. -/
theorem ofBlocks_of_feed? {pending last : Option Utf8Pending} (h : IsHeld pending)
    {blocks : List Bytes} {text : Text} (hf : feed? pending blocks.flatten = some (text, last)) :
    ofBlocks (held pending) blocks = ⟨text, flawOfEnd (held last)⟩ := by
  induction blocks generalizing pending text with
  | nil =>
    cases hf
    exact ofBlocks_nil h
  | cons block rest ih =>
    rw [List.flatten_cons, feed?_append] at hf
    obtain ⟨⟨first, middle⟩, hblock, hrest⟩ := Option.bind_eq_some_iff.mp hf
    obtain ⟨⟨more, final⟩, hmore, he⟩ := Option.map_eq_some_iff.mp hrest
    cases he
    have hd : decodeFrom 0 none (held pending ++ block) = .ok (first, held middle) :=
      decodeFrom_eq_ok_iff.mpr ⟨middle, (h.feed?_held_append block).trans hblock, rfl⟩
    rw [ofBlocks, decodeBlock, hd]
    simp only [ih (h.feed hblock) hmore]

theorem surrogate_of_isCutSurrogate {bytes : Bytes} {flaw : Utf8Flaw}
    (h : isCutSurrogate bytes flaw = true) :
    ∃ second, bytes.drop flaw.position = [0xED, second] ∧ 0xA0 ≤ second ∧ second ≤ 0xBF := by
  unfold isCutSurrogate at h
  split at h
  · rename_i first second hdrop
    simp only [Bool.and_eq_true, decide_eq_true_eq] at h
    obtain ⟨⟨rfl, hlow⟩, hhigh⟩ := h
    exact ⟨second, hdrop, hlow, hhigh⟩
  · cases h

theorem decodeFrom_surrogate {second : UInt8} (h : 0xA0 ≤ second) (rest : Bytes) :
    decodeFrom 0 none (0xED :: second :: rest) = .error ⟨0, [0xED], .invalidContinuation⟩ := by
  have hlead : Utf8Lead.ofByte? 0xED = some ⟨0xD, 2, 0x80, 0x9F⟩ := rfl
  have hout : ¬ second ≤ 0x9F := by
    rw [UInt8.le_iff_toNat_le] at h ⊢
    exact Nat.not_le.mpr (Nat.lt_of_lt_of_le (by decide) h)
  rw [decodeFrom, hlead]
  simp only [two_ne_zero, if_false]
  rw [decodeFrom]
  simp [hout]

theorem decodeBlock_surrogate {second : UInt8} (hlow : 0xA0 ≤ second) (hhigh : second ≤ 0xBF) :
    decodeBlock [0xED, second] = .ok ([], [0xED, second]) := by
  have hcut : isCutSurrogate [0xED, second] ⟨0, [0xED], .invalidContinuation⟩ = true := by
    simp [isCutSurrogate, hlow, hhigh]
  rw [decodeBlock, decodeFrom_surrogate hlow]
  simp only [hcut, if_true]
  rfl

/-- A surrogate that was let pass at the end of a block is refused later. -/
theorem flaw_of_surrogate {second : UInt8} (hlow : 0xA0 ≤ second) (hhigh : second ≤ 0xBF)
    (blocks : List Bytes) : (ofBlocks [0xED, second] blocks).flaw ≠ none := by
  induction blocks with
  | nil =>
    rw [ofBlocks, decodeUtf8, decodeFrom_surrogate hlow]
    simp
  | cons block rest ih =>
    cases block with
    | nil =>
      rw [ofBlocks, List.append_nil, decodeBlock_surrogate hlow hhigh]
      exact ih
    | cons third more =>
      rw [ofBlocks, decodeBlock, List.cons_append, List.singleton_append,
        decodeFrom_surrogate hlow]
      simp [isCutSurrogate]

/-- Blocks without a flaw are the UTF-8 form of what is read. -/
theorem feed?_of_flaw_none {pending : Option Utf8Pending} (h : IsHeld pending)
    {blocks : List Bytes} (hn : (ofBlocks (held pending) blocks).flaw = none) :
    ∃ text, feed? pending blocks.flatten = some (text, none) := by
  induction blocks generalizing pending with
  | nil =>
    rw [ofBlocks_nil h] at hn
    have hheld : held pending = [] := by simpa [flawOfEnd] using hn
    rw [IsHeld, hheld] at h
    cases h
    exact ⟨[], rfl⟩
  | cons block rest ih =>
    rw [ofBlocks, decodeBlock] at hn
    cases hd : decodeFrom 0 none (held pending ++ block) with
    | ok read =>
      obtain ⟨first, left⟩ := read
      obtain ⟨middle, hblock, rfl⟩ := decodeFrom_eq_ok_iff.mp hd
      rw [h.feed?_held_append] at hblock
      rw [hd] at hn
      obtain ⟨more, hmore⟩ := ih (h.feed hblock) hn
      refine ⟨first ++ more, ?_⟩
      rw [List.flatten_cons, feed?_append, hblock, Option.bind_some, hmore]
      rfl
    | error flaw =>
      -- Only a surrogate cut off by the block is let pass, and it is refused in the end.
      exfalso
      rw [hd] at hn
      simp only at hn
      split_ifs at hn with hcut
      obtain ⟨second, hdrop, hlow, hhigh⟩ := surrogate_of_isCutSurrogate hcut
      rw [hdrop] at hn
      cases ht : decodeFrom 0 none ((held pending ++ block).take flaw.position) with
      | error other =>
        rw [ht] at hn
        cases hn
      | ok read =>
        rw [ht] at hn
        exact flaw_of_surrogate hlow hhigh rest hn

/-- The bytes of a file without a byte-order mark; a file that ends inside its mark has none. -/
def contents (bytes : Bytes) : Bytes :=
  if bytes <+: byteOrderMark then [] else withoutMark bytes

theorem withoutMark_take_append (bytes : Bytes) :
    withoutMark (bytes.take Bytes.readSize) ++ bytes.drop Bytes.readSize = withoutMark bytes := by
  have hsize : byteOrderMark.length ≤ Bytes.readSize := by decide
  simp only [withoutMark, List.isPrefixOf_iff_prefix, List.prefix_take_iff, hsize, and_true]
  split_ifs with h
  · have hlength : byteOrderMark.length ≤ (bytes.take Bytes.readSize).length := by
      rw [List.length_take]
      exact le_min hsize h.length_le
    rw [← List.drop_append_of_le_length hlength, List.take_append_drop]
  · exact List.take_append_drop _ _

/-- The bytes of each read of a file, without its byte-order mark. -/
def reads (bytes : Bytes) : List Bytes :=
  withoutMark (bytes.take Bytes.readSize) ::
    Bytes.blocks Bytes.readSize (bytes.drop Bytes.readSize)

theorem flatten_reads (bytes : Bytes) : (reads bytes).flatten = withoutMark bytes := by
  rw [reads, List.flatten_cons, Bytes.flatten_blocks _ (by decide), withoutMark_take_append]

theorem ofBytes_eq {bytes : Bytes} (h : ¬ bytes <+: byteOrderMark) :
    ofBytes bytes = ofBlocks [] (reads bytes) := by
  have hne : bytes ≠ [] := by
    rintro rfl
    exact h List.nil_prefix
  rw [ofBytes, Bytes.blocks_of_ne_nil (by decide) hne]
  simp [h, reads]

/-- A file is read as its text, up to a character that its end cuts off. -/
theorem ofBytes_of_decodeFrom {bytes left : Bytes} {text : Text}
    (h : decodeFrom 0 none (contents bytes) = .ok (text, left)) :
    ofBytes bytes = ⟨text, flawOfEnd left⟩ := by
  unfold contents at h
  split_ifs at h with hmark
  · cases h
    rw [ofBytes, if_pos (List.isPrefixOf_iff_prefix.mpr hmark)]
    rfl
  · obtain ⟨last, hfed, rfl⟩ := decodeFrom_eq_ok_iff.mp h
    rw [← flatten_reads] at hfed
    rw [ofBytes_eq hmark]
    exact ofBlocks_of_feed? isHeld_none hfed

/-- A file is read without a flaw just if it is the UTF-8 form of a text, and then as this text. -/
theorem ofBytes_eq_iff {bytes : Bytes} {text : Text} :
    ofBytes bytes = ⟨text, none⟩ ↔ decodeUtf8 (contents bytes) = .ok text := by
  constructor
  · intro h
    by_cases hmark : bytes <+: byteOrderMark
    · rw [ofBytes, if_pos (List.isPrefixOf_iff_prefix.mpr hmark)] at h
      cases h
      rw [contents, if_pos hmark]
      rfl
    · have hflaw := congrArg Reading.flaw h
      rw [ofBytes_eq hmark] at hflaw
      obtain ⟨found, hfed⟩ := feed?_of_flaw_none isHeld_none hflaw
      have hread := ofBlocks_of_feed? isHeld_none hfed
      rw [ofBytes_eq hmark, show ([] : Bytes) = held none from rfl, hread] at h
      cases h
      rw [contents, if_neg hmark, ← flatten_reads]
      exact decodeUtf8_eq_ok_iff.mpr hfed
  · intro h
    exact ofBytes_of_decodeFrom
      (decodeFrom_eq_ok_iff.mpr ⟨none, decodeUtf8_eq_ok_iff.mp h, rfl⟩)

/-- If the first block has a flaw, no line is read. -/
theorem lines_of_first_block {bytes : Bytes} (hmark : ¬ bytes <+: byteOrderMark)
    {flaw : Utf8Flaw}
    (h : decodeBlock (withoutMark (bytes.take Bytes.readSize)) = .error flaw) :
    (ofBytes bytes).flaw = some flaw ∧ (ofBytes bytes).lines = [] := by
  rw [ofBytes_eq hmark, reads, ofBlocks, List.nil_append, h]
  exact ⟨rfl, rfl⟩

/-- A block is a text and, at its end, what it holds back. -/
theorem exists_whole_of_decodeBlock {bytes left : Bytes} {text : Text}
    (h : decodeBlock bytes = .ok (text, left)) :
    ∃ whole, bytes = whole ++ left ∧ decodeUtf8 whole = .ok text ∧
      decodeBlock left = .ok ([], left) := by
  unfold decodeBlock at h
  cases hd : decodeFrom 0 none bytes with
  | ok read =>
    rw [hd] at h
    cases h
    obtain ⟨next, hfed, rfl⟩ := decodeFrom_eq_ok_iff.mp hd
    obtain ⟨whole, hbytes, hwhole⟩ := isHeld_none.exists_whole hfed
    refine ⟨whole, hbytes, decodeUtf8_eq_ok_iff.mpr hwhole, ?_⟩
    rw [decodeBlock, decodeFrom_eq_ok_iff.mpr ⟨next, isHeld_none.feed hfed, rfl⟩]
  | error flaw =>
    obtain ⟨whole, rest, found, hbytes, hposition, hwhole⟩ :=
      isHeld_none.exists_whole_of_error (Nat.zero_le 0) hd
    obtain rfl : bytes = whole ++ rest := hbytes
    have hlength : flaw.position = whole.length := by simpa [held] using hposition
    rw [hd] at h
    simp only at h
    split_ifs at h with hcut
    rw [hlength, List.take_left, List.drop_left,
      decodeFrom_eq_ok_iff.mpr ⟨none, hwhole, rfl⟩] at h
    cases h
    obtain ⟨second, hrest, hlow, hhigh⟩ := surrogate_of_isCutSurrogate hcut
    rw [hlength, List.drop_left] at hrest
    subst hrest
    exact ⟨whole, rfl, decodeUtf8_eq_ok_iff.mpr hwhole, decodeBlock_surrogate hlow hhigh⟩

/-- What the bytes held back come upon: a block with a flaw, or the end of the file. -/
def Refuses (left : Bytes) (next : List Bytes) (flaw : Utf8Flaw) : Prop :=
  match next with
  | [] => decodeUtf8 left = .error flaw
  | block :: _ => decodeBlock (left ++ block) = .error flaw

/-- Before a flaw, the text of all earlier blocks is read, but for the bytes that the last of them
holds back. -/
theorem ofBlocks_of_flaw {waiting : Bytes} (hw : decodeBlock waiting = .ok ([], waiting))
    {blocks : List Bytes} {flaw : Utf8Flaw} (h : (ofBlocks waiting blocks).flaw = some flaw) :
    ∃ before next whole left, blocks = before ++ next ∧
      waiting ++ before.flatten = whole ++ left ∧
      decodeUtf8 whole = .ok (ofBlocks waiting blocks).text ∧
      decodeBlock left = .ok ([], left) ∧ Refuses left next flaw := by
  -- What one block holds back stands before the next, so the bytes that wait vary.
  induction blocks generalizing waiting with
  | nil =>
    refine ⟨[], [], [], waiting, rfl, List.append_nil _, ?_, hw, ?_⟩
    · rw [ofBlocks] at h ⊢
      cases hd : decodeUtf8 waiting with
      | error found => rfl
      | ok text => simp [hd] at h
    · rw [ofBlocks] at h
      cases hd : decodeUtf8 waiting with
      | error found => simpa [Refuses, hd] using h
      | ok text => simp [hd] at h
  | cons block rest ih =>
    rw [ofBlocks] at h ⊢
    cases hd : decodeBlock (waiting ++ block) with
    | error found =>
      refine ⟨[], block :: rest, [], waiting, rfl, List.append_nil _, rfl, hw, ?_⟩
      simpa [Refuses, hd] using h
    | ok read =>
      obtain ⟨text, left⟩ := read
      rw [hd] at h
      obtain ⟨first, hfirst, htext, hleft⟩ := exists_whole_of_decodeBlock hd
      obtain ⟨before, next, whole, last, rfl, hflatten, hwhole, hlast, hrefuses⟩ := ih hleft h
      refine ⟨block :: before, next, first ++ whole, last, rfl, ?_, ?_, hlast, hrefuses⟩
      · rw [List.flatten_cons, ← List.append_assoc, hfirst, List.append_assoc, hflatten,
          List.append_assoc]
      · rw [decodeUtf8_eq_ok_iff] at htext hwhole ⊢
        rw [feed?_append, htext, Option.bind_some, hwhole]
        rfl

/-- The lines before a flaw are those whose ends were read. -/
theorem flatMap_lines_append {reading : Reading} (h : reading.flaw ≠ none) :
    ∃ rest, reading.lines.flatMap (· ++ [.char '\n']) ++ rest =
        unifyLineEnds (withoutOpenReturn reading.text) ∧
      CodePoint.char '\n' ∉ rest ∧ ∀ line ∈ reading.lines, CodePoint.char '\n' ∉ line := by
  obtain ⟨flaw, hflaw⟩ := Option.ne_none_iff_exists'.mp h
  obtain ⟨unified, hunified⟩ : ∃ t, t = unifyLineEnds (withoutOpenReturn reading.text) := ⟨_, rfl⟩
  have hlines : reading.lines =
      piecesAt (· = '\n') (unified.reverse.dropWhile (· ≠ CodePoint.char '\n')).reverse := by
    rw [lines, hflaw, hunified]
  refine ⟨(unified.reverse.takeWhile (· ≠ CodePoint.char '\n')).reverse, ?_, ?_, ?_⟩
  · have hended : reading.lines.flatMap (· ++ [.char '\n']) =
        (unified.reverse.dropWhile (· ≠ CodePoint.char '\n')).reverse := by
      rw [hlines]
      cases hd : unified.reverse.dropWhile (· ≠ CodePoint.char '\n') with
      | nil => rfl
      | cons c before =>
        have hc := List.head?_dropWhile_not (· ≠ CodePoint.char '\n') unified.reverse
        simp only [hd, List.head?_cons] at hc
        obtain rfl : c = '\n' := by simpa using hc
        rw [List.reverse_cons, flatMap_piecesAt]
    rw [hended, ← List.reverse_append, List.takeWhile_append_dropWhile, List.reverse_reverse,
      hunified]
  · intro hmem
    have hne := List.mem_takeWhile_imp (List.mem_reverse.mp hmem)
    simp at hne
  · intro line hline hmem
    rw [hlines] at hline
    simpa using not_mem_of_mem_piecesAt hline _ hmem

/-- How reading comes upon a flaw. The blocks before it are a text, but for the bytes that the last
of them holds back, and with what is read next these are none. -/
structure StopsAt (reading : Reading) (bytes : Bytes) (flaw : Utf8Flaw) : Prop where
  blocks : ∃ before next whole left, reads bytes = before ++ next ∧
    before.flatten = whole ++ left ∧ decodeUtf8 whole = .ok reading.text ∧
    decodeBlock left = .ok ([], left) ∧ Refuses left next flaw
  lines : ∃ rest, reading.lines.flatMap (· ++ [.char '\n']) ++ rest =
    unifyLineEnds (withoutOpenReturn reading.text) ∧
    CodePoint.char '\n' ∉ rest ∧ ∀ line ∈ reading.lines, CodePoint.char '\n' ∉ line

theorem ofBytes_stopsAt {bytes : Bytes} {flaw : Utf8Flaw} (h : (ofBytes bytes).flaw = some flaw) :
    (ofBytes bytes).StopsAt bytes flaw where
  blocks := by
    have hmark : ¬ bytes <+: byteOrderMark := by
      intro hm
      rw [ofBytes, if_pos (List.isPrefixOf_iff_prefix.mpr hm)] at h
      cases h
    rw [ofBytes_eq hmark] at h ⊢
    exact ofBlocks_of_flaw rfl h
  lines := flatMap_lines_append (by simp [h])

end Reading

end GeoUrn
