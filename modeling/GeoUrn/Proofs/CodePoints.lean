import GeoUrn.Text.Utf8
import Mathlib

/-!
Code points by their numbers, and the texts without surrogates. These are what a stream of UTF-8
takes as a whole.
-/
namespace GeoUrn

namespace CodePoint

@[simp] theorem toNat_char (c : Char) : (char c).toNat = c.toNat := rfl

@[simp] theorem isSurrogate_char (c : Char) : (char c).isSurrogate = false := rfl

theorem isSurrogate_iff (c : CodePoint) : c.isSurrogate ↔ 0xD800 ≤ c.toNat ∧ c.toNat < 0xE000 := by
  cases c with
  | char c =>
    have hvalid : c.toNat < 0xD800 ∨ (0xDFFF < c.toNat ∧ c.toNat < 0x110000) := c.valid
    exact iff_of_false Bool.false_ne_true (by rw [toNat_char]; omega)
  | surrogate half =>
    have := half.isLt
    exact iff_of_true rfl (by simp only [toNat]; omega)

theorem ofNat_toNat (c : CodePoint) : ofNat c.toNat = c := by
  have hs := isSurrogate_iff c
  unfold ofNat
  cases c with
  | char c =>
    rw [dif_neg fun h => Bool.false_ne_true (hs.mpr h), toNat_char, Char.ofNat_toNat]
  | surrogate half =>
    rw [dif_pos (hs.mp rfl)]
    simp [toNat]

theorem toNat_inj {a b : CodePoint} : a.toNat = b.toNat ↔ a = b :=
  ⟨fun h => by rw [← ofNat_toNat a, h, ofNat_toNat], congrArg toNat⟩

theorem toNat_ofNat {n : ℕ} (h : n < 0x110000) : (ofNat n).toNat = n := by
  unfold ofNat
  split_ifs with hs
  · simp only [toNat]
    omega
  · have hvalid : n.isValidChar := by
      simp only [Nat.isValidChar]
      omega
    rw [toNat_char, Char.ofNat, dif_pos hvalid]
    rfl

theorem toNat_lt (c : CodePoint) : c.toNat < 0x110000 := by
  cases c with
  | char c =>
    have hvalid : c.toNat < 0xD800 ∨ (0xDFFF < c.toNat ∧ c.toNat < 0x110000) := c.valid
    rw [toNat_char]
    omega
  | surrogate half =>
    have := half.isLt
    simp only [toNat]
    omega

theorem le_iff {a b : CodePoint} : a ≤ b ↔ a.toNat ≤ b.toNat := Iff.rfl

instance : LinearOrder CodePoint where
  le_refl _ := Nat.le_refl _
  le_trans _ _ _ := Nat.le_trans
  lt_iff_le_not_ge a b := lt_iff_le_not_ge (a := a.toNat) (b := b.toNat)
  le_antisymm _ _ h h' := toNat_inj.mp (Nat.le_antisymm h h')
  le_total a b := Nat.le_total a.toNat b.toNat
  toDecidableLE := inferInstance
  toDecidableEq := inferInstance
  toDecidableLT := inferInstance

/-- The lower-case form of an ASCII letter; any other code point is its own. -/
def toLower : CodePoint → CodePoint
  | char c => c.toLower
  | surrogate half => surrogate half

def isAlpha : CodePoint → Bool
  | char c => c.isAlpha
  | surrogate _ => false

end CodePoint

namespace Text

@[simp] theorem ofChars_nil : ofChars [] = [] := rfl

@[simp] theorem ofChars_cons (c : Char) (chars : Chars) :
    ofChars (c :: chars) = CodePoint.char c :: ofChars chars := rfl

@[simp] theorem ofChars_append (x y : Chars) : ofChars (x ++ y) = ofChars x ++ ofChars y :=
  List.map_append

theorem ofChars_injective : Function.Injective ofChars :=
  List.map_injective_iff.mpr fun _ _ h => CodePoint.char.inj h

@[simp] theorem ofChars_inj {x y : Chars} : ofChars x = ofChars y ↔ x = y :=
  ofChars_injective.eq_iff

@[simp] theorem ofChars_eq_nil_iff {chars : Chars} : ofChars chars = [] ↔ chars = [] :=
  List.map_eq_nil_iff

@[simp] theorem length_ofChars (chars : Chars) : (ofChars chars).length = chars.length :=
  List.length_map _

theorem mem_ofChars {c : CodePoint} {chars : Chars} :
    c ∈ ofChars chars ↔ ∃ a ∈ chars, CodePoint.char a = c :=
  List.mem_map

@[simp] theorem char_mem_ofChars {c : Char} {chars : Chars} :
    CodePoint.char c ∈ ofChars chars ↔ c ∈ chars := by
  simp [mem_ofChars]

/-- A text without surrogates. -/
def Encodable (text : Text) : Prop := ∀ c ∈ text, c.isSurrogate = false

instance (text : Text) : Decidable (Encodable text) := List.decidableBAll _ text

@[simp] theorem encodable_nil : Encodable [] := List.forall_mem_nil _

@[simp] theorem encodable_cons {c : CodePoint} {text : Text} :
    Encodable (c :: text) ↔ c.isSurrogate = false ∧ Encodable text :=
  List.forall_mem_cons

@[simp] theorem encodable_append {x y : Text} : Encodable (x ++ y) ↔ Encodable x ∧ Encodable y :=
  List.forall_mem_append

@[simp] theorem encodable_ofChars (chars : Chars) : Encodable (ofChars chars) := by
  intro c hc
  obtain ⟨a, -, rfl⟩ := mem_ofChars.mp hc
  rfl

theorem Encodable.mono {x y : Text} (hy : Encodable y) (h : ∀ c ∈ x, c ∈ y) : Encodable x :=
  fun c hc => hy c (h c hc)

theorem encodable_flatten {texts : List Text} :
    Encodable texts.flatten ↔ ∀ text ∈ texts, Encodable text := by
  simp only [Encodable, List.mem_flatten]
  exact ⟨fun h text ht c hc => h c ⟨text, ht, hc⟩, fun h c ⟨text, ht, hc⟩ => h text ht c hc⟩

theorem encodable_flatMap {α : Type} {f : α → Text} {items : List α} :
    Encodable (items.flatMap f) ↔ ∀ a ∈ items, Encodable (f a) := by
  rw [List.flatMap_def, encodable_flatten, List.forall_mem_map]

theorem exists_ofChars {text : Text} (h : Encodable text) : ∃ chars, text = ofChars chars := by
  induction text with
  | nil => exact ⟨[], rfl⟩
  | cons c rest ih =>
    obtain ⟨hc, hrest⟩ := encodable_cons.mp h
    obtain ⟨chars, rfl⟩ := ih hrest
    cases c with
    | char a => exact ⟨a :: chars, rfl⟩
    | surrogate half => cases hc

theorem surrogates?_eq_none_iff {text : Text} : surrogates? text = none ↔ Encodable text := by
  unfold surrogates?
  cases h : text.span fun c => !c.isSurrogate with
  | mk before after =>
    rw [List.span_eq_takeWhile_dropWhile] at h
    obtain ⟨-, rfl⟩ := Prod.mk.inj h
    have hnil : (text.dropWhile fun c => !c.isSurrogate) = [] ↔ Encodable text := by
      simp [List.dropWhile_eq_nil_iff, Encodable]
    cases hd : text.dropWhile fun c => !c.isSurrogate with
    | nil => simpa [hd] using hnil.mp hd
    | cons c rest => simpa [hd] using hnil

/-- What a stream takes has no surrogates. It is the beginning of all that it is given, and the
whole of it exactly if no piece has surrogates. -/
theorem encodable_taken (pieces : List Text) : Encodable (taken pieces).1 := by
  induction pieces with
  | nil => exact encodable_nil
  | cons piece rest ih =>
    rw [taken]
    cases hs : surrogates? piece with
    | some flaw => exact encodable_nil
    | none => exact encodable_append.mpr ⟨surrogates?_eq_none_iff.mp hs, ih⟩

theorem taken_prefix (pieces : List Text) : (taken pieces).1 <+: pieces.flatten := by
  induction pieces with
  | nil => exact List.nil_prefix
  | cons piece rest ih =>
    rw [taken, List.flatten_cons]
    cases hs : surrogates? piece with
    | some flaw => exact List.nil_prefix
    | none => exact (List.prefix_append_right_inj piece).mpr ih

theorem taken_eq_none_iff {pieces : List Text} :
    (taken pieces).2 = none ↔ ∀ piece ∈ pieces, Encodable piece := by
  induction pieces with
  | nil => simp [taken]
  | cons piece rest ih =>
    rw [taken, List.forall_mem_cons, ← ih, ← surrogates?_eq_none_iff]
    cases hs : surrogates? piece <;> simp

theorem taken_of_encodable {pieces : List Text} (h : Encodable pieces.flatten) :
    taken pieces = (pieces.flatten, none) := by
  induction pieces with
  | nil => rfl
  | cons piece rest ih =>
    rw [List.flatten_cons, encodable_append] at h
    rw [taken, surrogates?_eq_none_iff.mpr h.1, ih h.2]
    rfl

end Text

end GeoUrn
