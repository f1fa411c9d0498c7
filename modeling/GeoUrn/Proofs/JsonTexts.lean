import GeoUrn.Proofs.JsonRoundTrip

/-!
What the JSON text of a value is made of. It has no control characters; it has surrogates exactly if
a text in the value has some; and the pieces that are handed to a stream make it up in their order.
-/
namespace GeoUrn.Json
open Decimal Text
open CodePoint (char)

def IsAscii (text : Text) : Prop := ∀ c ∈ text, 0x20 ≤ c.toNat ∧ c.toNat < 0x80

instance (text : Text) : Decidable (IsAscii text) :=
  decidable_of_iff (text.all fun c => 0x20 ≤ c.toNat && c.toNat < 0x80) (by
    simp [IsAscii, List.all_eq_true])

theorem isAscii_nil : IsAscii [] := List.forall_mem_nil _

theorem isAscii_append {s t : Text} : IsAscii (s ++ t) ↔ IsAscii s ∧ IsAscii t :=
  List.forall_mem_append

theorem isAscii_cons {c : CodePoint} {t : Text} :
    IsAscii (c :: t) ↔ (0x20 ≤ c.toNat ∧ c.toNat < 0x80) ∧ IsAscii t := List.forall_mem_cons

theorem IsAscii.of_subset {s t : Text} (h : IsAscii t) (hs : s ⊆ t) : IsAscii s :=
  fun c hc => h c (hs hc)

theorem IsAscii.encodable {t : Text} (h : IsAscii t) : Encodable t := by
  intro c hc
  have hlt := (h c hc).2
  rw [← Bool.not_eq_true, CodePoint.isSurrogate_iff]
  omega

theorem isAscii_digits {ds : Text} (h : ∀ c ∈ ds, isDigit c) : IsAscii ds := by
  intro c hc
  have hd := h c hc
  simp only [isDigit, Bool.and_eq_true, decide_eq_true_eq, CodePoint.le_iff] at hd
  exact ⟨le_trans (by decide) hd.1, lt_of_le_of_lt hd.2 (by decide)⟩

theorem isAscii_ofNat (n : ℕ) : IsAscii (ofNat n) := isAscii_digits (isDigit_of_mem_ofNat n)

theorem isAscii_zeros (k : ℕ) : IsAscii (List.replicate k (char '0')) := by
  intro c hc
  rw [List.eq_of_mem_replicate hc]
  decide

theorem isAscii_positional {ds : Text} (h : IsAscii ds) (whole : ℤ) :
    IsAscii (positional ds whole) := by
  have hfront : IsAscii [char '0', char '.'] := by decide
  have hback : IsAscii [char '.', char '0'] := by decide
  unfold positional
  split_ifs
  · exact isAscii_append.mpr ⟨isAscii_append.mpr ⟨hfront, isAscii_zeros _⟩, h⟩
  · exact isAscii_append.mpr ⟨isAscii_append.mpr ⟨h, isAscii_zeros _⟩, hback⟩
  · exact isAscii_append.mpr ⟨h.of_subset (List.take_subset _ _),
      isAscii_cons.mpr ⟨by decide, h.of_subset (List.drop_subset _ _)⟩⟩

theorem isAscii_scientific {ds : Text} (h : IsAscii ds) (width : ℕ) (place : ℤ) :
    IsAscii (scientific width ds place) := by
  have hpower := isAscii_digits (isDigit_of_mem_padded width place.natAbs)
  have hsign : IsAscii [if place < 0 then char '-' else char '+'] := by
    split_ifs <;> decide
  have hfraction : IsAscii (if ds.length ≤ 1 then [] else char '.' :: ds.drop 1) := by
    split_ifs
    · exact isAscii_nil
    · exact isAscii_cons.mpr ⟨by decide, h.of_subset (List.drop_subset _ _)⟩
  unfold scientific
  simp only [isAscii_append, isAscii_cons] at hsign ⊢
  exact ⟨⟨h.of_subset (List.take_subset _ _), hfraction⟩, by decide, hsign.1, hpower⟩

theorem isAscii_number (n : Number) : IsAscii n.render := by
  cases n with
  | whole n =>
    rw [Number.render, ofInt]
    split_ifs
    · exact isAscii_cons.mpr ⟨by decide, isAscii_ofNat _⟩
    · exact isAscii_ofNat _
  | float x =>
    have hsign : ∀ negative : Bool, IsAscii (if negative then [char '-'] else []) := by
      decide
    cases x with
    | undefined => decide
    | infinite negative =>
      have hword : IsAscii numberSpelling.infinity := by decide
      exact isAscii_append.mpr ⟨hsign negative, hword⟩
    | finite negative mantissa exponent =>
      refine isAscii_append.mpr ⟨hsign negative, ?_⟩
      split_ifs
      · decide
      · unfold Numeral.render
        simp only
        split_ifs
        · exact isAscii_positional (isAscii_ofNat _) _
        · exact isAscii_scientific (isAscii_ofNat _) _ _

/-- A code point is written in ASCII, or as it is. -/
theorem escaped_cases (c : CodePoint) :
    (IsAscii (escaped c) ∧ c.toNat < 0x80) ∨ (escaped c = [c] ∧ 0x20 ≤ c.toNat) := by
  unfold escaped
  split_ifs with h1 h2 h3 h4 h5 h6 h7 h8
  case neg => exact Or.inr ⟨rfl, by omega⟩
  · exact Or.inl ⟨by decide, by rw [h1]; decide⟩
  · exact Or.inl ⟨by decide, by rw [h2]; decide⟩
  · exact Or.inl ⟨by decide, by rw [h3]; decide⟩
  · exact Or.inl ⟨by decide, by rw [h4]; decide⟩
  · exact Or.inl ⟨by decide, by rw [h5]; decide⟩
  · exact Or.inl ⟨by decide, by rw [h6]; decide⟩
  · exact Or.inl ⟨by decide, by rw [h7]; decide⟩
  · left
    have hdigit : ∀ d < 16, 0x20 ≤ (digitChar d).toNat ∧ (digitChar d).toNat < 0x80 := by decide
    rw [hex_four (by omega)]
    simp only [isAscii_cons]
    exact ⟨⟨by decide, by decide, by decide, by decide, hdigit _ (by omega), hdigit _ (by omega),
      isAscii_nil⟩, by omega⟩

def IsPlainText (text : Text) : Prop := ∀ c ∈ text, 0x20 ≤ c.toNat

instance (text : Text) : Decidable (IsPlainText text) :=
  decidable_of_iff (text.all fun c => 0x20 ≤ c.toNat) (by simp [IsPlainText, List.all_eq_true])

theorem isPlainText_append {s t : Text} : IsPlainText (s ++ t) ↔ IsPlainText s ∧ IsPlainText t :=
  List.forall_mem_append

theorem isPlainText_cons {c : CodePoint} {t : Text} :
    IsPlainText (c :: t) ↔ 0x20 ≤ c.toNat ∧ IsPlainText t := List.forall_mem_cons

theorem isPlainText_nil : IsPlainText [] := List.forall_mem_nil _

theorem IsPlainText.not_mem {t : Text} (h : IsPlainText t) {c : CodePoint} (hc : c.toNat < 0x20) :
    c ∉ t := fun hm => absurd (h c hm) (not_le_of_gt hc)

theorem IsAscii.isPlainText {t : Text} (h : IsAscii t) : IsPlainText t := fun c hc => (h c hc).1

theorem isPlainText_renderString (t : Text) : IsPlainText (renderString t) := by
  have hbody : IsPlainText (t.flatMap escaped) := by
    intro c hc
    obtain ⟨d, -, hd⟩ := List.mem_flatMap.mp hc
    rcases escaped_cases d with ⟨hascii, -⟩ | ⟨he, hle⟩
    · exact hascii.isPlainText c hd
    · rw [he, List.mem_singleton] at hd
      rwa [hd]
  simp only [renderString, List.cons_append, isPlainText_cons, isPlainText_append]
  exact ⟨by decide, hbody, by decide, isPlainText_nil⟩

theorem encodable_renderString {t : Text} : Encodable (renderString t) ↔ Encodable t := by
  have hbody : Encodable (t.flatMap escaped) ↔ Encodable t := by
    rw [encodable_flatMap]
    refine forall₂_congr fun c _ => ?_
    rcases escaped_cases c with ⟨hascii, hlt⟩ | ⟨he, -⟩
    · refine iff_of_true hascii.encodable ?_
      rw [← Bool.not_eq_true, CodePoint.isSurrogate_iff]
      omega
    · simp [he]
  simp [renderString, hbody]

def Style.IsOneLine (style : Style) : Prop := IsPlainText style.comma ∧ IsPlainText style.colon

instance (style : Style) : Decidable style.IsOneLine := inferInstanceAs (Decidable (_ ∧ _))

mutual

theorem isPlainText_render {style : Style} (hs : style.IsOneLine) :
    ∀ v : Value, IsPlainText (v.render style)
  | .null => by
    rw [Value.render]
    decide
  | .bool true => by
    rw [Value.render]
    decide
  | .bool false => by
    rw [Value.render]
    decide
  | .number n => (isAscii_number n).isPlainText
  | .text t => isPlainText_renderString t
  | .array elements => by
    simp only [Value.render, List.cons_append, isPlainText_cons, isPlainText_append]
    exact ⟨by decide, isPlainText_renderElements hs elements, by decide, isPlainText_nil⟩
  | .object members => by
    simp only [Value.render, List.cons_append, isPlainText_cons, isPlainText_append]
    exact ⟨by decide, isPlainText_renderMembers hs members, by decide, isPlainText_nil⟩

theorem isPlainText_renderElements {style : Style} (hs : style.IsOneLine) :
    ∀ vs : List Value, IsPlainText (Value.renderElements style vs)
  | [] => isPlainText_nil
  | [v] => isPlainText_render hs v
  | v :: w :: ws => by
    rw [Value.renderElements, isPlainText_append, isPlainText_append]
    · exact ⟨⟨isPlainText_render hs v, hs.1⟩, isPlainText_renderElements hs (w :: ws)⟩
    · simp

theorem isPlainText_renderMembers {style : Style} (hs : style.IsOneLine) :
    ∀ ms : List (Text × Value), IsPlainText (Value.renderMembers style ms)
  | [] => isPlainText_nil
  | [(name, v)] => by
    rw [Value.renderMembers, isPlainText_append, isPlainText_append]
    exact ⟨⟨isPlainText_renderString name, hs.2⟩, isPlainText_render hs v⟩
  | (name, v) :: (next, w) :: ms => by
    rw [Value.renderMembers, isPlainText_append, isPlainText_append, isPlainText_append,
      isPlainText_append]
    · exact ⟨⟨⟨⟨isPlainText_renderString name, hs.2⟩, isPlainText_render hs v⟩, hs.1⟩,
        isPlainText_renderMembers hs ((next, w) :: ms)⟩
    · simp

end

theorem isPlainText_compact (v : Value) : IsPlainText v.compact := isPlainText_render (by decide) v

theorem isPlainText_spaced (v : Value) : IsPlainText v.spaced := isPlainText_render (by decide) v

namespace Value

mutual

def strings : Value → List Text
  | .text t => [t]
  | .array elements => elementStrings elements
  | .object members => memberStrings members
  | _ => []

def elementStrings : List Value → List Text
  | [] => []
  | v :: rest => strings v ++ elementStrings rest

def memberStrings : List (Text × Value) → List Text
  | [] => []
  | (name, v) :: rest => name :: strings v ++ memberStrings rest

end

/-- All texts in a value can be encoded. -/
def Encodable (v : Value) : Prop := ∀ t ∈ v.strings, Text.Encodable t

instance (v : Value) : Decidable v.Encodable := List.decidableBAll _ v.strings

@[simp] theorem encodable_null : Encodable .null := List.forall_mem_nil _

@[simp] theorem encodable_bool (b : Bool) : Encodable (.bool b) := List.forall_mem_nil _

@[simp] theorem encodable_number (n : Number) : Encodable (.number n) := List.forall_mem_nil _

@[simp] theorem encodable_ofInt (n : ℤ) : Encodable (ofInt n) := List.forall_mem_nil _

@[simp] theorem encodable_text {t : Text} : Encodable (.text t) ↔ Text.Encodable t :=
  List.forall_mem_singleton

@[simp] theorem encodable_object_nil : Encodable (.object []) := List.forall_mem_nil _

@[simp] theorem encodable_object_cons {name : Text} {v : Value} {members : Members} :
    Encodable (.object ((name, v) :: members)) ↔
      Text.Encodable name ∧ v.Encodable ∧ Encodable (.object members) := by
  simp [Encodable, strings, memberStrings, or_imp, forall_and]

theorem encodable_object_append {first second : Members} :
    Encodable (.object (first ++ second)) ↔
      Encodable (.object first) ∧ Encodable (.object second) := by
  induction first with
  | nil => simp
  | cons member first ih =>
    obtain ⟨name, v⟩ := member
    simp [ih, and_assoc]

@[simp] theorem encodable_texts {ts : List Text} :
    (texts ts).Encodable ↔ ∀ t ∈ ts, Text.Encodable t := by
  have hstrings : elementStrings (ts.map .text) = ts := by
    induction ts with
    | nil => rfl
    | cons t ts ih => rw [List.map_cons, elementStrings, ih, strings, List.singleton_append]
  rw [texts, Encodable, strings, hstrings]

@[simp] theorem encodable_ofOption {α : Type} {toValue : α → Value} {o : Option α} :
    (ofOption toValue o).Encodable ↔ ∀ a ∈ o, (toValue a).Encodable := by
  cases o <;> simp [ofOption]

end Value

mutual

theorem encodable_render {style : Style} (hs : Encodable style.comma ∧ Encodable style.colon) :
    ∀ v : Value, Encodable (v.render style) ↔ v.Encodable
  | .null => by simp [Value.render, Value.Encodable, Value.strings]
  | .bool true => by simp [Value.render, Value.Encodable, Value.strings]
  | .bool false => by simp [Value.render, Value.Encodable, Value.strings]
  | .number n => by
    simp [Value.render, Value.Encodable, Value.strings, (isAscii_number n).encodable]
  | .text t => by simp [Value.render, Value.Encodable, Value.strings, encodable_renderString]
  | .array elements => by
    simp [Value.render, Value.Encodable, Value.strings, encodable_renderElements hs elements]
  | .object members => by
    simp [Value.render, Value.Encodable, Value.strings, encodable_renderMembers hs members]

theorem encodable_renderElements {style : Style}
    (hs : Encodable style.comma ∧ Encodable style.colon) :
    ∀ vs : List Value, Encodable (Value.renderElements style vs) ↔
      ∀ t ∈ Value.elementStrings vs, Encodable t
  | [] => by simp [Value.renderElements, Value.elementStrings]
  | [v] => by
    have hv := encodable_render hs v
    simpa [Value.renderElements, Value.elementStrings, Value.Encodable] using hv
  | v :: w :: ws => by
    have hv := encodable_render hs v
    have hws := encodable_renderElements hs (w :: ws)
    rw [Value.renderElements, Value.elementStrings, List.forall_mem_append, ← hws]
    · simp [hs.1, hv, Value.Encodable]
    · simp

theorem encodable_renderMembers {style : Style}
    (hs : Encodable style.comma ∧ Encodable style.colon) :
    ∀ ms : List (Text × Value), Encodable (Value.renderMembers style ms) ↔
      ∀ t ∈ Value.memberStrings ms, Encodable t
  | [] => by simp [Value.renderMembers, Value.memberStrings]
  | [(name, v)] => by
    have hv := encodable_render hs v
    simp [Value.renderMembers, Value.memberStrings, encodable_renderString, hs.2, hv,
      Value.Encodable]
  | (name, v) :: (next, w) :: ms => by
    have hv := encodable_render hs v
    have hms := encodable_renderMembers hs ((next, w) :: ms)
    rw [Value.renderMembers, Value.memberStrings, List.cons_append, List.forall_mem_cons,
      List.forall_mem_append, ← hms]
    · simp [encodable_renderString, hs.1, hs.2, hv, Value.Encodable]
    · simp

end

/-- The compact text of a value has surrogates exactly if a text in it has some. -/
theorem encodable_compact {v : Value} : Encodable v.compact ↔ v.Encodable :=
  encodable_render (by decide) v

theorem flatten_led (lead : Text) (pieces : List Text) :
    (Value.led lead pieces).flatten = lead ++ pieces.flatten := by
  unfold Value.led
  split <;> simp

mutual

theorem flatten_pieces (style : Style) : ∀ v : Value, (v.pieces style).flatten = v.render style
  | .null => by simp [Value.pieces]
  | .bool b => by simp [Value.pieces]
  | .number n => by simp [Value.pieces]
  | .text t => by simp [Value.pieces]
  | .array elements => by
    cases elements with
    | nil => simp [Value.pieces, Value.render, Value.renderElements]
    | cons v rest => simp [Value.pieces, Value.render, flatten_elementPieces style (v :: rest)]
  | .object members => by
    simp [Value.pieces, Value.render, flatten_memberPieces style members]

theorem flatten_elementPieces (style : Style) :
    ∀ (vs : List Value) (lead : Text), vs ≠ [] →
      (Value.elementPieces style lead vs).flatten = lead ++ Value.renderElements style vs
  | [], _, h => absurd rfl h
  | [v], lead, _ => by
    simp [Value.elementPieces, Value.renderElements, flatten_led, flatten_pieces style v]
  | v :: w :: rest, lead, _ => by
    rw [Value.elementPieces, List.flatten_append, flatten_led, flatten_pieces style v,
      flatten_elementPieces style (w :: rest) _ (by simp)]
    simp [Value.renderElements]

theorem flatten_memberPieces (style : Style) :
    ∀ ms : List (Text × Value),
      (Value.memberPieces style ms).flatten = Value.renderMembers style ms
  | [] => by simp [Value.memberPieces, Value.renderMembers]
  | [(name, v)] => by simp [Value.memberPieces, Value.renderMembers, flatten_pieces style v]
  | (name, v) :: m :: rest => by
    simp [Value.memberPieces, Value.renderMembers, flatten_pieces style v,
      flatten_memberPieces style (m :: rest)]

end

theorem flatten_compactPieces (v : Value) : v.compactPieces.flatten = v.compact :=
  flatten_pieces compactStyle v

end GeoUrn.Json
