import GeoUrn.Proofs.JsonTexts
import GeoUrn.Proofs.Pieces

/-!
Files with one JSON value a line. As the text of a value has no control characters, the line feeds
of such a file are the ends of its lines and nothing else.
-/
namespace GeoUrn.Json

open CodePoint (char)

namespace Value

theorem isProper_ofInt (n : ℤ) : (ofInt n).IsProper := .number (.whole n) trivial

theorem isProper_ofOption {α : Type} {toValue : α → Value} (h : ∀ a, (toValue a).IsProper) :
    ∀ a, (ofOption toValue a).IsProper
  | none => .null
  | some a => h a

theorem isProper_texts (ts : List Text) : (texts ts).IsProper := by
  refine .array _ fun v hv => ?_
  obtain ⟨t, -, rfl⟩ := List.mem_map.mp hv
  exact .text t

def line (v : Value) : Text := v.compact ++ [char '\n']

theorem newline_not_mem_compact (v : Value) : char '\n' ∉ v.compact :=
  (isPlainText_compact v).not_mem (by decide)

theorem count_newline_lines (vs : List Value) : (vs.flatMap line).count (char '\n') = vs.length := by
  induction vs with
  | nil => rfl
  | cons v vs ih =>
    have hv : v.compact.count (char '\n') = 0 := List.count_eq_zero.mpr (newline_not_mem_compact v)
    simp [line, ih, hv]

theorem getLast?_lines {vs : List Value} (h : vs ≠ []) :
    (vs.flatMap line).getLast? = some (char '\n') := by
  induction vs with
  | nil => exact absurd rfl h
  | cons v vs ih =>
    cases vs with
    | nil => simp [line]
    | cons w vs => rw [List.flatMap_cons, List.getLast?_append, ih (by simp), Option.some_or]

theorem plain_of_mem_lines {vs : List Value} {c : CodePoint} (h : c ∈ vs.flatMap line)
    (hc : c ≠ '\n') : 0x20 ≤ c.toNat := by
  obtain ⟨v, -, hv⟩ := List.mem_flatMap.mp h
  rcases List.mem_append.mp hv with hm | hm
  · exact isPlainText_compact v c hm
  · exact absurd (List.mem_singleton.mp hm) hc

theorem split_lines (vs : List Value) :
    Text.split (char '\n') (vs.flatMap line) = vs.map compact ++ [[]] := by
  induction vs with
  | nil => rfl
  | cons v vs ih =>
    rw [List.flatMap_cons, line, List.append_assoc, List.singleton_append,
      Text.split_append (newline_not_mem_compact v), ih]
    rfl

end Value

/-- The text has a line for each value, and its only control characters are the ends of these
lines. -/
structure HasLines (text : Text) (vs : List Value) : Prop where
  count : text.count (char '\n') = vs.length
  ended : vs ≠ [] → text.getLast? = some (char '\n')
  plain : ∀ c ∈ text, c ≠ '\n' → 0x20 ≤ c.toNat
  piece : ∀ i (h : i < vs.length),
    ∃ piece, (Text.split (char '\n') text)[i]? = some piece ∧ read piece = .ok vs[i]

theorem hasLines {vs : List Value} (h : ∀ v ∈ vs, v.IsProper) :
    HasLines (vs.flatMap Value.line) vs where
  count := Value.count_newline_lines vs
  ended := Value.getLast?_lines
  plain _ := Value.plain_of_mem_lines
  piece i hi := by
    refine ⟨vs[i].compact, ?_, read_compact (h _ (List.getElem_mem hi))⟩
    rw [Value.split_lines, List.getElem?_append_left (by simpa using hi)]
    simp [hi]

/-- Values that are written on the same lines are the same values. -/
theorem eq_of_lines_eq {vs ws : List Value} (hv : ∀ v ∈ vs, v.IsProper) (hw : ∀ w ∈ ws, w.IsProper)
    (h : vs.flatMap Value.line = ws.flatMap Value.line) : vs = ws := by
  have hs : vs.map Value.compact ++ [[]] = ws.map Value.compact ++ [[]] := by
    rw [← Value.split_lines, ← Value.split_lines, h]
  have hm : vs.map Value.compact = ws.map Value.compact := List.append_cancel_right hs
  have hread : ∀ us : List Value, (∀ u ∈ us, u.IsProper) →
      (us.map Value.compact).map (fun text => (read text).toOption) = us.map some := by
    intro us hu
    rw [List.map_map]
    refine List.map_congr_left fun u hm => ?_
    rw [Function.comp_apply, read_compact (hu u hm)]
    rfl
  have hr : vs.map some = ws.map some := by
    rw [← hread vs hv, ← hread ws hw, hm]
  exact List.map_injective_iff.mpr (Option.some_injective _) hr

end GeoUrn.Json
