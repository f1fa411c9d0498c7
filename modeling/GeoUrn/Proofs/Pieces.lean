import GeoUrn.Text.Basic
import Mathlib

/-!
Texts in pieces. `split` and `join` are the splitting and the intercalation of lists, and `cut`
gives the first piece of `split` with the text of all the others.
-/
namespace GeoUrn.Text

variable {α : Type} [DecidableEq α]

theorem split_ne_nil (sep : α) (text : List α) : split sep text ≠ [] := by
  cases text with
  | nil => simp [split]
  | cons c rest =>
    simp only [split]
    split_ifs
    · simp
    · split <;> simp

theorem split_eq_splitOn (sep : α) (text : List α) : split sep text = text.splitOn sep := by
  induction text with
  | nil => rfl
  | cons c rest ih =>
    rw [List.splitOn_cons_eq_if_modifyHead, ← ih]
    by_cases h : c = sep
    · simp [split, h]
    · simp only [split, h, if_false, beq_iff_eq]
      cases hs : split sep rest with
      | nil => exact absurd hs (split_ne_nil sep rest)
      | cons piece more => rfl

omit [DecidableEq α] in
theorem join_eq_intercalate (sep : List α) (pieces : List (List α)) :
    join sep pieces = sep.intercalate pieces := by
  induction pieces with
  | nil => rfl
  | cons piece more ih =>
    cases more with
    | nil => simp [join]
    | cons next more => simp [join, ih]

/-- Pieces without the separator come back when their text is split. -/
theorem split_join {sep : α} {pieces : List (List α)} (hne : pieces ≠ [])
    (h : ∀ piece ∈ pieces, sep ∉ piece) : split sep (join [sep] pieces) = pieces := by
  rw [split_eq_splitOn, join_eq_intercalate]
  exact List.splitOn_intercalate sep h hne

/-- Nothing of a text is lost when it is split. -/
theorem join_split (sep : α) (text : List α) : join [sep] (split sep text) = text := by
  rw [split_eq_splitOn, join_eq_intercalate]
  exact List.intercalate_splitOn sep

omit [DecidableEq α] in
theorem join_cons_of_ne_nil {more : List (List α)} (h : more ≠ []) (sep piece : List α) :
    join sep (piece :: more) = piece ++ (sep ++ join sep more) := by
  cases more with
  | nil => exact absurd rfl h
  | cons next more => simp [join]

omit [DecidableEq α] in
theorem join_append {front back : List (List α)} (hfront : front ≠ []) (hback : back ≠ [])
    (sep : List α) : join sep (front ++ back) = join sep front ++ (sep ++ join sep back) := by
  induction front with
  | nil => exact absurd rfl hfront
  | cons piece more ih =>
    rw [List.cons_append, join_cons_of_ne_nil (by simp [hback])]
    by_cases hmore : more = []
    · simp [hmore, join]
    · rw [ih hmore, join_cons_of_ne_nil hmore, List.append_assoc, List.append_assoc]

theorem not_mem_of_mem_split (sep : α) (text : List α) : ∀ piece ∈ split sep text, sep ∉ piece := by
  induction text with
  | nil => simp [split]
  | cons c rest ih =>
    simp only [split]
    split_ifs with hc
    · exact List.forall_mem_cons.mpr ⟨List.not_mem_nil, ih⟩
    · cases hs : split sep rest with
      | nil => exact absurd hs (split_ne_nil sep rest)
      | cons first more =>
        rw [hs, List.forall_mem_cons] at ih
        obtain ⟨hfirst, hmore⟩ := ih
        have hcons : sep ∉ c :: first := List.not_mem_cons_of_ne_of_not_mem (Ne.symm hc) hfirst
        exact List.forall_mem_cons.mpr ⟨hcons, hmore⟩

theorem split_eq_singleton_nil {sep : α} {text : List α} (h : split sep text = [[]]) :
    text = [] := by
  rw [← join_split sep text, h]
  rfl

theorem cut_append {sep : α} {piece : List α} (h : sep ∉ piece) (rest : List α) :
    cut sep (piece ++ sep :: rest) = (piece, some rest) := by
  induction piece with
  | nil => simp [cut]
  | cons c piece ih =>
    have hc : c ≠ sep := fun e => h (by simp [e])
    have hp : sep ∉ piece := fun e => h (by simp [e])
    simp [cut, hc, ih hp]

theorem cut_of_not_mem {sep : α} {text : List α} (h : sep ∉ text) :
    cut sep text = (text, none) := by
  induction text with
  | nil => rfl
  | cons c rest ih =>
    have hc : c ≠ sep := fun e => h (by simp [e])
    have hr : sep ∉ rest := fun e => h (by simp [e])
    simp [cut, hc, ih hr]

/-- Either a text has no separator, or its first one ends the first piece. -/
theorem cut_cases (sep : α) (text : List α) :
    (sep ∉ text ∧ cut sep text = (text, none)) ∨
      ∃ piece rest, sep ∉ piece ∧ text = piece ++ sep :: rest ∧
        cut sep text = (piece, some rest) := by
  by_cases h : sep ∈ text
  · obtain ⟨piece, rest, rfl, hp⟩ := List.eq_append_cons_of_mem h
    exact Or.inr ⟨piece, rest, hp, rfl, cut_append hp rest⟩
  · exact Or.inl ⟨h, cut_of_not_mem h⟩

/-- The pieces of what a cut has left over; there are none if no separator was found. -/
def piecesAfter (sep : α) : Option (List α) → List (List α)
  | none => []
  | some rest => split sep rest

theorem split_eq_cut (sep : α) (text : List α) :
    split sep text = (cut sep text).1 :: piecesAfter sep (cut sep text).2 := by
  induction text with
  | nil => rfl
  | cons c rest ih =>
    by_cases h : c = sep
    · simp [split, cut, h, piecesAfter]
    · simp only [split, cut, h, if_false, ih]

theorem cut_of_split_cons_cons {sep : α} {text first next : List α} {more : List (List α)}
    (h : split sep text = first :: next :: more) :
    ∃ rest, cut sep text = (first, some rest) ∧ split sep rest = next :: more := by
  rw [split_eq_cut] at h
  rcases cut_cases sep text with ⟨-, he⟩ | ⟨piece, rest, -, -, he⟩
  · rw [he] at h
    cases h
  · rw [he] at h
    obtain ⟨rfl, hrest⟩ := List.cons.inj h
    exact ⟨rest, he, hrest⟩

theorem split_of_not_mem {sep : α} {text : List α} (h : sep ∉ text) : split sep text = [text] := by
  rw [split_eq_cut, cut_of_not_mem h]
  rfl

theorem split_append {sep : α} {piece : List α} (h : sep ∉ piece) (rest : List α) :
    split sep (piece ++ sep :: rest) = piece :: split sep rest := by
  rw [split_eq_cut, cut_append h]
  rfl

/-- Only the last of some joined pieces is split further, as the others have no separator. -/
theorem split_join_concat {sep : α} {pieces : List (List α)} (h : ∀ piece ∈ pieces, sep ∉ piece)
    (last : List α) : split sep (join [sep] (pieces ++ [last])) = pieces ++ split sep last := by
  induction pieces with
  | nil => rfl
  | cons piece more ih =>
    obtain ⟨hpiece, hmore⟩ := List.forall_mem_cons.mp h
    have hjoin : join [sep] (piece :: more ++ [last]) =
        piece ++ sep :: join [sep] (more ++ [last]) := join_cons_of_ne_nil (by simp) [sep] piece
    rw [hjoin, split_append hpiece, ih hmore]
    rfl

end GeoUrn.Text
