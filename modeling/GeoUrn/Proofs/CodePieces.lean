import GeoUrn.Code
import GeoUrn.Proofs.UrnGrammar

/-!
Codes read from the pieces between the separators. A code stands last, alone or after a version;
the components before it are expected to say given words, and a piece behind it refuses the text.
-/
namespace GeoUrn.Code
open Text Component

def lastOf? : List Text → Option Text
  | [code] => trimmed? code
  | [_, code] => trimmed? code
  | _ => none

/-- The pieces after some components, each of which must say one of its words. -/
def expectPieces? : List (List Text) → List Text → Option (List Text)
  | [], pieces => some pieces
  | _ :: _, [] => none
  | words :: more, piece :: pieces =>
    if readsAny words piece then expectPieces? more pieces else none

theorem isBlank_separator : isBlank separator = false := by decide

theorem lastOf?_of_two_separators {version code : Text} (h : separator ∈ code) :
    lastOf? (version :: split separator code) = none := by
  rcases cut_cases separator code with ⟨hn, -⟩ | ⟨piece, rest, -, -, hcut⟩
  · exact absurd h hn
  · obtain ⟨next, more, hnext⟩ := List.exists_cons_of_ne_nil (split_ne_nil separator rest)
    rw [split_eq_cut, hcut]
    simp only [piecesAfter, hnext, lastOf?]

theorem lastOf?_of_one_separator {version code : Text} (h : separator ∉ code) :
    lastOf? (version :: split separator code) = trimmed? code := by
  rw [split_of_not_mem h]
  rfl

/-- Blanks before the version or the code change nothing, as the separator is not a blank. -/
theorem afterVersion?_eq (text : Text) : afterVersion? text = lastOf? (split separator text) := by
  have hcut := cut_trimLeft isBlank_separator text
  have hmem {piece : Text} : separator ∈ trimLeft piece ↔ separator ∈ piece :=
    mem_trimLeft_iff isBlank_separator
  rw [afterVersion?]
  cases ht : trimLeft text with
  | nil =>
    have hn : separator ∉ text := by
      rw [← hmem, ht]
      exact List.not_mem_nil
    rw [split_of_not_mem hn]
    exact (trimmed?_of_trimLeft_nil ht).symm
  | cons c rest =>
    rw [ht] at hcut
    simp only [hcut]
    rcases cut_cases separator text with ⟨hn, he⟩ | ⟨version, code, -, -, he⟩
    · rw [he, split_of_not_mem hn]
      exact (trimmed?_of_trimLeft_cons ht).symm
    · rw [split_eq_cut, he]
      simp only [piecesAfter]
      cases hc : trimLeft code with
      | nil =>
        have hn : separator ∉ code := by
          rw [← hmem, hc]
          exact List.not_mem_nil
        rw [lastOf?_of_one_separator hn]
        exact (trimmed?_of_trimLeft_nil hc).symm
      | cons c' rest' =>
        by_cases hsep : separator ∈ code
        · rw [lastOf?_of_two_separators hsep]
          exact if_pos (by rwa [← hc, hmem])
        · rw [lastOf?_of_one_separator hsep, trimmed?_of_trimLeft_cons hc]
          exact if_neg (by rwa [← hc, hmem])

theorem expectPieces?_nil_bind (expected : List (List Text)) :
    (expectPieces? expected []).bind lastOf? = none := by
  cases expected <;> rfl

theorem expect?_bind_afterVersion? (expected : List (List Text)) (text : Text) :
    (expect? expected text).bind afterVersion? =
      (expectPieces? expected (split separator text)).bind lastOf? := by
  induction expected generalizing text with
  | nil =>
    rw [expect?, expectPieces?]
    exact afterVersion?_eq text
  | cons words more ih =>
    rw [expect?, split_eq_cut, expectPieces?]
    rcases cut_cases separator text with ⟨-, he⟩ | ⟨piece, rest, -, -, he⟩
    · rw [he, piecesAfter]
      split_ifs
      · exact (expectPieces?_nil_bind more).symm
      · rfl
    · simp only [he, piecesAfter]
      split_ifs
      · exact ih rest
      · rfl

end GeoUrn.Code
