import GeoUrn.Proofs.HttpRoundTrip
import GeoUrn.Proofs.KeptLines

/-!
What rows hold. Their numbers go up, no line end is left at the end of what was read, and a
definition is always one that some URN or some HTTP form says.
-/
namespace GeoUrn.Text

open CodePoint (char)

def IsChomped (text : Text) : Prop := ∀ c ∈ text.getLast?, c ≠ char '\r' ∧ c ≠ char '\n'

theorem chomp_eq_self_iff {text : Text} : chomp text = text ↔ IsChomped text := by
  change text.rdropWhile (fun c : CodePoint => c = char '\r' || c = char '\n') = text ↔ _
  rw [List.rdropWhile_eq_self_iff]
  cases text with
  | nil => simp [IsChomped]
  | cons c rest => simp [IsChomped, List.getLast?_eq_some_getLast]

theorem isChomped_chomp (text : Text) : IsChomped (chomp text) :=
  chomp_eq_self_iff.mp 
    (List.rdropWhile_idempotent (fun c : CodePoint => c = char '\r' || c = char '\n') text)

end GeoUrn.Text

namespace GeoUrn.Definition
open Text

/-- The definitions that texts of either form say under a registry. -/
def IsRecord (registry : Registry) (d : Definition) : Prop :=
  IsUrnRecord d ∨ IsHttpRecord registry d

variable {registry : Registry} {text : Text} {d : Definition}

theorem isRecord_of_read (h : read registry text = .ok (some d)) : IsRecord registry d := by
  cases hd : d.isHttp with
  | false =>
    obtain ⟨hu, rfl⟩ := read_urn_iff.mp ⟨h, hd⟩
    exact Or.inl hu.isUrnRecord
  | true => exact Or.inr (isHttpRecord_of_read h hd)

theorem parse?_eq_some_iff :
    parse? registry text = some d ↔ read registry text = .ok (some d) := by
  rw [parse?]
  cases read registry text <;> simp

theorem isRecord_of_parse? (h : parse? registry text = some d) : IsRecord registry d :=
  isRecord_of_read (parse?_eq_some_iff.mp h)

theorem IsRecord.exists_code (h : IsRecord registry d) :
    ∃ code, d.code = some code ∧ code ≠ [] ∧ IsTrimmed code := by
  rcases h with h | h
  · obtain ⟨code, he, hc⟩ := h.code
    exact ⟨code, he, hc.ne_nil, hc.trimmed⟩
  · exact h.code

end GeoUrn.Definition

namespace GeoUrn.Batch

open Audit (Desk Logger)
open Text

variable {config : Config} {lines : List Text}

/-- Every row is the row of a line, and its number is not before the first. -/
theorem exists_of_mem_keptRowsFrom {first : ℕ} {row : Row}
    (h : row ∈ keptRowsFrom config first lines) :
    ∃ n raw, first ≤ n ∧ row = rowOf config n raw := by
  obtain ⟨⟨raw, n⟩, hline, rfl⟩ := List.mem_map.mp h
  exact ⟨n, raw, (List.mem_zipIdx (List.mem_filter.mp hline).1).1, rfl⟩

theorem pairwise_line_keptRowsFrom (config : Config) (first : ℕ) (lines : List Text) :
    (keptRowsFrom config first lines).Pairwise fun row later => row.line < later.line := by
  induction lines generalizing first with
  | nil => exact List.Pairwise.nil
  | cons raw lines ih =>
    by_cases h : IsSkipped config raw
    · rw [keptRowsFrom_skipped h]
      exact ih (first + 1)
    · rw [keptRowsFrom_kept h]
      refine List.Pairwise.cons (fun later hlater => ?_) (ih (first + 1))
      obtain ⟨n, other, hn, rfl⟩ := exists_of_mem_keptRowsFrom hlater
      simp only [rowOf]
      omega

/-- With a log or without, the rows that are answered are those of the lines that are kept. -/
theorem rows_eq_keptRows {logger : Option Logger} {site : Site} {rows : List Row}
    (h : (parseLines config logger lines site).1 = .ok rows) : rows = keptRows config lines := by
  rw [parseLines_eq, readRows] at h
  cases hn : (Desk.noteAll ⟨logger, site⟩ (reportsOf (keptRows config lines))).1 with
  | error fault =>
    rw [hn] at h
    cases h
  | ok =>
    rw [hn] at h
    exact (Except.ok.inj h).symm

end GeoUrn.Batch
