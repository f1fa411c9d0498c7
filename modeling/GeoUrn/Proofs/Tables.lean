import GeoUrn.Table
import Mathlib

/-!
Lookup in tables. A name of a table has one value, and putting another one there changes no other
name. In a table made of pairs every name stands where it first came, with the value that came last.
-/
namespace GeoUrn.Table

variable {κ α : Type} [DecidableEq κ]

theorem get?_cons (name other : κ) (value : α) (rest : List (κ × α)) :
    get? name ((other, value) :: rest) = if other = name then some value else get? name rest := by
  by_cases h : other = name <;> simp [get?, h]

theorem get?_put_self (name : κ) (value : α) (table : List (κ × α)) :
    get? name (put name value table) = some value := by
  induction table with
  | nil => simp [put, get?_cons]
  | cons e rest ih =>
    obtain ⟨other, old⟩ := e
    by_cases h : other = name <;> simp [put, h, get?_cons, ih]

theorem get?_put_of_ne {name other : κ} (h : other ≠ name) (value : α) (table : List (κ × α)) :
    get? other (put name value table) = get? other table := by
  induction table with
  | nil => simp [put, get?, h.symm]
  | cons e rest ih =>
    obtain ⟨first, old⟩ := e
    by_cases hf : first = name
    · have hne : first ≠ other := fun he => h (he.symm.trans hf)
      simp [put, hf, get?_cons, h.symm]
    · simp [put, hf, get?_cons, ih]

theorem put_put (name : κ) (old new : α) (table : List (κ × α)) :
    put name new (put name old table) = put name new table := by
  induction table with
  | nil => simp [put]
  | cons e rest ih =>
    obtain ⟨other, value⟩ := e
    by_cases h : other = name <;> simp [put, h, ih]

theorem put_of_get? {name : κ} {value : α} {table : List (κ × α)}
    (h : get? name table = some value) : put name value table = table := by
  induction table with
  | nil => cases h
  | cons e rest ih =>
    obtain ⟨other, old⟩ := e
    rw [get?_cons] at h
    by_cases ho : other = name
    · rw [if_pos ho] at h
      simp [put, ho, Option.some.inj h]
    · rw [if_neg ho] at h
      simp [put, ho, ih h]

theorem get?_eq_some_iff {table : List (κ × α)} (h : (table.map Prod.fst).Nodup) {name : κ}
    {value : α} : get? name table = some value ↔ (name, value) ∈ table := by
  induction table with
  | nil => simp [get?]
  | cons e rest ih =>
    obtain ⟨other, old⟩ := e
    obtain ⟨hother, hrest⟩ := List.nodup_cons.mp h
    by_cases hn : other = name
    · subst hn
      have hnot : (other, value) ∉ rest := fun hm => hother (List.mem_map.mpr ⟨_, hm, rfl⟩)
      simp [get?, hnot, eq_comm]
    · have hskip : get? name ((other, old) :: rest) = get? name rest := by simp [get?, hn]
      have hne : (name, value) ≠ (other, old) := fun he => hn (Prod.ext_iff.mp he).1.symm
      rw [hskip, ih hrest, List.mem_cons, or_iff_right hne]

/-- The names in the order in which they first come, each with the value that comes last. -/
def settled (pairs : List (κ × α)) : List (κ × α) :=
  (pairs.map Prod.fst).eraseDups.filterMap fun name =>
    (get? name pairs.reverse).map fun value => (name, value)

theorem ofPairs_concat (pairs : List (κ × α)) (p : κ × α) :
    ofPairs (pairs ++ [p]) = put p.1 p.2 (ofPairs pairs) := by
  simp [ofPairs]

theorem names_ofPairs (pairs : List (κ × α)) :
    (ofPairs pairs).map Prod.fst = (pairs.map Prod.fst).eraseDups := by
  induction pairs using List.reverseRecOn with
  | nil => rfl
  | append_singleton pairs p ih =>
    rw [ofPairs_concat, names_put, ih, List.map_append, List.eraseDups_append]
    by_cases h : p.1 ∈ pairs.map Prod.fst
    · simp [List.mem_eraseDups, h, List.removeAll]
    · simp [List.mem_eraseDups, h, List.removeAll, List.eraseDups_cons]

theorem get?_ofPairs (pairs : List (κ × α)) (name : κ) :
    get? name (ofPairs pairs) = get? name pairs.reverse := by
  induction pairs using List.reverseRecOn with
  | nil => rfl
  | append_singleton pairs p ih =>
    rw [ofPairs_concat, List.reverse_append, List.reverse_singleton, List.singleton_append,
      get?_cons]
    by_cases h : p.1 = name
    · rw [if_pos h, ← h, get?_put_self]
    · rw [if_neg h, get?_put_of_ne (Ne.symm h), ih]

/-- A table is the list of its names with their values. -/
theorem filterMap_names {table : List (κ × α)} (h : (table.map Prod.fst).Nodup) :
    (table.map Prod.fst).filterMap (fun name =>
      (get? name table).map fun value => (name, value)) = table := by
  rw [List.filterMap_map]
  calc
    _ = table.filterMap some := by
      apply List.filterMap_congr
      intro e he
      simp [(get?_eq_some_iff h).mpr he]
    _ = table := List.filterMap_some

theorem ofPairs_eq_settled (pairs : List (κ × α)) : ofPairs pairs = settled pairs := by
  have h := filterMap_names (nodup_ofPairs pairs)
  simp only [names_ofPairs, get?_ofPairs] at h
  exact h.symm

end GeoUrn.Table
