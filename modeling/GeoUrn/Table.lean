/-!
Tables of named entries in the order in which the names first came. A repeated name keeps its
place and takes the last value.
-/
namespace GeoUrn.Table

variable {κ α : Type} [DecidableEq κ]

/-- Gives the name a value: in its place if it has one, else at the end. -/
def put (name : κ) (value : α) : List (κ × α) → List (κ × α)
  | [] => [(name, value)]
  | (other, old) :: rest =>
    if other = name then (other, value) :: rest else (other, old) :: put name value rest

def ofPairs (pairs : List (κ × α)) : List (κ × α) :=
  pairs.foldl (fun table p => put p.1 p.2 table) []

def get? (name : κ) (table : List (κ × α)) : Option α :=
  (table.find? fun e => e.1 == name).map Prod.snd

theorem names_put (name : κ) (value : α) (table : List (κ × α)) :
    (put name value table).map Prod.fst =
      if name ∈ table.map Prod.fst then table.map Prod.fst else table.map Prod.fst ++ [name] := by
  induction table with
  | nil => simp [put]
  | cons e rest ih =>
    obtain ⟨other, old⟩ := e
    by_cases h : other = name
    · simp [put, h]
    · have h' : name ≠ other := fun e => h e.symm
      simp only [put, h, if_false, List.map_cons, ih, List.mem_cons, h', false_or]
      split <;> simp

theorem nodup_put (name : κ) (value : α) (table : List (κ × α))
    (h : (table.map Prod.fst).Nodup) : ((put name value table).map Prod.fst).Nodup := by
  rw [names_put]
  split
  · exact h
  · rename_i hn
    refine List.nodup_append.2 ⟨h, by simp, fun a ha b hb he => ?_⟩
    simp at hb
    exact hn (hb ▸ he ▸ ha)

theorem nodup_foldl (pairs table : List (κ × α)) (h : (table.map Prod.fst).Nodup) :
    ((pairs.foldl (fun t p => put p.1 p.2 t) table).map Prod.fst).Nodup := by
  induction pairs generalizing table with
  | nil => exact h
  | cons p rest ih => exact ih _ (nodup_put p.1 p.2 table h)

/-- No name stands twice in a table. -/
theorem nodup_ofPairs (pairs : List (κ × α)) : ((ofPairs pairs).map Prod.fst).Nodup :=
  nodup_foldl pairs [] (by simp)

end GeoUrn.Table
