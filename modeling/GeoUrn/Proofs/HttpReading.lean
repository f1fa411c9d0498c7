import GeoUrn.HttpForm
import GeoUrn.Proofs.LowerCase
import GeoUrn.Proofs.Positions

/-!
HTTP forms read from the left. `readTail?` says what an entry reads in the text after `http:`
without a single position. It is equal to `ofEntry?` at every position that is not negative, and
`recognize?` takes the first result of the entries with the expected type.
-/
namespace GeoUrn.HttpForm
open Text
open CodePoint (char)

/-- What is taken as the authority, of the text that follows the path. -/
def authorityIn (expected : Option Text) (tail : Text) : Text :=
  match expected with
  | none => identifierRun tail
  | some authority => tail.take authority.length

/-- An authority has some character, and says the expected one up to case. -/
def admits (expected : Option Text) (found : Text) : Bool :=
  !found.isEmpty && expected.all fun authority => sameIgnoringCase found authority

def codeIn? : Text → Option Text
  | [] => none
  | c :: rest =>
    if c = '.' then (cut (char '#') rest).2.bind trimmed?
    else if c = '#' then trimmed? rest
    else none

/-- What is read in the text that follows the path of an entry for the type. -/
def readAuthority? (type : Text) (expected : Option Text) (tail : Text) : Option HttpForm :=
  let found := authorityIn expected tail
  if admits expected found then
    (codeIn? (tail.drop found.length)).map fun code => ⟨type, expected.getD found, code⟩
  else none

def readTail? (entry : Text × Text) (expected : Option Text) (tail : Text) : Option HttpForm :=
  if sameIgnoringCase (tail.take entry.2.length) entry.2 then
    readAuthority? entry.1 expected (tail.drop entry.2.length)
  else none

theorem anchor?_of_length_le {url : Text} {position : ℤ} (h : url.length ≤ position) :
    anchor? url position = .ok none := by
  rw [anchor?, if_neg (by omega)]

theorem anchor?_append_cons (x : Text) (c : CodePoint) (rest : Text) :
    anchor? (x ++ c :: rest) x.length = .ok (
      if c = '.' then (find? (x ++ c :: rest) '#' (x.length + 1)).map Int.ofNat
      else if c = '#' then some x.length else none) := by
  rw [anchor?, if_pos (by simp), charAt_append]
  simp only
  split_ifs
  · rfl
  · omega
  · rfl
  · rfl

theorem codeAfter?_append (x rest : Text) :
    codeAfter? (x ++ char '#' :: rest) x.length = .ok (trimmed? rest) := by
  have htext : x ++ char '#' :: rest = (x ++ [char '#']) ++ (rest ++ []) := by simp
  have hstart : (x.length : ℤ) + 1 = (x ++ [char '#']).length := by simp
  have hend : ((x ++ char '#' :: rest).length : ℤ) = (x ++ [char '#']).length + rest.length := by
    simp only [List.length_append, List.length_cons, List.length_nil]
    omega
  rw [codeAfter?, hend, hstart, htext, trimRange_append, trimmed?_eq]
  simp [Except.map]

/-- The number sign is looked for at the end of the authority, and the code is what follows it. -/
theorem anchor?_codeAfter? (x rest : Text) :
    (anchor? (x ++ rest) x.length = .ok none ∧ codeIn? rest = none) ∨
      ∃ anchor : ℤ, anchor? (x ++ rest) x.length = .ok (some anchor) ∧
        codeAfter? (x ++ rest) anchor = .ok (codeIn? rest) := by
  cases rest with
  | nil => exact Or.inl ⟨anchor?_of_length_le (by simp), rfl⟩
  | cons c rest =>
    rw [anchor?_append_cons]
    simp only [codeIn?]
    split_ifs with hdot hsign
    · subst hdot
      have htext : x ++ char '.' :: rest = (x ++ [char '.']) ++ rest := by simp
      have hstart : (x.length : ℤ) + 1 = (x ++ [char '.']).length := by simp
      rw [htext, hstart]
      rcases cut_cases (char '#') rest with ⟨hn, hcut⟩ | ⟨extension, code, hn, rfl, hcut⟩
      · exact Or.inl ⟨by rw [find?_eq_none hn]; rfl, by rw [hcut]; rfl⟩
      · have hend :
            ((x ++ [char '.']) ++ extension).length = (x ++ [char '.']).length + extension.length :=
          List.length_append
        refine Or.inr ⟨((x ++ [char '.']) ++ extension).length, ?_, ?_⟩
        · rw [find?_append_cons _ hn, hend]
          rfl
        · rw [← List.append_assoc, codeAfter?_append, hcut]
          rfl
    · subst hsign
      exact Or.inr ⟨x.length, rfl, codeAfter?_append x rest⟩
    · exact Or.inl ⟨rfl, rfl⟩

theorem take_authorityIn (expected : Option Text) (tail : Text) :
    tail.take (authorityIn expected tail).length = authorityIn expected tail := by
  cases expected with
  | none => exact (List.prefix_iff_eq_take.mp (List.takeWhile_prefix _)).symm
  | some authority => simp [authorityIn, List.take_eq_take_min]

theorem authorityIn_append_drop (expected : Option Text) (tail : Text) :
    authorityIn expected tail ++ tail.drop (authorityIn expected tail).length = tail := by
  have h := List.take_append_drop (authorityIn expected tail).length tail
  rwa [take_authorityIn] at h

/-- The end of the authority: there is none, or it is where the authority that is read ends, or an
expected authority would go on past the end of the text. -/
theorem authorityEnd?_append (expected : Option Text) (x tail : Text) :
    (authorityEnd? expected (x ++ tail) x.length = .ok none ∧
        admits expected (authorityIn expected tail) = false) ∨
      (authorityEnd? expected (x ++ tail) x.length =
          .ok (some (x.length + (authorityIn expected tail).length)) ∧
        admits expected (authorityIn expected tail) = !(authorityIn expected tail).isEmpty) ∨
      ∃ stop : ℤ, authorityEnd? expected (x ++ tail) x.length = .ok (some stop) ∧
        (x ++ tail).length ≤ stop ∧ admits expected (authorityIn expected tail) = false := by
  cases expected with
  | none =>
    refine Or.inr (Or.inl ⟨?_, by simp [admits]⟩)
    rw [authorityEnd?, skipIdentifier_append]
    rfl
  | some authority =>
    have hend : authorityEnd? (some authority) (x ++ tail) x.length =
        .ok (if lower (authorityIn (some authority) tail) = lower authority
          then some (x.length + authority.length) else none) := by
      simp only [authorityEnd?, slice_append]
      rfl
    rw [hend]
    by_cases hl : lower (authorityIn (some authority) tail) = lower authority
    · rw [if_pos hl]
      by_cases hlen : (authorityIn (some authority) tail).length = authority.length
      · refine Or.inr (Or.inl ⟨by rw [hlen], ?_⟩)
        simp [admits, sameIgnoringCase, hlen, hl]
      · refine Or.inr (Or.inr ⟨_, rfl, ?_, by simp [admits, sameIgnoringCase, hlen]⟩)
        simp only [authorityIn, List.length_take] at hlen
        simp only [List.length_append]
        omega
    · exact Or.inl ⟨by rw [if_neg hl], by simp [admits, sameIgnoringCase, hl]⟩

/-- What an entry for the type reads from `stop`, where its path has ended. -/
def ofAuthority? (type : Text) (expected : Option Text) (url : Text) (stop : ℤ) :
    Except SpanFault (Option HttpForm) :=
  match authorityEnd? expected url stop with
  | .error fault => .error fault
  | .ok none => .ok none
  | .ok (some authorityEnd) =>
    let found := slice url stop authorityEnd
    if found.isEmpty then .ok none
    else
      match anchor? url authorityEnd with
      | .error fault => .error fault
      | .ok none => .ok none
      | .ok (some anchor) =>
        (codeAfter? url anchor).map fun code? =>
          code?.map fun code => ⟨type, expected.getD found, code⟩

theorem ofEntry?_eq_ofAuthority? (entry : Text × Text) (expected : Option Text) (url : Text)
    (start : ℤ) :
    ofEntry? entry expected url start =
      if url.length < start + entry.2.length ∨
          lower (slice url start (start + entry.2.length)) ≠ lower entry.2 then .ok none
      else ofAuthority? entry.1 expected url (start + entry.2.length) := rfl

theorem ofAuthority?_append (type : Text) (expected : Option Text) (x tail : Text) :
    ofAuthority? type expected (x ++ tail) x.length = .ok (readAuthority? type expected tail) := by
  rw [ofAuthority?, readAuthority?]
  rcases authorityEnd?_append expected x tail with ⟨he, ha⟩ | ⟨he, ha⟩ | ⟨stop, he, hle, ha⟩
  · simp [he, ha]
  · rw [he, ha]
    simp only [slice_append, take_authorityIn]
    have htail : x ++ tail = (x ++ authorityIn expected tail) ++
        tail.drop (authorityIn expected tail).length := by
      rw [List.append_assoc, authorityIn_append_drop]
    have hend : (x.length : ℤ) + (authorityIn expected tail).length =
        (x ++ authorityIn expected tail).length := by
      rw [List.length_append, Nat.cast_add]
    rw [htail, hend]
    cases hempty : (authorityIn expected tail).isEmpty with
    | true => rfl
    | false =>
      rcases anchor?_codeAfter? (x ++ authorityIn expected tail)
        (tail.drop (authorityIn expected tail).length) with ⟨hn, hc⟩ | ⟨anchor, hn, hc⟩
      · simp only [hn, hc]
        rfl
      · simp only [hn, hc, Except.map]
        rfl
  · rw [he, ha]
    simp only [anchor?_of_length_le hle, ite_self, Bool.false_eq_true, if_false]

theorem ofEntry?_path {entry : Text × Text} {path : Text} (h : sameIgnoringCase path entry.2)
    (expected : Option Text) (x tail : Text) :
    ofEntry? entry expected (x ++ (path ++ tail)) x.length =
      .ok (readAuthority? entry.1 expected tail) := by
  obtain ⟨hlen, hl⟩ := sameIgnoringCase_iff.mp h
  have hpath : slice (x ++ (path ++ tail)) x.length (x.length + entry.2.length) = path := by
    rw [slice_append, ← hlen, List.take_left]
  have hstop : (x.length : ℤ) + entry.2.length = (x ++ path).length := by
    rw [List.length_append, hlen, Nat.cast_add]
  have hfit : ¬ (((x ++ (path ++ tail)).length : ℤ) < x.length + entry.2.length ∨
      lower path ≠ lower entry.2) := by
    rintro (hlt | hne)
    · simp only [List.length_append] at hlt
      omega
    · exact hne hl
  rw [ofEntry?_eq_ofAuthority?, hpath, if_neg hfit, hstop, ← List.append_assoc]
  exact ofAuthority?_append entry.1 expected (x ++ path) tail

/-- An entry reads the same with positions and without. -/
theorem ofEntry?_append (entry : Text × Text) (expected : Option Text) (x tail : Text) :
    ofEntry? entry expected (x ++ tail) x.length = .ok (readTail? entry expected tail) := by
  rw [readTail?]
  split_ifs with h
  · have := ofEntry?_path h expected x (tail.drop entry.2.length)
    rwa [List.take_append_drop] at this
  · unfold ofEntry?
    rw [if_pos]
    rw [slice_append]
    by_cases hlen : tail.length < entry.2.length
    · left
      simp only [List.length_append]
      omega
    · right
      intro hl
      refine h (sameIgnoringCase_iff.mpr ⟨?_, hl⟩)
      rw [List.length_take]
      omega

theorem readTail?_nil (entry : Text × Text) (expected : Option Text) :
    readTail? entry expected [] = none := by
  rw [readTail?, readAuthority?, List.drop_nil]
  cases expected <;> simp [authorityIn, identifierRun, admits]

theorem ofEntry?_eq (entry : Text × Text) (expected : Option Text) (url : Text) (start : ℕ) :
    ofEntry? entry expected url start = .ok (readTail? entry expected (url.drop start)) := by
  rcases le_or_gt start url.length with h | h
  · have := ofEntry?_append entry expected (url.take start) (url.drop start)
    rwa [List.take_append_drop, List.length_take_of_le h] at this
  · rw [List.drop_eq_nil_of_le h.le, readTail?_nil, ofEntry?, if_pos]
    left
    omega

def hasType (type : Option Text) (entry : Text × Text) : Bool :=
  type.all fun t => lower entry.1 == lower t

def readTyped? (type expected : Option Text) (tail : Text) (entry : Text × Text) :
    Option HttpForm :=
  if hasType type entry then readTail? entry expected tail else none

/-- Entries of other types are passed over, and of the rest the first that reads a form wins. -/
theorem firstOf?_eq (type expected : Option Text) (url : Text) (start : ℕ)
    (entries : List (Text × Text)) :
    firstOf? type expected url start entries =
      .ok (entries.findSome? (readTyped? type expected (url.drop start))) := by
  have hany (entry : Text × Text) :
      (type.any fun t => lower entry.1 != lower t) = !hasType type entry := by
    cases type with
    | none => rfl
    | some t => rfl
  induction entries with
  | nil => rfl
  | cons entry rest ih =>
    rw [firstOf?, hany, ih, ofEntry?_eq, List.findSome?_cons, readTyped?]
    cases ht : hasType type entry with
    | false => rfl
    | true => cases readTail? entry expected (url.drop start) <;> rfl

theorem contains_iff (registry : Registry) (type : Text) :
    registry.contains type ↔ ∃ entry ∈ registry.entries, lower entry.1 = lower type := by
  rw [Registry.contains, Registry.path?]
  cases hg : Table.get? type registry.entries with
  | some path =>
    obtain ⟨entry, he, -⟩ := Option.map_eq_some_iff.mp hg
    have hname : entry.1 = type := by simpa using List.find?_some he
    exact iff_of_true rfl ⟨entry, List.mem_of_find?_eq_some he, by rw [hname]⟩
  | none => simp [List.find?_isSome]

/-- Recognition without positions, of what follows `http:`. -/
theorem recognize?_eq (registry : Registry) (type expected : Option Text) (url : Text)
    (start : ℕ) :
    recognize? registry type expected url start =
      .ok (registry.entries.findSome? (readTyped? type expected (url.drop start))) := by
  rw [recognize?, firstOf?_eq]
  split_ifs with h
  · obtain ⟨t, rfl, hc⟩ : ∃ t, type = some t ∧ registry.contains t = false := by
      cases type with
      | none => cases h
      | some t => exact ⟨t, rfl, by simpa using h⟩
    have hnone : ∀ entry ∈ registry.entries,
        readTyped? (some t) expected (url.drop start) entry = none := by
      intro entry he
      rw [readTyped?, if_neg]
      intro ht
      have hin : registry.contains t :=
        (contains_iff registry t).mpr ⟨entry, he, by simpa [hasType] using ht⟩
      rw [hc] at hin
      cases hin
    rw [List.findSome?_eq_none_iff.mpr hnone]
  · rfl

end GeoUrn.HttpForm
