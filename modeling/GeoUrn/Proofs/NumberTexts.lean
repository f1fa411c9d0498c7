import GeoUrn.Json.Printer
import GeoUrn.Json.Reader
import GeoUrn.Proofs.ShortestNumerals

/-!
Numbers as JSON text. What is printed for a number is read as the same number: whole numbers digit by
digit, and floating-point numbers because their numerals are rounded to them.
-/
namespace GeoUrn.Json
open Decimal
open CodePoint (char)

/-- A text that does not go on with a number that stands before it. -/
def EndsNumber (rest : Text) : Prop :=
  ∀ c ∈ rest.head?, isDigit c = false ∧ c ≠ '.' ∧ c ≠ 'e' ∧ c ≠ 'E'

theorem endsNumber_nil : EndsNumber [] := by
  intro c hc
  cases hc

theorem EndsNumber.not_digit {rest : Text} (h : EndsNumber rest) :
    ∀ c ∈ rest.head?, isDigit c = false := fun c hc => (h c hc).1

theorem takeWhile_digits {ds rest : Text} (hd : ∀ c ∈ ds, isDigit c)
    (hr : ∀ c ∈ rest.head?, isDigit c = false) : (ds ++ rest).takeWhile isDigit = ds := by
  rw [List.takeWhile_append_of_pos hd]
  cases rest with
  | nil => simp
  | cons c rest => simp [hr c rfl]

theorem dropWhile_digits {ds rest : Text} (hd : ∀ c ∈ ds, isDigit c)
    (hr : ∀ c ∈ rest.head?, isDigit c = false) : (ds ++ rest).dropWhile isDigit = rest := by
  rw [List.dropWhile_append_of_pos hd]
  cases rest with
  | nil => rfl
  | cons c rest => simp [hr c rfl]

/-- A numeral without needless zeros. -/
def IsWhole (ds : Text) : Prop :=
  ds ≠ [] ∧ (∀ c ∈ ds, isDigit c) ∧ (ds.head? = some (char '0') → ds = [char '0'])

theorem isWhole_ofNat (n : ℕ) : IsWhole (ofNat n) := by
  refine ⟨ofNat_ne_nil n, isDigit_of_mem_ofNat n, fun h => ?_⟩
  by_cases hn : n = 0
  · subst hn
    exact ofNat_of_lt (by decide)
  · exact absurd h (head?_ofNat hn)

theorem readWhole_append {ds rest : Text} (hd : IsWhole ds)
    (hr : ∀ c ∈ rest.head?, isDigit c = false) : readWhole (ds ++ rest) = some (ds, rest) := by
  obtain ⟨hne, hall, hzero⟩ := hd
  cases ds with
  | nil => exact absurd rfl hne
  | cons c ds =>
    obtain ⟨hc, hds⟩ := List.forall_mem_cons.mp hall
    rw [List.cons_append, readWhole]
    split_ifs with h0
    · subst h0
      have hnil : ds = [] := (List.cons.inj (hzero rfl)).2
      rw [hnil]
      rfl
    · rw [takeWhile_digits hds hr, dropWhile_digits hds hr]

theorem readFraction_point {ds rest : Text} (hne : ds ≠ []) (hd : ∀ c ∈ ds, isDigit c)
    (hr : ∀ c ∈ rest.head?, isDigit c = false) :
    readFraction (char '.' :: (ds ++ rest)) = (ds, rest) := by
  obtain ⟨d, more, rfl⟩ := List.exists_cons_of_ne_nil hne
  simp only [readFraction, takeWhile_digits hd hr, dropWhile_digits hd hr]

theorem readFraction_none {rest : Text} (h : ∀ c ∈ rest.head?, c ≠ '.') :
    readFraction rest = ([], rest) := by
  unfold readFraction
  split
  case h_1 more => exact absurd rfl (h '.' rfl)
  case h_2 => rfl

theorem readExponent_none {rest : Text} (h : ∀ c ∈ rest.head?, c ≠ 'e' ∧ c ≠ 'E') :
    readExponent rest = (none, rest) := by
  cases rest with
  | nil => rfl
  | cons c rest =>
    have hc := h c rfl
    simp [readExponent, hc.1, hc.2]

theorem readExponent_signed (negative : Bool) {ds rest : Text} (hne : ds ≠ [])
    (hd : ∀ c ∈ ds, isDigit c) (hr : ∀ c ∈ rest.head?, isDigit c = false) :
    readExponent (char 'e' :: (if negative then '-' else '+') :: (ds ++ rest)) =
      (some (if negative then -(value ds : ℤ) else value ds), rest) := by
  have htake := takeWhile_digits hd hr
  have hdrop := dropWhile_digits hd hr
  obtain ⟨d, more, rfl⟩ := List.exists_cons_of_ne_nil hne
  rw [List.cons_append] at htake hdrop ⊢
  cases negative with
  | false => simp [readExponent, htake, hdrop]
  | true => simp [readExponent, htake, hdrop]

theorem readNumber_whole (negative : Bool) {ds rest : Text} (hd : IsWhole ds) (hr : EndsNumber rest) :
    readNumber negative (ds ++ rest) =
      some (.whole (if negative then -(value ds : ℤ) else value ds), rest) := by
  have hpoint : readFraction rest = ([], rest) := readFraction_none fun c hc => (hr c hc).2.1
  have hexp : readExponent rest = (none, rest) := readExponent_none fun c hc => (hr c hc).2.2
  unfold readNumber
  simp only [readWhole_append hd hr.not_digit, hpoint, hexp]

theorem readNumber_point (negative : Bool) {ds fraction rest : Text} (hd : IsWhole ds)
    (hne : fraction ≠ []) (hf : ∀ c ∈ fraction, isDigit c) (hr : EndsNumber rest) :
    readNumber negative (ds ++ char '.' :: (fraction ++ rest)) =
      some (.float (.ofDecimal negative (value (ds ++ fraction)) (-(fraction.length : ℤ))), rest) := by
  have hdot : ∀ c ∈ (char '.' :: (fraction ++ rest)).head?, isDigit c = false := by
    rintro c ⟨⟩
    decide
  have hexp : readExponent rest = (none, rest) := readExponent_none fun c hc => (hr c hc).2.2
  obtain ⟨d, more, rfl⟩ := List.exists_cons_of_ne_nil hne
  unfold readNumber
  simp only [readWhole_append hd hdot, readFraction_point hne hf hr.not_digit, hexp]
  simp

def pointed : Text → Text
  | [] => []
  | d :: ds => char '.' :: d :: ds

theorem readFraction_pointed {fraction rest : Text} (hf : ∀ c ∈ fraction, isDigit c)
    (hr : ∀ c ∈ rest.head?, isDigit c = false ∧ c ≠ '.') :
    readFraction (pointed fraction ++ rest) = (fraction, rest) := by
  cases fraction with
  | nil => exact readFraction_none fun c hc => (hr c hc).2
  | cons d ds => exact readFraction_point (List.cons_ne_nil d ds) hf fun c hc => (hr c hc).1

theorem readNumber_exponent (negative small : Bool) {ds fraction power rest : Text}
    (hd : IsWhole ds) (hf : ∀ c ∈ fraction, isDigit c) (hne : power ≠ [])
    (hp : ∀ c ∈ power, isDigit c) (hr : EndsNumber rest) :
    readNumber negative
        (ds ++ (pointed fraction ++ char 'e' :: (if small then '-' else '+') :: (power ++ rest))) =
      some (.float (.ofDecimal negative (value (ds ++ fraction))
        ((if small then -(value power : ℤ) else value power) - fraction.length)), rest) := by
  have hsign : ∀ c ∈ (char 'e' :: (if small then '-' else '+') :: (power ++ rest)).head?,
      isDigit c = false ∧ c ≠ '.' := by
    rintro c ⟨⟩
    decide
  have hafter : ∀ c ∈ (pointed fraction ++
      char 'e' :: (if small then '-' else '+') :: (power ++ rest)).head?, isDigit c = false := by
    cases fraction with
    | nil => exact fun c hc => (hsign c hc).1
    | cons d more =>
      rintro c ⟨⟩
      decide
  have hexp := readExponent_signed small hne hp hr.not_digit
  unfold readNumber
  simp only [readWhole_append hd hafter, readFraction_pointed hf hsign, hexp]
  rfl

theorem isWhole_of_head {ds : Text} (hne : ds ≠ []) (hd : ∀ c ∈ ds, isDigit c)
    (h : ds.head? ≠ some (char '0')) : IsWhole ds :=
  ⟨hne, hd, fun hz => absurd hz h⟩

theorem isWhole_take_ofNat {n k : ℕ} (hn : n ≠ 0) (hk : 0 < k) : IsWhole ((ofNat n).take k) := by
  refine isWhole_of_head ?_ (fun c hc => isDigit_of_mem_ofNat n c (List.mem_of_mem_take hc)) ?_
  · have hpos := length_ofNat_pos n
    rw [← List.length_pos_iff, List.length_take]
    omega
  · rw [List.head?_take, if_neg (by omega)]
    exact head?_ofNat hn

def ReadsAs (text : Text) (n : Numeral) : Prop :=
  ∀ (negative : Bool) (rest : Text), EndsNumber rest →
    readNumber negative (text ++ rest) =
      some (.float (.ofDecimal negative n.digits n.scale), rest)

theorem readsAs_small {n : ℕ} {k : ℕ} :
    ReadsAs ([char '0', char '.'] ++ List.replicate k (char '0') ++ ofNat n)
      ⟨n, -((k + (ofNat n).length : ℕ) : ℤ)⟩ := by
  intro negative rest hr
  have hone : IsWhole ['0'] :=
    ⟨List.cons_ne_nil _ _, List.forall_mem_singleton.mpr (by decide), fun _ => rfl⟩
  have hdigits : ∀ c ∈ List.replicate k (char '0') ++ ofNat n, isDigit c := by
    intro c hc
    rcases List.mem_append.mp hc with hc | hc
    · rw [List.eq_of_mem_replicate hc]
      decide
    · exact isDigit_of_mem_ofNat n c hc
  have hne : List.replicate k (char '0') ++ ofNat n ≠ [] :=
    List.append_ne_nil_of_right_ne_nil _ (ofNat_ne_nil n)
  have hread := readNumber_point negative hone hne hdigits hr
  have hvalue : value ([char '0'] ++ (List.replicate k (char '0') ++ ofNat n)) = n := by
    rw [value_append, value_append, value_zeros, value_ofNat]
    simp [value]
  rw [hvalue, List.length_append, List.length_replicate] at hread
  simpa using hread

theorem readsAs_large {n : ℕ} (hn : n ≠ 0) {k : ℕ} :
    ReadsAs (ofNat n ++ List.replicate k (char '0') ++ [char '.', char '0'])
      ⟨n * 10 ^ k * 10, -1⟩ := by
  intro negative rest hr
  have hdigits : ∀ c ∈ ofNat n ++ List.replicate k (char '0'), isDigit c := by
    intro c hc
    rcases List.mem_append.mp hc with hc | hc
    · exact isDigit_of_mem_ofNat n c hc
    · rw [List.eq_of_mem_replicate hc]
      decide
  have hwhole : IsWhole (ofNat n ++ List.replicate k (char '0')) := by
    refine isWhole_of_head (List.append_ne_nil_of_left_ne_nil (ofNat_ne_nil n) _) hdigits ?_
    rw [List.head?_append_of_ne_nil _ (ofNat_ne_nil n)]
    exact head?_ofNat hn
  have hzero : ∀ c ∈ (['0'] : Text), isDigit c := List.forall_mem_singleton.mpr (by decide)
  have hread := readNumber_point negative hwhole (List.cons_ne_nil _ _) hzero hr
  have hvalue : value (ofNat n ++ List.replicate k (char '0') ++ [char '0']) = n * 10 ^ k * 10 := by
    rw [value_append, value_append, value_zeros, value_ofNat, List.length_replicate]
    simp [value]
  rw [hvalue] at hread
  simpa using hread

theorem readsAs_between {n : ℕ} (hn : n ≠ 0) {k : ℕ} (hk : 0 < k) (hlt : k < (ofNat n).length) :
    ReadsAs ((ofNat n).take k ++ char '.' :: (ofNat n).drop k)
      ⟨n, -(((ofNat n).length - k : ℕ) : ℤ)⟩ := by
  intro negative rest hr
  have hne : (ofNat n).drop k ≠ [] := by
    rw [← List.length_pos_iff, List.length_drop]
    omega
  have hdigits : ∀ c ∈ (ofNat n).drop k, isDigit c :=
    fun c hc => isDigit_of_mem_ofNat n c (List.mem_of_mem_drop hc)
  have hread := readNumber_point negative (isWhole_take_ofNat hn hk) hne hdigits hr
  rw [List.take_append_drop, value_ofNat, List.length_drop] at hread
  rw [List.append_assoc, List.cons_append]
  exact hread

/-- Digits without an exponent say the number whose point stands after `whole` of them. -/
theorem readsAs_positional {n : ℕ} (hn : n ≠ 0) (whole : ℤ) :
    ∃ m : Numeral, m.toRat = (⟨n, whole - (ofNat n).length⟩ : Numeral).toRat ∧
      ReadsAs (positional (ofNat n) whole) m := by
  unfold positional
  split_ifs with hneg hlen
  · refine ⟨_, ?_, readsAs_small⟩
    have hscale : -((whole.natAbs + (ofNat n).length : ℕ) : ℤ) = whole - (ofNat n).length := by omega
    rw [hscale]
  · refine ⟨_, ?_, readsAs_large hn⟩
    have hsplit : whole - (ofNat n).length = ((whole.natAbs - (ofNat n).length : ℕ) : ℤ) := by omega
    simp only [Numeral.toRat]
    rw [hsplit, zpow_natCast, zpow_neg_one]
    push_cast
    field_simp
  · refine ⟨_, ?_, readsAs_between hn (by omega) (by omega)⟩
    have hscale : -(((ofNat n).length - whole.natAbs : ℕ) : ℤ) = whole - (ofNat n).length := by omega
    rw [hscale]

theorem readsAs_scientific {n : ℕ} (hn : n ≠ 0) (width : ℕ) (place : ℤ) :
    ReadsAs (scientific width (ofNat n) place) ⟨n, place - ((ofNat n).length - 1 : ℕ)⟩ := by
  intro negative rest hr
  have hlead : (if (ofNat n).length ≤ 1 then [] else char '.' :: (ofNat n).drop 1) =
      pointed ((ofNat n).drop 1) := by
    cases hdrop : (ofNat n).drop 1 with
    | nil =>
      rw [if_pos (List.drop_eq_nil_iff.mp hdrop)]
      rfl
    | cons d ds =>
      have hlen := congrArg List.length hdrop
      rw [List.length_drop, List.length_cons] at hlen
      rw [if_neg (by omega)]
      rfl
  have hfraction : ∀ c ∈ (ofNat n).drop 1, isDigit c :=
    fun c hc => isDigit_of_mem_ofNat n c (List.mem_of_mem_drop hc)
  have hpower : padded width place.natAbs ≠ [] :=
    List.append_ne_nil_of_right_ne_nil _ (ofNat_ne_nil _)
  have hread := readNumber_exponent negative (decide (place < 0))
    (isWhole_take_ofNat hn one_pos) hfraction hpower (isDigit_of_mem_padded width _) hr
  have habs : (if decide (place < 0) = true then -(place.natAbs : ℤ) else place.natAbs) = place := by
    by_cases h : place < 0
    · rw [if_pos (decide_eq_true h)]
      omega
    · rw [if_neg (by simpa using h)]
      omega
  rw [value_padded, List.take_append_drop, value_ofNat, List.length_drop, habs] at hread
  unfold scientific
  simp only [hlead, List.append_assoc, List.cons_append]
  simpa only [decide_eq_true_eq] using hread

theorem readsAs_render {n : Numeral} (hn : n.digits ≠ 0) :
    ∃ m : Numeral, m.toRat = n.toRat ∧ ReadsAs (n.render standardLayout) m := by
  have hpos := length_ofNat_pos n.digits
  unfold Numeral.render
  simp only
  split_ifs
  · have h := readsAs_positional hn (n.scale + (ofNat n.digits).length - 1 + 1)
    rwa [show n.scale + ((ofNat n.digits).length : ℤ) - 1 + 1 - (ofNat n.digits).length = n.scale by
      ring] at h
  · refine ⟨_, ?_, readsAs_scientific hn _ _⟩
    have hscale : n.scale + ((ofNat n.digits).length : ℤ) - 1 - ((ofNat n.digits).length - 1 : ℕ) =
        n.scale := by omega
    rw [hscale]

/-- Floating-point numbers are taken in their one form. -/
def Number.IsProper : Number → Prop
  | .whole _ => True
  | .float x => x.IsCanonical

def StartsNumber (text : Text) : Prop := ∃ c rest, text = c :: rest ∧ isDigit c

theorem startsNumber_append {ds : Text} (hne : ds ≠ []) (hd : ∀ c ∈ ds, isDigit c) (rest : Text) :
    StartsNumber (ds ++ rest) := by
  obtain ⟨d, more, rfl⟩ := List.exists_cons_of_ne_nil hne
  exact ⟨d, more ++ rest, rfl, hd d List.mem_cons_self⟩

theorem ne_of_isDigit {c d : CodePoint} (hc : isDigit c) (hd : isDigit d = false) : d ≠ c := by
  rintro rfl
  rw [hd] at hc
  cases hc

theorem readWord_of_digit {c : CodePoint} (h : isDigit c) (rest : Text) :
    readWord (c :: rest) = none := by
  have hn : 'n' ≠ c := ne_of_isDigit h (by decide)
  have ht : 't' ≠ c := ne_of_isDigit h (by decide)
  have hf : 'f' ≠ c := ne_of_isDigit h (by decide)
  have hN : 'N' ≠ c := ne_of_isDigit h (by decide)
  have hI : 'I' ≠ c := ne_of_isDigit h (by decide)
  have hm : '-' ≠ c := ne_of_isDigit h (by decide)
  simp [readWord, words, List.isPrefixOf, hn, ht, hf, hN, hI, hm]

theorem readWord_of_minus {c : CodePoint} (h : isDigit c) (rest : Text) :
    readWord (char '-' :: c :: rest) = none := by
  have hI : 'I' ≠ c := ne_of_isDigit h (by decide)
  simp [readWord, words, List.isPrefixOf, hI]

/-- A sign is read before a number, and nothing that begins so is a word. -/
theorem readScalar_of_readNumber {negative : Bool} {text rest : Text} {n : Number}
    (hs : StartsNumber text) (h : readNumber negative text = some (n, rest)) :
    readScalar ((if negative then [char '-'] else []) ++ text) = .ok (.number n, rest) := by
  obtain ⟨c, more, rfl, hc⟩ := hs
  cases negative with
  | false =>
    have hm : c ≠ '-' := (ne_of_isDigit hc (by decide)).symm
    have hunsigned : readScalar (c :: more) = .ok (.number n, rest) := by
      simp only [readScalar, readWord_of_digit hc]
      split
      all_goals
        rename_i heq
        split at heq
        · rename_i hminus
          exact absurd (List.cons.inj hminus).1 hm
        · rw [h] at heq
          cases heq <;> rfl
    simp only [Bool.false_eq_true, if_false, List.nil_append, hunsigned]
  | true =>
    simp only [if_true, List.cons_append, List.nil_append, readScalar, readWord_of_minus hc, h]

theorem readScalar_whole (n : ℤ) {rest : Text} (hr : EndsNumber rest) :
    readScalar (ofInt n ++ rest) = .ok (.number (.whole n), rest) := by
  have hsign : ofInt n = (if decide (n < 0) then [char '-'] else []) ++ ofNat n.natAbs := by
    unfold ofInt
    by_cases h : n < 0 <;> simp [h]
  have hvalue : (if decide (n < 0) = true then -(n.natAbs : ℤ) else n.natAbs) = n := by
    by_cases h : n < 0
    · rw [if_pos (decide_eq_true h)]
      omega
    · rw [if_neg (by simpa using h)]
      omega
  have hread := readNumber_whole (decide (n < 0)) (isWhole_ofNat n.natAbs) hr
  rw [value_ofNat, hvalue] at hread
  rw [hsign, List.append_assoc]
  exact readScalar_of_readNumber
    (startsNumber_append (ofNat_ne_nil _) (isDigit_of_mem_ofNat _) rest) hread

theorem startsNumber_of_readsAs {text : Text} {n : Numeral} (h : ReadsAs text n) :
    StartsNumber text := by
  have hread := h false [] endsNumber_nil
  rw [List.append_nil] at hread
  cases text with
  | nil => cases hread
  | cons c rest =>
    refine ⟨c, rest, rfl, ?_⟩
    by_contra hc
    have h0 : c ≠ '0' := by
      rintro rfl
      exact hc (by decide)
    simp [readNumber, readWhole, h0, hc] at hread

/-- The text of a finite number without its sign is a numeral that is rounded to this number. -/
theorem exists_readsAs (negative : Bool) {mantissa : ℕ} {exponent : ℤ}
    (hf : Binary64.IsFinite mantissa exponent) :
    ∃ text n, (Binary64.finite negative mantissa exponent).render numberSpelling =
        (if negative then [char '-'] else []) ++ text ∧ ReadsAs text n ∧
          Binary64.ofDecimal negative n.digits n.scale = .finite negative mantissa exponent := by
  by_cases hm : mantissa = 0
  · have hexp : exponent = Binary64.leastExponent := hf.full.resolve_left (by omega)
    have hzero : ReadsAs ([char '0', char '.'] ++ List.replicate 0 (char '0') ++ ofNat 0) _ :=
      readsAs_small
    rw [ofNat_of_lt (by decide)] at hzero
    refine ⟨['0', '.', '0'], ⟨0, -1⟩, ?_, hzero, ?_⟩
    · rw [Binary64.render, if_pos hm]
    · rw [hm, hexp]
      rfl
  · have hshort : (RoundingRange.of mantissa exponent).Holds
        (Numeral.shortest mantissa exponent).toRat := Numeral.shortest_holds hm hf.mantissa_lt
    obtain ⟨n, hn, hreads⟩ := readsAs_render (Numeral.digits_ne_zero_of_holds hm hshort)
    refine ⟨_, n, ?_, hreads, Numeral.ofDecimal_of_holds negative hf hm (hn ▸ hshort)⟩
    rw [Binary64.render, if_neg hm]

theorem readScalar_finite (negative : Bool) {mantissa : ℕ} {exponent : ℤ}
    (hf : Binary64.IsFinite mantissa exponent) {rest : Text} (hr : EndsNumber rest) :
    readScalar ((Binary64.finite negative mantissa exponent).render numberSpelling ++ rest) =
      .ok (.number (.float (.finite negative mantissa exponent)), rest) := by
  obtain ⟨text, n, htext, hn, hvalue⟩ := exists_readsAs negative hf
  obtain ⟨c, more, hstart, hc⟩ := startsNumber_of_readsAs hn
  have hread := hn negative rest hr
  rw [hvalue] at hread
  rw [htext, List.append_assoc]
  exact readScalar_of_readNumber ⟨c, more ++ rest, by rw [hstart, List.cons_append], hc⟩ hread

/-- A number is read from its text. -/
theorem readScalar_number {n : Number} (hn : n.IsProper) {rest : Text} (hr : EndsNumber rest) :
    readScalar (n.render ++ rest) = .ok (.number n, rest) := by
  cases n with
  | whole n => exact readScalar_whole n hr
  | float x =>
    cases x with
    | finite negative mantissa exponent => exact readScalar_finite negative hn hr
    | infinite negative => cases negative <;> rfl
    | undefined => rfl

def IsNumberStart (c : CodePoint) : Prop := isDigit c ∨ c = '-' ∨ c = 'I' ∨ c = 'N'

theorem exists_numberStart {n : Number} (hn : n.IsProper) :
    ∃ c rest, n.render = c :: rest ∧ IsNumberStart c := by
  cases n with
  | whole n =>
    by_cases h : n < 0
    · exact ⟨'-', ofNat n.natAbs, if_pos h, Or.inr (Or.inl rfl)⟩
    · obtain ⟨c, rest, hc, hd⟩ :=
        startsNumber_append (ofNat_ne_nil n.natAbs) (isDigit_of_mem_ofNat _) []
      rw [List.append_nil] at hc
      exact ⟨c, rest, (if_neg h).trans hc, Or.inl hd⟩
  | float x =>
    cases x with
    | finite negative mantissa exponent =>
      obtain ⟨text, n, htext, hreads, -⟩ := exists_readsAs negative hn
      obtain ⟨c, rest, rfl, hc⟩ := startsNumber_of_readsAs hreads
      cases negative with
      | false => exact ⟨c, rest, htext, Or.inl hc⟩
      | true => exact ⟨'-', c :: rest, htext, Or.inr (Or.inl rfl)⟩
    | infinite negative =>
      cases negative with
      | false => exact ⟨'I', _, rfl, Or.inr (Or.inr (Or.inl rfl))⟩
      | true => exact ⟨'-', _, rfl, Or.inr (Or.inl rfl)⟩
    | undefined => exact ⟨'N', _, rfl, Or.inr (Or.inr (Or.inr rfl))⟩

theorem IsNumberStart.ne {c d : CodePoint} (h : IsNumberStart c)
    (hd : isDigit d = false ∧ d ≠ '-' ∧ d ≠ 'I' ∧ d ≠ 'N') : c ≠ d := by
  rintro rfl
  rcases h with h | h | h | h
  · rw [hd.1] at h
    cases h
  · exact hd.2.1 h
  · exact hd.2.2.1 h
  · exact hd.2.2.2 h

end GeoUrn.Json
