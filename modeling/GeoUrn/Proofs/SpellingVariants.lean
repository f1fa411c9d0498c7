import GeoUrn.Proofs.AsciiCase
import GeoUrn.Proofs.CodeAgreement

/-!
Identifiers in other spellings. The fixed words of a URN, and its type and authority where these are
only compared, may be written in capitals or not and with blanks around them; so may all that stands
before the number sign of an HTTP form be in capitals or not. No variant takes another path through
the recognizers.
-/
open GeoUrn.CodePoint (char)

namespace GeoUrn.HttpForm
open Text

/-- The same texts from the first number sign on, and up to the case of ASCII letters before it. -/
inductive SameToSign : Text → Text → Prop
  | nil : SameToSign [] []
  | cons {c d : CodePoint} {x y : Text} (hs : c ≠ '#') (hc : c.toLower = d.toLower)
      (h : SameToSign x y) : SameToSign (c :: x) (d :: y)
  | sign (rest : Text) : SameToSign (char '#' :: rest) (char '#' :: rest)

namespace SameToSign

variable {x y : Text}

theorem refl (x : Text) : SameToSign x x := by
  induction x with
  | nil => exact .nil
  | cons c x ih =>
    by_cases hs : c = '#'
    · exact hs ▸ .sign x
    · exact .cons hs rfl ih

theorem sameAscii (h : SameToSign x y) : SameAscii x y := by
  induction h with
  | nil => exact .refl []
  | cons _ hc _ ih => exact ih.cons hc
  | sign rest => exact .refl _

theorem tail (h : SameToSign x y) : SameToSign x.tail y.tail := by
  cases h with
  | nil => exact .nil
  | cons _ _ h => exact h
  | sign rest => exact .refl rest

theorem drop (h : SameToSign x y) (n : ℕ) : SameToSign (x.drop n) (y.drop n) := by
  induction n with
  | zero => exact h
  | succ n ih =>
    have ht := ih.tail
    rwa [List.tail_drop, List.tail_drop] at ht

/-- A character that is no letter stands in both or in neither. -/
theorem head_eq_iff {c d a : CodePoint} (hc : c.toLower = d.toLower) (ha : a.isAlpha = false) :
    c = a ↔ d = a := by
  rw [← toLower_eq_iff ha c, hc, toLower_eq_iff ha d]

theorem cut_snd (h : SameToSign x y) : (cut (char '#') x).2 = (cut (char '#') y).2 := by
  induction h with
  | nil => rfl
  | @cons c d x y hs hc h ih =>
    have hs' : d ≠ '#' := fun hd => hs ((head_eq_iff hc (by decide)).mpr hd)
    simp only [cut, hs, hs', if_false]
    exact ih
  | sign rest => rfl

theorem codeIn?_eq (h : SameToSign x y) : codeIn? x = codeIn? y := by
  cases h with
  | nil => rfl
  | @cons c d x y hs hc h =>
    have hs' : d ≠ '#' := fun hd => hs ((head_eq_iff hc (by decide)).mpr hd)
    have hdot : c = '.' ↔ d = '.' := head_eq_iff hc (by decide)
    simp only [codeIn?, hs, hs', if_false, hdot, h.cut_snd]
  | sign rest => rfl

theorem readAuthority?_eq (h : SameToSign x y) (type authority : Text) :
    readAuthority? type (some authority) x = readAuthority? type (some authority) y := by
  have hfound : SameAscii (authorityIn (some authority) x) (authorityIn (some authority) y) :=
    h.sameAscii.take _
  have hadmits : admits (some authority) (authorityIn (some authority) x) =
      admits (some authority) (authorityIn (some authority) y) := by
    simp only [admits, Option.all_some, hfound.sameIgnoringCase_eq, hfound.isEmpty_eq]
  simp only [readAuthority?, hadmits, hfound.length_eq, (h.drop _).codeIn?_eq, Option.getD_some]

theorem readTail?_eq (h : SameToSign x y) (entry : Text × Text) (authority : Text) :
    readTail? entry (some authority) x = readTail? entry (some authority) y := by
  rw [readTail?, readTail?, (h.sameAscii.take _).sameIgnoringCase_eq, (h.drop _).readAuthority?_eq]

end SameToSign

end GeoUrn.HttpForm

namespace GeoUrn.Definition
open Text

/-- Whether a component says one of the namespaces, in capitals or not. -/
def IsNamespace (text : Text) : Prop :=
  Spells ['o', 'g', 'c'] text ∨ Spells ['x', '-', 'o', 'g', 'c'] text

instance (text : Text) : Decidable (IsNamespace text) := inferInstanceAs (Decidable (_ ∨ _))

/-- The pieces of two texts where the first `k` components differ at most in the case of ASCII
letters or in the choice of the namespace, and the others not at all. Blanks around a component do
not count. -/
structure IsVariant (k : ℕ) (pieces others : List Text) : Prop where
  length : pieces.length = others.length
  spelled : ∀ i < k, SameAscii (piece pieces i) (piece others i) ∨
    i = 1 ∧ IsNamespace (piece pieces 1) ∧ IsNamespace (piece others 1)
  said : (pieces.drop k).map trim = (others.drop k).map trim

instance (k : ℕ) (pieces others : List Text) : Decidable (IsVariant k pieces others) :=
  decidable_of_iff (pieces.length = others.length ∧
      (∀ i < k, SameAscii (piece pieces i) (piece others i) ∨
        i = 1 ∧ IsNamespace (piece pieces 1) ∧ IsNamespace (piece others 1)) ∧
      (pieces.drop k).map trim = (others.drop k).map trim)
    ⟨fun ⟨hl, hs, hr⟩ => ⟨hl, hs, hr⟩, fun ⟨hl, hs, hr⟩ => ⟨hl, hs, hr⟩⟩

theorem piece_eq_map_trim {k i : ℕ} (hi : k ≤ i) (pieces : List Text) :
    piece pieces i = ((pieces.drop k).map trim).getD (i - k) [] := by
  rw [piece, List.getD_eq_getElem?_getD, List.getD_eq_getElem?_getD, List.getElem?_map,
    List.getElem?_drop, Nat.add_sub_cancel' hi]
  cases pieces[i]? <;> rfl

theorem spells_congr {x y : Text} (h : SameAscii x y) (word : Text) :
    Spells word x ↔ Spells word y := by
  rw [Spells, h, Spells]

namespace IsVariant

variable {k : ℕ} {pieces others : List Text}

theorem symm (h : IsVariant k pieces others) : IsVariant k others pieces where
  length := h.length.symm
  spelled i hi := (h.spelled i hi).imp SameAscii.symm fun ⟨hone, hp, ho⟩ => ⟨hone, ho, hp⟩
  said := h.said.symm

theorem sameAscii (h : IsVariant k pieces others) {i : ℕ} (hi : i < k) (hone : i ≠ 1) :
    SameAscii (piece pieces i) (piece others i) :=
  (h.spelled i hi).resolve_right fun hn => hone hn.1

theorem isNamespace (h : IsVariant k pieces others) (hk : 1 < k)
    (hn : IsNamespace (piece pieces 1)) : IsNamespace (piece others 1) := by
  rcases h.spelled 1 hk with hsame | ⟨-, -, ho⟩
  · exact hn.imp (spells_congr hsame _).mp (spells_congr hsame _).mp
  · exact ho

theorem piece_eq (h : IsVariant k pieces others) {i : ℕ} (hi : k ≤ i) :
    piece pieces i = piece others i := by
  rw [piece_eq_map_trim hi, h.said, piece_eq_map_trim hi]

theorem isUrn (h : IsVariant 3 pieces others) (hu : IsUrn pieces) : IsUrn others where
  length := h.length ▸ hu.length
  scheme := (spells_congr (h.sameAscii (by decide) (by decide)) _).mp hu.scheme
  namespace_ := h.isNamespace (by decide) hu.namespace_
  definition := (spells_congr (h.sameAscii (by decide) (by decide)) _).mp hu.definition
  code := h.piece_eq (i := 6) (by decide) ▸ hu.code

theorem ofPieces_eq (h : IsVariant 3 pieces others) (hp : pieces.drop 7 = others.drop 7) :
    ofPieces pieces = ofPieces others := by
  simp only [ofPieces, h.piece_eq (i := 3) (by decide), h.piece_eq (i := 4) (by decide),
    h.piece_eq (i := 5) (by decide), h.piece_eq (i := 6) (by decide), hp]

theorem isHttp (h : IsVariant k pieces others) (hk : 0 < k) (hh : IsHttp pieces) :
    IsHttp others where
  length := h.length ▸ hh.length
  scheme := (spells_congr (h.sameAscii hk (by decide)) _).mp hh.scheme

theorem isUrnOf (h : IsVariant 5 pieces others) {type authority : Text}
    (hu : Code.IsUrnOf type authority pieces) : Code.IsUrnOf type authority others where
  length := h.length ▸ hu.length
  scheme := (h.sameAscii (i := 0) (by decide) (by decide)).sameIgnoringCase_eq _ ▸ hu.scheme
  namespace_ := by
    have hn : IsNamespace (piece pieces 1) :=
      hu.namespace_.imp (sameIgnoringCase_plain_iff (by decide) _).mp
        (sameIgnoringCase_plain_iff (by decide) _).mp
    exact (h.isNamespace (by decide) hn).imp (sameIgnoringCase_plain_iff (by decide) _).mpr
      (sameIgnoringCase_plain_iff (by decide) _).mpr
  definition :=
    (h.sameAscii (i := 2) (by decide) (by decide)).sameIgnoringCase_eq _ ▸ hu.definition
  objectType :=
    (h.sameAscii (i := 3) (by decide) (by decide)).sameIgnoringCase_eq _ ▸ hu.objectType
  authority := (h.sameAscii (i := 4) (by decide) (by decide)).sameIgnoringCase_eq _ ▸ hu.authority

end IsVariant

theorem read_eq_of_variant {text other : Text}
    (hs : ¬ IsHttp (split Component.separator text))
    (h : IsVariant 3 (split Component.separator text) (split Component.separator other))
    (hp : (split Component.separator text).drop 7 = (split Component.separator other).drop 7)
    (registry : Registry) : read registry text = read registry other := by
  have hs' : ¬ IsHttp (split Component.separator other) :=
    fun hh => hs (h.symm.isHttp (by decide) hh)
  have hu : IsUrn (split Component.separator text) ↔ IsUrn (split Component.separator other) :=
    ⟨h.isUrn, h.symm.isUrn⟩
  rw [read_of_not_isHttp hs, read_of_not_isHttp hs']
  simp only [hu, h.ofPieces_eq hp]

end GeoUrn.Definition

namespace GeoUrn.Code
open Text Component
open Definition (IsVariant Spells piece)

theorem lastOf?_congr {pieces others : List Text} (h : pieces.map trim = others.map trim) :
    lastOf? pieces = lastOf? others := by
  have htrimmed {x y : Text} (hxy : trim x = trim y) : trimmed? x = trimmed? y := by
    rw [trimmed?_eq, trimmed?_eq, hxy]
  have hlen : pieces.length = others.length := by
    have hl := congrArg List.length h
    rwa [List.length_map, List.length_map] at hl
  match pieces, others, hlen, h with
  | [], [], _, _ => rfl
  | [_], [_], _, h => exact htrimmed (List.cons.inj h).1
  | [_, _], [_, _], _, h => exact htrimmed (List.cons.inj (List.cons.inj h).2).1
  | _ :: _ :: _ :: _, _ :: _ :: _ :: _, _, _ => rfl

theorem lastOf?_of_length {pieces : List Text} (h : 2 < pieces.length) : lastOf? pieces = none := by
  match pieces, h with
  | _ :: _ :: _ :: _, _ => rfl

/-- The code of a text whose first piece is the scheme of a URN. With so many pieces none of them is
the code of an authority that is spelled like the scheme. -/
theorem read_of_urnScheme {text : Text} (hlen : 6 ≤ (split separator text).length)
    (hs : Spells ['u', 'r', 'n'] (piece (split separator text) 0)) (registry : Registry)
    (type authority : Text) :
    read registry type authority text = .ok (
      if sameIgnoringCase (piece (split separator text) 0) authority then none
      else if IsUrnOf type authority (split separator text) then
        lastOf? ((split separator text).drop 5)
      else none) := by
  have hnot : ¬ Definition.IsHttp (split separator text) := fun hh =>
    absurd (hs.symm.trans hh.scheme) (by decide)
  rcases cut_cases separator text with ⟨hn, -⟩ | ⟨scheme, rest, -, -, hcut⟩
  · rw [split_of_not_mem hn] at hlen
    exact absurd hlen (by simp)
  · have hsplit : split separator text = scheme :: split separator rest := by
      rw [split_eq_cut, hcut]
      rfl
    rw [Definition.isHttp_iff hcut] at hnot
    rw [read_of_cut hcut (HttpForm.recognize?_eq _ _ _ _ _), if_neg hnot, hsplit]
    rw [hsplit, List.length_cons] at hlen
    rw [lastOf?_of_length (by omega)]
    rfl

theorem read_eq_of_variant {text other : Text} (hlen : 6 ≤ (split separator text).length)
    (hs : Spells ['u', 'r', 'n'] (piece (split separator text) 0))
    (h : IsVariant 5 (split separator text) (split separator other)) (registry : Registry)
    (type authority : Text) :
    read registry type authority text = read registry type authority other := by
  have hscheme := h.sameAscii (i := 0) (by decide) (by decide)
  have hs' := (Definition.spells_congr hscheme _).mp hs
  have hurn : IsUrnOf type authority (split separator text) ↔
      IsUrnOf type authority (split separator other) := ⟨h.isUrnOf, h.symm.isUrnOf⟩
  rw [read_of_urnScheme hlen hs, read_of_urnScheme (h.length ▸ hlen) hs',
    hscheme.sameIgnoringCase_eq, lastOf?_congr h.said]
  simp only [hurn]

theorem idxOf_append {scheme : Text} (h : separator ∉ scheme) (tail : Text) :
    (scheme ++ separator :: tail).idxOf separator = scheme.length := by
  rw [List.idxOf_append_of_notMem h, List.idxOf_cons_self, Nat.add_zero]

theorem isHttp_append {scheme : Text} (h : separator ∉ scheme) (tail : Text) :
    Definition.IsHttp (split separator (scheme ++ separator :: tail)) ↔
      Spells ['h', 't', 't', 'p'] (trim scheme) := by
  rw [Definition.isHttp_iff (cut_append h tail)]
  exact Definition.reads_iff_spells (by decide) scheme

/-- Where the authority is expected in the HTTP form, what stands before the number sign is only
compared. -/
theorem read_http_eq_of_sameToSign {scheme scheme' tail tail' : Text} (hn : separator ∉ scheme)
    (hs : Spells ['h', 't', 't', 'p'] (trim scheme)) (hscheme : SameAscii scheme scheme')
    (htail : HttpForm.SameToSign tail tail') (registry : Registry) (type : Text)
    {authority : Text} (ha : ¬ sameIgnoringCase authority ['h', 't', 't', 'p']) :
    read registry type authority (scheme ++ separator :: tail) =
      read registry type authority (scheme' ++ separator :: tail') := by
  have hn' : separator ∉ scheme' := fun hm => hn ((hscheme.mem_iff (by decide)).mpr hm)
  have hs' := (Definition.spells_congr hscheme.trim _).mp hs
  have hdrop {front : Text} (back : Text) :
      (front ++ separator :: back).drop (front.length + 1) = back := by simp
  rw [read_of_isHttp ((isHttp_append hn tail).mpr hs) ha,
    read_of_isHttp ((isHttp_append hn' tail').mpr hs') ha, HttpForm.recognize?_eq,
    HttpForm.recognize?_eq, idxOf_append hn, idxOf_append hn', hdrop, hdrop]
  have hentry : HttpForm.readTyped? (some type) (some authority) tail =
      HttpForm.readTyped? (some type) (some authority) tail' :=
    funext fun entry => by rw [HttpForm.readTyped?, HttpForm.readTyped?, htail.readTail?_eq]
  rw [hentry]

theorem trimmed?_map_toLower (text : Text) :
    trimmed? (text.map CodePoint.toLower) = (trimmed? text).map (List.map CodePoint.toLower) := by
  rw [trimmed?_eq, trimmed?_eq, trim_map_toLower]
  split_ifs with h h' h'
  · rfl
  · exact absurd (List.map_eq_nil_iff.mp h) h'
  · exact absurd (List.map_eq_nil_iff.mpr h') h
  · rfl

theorem lastOf?_map_toLower (pieces : List Text) :
    lastOf? (pieces.map (List.map CodePoint.toLower)) =
      (lastOf? pieces).map (List.map CodePoint.toLower) := by
  match pieces with
  | [] => rfl
  | [code] => exact trimmed?_map_toLower code
  | [_, code] => exact trimmed?_map_toLower code
  | _ :: _ :: _ :: _ => rfl

theorem read_of_httpAuthority {scheme : Text} (hn : separator ∉ scheme)
    (hs : Spells ['h', 't', 't', 'p'] (trim scheme)) {authority : Text}
    (ha : sameIgnoringCase authority ['h', 't', 't', 'p']) (registry : Registry)
    (type tail : Text) :
    read registry type authority (scheme ++ separator :: tail) =
      .ok (lastOf? (split separator tail)) := by
  have hreads : reads authority scheme := by
    rw [sameIgnoringCase_comm] at ha
    exact sameIgnoringCase_trans ((sameIgnoringCase_plain_iff (by decide) _).mpr hs) ha
  rw [read_of_cut (cut_append hn tail) (HttpForm.recognize?_eq _ _ _ _ _), if_pos hreads]

/-- Where the scheme is itself the authority, what stands before the number sign is part of the
code, and the code changes with it. -/
theorem read_httpAuthority_of_sameAscii {scheme scheme' tail tail' : Text}
    (hn : separator ∉ scheme) (hs : Spells ['h', 't', 't', 'p'] (trim scheme))
    (hscheme : SameAscii scheme scheme') (htail : SameAscii tail tail') {authority : Text}
    (ha : sameIgnoringCase authority ['h', 't', 't', 'p']) (registry : Registry) (type : Text) :
    ∃ code code', read registry type authority (scheme ++ separator :: tail) = .ok code ∧
      read registry type authority (scheme' ++ separator :: tail') = .ok code' ∧
        code.map (List.map CodePoint.toLower) = code'.map (List.map CodePoint.toLower) := by
  have hn' : separator ∉ scheme' := fun hm => hn ((hscheme.mem_iff (by decide)).mpr hm)
  have hs' := (Definition.spells_congr hscheme.trim _).mp hs
  refine ⟨_, _, read_of_httpAuthority hn hs ha registry type tail,
    read_of_httpAuthority hn' hs' ha registry type tail', ?_⟩
  have hsep : separator.isAlpha = false := by decide
  rw [← lastOf?_map_toLower, ← lastOf?_map_toLower, ← split_map_toLower hsep,
    ← split_map_toLower hsep, htail]

/-- Variants of an identifier are read alike. In a URN with so many components the fixed words, the
type and the authority may be spelled in other letters when only the code is asked for, the fixed
words when the definition is, and blanks around a component never count, parameters aside. In an
HTTP form the letters before the number sign do not count, unless the authority is `http` itself: then
the code has them. -/
theorem variants_read_alike :
    (∀ text other, 6 ≤ (split separator text).length →
      Spells ['u', 'r', 'n'] (piece (split separator text) 0) →
        (IsVariant 5 (split separator text) (split separator other) →
          ∀ registry type authority,
            read registry type authority text = read registry type authority other) ∧
        (IsVariant 3 (split separator text) (split separator other) →
          (split separator text).drop 7 = (split separator other).drop 7 →
            ∀ registry, Definition.read registry text = Definition.read registry other)) ∧
    ∀ scheme scheme' tail tail', separator ∉ scheme →
      Spells ['h', 't', 't', 'p'] (trim scheme) → SameAscii scheme scheme' →
      HttpForm.SameToSign tail tail' → ∀ registry type authority,
        (¬ sameIgnoringCase authority ['h', 't', 't', 'p'] →
          read registry type authority (scheme ++ separator :: tail) =
            read registry type authority (scheme' ++ separator :: tail')) ∧
        (sameIgnoringCase authority ['h', 't', 't', 'p'] → ∃ code code',
          read registry type authority (scheme ++ separator :: tail) = .ok code ∧
          read registry type authority (scheme' ++ separator :: tail') = .ok code' ∧
          code.map (List.map CodePoint.toLower) = code'.map (List.map CodePoint.toLower)) := by
  refine ⟨fun text other hlen hs => ⟨fun h => ?_, fun h hp => ?_⟩, ?_⟩
  · exact read_eq_of_variant hlen hs h
  · have hnot : ¬ Definition.IsHttp (split separator text) := fun hh =>
      absurd (hs.symm.trans hh.scheme) (by decide)
    exact Definition.read_eq_of_variant hnot h hp
  · intro scheme scheme' tail tail' hn hs hscheme htail registry type authority
    exact ⟨read_http_eq_of_sameToSign hn hs hscheme htail registry type,
      fun ha => read_httpAuthority_of_sameAscii hn hs hscheme htail.sameAscii ha registry type⟩

theorem variants_read_alike_of_epsg :
    (IsVariant 5 (split separator ("urn:ogc:def:crs:EPSG:8.2:4326" : String))
        (split separator (" URN : x-OGC:Def:CRS: epsg : 8.2:4326\n" : String)) ∧
      read .standard ['c', 'r', 's'] ['E', 'P', 'S', 'G']
          ("urn:ogc:def:crs:EPSG:8.2:4326" : String) =
        read .standard ['c', 'r', 's'] ['E', 'P', 'S', 'G']
          (" URN : x-OGC:Def:CRS: epsg : 8.2:4326\n" : String)) ∧
    (IsVariant 3 (split separator ("urn:ogc:def:crs:OGC::AUTO:1 :" : String))
        (split separator ("Urn:X-ogc: DEF:crs :OGC: : AUTO:1 :" : String)) ∧
      Definition.read .standard ("urn:ogc:def:crs:OGC::AUTO:1 :" : String) =
        Definition.read .standard ("Urn:X-ogc: DEF:crs :OGC: : AUTO:1 :" : String)) ∧
    HttpForm.SameToSign ['/', 'E', '#', 'a'] ['/', 'e', '#', 'a'] ∧
      read .standard ['c', 'r', 's'] ['E']
          ((['H', 't', 't', 'p'] : Text) ++ separator :: ['/', 'E', '#', 'a']) =
        read .standard ['c', 'r', 's'] ['E']
          ((['h', 't', 't', 'P'] : Text) ++ separator :: ['/', 'e', '#', 'a']) := by
  obtain ⟨hurn, hhttp⟩ := variants_read_alike
  have hcode : IsVariant 5 (split separator ("urn:ogc:def:crs:EPSG:8.2:4326" : String))
      (split separator (" URN : x-OGC:Def:CRS: epsg : 8.2:4326\n" : String)) := by decide +kernel
  have hdefinition : IsVariant 3 (split separator ("urn:ogc:def:crs:OGC::AUTO:1 :" : String))
      (split separator ("Urn:X-ogc: DEF:crs :OGC: : AUTO:1 :" : String)) := by decide +kernel
  have htail : HttpForm.SameToSign ['/', 'E', '#', 'a'] ['/', 'e', '#', 'a'] :=
    .cons (by decide) rfl (.cons (by decide) rfl (.sign _))
  refine ⟨⟨hcode, ?_⟩, ⟨hdefinition, ?_⟩, htail, ?_⟩
  · exact (hurn _ _ (by decide) (by decide)).1 hcode _ _ _
  · exact (hurn _ _ (by decide) (by decide)).2 hdefinition (by decide) _
  · exact (hhttp _ _ _ _ (by decide) (by decide) (by decide) htail _ _ _).1 (by decide +kernel)

/-- For the authority `http` the letters before the number sign are part of the code. -/
theorem read_keeps_case_of_httpAuthority :
    ¬ ∀ scheme scheme' tail tail', separator ∉ scheme →
      Spells ['h', 't', 't', 'p'] (trim scheme) → char '#' ∈ tail → SameAscii scheme scheme' →
      HttpForm.SameToSign tail tail' → ∀ registry type authority,
        read registry type authority (scheme ++ separator :: tail) =
          read registry type authority (scheme' ++ separator :: tail') := by
  intro h
  have htail : HttpForm.SameToSign ['a', '#', '1'] ['A', '#', '1'] :=
    .cons (by decide) rfl (.sign _)
  have he := h ['h', 't', 't', 'p'] ['h', 't', 't', 'p'] _ _ (by decide) (by decide) (by decide)
    (.refl _) htail .standard ['c', 'r', 's'] ['h', 't', 't', 'p']
  exact absurd he (by decide +kernel)

end GeoUrn.Code
