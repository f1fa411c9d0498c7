import GeoUrn.Proofs.FileTrees
import GeoUrn.Proofs.JsonTexts

/-!
What faults say. Their messages can be written to a log even if what they are about has surrogates,
since texts are shown in quotes with all that is not printable escaped.
-/
namespace GeoUrn

open CodePoint (char)
open Json (IsAscii isAscii_append isAscii_cons)

namespace Text

theorem isAscii_hex (width n : ℕ) : IsAscii (Decimal.hex width n) := by
  have hdigit : IsAscii Decimal.hexDigits := by decide
  have hdigits : IsAscii (Decimal.digits 16 n) :=
    hdigit.of_subset (Decimal.mem_hexDigits_of_mem_digits n)
  exact isAscii_append.mpr ⟨Json.isAscii_zeros _, hdigits⟩

theorem printableRanges_not_surrogate :
    ∀ r ∈ printableRanges, r.last < 0xD800 ∨ 0xE000 ≤ r.first := by
  decide +kernel

theorem isSurrogate_of_isPrintable {c : CodePoint} (h : isPrintable c = true) :
    c.isSurrogate = false := by
  obtain ⟨r, hr, hfirst, hlast⟩ := (inRanges_iff _ _).mp h
  rw [← Bool.not_eq_true, CodePoint.isSurrogate_iff]
  rcases printableRanges_not_surrogate r hr with h | h <;> omega

theorem encodable_quotedChar {quote : CodePoint} (hq : quote.isSurrogate = false) (c : CodePoint) :
    Encodable (quotedChar quote c) := by
  have hescape : ∀ letter : Char, ∀ width n,
      Encodable (char '\\' :: char letter :: Decimal.hex width n) :=
    fun letter width n => by simp [(isAscii_hex width n).encodable]
  unfold quotedChar
  split_ifs with h1 h2 h3 h4 h5 h6 h7
  · rw [Bool.or_eq_true, decide_eq_true_eq, decide_eq_true_eq] at h1
    rcases h1 with rfl | rfl
    · simp [hq]
    · decide
  · decide
  · decide
  · decide
  · simpa using isSurrogate_of_isPrintable h5
  · exact hescape 'x' 2 _
  · exact hescape 'u' 4 _
  · exact hescape 'U' 8 _

/-- A text in quotes has no surrogates. -/
theorem encodable_quoted (text : Text) : Encodable (quoted text) := by
  have hquote : (quoteFor text).isSurrogate = false := by
    unfold quoteFor
    split_ifs <;> rfl
  simp only [quoted, List.cons_append, encodable_cons, encodable_append, encodable_nil, and_true]
  exact ⟨hquote, encodable_flatMap.mpr fun c _ => encodable_quotedChar hquote c, hquote⟩

end Text

open Text (Encodable)

namespace Fault

/-- A fault of the operating system. -/
def IsSystem : Fault → Prop
  | .noEntry _ | .alreadyExists _ | .notDirectory _ | .isDirectory _ | .nameTooLong _
  | .zeroCharacter => True
  | _ => False

theorem encodable_systemMessage (number : ℕ) {description : Text} (h : Encodable description)
    (path : Text) : Encodable (systemMessage number description path) := by
  simp [systemMessage, h, Text.encodable_quoted, (Json.isAscii_ofNat number).encodable]

theorem IsSystem.encodable_message {fault : Fault} (h : fault.IsSystem) :
    Encodable fault.message := by
  cases fault with
  | noEntry path => exact encodable_systemMessage 2 (by decide) path
  | alreadyExists path => exact encodable_systemMessage 17 (by decide) path
  | notDirectory path => exact encodable_systemMessage 20 (by decide) path
  | isDirectory path => exact encodable_systemMessage 21 (by decide) path
  | nameTooLong path => exact encodable_systemMessage 36 (by decide) path
  | zeroCharacter => decide
  | _ => exact h.elim

theorem encodable_message_notUtf8 (flaw : Text.Utf8Flaw) : Encodable (notUtf8 flaw).message := by
  have hcause : Encodable flaw.cause.message := by
    cases flaw.cause <;> decide
  have hnat : ∀ n, Encodable (Decimal.ofNat n) := fun n => (Json.isAscii_ofNat n).encodable
  have hhex : ∀ n, Encodable (Decimal.hex 2 n) := fun n => (Text.isAscii_hex 2 n).encodable
  simp only [message, Text.Utf8Flaw.message]
  split <;> simp [hcause, hnat, hhex]

theorem encodable_className (fault : Fault) : Encodable fault.className := by
  cases fault <;> exact Text.encodable_ofChars _

end Fault

namespace FileTree

variable {tree made : FileTree} {path : Path} {fault : Fault}

theorem isSystem_of_enter {location : Location} {name : Chars}
    (h : tree.enter path location name = .error fault) : fault.IsSystem := by
  unfold enter at h
  split at h
  · split_ifs at h
    cases h
    trivial
  · cases h
    trivial
  · cases h
    trivial

theorem isSystem_of_follow {location : Location} {names : List Chars}
    (h : tree.follow path location names = .error fault) : fault.IsSystem := by
  induction names generalizing location with
  | nil => cases h
  | cons name rest ih =>
    rw [follow] at h
    cases he : tree.enter path location name with
    | error found =>
      rw [he] at h
      cases h
      exact isSystem_of_enter he
    | ok next =>
      rw [he] at h
      exact ih h

theorem isSystem_of_locate (h : tree.locate path = .error fault) : fault.IsSystem := by
  unfold locate at h
  split_ifs at h
  · cases h
    trivial
  · cases h
    trivial
  · unfold trace at h
    split at h
    · cases h
    · split_ifs at h
      · exact isSystem_of_follow h
      · exact isSystem_of_follow h

theorem isSystem_of_writable (h : tree.writable path = .error fault) : fault.IsSystem := by
  unfold writable at h
  split at h
  · next hl =>
    cases h
    exact isSystem_of_locate hl
  · split_ifs at h
    cases h
    trivial

theorem isSystem_of_makeDirectory (h : tree.makeDirectory path = .error fault) :
    fault.IsSystem := by
  unfold makeDirectory at h
  split at h
  · next hl =>
    cases h
    exact isSystem_of_locate hl
  · split_ifs at h
    cases h
    trivial

theorem isSystem_of_ensureDirectory (h : tree.ensureDirectory path = (.error fault, made)) :
    fault.IsSystem := by
  unfold ensureDirectory at h
  cases hm : tree.makeDirectory path with
  | ok after =>
    rw [hm] at h
    cases h
  | error found =>
    rw [hm] at h
    simp only [Prod.mk.injEq] at h
    split_ifs at h
    · cases h.1
    · cases h.1
      exact isSystem_of_makeDirectory hm

theorem isSystem_of_ensureChain {names : List Chars}
    (h : tree.ensureChain names = (.error fault, made)) : fault.IsSystem := by
  induction names generalizing made with
  | nil => cases h
  | cons name up ih =>
    rw [ensureChain] at h
    split at h
    · split at h
      · exact isSystem_of_ensureDirectory h
      · exact ih h
    · exact isSystem_of_ensureDirectory h

/-- What keeps a file from being written is a fault of the operating system. -/
theorem isSystem_of_prepare (h : tree.prepare path = (.error fault, made)) : fault.IsSystem := by
  unfold prepare at h
  cases hm : tree.makeDirectories path.parent with
  | mk result after =>
    rw [hm] at h
    cases result with
    | error found =>
      cases h
      exact isSystem_of_ensureChain hm
    | ok =>
      simp only [Prod.mk.injEq] at h
      exact isSystem_of_writable h.1

end FileTree

end GeoUrn
