import GeoUrn.Json.Value
import GeoUrn.Registry
import GeoUrn.Text.Basic

/-!
How the lines of an input are read: which are skipped, and under which paths HTTP forms are found.
-/
namespace GeoUrn.Batch

/-- A comment mark is never blank. -/
structure Config where
  skipBlank : Bool
  commentMark : Option Text
  registry : Registry
  visible : ∀ mark, commentMark = some mark → Text.trim mark ≠ []
  deriving DecidableEq, Repr

namespace Config

/-- What is given as the registry: one, or a value of another kind by the name of its kind. -/
inductive RegistryArgument where
  | registry (r : Registry)
  | other (kind : Text)
  deriving Repr

/-- Checks a configuration: first the comment mark, then the registry. -/
def make (skipBlank : Bool) (commentMark : Option Text) (registry : RegistryArgument) :
    Except Fault Config :=
  if h : ∀ mark, commentMark = some mark → Text.trim mark ≠ [] then
    match registry with
    | .registry r => .ok ⟨skipBlank, commentMark, r, h⟩
    | .other kind => .error (.notARegistry kind)
  else .error .blankCommentMark

def commentSign : Text := ['#']

/-- Blank lines are skipped, and so are those that begin with a number sign. -/
def standard : Config where
  skipBlank := true
  commentMark := some commentSign
  registry := .standard
  visible := by
    intro mark h
    cases h
    decide

/-- As usual, but lines that begin with a number sign are read like all others. -/
def keepingComments : Config where
  skipBlank := true
  commentMark := none
  registry := .standard
  visible := by simp

def members (config : Config) : Json.Members :=
  [("skip_blank", .bool config.skipBlank),
   ("comment_prefix", .ofOption .text config.commentMark),
   ("registry", .object (config.registry.entries.map fun e => (e.1, .text e.2)))]

/-- Whether a line is skipped: if it is blank, or if it begins with the comment mark, blanks around
the line aside. -/
def skips (config : Config) (text : Text) : Bool :=
  let stripped := Text.trim text
  (config.skipBlank && stripped.isEmpty) ||
    (match config.commentMark with
     | none => false
     | some mark => mark.isPrefixOf stripped)

end Config

end GeoUrn.Batch
