import GeoUrn.Component
import GeoUrn.Fault
import GeoUrn.Text.Identifier

/-!
Codes given by an authority, and the URN built from one. Characters that could disturb the URN are
left out; what must be there and has no character left makes the URN impossible.
-/
namespace GeoUrn

structure AuthorityCode where
  codespace : Option Text
  version : Option Text
  code : Option Text
  deriving DecidableEq, Repr

namespace AuthorityCode

/-- Identifier characters, full stops and hyphens may stand in a component. -/
def isKept (c : CodePoint) : Bool := c = '.' || c = '-' || Text.isIdentifierPart c

def kept (component : Option Text) : Text := (component.getD []).filter isKept

/-- The URN of a code for the given object type. Only the version may be empty. -/
def toUrn? (objectType : Option Text) (id : AuthorityCode) : Option Text :=
  let type := kept objectType
  let codespace := kept id.codespace
  let code := kept id.code
  if type.isEmpty || codespace.isEmpty || code.isEmpty then none
  else
    some (Text.join [Component.separator]
      [Component.urnLead, type, codespace, kept id.version, code])

def requireUrn (objectType : Option Text) (id : Option AuthorityCode) :
    Except Fault (Option Text) :=
  match id with
  | none => .error (.missingArgument "identifier")
  | some id => .ok (toUrn? objectType id)

def urnOf (objectType codespace code version : Option Text) : Except Fault (Option Text) :=
  requireUrn objectType (some { codespace, version, code })

end AuthorityCode

end GeoUrn
