import GeoUrn.Component
import GeoUrn.Json.Value
import GeoUrn.Registry

/-!
Definitions, and the forms in which they are written: the URN, the HTTP form and the JSON object.
-/
namespace GeoUrn

/-- The components of an identifier. A component that was left empty is `none`; a definition
without parameters has the empty list. -/
structure Definition where
  isHttp : Bool
  objectType : Option Text
  authority : Option Text
  version : Option Text
  code : Option Text
  parameters : List Text
  deriving DecidableEq, Repr

namespace Definition

/-- The definition without any component. -/
def blank : Definition := ⟨false, none, none, none, none, []⟩

/-- The URN. Components that are missing are written as empty texts, so that each keeps its
place. -/
def toUrn (d : Definition) : Text :=
  let components := [d.objectType, d.authority, d.version, d.code].map fun c => c.getD []
  Text.join [Component.separator] (Component.urnLead :: components ++ d.parameters)

def httpLead : Text := ['h', 't', 't', 'p', ':']

/-- What stands between authority and code when an HTTP form is written. -/
def extension : Text := ['.', 'x', 'm', 'l', '#']

/-- The HTTP form if the definition came in it and its type is registered, else the URN. -/
def toText (registry : Registry) (d : Definition) : Text :=
  match if d.isHttp then d.objectType.bind registry.path? else none with
  | some path => httpLead ++ path ++ d.authority.getD [] ++ extension ++ d.code.getD []
  | none => d.toUrn

/-- The parameters as JSON; `null` if there are none. -/
def parametersJson (parameters : List Text) : Json.Value :=
  if parameters.isEmpty then .null else .texts parameters

/-- The definition as a JSON object, with its URN as the last member. -/
def toJson (d : Definition) : Json.Value :=
  .object [
    ("is_http", .bool d.isHttp),
    ("type", .ofOption .text d.objectType),
    ("authority", .ofOption .text d.authority),
    ("version", .ofOption .text d.version),
    ("code", .ofOption .text d.code),
    ("parameters", parametersJson d.parameters),
    ("urn", .text d.toUrn)]

end Definition

end GeoUrn
