import GeoUrn.HttpForm
import GeoUrn.Component

/-!
The code of an identifier whose type and authority are known. A bare code, `EPSG:4326`, a URN and
an HTTP form are understood. The version does not count, and a code with parameters is refused.
-/
namespace GeoUrn.Code

open Text (cut trimLeft trimRight trimmed?)

/-- The code after an optional version: what follows the first separator if there is one. A second
separator means parameters. -/
def afterVersion? (text : Text) : Option Text :=
  match trimLeft text with
  | [] => none
  | c :: rest =>
    match cut Component.separator (c :: rest) with
    | (_, none) => some (trimRight (c :: rest))
    | (_, some after) =>
      match trimLeft after with
      | [] => none
      | d :: more =>
        if Component.separator ∈ d :: more then none else some (trimRight (d :: more))

/-- The text after some components, each of which must say one of its words. -/
def expect? : List (List Text) → Text → Option Text
  | [], text => some text
  | words :: more, text =>
    match cut Component.separator text with
    | (_, none) => none
    | (piece, some rest) => if Component.readsAny words piece then expect? more rest else none

/-- Reads the code, if the identifier is of the expected type and authority. A text without any
separator is itself the code. -/
def read (registry : Registry) (type authority text : Text) :
    Except Text.SpanFault (Option Text) :=
  match cut Component.separator text with
  | (_, none) => .ok (trimmed? text)
  | (scheme, some rest) =>
    if Component.reads authority scheme then .ok (afterVersion? rest)
    else if Component.reads Component.httpScheme scheme then
      (HttpForm.recognize? registry (some type) (some authority) text (scheme.length + 1)).map
        fun form =>
          match form with
          | none => none
          | some form => if Component.separator ∈ form.code then none else some form.code
    else if Component.reads Component.urnScheme scheme then
      .ok ((expect? [Component.namespaces, [Component.definition], [type], [authority]] rest).bind
        afterVersion?)
    else .ok none

def parse? (registry : Registry) (type authority text : Text) : Option Text :=
  match read registry type authority text with
  | .ok code => code
  | .error _ => none

end GeoUrn.Code
