import GeoUrn.Definition.Basic
import GeoUrn.HttpForm

/-!
Reading identifiers. A URN is walked through component by component: the scheme, the namespace and
the word `def` are checked, then type, authority, version and code are stored, and all that follows
the code are parameters. A text whose scheme is `http` is read as an HTTP form and never as a URN.
-/
namespace GeoUrn.Definition

open Text (cut split trimmed?)

/-- What is expected of a component: one of some fixed words, or a value to keep. -/
inductive Slot where
  | fixed (words : List Text)
  | objectType
  | authority
  | version
  | code
  deriving DecidableEq, Repr

def slots : List Slot :=
  [.fixed [Component.urnScheme], .fixed Component.namespaces, .fixed [Component.definition],
   .objectType, .authority, .version, .code]

/-- Takes one component into the definition, without the blanks around it. A fixed word must
match, and the code must not be blank. -/
def Slot.take? (piece : Text) (d : Definition) : Slot → Option Definition
  | .fixed words => if Component.readsAny words piece then some d else none
  | .objectType => some { d with objectType := trimmed? piece }
  | .authority => some { d with authority := trimmed? piece }
  | .version => some { d with version := trimmed? piece }
  | .code => (trimmed? piece).map fun code => { d with code := some code }

/-- Parameters keep their exact characters. One separator at the very end adds none. -/
def parametersOf : Option Text → List Text
  | none => []
  | some [] => []
  | some rest => split Component.separator rest

/-- Walks through the components; `none` as what is left says that no separator came last. -/
def walk : List Slot → Option Text → Definition → Option Definition
  | [], rest, d => some { d with parameters := parametersOf rest }
  | _ :: _, none, _ => none
  | slot :: more, some text, d =>
    match slot.take? (cut Component.separator text).1 d with
    | none => none
    | some d => walk more (cut Component.separator text).2 d

def ofUrn? (text : Text) : Option Definition := walk slots (some text) blank

def ofHttpForm (form : HttpForm) : Definition :=
  ⟨true, some form.objectType, some form.authority, none, some form.code, []⟩

def read (registry : Registry) (text : Text) : Except Text.SpanFault (Option Definition) :=
  match cut Component.separator text with
  | (_, none) => .ok none
  | (scheme, some _) =>
    if Component.reads Component.httpScheme scheme then
      (HttpForm.recognize? registry none none text (scheme.length + 1)).map fun form =>
        form.map ofHttpForm
    else .ok (ofUrn? text)

def parse? (registry : Registry) (text : Text) : Option Definition :=
  match read registry text with
  | .ok d => d
  | .error _ => none

end GeoUrn.Definition
