import GeoUrn.Registry
import GeoUrn.Text.Span

/-!
The HTTP form of a definition: `http:`, a registered path, the authority, an extension that may be
left out, a number sign and the code, as in `http://www.opengis.net/gml/srs/epsg.xml#4326`.
Entries of the registry are tried in order, and the first that fits wins.
-/
namespace GeoUrn

structure HttpForm where
  objectType : Text
  authority : Text
  code : Text
  deriving DecidableEq, Repr

namespace HttpForm

open Text (SpanFault slice charAt find? skipIdentifier trimRange lower)

/-- Where the authority that begins at `start` ends. An expected authority is compared up to case
and may have any characters; without one the identifier characters are taken. -/
def authorityEnd? (expected : Option Text) (url : Text) (start : Int) :
    Except SpanFault (Option Int) :=
  match expected with
  | none => (skipIdentifier url start).map some
  | some authority =>
    let stop := start + authority.length
    .ok (if lower (slice url start stop) = lower authority then some stop else none)

/-- The place of the number sign, after the authority or after an extension of any kind. -/
def anchor? (url : Text) (position : Int) : Except SpanFault (Option Int) :=
  if position < url.length then
    match charAt url position with
    | .error fault => .error fault
    | .ok c =>
      if c = '.' then .ok ((find? url '#' (position + 1)).map Int.ofNat)
      else if c = '#' then .ok (if position < 0 then none else some position)
      else .ok none
  else .ok none

/-- The code, which is all that follows the number sign, less the blanks around it. -/
def codeAfter? (url : Text) (anchor : Int) : Except SpanFault (Option Text) :=
  (trimRange url (anchor + 1) url.length).map fun code =>
    if code.isEmpty then none else some code

/-- What the URL says if it goes on at `start` with the path of this entry. -/
def ofEntry? (entry : Text × Text) (authority : Option Text) (url : Text) (start : Int) :
    Except SpanFault (Option HttpForm) :=
  let stop := start + entry.2.length
  if url.length < stop ∨ lower (slice url start stop) ≠ lower entry.2 then .ok none
  else
    match authorityEnd? authority url stop with
    | .error fault => .error fault
    | .ok none => .ok none
    | .ok (some authorityEnd) =>
      let found := slice url stop authorityEnd
      if found.isEmpty then .ok none
      else
        match anchor? url authorityEnd with
        | .error fault => .error fault
        | .ok none => .ok none
        | .ok (some anchor) =>
          (codeAfter? url anchor).map fun code? =>
            code?.map fun code => ⟨entry.1, authority.getD found, code⟩

/-- The first of the entries that fits, of those with the expected type if there is one. -/
def firstOf? (type authority : Option Text) (url : Text) (start : Int) :
    List (Text × Text) → Except SpanFault (Option HttpForm)
  | [] => .ok none
  | entry :: rest =>
    if type.any fun t => lower entry.1 != lower t then firstOf? type authority url start rest
    else
      match ofEntry? entry authority url start with
      | .error fault => .error fault
      | .ok (some form) => .ok (some form)
      | .ok none => firstOf? type authority url start rest

/-- What the URL says from `start`, just after `http:`, under one of the registered paths. A type
that is not registered has no HTTP form. -/
def recognize? (registry : Registry) (type authority : Option Text) (url : Text) (start : Int) :
    Except SpanFault (Option HttpForm) :=
  if type.any fun t => !registry.contains t then .ok none
  else firstOf? type authority url start registry.entries

end HttpForm

end GeoUrn
