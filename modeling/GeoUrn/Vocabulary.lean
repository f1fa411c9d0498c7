import GeoUrn.Text.Basic
import GeoUrn.Text.Case

/-!
Well-known object types and authorities with their descriptions. They inform only: a token that
is not here is as good as any other.
-/
namespace GeoUrn.Vocabulary

structure Term where
  token : Text
  description : Text
  deriving DecidableEq, Repr

def objectTypes : List Term := [
  ⟨"axis", "Coordinate system axis definition"⟩,
  ⟨"axisDirection", "Axis direction code definition"⟩,
  ⟨"coordinateOperation", "Coordinate operation definition"⟩,
  ⟨"crs", "Coordinate reference system definition"⟩,
  ⟨"cs", "Coordinate system definition"⟩,
  ⟨"datum", "Datum definition"⟩,
  ⟨"dataType", "Data type definition"⟩,
  ⟨"derivedCRSType", "Derived CRS type code definition"⟩,
  ⟨"documentType", "Document type definition"⟩,
  ⟨"ellipsoid", "Ellipsoid definition"⟩,
  ⟨"featureType", "Feature type definition"⟩,
  ⟨"group", "Operation parameter group definition"⟩,
  ⟨"meaning", "Parameter meaning definition"⟩,
  ⟨"meridian", "Prime meridian definition"⟩,
  ⟨"method", "Operation method definition"⟩,
  ⟨"nil", "Explanations for missing information"⟩,
  ⟨"parameter", "Operation parameter definition"⟩,
  ⟨"phenomenon", "Observable property definition"⟩,
  ⟨"pixelInCell", "Pixel in cell code definition"⟩,
  ⟨"rangeMeaning", "Range meaning code definition"⟩,
  ⟨"referenceSystem", "Value reference system definition"⟩,
  ⟨"uom", "Unit of measure definition"⟩,
  ⟨"verticalDatumType", "Vertical datum type code definition"⟩]

def authorities : List Term := [
  ⟨"OGC", "Objects defined by the Open Geospatial Consortium"⟩,
  ⟨"EPSG", "Referencing objects defined in the EPSG database"⟩,
  ⟨"EDCS", "Environmental Data Coding Specification"⟩,
  ⟨"SI", "International System of Units"⟩,
  ⟨"UCUM", "Unified Code for Units of Measure"⟩]

/-- The description of a token, up to case and blanks around it. -/
def describe? (terms : List Term) (token : Text) : Option Text :=
  let wanted := Text.lower (Text.trim token)
  (terms.find? fun term => Text.lower term.token == wanted).map Term.description

end GeoUrn.Vocabulary
