/-!
# Media features

The features that have a rule of their own, their names, and the kind that decides how the values
of a feature are compared.
-/

namespace MediaQuery

/-- The features known by name. -/
inductive Feature where
  | width
  | height
  | deviceWidth
  | deviceHeight
  | resolution
  | aspectRatio
  | deviceAspectRatio
  | devicePixelRatio
  | grid
  | color
  | colorGamut
  | colorIndex
  | monochrome
  | prefersColorScheme
  | prefersContrast
  | prefersReducedMotion
  | forcedColors
  | invertedColors
  | hover
  | pointer
  | anyHover
  | anyPointer
  | orientation
  deriving DecidableEq, Repr, Inhabited

/-- How the values of a feature are read before they are compared. -/
inductive FeatureKind where
  | length
  | resolution
  | ratio
  | count
  | keyword
  deriving DecidableEq, Repr, Inhabited

namespace FeatureKind

/-- All kinds. -/
def all : List FeatureKind := [.length, .resolution, .ratio, .count, .keyword]

/-- The word for a kind. -/
def name : FeatureKind → String
  | .length => "length"
  | .resolution => "resolution"
  | .ratio => "ratio"
  | .count => "count"
  | .keyword => "opaque"

end FeatureKind

namespace Feature

/-- All known features. -/
def all : List Feature := [
  .width, .height, .deviceWidth, .deviceHeight, .resolution, .aspectRatio, .deviceAspectRatio,
  .devicePixelRatio, .grid, .color, .colorGamut, .colorIndex, .monochrome, .prefersColorScheme,
  .prefersContrast, .prefersReducedMotion, .forcedColors, .invertedColors, .hover, .pointer,
  .anyHover, .anyPointer, .orientation]

/-- The name of a feature in a query. -/
def name : Feature → String
  | .width => "width"
  | .height => "height"
  | .deviceWidth => "device-width"
  | .deviceHeight => "device-height"
  | .resolution => "resolution"
  | .aspectRatio => "aspect-ratio"
  | .deviceAspectRatio => "device-aspect-ratio"
  | .devicePixelRatio => "device-pixel-ratio"
  | .grid => "grid"
  | .color => "color"
  | .colorGamut => "color-gamut"
  | .colorIndex => "color-index"
  | .monochrome => "monochrome"
  | .prefersColorScheme => "prefers-color-scheme"
  | .prefersContrast => "prefers-contrast"
  | .prefersReducedMotion => "prefers-reduced-motion"
  | .forcedColors => "forced-colors"
  | .invertedColors => "inverted-colors"
  | .hover => "hover"
  | .pointer => "pointer"
  | .anyHover => "any-hover"
  | .anyPointer => "any-pointer"
  | .orientation => "orientation"

/-- The feature of a name. -/
def ofName? (name : String) : Option Feature := all.find? fun f => f.name == name

/-- The name with underscores for hyphens, as programs spell it. -/
def fieldName (f : Feature) : String :=
  String.ofList (f.name.toList.map fun c => if c = '-' then '_' else c)

/-- The field name in capitals. -/
def label (f : Feature) : String := String.ofList (f.fieldName.toList.map Char.toUpper)

/-- The kind of a known feature. -/
def kind : Feature → FeatureKind
  | .width | .height | .deviceWidth | .deviceHeight => .length
  | .resolution => .resolution
  | .aspectRatio | .deviceAspectRatio | .devicePixelRatio => .ratio
  | .grid | .color | .colorIndex | .monochrome => .count
  | _ => .keyword

end Feature

/-- The kind of a feature given by name; a name that is not known has keyword values. -/
def FeatureKind.ofName (name : String) : FeatureKind :=
  match Feature.ofName? name with
  | some f => f.kind
  | none => .keyword

end MediaQuery
