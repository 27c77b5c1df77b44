/-!
# Output formats

A drawing is given as a text in the DOT language or as an image. Every format has a name, a media
type, and one or two suffixes of file names.
-/

namespace FlowAtlas

/-- An output format. -/
inductive Format where
  | dot
  | png
  | svg
  | pdf
  deriving DecidableEq, Repr

namespace Format

/-- The name of a format. -/
def name : Format → String
  | dot => "dot"
  | png => "png"
  | svg => "svg"
  | pdf => "pdf"

/-- The media type of a format. -/
def mediaType : Format → String
  | dot => "text/vnd.graphviz"
  | png => "image/png"
  | svg => "image/svg+xml"
  | pdf => "application/pdf"

/-- All formats. -/
def all : List Format :=
  [dot, png, svg, pdf]

/-- All suffixes of file names, with their formats. -/
def suffixes : List (String × Format) :=
  [(".dot", dot), (".gv", dot), (".png", png), (".svg", svg), (".pdf", pdf)]

/-- The format with a name. -/
def ofName? (name : String) : Option Format :=
  all.find? (·.name = name)

/-- The format with a media type. -/
def ofMediaType? (mediaType : String) : Option Format :=
  all.find? (·.mediaType = mediaType)

/-- The format with a suffix; case does not matter. -/
def ofSuffix? (suffix : String) : Option Format :=
  suffixes.lookup suffix.toLower

end Format

end FlowAtlas
