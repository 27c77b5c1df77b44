import FlowAtlas.Drawing.Format
import FlowAtlas.View
import FlowAtlas.World

/-!
# Renderings

The rendering of a drawing in an output format is its text in the DOT language, or the image that
the layout program makes of that text.
-/

namespace FlowAtlas

/-- The rendering of a drawing. -/
inductive Rendering where
  | text (s : String)
  | image (bytes : ByteArray)

namespace Rendering

/-- Writes a rendering to a file. -/
def write (p : Path) : Rendering → Action Unit
  | text s => Action.writeText p s
  | image bytes => Action.write p bytes

/-- Prints a rendering. -/
def print : Rendering → Action Unit
  | text s => Action.printText s
  | image bytes => Action.print bytes

end Rendering

namespace Drawing

/-- The rendering of a drawing in a format. The layout program is started for images only. -/
def render (d : Drawing) (config : Layout.Config) (format : Format) : Action Rendering := do
  let source ← Action.give d.source
  match format with
  | .dot => pure (.text source)
  | .png | .svg | .pdf => do pure (.image (← Action.runLayout config source format.name))

/-- The rendering of a drawing in the format with a media type. -/
def renderAs (d : Drawing) (config : Layout.Config) (mediaType : String) : Action Rendering :=
  match Format.ofMediaType? mediaType with
  | some format => d.render config format
  | none => throw (.request (.mediaType mediaType (Format.all.map (·.mediaType))))

/-- The rendering of a drawing in the format with a name. -/
def renderNamed (d : Drawing) (config : Layout.Config) (name : String) : Action Rendering :=
  match Format.ofName? name with
  | some format => d.render config format
  | none => throw (.request (.format name))

/-- Writes the rendering of a drawing in the format of the suffix of a path to that path. -/
def save (d : Drawing) (config : Layout.Config) (p : Path) : Action Unit :=
  match Format.ofSuffix? p.suffix with
  | some format => do
    let r ← d.render config format
    r.write p
  | none => throw (.request (.suffix p.name (Format.suffixes.map (·.1))))

/-- The rendering that a bundle holds under a media type: a vector image is given as a text. -/
def bundleItem (d : Drawing) (config : Layout.Config) (format : Format) : Action Rendering := do
  match format, ← d.render config format with
  | .svg, .image bytes =>
    pure (.text (← Action.give ((Text.Utf8.decode bytes).mapError .encoding)))
  | _, r => pure r

/-- A bundle with a rendering put under a media type; one that is there keeps its place. -/
def putRendering (bundle : List (String × Rendering)) (mediaType : String) (r : Rendering) :
    List (String × Rendering) :=
  if bundle.any (·.1 = mediaType) then
    bundle.map fun (m, old) => if m = mediaType then (m, r) else (m, old)
  else bundle ++ [(mediaType, r)]

/-- The renderings of a drawing under the media types that are included, or a vector image if none
is, without those that are excluded. Unknown media types are left out. -/
def bundle (d : Drawing) (config : Layout.Config) (included excluded : List String) :
    Action (List (String × Rendering)) :=
  let wanted := if included.isEmpty then [Format.svg.mediaType] else included
  wanted.foldlM (fun bundle mediaType =>
    match Format.ofMediaType? mediaType with
    | none => pure bundle
    | some format =>
      if excluded.contains mediaType then pure bundle
      else do pure (putRendering bundle mediaType (← d.bundleItem config format))) []

end Drawing

end FlowAtlas
