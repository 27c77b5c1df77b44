import FlowAtlas.CommandLine.Invocation
import FlowAtlas.Drawing.Rendering
import FlowAtlas.Listing.Colour
import FlowAtlas.Target

/-!
# Runs of the program

A run loads the target and writes what the command asks for: to a file if one is named, and to the
standard output otherwise. Nothing is written before all of it is known. Lone surrogates are shown
as escape sequences on the standard error output, and can be written nowhere else.
-/

namespace FlowAtlas.CommandLine

/-- The output file, if one is named. -/
def DrawingOptions.outputPath? (o : DrawingOptions) : Option Path :=
  (o.output?.filter fun path => !path.isEmpty).map Path.ofString

/-- The output file that a command line names. -/
def Invocation.outputPath? (i : Invocation) : Option Path :=
  match i.command with
  | .flow o | .dominators o => o.outputPath?
  | .listing _ | .tree | .bytecode => none

/-- The format of a drawing: the one that is asked for, or that of the suffix of the output file. -/
def DrawingOptions.format (o : DrawingOptions) : Format :=
  (o.format?.or (o.outputPath?.bind fun p => Format.ofSuffix? p.suffix)).getD .dot

/-- The configuration with the changes that are asked for; there is none if the layout program is
given without a name. -/
def DrawingOptions.config? (o : DrawingOptions) (base : Layout.Config) : Option Layout.Config :=
  (o.program?.getD (some base.program)).map fun program => ⟨program, o.font?.getD base.font⟩

/-- The rendering of a drawing. A text can be had without a configuration, an image cannot. -/
def DrawingOptions.render (o : DrawingOptions) (base : Layout.Config) (d : Drawing) :
    Action Rendering := do
  match o.config? base, o.format with
  | some config, format => d.render config format
  | none, .dot => d.render base .dot
  | none, _ => do
    discard (Action.give d.source)
    throw .noProgram

/-- Writes the rendering of a drawing. -/
def writeDrawing (base : Layout.Config) (d : Drawing) (o : DrawingOptions) : Action Unit := do
  let r ← o.render base d
  match o.outputPath? with
  | some path => r.write path
  | none => r.print

/-- The listing of a view, in colour or not. -/
def shownListing (v : View) (inColour : Bool) : Except Failure String :=
  v.listing.map fun text =>
    if inColour then String.ofList (colouredListing text.toList) else text

/-- Does what a command line asks for. -/
def perform (base : Layout.Config) (i : Invocation) : Action Unit := do
  let v ← Target.load i.target
  match i.command with
  | .listing inColour => do Action.printText (← Action.give (shownListing v inColour))
  | .tree => do Action.printText ((← Action.give (v.describe (.dominators true))) ++ "\n")
  | .bytecode => do Action.printText (← Action.give v.bytecodeListing)
  | .flow o => writeDrawing base (v.drawing (.flow o.includeCode)) o
  | .dominators o => writeDrawing base (v.drawing (.dominators o.includeCode)) o

/-- How a run ends: with a status and a text on the standard error output, or by a failure that is
not reported. -/
inductive Conclusion where
  | exit (status : Nat) (complaint : String)
  | failure (f : Failure)

/-- The notes of a run, if they are asked for. -/
def notesShown (i : Invocation) (w : World) : String :=
  if i.verbose then String.join (w.notes.map Note.line) else ""

/-- Runs the program in a world. -/
def run (base : Layout.Config) (i : Invocation) (w : World) : Conclusion × World :=
  match (perform base i).perform w with
  | (.ok (), w) => (.exit 0 (notesShown i w), w)
  | (.error f, w) =>
    match f.message? with
    | some message =>
      (.exit 1 (notesShown i w ++ "codeviz: error: " ++ Text.escapeSurrogates message ++ "\n"), w)
    | none => (.failure f, w)

end FlowAtlas.CommandLine
