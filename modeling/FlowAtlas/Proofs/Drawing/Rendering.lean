import FlowAtlas.Drawing.Rendering
import FlowAtlas.Proofs.World

/-!
# What rendering a drawing does

A drawing without a text is not rendered at all. Its text is the rendering in the text format, and
for an image the layout program is started once on that text, unless it holds a lone surrogate.

## Main results

* `Format.ofSuffix?_eq_some_iff`: the format of a suffix.
* `Drawing.perform_render_of_error`, `Drawing.perform_render_dot`, `Drawing.perform_render_image`,
  `Drawing.perform_render_unencodable`: what becomes of the rendering of a drawing.
-/

namespace FlowAtlas

open FlowAtlas.Action
open FlowAtlas.Text (HasSurrogate)

/-- **The format of a suffix** is the one that the table of suffixes gives for it, in any letter
case. -/
theorem Format.ofSuffix?_eq_some_iff {suffix : String} {format : Format} :
    ofSuffix? suffix = some format ↔ (suffix.toLower, format) ∈ suffixes := by
  rw [ofSuffix?]
  generalize suffix.toLower = lower
  constructor
  · intro h
    obtain ⟨before, after, heq, -⟩ := List.lookup_eq_some_iff.mp h
    exact heq ▸ List.mem_append_right _ List.mem_cons_self
  · intro h
    simp only [suffixes, List.mem_cons, Prod.mk.injEq, List.not_mem_nil, or_false] at h
    rcases h with ⟨rfl, rfl⟩ | ⟨rfl, rfl⟩ | ⟨rfl, rfl⟩ | ⟨rfl, rfl⟩ | ⟨rfl, rfl⟩
    all_goals rfl

namespace Drawing

variable {d : Drawing} {source : String}

/-- A drawing without a text is not rendered. -/
theorem perform_render_of_error {f : Failure} (hsource : d.source = .error f)
    (config : Layout.Config) (format : Format) (w : World) :
    (d.render config format).perform w = (.error f, w) := by
  rw [render, hsource, perform_bind_of_error (perform_give _ w)]

theorem perform_render_dot (hsource : d.source = .ok source) (config : Layout.Config) (w : World) :
    (d.render config .dot).perform w = (.ok (.text source), w) := by
  rw [render, hsource, perform_bind_of_ok (perform_give _ w), perform_pure]

/-- For an image the layout program is started on the text of the drawing. -/
theorem perform_render_of_ne (hsource : d.source = .ok source) (config : Layout.Config)
    {format : Format} (hformat : format ≠ .dot) (w : World) :
    (d.render config format).perform w =
      (do pure (Rendering.image (← runLayout config source format.name)) : Action Rendering).perform
        w := by
  rw [render, hsource, perform_bind_of_ok (perform_give _ w)]
  cases format with
  | dot => exact absurd rfl hformat
  | png | svg | pdf => rfl

theorem perform_render_image (hsource : d.source = .ok source) (hplain : ¬ HasSurrogate source)
    (config : Layout.Config) {format : Format} (hformat : format ≠ .dot) (w : World) :
    (d.render config format).perform w =
      (((w.layout ⟨config.command format.name, source.toUTF8⟩).output
        ⟨config.command format.name, source.toUTF8⟩).map .image,
        w.started ⟨config.command format.name, source.toUTF8⟩) := by
  rw [perform_render_of_ne hsource config hformat]
  have hrun := perform_runLayout hplain config format.name w
  cases houtput : (w.layout ⟨config.command format.name, source.toUTF8⟩).output
      ⟨config.command format.name, source.toUTF8⟩ with
  | ok bytes =>
    rw [houtput] at hrun
    exact perform_bind_of_ok hrun
  | error f =>
    rw [houtput] at hrun
    exact perform_bind_of_error hrun

theorem perform_render_unencodable {run : Text.Utf8.SurrogateRun} (hsource : d.source = .ok source)
    (hrun : Text.Utf8.encode source = .error run) (config : Layout.Config) {format : Format}
    (hformat : format ≠ .dot) (w : World) :
    (d.render config format).perform w = (.error (.request (.unencodable run)),
      { w with notes := w.notes ++ [.started (config.command format.name)] }) := by
  rw [perform_render_of_ne hsource config hformat]
  exact perform_bind_of_error (perform_runLayout_of_encode_error hrun config format.name w)

end Drawing

end FlowAtlas
