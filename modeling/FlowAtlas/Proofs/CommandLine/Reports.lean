import FlowAtlas.Proofs.CommandLine.Output
import FlowAtlas.Proofs.DomTree.Descent
import FlowAtlas.Proofs.Target

/-!
# What runs report

A run that does not end well is reported to the user by a line with the name of the program and the
cause, for all causes that have a wording. What is left are the failures of loading the target that
have none, a tree that is too deep to be gone through, an image that is asked for without a layout
program, and an output file that cannot be written.

## Main definitions

* `Conclusion.Reported`: the runs that end well or are reported.
* `Escapes`, `Accounted`: how a run fails without a report, and at all.

## Main results

* `meets_writeDrawing`: what becomes of writing a drawing.
* `meets_perform`: what becomes of what a command asks for.
* `run_reported_or_escapes`: a run is reported, or it fails in one of the ways that are left.
-/

namespace FlowAtlas.CommandLine

open FlowAtlas.Action

variable {base : Layout.Config} {d : Drawing} {o : DrawingOptions} {w : World}

/-- A run ends well, or with a complaint: some lines, and one with the name of the program and the
cause. -/
inductive Conclusion.Reported : Conclusion → Prop
  | done (notes : String) : Reported (.exit 0 notes)
  | complaint (lines : List String) (message : String) :
    Reported (.exit 1
      (String.join (lines.map (· ++ "\n")) ++ "codeviz: error: " ++ message ++ "\n"))

/-- How a run fails without a report. -/
inductive Escapes (base : Layout.Config) (i : Invocation) (w : World) : Failure → Prop
  /-- The target cannot be loaded. -/
  | loading {f : Failure} (h : Target.Escapes w i.target f) : Escapes base i w f
  /-- The tree is too deep to be gone through. -/
  | tooDeep {v : View} {t : DomTree} (hcommand : i.command = .tree)
    (hload : ((Target.load i.target).perform w).1 = .ok v) (htree : v.tree = some t)
    (hdeep : ¬ t.Ends levelLimit 1) : Escapes base i w .tooDeep
  /-- An image is asked for without a layout program. -/
  | noProgram {o : DrawingOptions} (hcommand : i.command = .flow o ∨ i.command = .dominators o)
    (hconfig : o.config? base = none) (hformat : o.format ≠ .dot) : Escapes base i w .noProgram
  /-- The output file cannot be written. -/
  | file {p : Path} {contents : ByteArray} {flaw : FileFlaw} (hpath : i.outputPath? = some p)
    (hwrite : w.files.write p contents = .error flaw) : Escapes base i w (.file flaw)

/-- A failure of a run is accounted for: it is reported, or it is one of those without a report. -/
abbrev Accounted (base : Layout.Config) (i : Invocation) (w : World) (f : Failure) : Prop :=
  f.Reported ∨ Escapes base i w f

/-! ### Drawings -/

/-- What becomes of rendering a drawing. -/
theorem meets_render {P : Failure → Prop} (hsource : FailsOnly P d.source)
    (hrun : ∀ flaw, P (.run flaw)) (hrequest : ∀ flaw, P (.request flaw))
    (hprogram : o.config? base = none → o.format ≠ .dot → P .noProgram) (w : World) :
    Meets (o.render base d) w P fun _ w' => w'.files = w.files := by
  have hrendered := rendered_render base d o w
  rcases hstep : (o.render base d).perform w with ⟨r, w'⟩
  rw [hstep] at hrendered
  cases hrendered with
  | failed hcause =>
    refine meets_of_perform hstep (.error ?_) nofun
    rcases hcause with hcause | ⟨rfl, hconfig, hformat⟩
    · exact hsource _ hcause
    · exact hprogram hconfig hformat
  | unencodable _ hnoted =>
    exact meets_of_perform hstep (.error (hrequest _)) nofun
  | text => exact meets_of_perform hstep (.ok _) fun _ _ => rfl
  | @image source call =>
    refine meets_of_perform hstep (FailsOnly.map ?_ _) fun _ _ => rfl
    refine (Layout.Outcome.failsOnly_output call _).mono ?_
    rintro _ ⟨flaw, rfl⟩
    exact hrun flaw

/-- What becomes of writing a drawing. -/
theorem meets_writeDrawing {P : Failure → Prop} (hsource : FailsOnly P d.source)
    (hrun : ∀ flaw, P (.run flaw)) (hrequest : ∀ flaw, P (.request flaw))
    (hprogram : o.config? base = none → o.format ≠ .dot → P .noProgram)
    (hfile : ∀ p contents flaw, o.outputPath? = some p → w.files.write p contents = .error flaw →
      P (.file flaw)) :
    Meets (writeDrawing base d o) w P fun _ _ => True := by
  refine (meets_render hsource hrun hrequest hprogram w).bind fun r w' hw => ?_
  split
  · next p hpath =>
    have hfile' : ∀ contents flaw, w'.files.write p contents = .error flaw → P (.file flaw) :=
      fun _ flaw hflaw => hfile p _ flaw hpath (hw ▸ hflaw)
    cases r with
    | text source =>
      exact meets_writeText p source w' (hrequest _) (fun _ => hrequest _) hfile'
    | image bytes => exact meets_write p bytes w' (hrequest _) (hfile' bytes)
  · cases r with
    | text source => exact meets_printText source w' fun _ => hrequest _
    | image bytes => exact meets_print bytes w'

/-! ### Runs -/

theorem meets_load (base : Layout.Config) (i : Invocation) (w : World) :
    Meets (Target.load i.target) w (Accounted base i w) fun v w' =>
      ((Target.load i.target).perform w).1 = .ok v ∧ w'.files = w.files ∧ ∃ t, v.Sound t := by
  have hload := Target.meets_load i.target w
  refine ⟨fun he => (hload.failed he).imp_right .loading, fun {v w'} hv => ?_⟩
  have hnoted := Target.onlyNotes_load i.target w
  rw [hv] at hnoted
  exact ⟨by rw [hv], hnoted.files_eq, hload.done hv⟩

theorem meets_printText_give {P : Failure → Prop} {text : Except Failure String}
    (htext : FailsOnly P text) (hrequest : ∀ flaw, P (.request flaw)) (shown : String → String)
    (w : World) : Meets (do printText (shown (← give text))) w P fun _ _ => True :=
  (meets_give (Q := fun _ _ => True) htext fun _ _ => trivial).bind fun text w' _ =>
    meets_printText (shown text) w' fun _ => hrequest _

/-- What becomes of what a command asks for. -/
theorem meets_perform (base : Layout.Config) (i : Invocation) (w : World) :
    Meets (perform base i) w (Accounted base i w) fun _ _ => True := by
  refine (meets_load base i w).bind fun v w' h => ?_
  obtain ⟨hload, hfiles, t, hsound⟩ := h
  have hrequest : ∀ flaw, Accounted base i w (.request flaw) := fun flaw => .inl ⟨_, rfl⟩
  have hsource : ∀ kind, FailsOnly (Accounted base i w) (v.drawing kind).source := by
    intro kind
    obtain ⟨text, htext⟩ := hsound.showable.source kind
    exact htext ▸ .ok text
  have hdrawing : ∀ kind o, (i.command = .flow o ∨ i.command = .dominators o) →
      Meets (writeDrawing base (v.drawing kind) o) w' (Accounted base i w) fun _ _ => True := by
    intro kind o hcommand
    have hpath : i.outputPath? = o.outputPath? := by
      rw [Invocation.outputPath?]
      rcases hcommand with hcommand | hcommand <;> rw [hcommand]
    exact meets_writeDrawing (hsource kind) (fun flaw => .inl ⟨_, rfl⟩) hrequest
      (fun hconfig hformat => .inr (.noProgram hcommand hconfig hformat))
      fun p contents flaw hp hwrite => .inr (.file (hpath.trans hp) (hfiles ▸ hwrite))
  cases hcommand : i.command with
  | listing inColour =>
    obtain ⟨text, htext⟩ := hsound.showable.listing
    refine meets_printText_give (FailsOnly.map ?_ _) hrequest id w'
    exact htext ▸ .ok text
  | flow o => exact hdrawing _ o (.inl hcommand)
  | dominators o => exact hdrawing _ o (.inr hcommand)
  | tree =>
    refine meets_printText_give ?_ hrequest (· ++ "\n") w'
    refine FailsOnly.bind (hsound.requireTree_eq ▸ .ok t) fun t' ht' => ?_
    obtain rfl := Except.ok.inj (hsound.requireTree_eq.symm.trans ht')
    refine (hsound.proper.failsOnly_boundedDrawing.mono ?_).bind fun text _ => .ok _
    rintro _ ⟨rfl, hdeep⟩
    exact .inr (.tooDeep hcommand hload hsound.tree_eq hdeep)
  | bytecode =>
    refine meets_printText_give ?_ hrequest id w'
    rw [View.bytecodeListing]
    split
    · exact .ok _
    · exact .error (.inl ⟨_, rfl⟩)

theorem exists_line (n : Note) : ∃ line, n.line = line ++ "\n" := by
  have hblocks : ∀ text : String, ∃ line, text ++ " blocks\n" = line ++ "\n" :=
    fun text => ⟨text ++ " blocks", by rw [String.append_assoc]; rfl⟩
  cases n with
  | loaded name statements blocks => exact hblocks _
  | divided name instructions blocks => exact hblocks _
  | started command => exact ⟨_, rfl⟩

theorem exists_notesShown (i : Invocation) (w : World) :
    ∃ lines : List String, notesShown i w = String.join (lines.map (· ++ "\n")) := by
  rw [notesShown]
  split
  · obtain ⟨lines, hlines⟩ := exists_forall₂ (l := w.notes) fun n _ => exists_line n
    refine ⟨lines, congrArg String.join ?_⟩
    rwa [← List.forall₂_eq_eq_eq, List.forall₂_map_left_iff, List.forall₂_map_right_iff]
  · exact ⟨[], rfl⟩

/-- **A run is reported, or it fails in one of the ways that are left.** -/
theorem run_reported_or_escapes (base : Layout.Config) (i : Invocation) (w : World) :
    (run base i w).1.Reported ∨ ∃ f, (run base i w).1 = .failure f ∧ Escapes base i w f := by
  rw [run]
  rcases hrun : (perform base i).perform w with ⟨f | ⟨⟩, w'⟩
  · cases hmessage : f.message? with
    | some message =>
      obtain ⟨lines, hlines⟩ := exists_notesShown i w'
      simp only [hmessage, hlines]
      exact .inl (.complaint lines (Text.escapeSurrogates message))
    | none =>
      simp only [hmessage]
      refine .inr ⟨f, rfl, ((meets_perform base i w).failed hrun).resolve_left ?_⟩
      rintro ⟨message, h⟩
      cases hmessage.symm.trans h
  · exact .inl (.done _)

end FlowAtlas.CommandLine
