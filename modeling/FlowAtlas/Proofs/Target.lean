import FlowAtlas.Proofs.Bytecode.Objects
import FlowAtlas.Proofs.Document.Depth
import FlowAtlas.Proofs.World
import FlowAtlas.Target

/-!
# What becomes of loading a target

Most of what can be wrong with a target is reported. What is left are the failures for which no
wording is known: an integer in a document that is infinite or too large to be counted with, a
document that is nested too deeply, a file name that is too long, a relative module name, a package
that does not list the places of its modules, objects that are no functions but have the attributes
of one, and jumps to what cannot be looked up.

A target that is loaded without any of them gives a sound view.

## Main definitions

* `Failure.Reported`: a failure with a wording.
* `Target.Opens`, `Target.Describes`: the module and the document that a target names.
* `Target.Escapes`, `Target.Accounted`: how loading a target fails without a report, and at all.

## Main results

* `Target.meets_load`: what becomes of loading a target.
-/

namespace FlowAtlas

open FlowAtlas.Action

/-- A failure has a wording, under which it is reported to the user. -/
def Failure.Reported (f : Failure) : Prop :=
  ∃ message, f.message? = some message

namespace Target

variable {w : World} {target path name names place text : String} {module o : Object}
  {modules : List (String × Members)}

/-- A target names an object in a module: in that of a source file, or in one that is imported. -/
inductive Opens (w : World) (target : String) : Object → Prop
  | inFile {path names : String} {bytes : ByteArray} {members : Members}
    (htarget : ofString? target = some (.inFile path names))
    (hread : w.files.read (Path.ofString path) = .ok (bytes, members)) :
    Opens w target (.module true members)
  | inModule {name names : String} {module : Object}
    (htarget : ofString? target = some (.inModule name names))
    (himport : importModule w.modules name = .ok module) : Opens w target module

/-- A target names a file with the text of a document. -/
def Describes (w : World) (target text : String) : Prop :=
  ∃ path bytes members decoded, ofString? target = some (.document path) ∧
    w.files.read (Path.ofString path) = .ok (bytes, members) ∧
    Text.Utf8.decode bytes = .ok decoded ∧ String.ofList (Text.unifyLineEnds decoded.toList) = text

/-- How loading a target fails without a report. -/
inductive Escapes (w : World) (target : String) : Failure → Prop
  /-- An integer in the document is infinite or very large. -/
  | overflow {text : String} {j x : Json} (htext : Describes w target text)
    (hparse : Json.parse text = .ok j) (hx : x.Within j) (hlarge : x.Large) :
    Escapes w target .overflow
  /-- The document is nested too deeply. -/
  | tooDeep {text : String} (htext : Describes w target text)
    (hparse : Json.parse text = .error .tooDeep) : Escapes w target .tooDeep
  /-- The name of the source file is too long. -/
  | nameTooLong {path names : String} (htarget : ofString? target = some (.inFile path names))
    (hread : w.files.read (Path.ofString path) = .error .nameTooLong) :
    Escapes w target (.file .nameTooLong)
  /-- The name of the module is relative. -/
  | relativeModule {name names : String} (htarget : ofString? target = some (.inModule name names))
    (hname : name.startsWith "." = true) : Escapes w target .relativeModule
  /-- A module around the one that is named does not list the places of its modules. -/
  | packagePath {name names outer : String} {members : Members} {places : Object}
    (htarget : ofString? target = some (.inModule name names))
    (houter : w.modules.lookup outer = some members)
    (hplaces : (Object.module false members).member "__path__" = .ok places)
    (hlists : listsPlaces places = false) : Escapes w target .packagePath
  /-- A module around the one that is named names an object that answers for its missing
  attributes. -/
  | answered {name names outer : String} {members : Members} {f : Failure}
    (htarget : ofString? target = some (.inModule name names))
    (houter : w.modules.lookup outer = some members)
    (hf : (Object.module false members).Unanswered f) : Escapes w target f
  /-- An object on the path of names does so. -/
  | unanswered {module : Object} {f : Failure} (hopens : Opens w target module)
    (hf : module.Unanswered f) : Escapes w target f
  /-- The path of names leads to an object that is no function. -/
  | unshown {module o : Object} {f : Failure} (hopens : Opens w target module)
    (hreaches : module.Reaches o) (hfunction : ¬ o.IsFunction) (hf : Object.Unshown f) :
    Escapes w target f
  /-- A jump of the function leads to what cannot be looked up. -/
  | unhashable {module o : Object} {p : Presentation} {ins : Instruction}
    (hopens : Opens w target module) (hreaches : module.Reaches o) (hp : o.presentation = .ok p)
    (hins : ins ∈ p.code.instructions) (htarget : ins.hasTarget = true)
    (hkey : ins.operand.isKey = false) : Escapes w target .unhashable

/-- A failure of loading a target is accounted for: it is reported, or it is one of those without a
report. -/
abbrev Accounted (w : World) (target : String) (f : Failure) : Prop :=
  f.Reported ∨ Escapes w target f

/-! ### Documents -/

theorem reported_textFailure {trouble : Json.Trouble} (h : trouble ≠ .tooDeep) :
    (Document.textFailure trouble).Reported := by
  cases trouble with
  | flaw | tooManyDigits => exact ⟨_, rfl⟩
  | tooDeep => exact absurd rfl h

/-- Why the text of a document is not loaded. -/
theorem failsOnly_documentLoad (htext : Describes w target text) :
    FailsOnly (Accounted w target) (Document.load text) := by
  refine FailsOnly.bind (.mapError fun trouble htrouble => ?_) fun j hj => ?_
  · by_cases hdeep : trouble = .tooDeep
    · exact .inr (hdeep ▸ .tooDeep htext (hdeep ▸ htrouble))
    · exact .inl (reported_textFailure hdeep)
  · refine (Document.failsOnly_view j).mono fun f hf => ?_
    cases hf with
    | layout | digits => exact .inl ⟨_, rfl⟩
    | overflow hx hlarge => exact .inr (.overflow htext (mapError_eq_ok_iff.mp hj) hx hlarge)
    | tooDeep hx hdeep =>
      -- What was read from a text is never nested as deeply as that.
      have hle := Json.depth_le_of_parse (mapError_eq_ok_iff.mp hj)
      exact absurd (hx.within.depth_le.trans hle) (Nat.not_le.mpr hdeep)

theorem sound_of_documentLoad {v : View} (h : Document.load text = .ok v) : ∃ t, v.Sound t := by
  obtain ⟨j, -, h⟩ := bind_eq_ok_iff.mp h
  exact Document.view_sound h

theorem meets_loadDocument (htarget : ofString? target = some (.document path)) (w : World) :
    Meets (loadDocument path) w (Accounted w target) fun v _ => ∃ t, v.Sound t := by
  refine (meets_read (Path.ofString path) w (.inl ⟨_, rfl⟩)).bind ?_
  rintro found w' ⟨hread, rfl⟩
  rcases found with flaw | ⟨bytes, members⟩
  · exact meets_throw (.inl ⟨_, rfl⟩)
  · dsimp only
    refine (meets_give (Q := fun decoded _ => Text.Utf8.decode bytes = .ok decoded)
      (.mapError fun fault _ => .inl ⟨_, rfl⟩) fun decoded h => mapError_eq_ok_iff.mp h).bind
        fun decoded w' hdecoded => ?_
    refine (meets_give (Q := fun v _ => ∃ t, v.Sound t)
      (failsOnly_documentLoad ⟨path, bytes, members, decoded, htarget, hread.symm, hdecoded, rfl⟩)
      fun v hv => sound_of_documentLoad hv).bind fun v w' hsound => ?_
    exact (meets_note _ w').bind fun _ w' _ => meets_pure hsound

/-! ### Modules -/

theorem lookup_of_innermostKnown? {members : Members} {outer next : String} {names : List String}
    (h : innermostKnown? modules names = some (members, outer, next)) :
    modules.lookup outer = some members := by
  obtain ⟨⟨outer', next'⟩, -, h⟩ := List.exists_of_findSome?_eq_some h
  obtain ⟨members', hlookup, heq⟩ := Option.map_eq_some_iff.mp h
  cases heq
  exact hlookup

/-- Why a module is not there: its absence is reported, unless a module around it does not tell
which modules it has. -/
theorem accounted_importFailure (htarget : ofString? target = some (.inModule name names)) :
    Accounted w target (importFailure w.modules name) := by
  rw [importFailure.eq_def]
  dsimp only
  split
  · exact .inl ⟨_, rfl⟩
  · next members outer next hknown =>
    have houter := lookup_of_innermostKnown? hknown
    have hmember := Object.failsOnly_member (.module false members) "__path__"
    split
    · next places hplaces =>
      split
      · exact .inl ⟨_, rfl⟩
      · next hlists =>
        exact .inr (.packagePath htarget houter hplaces (Bool.eq_false_iff.mpr hlists))
    · exact .inl ⟨_, rfl⟩
    · next failure hother hfailure =>
      rcases hmember failure hfailure with rfl | hunanswered
      · exact absurd rfl hother
      · exact .inr (.answered htarget houter hunanswered)

theorem failsOnly_importModule (htarget : ofString? target = some (.inModule name names)) :
    FailsOnly (Accounted w target) (importModule w.modules name) := by
  rw [importModule]
  split
  · next hname => exact .error (.inr (.relativeModule htarget hname))
  · split
    · exact .ok _
    · exact .error (accounted_importFailure htarget)

theorem meets_moduleInFile (htarget : ofString? target = some (.inFile path names)) (w : World) :
    Meets (moduleInFile path) w (Accounted w target) fun module _ => Opens w target module := by
  rw [moduleInFile]
  split
  · exact meets_throw (.inl ⟨_, rfl⟩)
  · refine (meets_get w).bind fun found w' hfound => ?_
    obtain ⟨rfl, rfl⟩ := hfound
    split
    · next hread => exact meets_pure (.inFile htarget hread)
    · next hread => exact meets_throw (.inr (.nameTooLong htarget hread))
    · exact meets_throw (.inl ⟨_, rfl⟩)

/-! ### Objects -/

theorem failsOnly_resolve (module : Object) :
    FailsOnly (fun f => f.Reported ∨ module.Unanswered f) (resolve target place names module) := by
  rw [resolve.eq_def]
  split
  · next o ho =>
    have hreaches := Object.reaches_of_follow ho
    refine ((Object.failsOnly_hasCode o).mono fun _ h => .inr (.of_reaches hreaches h)).bind
      fun shown _ => ?_
    split
    · exact .ok o
    · exact .error (.inl ⟨_, rfl⟩)
  · exact .error (.inl ⟨_, rfl⟩)
  · next failure hother hfailure =>
    rcases Object.failsOnly_follow _ _ failure hfailure with rfl | hunanswered
    · exact absurd rfl hother
    · exact .error (.inr hunanswered)

theorem reaches_of_resolve (h : resolve target place names module = .ok o) : module.Reaches o := by
  rw [resolve.eq_def] at h
  split at h
  · next o' ho =>
    obtain ⟨shown, -, h⟩ := bind_eq_ok_iff.mp h
    split at h
    · cases h
      exact Object.reaches_of_follow ho
    · cases h
  · cases h
  · cases h

/-- What becomes of showing an object to which the path of names leads. -/
theorem meets_showObject (hopens : Opens w target module) (hreaches : module.Reaches o)
    (w' : World) : Meets (showObject o) w' (Accounted w target) fun v _ => ∃ t, v.Sound t := by
  have hpresentation : FailsOnly (Accounted w target) o.presentation := by
    refine (Object.failsOnly_presentation o).mono fun f hf => ?_
    obtain ⟨hfunction, rfl | hf⟩ := hf
    · exact .inl ⟨_, rfl⟩
    · exact .inr (.unshown hopens hreaches hfunction hf)
  refine (meets_give (Q := fun p _ => o.presentation = .ok p) hpresentation fun p hp => hp).bind
    fun p w' hp => ?_
  have hview : FailsOnly (Accounted w target) p.view := by
    refine (Presentation.failsOnly_view p).mono ?_
    rintro _ (⟨rfl, ins, hins, htarget, hkey⟩ | ⟨flaw, rfl⟩)
    · exact .inr (.unhashable hopens hreaches hp hins htarget hkey)
    · exact .inl ⟨_, rfl⟩
  refine (meets_give (Q := fun v _ => ∃ t, v.Sound t) hview fun v hv =>
    Presentation.view_sound hv).bind fun v w' hsound => ?_
  dsimp only
  split
  · exact meets_pure hsound
  · exact (meets_note _ w').bind fun _ _ _ => meets_pure hsound

/-- **What becomes of loading a target**: a sound view, a report, or one of the failures without a
wording. -/
theorem meets_load (target : String) (w : World) :
    Meets (load target) w (Accounted w target) fun v _ => ∃ t, v.Sound t := by
  have hresolve : ∀ {module : Object} {place names : String} (w' : World), Opens w target module →
      Meets (do showObject (← give (resolve target place names module))) w' (Accounted w target)
        fun v _ => ∃ t, v.Sound t := by
    intro module place names w' hopens
    refine (meets_give (Q := fun o _ => module.Reaches o) ((failsOnly_resolve module).mono
      fun f hf => hf.imp_right (.unanswered hopens)) fun o ho => reaches_of_resolve ho).bind
        fun o w' hreaches => meets_showObject hopens hreaches w'
  rw [load]
  split
  · exact meets_throw (.inl ⟨_, rfl⟩)
  · next path htarget => exact meets_loadDocument htarget w
  · next path names htarget =>
    exact (meets_moduleInFile htarget w).bind fun module w' hopens => hresolve w' hopens
  · next name names htarget =>
    refine (meets_get w).bind fun found w' hfound => ?_
    obtain ⟨rfl, rfl⟩ := hfound
    exact (meets_give (Q := fun module _ => Opens _ target module)
      (failsOnly_importModule htarget) fun module hmodule => .inModule htarget hmodule).bind
        fun module w' hopens => hresolve w' hopens

end Target

end FlowAtlas
