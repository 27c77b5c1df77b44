import FlowAtlas.Proofs.Files
import FlowAtlas.Proofs.Text.Encoding
import FlowAtlas.World

/-!
# What actions do to the world

Actions are taken one after another, until one fails. Those that only read and take notes leave all
of the world but the notes as it was. Bytes are written to a file or nothing is. A text that holds a
lone surrogate leaves its file empty, and it is not given to the layout program, which otherwise is
started once.

## Main definitions

* `World.Noted`: one world is another with more notes.
* `World.started`: the world after a start of the layout program.
* `Action.OnlyNotes`: an action that does no more than take notes.
* `Action.Meets`: what becomes of an action in a world.

## Main results

* `Action.perform_bind`: the second action is taken in the world that the first leaves.
* `Action.OnlyNotes.bind`: actions that take notes, one after another.
* `Action.Meets.bind`: what becomes of two actions, one after another.
* `Action.perform_write`: what writing a file does.
* `Action.perform_writeText_of_not_hasSurrogate`, `Action.perform_writeText_of_encode_error`: what
  writing a text does.
* `Action.perform_runLayout`, `Action.perform_runLayout_of_encode_error`: what starting the layout
  program does.
* `Action.meets_write`, `Action.meets_writeText`: what becomes of writing a file.
-/

namespace FlowAtlas

open FlowAtlas.Text (HasSurrogate)

variable {α β : Type} {w w' w'' : World}

/-! ### Worlds -/

/-- A world is another one with more notes. -/
def World.Noted (w w' : World) : Prop :=
  ∃ notes, w' = { w with notes := w.notes ++ notes }

namespace World.Noted

theorem refl (w : World) : w.Noted w :=
  ⟨[], by rw [List.append_nil]⟩

theorem trans (h : w.Noted w') (h' : w'.Noted w'') : w.Noted w'' := by
  obtain ⟨notes, rfl⟩ := h
  obtain ⟨notes', rfl⟩ := h'
  exact ⟨notes ++ notes', by rw [List.append_assoc]⟩

theorem files_eq (h : w.Noted w') : w'.files = w.files := by
  obtain ⟨notes, rfl⟩ := h
  rfl

end World.Noted

/-- The world after a start of the layout program. -/
def World.started (w : World) (call : Layout.Call) : World :=
  { w with notes := w.notes ++ [.started call.command], calls := w.calls ++ [call] }

/-- What the layout program gives for a start of it: what it writes, if it ends with status zero. -/
def Layout.Outcome.output (call : Layout.Call) : Layout.Outcome → Except Failure ByteArray
  | .notStarted complaint => .error (.run ⟨call.command, none, complaint⟩)
  | .ended status output complaint =>
    if status = 0 then .ok output
    else .error (.run ⟨call.command, some status, Text.Utf8.decodeLenient complaint⟩)

theorem Layout.Outcome.failsOnly_output (call : Layout.Call) (outcome : Layout.Outcome) :
    FailsOnly (fun e => ∃ flaw, e = .run flaw) (outcome.output call) := by
  cases outcome with
  | notStarted complaint => exact .error ⟨_, rfl⟩
  | ended status output complaint =>
    rw [Layout.Outcome.output]
    split
    · exact .ok output
    · exact .error ⟨_, rfl⟩

namespace Action

variable {a : Action α} {f : α → Action β}

/-! ### One action after another -/

/-- The second action is taken in the world that the first leaves, unless the first fails. -/
theorem perform_bind (a : Action α) (f : α → Action β) (w : World) :
    (a >>= f).perform w = match a.perform w with
      | (.ok x, w') => (f x).perform w'
      | (.error e, w') => (.error e, w') := by
  have hrun : (a >>= f).perform w = ExceptT.bindCont f (a.perform w).1 (a.perform w).2 := rfl
  rw [hrun]
  rcases a.perform w with ⟨e | x, w'⟩
  · rfl
  · rfl

theorem perform_bind_of_ok {x : α} (h : a.perform w = (.ok x, w')) :
    (a >>= f).perform w = (f x).perform w' := by
  rw [perform_bind, h]

theorem perform_bind_of_error {e : Failure} (h : a.perform w = (.error e, w')) :
    (a >>= f).perform w = (.error e, w') := by
  rw [perform_bind, h]

@[simp]
theorem perform_pure (x : α) (w : World) : (pure x : Action α).perform w = (.ok x, w) :=
  rfl

@[simp]
theorem perform_throw (e : Failure) (w : World) : (throw e : Action α).perform w = (.error e, w) :=
  rfl

@[simp]
theorem perform_give (r : Except Failure α) (w : World) : (give r).perform w = (r, w) :=
  rfl

@[simp]
theorem perform_get (w : World) : (get : Action World).perform w = (.ok w, w) :=
  rfl

@[simp]
theorem perform_set (w w' : World) : (set w' : Action Unit).perform w = (.ok (), w') :=
  rfl

@[simp]
theorem perform_note (n : Note) (w : World) :
    (note n).perform w = (.ok (), { w with notes := w.notes ++ [n] }) :=
  rfl

theorem perform_encode_of_not_hasSurrogate {text : String} (h : ¬ HasSurrogate text) (w : World) :
    (encode text).perform w = (.ok text.toUTF8, w) := by
  rw [encode, Text.Utf8.encode_of_not_hasSurrogate h, perform_give]
  rfl

theorem perform_encode_of_error {text : String} {run : Text.Utf8.SurrogateRun}
    (h : Text.Utf8.encode text = .error run) (w : World) :
    (encode text).perform w = (.error (.request (.unencodable run)), w) := by
  rw [encode, h, perform_give]
  rfl

@[simp]
theorem perform_print (bytes : ByteArray) (w : World) :
    (print bytes).perform w = (.ok (), { w with printed := w.printed ++ bytes }) :=
  rfl

/-! ### Actions that take notes -/

/-- An action leaves all of the world but the notes as it was. -/
def OnlyNotes (a : Action α) : Prop :=
  ∀ w : World, w.Noted (a.perform w).2

theorem onlyNotes_pure (x : α) : OnlyNotes (pure x) :=
  World.Noted.refl

theorem onlyNotes_throw (e : Failure) : OnlyNotes (throw e : Action α) :=
  World.Noted.refl

theorem onlyNotes_give (r : Except Failure α) : OnlyNotes (give r) :=
  World.Noted.refl

theorem onlyNotes_get : OnlyNotes (get : Action World) :=
  World.Noted.refl

theorem onlyNotes_note (n : Note) : OnlyNotes (note n) :=
  fun _ => ⟨[n], rfl⟩

/-- Actions that take notes, one after another, take notes. -/
theorem OnlyNotes.bind (ha : OnlyNotes a) (hf : ∀ x, OnlyNotes (f x)) : OnlyNotes (a >>= f) := by
  intro w
  have hw := ha w
  rcases hstep : a.perform w with ⟨e | x, w'⟩
  all_goals rw [hstep] at hw
  · rwa [perform_bind_of_error hstep]
  · rw [perform_bind_of_ok hstep]
    exact hw.trans (hf x w')

theorem onlyNotes_checkPath (p : Path) : OnlyNotes (checkPath p) := by
  rw [checkPath]
  split
  · exact onlyNotes_throw _
  · exact onlyNotes_pure ()

theorem onlyNotes_read (p : Path) : OnlyNotes (read p) :=
  (onlyNotes_checkPath p).bind fun _ => onlyNotes_get.bind fun _ => onlyNotes_pure _

/-! ### What becomes of actions -/

/-- What becomes of an action in a world: its failures are of one kind, and its results are as
wanted, together with the worlds that it leaves. -/
structure Meets (a : Action α) (w : World) (P : Failure → Prop) (Q : α → World → Prop) : Prop where
  failed : ∀ {e w'}, a.perform w = (.error e, w') → P e
  done : ∀ {x w'}, a.perform w = (.ok x, w') → Q x w'

section Meets

variable {P : Failure → Prop} {Q : α → World → Prop} {R : β → World → Prop}

/-- What becomes of two actions, one after another. -/
theorem Meets.bind (h : Meets a w P Q) (hf : ∀ x w', Q x w' → Meets (f x) w' P R) :
    Meets (a >>= f) w P R := by
  rcases hstep : a.perform w with ⟨e | x, w'⟩
  · have hbind := perform_bind_of_error (f := f) hstep
    exact ⟨fun he => by cases hbind.symm.trans he; exact h.failed hstep,
      fun hx => nomatch hbind.symm.trans hx⟩
  · have hbind := perform_bind_of_ok (f := f) hstep
    have hrest := hf x w' (h.done hstep)
    exact ⟨fun he => hrest.failed (hbind.symm.trans he), fun hx => hrest.done (hbind.symm.trans hx)⟩

theorem meets_of_perform {r : Except Failure α} (hstep : a.perform w = (r, w'))
    (hfails : FailsOnly P r) (hok : ∀ x, r = .ok x → Q x w') : Meets a w P Q :=
  ⟨fun he => by cases hstep.symm.trans he; exact hfails _ rfl,
    fun hx => by cases hstep.symm.trans hx; exact hok _ rfl⟩

theorem meets_pure {x : α} (h : Q x w) : Meets (pure x) w P Q :=
  meets_of_perform (perform_pure x w) (.ok x) fun _ hx => Except.ok.inj hx ▸ h

theorem meets_throw {e : Failure} (h : P e) : Meets (throw e) w P Q :=
  meets_of_perform (perform_throw e w) (.error h) nofun

theorem meets_give {r : Except Failure α} (hfails : FailsOnly P r) (hok : ∀ x, r = .ok x → Q x w) :
    Meets (give r) w P Q :=
  meets_of_perform (perform_give r w) hfails hok

theorem meets_get (w : World) : Meets get w P fun x w' => x = w ∧ w' = w :=
  meets_of_perform (perform_get w) (.ok w) fun _ hx => ⟨(Except.ok.inj hx).symm, rfl⟩

theorem meets_note (n : Note) (w : World) : Meets (note n) w P fun _ _ => True :=
  meets_of_perform (perform_note n w) (.ok ()) fun _ _ => trivial

theorem meets_print (bytes : ByteArray) (w : World) : Meets (print bytes) w P fun _ _ => True :=
  meets_of_perform (perform_print bytes w) (.ok ()) fun _ _ => trivial

theorem meets_encode (text : String) (w : World) (hP : ∀ run, P (.request (.unencodable run))) :
    Meets (encode text) w P fun _ w' => w' = w := by
  refine meets_give ?_ fun _ _ => rfl
  cases Text.Utf8.encode text with
  | ok bytes => exact .ok bytes
  | error run => exact .error (hP run)

theorem meets_printText (text : String) (w : World) (hP : ∀ run, P (.request (.unencodable run))) :
    Meets (printText text) w P fun _ _ => True :=
  (meets_encode text w hP).bind fun bytes w' _ => meets_print bytes w'

theorem meets_checkPath (p : Path) (w : World) (hP : P (.request .nullInPath)) :
    Meets (checkPath p) w P fun _ w' => w' = w := by
  rw [checkPath]
  split
  · exact meets_throw hP
  · exact meets_pure rfl

/-- A file is read as it is in the world. -/
theorem meets_read (p : Path) (w : World) (hP : P (.request .nullInPath)) :
    Meets (read p) w P fun found w' => found = w.files.read p ∧ w' = w := by
  refine (meets_checkPath p w hP).bind fun _ w' hw => ?_
  refine (meets_get w').bind fun _ w'' h => meets_pure ?_
  rw [h.1, h.2, hw]
  exact ⟨rfl, rfl⟩

end Meets

/-! ### Files and the layout program -/

/-- Nothing is written to a path with a null character. -/
theorem perform_write_of_null {p : Path} (h : '\x00' ∈ p.text.toList) (contents : ByteArray)
    (w : World) : (write p contents).perform w = (.error (.request .nullInPath), w) := by
  rw [write, checkPath, if_pos (List.contains_iff_mem.mpr h), perform_bind_of_error
    (perform_throw _ w)]

/-- To any other path a file is written as the place to which it leads allows. -/
theorem perform_write_of_not_null {p : Path} (h : '\x00' ∉ p.text.toList) (contents : ByteArray)
    (w : World) : (write p contents).perform w = match w.files.write p contents with
      | .ok files => (.ok (), { w with files })
      | .error flaw => (.error (.file flaw), w) := by
  rw [write, checkPath, if_neg (List.contains_iff_mem.not.mpr h),
    perform_bind_of_ok (perform_pure () w), perform_bind_of_ok (perform_get w)]
  cases w.files.write p contents with
  | ok files => rfl
  | error flaw => rfl

/-- What writing a file does: all of it, or nothing but to fail, for the path or for the place
to which it leads. -/
theorem perform_write (p : Path) (contents : ByteArray) (w : World) :
    (∃ e, (write p contents).perform w = (.error e, w) ∧ (e = .request .nullInPath ∨
      ∃ flaw, e = .file flaw ∧ w.files.write p contents = .error flaw)) ∨
      ∃ files, w.files.write p contents = .ok files ∧
        (write p contents).perform w = (.ok (), { w with files }) := by
  by_cases hnull : '\x00' ∈ p.text.toList
  · exact .inl ⟨_, perform_write_of_null hnull contents w, .inl rfl⟩
  · rw [perform_write_of_not_null hnull]
    cases w.files.write p contents with
    | ok files => exact .inr ⟨files, rfl, rfl⟩
    | error flaw => exact .inl ⟨_, rfl, .inr ⟨flaw, rfl, rfl⟩⟩

theorem meets_write {P : Failure → Prop} (p : Path) (contents : ByteArray) (w : World)
    (hnull : P (.request .nullInPath))
    (hfile : ∀ flaw, w.files.write p contents = .error flaw → P (.file flaw)) :
    Meets (write p contents) w P fun _ _ => True := by
  obtain ⟨e, hstep, rfl | ⟨flaw, rfl, hflaw⟩⟩ | ⟨files, -, hstep⟩ := perform_write p contents w
  · exact meets_of_perform hstep (.error hnull) nofun
  · exact meets_of_perform hstep (.error (hfile flaw hflaw)) nofun
  · exact meets_of_perform hstep (.ok ()) fun _ _ => trivial

/-- A text without lone surrogates is written like its bytes. -/
theorem perform_writeText_of_not_hasSurrogate {text : String} (h : ¬ HasSurrogate text) (p : Path)
    (w : World) : (writeText p text).perform w = (write p text.toUTF8).perform w := by
  rw [writeText]
  by_cases hnull : '\x00' ∈ p.text.toList
  · rw [perform_bind_of_error (perform_write_of_null hnull .empty w), perform_write_of_null hnull]
  · have hopen := perform_write_of_not_null hnull .empty w
    rw [perform_write_of_not_null hnull]
    cases hempty : w.files.write p .empty with
    | error flaw =>
      rw [hempty] at hopen
      rw [perform_bind_of_error hopen, Files.write_eq_error hempty]
    | ok files =>
      rw [hempty] at hopen
      -- Nothing remains of the empty file that was there for a moment.
      rw [perform_bind_of_ok hopen, perform_bind_of_ok (perform_encode_of_not_hasSurrogate h _),
        perform_write_of_not_null hnull, Files.write_write hempty]
      cases hbytes : w.files.write p text.toUTF8 with
      | ok files' => rfl
      | error flaw => exact nomatch hempty.symm.trans (Files.write_eq_error hbytes .empty)

/-- Any other text leaves its file empty, unless nothing can be written there. -/
theorem perform_writeText_of_encode_error {text : String} {run : Text.Utf8.SurrogateRun}
    (h : Text.Utf8.encode text = .error run) (p : Path) (w : World) :
    (writeText p text).perform w = match (write p .empty).perform w with
      | (.ok (), w') => (.error (.request (.unencodable run)), w')
      | (.error e, w') => (.error e, w') := by
  rw [writeText]
  rcases hopen : (write p .empty).perform w with ⟨e | ⟨⟩, w'⟩
  · rw [perform_bind_of_error hopen]
  · rw [perform_bind_of_ok hopen, perform_bind_of_error (perform_encode_of_error h w')]

theorem meets_writeText {P : Failure → Prop} (p : Path) (text : String) (w : World)
    (hnull : P (.request .nullInPath)) (hrun : ∀ run, P (.request (.unencodable run)))
    (hfile : ∀ contents flaw, w.files.write p contents = .error flaw → P (.file flaw)) :
    Meets (writeText p text) w P fun _ _ => True := by
  cases hencode : Text.Utf8.encode text with
  | ok bytes =>
    have hwrite := perform_writeText_of_not_hasSurrogate (Text.Utf8.encode_eq_ok_iff.mp hencode).1 p w
    have hmeets := meets_write p text.toUTF8 w hnull (hfile _)
    exact ⟨fun he => hmeets.failed (hwrite.symm.trans he), fun _ => trivial⟩
  | error run =>
    have hwrite := perform_writeText_of_encode_error hencode p w
    have hmeets := meets_write p .empty w hnull (hfile _)
    rcases hopen : (write p .empty).perform w with ⟨e | ⟨⟩, w'⟩
    all_goals rw [hopen] at hwrite
    · exact meets_of_perform hwrite (.error (hmeets.failed hopen)) nofun
    · exact meets_of_perform hwrite (.error (hrun run)) nofun

/-- **What starting the layout program does.** -/
theorem perform_runLayout {source : String} (h : ¬ HasSurrogate source) (config : Layout.Config)
    (format : String) (w : World) :
    (runLayout config source format).perform w =
      ((w.layout ⟨config.command format, source.toUTF8⟩).output
          ⟨config.command format, source.toUTF8⟩,
        w.started ⟨config.command format, source.toUTF8⟩) := by
  rw [runLayout, perform_bind_of_ok (perform_note _ w),
    perform_bind_of_ok (perform_encode_of_not_hasSurrogate h _), perform_bind_of_ok (perform_get _),
    perform_bind_of_ok (perform_set _ _)]
  dsimp only
  cases w.layout ⟨config.command format, source.toUTF8⟩ with
  | notStarted complaint => rfl
  | ended status output complaint =>
    dsimp only
    rw [Layout.Outcome.output]
    by_cases hstatus : status = 0
    · rw [if_pos hstatus, if_pos hstatus]
      rfl
    · rw [if_neg hstatus, if_neg hstatus]
      rfl

/-- It is not started on a text that holds a lone surrogate. -/
theorem perform_runLayout_of_encode_error {source : String} {run : Text.Utf8.SurrogateRun}
    (h : Text.Utf8.encode source = .error run) (config : Layout.Config) (format : String)
    (w : World) : (runLayout config source format).perform w =
      (.error (.request (.unencodable run)),
        { w with notes := w.notes ++ [.started (config.command format)] }) := by
  rw [runLayout, perform_bind_of_ok (perform_note _ w),
    perform_bind_of_error (perform_encode_of_error h _)]

end Action

end FlowAtlas
