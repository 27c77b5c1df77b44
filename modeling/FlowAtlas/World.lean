import FlowAtlas.Files
import FlowAtlas.Layout.Config

/-!
# The outside world

An action may read and write files, import modules, start the layout program, print, and take notes
for those who want to know how it went. A failed action leaves the world as it was when it failed.
-/

namespace FlowAtlas

namespace Layout

/-- A start of the layout program: its command and what it is given to read. -/
structure Call where
  command : List String
  input : ByteArray

/-- What becomes of a start of the layout program. -/
inductive Outcome where
  | notStarted (complaint : String)
  | ended (status : Int) (output complaint : ByteArray)

/-- A layout program, by what becomes of each start of it. -/
abbrev Program := Call → Outcome

/-- The layout program where there is none. -/
def Program.missing : Program := fun call =>
  .notStarted ("[Errno 2] " ++ FileFlaw.missing.message ++ ": " ++
    Text.quoted (call.command.headD ""))

end Layout

/-- A note on how an action went. -/
inductive Note where
  | loaded (name : String) (statements blocks : Nat)
  | divided (name : String) (instructions blocks : Nat)
  | started (command : List String)
  deriving DecidableEq, Repr

/-- The line of a note. -/
def Note.line : Note → String
  | loaded name statements blocks =>
    "DEBUG vizbench.jsonir: loaded " ++ Text.escapeSurrogates name ++ ": " ++
      toString statements ++ " statements in " ++ toString blocks ++ " blocks\n"
  | divided name instructions blocks =>
    "DEBUG vizbench.pyir: " ++ Text.escapeSurrogates name ++ ": " ++ toString instructions ++
      " instructions in " ++ toString blocks ++ " blocks\n"
  | started command =>
    "DEBUG codeviz.lazydot: Run: " ++ Text.escapeSurrogates (" ".intercalate command) ++ "\n"

/-- The outside world. -/
structure World where
  files : Files := ⟨[]⟩
  /-- The modules that can be imported, with their members. -/
  modules : List (String × Members) := []
  layout : Layout.Program := .missing
  /-- The starts of the layout program so far. -/
  calls : List Layout.Call := []
  notes : List Note := []
  printed : ByteArray := .empty

/-- An action in the outside world. -/
abbrev Action := ExceptT Failure (StateM World)

namespace Action

/-- What becomes of an action in a world, and the world after it. -/
def perform {α : Type} (action : Action α) (w : World) : Except Failure α × World :=
  (ExceptT.run action).run w

/-- The action that does nothing but give a result. -/
def give {α : Type} (result : Except Failure α) : Action α :=
  ExceptT.mk (pure result)

/-- Takes a note. -/
def note (n : Note) : Action Unit :=
  modify fun w => { w with notes := w.notes ++ [n] }

/-- Encodes a text. -/
def encode (text : String) : Action ByteArray :=
  give ((Text.Utf8.encode text).mapError fun run => .request (.unencodable run))

/-- Prints bytes. -/
def print (bytes : ByteArray) : Action Unit :=
  modify fun w => { w with printed := w.printed ++ bytes }

/-- Prints a text. -/
def printText (text : String) : Action Unit := do
  print (← encode text)

/-- A path with a null character is refused. -/
def checkPath (p : Path) : Action Unit :=
  if p.text.toList.contains '\x00' then throw (.request .nullInPath) else pure ()

/-- Reads a file: its contents and the members that it defines. -/
def read (p : Path) : Action (Except FileFlaw (ByteArray × Members)) := do
  checkPath p
  pure ((← get).files.read p)

/-- Writes a file. -/
def write (p : Path) (contents : ByteArray) : Action Unit := do
  checkPath p
  let w ← get
  match w.files.write p contents with
  | .ok files => set { w with files }
  | .error flaw => throw (.file flaw)

/-- Writes a text to a file. The file is opened, and so created or emptied, before the text is
encoded. -/
def writeText (p : Path) (text : String) : Action Unit := do
  write p .empty
  write p (← encode text)

/-- Starts the layout program on the text of a drawing, and gives what it writes. -/
def runLayout (config : Layout.Config) (source format : String) : Action ByteArray := do
  let command := config.command format
  note (.started command)
  let call : Layout.Call := ⟨command, ← encode source⟩
  let w ← get
  set { w with calls := w.calls ++ [call] }
  match w.layout call with
  | .notStarted complaint => throw (.run ⟨command, none, complaint⟩)
  | .ended status output complaint =>
    if status = 0 then pure output
    else throw (.run ⟨command, some status, Text.Utf8.decodeLenient complaint⟩)

end Action

end FlowAtlas
