import FlowAtlas.Document.Load
import FlowAtlas.Text.Lines
import FlowAtlas.World

/-!
# Targets

A target names what is to be shown: the file of a document, or a function in a module or in a
source file. A function may be a member of a member of the module.
-/

namespace FlowAtlas

/-- A target. -/
inductive Target where
  | document (path : String)
  /-- A source file and a path of names in it. -/
  | inFile (path members : String)
  /-- A module and a path of names in it. -/
  | inModule (name members : String)
  deriving DecidableEq, Repr

namespace Target

/-- The parts of a text before and after its last colon, if neither is empty. -/
def splitAtColon? (s : String) : Option (String × String) :=
  let reversed := s.toList.reverse
  let after := reversed.takeWhile (· ≠ ':')
  match reversed.drop after.length with
  | _ :: before =>
    if before.isEmpty || after.isEmpty then none
    else some (String.ofList before.reverse, String.ofList after.reverse)
  | [] => none

/-- The target that a text names. -/
def ofString? (s : String) : Option Target :=
  if s.endsWith ".json" then some (.document s)
  else (splitAtColon? s).map fun (place, members) =>
    if (Path.ofString place).suffix = ".py" then .inFile place members else .inModule place members

/-- The names of a module and of the modules that hold it, the outermost first. -/
def moduleNames (name : String) : List String :=
  let parts := Path.splitAt '.' name.toList
  (List.range parts.length).map fun k => ".".intercalate (parts.take (k + 1))

/-- The innermost of the modules that hold a module and are there: its members, and its name with
that of the next module inward. -/
def innermostKnown? (modules : List (String × Members)) (names : List String) :
    Option (Members × String × String) :=
  (names.zip names.tail).reverse.findSome? fun (outer, next) =>
    (modules.lookup outer).map fun members => (members, outer, next)

/-- What a package names as the places of its modules can be gone through. -/
def listsPlaces : Object → Bool
  | .value (.str _) | .value (.list _) | .value (.tuple _) | .value (.dict _) | .value .null => true
  | _ => false

/-- Why a module is not there: the innermost of the modules that hold it and are there is no
package, or a package without the next one; or none of them is there, and the outermost is
unknown. -/
def importFailure (modules : List (String × Members)) (name : String) : Failure :=
  let notImported (flaw : ImportFlaw) : Failure := .target (.notImported name flaw)
  let names := moduleNames name
  match innermostKnown? modules names with
  | none => notImported (.unknown (names.headD ""))
  | some (members, outer, next) =>
    match (Object.module false members).member "__path__" with
    | .ok places => if listsPlaces places then notImported (.unknown next) else .packagePath
    | .error .noAttribute => notImported (.notAPackage next outer)
    | .error failure => failure

/-- The module with a name. -/
def importModule (modules : List (String × Members)) (name : String) : Except Failure Object :=
  if name.startsWith "." then .error .relativeModule
  else match modules.lookup name with
    | some members => .ok (.module false members)
    | none => .error (importFailure modules name)

/-- The object to which a path of names leads from a module, if its code can be shown; `target` is
the text of the whole target. -/
def resolve (target place path : String) (module : Object) : Except Failure Object :=
  match module.follow (Path.splitAt '.' path.toList) with
  | .ok o => do if ← o.hasCode then .ok o else .error (.target (.notAFunction target))
  | .error .noAttribute => .error (.target (.noAttribute place path))
  | .error failure => .error failure

/-- The view of an object. -/
def showObject (o : Object) : Action View := do
  let presentation ← Action.give o.presentation
  let view ← Action.give presentation.view
  let c := presentation.code
  if c.instructions.isEmpty then pure view
  else do
    Action.note (.divided c.name c.instructions.length view.graph.blocks.length)
    pure view

/-- The view of the document in a file. -/
def loadDocument (path : String) : Action View := do
  match ← Action.read (Path.ofString path) with
  | .error flaw => throw (.document (.unreadable path flaw.message))
  | .ok (bytes, _) => do
    let text ← Action.give ((Text.Utf8.decode bytes).mapError .encoding)
    let view ← Action.give
      (Document.load (String.ofList (Text.unifyLineEnds text.toList)))
    Action.note (.loaded view.name.text view.graph.code.length view.graph.blocks.length)
    pure view

/-- The module in a source file. -/
def moduleInFile (path : String) : Action Object := do
  let p := Path.ofString path
  if p.text.toList.contains '\x00' then throw (.target (.noFile path))
  else match (← get).files.read p with
    | .ok (_, members) => pure (.module true members)
    | .error .nameTooLong => throw (.file .nameTooLong)
    | .error _ => throw (.target (.noFile path))

/-- The view of what a text names as a target. -/
def load (target : String) : Action View := do
  match ofString? target with
  | none => throw (.target (.malformed target))
  | some (.document path) => loadDocument path
  | some (.inFile path members) => do
    let module ← moduleInFile path
    showObject (← Action.give (resolve target path members module))
  | some (.inModule name members) => do
    let module ← Action.give (importModule (← get).modules name)
    showObject (← Action.give (resolve target name members module))

end Target

end FlowAtlas
