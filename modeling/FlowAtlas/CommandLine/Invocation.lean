import FlowAtlas.CommandLine.Words
import FlowAtlas.Drawing.Format

/-!
# Invocations

A command line names a command and a target. Options of the program stand before the command, those
of the command after it. The words are taken from left to right, and the first that asks for help or
breaks a rule decides; superfluous and missing words are noticed at the end.
-/

namespace FlowAtlas.CommandLine

/-- Why a command line leads to no run. -/
inductive Ending where
  | help
  | misused
  deriving DecidableEq, Repr

/-- How a drawing is written. The option that names the layout program may be given without a
name. -/
structure DrawingOptions where
  includeCode : Bool
  format? : Option Format
  output? : Option String
  program? : Option (Option String)
  font? : Option String

/-- A command. -/
inductive Command where
  | listing (inColour : Bool)
  | flow (options : DrawingOptions)
  | dominators (options : DrawingOptions)
  | tree
  | bytecode

/-- What a command line asks for. -/
structure Invocation where
  verbose : Bool
  command : Command
  target : String

/-- The names of the commands. -/
inductive CommandName where
  | listing
  | flow
  | dominators
  | tree
  | bytecode
  deriving DecidableEq, Repr

namespace CommandName

/-- The command with a name. -/
def ofString? : String → Option CommandName
  | "show" => some listing
  | "cfg" => some flow
  | "dom" => some dominators
  | "domtree" => some tree
  | "bytecode" => some bytecode
  | _ => none

/-- The options of a command. -/
def rules : CommandName → List OptionRule
  | listing => [helpRule, { names := ["--color"], key := .color }]
  | flow | dominators => [
      helpRule,
      { names := ["--no-code"], key := .noCode },
      { names := ["-T", "--format"], key := .format, takesValue := true },
      { names := ["-o", "--output"], key := .output, takesValue := true },
      { names := ["--dot"], key := .program, takesValue := true },
      { names := ["--font"], key := .font, takesValue := true }]
  | tree | bytecode => [helpRule]
where
  /-- The option that asks for help. -/
  helpRule : OptionRule := { names := ["-h", "--help"], key := .help }

end CommandName

/-- The options of the program. -/
def programRules : List OptionRule :=
  [CommandName.rules.helpRule, { names := ["-v", "--verbose"], key := .verbose }]

/-! ## Options in one word -/

/-- The value of an option. A double hyphen that is attached to the name of the option stands for no
value, which is not the same as the option not being given. -/
abbrev OptionValue := Option String

/-- The value that an attached text stands for. -/
def attachedValue (cs : List Char) : OptionValue :=
  if cs = ['-', '-'] then none else some (String.ofList cs)

/-- The options of one word: those that are complete, and the one that takes the next word as its
value. -/
structure Cluster where
  given : List (Key × OptionValue) := []
  pending : Option Key := none

/-- The options of an option to whose name nothing is attached. -/
def Cluster.bare (rule : OptionRule) : Cluster :=
  if rule.takesValue then { pending := some rule.key } else { given := [(rule.key, some "")] }

/-- The options that an option and the text attached to its name stand for: the text is the value of
an option that takes one, and behind a short option that takes none it names more short options. -/
def cluster (rules : List OptionRule) (rule : OptionRule) (isLong : Bool) :
    List Char → Except Ending Cluster
  | [] => if rule.takesValue then .ok { given := [(rule.key, some "")] } else .error .misused
  | c :: rest =>
    if rule.takesValue then .ok { given := [(rule.key, attachedValue (c :: rest))] }
    else if isLong then .error .misused
    else match (namedRules rules).lookup (String.ofList ['-', c]) with
      | none => .error .misused
      | some next => do
        let more ← if rest.isEmpty then .ok (.bare next) else cluster rules next false rest
        pure { more with given := (rule.key, some "") :: more.given }

/-- The options that a word stands for. -/
def optionsOf (rules : List OptionRule) (name : String) (rule : OptionRule)
    (attached : Option (List Char)) : Except Ending Cluster :=
  match attached with
  | some text => cluster rules rule (name.startsWith "--") text
  | none => .ok (.bare rule)

/-! ## Reading the words -/

/-- What the words so far have given. -/
structure Reading where
  given : List (Key × OptionValue) := []
  target : Option String := none
  /-- The target was the last word. -/
  isAtTarget : Bool := false
  hasExtras : Bool := false

/-- Takes options: a request for help and an unknown format end the reading. -/
def Reading.take (r : Reading) : List (Key × OptionValue) → Except Ending Reading
  | [] => .ok { r with isAtTarget := false }
  | (.help, _) :: _ => .error .help
  | (.format, some name) :: rest =>
    if (Format.ofName? name).isNone then .error .misused
    else Reading.take { r with given := r.given ++ [(.format, some name)] } rest
  | (key, value) :: rest => Reading.take { r with given := r.given ++ [(key, value)] } rest

/-- Reads the words of a command. -/
def readWords (rules : List OptionRule) (r : Reading) : List Word → Except Ending Reading
  | [] => .ok r
  | w :: rest =>
    match w.kind with
    | .plain =>
      match r.target with
      | none => readWords rules { r with target := some w.text, isAtTarget := true } rest
      | some _ => readWords rules { r with isAtTarget := false, hasExtras := true } rest
    | .separator =>
      let superfluous := r.target.isSome && !r.isAtTarget
      readWords rules { r with isAtTarget := false, hasExtras := r.hasExtras || superfluous } rest
    | .unknown => readWords rules { r with isAtTarget := false, hasExtras := true } rest
    | .option name rule attached =>
      match optionsOf rules name rule attached with
      | .error e => .error e
      | .ok c =>
        match c.pending, rest with
        | none, rest => do readWords rules (← r.take c.given) rest
        | some key, ⟨value, .plain⟩ :: rest => do
          readWords rules (← r.take (c.given ++ [(key, some value)])) rest
        | some _, _ => .error .misused

/-- Reads the words of the program up to the name of the command, and gives that name and the words
after it. -/
def readProgramWords (r : Reading) : List Word → Except Ending (Reading × String × List String)
  | [] => .error .misused
  | w :: rest =>
    match w.kind with
    | .plain => .ok (r, w.text, rest.map (·.text))
    | .separator => .error .misused
    | .unknown => readProgramWords { r with hasExtras := true } rest
    | .option name rule attached => do
      let c ← optionsOf programRules name rule attached
      readProgramWords (← r.take c.given) rest

/-! ## Invocations -/

namespace Reading

/-- An option was given. -/
def has (r : Reading) (key : Key) : Bool :=
  r.given.any (·.1 = key)

/-- The value of an option that is given; of two the later counts. -/
def value? (r : Reading) (key : Key) : Option OptionValue :=
  r.given.reverse.lookup key

/-- How a drawing is written. Without a value, the format and the output file count as not given. -/
def drawingOptions (r : Reading) : DrawingOptions where
  includeCode := !r.has .noCode
  format? := (r.value? .format).join.bind Format.ofName?
  output? := (r.value? .output).join
  program? := r.value? .program
  font? := (r.value? .font).map fun value => value.getD "[]"

/-- The command with a name. -/
def command (r : Reading) : CommandName → Command
  | .listing => .listing (r.has .color)
  | .flow => .flow r.drawingOptions
  | .dominators => .dominators r.drawingOptions
  | .tree => .tree
  | .bytecode => .bytecode

end Reading

/-- The words of a command line; a word that may stand for more than one option is a misuse. -/
def wordsOf (rules : List OptionRule) (arguments : List String) : Except Ending (List Word) :=
  match words? rules arguments with
  | some words => .ok words
  | none => .error .misused

/-- What a command line asks for. -/
def invocation (arguments : List String) : Except Ending Invocation := do
  let (outer, name, rest) ← readProgramWords {} (← wordsOf programRules arguments)
  match CommandName.ofString? name with
  | none => .error .misused
  | some name => do
    let inner ← readWords name.rules {} (← wordsOf name.rules rest)
    match inner.target with
    | none => .error .misused
    | some target =>
      if outer.hasExtras || inner.hasExtras then .error .misused
      else .ok { verbose := outer.has .verbose, command := inner.command name, target }

end FlowAtlas.CommandLine
