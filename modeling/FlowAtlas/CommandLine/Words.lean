import FlowAtlas.Text.Digit

/-!
# The words of a command line

A word that begins with a hyphen is an option, if it is long enough and does not read as a negative
number. A long option may be cut short as long as no other one begins in the same way, and its value
may follow an equals sign. A short option may be followed at once by its value or, if it takes none,
by more short options; an equals sign may stand in front of them, but only behind the first name.
All words after a double hyphen are plain.
-/

namespace FlowAtlas.CommandLine

/-- The meaning of an option. -/
inductive Key where
  | help
  | verbose
  | color
  | noCode
  | format
  | output
  | program
  | font
  deriving DecidableEq, Repr

/-- An option: its names, its meaning, and whether it takes a value. -/
structure OptionRule where
  names : List String
  key : Key
  takesValue : Bool := false

/-- The kinds of words. -/
inductive WordKind where
  | plain
  /-- A double hyphen. -/
  | separator
  | unknown
  /-- An option under one of its names, and the text that is attached to the name, if there is
  any. -/
  | option (name : String) (rule : OptionRule) (attached : Option (List Char))

/-- A word and its kind. -/
structure Word where
  text : String
  kind : WordKind

/-- A decimal number behind a hyphen, perhaps with a line feed at its end. -/
def isNegativeNumber (cs : List Char) : Bool :=
  match cs with
  | '-' :: rest =>
    let digits := if rest.getLast? = some '\n' then rest.dropLast else rest
    let whole := digits.takeWhile Text.isDecimalDigit
    match digits.drop whole.length with
    | [] => !whole.isEmpty
    | '.' :: decimals => !decimals.isEmpty && decimals.all Text.isDecimalDigit
    | _ => false
  | _ => false

/-- The name of an option before the first equals sign, and what follows that sign. -/
def splitAtEquals (cs : List Char) : String × Option (List Char) :=
  let name := cs.takeWhile (· ≠ '=')
  match cs.drop name.length with
  | _ :: value => (String.ofList name, some value)
  | [] => (String.ofList name, none)

/-- All names of options, with their rules. -/
def namedRules (rules : List OptionRule) : List (String × OptionRule) :=
  rules.flatMap fun rule => rule.names.map (·, rule)

/-- The options that a word may be an abbreviation of, or that it may begin with. -/
def candidates (rules : List OptionRule) (cs : List Char) : List WordKind :=
  match cs with
  | '-' :: '-' :: _ =>
    let (stem, attached) := splitAtEquals cs
    (namedRules rules).filterMap fun (name, rule) =>
      if name.startsWith stem then some (.option name rule attached) else none
  | '-' :: c :: rest =>
    (namedRules rules).filterMap fun (name, rule) =>
      if name = String.ofList ['-', c] then some (.option name rule (some rest))
      else if name.startsWith (String.ofList cs) then some (.option name rule none)
      else none
  | _ => []

/-- The kind of a word that is no separator; a word that may stand for more than one option has
none. -/
def kindOf? (rules : List OptionRule) (s : String) : Option WordKind :=
  let cs := s.toList
  match cs with
  | '-' :: _ :: _ =>
    match (namedRules rules).lookup s with
    | some rule => some (.option s rule none)
    | none =>
      let (name, attached) := splitAtEquals cs
      match attached.bind fun _ => (namedRules rules).lookup name with
      | some rule => some (.option name rule attached)
      | none =>
        match candidates rules cs with
        | [] =>
          some (if isNegativeNumber cs || cs.contains ' ' then .plain else .unknown)
        | [kind] => some kind
        | _ => none
  | _ => some .plain

/-- The words of a command line; if a word may stand for more than one option, there are none. -/
def words? (rules : List OptionRule) : List String → Option (List Word)
  | [] => some []
  | "--" :: rest => some (⟨"--", .separator⟩ :: rest.map (⟨·, .plain⟩))
  | s :: rest => do
    let kind ← kindOf? rules s
    pure (⟨s, kind⟩ :: (← words? rules rest))

end FlowAtlas.CommandLine
