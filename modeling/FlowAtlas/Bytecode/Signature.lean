import FlowAtlas.Value.Text

/-!
# Signatures

The text of a signature lists the parameters of a function. A slash follows the parameters that can
only be given by position, and a star precedes those that can only be given by name, unless a
parameter that takes the surplus positions stands before them.
-/

namespace FlowAtlas

/-- An annotation of a parameter or of a result. -/
inductive Annotation where
  | text (s : String)
  | typeName (name : String)
  | none
  deriving DecidableEq, Repr

/-- How the argument for a parameter can be given. -/
inductive ParameterKind where
  | positionalOnly
  | positional
  /-- Takes the surplus positions. -/
  | restOfPositions
  | namedOnly
  /-- Takes the surplus names. -/
  | restOfNames
  deriving DecidableEq, Repr

/-- A parameter. -/
structure Parameter where
  name : String
  kind : ParameterKind
  default? : Option Value := none
  annotation? : Option Annotation := none

/-- The text of an annotation. -/
def Annotation.shown : Annotation → String
  | text s => Text.quoted s
  | typeName name => name
  | none => "None"

namespace Parameter

/-- The text of a parameter. -/
def shown (p : Parameter) : String :=
  let stars := match p.kind with
    | .restOfPositions => "*"
    | .restOfNames => "**"
    | _ => ""
  let annotated := match p.annotation? with
    | some a => p.name ++ ": " ++ a.shown
    | none => p.name
  let default := match p.default? with
    | some v => (if p.annotation?.isSome then " = " else "=") ++ v.literal
    | none => ""
  stars ++ annotated ++ default

/-- The texts of parameters and of the marks between them. `slashDue` says that parameters that can
only be given by position came last, and `starDue` that a star has to precede parameters that can
only be given by name. -/
def allShown (slashDue starDue : Bool) : List Parameter → List String
  | [] => if slashDue then ["/"] else []
  | p :: rest =>
    let slashNow := slashDue && p.kind ≠ .positionalOnly
    let starNow := starDue && p.kind = .namedOnly
    (if slashNow then ["/"] else []) ++ (if starNow then ["*"] else []) ++ p.shown ::
      allShown (p.kind = .positionalOnly)
        (starDue && p.kind ≠ .restOfPositions && p.kind ≠ .namedOnly) rest

end Parameter

/-- The parameters of a method: its function takes the object at the first position, unless that is
one of the surplus positions. A function that takes no positions takes no object. -/
def withoutReceiver? : List Parameter → Option (List Parameter)
  | [] => none
  | p :: rest =>
    match p.kind with
    | .positionalOnly | .positional => some rest
    | .restOfPositions => some (p :: rest)
    | .namedOnly | .restOfNames => none

/-- The text of a signature. -/
def signatureText (parameters : List Parameter) : String :=
  bracketed "(" ")" (Parameter.allShown false true parameters)

end FlowAtlas
