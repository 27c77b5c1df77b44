import FlowAtlas.Document.Integer
import FlowAtlas.Value.Text

/-!
# Operands and statements in documents

The texts `%n` and `_n` with a number in the digits of any script stand for results and arguments;
every other value stands for itself. An object is a statement of the kind that it names, an
expression if it names none; any other value is an operand used as a statement.
-/

namespace FlowAtlas.Document

/-- The digits of a reference after its mark. A line end may follow them. -/
def referenceDigits? (cs : List Char) : Option (List Char) :=
  let body := if cs.getLast? = some '\n' then cs.dropLast else cs
  if !body.isEmpty && body.all Text.isDecimalDigit then some body else none

/-- The mark and the digits of a reference. -/
def reference? : List Char → Option (Char × List Char)
  | mark :: rest =>
    if mark = '%' || mark = '_' then (referenceDigits? rest).map (mark, ·) else none
  | [] => none

/-- The operand that a JSON value stands for. -/
def operand (j : Json) : Except NumeralFlaw Value :=
  match j with
  | .str s =>
    match reference? s.toList with
    | none => .ok (.str s)
    | some (mark, digits) =>
      if digits.length > digitLimit then .error (.tooManyDigits digits.length)
      else
        let n := Value.int (Text.decimalValue digits)
        .ok (if mark = '%' then .ssa n else .arg n)
  | j => .ok j.toValue

/-- What is shown for a JSON value. One that is nested too deeply cannot be shown. -/
def shown (text : Value → String) (j : Json) : Except Failure String :=
  if j.depth ≤ levelLimit then .ok (text j.toValue) else .error .tooDeep

/-- The failure of a field of a statement. An infinite number is an overflow. -/
def fieldFailure (kind : String) : NumeralFlaw → Failure
  | .infinite => .overflow
  | flaw => .document (.badField kind (.numeral flaw))

/-- A field of a statement. -/
def field (kind : String) (members : List (String × Json)) (name : String) :
    Except Failure Json :=
  match Json.member? members name with
  | some j => .ok j
  | none => .error (.document (.missingField kind name))

/-- A field that holds an operand. -/
def operandField (kind : String) (members : List (String × Json)) (name : String) :
    Except Failure Value := do
  (operand (← field kind members name)).mapError (fieldFailure kind)

/-- A field that holds the number of a block. -/
def labelField (kind : String) (members : List (String × Json)) (name : String) :
    Except Failure Value := do
  let n ← (← field kind members name).toInteger.mapError (fieldFailure kind)
  pure (.int n)

/-- The arguments of an expression; a missing list is empty. -/
def arguments (kind : String) (members : List (String × Json)) : Except Failure (List Value) :=
  match Json.member? members "args" with
  | none => .ok []
  | some j =>
    match j.items? with
    | none => .error (.document (.badField kind (.notIterable j.typeName)))
    | some items => items.mapM fun item => (operand item).mapError (fieldFailure kind)

/-- The kinds of statements. -/
inductive Kind where
  | goto | gotoIfNot | ret | expr | detach | reattach | sync
  deriving DecidableEq, Repr

/-- The name of a kind in a document. -/
def Kind.name : Kind → String
  | .goto => "goto"
  | .gotoIfNot => "gotoifnot"
  | .ret => "return"
  | .expr => "expr"
  | .detach => "detach"
  | .reattach => "reattach"
  | .sync => "sync"

/-- All kinds. -/
def Kind.all : List Kind :=
  [.goto, .gotoIfNot, .ret, .expr, .detach, .reattach, .sync]

/-- The kind that an object names, or its claim to another one. -/
def kindOf (members : List (String × Json)) : Except Failure Kind :=
  match Json.member? members "kind" with
  | none => .ok .expr
  | some (.str name) =>
    match Kind.all.find? (·.name == name) with
    | some kind => .ok kind
    | none => .error (.document (.unknownKind (Value.str name).literal))
  | some j => do .error (.document (.unknownKind (← shown Value.literal j)))

/-- The statement of a kind with the given fields. -/
def statementOf (members : List (String × Json)) (kind : Kind) : Except Failure Stmt :=
  match kind with
  | .goto => do
    pure (.goto (← labelField kind.name members "label"))
  | .gotoIfNot => do
    let cond ← operandField kind.name members "cond"
    pure (.gotoIfNot cond (← labelField kind.name members "dest"))
  | .ret =>
    if (Json.member? members "val").isSome then do
      pure (.ret (← operandField kind.name members "val"))
    else .ok (.ret .undef)
  | .expr => do
    let head ← shown Value.text (← field kind.name members "head")
    pure (.expr head (← arguments kind.name members))
  | .detach => do
    let region ← operandField kind.name members "syncregion"
    pure (.detach region (← labelField kind.name members "label"))
  | .reattach => do
    let region ← operandField kind.name members "syncregion"
    pure (.reattach region (← labelField kind.name members "label"))
  | .sync => do
    pure (.sync (← operandField kind.name members "syncregion"))

/-- The failure of an operand that stands alone. -/
def loneFailure : NumeralFlaw → Failure
  | .tooManyDigits count => .request (.numeral (.tooManyDigits count))
  | _ => .overflow

/-- The statement that a JSON value stands for. -/
def statement (j : Json) : Except Failure Stmt :=
  match j with
  | .obj members => do statementOf members (← kindOf members)
  | j => ((operand j).mapError loneFailure).map .value

end FlowAtlas.Document
