import FlowAtlas.Document.Statement
import FlowAtlas.Dominance.Tree
import FlowAtlas.Graph.Valid
import FlowAtlas.Json.Reading
import FlowAtlas.View

/-!
# Loading documents

A document is a JSON object with the statements and the blocks of a function. It may give its name,
its signature, its result type and its dominator tree; a tree that is not given is computed.
-/

namespace FlowAtlas.Document

/-- The failure of a number in a block. An infinite number is an overflow. -/
def blockFailure (number : Nat) : NumeralFlaw → Failure
  | .infinite => .overflow
  | _ => .document (.badBlock number)

/-- The integers in the items of a JSON value that has items. -/
def blockIntegers (number : Nat) (j : Json) : Except Failure (List Int) :=
  match j.items? with
  | none => .error (.document (.badBlock number))
  | some items => items.mapM fun item => item.toInteger.mapError (blockFailure number)

/-- The block with a number in a document: two numbers for the run of its statements, and the
numbers of its successors, if there are any. -/
def block (number : Nat) (j : Json) : Except Failure Block :=
  match j with
  | .obj members =>
    match (Json.member? members "stmts").bind Json.items? with
    | some [first, last] => do
      let first ← first.toInteger.mapError (blockFailure number)
      let last ← last.toInteger.mapError (blockFailure number)
      let succs ← match Json.member? members "succs" with
        | none => .ok []
        | some j => blockIntegers number j
      pure { stmts := ⟨first, last⟩, succs }
    | _ => .error (.document (.badBlock number))
  | _ => .error (.document (.badBlock number))

/-- The failure of a number in a tree. An infinite number is an overflow. -/
def treeFailure : NumeralFlaw → Failure
  | .infinite => .overflow
  | flaw => .document (.treeChild flaw)

/-- The items of an array. -/
def arrayItems? : Json → Option (List Json)
  | .arr items => some items
  | _ => none

/-- The tree with the given lists of children over a number of blocks. All blocks must exist, block
one must be no child, no block may be listed twice, and every listed block must hang below block
one. -/
def treeOfChildren (count : Nat) (children : List (List Int)) : Except Failure DomTree := do
  let listed := children.flatten
  if children.length ≠ count then .error (.document (.treeSize children.length count))
  else if listed.any fun c => !(1 ≤ c && c ≤ count) then .error (.document .treeUnknownBlock)
  else if listed.contains 1 || listed.eraseDups.length ≠ listed.length then
    .error (.document .notATree)
  else do
    let t ← found (DomTree.ofChildren? children)
    if listed.any fun c => (t.node? c).any (·.level = 0) then .error (.document .notATree)
    else pure t

/-- The tree of a document over a number of blocks. -/
def tree (count : Nat) (j : Json) : Except Failure DomTree :=
  match (arrayItems? j).bind (·.mapM arrayItems?) with
  | none => .error (.document .treeNotLists)
  | some lists => do
    let children ← lists.mapM (·.mapM fun c => c.toInteger.mapError treeFailure)
    treeOfChildren count children

/-- A flaw of the graph is a flaw of its document. -/
def graphFailure : Failure → Failure
  | .graph flaw => .document (.badGraph flaw)
  | failure => failure

/-- A field that is shown as a text. -/
def textField (members : List (String × Json)) (name default : String) : Except Failure String :=
  match Json.member? members name with
  | none => .ok default
  | some j => shown Value.text j

/-- The view that a document describes. -/
def view (j : Json) : Except Failure View :=
  match j with
  | .obj members =>
    match Json.member? members "code", Json.member? members "blocks" with
    | some code, some blocks =>
      match code, blocks with
      | .arr code, .arr blocks => do
        let code ← code.mapM statement
        let blocks ← (blocks.zipIdx 1).mapM fun (b, i) => block i b
        let graph := Graph.linked ⟨blocks, code⟩
        graph.validate.mapError graphFailure
        let tree ← match Json.member? members "domtree" with
          | some j => tree blocks.length j
          | none => found (Dominance.tree? graph.blocks)
        let name ← textField members "name" "f?"
        let signature ← textField members "signature" "(?)"
        pure {
          graph
          name := .str name
          signature := .str signature
          resultType := ((Json.member? members "rtype").map Json.toValue).getD .null
          tree := some tree }
      | _, _ => .error (.document .partsNotLists)
    | _, _ => .error (.document .partsMissing)
  | _ => .error (.document .partsMissing)

/-- The failure of a text that is no JSON document. -/
def textFailure : Json.Trouble → Failure
  | .flaw flaw => .document (.notJson flaw)
  | .tooManyDigits count => .request (.numeral (.tooManyDigits count))
  | .tooDeep => .tooDeep

/-- The view that the text of a document describes. -/
def load (text : String) : Except Failure View := do
  view (← (Json.parse text).mapError textFailure)

end FlowAtlas.Document
