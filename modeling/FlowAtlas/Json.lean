import FlowAtlas.Value

/-!
# JSON values

The members of an object keep their order; a number is an integer or a floating-point number
according to its notation.
-/

namespace FlowAtlas

open Decimal (Binary64)

/-- A JSON value. -/
inductive Json where
  | null
  | bool (b : Bool)
  | int (n : Int)
  | float (x : Binary64)
  | str (s : String)
  | arr (items : List Json)
  | obj (members : List (String × Json))

namespace Json

instance : Inhabited Json := ⟨.null⟩

/-- The value of a key among the members of an object. -/
def member? (members : List (String × Json)) (key : String) : Option Json :=
  members.lookup key

/-- The members with one more: it takes the place of a member of the same key, and comes last
otherwise. -/
def putMember (members : List (String × Json)) (key : String) (v : Json) :
    List (String × Json) :=
  if members.any (·.1 == key) then members.map fun m => if m.1 == key then (key, v) else m
  else members ++ [(key, v)]

mutual

/-- A JSON value as an operand. -/
def toValue : Json → Value
  | .null => .null
  | .bool b => .bool b
  | .int n => .int n
  | .float x => .float x
  | .str s => .str s
  | .arr items => .list (toValues items)
  | .obj members => .dict (toEntries members)

/-- The items of an array as operands. -/
def toValues : List Json → List Value
  | [] => []
  | j :: rest => j.toValue :: toValues rest

/-- The members of an object as the entries of a dictionary. -/
def toEntries : List (String × Json) → List (Value × Value)
  | [] => []
  | (key, j) :: rest => (.str key, j.toValue) :: toEntries rest

end

mutual

/-- How many arrays and objects a JSON value has inside one another. -/
def depth : Json → Nat
  | .arr items => depthOfItems items + 1
  | .obj members => depthOfMembers members + 1
  | _ => 0

/-- The greatest depth of the items of an array. -/
def depthOfItems : List Json → Nat
  | [] => 0
  | j :: rest => max j.depth (depthOfItems rest)

/-- The greatest depth of the members of an object. -/
def depthOfMembers : List (String × Json) → Nat
  | [] => 0
  | (_, j) :: rest => max j.depth (depthOfMembers rest)

end

/-- The name of the type of a value. -/
def typeName : Json → String
  | .null => "NoneType"
  | .bool _ => "bool"
  | .int _ => "int"
  | .float _ => "float"
  | .str _ => "str"
  | .arr _ => "list"
  | .obj _ => "dict"

/-- The items that a value is made of: those of an array, the characters of a text, the keys of an
object. Other values have none. -/
def items? : Json → Option (List Json)
  | .arr items => some items
  | .str s => some (s.toList.map fun c => .str (String.singleton c))
  | .obj members => some (members.map fun m => .str m.1)
  | _ => none

end Json

end FlowAtlas
