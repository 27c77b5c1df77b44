import FlowAtlas.Value

/-!
# Operands that can be looked up

An operand can be looked up in a table unless it holds a list or a dictionary, whose contents may
change. Two keys are the same if they are equal part by part; numbers are compared by value, so that
one, the truth value true and the floating-point number one are the same key. What is not a number
is not even the same as itself.
-/

namespace FlowAtlas

mutual

/-- An operand can be looked up. -/
def Value.isKey : Value → Bool
  | .list _ | .dict _ => false
  | .tuple items => Value.areKeys items
  | .ssa id => id.isKey
  | .arg n => n.isKey
  | .stmt s => s.isKey
  | .null | .bool _ | .int _ | .float _ | .str _ | .undef => true

/-- All operands of a list can be looked up. -/
def Value.areKeys : List Value → Bool
  | [] => true
  | v :: rest => v.isKey && Value.areKeys rest

/-- All operands of a statement can be looked up. -/
def Stmt.isKey : Stmt → Bool
  | .goto label => label.isKey
  | .gotoIfNot cond dest => cond.isKey && dest.isKey
  | .ret val => val.isKey
  | .expr _ args => Value.areKeys args
  | .detach region label => region.isKey && label.isKey
  | .reattach region label => region.isKey && label.isKey
  | .sync region => region.isKey
  | .value v => v.isKey

end

/-- Two operands are numbers of the same value. -/
def Value.isSameNumber (v w : Value) : Bool :=
  match v.integer?, w.integer? with
  | some m, some n => m = n
  | none, none =>
    match v, w with
    | .float x, .float y => x = y && x ≠ .notANumber
    | _, _ => false
  | _, _ => false

mutual

/-- Two operands are the same key. -/
def Value.isSameKey : Value → Value → Bool
  | .null, .null => true
  | .str s, .str t => s = t
  | .tuple items, .tuple others => Value.areSameKeys items others
  | .ssa id, .ssa other => id.isSameKey other
  | .arg n, .arg other => n.isSameKey other
  | .undef, .undef => true
  | .stmt s, .stmt other => s.isSameKey other
  | v, w => v.isSameNumber w

/-- The operands of two lists are the same keys in the same order. -/
def Value.areSameKeys : List Value → List Value → Bool
  | [], [] => true
  | v :: rest, w :: others => v.isSameKey w && Value.areSameKeys rest others
  | _, _ => false

/-- Two statements are the same key. -/
def Stmt.isSameKey : Stmt → Stmt → Bool
  | .goto label, .goto other => label.isSameKey other
  | .gotoIfNot cond dest, .gotoIfNot otherCond otherDest =>
    cond.isSameKey otherCond && dest.isSameKey otherDest
  | .ret val, .ret other => val.isSameKey other
  | .expr head args, .expr otherHead others =>
    head = otherHead && Value.areSameKeys args others
  | .detach region label, .detach otherRegion otherLabel =>
    region.isSameKey otherRegion && label.isSameKey otherLabel
  | .reattach region label, .reattach otherRegion otherLabel =>
    region.isSameKey otherRegion && label.isSameKey otherLabel
  | .sync region, .sync other => region.isSameKey other
  | .value v, .value w => v.isSameKey w
  | _, _ => false

end

/-- The entries of a dictionary after a value has been put under a key. The same key keeps its place
and its first spelling; a new one goes to the end. -/
def putEntry (key v : Value) : List (Value × Value) → List (Value × Value)
  | [] => [(key, v)]
  | (present, old) :: rest =>
    if present.isSameKey key then (present, v) :: rest else (present, old) :: putEntry key v rest

/-- The dictionary into which entries have been put in order, if all keys can be looked up. -/
def Value.ofEntries? (entries : List (Value × Value)) : Option Value :=
  if entries.all fun (key, _) => key.isKey then
    some (.dict (entries.foldl (fun present (key, v) => putEntry key v present) []))
  else none

end FlowAtlas
