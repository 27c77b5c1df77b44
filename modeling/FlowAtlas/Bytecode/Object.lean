import FlowAtlas.Bytecode.Class.Traits
import FlowAtlas.Bytecode.Function

/-!
# Python objects

A module defines objects: functions, methods of an instance, bare code, objects with members, and
values. Each has attributes: its own members and the entries of its class. A field of the class
comes first, then its own members, then the other entries of the class. A class has as members of
its own the entries that it holds for others. A module may name an object that answers for the
attributes that it does not have.

Functions and methods can be shown, and so can every object that names a function as the one that
is behind it.
-/

namespace FlowAtlas

/-- What a module defines, and what is found at the attributes of that. -/
inductive Object where
  | function (f : Function)
  | method (f : Function)
  | code (c : Code)
  /-- An object with members that were given to it. -/
  | holder (members : List (String × Object))
  | module (fromFile : Bool) (members : List (String × Object))
  | value (v : Value)
  /-- A class itself. -/
  | type (c : ObjectClass)
  /-- The entry of the class `definer` under a name, taken from its owner, an object or a class. -/
  | entry (kind : ObjectClass) (owner : Object) (definer : ObjectClass) (name : String)
  /-- The signature of a function, with the annotation of its result. -/
  | signature (result? : Option Annotation)
  /-- An object of which only the class is known. -/
  | plain (c : ObjectClass)

/-- The objects that a module defines, by name. -/
abbrev Members := List (String × Object)

mutual

/-- The class of an operand. -/
def Value.objectClass : Value → ObjectClass
  | .null => .noneType
  | .bool _ => .bool
  | .int _ => .int
  | .float _ => .float
  | .str _ => .str
  | .list _ => .list
  | .tuple _ => .tuple
  | .dict _ => .dict
  | .ssa _ | .arg _ => .record
  | .undef => .undef
  | .stmt s => s.objectClass

/-- The class of a statement. -/
def Stmt.objectClass : Stmt → ObjectClass
  | .ret _ => .returnRecord
  | .expr _ _ => .exprRecord
  | .value v => v.objectClass
  | .goto _ | .gotoIfNot _ _ | .detach _ _ | .reattach _ _ | .sync _ => .record

end

mutual

/-- The fields of an operand, by name. -/
def Value.fields : Value → List (String × Value)
  | .ssa id => [("id", id)]
  | .arg n => [("n", n)]
  | .stmt s => s.fields
  | _ => []

/-- The fields of a statement, by name. -/
def Stmt.fields : Stmt → List (String × Value)
  | .goto label => [("label", label)]
  | .gotoIfNot cond dest => [("cond", cond), ("dest", dest)]
  | .ret val => [("val", val)]
  | .expr head args => [("head", .str head), ("args", .tuple args)]
  | .detach region label | .reattach region label => [("syncregion", region), ("label", label)]
  | .sync region => [("syncregion", region)]
  | .value v => v.fields

end

namespace Object

/-- The class of an object. -/
def objectClass : Object → ObjectClass
  | function _ => .function
  | method _ => .method
  | code _ => .code
  | holder _ => .holder
  | module _ _ => .module
  | value v => v.objectClass
  | type _ => .type
  | entry kind _ _ _ => kind
  | signature _ => .signature
  | plain c => c

/-! ## Members of their own -/

/-- The members that a module has before it defines any. -/
def moduleMembers (fromFile : Bool) : Members :=
  if fromFile then
    [("__name__", plain .str), ("__doc__", plain .noneType), ("__package__", plain .str),
      ("__loader__", plain .sourceLoader), ("__spec__", plain .moduleSpec),
      ("__file__", plain .str), ("__cached__", plain .str), ("__builtins__", plain .dict)]
  else
    [("__name__", plain .str), ("__doc__", plain .noneType), ("__package__", plain .noneType),
      ("__loader__", plain .noneType), ("__spec__", plain .noneType)]

/-- The members of objects of which only the class is known. -/
def plainMembers : ObjectClass → Members
  | .moduleSpec =>
    [("name", plain .str), ("loader", plain .sourceLoader), ("origin", plain .str),
      ("loader_state", plain .noneType), ("submodule_search_locations", plain .noneType),
      ("_uninitialized_submodules", plain .list), ("_set_fileattr", plain .bool),
      ("_cached", plain .str)]
  | .sourceLoader => [("name", plain .str), ("path", plain .str)]
  | _ => []

/-- An entry of the class `definer` under a name, taken from the class `c`. A static entry knows its
class only if it makes the objects of it. -/
def takenFromClass (c : ObjectClass) (name : String) (definer : ObjectClass) : ClassEntry → Object
  | .operator => entry .wrapperDescriptor (type c) definer name
  | .method => entry .methodDescriptor (type c) definer name
  | .classMethod => entry .builtinFunction (type c) definer name
  | .static =>
    entry .builtinFunction (if name = "__new__" then type definer else plain .noneType) definer name
  | .defined => entry .function (type definer) definer name
  | .definedForClass => entry .method (type c) definer name
  | .computed _ => entry .getSetDescriptor (type c) definer name
  | .stored _ => entry .memberDescriptor (type c) definer name
  | .derived _ => entry .property (type c) definer name
  | .constant d => plain d
  | .classConstant d => type d

/-- The member of an object that is its own. A written function that shows a record stands for
another one. -/
def ownMember? (o : Object) (name : String) : Option Object :=
  match o with
  | function f =>
    match f, name with
    | .wrapper _ wrapped, "__wrapped__" => some (function wrapped)
    | .plain d, "__signature__" => some (signature d.result?)
    | _, _ => none
  | holder members => members.lookup name
  | module fromFile members => (members.lookup name).or ((moduleMembers fromFile).lookup name)
  | value v => (v.fields.lookup name).map value
  | type c =>
    if name = "__annotations__" then if c.isAnnotated then some (plain .dict) else none
    else (c.entry? name).map fun (definer, e) => takenFromClass c name definer e
  | entry .function _ definer "__repr__" =>
    if definer.isRecord && name = "__wrapped__" then some (plain .function) else none
  | plain c => (plainMembers c).lookup name
  | method _ | code _ | signature _ | entry _ _ _ _ => none

/-! ## Attributes -/

/-- The annotation of a result, as an object. -/
def ofAnnotation : Option Annotation → Object
  | none => type .emptyMark
  | some (.text _) => plain .str
  | some .none => plain .noneType
  | some (.typeName name) => ((ObjectClass.ofName? name).map type).getD (plain .type)

/-- The object in a field of the class `c` of objects. A class without a text of its own shows what
it holds for others as its text. -/
def fieldMember (o : Object) (name : String) (c : ObjectClass) : Object :=
  match o, name with
  | _, "__class__" => type o.objectClass
  | function f, "__code__" => code f.code
  | function _, "__module__" => plain .noneType
  | method f, "__func__" => function f
  | module _ members, "__annotations__" => (members.lookup name).getD (plain c)
  | entry .method _ definer entryName, "__func__" | entry .property _ definer entryName, "fget" =>
    entry .function (type definer) definer entryName
  | entry _ owner _ _, "__self__" => owner
  | entry _ _ definer _, "__objclass__" => type definer
  | entry _ _ definer entryName, _ => plain ((definer.entryTrait? entryName name).getD c)
  | signature result?, "return_annotation" | signature result?, "_return_annotation" =>
    ofAnnotation result?
  | type d, "__doc__" => if d.isDocumented then plain c else (o.ownMember? name).getD (plain c)
  | type d, "__text_signature__" => plain (if d.isSigned then .str else c)
  | type d, "__base__" =>
    match d.lineage with
    | _ :: base :: _ => type base
    | _ => plain .noneType
  | _, _ => plain c

/-- An entry of the class `definer`, taken from an object. -/
def taken (o : Object) (name : String) (definer : ObjectClass) (e : ClassEntry) : Object :=
  match e with
  | .operator => entry .methodWrapper o definer name
  | .method => entry .builtinFunction o definer name
  | .defined => entry .method o definer name
  | .computed c | .stored c | .derived c => o.fieldMember name c
  | .classMethod | .static | .definedForClass | .constant _ | .classConstant _ =>
    takenFromClass o.objectClass name definer e

/-- The attribute of an object with a name, unless the object is a method. -/
def attribute? (o : Object) (name : String) : Option Object :=
  match o.objectClass.entry? name with
  | none => o.ownMember? name
  | some (definer, e) =>
    let inherited := o.taken name definer e
    some (if e.isField then inherited else (o.ownMember? name).getD inherited)

/-- The attribute of an object with a name. The attributes of its function that a method does not
have by its class are its own. -/
def member? (o : Object) (name : String) : Option Object :=
  let ofMethod (function : Object) : Option Object :=
    match ObjectClass.method.entry? name with
    | none => function.attribute? name
    | some (definer, e) => some (o.taken name definer e)
  match o with
  | method f => ofMethod (function f)
  | entry .method _ definer entryName => ofMethod (entry .function (type definer) definer entryName)
  | _ => o.attribute? name

/-- The object names one that answers for the attributes that it does not have. Only a module is
asked for it. -/
def answersForMissing : Object → Bool
  | module _ members => (members.lookup "__getattr__").isSome
  | _ => false

/-- The attribute of an object with a name. What answers for a missing attribute would be called
with its name, which none of the objects of a module can be. -/
def member (o : Object) (name : String) : Except Failure Object :=
  match o.member? name with
  | some found => .ok found
  | none => .error (if o.answersForMissing then .notCallable else .noAttribute)

/-- The object to which a path of names leads from an object. -/
def follow (o : Object) (path : List String) : Except Failure Object :=
  path.foldlM member o

/-- What a look-up gives, with a default for a missing attribute. Any other failure stays. -/
def unlessMissing {α : Type} (default : α) : Except Failure α → Except Failure α
  | .error .noAttribute => .ok default
  | result => result

/-! ## What is shown of an object -/

/-- The object that stands behind an object: the function of a method, or whatever else is named in
the place of one. -/
def behind (o : Object) : Except Failure Object :=
  unlessMissing o (o.member "__func__")

/-- The object behind an object has code, as a function does. -/
def hasCode (o : Object) : Except Failure Bool := do
  let behind ← o.behind
  unlessMissing false ((behind.member "__code__").map fun _ => true)

mutual

/-- The object that is wrapped innermost in an object. -/
def unwrapped : Object → Except Failure Object
  | function f => .ok (function (.plain f.innermost))
  | method (.wrapper _ f) => .ok (function (.plain f.innermost))
  | holder members => (wrapped? members).getD (.ok (holder members))
  | module fromFile members =>
    (wrapped? members).getD
      (if (module fromFile members).answersForMissing then .error .notCallable
      else .ok (module fromFile members))
  | o => .ok o

/-- The object that is wrapped innermost in an object with the given members, if it wraps any. -/
def wrapped? : Members → Option (Except Failure Object)
  | [] => none
  | (name, o) :: rest => if name = "__wrapped__" then some o.unwrapped else wrapped? rest

end

/-- What is shown of an object. Of an object that is no function, but has members in the places of
those of a function, the code is looked up first, and then it cannot be called. The written
functions of classes have code that is not known. -/
def presentation (o : Object) : Except Failure Presentation :=
  match o with
  | code c => .ok c.presentation
  | _ => do
    match ← (← o.behind).unwrapped with
    | function f => .ok f.innermost.presentation
    | method f => f.innermost.bound.map Definition.presentation
    | entry .function _ _ _ | entry .method _ _ _ | plain .function => .error .unknownCode
    | inner => do
      discard ((← inner.member "__code__").member "co_name")
      .error .notCallable

/-- The view of an object. -/
def view (o : Object) : Except Failure View := do
  (← o.presentation).view

end Object

end FlowAtlas
