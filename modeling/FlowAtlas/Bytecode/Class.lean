/-!
# Classes of objects

Besides the members that an object was given, it has attributes by its class. A class holds entries
under names, and those of the classes that it extends count as its own. There are classes of
functions and code, of the values that a module may define, and of whatever is found at the
attributes of those.

What an attribute is depends on the kind of its entry and on whether it is taken from an object of
the class or from the class itself. Of the objects that are found in this way often only the class
matters, so that the entry of a field names no more than that.
-/

namespace FlowAtlas

/-- The classes of objects. -/
inductive ObjectClass where
  | object | type
  | noneType | bool | int | float | str | bytes | list | tuple | dict
  | function | method | code | holder | module
  /-- Functions of the language itself. -/
  | builtinFunction
  /-- Operators, each with the object that it was taken from. -/
  | methodWrapper
  | methodDescriptor | wrapperDescriptor | getSetDescriptor | memberDescriptor | mappingProxy
  /-- Fields that a function computes. -/
  | property
  /-- References and statements: records without defaults, returns and expressions. -/
  | record | returnRecord | exprRecord
  /-- The class of the operand of a return that is never reached. -/
  | undef
  /-- What a record says of the way it was declared. -/
  | recordOptions
  | signature | parameter | boundArguments
  /-- The class that stands for an annotation or a default that is missing. -/
  | emptyMark
  /-- How a module of a file was found, and what read it. -/
  | moduleSpec | sourceLoader
  deriving DecidableEq, Repr

/-- What a class holds under a name. -/
inductive ClassEntry where
  | operator
  | method
  | classMethod
  | static
  /-- A method that is written as a function. -/
  | defined
  /-- A method of the class itself that is written as a function. -/
  | definedForClass
  /-- A field with an object of a class, computed when it is asked for. -/
  | computed (c : ObjectClass)
  /-- A field with an object of a class. -/
  | stored (c : ObjectClass)
  /-- A field with an object of a class that a function computes. -/
  | derived (c : ObjectClass)
  /-- An object of a class, one for all objects. -/
  | constant (c : ObjectClass)
  /-- A class, one for all objects. -/
  | classConstant (c : ObjectClass)
  deriving DecidableEq, Repr

/-- The entry is a field. A member of an object does not hide a field of the same name. -/
def ClassEntry.isField : ClassEntry → Bool
  | computed _ | stored _ | derived _ => true
  | operator | method | classMethod | static | defined | definedForClass | constant _
  | classConstant _ => false

namespace ObjectClass

/-- A class and the classes that it extends, the nearest first. -/
def lineage : ObjectClass → List ObjectClass
  | object => [object]
  | bool => [bool, int, object]
  | c => [c, object]

/-- The class that a name in an annotation stands for, if it is one of these. -/
def ofName? (name : String) : Option ObjectClass :=
  [("object", object), ("type", type), ("bool", bool), ("int", int), ("float", float),
    ("str", str), ("bytes", bytes), ("list", list), ("tuple", tuple), ("dict", dict),
    ("property", property)].lookup name

end ObjectClass

end FlowAtlas
