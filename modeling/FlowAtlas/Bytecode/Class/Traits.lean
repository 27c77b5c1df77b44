import FlowAtlas.Bytecode.Class.Entries

/-!
# The traits of classes and of their entries

An entry that is taken from a class is an object too, and has a text that describes it, a signature,
defaults and captured variables, or has nothing in their places. So has a class. The tables of this
file tell which have which.
-/

namespace FlowAtlas.ObjectClass

/-! ## Classes -/

/-- The class has a text that describes it, whatever it holds under the name of such a text. -/
def isDocumented : ObjectClass → Bool
  | noneType | builtinFunction | methodWrapper | methodDescriptor | wrapperDescriptor
  | getSetDescriptor | memberDescriptor | mappingProxy | undef | recordOptions => false
  | _ => true

/-- The class has annotations of its own, whatever it holds under that name for its objects. -/
def isAnnotated : ObjectClass → Bool
  | record | returnRecord | exprRecord | undef | recordOptions | signature | parameter
  | boundArguments | emptyMark | moduleSpec | sourceLoader => true
  | _ => false

/-- The class is one of references and statements. -/
def isRecord : ObjectClass → Bool
  | record | returnRecord | exprRecord => true
  | _ => false

/-- The class says how it is called. -/
def isSigned : ObjectClass → Bool
  | object | float | list | tuple | function | method | code | module | property => true
  | _ => false

/-! ## Entries -/

/-- The entries of a class that are described unlike others of their kind: operators and methods
without a text, fields and written functions with one. -/
def unusualEntries : ObjectClass → List String
  | object => ["__class__"]
  | int => ["__format__", "__getnewargs__", "denominator", "imag", "numerator", "real"]
  | float => ["__getnewargs__", "imag", "real"]
  | str | bytes | tuple => ["__getnewargs__"]
  | method => ["__func__", "__reduce__", "__self__"]
  | code => ["__sizeof__", "co_lines", "co_positions"]
  | builtinFunction | methodWrapper | methodDescriptor | wrapperDescriptor | memberDescriptor =>
    ["__reduce__"]
  | record | returnRecord | exprRecord | undef => ["__dict__", "__weakref__"]
  | signature => ["__init__", "_bind", "bind", "bind_partial", "from_callable", "replace"]
  | parameter => ["replace"]
  | boundArguments => ["__weakref__", "apply_defaults"]
  | moduleSpec => ["__dict__", "__weakref__", "parent"]
  | sourceLoader => ["__dict__", "__init__", "__weakref__", "create_module", "exec_module",
      "get_code", "get_data", "get_filename", "get_source", "is_package", "load_module",
      "path_mtime", "path_stats", "set_data", "source_to_code"]
  | _ => []

/-- The entry of a class under a name has a text that describes it. -/
def describesEntry (c : ObjectClass) (name : String) : Bool :=
  let usually := match c.ownEntry? name with
    | some .operator | some .method | some .classMethod | some .static => true
    | _ => false
  usually != c.unusualEntries.contains name

/-- The operators and methods of a class that do not say how they are called. -/
def unsignedEntries : ObjectClass → List String
  | object => ["__init_subclass__", "__subclasshook__"]
  | type => ["__prepare__"]
  | int => ["__ceil__", "__floor__", "__trunc__", "conjugate"]
  | str => ["__getnewargs__", "count", "endswith", "find", "format", "format_map", "index",
      "rfind", "rindex", "startswith"]
  | bytes => ["__getnewargs__", "capitalize", "count", "endswith", "find", "index", "isalnum",
      "isalpha", "isascii", "isdigit", "islower", "isspace", "istitle", "isupper", "lower",
      "rfind", "rindex", "startswith", "swapcase", "title", "upper"]
  | list => ["__class_getitem__", "__getitem__"]
  | tuple => ["__class_getitem__"]
  | dict => ["__class_getitem__", "__getitem__", "__sizeof__", "clear", "copy", "items", "keys",
      "update", "values"]
  | code => ["__sizeof__", "co_lines", "co_positions"]
  | holder | builtinFunction | methodWrapper | methodDescriptor | wrapperDescriptor
  | memberDescriptor => ["__reduce__"]
  | module => ["__dir__"]
  | mappingProxy => ["__class_getitem__", "__reversed__", "copy", "get", "items", "keys", "values"]
  | property => ["__set_name__", "deleter", "getter", "setter"]
  | _ => []

/-- The written functions of a class with defaults for parameters given by position. -/
def defaultingEntries : ObjectClass → List String
  | returnRecord | exprRecord | signature => ["__init__"]
  | sourceLoader => ["get_filename", "get_resource_reader", "load_module"]
  | _ => []

/-- The written functions of a class with defaults for parameters given by name. -/
def namedDefaultingEntries : ObjectClass → List String
  | signature => ["__init__", "_bind", "from_callable", "replace"]
  | parameter => ["__init__", "replace"]
  | moduleSpec => ["__init__"]
  | sourceLoader => ["set_data", "source_to_code"]
  | _ => []

/-- The written functions of a class that use variables from around them. -/
def capturingEntries : ObjectClass → List String
  | record | returnRecord | exprRecord => ["__delattr__", "__init__", "__repr__", "__setattr__"]
  | sourceLoader => ["get_filename", "get_resource_reader", "load_module"]
  | _ => []

/-- The class of what is found under a name at an entry of a class, where entries of one kind
differ. -/
def entryTrait? (definer : ObjectClass) (entry name : String) : Option ObjectClass :=
  let choose (holds : Bool) (c : ObjectClass) : ObjectClass := if holds then c else noneType
  match name with
  | "__doc__" => some (choose (definer.describesEntry entry) .str)
  | "__text_signature__" => some (choose (!definer.unsignedEntries.contains entry) .str)
  | "__defaults__" => some (choose (definer.defaultingEntries.contains entry) .tuple)
  | "__kwdefaults__" => some (choose (definer.namedDefaultingEntries.contains entry) .dict)
  | "__closure__" => some (choose (definer.capturingEntries.contains entry) .tuple)
  | _ => none

end FlowAtlas.ObjectClass
