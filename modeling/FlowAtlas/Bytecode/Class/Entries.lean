import FlowAtlas.Bytecode.Class

/-!
# The entries of classes

The tables of this file list what each class holds itself, without what it has from the classes that
it extends. A look-up goes through the lineage of a class, the nearest first.
-/

namespace FlowAtlas.ObjectClass

/-- The entries that all records have. -/
def recordEntries : List (ClassEntry × List String) := [
  (.defined, ["__delattr__", "__eq__", "__hash__", "__init__", "__repr__", "__setattr__",
   "__str__"]),
  (.computed .dict, ["__dict__"]),
  (.computed .noneType, ["__weakref__"]),
  (.constant .dict, ["__annotations__", "__dataclass_fields__"]),
  (.constant .recordOptions, ["__dataclass_params__"]),
  (.constant .str, ["__module__"]),
  (.constant .tuple, ["__match_args__"])]

/-- The entries of a class, without those of the classes that it extends. -/
def entries : ObjectClass → List (ClassEntry × List String)
  | object => [
      (.operator, ["__delattr__", "__eq__", "__ge__", "__getattribute__", "__gt__", "__hash__",
       "__init__", "__le__", "__lt__", "__ne__", "__repr__", "__setattr__", "__str__"]),
      (.method, ["__dir__", "__format__", "__getstate__", "__reduce__", "__reduce_ex__",
       "__sizeof__"]),
      (.classMethod, ["__init_subclass__", "__subclasshook__"]),
      (.static, ["__new__"]),
      (.computed .type, ["__class__"]),
      (.constant .str, ["__doc__"])]
  | type => [
      (.operator, ["__call__", "__delattr__", "__getattribute__", "__init__", "__or__", "__repr__",
       "__ror__", "__setattr__"]),
      (.method, ["__dir__", "__instancecheck__", "__sizeof__", "__subclasscheck__",
       "__subclasses__", "mro"]),
      (.classMethod, ["__prepare__"]),
      (.static, ["__new__"]),
      (.computed .mappingProxy, ["__dict__"]),
      (.computed .noneType, ["__text_signature__"]),
      (.computed .str, ["__doc__", "__module__", "__name__", "__qualname__"]),
      (.computed .tuple, ["__bases__"]),
      (.stored .int, ["__basicsize__", "__dictoffset__", "__flags__", "__itemsize__",
       "__weakrefoffset__"]),
      (.stored .tuple, ["__mro__"]),
      (.stored .type, ["__base__"])]
  | noneType => [
      (.operator, ["__bool__", "__repr__"]),
      (.static, ["__new__"]),
      (.constant .noneType, ["__doc__"])]
  | bool => [
      (.operator, ["__and__", "__or__", "__rand__", "__repr__", "__ror__", "__rxor__", "__xor__"]),
      (.static, ["__new__"])]
  | int => [
      (.operator, ["__abs__", "__add__", "__and__", "__bool__", "__divmod__", "__eq__",
       "__float__", "__floordiv__", "__ge__", "__getattribute__", "__gt__", "__hash__",
       "__index__", "__int__", "__invert__", "__le__", "__lshift__", "__lt__", "__mod__",
       "__mul__", "__ne__", "__neg__", "__or__", "__pos__", "__pow__", "__radd__", "__rand__",
       "__rdivmod__", "__repr__", "__rfloordiv__", "__rlshift__", "__rmod__", "__rmul__",
       "__ror__", "__rpow__", "__rrshift__", "__rshift__", "__rsub__", "__rtruediv__", "__rxor__",
       "__sub__", "__truediv__", "__xor__"]),
      (.method, ["__ceil__", "__floor__", "__format__", "__getnewargs__", "__round__",
       "__sizeof__", "__trunc__", "as_integer_ratio", "bit_count", "bit_length", "conjugate",
       "to_bytes"]),
      (.classMethod, ["from_bytes"]),
      (.static, ["__new__"]),
      (.computed .int, ["denominator", "imag", "numerator", "real"])]
  | float => [
      (.operator, ["__abs__", "__add__", "__bool__", "__divmod__", "__eq__", "__float__",
       "__floordiv__", "__ge__", "__getattribute__", "__gt__", "__hash__", "__int__", "__le__",
       "__lt__", "__mod__", "__mul__", "__ne__", "__neg__", "__pos__", "__pow__", "__radd__",
       "__rdivmod__", "__repr__", "__rfloordiv__", "__rmod__", "__rmul__", "__rpow__", "__rsub__",
       "__rtruediv__", "__sub__", "__truediv__"]),
      (.method, ["__ceil__", "__floor__", "__format__", "__getnewargs__", "__round__", "__trunc__",
       "as_integer_ratio", "conjugate", "hex", "is_integer"]),
      (.classMethod, ["__getformat__", "fromhex"]),
      (.static, ["__new__"]),
      (.computed .float, ["imag", "real"])]
  | str => [
      (.operator, ["__add__", "__contains__", "__eq__", "__ge__", "__getattribute__",
       "__getitem__", "__gt__", "__hash__", "__iter__", "__le__", "__len__", "__lt__", "__mod__",
       "__mul__", "__ne__", "__repr__", "__rmod__", "__rmul__", "__str__"]),
      (.method, ["__format__", "__getnewargs__", "__sizeof__", "capitalize", "casefold", "center",
       "count", "encode", "endswith", "expandtabs", "find", "format", "format_map", "index",
       "isalnum", "isalpha", "isascii", "isdecimal", "isdigit", "isidentifier", "islower",
       "isnumeric", "isprintable", "isspace", "istitle", "isupper", "join", "ljust", "lower",
       "lstrip", "partition", "removeprefix", "removesuffix", "replace", "rfind", "rindex",
       "rjust", "rpartition", "rsplit", "rstrip", "split", "splitlines", "startswith", "strip",
       "swapcase", "title", "translate", "upper", "zfill"]),
      (.static, ["__new__", "maketrans"])]
  | bytes => [
      (.operator, ["__add__", "__contains__", "__eq__", "__ge__", "__getattribute__",
       "__getitem__", "__gt__", "__hash__", "__iter__", "__le__", "__len__", "__lt__", "__mod__",
       "__mul__", "__ne__", "__repr__", "__rmod__", "__rmul__", "__str__"]),
      (.method, ["__bytes__", "__getnewargs__", "capitalize", "center", "count", "decode",
       "endswith", "expandtabs", "find", "hex", "index", "isalnum", "isalpha", "isascii",
       "isdigit", "islower", "isspace", "istitle", "isupper", "join", "ljust", "lower", "lstrip",
       "partition", "removeprefix", "removesuffix", "replace", "rfind", "rindex", "rjust",
       "rpartition", "rsplit", "rstrip", "split", "splitlines", "startswith", "strip", "swapcase",
       "title", "translate", "upper", "zfill"]),
      (.classMethod, ["fromhex"]),
      (.static, ["__new__", "maketrans"])]
  | list => [
      (.operator, ["__add__", "__contains__", "__delitem__", "__eq__", "__ge__",
       "__getattribute__", "__gt__", "__iadd__", "__imul__", "__init__", "__iter__", "__le__",
       "__len__", "__lt__", "__mul__", "__ne__", "__repr__", "__rmul__", "__setitem__"]),
      (.method, ["__getitem__", "__reversed__", "__sizeof__", "append", "clear", "copy", "count",
       "extend", "index", "insert", "pop", "remove", "reverse", "sort"]),
      (.classMethod, ["__class_getitem__"]),
      (.static, ["__new__"]),
      (.constant .noneType, ["__hash__"])]
  | tuple => [
      (.operator, ["__add__", "__contains__", "__eq__", "__ge__", "__getattribute__",
       "__getitem__", "__gt__", "__hash__", "__iter__", "__le__", "__len__", "__lt__", "__mul__",
       "__ne__", "__repr__", "__rmul__"]),
      (.method, ["__getnewargs__", "count", "index"]),
      (.classMethod, ["__class_getitem__"]),
      (.static, ["__new__"])]
  | dict => [
      (.operator, ["__delitem__", "__eq__", "__ge__", "__getattribute__", "__gt__", "__init__",
       "__ior__", "__iter__", "__le__", "__len__", "__lt__", "__ne__", "__or__", "__repr__",
       "__ror__", "__setitem__"]),
      (.method, ["__contains__", "__getitem__", "__reversed__", "__sizeof__", "clear", "copy",
       "get", "items", "keys", "pop", "popitem", "setdefault", "update", "values"]),
      (.classMethod, ["__class_getitem__", "fromkeys"]),
      (.static, ["__new__"]),
      (.constant .noneType, ["__hash__"])]
  | function => [
      (.operator, ["__call__", "__get__", "__repr__"]),
      (.static, ["__new__"]),
      (.computed .code, ["__code__"]),
      (.computed .dict, ["__annotations__", "__dict__"]),
      (.computed .noneType, ["__defaults__", "__kwdefaults__"]),
      (.computed .str, ["__name__", "__qualname__"]),
      (.stored .dict, ["__builtins__", "__globals__"]),
      (.stored .noneType, ["__closure__", "__doc__"]),
      (.stored .str, ["__module__"])]
  | method => [
      (.operator, ["__call__", "__delattr__", "__eq__", "__ge__", "__getattribute__", "__gt__",
       "__hash__", "__le__", "__lt__", "__ne__", "__repr__", "__setattr__"]),
      (.method, ["__reduce__"]),
      (.static, ["__new__"]),
      (.computed .noneType, ["__doc__"]),
      (.stored .function, ["__func__"]),
      (.stored .object, ["__self__"])]
  | code => [
      (.operator, ["__eq__", "__ge__", "__getattribute__", "__gt__", "__hash__", "__le__",
       "__lt__", "__ne__", "__repr__"]),
      (.method, ["__sizeof__", "_varname_from_oparg", "co_lines", "co_positions", "replace"]),
      (.static, ["__new__"]),
      (.computed .bytes, ["_co_code_adaptive", "co_code", "co_lnotab"]),
      (.computed .tuple, ["co_cellvars", "co_freevars", "co_varnames"]),
      (.stored .bytes, ["co_exceptiontable", "co_linetable"]),
      (.stored .int, ["co_argcount", "co_firstlineno", "co_flags", "co_kwonlyargcount",
       "co_nlocals", "co_posonlyargcount", "co_stacksize"]),
      (.stored .str, ["co_filename", "co_name", "co_qualname"]),
      (.stored .tuple, ["co_consts", "co_names"])]
  | holder => [
      (.operator, ["__delattr__", "__eq__", "__ge__", "__getattribute__", "__gt__", "__init__",
       "__le__", "__lt__", "__ne__", "__repr__", "__setattr__"]),
      (.method, ["__reduce__"]),
      (.static, ["__new__"]),
      (.stored .dict, ["__dict__"]),
      (.constant .noneType, ["__hash__"])]
  | module => [
      (.operator, ["__delattr__", "__getattribute__", "__init__", "__repr__", "__setattr__"]),
      (.method, ["__dir__"]),
      (.static, ["__new__"]),
      (.computed .dict, ["__annotations__"]),
      (.stored .dict, ["__dict__"])]
  | builtinFunction => [
      (.operator, ["__call__", "__eq__", "__ge__", "__getattribute__", "__gt__", "__hash__",
       "__le__", "__lt__", "__ne__", "__repr__"]),
      (.method, ["__reduce__"]),
      (.computed .str, ["__doc__", "__name__", "__qualname__", "__text_signature__"]),
      (.stored .noneType, ["__module__"]),
      (.stored .object, ["__self__"])]
  | methodWrapper => [
      (.operator, ["__call__", "__eq__", "__ge__", "__getattribute__", "__gt__", "__hash__",
       "__le__", "__lt__", "__ne__", "__repr__"]),
      (.method, ["__reduce__"]),
      (.computed .str, ["__doc__", "__name__", "__qualname__", "__text_signature__"]),
      (.computed .type, ["__objclass__"]),
      (.stored .object, ["__self__"])]
  | methodDescriptor | wrapperDescriptor => [
      (.operator, ["__call__", "__get__", "__getattribute__", "__repr__"]),
      (.method, ["__reduce__"]),
      (.computed .str, ["__doc__", "__qualname__", "__text_signature__"]),
      (.stored .str, ["__name__"]),
      (.stored .type, ["__objclass__"])]
  | getSetDescriptor => [
      (.operator, ["__delete__", "__get__", "__getattribute__", "__repr__", "__set__"]),
      (.computed .noneType, ["__doc__"]),
      (.computed .str, ["__qualname__"]),
      (.stored .str, ["__name__"]),
      (.stored .type, ["__objclass__"])]
  | memberDescriptor => [
      (.operator, ["__delete__", "__get__", "__getattribute__", "__repr__", "__set__"]),
      (.method, ["__reduce__"]),
      (.computed .noneType, ["__doc__"]),
      (.computed .str, ["__qualname__"]),
      (.stored .str, ["__name__"]),
      (.stored .type, ["__objclass__"])]
  | mappingProxy => [
      (.operator, ["__contains__", "__eq__", "__ge__", "__getattribute__", "__getitem__", "__gt__",
       "__ior__", "__iter__", "__le__", "__len__", "__lt__", "__ne__", "__or__", "__repr__",
       "__ror__", "__str__"]),
      (.method, ["__reversed__", "copy", "get", "items", "keys", "values"]),
      (.classMethod, ["__class_getitem__"]),
      (.static, ["__new__"]),
      (.constant .noneType, ["__doc__", "__hash__"])]
  | property => [
      (.operator, ["__delete__", "__get__", "__getattribute__", "__init__", "__set__"]),
      (.method, ["__set_name__", "deleter", "getter", "setter"]),
      (.static, ["__new__"]),
      (.computed .bool, ["__isabstractmethod__"]),
      (.stored .function, ["fget"]),
      (.stored .noneType, ["__doc__", "fdel", "fset"])]
  | undef => [
      (.defined, ["__repr__"]),
      (.computed .dict, ["__dict__"]),
      (.computed .noneType, ["__weakref__"]),
      (.constant .noneType, ["__doc__"]),
      (.constant .str, ["__module__"])]
  | recordOptions => [
      (.defined, ["__init__", "__repr__"]),
      (.stored .bool, ["eq", "frozen", "init", "order", "repr", "unsafe_hash"]),
      (.constant .noneType, ["__doc__"]),
      (.constant .str, ["__module__"]),
      (.constant .tuple, ["__slots__"])]
  | signature => [
      (.defined, ["__eq__", "__hash__", "__init__", "__reduce__", "__repr__", "__setstate__",
       "__str__", "_bind", "_hash_basis", "bind", "bind_partial", "replace"]),
      (.definedForClass, ["from_callable"]),
      (.stored .mappingProxy, ["_parameters"]),
      (.stored .type, ["_return_annotation"]),
      (.derived .mappingProxy, ["parameters"]),
      (.derived .type, ["return_annotation"]),
      (.constant .str, ["__module__"]),
      (.constant .tuple, ["__slots__"]),
      (.classConstant .boundArguments, ["_bound_arguments_cls"]),
      (.classConstant .emptyMark, ["empty"]),
      (.classConstant .parameter, ["_parameter_cls"])]
  | parameter => [
      (.defined, ["__eq__", "__hash__", "__init__", "__reduce__", "__repr__", "__setstate__",
       "__str__", "replace"]),
      (.stored .int, ["_kind"]),
      (.stored .str, ["_name"]),
      (.stored .type, ["_annotation", "_default"]),
      (.derived .int, ["kind"]),
      (.derived .str, ["name"]),
      (.derived .type, ["annotation", "default"]),
      (.constant .int, ["KEYWORD_ONLY", "POSITIONAL_ONLY", "POSITIONAL_OR_KEYWORD", "VAR_KEYWORD",
       "VAR_POSITIONAL"]),
      (.constant .str, ["__module__"]),
      (.constant .tuple, ["__slots__"]),
      (.classConstant .emptyMark, ["empty"])]
  | boundArguments => [
      (.defined, ["__eq__", "__getstate__", "__init__", "__repr__", "__setstate__",
       "apply_defaults"]),
      (.computed .noneType, ["__weakref__"]),
      (.stored .dict, ["arguments"]),
      (.stored .signature, ["_signature"]),
      (.derived .dict, ["kwargs"]),
      (.derived .signature, ["signature"]),
      (.derived .tuple, ["args"]),
      (.constant .noneType, ["__hash__"]),
      (.constant .str, ["__module__"]),
      (.constant .tuple, ["__slots__"])]
  | emptyMark => [
      (.computed .dict, ["__dict__"]),
      (.computed .noneType, ["__weakref__"]),
      (.constant .str, ["__module__"])]
  | moduleSpec => [
      (.defined, ["__eq__", "__init__", "__repr__"]),
      (.computed .dict, ["__dict__"]),
      (.computed .noneType, ["__weakref__"]),
      (.derived .bool, ["has_location"]),
      (.derived .str, ["cached", "parent"]),
      (.constant .noneType, ["__hash__"]),
      (.constant .str, ["__module__"])]
  | sourceLoader => [
      (.defined, ["__eq__", "__hash__", "__init__", "_cache_bytecode", "create_module",
       "exec_module", "get_code", "get_data", "get_filename", "get_resource_reader", "get_source",
       "is_package", "load_module", "path_mtime", "path_stats", "set_data", "source_to_code"]),
      (.computed .dict, ["__dict__"]),
      (.computed .noneType, ["__weakref__"]),
      (.constant .str, ["__module__"])]
  | record => recordEntries
  | returnRecord =>
    (.constant .undef, ["val"]) :: (.derived .bool, ["has_value"]) :: recordEntries
  | exprRecord => (.constant .tuple, ["args"]) :: recordEntries

/-- The entry of a class itself under a name. -/
def ownEntry? (c : ObjectClass) (name : String) : Option ClassEntry :=
  (c.entries.find? fun (_, names) => names.contains name).map (·.1)

/-- The entry under a name of a class or of the nearest class that it extends, and which of them
holds it. -/
def entry? (c : ObjectClass) (name : String) : Option (ObjectClass × ClassEntry) :=
  c.lineage.findSome? fun definer => (definer.ownEntry? name).map (definer, ·)

end FlowAtlas.ObjectClass
