import AccessPolicy.Value.Class

/-!
The names that declared types are built from: which of them are classes, which class each stands for, and how many
arguments each takes.
-/

namespace AccessPolicy

inductive TypeFault where
  | malformed
  | unknownName
  | unknownMember
  /-- Known types are put together in a way that has no meaning. -/
  | misapplied
  deriving DecidableEq, Repr

def TypeFault.kind : TypeFault → String
  | .malformed => "SyntaxError"
  | .unknownName => "NameError"
  | .unknownMember => "AttributeError"
  | .misapplied => "TypeError"

/-- How many arguments a type takes in brackets; a list of arguments may be demanded to stand alone. -/
inductive Arity where
  | none
  | any
  | exactly (n : Nat)
  /-- One argument that is not written as a list. -/
  | single
  deriving DecidableEq, Repr

/-- Whether so many arguments are right; `listed` says that they are written with a comma. -/
def Arity.admits : Arity → ( listed : Bool) → Nat → Bool
  | .none, _, _ => false
  | .any, _, _ => true
  | .exactly n, _, k => k == n
  | .single, listed, k => !listed && k == 1

inductive TypeName where
  /-- A class, and how many arguments it takes. -/
  | named (of : ValueClass) (arity : Arity)
  | optional
  | union
  | tagged
  /-- What types may be built with, though it is no class. -/
  | form (arity : Arity)
  /-- Something that is no type. -/
  | other

namespace TypeName

/-- A family of names that stand for the same kind of thing. -/
def each (t : TypeName) (names : List String) : List (String × TypeName) := names.map (·, t)

/-- Names of known classes that take arguments alike. -/
def known (arity : Arity) (names : List (String × KnownClass)) : List (String × TypeName) :=
  names.map fun (n, c) => (n, .named (.known c) arity)

/-- Names of classes that have nothing to do with containers. -/
def plain (arity : Arity) (names : List String) : List (String × TypeName) :=
  names.map fun n => (n, .named (.plain n) arity)

def builtins : List (String × TypeName) :=
  known .any [("list", .list), ("tuple", .tuple), ("dict", .dict), ("set", .set), ("frozenset", .frozenSet)] ++
  known .none [("range", .range), ("int", .int), ("str", .str), ("bytes", .bytes), ("bytearray", .byteArray),
    ("memoryview", .memoryView), ("bool", .bool), ("object", .object)] ++
  plain .any ["type", "enumerate"] ++
  plain .none ["float", "complex", "slice", "property", "zip", "map", "filter", "reversed", "super",
    "staticmethod", "classmethod", "BaseException", "Exception", "ValueError", "TypeError", "KeyError", "IndexError",
    "LookupError", "AttributeError", "NameError", "RuntimeError", "OSError", "PermissionError", "StopIteration",
    "Any"] ++
  [("Optional", .optional), ("Union", .union), ("Annotated", .tagged)] ++
  each .other ["NotImplemented", "Ellipsis", "abs", "all", "any", "callable", "dir", "getattr", "hasattr",
    "hash", "id", "isinstance", "issubclass", "iter", "len", "max", "min", "next", "open", "print", "repr",
    "round", "sorted", "sum", "vars", "array", "collections", "typing", "abc"]

def abstract : List (String × TypeName) :=
  known .any [("Sequence", .sequence), ("MutableSequence", .mutableSequence), ("Mapping", .mapping),
    ("MutableMapping", .mutableMapping), ("Set", .abstractSet), ("MutableSet", .mutableSet), ("KeysView", .keysView),
    ("ItemsView", .itemsView), ("ByteString", .byteString), ("Iterable", .iterable), ("Iterator", .iterator),
    ("Collection", .collection), ("Container", .container), ("Reversible", .reversible), ("ValuesView", .valuesView)] ++
  plain .any ["Generator", "Awaitable", "Coroutine", "AsyncIterable", "AsyncIterator", "AsyncGenerator"] ++
  plain (.exactly 2) ["Callable"] ++
  known .none [("Sized", .sized), ("MappingView", .mappingView)] ++
  plain .none ["Hashable"]

def collections : List (String × TypeName) :=
  known .any [("OrderedDict", .orderedDict), ("deque", .deque), ("defaultdict", .defaultDict), ("Counter", .counter),
    ("ChainMap", .chainMap), ("UserDict", .userDict), ("UserList", .userList), ("UserString", .userString)] ++
  [("abc", .other), ("namedtuple", .other)]

def typing : List (String × TypeName) :=
  known (.exactly 1) [("List", .list), ("Set", .set), ("FrozenSet", .frozenSet), ("Sequence", .sequence),
    ("MutableSequence", .mutableSequence), ("AbstractSet", .abstractSet), ("MutableSet", .mutableSet),
    ("Deque", .deque), ("Counter", .counter), ("KeysView", .keysView), ("Collection", .collection),
    ("Iterable", .iterable), ("Iterator", .iterator), ("Container", .container), ("Reversible", .reversible),
    ("ValuesView", .valuesView), ("MappingView", .mappingView)] ++
  known (.exactly 2) [("Dict", .dict), ("Mapping", .mapping), ("MutableMapping", .mutableMapping),
    ("DefaultDict", .defaultDict), ("OrderedDict", .orderedDict), ("ChainMap", .chainMap), ("ItemsView", .itemsView)] ++
  known .any [("Tuple", .tuple)] ++
  known .none [("ByteString", .byteString), ("Sized", .sized), ("Text", .str)] ++
  plain (.exactly 1) ["Type", "Awaitable", "AsyncIterable", "Pattern", "Match", "AsyncIterator", "IO",
    "ContextManager", "AsyncContextManager", "SupportsAbs", "SupportsRound"] ++
  plain (.exactly 2) ["Callable", "AsyncGenerator"] ++
  plain (.exactly 3) ["Generator", "Coroutine"] ++
  plain .none ["Hashable", "Any", "TypeVar", "ParamSpec", "NewType", "ForwardRef", "TextIO", "BinaryIO",
    "SupportsInt", "SupportsFloat", "SupportsIndex", "SupportsBytes", "Generic", "Protocol"] ++
  each (.form .single) ["ClassVar", "Final", "TypeGuard", "Required", "NotRequired", "Unpack"] ++
  each (.form .any) ["Literal"] ++
  each (.form .none) ["NoReturn", "Never", "Self", "LiteralString", "TypeAlias", "Concatenate", "AnyStr"] ++
  each .other ["NamedTuple", "TypedDict", "cast", "get_type_hints", "get_origin", "get_args", "overload",
    "TYPE_CHECKING"] ++
  [("Optional", .optional), ("Union", .union), ("Annotated", .tagged)]

def members? : List String → Option (List (String × TypeName))
  | [] => some builtins
  | ["array"] => some (known .none [("array", .array), ("ArrayType", .array)])
  | ["collections"] => some collections
  | ["abc"] | ["collections", "abc"] => some abstract
  | ["typing"] => some typing
  | _ => none

def ofPath (path : List String) : Except TypeFault TypeName :=
  match (members? path.dropLast).bind (·.lookup (path.getLastD "")) with
  | some t => .ok t
  | none =>
    match path with
    | [] => .error .unknownName
    | n :: rest => .error (if rest.isEmpty || (builtins.lookup n).isNone then .unknownName else .unknownMember)

end TypeName

end AccessPolicy
