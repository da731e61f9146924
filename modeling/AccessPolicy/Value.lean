/-!
The values that access expressions compute with, and the domain objects that they look at: identities,
documents, inbound requests and objects lent by the embedding program. Values never change; an object is
known by its number, so two objects are equal only when they are the same one.
-/

namespace AccessPolicy

inductive Predicate where
  | hasRole
  | hasAnyRole
  | hasAuthority
  | hasAnyAuthority
  | hasPermission
  | isAnonymous
  | isRememberMe
  | isAuthenticated
  | isFullyAuthenticated
  | hasIpAddress
  deriving DecidableEq, Repr

/-- The name by which expressions call a predicate. -/
def Predicate.name : Predicate → String
  | .hasRole => "hasRole"
  | .hasAnyRole => "hasAnyRole"
  | .hasAuthority => "hasAuthority"
  | .hasAnyAuthority => "hasAnyAuthority"
  | .hasPermission => "hasPermission"
  | .isAnonymous => "isAnonymous"
  | .isRememberMe => "isRememberMe"
  | .isAuthenticated => "isAuthenticated"
  | .isFullyAuthenticated => "isFullyAuthenticated"
  | .hasIpAddress => "hasIpAddress"

/-- The containers that expressions can build by calling their names. -/
inductive Container where
  | list
  | tuple
  | dict
  | set
  deriving DecidableEq, Repr

def Container.name : Container → String
  | .list => "list"
  | .tuple => "tuple"
  | .dict => "dict"
  | .set => "set"

inductive Conversion where
  | whole
  | real
  | text
  deriving DecidableEq, Repr

def Conversion.name : Conversion → String
  | .whole => "int"
  | .real => "float"
  | .text => "str"

/-- The three shapes of mapping: plain, ordered (the order of entries counts) and read-only. -/
inductive MappingKind where
  | plain
  | ordered
  | readOnly
  deriving DecidableEq, Repr

inductive ViewKind where
  | keys
  | values
  | items
  deriving DecidableEq, Repr

structure Document where
  id : Int
  title : String
  owner : String
  confidential : Bool
  deriving DecidableEq, Repr

/-- An inbound request: the path is the one that the router dispatches on, `client` the caller's address. -/
structure Request where
  method : String := "GET"
  path : String := "/"
  query : String := ""
  headers : List (String × String) := []
  client : Option String := none
  deriving DecidableEq, Repr

mutual

inductive Value where
  | null
  | bool (b : Bool)
  | int (n : Int)
  | float (x : Float)
  | complex (re im : Float)
  | ellipsis
  | text (s : String)
  | bytes (data : List UInt8)
  | byteArray (data : List UInt8)
  | list (items : List Value)
  | tuple (items : List Value)
  | deque (items : List Value)
  | set (items : List Value)
  | frozenSet (items : List Value)
  | mapping (kind : MappingKind) (entries : List (Value × Value))
  | view (kind : ViewKind) (items : List Value)
  | array (code : String) (items : List Value)
  | range (start stop step : Int)
  | iterator (items : List Value)
  | slice (lower upper step : Value)
  /-- One entry of a mapping, as a filter sees it. -/
  | entry (key value : Value)
  | identity (a : Authentication)
  | document (d : Document)
  | object (o : Object)
  | function (f : Function)
  | request (r : Request)
  | requestHeaders (r : Request)
  | requestUrl (r : Request)
  /-- The caller's host and port. -/
  | peer (host : String) (port : Int)

/-- The current actor and its granted authorities, which are opaque texts. -/
structure Authentication where
  name : Option String
  principal : Value
  authorities : List String
  anonymous : Bool
  rememberMe : Bool
  details : List (Value × Value)

/-- An object lent by the embedding program: its class, its attributes, the class's permission tag, and
the names of the methods that the embedding program answers. -/
structure Object where
  id : Nat
  className : String
  attributes : List (String × Value)
  permissionTag : Option Value
  methods : List String

/-- What a call can reach: a predicate, a container's builder, a conversion, or a method of a value. -/
inductive Function where
  | predicate (p : Predicate)
  | builder (c : Container)
  | conversion (c : Conversion)
  | method (receiver : Value) (name : String)

end

instance : Inhabited Value := ⟨.null⟩

/-- The name of a value's type, as messages and permission tags show it. -/
def Value.typeName : Value → String
  | .null => "NoneType"
  | .bool _ => "bool"
  | .int _ => "int"
  | .float _ => "float"
  | .complex .. => "complex"
  | .ellipsis => "ellipsis"
  | .text _ => "str"
  | .bytes _ => "bytes"
  | .byteArray _ => "bytearray"
  | .list _ => "list"
  | .tuple _ => "tuple"
  | .deque _ => "deque"
  | .set _ => "set"
  | .frozenSet _ => "frozenset"
  | .mapping .plain _ => "dict"
  | .mapping .ordered _ => "OrderedDict"
  | .mapping .readOnly _ => "mappingproxy"
  | .view .keys _ => "dict_keys"
  | .view .values _ => "dict_values"
  | .view .items _ => "dict_items"
  | .array .. => "array"
  | .range .. => "range"
  | .iterator _ => "list_iterator"
  | .slice .. => "slice"
  | .entry .. => "MapEntry"
  | .identity _ => "Authentication"
  | .document _ => "DocumentOut"
  | .object o => o.className
  | .function (.predicate _) => "method"
  | .function (.builder _) | .function (.conversion _) => "type"
  | .function (.method (.object _) _) => "method"
  | .function (.method _ _) => "builtin_function_or_method"
  | .request _ => "Request"
  | .requestHeaders _ => "Headers"
  | .requestUrl _ => "URL"
  | .peer .. => "Address"

abbrev Value.dict (entries : List (Value × Value)) : Value :=
  .mapping .plain entries

end AccessPolicy
