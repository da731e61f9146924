import AccessPolicy.Value.Operator
import AccessPolicy.Identity
import AccessPolicy.Text.Search
import AccessPolicy.Text.Case
import AccessPolicy.Http.Location

/-!
Attributes of values, and the methods that the language itself answers. Methods of objects that the
embedding program lends are found here too, but only that program can answer them.
-/

namespace AccessPolicy

def textMethods : List String :=
  ["capitalize", "casefold", "center", "count", "encode", "endswith", "expandtabs", "find", "index",
   "isalnum", "isalpha", "isascii", "isdecimal", "isdigit", "isidentifier", "islower", "isnumeric",
   "isprintable", "isspace", "istitle", "isupper", "join", "ljust", "lower", "lstrip", "maketrans",
   "partition", "removeprefix", "removesuffix", "replace", "rfind", "rindex", "rjust", "rpartition",
   "rsplit", "rstrip", "split", "splitlines", "startswith", "strip", "swapcase", "title", "translate",
   "upper", "zfill"]

def textOnlyMethods : List String :=
  ["casefold", "encode", "format", "format_map", "isdecimal", "isidentifier", "isnumeric", "isprintable"]

def byteMethods : List String :=
  ["decode", "fromhex", "hex"] ++ textMethods.filter fun n => !textOnlyMethods.contains n

def Value.methodNames : Value → List String
  | .text _ => textMethods
  | .bytes _ => byteMethods
  | .byteArray _ => byteMethods ++ ["append", "clear", "copy", "extend", "insert", "pop", "remove", "reverse"]
  | .list _ =>
    ["append", "clear", "copy", "count", "extend", "index", "insert", "pop", "remove", "reverse", "sort"]
  | .tuple _ | .range .. | .peer .. => ["count", "index"]
  | .deque _ =>
    ["append", "appendleft", "clear", "copy", "count", "extend", "extendleft", "index", "insert", "pop",
     "popleft", "remove", "reverse", "rotate"]
  | .array .. =>
    ["append", "buffer_info", "byteswap", "count", "extend", "frombytes", "fromfile", "fromlist", "fromunicode",
     "index", "insert", "pop", "remove", "reverse", "tobytes", "tofile", "tolist", "tounicode"]
  | .set _ =>
    ["add", "clear", "copy", "difference", "difference_update", "discard", "intersection",
     "intersection_update", "isdisjoint", "issubset", "issuperset", "pop", "remove",
     "symmetric_difference", "symmetric_difference_update", "union", "update"]
  | .frozenSet _ =>
    ["copy", "difference", "intersection", "isdisjoint", "issubset", "issuperset", "symmetric_difference", "union"]
  | .mapping .readOnly _ => ["copy", "get", "items", "keys", "values"]
  | .mapping kind _ =>
    ["clear", "copy", "fromkeys", "get", "items", "keys", "pop", "popitem", "setdefault", "update", "values"]
      ++ (if kind == .ordered then ["move_to_end"] else [])
  | .view .keys _ | .view .items _ => ["isdisjoint"]
  | .int _ | .bool _ => ["as_integer_ratio", "bit_count", "bit_length", "conjugate", "from_bytes", "to_bytes"]
  | .float _ => ["as_integer_ratio", "conjugate", "fromhex", "hex", "is_integer"]
  | .complex .. => ["conjugate"]
  | .identity _ => ["anonymous_user", "of"]
  | .document _ => ["copy", "dict", "json", "model_copy", "model_dump", "model_dump_json"]
  | .requestHeaders _ => ["get", "getlist", "items", "keys", "values"]
  | .request _ => ["body", "form", "get", "items", "json", "keys", "stream", "url_for", "values"]
  | .object o => o.methods
  | _ => []

def Value.dataAttribute? (v : Value) (name : String) : Option Value :=
  match v, name with
  | .int n, "real" | .int n, "numerator" => some (.int n)
  | .bool b, "real" | .bool b, "numerator" => some (.int (if b then 1 else 0))
  | .int _, "imag" | .bool _, "imag" => some (.int 0)
  | .int _, "denominator" | .bool _, "denominator" => some (.int 1)
  | .float x, "real" => some (.float x)
  | .float _, "imag" => some (.float 0.0)
  | .complex re _, "real" => some (.float re)
  | .complex _ im, "imag" => some (.float im)
  | .range start _ _, "start" => some (.int start)
  | .range _ stop _, "stop" => some (.int stop)
  | .range _ _ step, "step" => some (.int step)
  | .deque _, "maxlen" => some .null
  | .array code _, "typecode" => some (.text code)
  | .entry key _, "key" => some key
  | .entry _ value, "value" => some value
  | .identity a, "name" => some (a.name.elim .null .text)
  | .identity a, "principal" => some a.principal
  | .identity a, "authorities" => some (.frozenSet (a.authorities.map .text))
  | .identity a, "anonymous" => some (.bool a.anonymous)
  | .identity a, "remember_me" => some (.bool a.rememberMe)
  | .identity a, "details" => some (.dict a.details)
  | .identity a, "is_authenticated" => some (.bool a.isAuthenticated)
  | .identity a, "is_fully_authenticated" => some (.bool a.isFullyAuthenticated)
  | .document _, "permission_type" => some (.text "Document")
  | .document d, name => d.fields.lookup name
  | .object o, name =>
    match o.attributes.lookup name with
    | some v => some v
    | none => if name == "permission_type" then o.permissionTag else none
  | .request r, "method" => some (.text r.method)
  | .request r, "client" => some (r.client.elim .null fun host => .peer host 50000)
  | .request r, "headers" => some (.requestHeaders r)
  | .request r, "url" => some (.requestUrl r)
  | .requestUrl r, "path" => r.location?.map fun l => .text l.path
  | .requestUrl r, "query" => r.location?.map fun l => .text l.query
  | .requestUrl r, "netloc" => r.location?.map fun l => .text l.host
  | .requestUrl _, "scheme" => some (.text "http")
  | .peer host _, "host" => some (.text host)
  | .peer _ port, "port" => some (.int port)
  | _, _ => none

/-- An attribute of a value: data first, then a method. -/
def Value.attribute? (v : Value) (name : String) : Option Value :=
  match v.dataAttribute? name with
  | some d => some d
  | none => if v.methodNames.contains name then some (.function (.method v name)) else none

/-- The part of a sequence between two optional bounds, and where it begins; nothing where the lower bound is
above the upper one. -/
def bounded? {α : Type} (items : List α) (bounds : List Value) : Attempt (Option (List α × Nat)) := do
  let n : Int := items.length
  let position (v : Value) (default : Int) : Attempt Int := do
    let i := (← sliceBound v).getD default
    return max 0 (if i < 0 then i + n else i)
  let part (start stop : Int) : Option (List α × Nat) :=
    if start ≤ stop then some ((items.take stop.toNat).drop start.toNat, start.toNat) else none
  match bounds with
  | [] => return some (items, 0)
  | [lower] => return part (← position lower 0) n
  | [lower, upper] =>
    let start ← position lower 0
    return part start (min n (← position upper n))
  | _ => throw .wrongType

/-- What a search of a part of a sequence finds; `absent` where there is no such part. -/
def searched {α β : Type} (items : List α) (bounds : List Value) (absent : β)
    (search : List α → Nat → Attempt β) : Attempt β := do
  match ← bounded? items bounds with
  | some (part, start) => search part start
  | none => return absent

def asText : Value → Attempt (List Char)
  | .text s => .ok s.toList
  | _ => .error .wrongType

def asInt (v : Value) : Attempt Int :=
  match v.index? with
  | some n => .ok n
  | none => .error .wrongType

/-- A number of occurrences; a negative one stands for all. -/
def asCount (size : Nat) (args : List Value) : Attempt Nat :=
  match args with
  | [] => .ok (size + 1)
  | [n] => do
    let n ← asInt n
    return if n < 0 then size + 1 else n.toNat
  | _ => .error .wrongType

def textOf (cs : List Char) : Value :=
  .text (String.ofList cs)

/-- The characters that a stripping method removes. -/
def strippedClass : List Value → Attempt (Char → Bool)
  | [] | [.null] => .ok Text.isSpace
  | [.text s] => .ok s.toList.contains
  | _ => .error .wrongType

/-- Whether a text begins, or ends, with a part or with one of several. -/
def matchesAny (test : List Char → Bool) : Value → Attempt Bool
  | .text s => .ok (test s.toList)
  | .tuple items => do
    for item in items do
      if test (← asText item) then return true
    return false
  | _ => .error .wrongType

def callText (s : List Char) (name : String) (args : List Value) : Attempt Value := do
  let whole := String.ofList s
  match name, args with
  | "upper", [] => return .text (Text.upper whole)
  | "lower", [] | "casefold", [] => return .text (Text.lower whole)
  | "strip", args => return textOf (Text.trimBoth (← strippedClass args) s)
  | "lstrip", args => return textOf (s.dropWhile (← strippedClass args))
  | "rstrip", args => return textOf (s.reverse.dropWhile (← strippedClass args)).reverse
  | "split", [] | "split", [.null] => return .list ((Text.splitWords s.length s).map textOf)
  | "split", .null :: rest => return .list ((Text.splitWords (← asCount s.length rest) s).map textOf)
  | "split", separator :: rest =>
    let separator ← asText separator
    let most ← asCount s.length rest
    if separator.isEmpty then throw .badValue
    return .list ((Text.splitAt separator most s).map textOf)
  | "join", [items] =>
    let parts ← (← items.items).mapM asText
    return textOf (s.intercalate parts)
  | "startswith", part :: bounds =>
    let inside ← bounded? s bounds
    return .bool (← matchesAny (fun p => inside.any fun (s, _) => p.isPrefixOf s) part)
  | "endswith", part :: bounds =>
    let inside ← bounded? s bounds
    return .bool (← matchesAny (fun p => inside.any fun (s, _) => p.isSuffixOf s) part)
  | "replace", part :: by' :: rest =>
    let part ← asText part
    let by' ← asText by'
    return textOf (Text.replace part by' (← asCount s.length rest) s)
  | "find", part :: bounds =>
    let part ← asText part
    searched s bounds (.int (-1)) fun s start =>
      return .int ((Text.find? part s).elim (-1) fun n => ((n + start : Nat) : Int))
  | "rfind", part :: bounds =>
    let part ← asText part
    searched s bounds (.int (-1)) fun s start =>
      return .int ((Text.findLast? part s).elim (-1) fun n => ((n + start : Nat) : Int))
  | "index", part :: bounds =>
    let part ← asText part
    match ← searched s bounds none fun s start => return (Text.find? part s).map (· + start) with
    | some n => return .int n
    | none => throw .badValue
  | "count", part :: bounds =>
    let part ← asText part
    searched s bounds (.int 0) fun s _ => return .int (Text.occurrences part s)
  | "removeprefix", [part] => return textOf ((Text.afterPrefix? (← asText part) s).getD s)
  | "removesuffix", [part] =>
    let part ← asText part
    return textOf (if part.isSuffixOf s then s.take (s.length - part.length) else s)
  | "isdigit", [] => return .bool (!s.isEmpty && s.all Text.isDigitLike)
  | "isdecimal", [] => return .bool (!s.isEmpty && s.all fun c => (Text.decimalDigit? c).isSome)
  | "isspace", [] => return .bool (!s.isEmpty && s.all Text.isSpace)
  | "isascii", [] => return .bool (s.all fun c => c.toNat < 128)
  | "isidentifier", [] => return .bool (Text.isIdentifier whole)
  | "isprintable", [] => return .bool (s.all Text.isPrintable)
  | _, _ => throw .wrongType

def callSequence (items : List Value) (name : String) (args : List Value) : Attempt Value := do
  match name, args with
  | "count", [v] => return .int (items.countP fun item => alike item v)
  | "index", v :: bounds =>
    if bounds.any fun b => b matches .null then throw .wrongType
    match ← searched items bounds none fun part start =>
      return (part.findIdx? fun item => alike item v).map (· + start) with
    | some n => return .int n
    | none => throw .badValue
  | _, _ => throw .wrongType

def callMapping (kind : MappingKind) (entries : List (Value × Value)) (name : String) (args : List Value) :
    Attempt Value := do
  match name, args with
  | "get", [k] => if k.isHashable then return (lookupEntry entries k).getD .null else throw .wrongType
  | "get", [k, default] => if k.isHashable then return (lookupEntry entries k).getD default else throw .wrongType
  | "keys", [] => return .view .keys (entries.map (·.1))
  | "values", [] => return .view .values (entries.map (·.2))
  | "items", [] => return .view .items (entries.map fun (k, v) => .tuple [k, v])
  | "copy", [] => return .mapping (if kind == .ordered then .ordered else .plain) entries
  | _, _ => throw .wrongType

/-- The elements of an argument that is to be a set. -/
def asItems (v : Value) : Attempt (List Value) := do
  let items ← v.items
  if allHashable items then return distinct items else throw .wrongType

/-- Methods of sets; `build` makes a set of the same kind. -/
def callSet (items : List Value) (build : List Value → Value) (name : String) (args : List Value) :
    Attempt Value := do
  match name, args with
  | "copy", [] => return build items
  | "union", args => return build ((← args.mapM asItems).foldl (fun s ys => ys.foldl insertItem s) items)
  | "intersection", args =>
    return build ((← args.mapM asItems).foldl (fun s ys => s.filter fun v => ys.any (alike v)) items)
  | "difference", args =>
    return build ((← args.mapM asItems).foldl (fun s ys => s.filter fun v => !ys.any (alike v)) items)
  | "symmetric_difference", [other] => return build ((combineSets .bitXor items (← asItems other)).getD [])
  | "issubset", [other] => return .bool (allWithin items (← asItems other))
  | "issuperset", [other] => return .bool (allWithin (← asItems other) items)
  | "isdisjoint", [other] => return .bool !((← asItems other).any fun v => items.any (alike v))
  | _, _ => throw .wrongType

/-- The result of calling a method of a value that is not an object of the embedding program. -/
def Value.call (v : Value) (name : String) (args : List Value) : Attempt Value :=
  match v with
  | .text s => callText s.toList name args
  | .list items =>
    match name, args with
    | "copy", [] => .ok (.list items)
    | _, _ => callSequence items name args
  | .tuple items | .deque items | .array _ items => callSequence items name args
  | .range start stop step =>
    if args.length == 1 then callSequence (rangeItems start stop step) name args else throw .wrongType
  | .mapping kind entries => callMapping kind entries name args
  | .set items => callSet items .set name args
  | .frozenSet items => callSet items .frozenSet name args
  | .view .keys items | .view .items items => callSet items .set name args
  | .int n =>
    match name, args with
    | "conjugate", [] => .ok (.int n)
    | "bit_length", [] => .ok (.int (if n == 0 then 0 else Nat.log2 n.natAbs + 1))
    | _, _ => .error .wrongType
  | .float x =>
    match name, args with
    | "is_integer", [] => .ok (.bool (Real.isWhole x))
    | "conjugate", [] => .ok (.float x)
    | _, _ => .error .wrongType
  | .identity _ =>
    match name, args with
    | "anonymous_user", [] => .ok (.identity Authentication.anonymousUser)
    | "of", [.text name] => .ok (.identity (Authentication.of name [] .null false []))
    | _, _ => .error .wrongType
  | .requestHeaders r =>
    match name, args with
    | "get", [.text key] => .ok ((r.header? key).elim .null .text)
    | "get", [.text key, default] => .ok ((r.header? key).elim default .text)
    | _, _ => .error .wrongType
  | _ => .error .wrongType

/-- The arguments that a method takes by position or by name, with their defaults. -/
def Value.argumentsOf (v : Value) (name : String) : List (String × Value) :=
  match v, name with
  | .text _, "split" => [("sep", .null), ("maxsplit", .int (-1))]
  | .requestHeaders _, "get" => [("key", .null), ("default", .null)]
  | _, _ => []

/-- The result of calling a method with arguments by position and by name. -/
def Value.callNamed (v : Value) (name : String) (args : List Value) (named : List (String × Value)) :
    Attempt Value :=
  let left := (v.argumentsOf name).drop args.length
  if named.isEmpty then v.call name args
  else if named.all fun a => left.any (·.1 == a.1) then
    v.call name (args ++ left.map fun (n, default) => (named.lookup n).getD default)
  else .error .wrongType

/-- The entries of a mapping after those of another value, which is a mapping or holds pairs. -/
def absorb (entries : List (Value × Value)) (v : Value) : Attempt (List (Value × Value)) := do
  match v with
  | .mapping _ more => return more.foldl (fun entries (k, v) => insertEntry entries k v) entries
  | v =>
    (← v.items).foldlM (fun entries pair => do
      match ← pair.items with
      | [k, v] => if k.isHashable then pure (insertEntry entries k v) else throw .wrongType
      | _ => throw .badValue) entries

def Container.build (c : Container) (args : List Value) (named : List (String × Value)) : Attempt Value := do
  match c, args, named with
  | .list, [], [] => return .list []
  | .list, [v], [] => return .list (← v.items)
  | .tuple, [], [] => return .tuple []
  | .tuple, [v], [] => return .tuple (← v.items)
  | .set, [], [] => return .set []
  | .set, [v], [] => return .set (← asItems v)
  | .dict, args, named =>
    let start ← match args with
      | [] => pure []
      | [v] => absorb [] v
      | _ => throw .wrongType
    return .dict (named.foldl (fun entries (k, v) => insertEntry entries (.text k) v) start)
  | _, _, _ => throw .wrongType

end AccessPolicy
