import AccessPolicy.Callable.TypeName
import AccessPolicy.Expr.Statement
import AccessPolicy.Value.Written

/-!
The declared types of parameters, as far as it matters whether they are containers that can be filtered. A
type is written as an expression over the names of types; `TypeHint.read` says why a text is no type.
-/

namespace AccessPolicy

inductive TypeHint where
  | nothing
  /-- A class, perhaps with arguments, and whether its values can be filtered. -/
  | named (text : String) (container : Bool)
  /-- One of several types, of which there are at least two. -/
  | union (members : List TypeHint)
  /-- A type with further data, by the texts of which such types are told apart. -/
  | tagged (of : TypeHint) (data : List String)
  /-- A form of types that is no class. -/
  | special (text : String)
  /-- Something that is no type. -/
  | other (text : String)

namespace TypeHint

mutual

/-- Whether the values of a type can be filtered; an alternative to nothing does not matter. -/
def isContainer : TypeHint → Bool
  | .named _ container => container
  | .tagged of _ => of.isContainer
  | .union members => onlyContainer members
  | _ => false
termination_by structural h => h

/-- Whether exactly one of the types is something, and its values can be filtered. -/
def onlyContainer : List TypeHint → Bool
  | [] => false
  | .nothing :: hs => onlyContainer hs
  | h :: hs => h.isContainer && noneLeft hs
termination_by structural hs => hs

def noneLeft : List TypeHint → Bool
  | [] => true
  | .nothing :: hs => noneLeft hs
  | _ :: _ => false
termination_by structural hs => hs

end

mutual

def text : TypeHint → String
  | .nothing => "None"
  | .named t _ => t
  | .union members => "Union[" ++ ",".intercalate (texts members) ++ "]"
  | .tagged of data => "Annotated[" ++ ",".intercalate (of.text :: data) ++ "]"
  | .special t => t
  | .other t => t
termination_by structural h => h

def texts : List TypeHint → List String
  | [] => []
  | h :: hs => h.text :: texts hs
termination_by structural hs => hs

end

mutual

def same : TypeHint → TypeHint → Bool
  | .nothing, .nothing => true
  | .named t container, .named u container' => t == u && container == container'
  | .union hs, .union gs => sameAll hs gs
  | .tagged h data, .tagged g data' => h.same g && data == data'
  | .special t, .special u | .other t, .other u => t == u
  | _, _ => false
termination_by structural h => h

def sameAll : List TypeHint → List TypeHint → Bool
  | [], [] => true
  | h :: hs, g :: gs => h.same g && sameAll hs gs
  | _, _ => false
termination_by structural hs => hs

end

/-- The alternatives of a type; what is no union is its own only one. -/
def members : TypeHint → List TypeHint
  | .union hs => hs
  | h => [h]

/-- Puts a type among others in the order of their texts. -/
def place (h : TypeHint) : List TypeHint → List TypeHint
  | [] => [h]
  | g :: gs => if h.text < g.text then h :: g :: gs else g :: place h gs

def add (h : TypeHint) (hs : List TypeHint) : List TypeHint :=
  if hs.any h.same then hs else place h hs

/-- A union of types. Unions inside it are opened, repeated types count once, and their order does not count. -/
def unionOf (hs : List TypeHint) : TypeHint :=
  match (hs.flatMap members).foldr add [] with
  | [h] => h
  | ms => .union ms

def optional (h : TypeHint) : TypeHint := unionOf [h, .nothing]

/-- A type with data, which come after those that it has already. -/
def annotated (h : TypeHint) (data : List String) : TypeHint :=
  match h with
  | .tagged of earlier => .tagged of (earlier ++ data)
  | h => .tagged h data

def path? : Expr → Option (List String)
  | .name n => some [n]
  | .attribute base attr => (path? base).map (· ++ [attr])
  | _ => none

/-- A name with dots as a text; one class keeps one text. -/
def pathText : List String → String
  | ["array", "ArrayType"] => "array.array"
  | ["typing", "Text"] => "str"
  | ["typing", "Any"] => "Any"
  | "collections" :: "abc" :: rest => ".".intercalate ("abc" :: rest)
  | path => ".".intercalate path

def ofPath (path : List String) : Except TypeFault TypeHint := do
  let text := pathText path
  return match ← TypeName.ofPath path with
  | .named of _ => .named text of.isContainer
  | .tagged => .named text false
  | .form .none => .special text
  | _ => .other text

/-- What a name means with arguments; `listed` says that they are written with a comma. -/
def applied (path : List String) ( listed : Bool) (args : List TypeHint) : Except TypeFault TypeHint := do
  let text := pathText path ++ "[" ++ ",".intercalate (texts args) ++ "]"
  match ← TypeName.ofPath path, args with
  | .named of arity, _ => if arity.admits listed args.length then return .named text of.isContainer
  | .form arity, _ => if arity.admits listed args.length then return .special text
  | .optional, [h] => if !listed then return h.optional
  | .union, _ :: _ => return unionOf args
  | .tagged, h :: g :: gs => return h.annotated (texts (g :: gs))
  | _, _ => pure ()
  throw .misapplied

def alternative : TypeHint → TypeHint → Except TypeFault TypeHint
  | .other _, _ | _, .other _ => .error .misapplied
  | a, b => .ok (unionOf [a, b])

/-- The operand that a connective of truth values chooses: every type but nothing counts as true. -/
def chosen (op : Connective) : List (Except TypeFault TypeHint) → Except TypeFault TypeHint
  | [] => .error .malformed
  | [h] => h
  | h :: hs => do
    match op, ← h with
    | .or, .nothing | .and, .named .. | .and, .union _ | .and, .tagged .. | .and, .special _ => chosen op hs
    | _, h => return h

mutual

def ofExpr : Expr → Except TypeFault TypeHint
  | .literal .null => .ok .nothing
  | .literal c => .ok (.other c.value.written)
  | .name n => ofPath [n]
  | .attribute base attr =>
    match path? base with
    | some path => ofPath (path ++ [attr])
    | none => .error .unknownMember
  | .subscript base (.tuple es) => do
    let some path := path? base | throw .misapplied
    let _ ← ofPath path
    applied path true (← (ofExprs es).mapM id)
  | .subscript base e => do
    let some path := path? base | throw .misapplied
    let _ ← ofPath path
    applied path false [← ofExpr e]
  | .binary .bitOr (.literal .null) (.literal .null) => .error .misapplied
  | .binary .bitOr a b => do alternative (← ofExpr a) (← ofExpr b)
  | .connected op es => chosen op (ofExprs es)
  | .list es => do return .other ("[" ++ ",".intercalate (texts (← (ofExprs es).mapM id)) ++ "]")
  | .tuple es => do return .other ("(" ++ ",".intercalate (texts (← (ofExprs es).mapM id)) ++ ")")
  | .call callee args _ => do
    let some path := path? callee | throw .misapplied
    let _ ← ofPath path
    return .other (pathText path ++ "(" ++ ",".intercalate (texts (← (ofExprs args).mapM id)) ++ ")")
  | e => .ok (.other e.construct)
termination_by structural e => e

def ofExprs : List Expr → List (Except TypeFault TypeHint)
  | [] => []
  | e :: es => ofExpr e :: ofExprs es
termination_by structural es => es

end

def read (s : String) : Except TypeFault TypeHint :=
  match Statement.ofSource? (Text.strip s).toList with
  | some [.expression e] => ofExpr e
  | _ => .error .malformed

end TypeHint

end AccessPolicy
