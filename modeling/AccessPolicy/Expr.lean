import AccessPolicy.Value.Operator

/-!
The syntax of access expressions.
-/

namespace AccessPolicy

inductive Literal where
  | null
  | bool (b : Bool)
  | int (n : Int)
  | float (x : Float)
  | imaginary (x : Float)
  | ellipsis
  | text (s : String)
  | bytes (data : List UInt8)

def Literal.value : Literal → Value
  | .null => .null
  | .bool b => .bool b
  | .int n => .int n
  | .float x => .float x
  | .imaginary x => .complex 0.0 x
  | .ellipsis => .ellipsis
  | .text s => .text s
  | .bytes data => .bytes data

inductive Connective where
  | and
  | or
  deriving DecidableEq, Repr

/-- What a comprehension over one element collects: a list, the elements one by one, or a set. -/
inductive Collecting where
  | list
  | generator
  | set
  deriving DecidableEq, Repr

mutual

inductive Expr where
  | literal (c : Literal)
  | name (id : String)
  | attribute (base : Expr) (attr : String)
  | subscript (base index : Expr)
  | slice (lower upper step : Option Expr)
  | call (callee : Expr) (args : List Expr) (keywords : List Keyword)
  | unary (op : UnaryOp) (operand : Expr)
  | binary (op : BinaryOp) (left right : Expr)
  | connected (op : Connective) (operands : List Expr)
  | compared (first : Expr) (rest : List Comparison)
  | conditional (test body orelse : Expr)
  | list (items : List Expr)
  | tuple (items : List Expr)
  | set (items : List Expr)
  | dict (items : List DictItem)
  | starred (e : Expr)
  | comprehension (kind : Collecting) (element : Expr) (generators : List Generator)
  | dictComprehension (key value : Expr) (generators : List Generator)
  | interpolated (pieces : List Piece)
  | lambda (parameters : List String) (defaults : List Expr) (body : Expr)
  | await (e : Expr)
  | yield (e : Option Expr)
  | yieldFrom (e : Expr)
  | assignment (target : String) (value : Expr)

/-- A named argument, or a spread mapping when the name is missing. -/
inductive Keyword where
  | mk (name : Option String) (value : Expr)

inductive Comparison where
  | mk (op : CompareOp) (right : Expr)

/-- An entry of a mapping, or a mapping whose entries are taken in. -/
inductive DictItem where
  | entry (key value : Expr)
  | spread (e : Expr)

inductive Generator where
  | mk (target iterable : Expr) (conditions : List Expr)

/-- A part of an interpolated text: plain text, or a field with an optional layout. -/
inductive Piece where
  | text (s : String)
  | field (e : Expr) (layout : Option (List Piece))

end

instance : Inhabited Expr := ⟨.literal .null⟩

/-- The name of a construct in the grammar, as refusals show it. -/
def Expr.construct : Expr → String
  | .literal _ => "Constant"
  | .name _ => "Name"
  | .attribute .. => "Attribute"
  | .subscript .. => "Subscript"
  | .slice .. => "Slice"
  | .call .. => "Call"
  | .unary .. => "UnaryOp"
  | .binary .. => "BinOp"
  | .connected .. => "BoolOp"
  | .compared .. => "Compare"
  | .conditional .. => "IfExp"
  | .list _ => "List"
  | .tuple _ => "Tuple"
  | .set _ => "Set"
  | .dict _ => "Dict"
  | .starred _ => "Starred"
  | .comprehension .list .. => "ListComp"
  | .comprehension .generator .. => "GeneratorExp"
  | .comprehension .set .. => "SetComp"
  | .dictComprehension .. => "DictComp"
  | .interpolated _ => "JoinedStr"
  | .lambda .. => "Lambda"
  | .await _ => "Await"
  | .yield _ => "Yield"
  | .yieldFrom _ => "YieldFrom"
  | .assignment .. => "NamedExpr"

end AccessPolicy
