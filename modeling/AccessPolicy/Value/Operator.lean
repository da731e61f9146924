import AccessPolicy.Value.Arithmetic
import AccessPolicy.Value.Directive

/-!
The operators of the language on values. A truth value counts as an integer; sequences are joined and
repeated, sets are combined by the operators on bits, and a remainder of a text fills its directives.
-/

namespace AccessPolicy

inductive UnaryOp where
  | not
  | plus
  | negate
  | invert
  deriving DecidableEq, Repr

inductive CompareOp where
  | equal
  | notEqual
  | order (t : OrderTest)
  | is
  | isNot
  | contains
  | notContains
  deriving DecidableEq, Repr

/-- A list repeated, not at all for a negative count. -/
def repeated {α : Type} (items : List α) (n : Int) : List α :=
  if items.isEmpty then [] else (List.replicate n.toNat items).flatten

/-- Whether a number fits a machine word, as a number of repetitions must. -/
def fitsWord (n : Int) : Bool := -Int.pow 2 63 ≤ n && n < Int.pow 2 63

def Value.repeated (v : Value) (n : Int) : Attempt Value :=
  let checked (w : Value) : Attempt Value := if fitsWord n then .ok w else .error .overflow
  match v with
  | .text s => checked (.text (String.ofList (AccessPolicy.repeated s.toList n)))
  | .bytes data => checked (.bytes (AccessPolicy.repeated data n))
  | .byteArray data => checked (.byteArray (AccessPolicy.repeated data n))
  | .list items => checked (.list (AccessPolicy.repeated items n))
  | .tuple items => checked (.tuple (AccessPolicy.repeated items n))
  | .deque items => checked (.deque (AccessPolicy.repeated items n))
  | .array code items => checked (.array code (AccessPolicy.repeated items n))
  | _ => .error .wrongType

/-- Two sequences of one kind joined; `none` when they are not. -/
def Value.joined? (v w : Value) : Option Value :=
  match v, w with
  | .text a, .text b => some (.text (a ++ b))
  | .bytes a, .bytes b | .bytes a, .byteArray b => some (.bytes (a ++ b))
  | .byteArray a, .bytes b | .byteArray a, .byteArray b => some (.byteArray (a ++ b))
  | .list a, .list b => some (.list (a ++ b))
  | .tuple a, .tuple b => some (.tuple (a ++ b))
  | .deque a, .deque b => some (.deque (a ++ b))
  | .array c a, .array d b => if c == d then some (.array c (a ++ b)) else none
  | _, _ => none

def combineSets (op : BinaryOp) (xs ys : List Value) : Option (List Value) :=
  let within (zs : List Value) (v : Value) : Bool := zs.any (alike v)
  match op with
  | .bitOr => some (ys.foldl insertItem xs)
  | .bitAnd => some (xs.filter (within ys))
  | .subtract => some (xs.filter fun v => !within ys v)
  | .bitXor => some (xs.filter (fun v => !within ys v) ++ ys.filter fun v => !within xs v)
  | _ => none

/-- Whether a value is a view that behaves as a set. -/
def Value.isSetView : Value → Bool
  | .view .keys _ | .view .items _ => true
  | _ => false

/-- The elements of an operand of a set operator: beside a view every collection counts as a set. -/
def setOperand? (beside v : Value) : Option (List Value) :=
  match v.setItems? with
  | some xs => some xs
  | none => if beside.isSetView then (v.items?.filter allHashable).map distinct else none

def combine (op : BinaryOp) (v w : Value) : Attempt Value :=
  let sets : Attempt Value :=
    match setOperand? w v, setOperand? v w with
    | some xs, some ys =>
      match combineSets op xs ys with
      | some zs =>
        match v, w with
        | .frozenSet _, .set _ | .frozenSet _, .frozenSet _ => .ok (.frozenSet zs)
        | _, _ => .ok (.set zs)
      | none => .error .wrongType
    | _, _ => .error .wrongType
  match op with
  | .add =>
    match v.joined? w with
    | some r => .ok r
    | none => .error .wrongType
  | .multiply =>
    match v.index?, w.index? with
    | none, some n => v.repeated n
    | some n, none => w.repeated n
    | _, _ => .error .wrongType
  | .modulo =>
    match v with
    | .text s => do return .text (← Directive.fill s w)
    | _ => .error .wrongType
  | .bitOr =>
    match v, w with
    | .mapping k a, .mapping l b =>
      let merged := b.foldl (fun es (key, value) => insertEntry es key value) a
      .ok (.mapping (if k == .ordered || l == .ordered then .ordered else .plain) merged)
    | _, _ => sets
  | _ => sets

def BinaryOp.apply (op : BinaryOp) (v w : Value) : Attempt Value :=
  match op, v, w with
  | .bitAnd, .bool a, .bool b => .ok (.bool (a && b))
  | .bitOr, .bool a, .bool b => .ok (.bool (a || b))
  | .bitXor, .bool a, .bool b => .ok (.bool (a != b))
  | _, _, _ =>
    match v.numeric?, w.numeric? with
    | some m, some n => arithmetic op m n
    | _, _ => combine op v w

def UnaryOp.apply (op : UnaryOp) (v : Value) : Attempt Value :=
  match op with
  | .not => .ok (.bool !v.truthy)
  | op =>
    match op, v.numeric? with
    | .plus, some (.int n) => .ok (.int n)
    | .plus, some (.float x) => .ok (.float x)
    | .plus, some (.complex a b) => .ok (.complex a b)
    | .negate, some (.int n) => .ok (.int (-n))
    | .negate, some (.float x) => .ok (.float (-x))
    | .negate, some (.complex a b) => .ok (.complex (-a) (-b))
    | .invert, some (.int n) => .ok (.int (Integer.lnot n))
    | _, _ => .error .wrongType

/-- Identity: unique values are identical when they are the same; others only when both operands
refer to values that exist already (`shared`). -/
def identical (shared : Bool) (v w : Value) : Bool :=
  v.same w && (shared || v.isUnique)

/-- The result of a comparison; `shared` says that neither operand was made by the comparison itself. -/
def CompareOp.apply (op : CompareOp) (shared : Bool) (v w : Value) : Attempt Value :=
  match op with
  | .equal => .ok (.bool (v.equal w))
  | .notEqual => .ok (.bool !(v.equal w))
  | .order t => do return .bool (← v.ordered t w)
  | .is => .ok (.bool (identical shared v w))
  | .isNot => .ok (.bool !(identical shared v w))
  | .contains => do return .bool (← w.contains v)
  | .notContains => do return .bool !(← w.contains v)

end AccessPolicy
