import AccessPolicy.Number.Decimal
import AccessPolicy.Value.Arithmetic
import AccessPolicy.Value.Whole

/-!
Conversions between numbers and texts. They can be called where an expression has no predicates.
-/

namespace AccessPolicy

/-- The floating-point number that a value denotes. -/
def Value.real (v : Value) : Attempt Float :=
  match v.numeric?, v with
  | some m, _ => m.toFloat
  | none, .text s => (Number.float? s).elim (.error .badValue) .ok
  | none, v =>
    match v.buffer? with
    | some data => ((numeralOf? data).bind Number.float?).elim (.error .badValue) .ok
    | none => .error .wrongType

def Value.wholeIn (v base : Value) : Attempt Int := do
  let some b := base.index? | throw .wrongType
  if b ≠ 0 && !(2 ≤ b && b ≤ 36) then throw .badValue
  let read (s : Option String) : Attempt Int :=
    (s.bind (Number.integerIn? b.toNat)).elim (.error .badValue) .ok
  match v with
  | .text s => read (some s)
  | .bytes data | .byteArray data => read (numeralOf? data)
  | _ => throw .wrongType

def Conversion.apply (c : Conversion) (args : List Value) (named : List (String × Value)) : Attempt Value := do
  match c, args, named with
  | .whole, [], [] => return .int 0
  | .whole, [v], [] => return .int (← v.whole)
  | .whole, [v, base], [] | .whole, [v], [("base", base)] => return .int (← v.wholeIn base)
  | .real, [], [] => return .float 0.0
  | .real, [v], [] => return .float (← v.real)
  | .text, [], [] => return .text ""
  | .text, [v], [] | .text, [], [("object", v)] =>
    if v.tooLongToWrite then throw .badValue else return .text v.shown
  | _, _, _ => throw .wrongType

end AccessPolicy
