import AccessPolicy.Value.Order
import AccessPolicy.Value.Written

/-!
Arithmetic on numbers. Integers are exact and of any size; a division or remainder rounds toward the floor;
the wider kind of two numbers decides how they are combined.
-/

namespace AccessPolicy

inductive BinaryOp where
  | add
  | subtract
  | multiply
  | matrixMultiply
  | divide
  | floorDivide
  | modulo
  | power
  | shiftLeft
  | shiftRight
  | bitOr
  | bitXor
  | bitAnd
  deriving DecidableEq, Repr

namespace Integer

def land (a b : Int) : Int :=
  match a, b with
  | .ofNat m, .ofNat n => .ofNat (m &&& n)
  | .ofNat m, .negSucc n => .ofNat (m - (m &&& n))
  | .negSucc m, .ofNat n => .ofNat (n - (n &&& m))
  | .negSucc m, .negSucc n => .negSucc (m ||| n)

def lnot (a : Int) : Int :=
  -a - 1

def lor (a b : Int) : Int :=
  lnot (land (lnot a) (lnot b))

/-- Bitwise exclusive disjunction in two's complement. -/
def lxor (a b : Int) : Int :=
  match a, b with
  | .ofNat m, .ofNat n => .ofNat (m ^^^ n)
  | .ofNat m, .negSucc n => .negSucc (m ^^^ n)
  | .negSucc m, .ofNat n => .negSucc (m ^^^ n)
  | .negSucc m, .negSucc n => .ofNat (m ^^^ n)

/-- The floating-point number nearest to an integer. -/
def toFloat (n : Int) : Attempt Float :=
  match Number.ofInt? n with
  | some x => .ok x
  | none => .error .overflow

end Integer

namespace Real

def divide (x y : Float) : Attempt Float :=
  if y == 0 then .error .divisionByZero else .ok (x / y)

/-- The quotient rounded toward the floor, and the remainder with the sign of the divisor. -/
def floorDivMod (x y : Float) : Attempt (Float × Float) :=
  if y == 0 then .error .divisionByZero
  else
    let withSign (z sign : Float) : Float := if Number.isNegative sign then -z.abs else z.abs
    let rest := Number.remainder x y
    let quotient := (x - rest) / y
    let crossed := rest != 0 && (y < 0) != (rest < 0)
    let remainder := if rest == 0 then withSign 0.0 y else if crossed then rest + y else rest
    let quotient := if crossed then quotient - 1.0 else quotient
    let floored :=
      if quotient == 0 then withSign 0.0 (x / y)
      else
        let f := quotient.floor
        if quotient - f > 0.5 then f + 1.0 else f
    .ok (floored, remainder)

def isWhole (x : Float) : Bool :=
  !x.isNaN && !x.isInf && x.floor == x

/-- A power; a negative base with a fractional exponent has a complex power. -/
def power (x y : Float) : Attempt Value :=
  if x == 0 && y < 0 then .error .divisionByZero
  else if x < 0 && !x.isInf && !y.isInf && !y.isNaN && !isWhole y then
    let r := Float.pow (-x) y
    let angle := 3.141592653589793 * y
    .ok (.complex (r * Float.cos angle) (r * Float.sin angle))
  else
    let z := Float.pow x y
    if z.isInf && !x.isInf && !y.isInf then .error .overflow else .ok (.float z)

end Real

def Numeric.toComplex : Numeric → Attempt (Float × Float)
  | .int n => do return (← Integer.toFloat n, 0.0)
  | .float x => .ok (x, 0.0)
  | .complex re im => .ok (re, im)

def Numeric.toFloat : Numeric → Attempt Float
  | .int n => Integer.toFloat n
  | .float x => .ok x
  | .complex .. => .error .wrongType

def complexMultiply (p q : Float × Float) : Float × Float :=
  (p.1 * q.1 - p.2 * q.2, p.1 * q.2 + p.2 * q.1)

def complexDivide (p q : Float × Float) : Attempt (Float × Float) :=
  let n := q.1 * q.1 + q.2 * q.2
  if n == 0 then .error .divisionByZero
  else .ok ((p.1 * q.1 + p.2 * q.2) / n, (p.2 * q.1 - p.1 * q.2) / n)

/-- A power of two complex numbers, by their polar forms. -/
def complexPower (p q : Float × Float) : Attempt (Float × Float) :=
  if q.1 == 0 && q.2 == 0 then .ok (1.0, 0.0)
  else if p.1 == 0 && p.2 == 0 then
    if q.2 != 0 || q.1 < 0 then .error .divisionByZero else .ok (0.0, 0.0)
  else
    let size := Float.sqrt (p.1 * p.1 + p.2 * p.2)
    let angle := Float.atan2 p.2 p.1
    let length := Float.pow size q.1 * Float.exp (-angle * q.2)
    let turn := angle * q.1 + q.2 * Float.log size
    .ok (length * Float.cos turn, length * Float.sin turn)

def arithmetic (op : BinaryOp) (m n : Numeric) : Attempt Value :=
  match m, n with
  | .int a, .int b =>
    match op with
    | .add => .ok (.int (a + b))
    | .subtract => .ok (.int (a - b))
    | .multiply => .ok (.int (a * b))
    | .divide =>
      if b == 0 then .error .divisionByZero
      else if a == 0 then .ok (.float (if b < 0 then -0.0 else 0.0))
      else
        match Number.ofRatio? (if b < 0 then -a else a) b.natAbs with
        | some x => .ok (.float x)
        | none => .error .overflow
    | .floorDivide => if b == 0 then .error .divisionByZero else .ok (.int (Int.fdiv a b))
    | .modulo => if b == 0 then .error .divisionByZero else .ok (.int (Int.fmod a b))
    | .power =>
      if 0 ≤ b then .ok (.int (Int.pow a b.toNat))
      else if a == 0 then .error .divisionByZero
      else do Real.power (← Integer.toFloat a) (← Integer.toFloat b)
    | .shiftLeft => if b < 0 then .error .badValue else .ok (.int (a * Int.pow 2 b.toNat))
    | .shiftRight => if b < 0 then .error .badValue else .ok (.int (Int.fdiv a (Int.pow 2 b.toNat)))
    | .bitOr => .ok (.int (Integer.lor a b))
    | .bitXor => .ok (.int (Integer.lxor a b))
    | .bitAnd => .ok (.int (Integer.land a b))
    | .matrixMultiply => .error .wrongType
  | .complex .., _ | _, .complex .. => do
    let result (p : Float × Float) : Value := .complex p.1 p.2
    match op with
    | .add =>
      let p ← m.toComplex
      let q ← n.toComplex
      return result (p.1 + q.1, p.2 + q.2)
    | .subtract =>
      let p ← m.toComplex
      let q ← n.toComplex
      return result (p.1 - q.1, p.2 - q.2)
    | .multiply => return result (complexMultiply (← m.toComplex) (← n.toComplex))
    | .divide => return result (← complexDivide (← m.toComplex) (← n.toComplex))
    | .power => return result (← complexPower (← m.toComplex) (← n.toComplex))
    | _ => throw .wrongType
  | _, _ =>
    match op with
    | .add => do return .float ((← m.toFloat) + (← n.toFloat))
    | .subtract => do return .float ((← m.toFloat) - (← n.toFloat))
    | .multiply => do return .float ((← m.toFloat) * (← n.toFloat))
    | .divide => do return .float (← Real.divide (← m.toFloat) (← n.toFloat))
    | .floorDivide => do return .float (← Real.floorDivMod (← m.toFloat) (← n.toFloat)).1
    | .modulo => do return .float (← Real.floorDivMod (← m.toFloat) (← n.toFloat)).2
    | .power => do Real.power (← m.toFloat) (← n.toFloat)
    | _ => .error .wrongType

end AccessPolicy
