/-!
Binary floating-point numbers as exact quantities: a finite number is an integer times a power of two,
and every ratio of integers has one nearest number, the one with an even significand at a tie.
-/

namespace AccessPolicy.Number

inductive Binary where
  | nan
  | infinite (negative : Bool)
  /-- `significand · 2 ^ exponent`, with its sign; both zeros have significand zero. -/
  | finite (negative : Bool) (significand : Nat) (exponent : Int)

/-- Reads the sign, exponent and fraction fields of a number. -/
def Binary.ofFloat (x : Float) : Binary :=
  let bits := x.toBits.toNat
  let negative := bits / Nat.pow 2 63 == 1
  let biased : Nat := bits / Nat.pow 2 52 % 2048
  let fraction : Nat := bits % Nat.pow 2 52
  if biased == 2047 then
    if fraction == 0 then .infinite negative else .nan
  else if biased == 0 then .finite negative fraction (-1074)
  else .finite negative (fraction + Nat.pow 2 52) ((biased : Int) - 1075)

def isNegative (x : Float) : Bool :=
  x.toBits.toNat / Nat.pow 2 63 == 1

def Binary.ratio (negative : Bool) (significand : Nat) (exponent : Int) : Int × Nat :=
  let signed : Int := if negative then -(significand : Int) else significand
  if 0 ≤ exponent then (signed * Int.pow 2 exponent.toNat, 1) else (signed, Nat.pow 2 (-exponent).toNat)

/-- The quotient of `num` by `den` rounded to the nearest integer, an even one at a tie. -/
def roundDiv (num den : Nat) : Nat :=
  let q := num / den
  let twice := 2 * (num % den)
  if twice > den || (twice == den && q % 2 == 1) then q + 1 else q

/-- The position of the highest bit of a ratio, possibly one too low. -/
def ratioExponent (num den : Nat) : Int :=
  (Nat.log2 num : Int) - Nat.log2 den - 1

/-- The number nearest to a ratio of integers; `none` when it is beyond the largest number. -/
def ofRatio? (num : Int) (den : Nat) : Option Float :=
  let n := num.natAbs
  let sign : Nat := if num < 0 then Nat.pow 2 63 else 0
  if n == 0 then some 0.0
  else
    let scaled (e : Int) : Nat :=
      if 0 ≤ e then roundDiv n (den * Nat.pow 2 e.toNat) else roundDiv (n * Nat.pow 2 (-e).toNat) den
    -- the exponent of the last place: 53 significant bits, and never below the smallest number
    let low := max (ratioExponent n den - 52) (-1074)
    let e := if scaled low ≥ Nat.pow 2 53 then low + 1 else low
    let q := scaled e
    let bits : Nat := if q < Nat.pow 2 52 then q else ((e + 1075).toNat - 1) * Nat.pow 2 52 + q
    if bits ≥ 2047 * Nat.pow 2 52 then none else some (Float.ofBits (sign + bits).toUInt64)

/-- The number nearest to an integer, if it is within range. -/
def ofInt? (n : Int) : Option Float :=
  ofRatio? n 1

/-- The integer part of a finite number, toward zero. -/
def truncate? (x : Float) : Option Int :=
  match Binary.ofFloat x with
  | .finite negative m e =>
    let (num, den) := Binary.ratio negative m e
    some (Int.tdiv num den)
  | _ => none

/-- How a number stands to an integer; `none` for not-a-number. -/
def compareInt? (x : Float) (n : Int) : Option Ordering :=
  match Binary.ofFloat x with
  | .nan => none
  | .infinite negative => some (if negative then .lt else .gt)
  | .finite negative m e =>
    let (num, den) := Binary.ratio negative m e
    some (compare num (n * den))

/-- The remainder of two finite numbers, with the sign of the first, without rounding. -/
def remainder (x y : Float) : Float :=
  match Binary.ofFloat x, Binary.ofFloat y with
  | .finite nx mx ex, .finite _ my ey =>
    if my == 0 then 0.0 / 0.0
    else
      let e := min ex ey
      let rest := (mx * Nat.pow 2 (ex - e).toNat) % (my * Nat.pow 2 (ey - e).toNat)
      let (num, den) := Binary.ratio nx rest e
      if rest == 0 then (if nx then -0.0 else 0.0) else (ofRatio? num den).getD 0.0
  | .finite .., .infinite _ => x
  | _, _ => 0.0 / 0.0

end AccessPolicy.Number
