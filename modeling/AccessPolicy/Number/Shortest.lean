import AccessPolicy.Number.Binary

/-!
The decimal text of a floating-point number: the fewest digits that read back as the number and, among
those, the decimal nearest to it. Numbers from 10⁻⁴ up to, but not including, 10¹⁶ are written
positionally with at least one digit after the point; all others with an exponent of two digits or more.
-/

namespace AccessPolicy.Number

def digits (n : Nat) : List Char :=
  Nat.toDigits 10 n

/-- The least `p` with `num / den < 10 ^ p`, for a positive ratio. -/
def decimalExponent (num den : Nat) : Int :=
  let below (p : Int) : Bool :=
    if 0 ≤ p then num < den * Nat.pow 10 p.toNat else num * Nat.pow 10 (-p).toNat < den
  let estimate := (ratioExponent num den * 30103) / 100000
  let candidates := [estimate - 1, estimate, estimate + 1, estimate + 2, estimate + 3]
  (candidates.find? below).getD (estimate + 4)

/-- `num / den` counted in units of `10 ^ p`, as an exact ratio. -/
def inUnits (num den : Nat) (p : Int) : Nat × Nat :=
  if 0 ≤ p then (num, den * Nat.pow 10 p.toNat) else (num * Nat.pow 10 (-p).toNat, den)

/-- The multiple of `10 ^ p` nearest to `m · 2 ^ e` among its two neighbours that read back as it. -/
def readsBack? (m : Nat) (e : Int) (p : Int) : Option Nat :=
  -- everything counted in quarters of the last binary place
  let quarter := e - 2
  let scale (k : Nat) : Nat × Nat :=
    if 0 ≤ quarter then inUnits (k * Nat.pow 2 quarter.toNat) 1 p else inUnits k (Nat.pow 2 (-quarter).toNat) p
  let (num, den) := scale (4 * m)
  let (low, _) := scale (if m == Nat.pow 2 52 && e != -1074 then 4 * m - 1 else 4 * m - 2)
  let (high, _) := scale (4 * m + 2)
  let even := m % 2 == 0
  let within (d : Nat) : Bool :=
    if even then low ≤ d * den && d * den ≤ high else low < d * den && d * den < high
  let d := num / den
  let below := d != 0 && within d
  let above := within (d + 1)
  let twice := 2 * (num % den)
  match below, above with
  | true, true => some (if twice < den || (twice == den && d % 2 == 0) then d else d + 1)
  | true, false => some d
  | false, true => some (d + 1)
  | false, false => none

/-- The shortest decimal of a positive number: its digits and the exponent of the last of them. -/
def shortest (m : Nat) (e : Int) : Nat × Int :=
  let (num, den) := if 0 ≤ e then (m * Nat.pow 2 e.toNat, 1) else (m, Nat.pow 2 (-e).toNat)
  let top := decimalExponent num den
  let grids := (List.range 17).map fun (k : Nat) => top - (k + 1)
  match grids.findSome? fun p => (readsBack? m e p).map (·, p) with
  | some found => found
  | none => (num / den, 0)

/-- Drops the zeros at the end of a list of digits. -/
def dropTrailingZeros (ds : List Char) : List Char :=
  (ds.reverse.dropWhile (· == '0')).reverse

/-- An exponent with its sign and at least two digits. -/
def exponentText (e : Int) : List Char :=
  let ds := digits e.natAbs
  'e' :: (if e < 0 then '-' else '+') :: (if ds.length < 2 then '0' :: ds else ds)

/-- Digits `ds` with the decimal point after the first `point` of them, written positionally. -/
def positional (ds : List Char) (point : Int) : List Char :=
  if point ≤ 0 then '0' :: '.' :: List.replicate (-point).toNat '0' ++ ds
  else
    let n := point.toNat
    if ds.length ≤ n then ds ++ List.replicate (n - ds.length) '0' ++ ['.', '0']
    else ds.take n ++ '.' :: ds.drop n

def floatText (x : Float) : String :=
  match Binary.ofFloat x with
  | .nan => "nan"
  | .infinite negative => if negative then "-inf" else "inf"
  | .finite negative m e =>
    let sign := if negative then ['-'] else []
    if m == 0 then String.ofList (sign ++ "0.0".toList)
    else
      let (d, p) := shortest m e
      let ds := digits d
      let point : Int := ds.length + p
      let ds := dropTrailingZeros ds
      String.ofList (sign ++
        if -4 < point && point ≤ 16 then positional ds point
        else
          let mantissa := match ds with
            | first :: [] => [first]
            | first :: rest => first :: '.' :: rest
            | [] => []
          mantissa ++ exponentText (point - 1))

end AccessPolicy.Number
