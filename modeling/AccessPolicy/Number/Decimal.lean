import AccessPolicy.Number.Integer

/-!
Floating-point numbers in decimal notation: digits, a fraction and an exponent, or a word for a number that
is not finite. Single underscores may separate digits.
-/

namespace AccessPolicy.Number

/-- The number nearest to the one with decimal digits `ds`, scaled by a power of ten. -/
def ofDecimal (ds : List Nat) (e : Int) : Float :=
  let n := ofDigits 10 ds
  if n == 0 then 0.0
  else if e > 400 then Float.ofScientific n false 400
  else if e < -(ds.length : Int) - 400 then 0.0
  else Float.ofScientific n (e < 0) e.natAbs

def word? (s : String) : Option Float :=
  match s.toLower with
  | "inf" | "infinity" => some (1.0 / 0.0)
  | "nan" => some (0.0 / 0.0)
  | _ => none

/-- Digits with their separators at the start of a text; there may be none. -/
def leadingDigits? (cs : List Char) : Option (List Nat × List Char) :=
  let run := cs.takeWhile fun c => c == '_' || (Text.decimalDigit? c).isSome
  if run.isEmpty then some ([], cs)
  else (separatedDigits? Text.decimalDigit? run).map fun ds => (ds, cs.drop run.length)

/-- The exponent that a text is, which may be missing. -/
def exponent? : List Char → Option Int
  | [] => some 0
  | c :: cs =>
    if c == 'e' || c == 'E' then
      let (sign, cs) : Int × List Char := match cs with
        | '-' :: rest => (-1, rest)
        | '+' :: rest => (1, rest)
        | rest => (1, rest)
      (separatedDigits? Text.decimalDigit? cs).map fun ds => sign * ofDigits 10 ds
    else none

def unsigned? (cs : List Char) : Option Float := do
  let (whole, rest) ← leadingDigits? cs
  let (fraction, rest) ← match rest with
    | '.' :: rest => leadingDigits? rest
    | rest => some ([], rest)
  let e ← exponent? rest
  if whole.isEmpty && fraction.isEmpty then none
  return ofDecimal (whole ++ fraction) (e - fraction.length)

def float? (s : String) : Option Float :=
  let positive (cs : List Char) : Option Float := word? (String.ofList cs) <|> unsigned? cs
  match Text.trimBoth isMargin s.toList with
  | '-' :: cs => (positive cs).map fun x => -x
  | '+' :: cs => positive cs
  | cs => positive cs

/-- The value of a letter or digit as a digit of a base up to thirty-six. -/
def alphanumericDigit? (c : Char) : Option Nat :=
  if 'a' ≤ c && c ≤ 'z' then some (c.toNat - 87)
  else if 'A' ≤ c && c ≤ 'Z' then some (c.toNat - 55)
  else Text.decimalDigit? c

/-- The base that a number says it is written in, and the rest of it. -/
def markedBase? : List Char → Option (Nat × List Char)
  | '0' :: c :: cs =>
    if c == 'x' || c == 'X' then some (16, cs)
    else if c == 'o' || c == 'O' then some (8, cs)
    else if c == 'b' || c == 'B' then some (2, cs)
    else none
  | _ => none

/-- The digits of a number in a base, after the mark of the base if there is one; base zero is the base that
the mark says, or else ten. -/
def unsignedIn? (base : Nat) (cs : List Char) : Option Nat :=
  let (marked, actual, rest) : Bool × Nat × List Char := match markedBase? cs with
    | some (b, rest) => if base = 0 || base = b then (true, b, rest) else (false, base, cs)
    | none => (false, if base = 0 then 10 else base, cs)
  let rest := match marked, rest with
    | true, '_' :: rest => rest
    | _, rest => rest
  let digit? (c : Char) : Option Nat := (alphanumericDigit? c).filter (· < actual)
  match separatedDigits? digit? rest with
  | none => none
  | some ds =>
    if base = 0 && !marked && ds.head? == some 0 && ds.any (· != 0) then none
    else if actual ∉ [2, 4, 8, 16, 32] && maxDigits < ds.length then none
    else some (ofDigits actual ds)

def integerIn? (base : Nat) (s : String) : Option Int :=
  match Text.trimBoth isMargin s.toList with
  | '-' :: cs => (unsignedIn? base cs).map fun n => -(n : Int)
  | '+' :: cs => (unsignedIn? base cs).map fun n => (n : Int)
  | cs => (unsignedIn? base cs).map fun n => (n : Int)

end AccessPolicy.Number
