import AccessPolicy.Value.Arithmetic

/-!
Laying a value out in a field of a text: alignment, sign, width, grouping, precision and base, as a short
layout text such as `>5`, `05d` or `.1f` asks for. Roundings are of the exact value, half to even.
-/

namespace AccessPolicy

structure Layout where
  fill : Char := ' '
  align : Option Char := none
  sign : Option Char := none
  /-- A number that is rounded to zero has no minus sign. -/
  plainZero : Bool := false
  alternate : Bool := false
  /-- A zero stood before the width. -/
  zero : Bool := false
  width : Nat := 0
  grouping : Option Char := none
  precision : Option Nat := none
  style : Option Char := none

namespace Layout

def isAlign (c : Char) : Bool :=
  c == '<' || c == '>' || c == '^' || c == '='

def takeNumber (cs : List Char) : Option Nat × List Char :=
  let ds := cs.takeWhile Char.isDigit
  if ds.isEmpty then (none, cs)
  else (some (ds.foldl (fun n d => n * 10 + (d.toNat - 48)) 0), cs.drop ds.length)

def maxNumber : Nat := Nat.pow 2 63 - 1

/-- A mark at the start of a text, if it is one of those wanted, and the rest. -/
def takeMark (wanted : Char → Bool) : List Char → Option Char × List Char
  | c :: cs => if wanted c then (some c, cs) else (none, c :: cs)
  | [] => (none, [])

/-- The fill character, if one is given, the alignment, and the rest. -/
def takeAlign : List Char → Option Char × Option Char × List Char
  | f :: a :: cs =>
    if isAlign a then (some f, some a, cs)
    else if isAlign f then (none, some f, a :: cs)
    else (none, none, f :: a :: cs)
  | [a] => if isAlign a then (none, some a, []) else (none, none, [a])
  | [] => (none, none, [])

/-- Whether a style can have a separator between groups of digits. -/
def canGroup (separator : Char) (style : Option Char) : Bool :=
  match style with
  | none => true
  | some c =>
    c ∈ ['d', 'e', 'f', 'g', 'E', 'G', '%', 'F'] || (separator == '_' && c ∈ ['b', 'o', 'x', 'X'])

/-- Reads a layout; faults on what is not one. -/
def read (s : String) : Attempt Layout := do
  let (fill, align, cs) := takeAlign s.toList
  let (sign, cs) := takeMark (fun c => c == '+' || c == '-' || c == ' ') cs
  let (plainZero, cs) := takeMark (· == 'z') cs
  let (alternate, cs) := takeMark (· == '#') cs
  let (zero, cs) := if fill.isSome then (none, cs) else takeMark (· == '0') cs
  let (width, cs) := takeNumber cs
  if width.any (maxNumber < ·) then throw .badValue
  let (comma, cs) := takeMark (· == ',') cs
  let (underscore, cs) := takeMark (· == '_') cs
  if underscore.isSome && (comma.isSome || cs.head? == some ',') then throw .badValue
  let (point, cs) := takeMark (· == '.') cs
  let (precision, cs) := if point.isSome then takeNumber cs else (none, cs)
  if point.isSome && precision.isNone || precision.any (maxNumber < ·) then throw .badValue
  let style ← match cs with
    | [] => pure none
    | [c] => pure (some c)
    | _ => throw .badValue
  let grouping := comma <|> underscore
  if grouping.any fun c => !canGroup c style then throw .badValue
  let fill := fill.getD (if zero.isSome then '0' else ' ')
  return {
    fill
    align
    sign
    plainZero := plainZero.isSome
    alternate := alternate.isSome
    zero := fill == '0' && (align.isNone || align == some '=')
    width := width.getD 0
    grouping
    precision
    style }

/-- Pads a body, with its sign or base mark apart, to the width; `side` is the default alignment. -/
def pad (l : Layout) (side : Char) (mark body : List Char) : String :=
  let missing := l.width - (mark.length + body.length)
  let filler := List.replicate missing l.fill
  String.ofList <| match l.align.getD side with
    | '<' => mark ++ body ++ filler
    | '^' => List.replicate (missing / 2) l.fill ++ mark ++ body ++ List.replicate (missing - missing / 2) l.fill
    | '=' => mark ++ filler ++ body
    | _ => filler ++ mark ++ body

def signText (l : Layout) (negative : Bool) : List Char :=
  if negative then ['-'] else
    match l.sign with
    | some '-' | none => []
    | some c => [c]

/-- Inserts a separator between groups of digits, counted from the end. -/
def grouped (separator : Char) (size : Nat) (ds : List Char) : List Char :=
  let n := ds.length
  (ds.zipIdx.flatMap fun (d, i) => if i != 0 && (n - i) % size == 0 then [separator, d] else [d])

/-- Digits with the layout's grouping; zero padding is grouped with them. -/
def groupDigits (l : Layout) (size : Nat) (ds : List Char) (others : Nat) : List Char :=
  match l.grouping with
  | none => ds
  | some separator =>
    let body := grouped separator size ds
    if l.zero then
      -- as many leading zeros as fill the width once grouped
      let wanted := l.width - others
      let candidates := (List.range (wanted + 1)).map fun (k : Nat) =>
        grouped separator size (List.replicate k '0' ++ ds)
      (candidates.find? fun c => wanted ≤ c.length).getD body
    else body

def text (l : Layout) (s : String) : Attempt String := do
  if l.sign.isSome || l.plainZero || l.alternate || l.grouping.isSome || l.align == some '=' then throw .badValue
  if l.style.any (· != 's') then throw .badValue
  let cs := match l.precision with
    | some p => s.toList.take p
    | none => s.toList
  return l.pad '<' [] cs

/-- An exact decimal with a fixed number of places. -/
def fixedPlaces (num den places : Nat) : List Char × List Char :=
  let n := Number.roundDiv (num * Nat.pow 10 places) den
  let ds := Number.digits n
  let ds := List.replicate (places + 1 - ds.length) '0' ++ ds
  (ds.take (ds.length - places), ds.drop (ds.length - places))

/-- Digits and exponent of a ratio rounded to a number of significant digits. -/
def significant (num den count : Nat) : List Char × Int :=
  if num == 0 then (List.replicate count '0', 0)
  else
    let top := Number.decimalExponent num den
    let (n, d) := Number.inUnits num den (top - count)
    let q := Number.roundDiv n d
    if q == Nat.pow 10 count then ('1' :: List.replicate (count - 1) '0', top) else (Number.digits q, top - 1)

def scientific (l : Layout) (ds : List Char) (e : Int) (mark : Char) : List Char × List Char :=
  match ds with
  | [] => ([], [])
  | first :: rest =>
    let point := if rest.isEmpty && !l.alternate then [] else '.' :: rest
    ([first], point ++ (Number.exponentText e).map fun c => if c == 'e' then mark else c)

/-- The general style: positional or scientific, whichever the exponent asks for. -/
def general (l : Layout) (num den : Nat) (precision : Nat) (mark : Char) (keepPoint : Bool) :
    List Char × List Char :=
  let p := if precision == 0 then 1 else precision
  let (ds, e) := significant num den p
  let point : Int := e + 1
  let trimmed := if l.alternate then ds else Number.dropTrailingZeros ds
  if point ≤ -4 || point > (p : Int) - (if keepPoint then 1 else 0) then
    scientific l (if trimmed.isEmpty then ['0'] else trimmed) e mark
  else if point ≤ 0 then (['0'], '.' :: List.replicate (-point).toNat '0' ++ trimmed)
  else
    let n := point.toNat
    let whole := trimmed.take n ++ List.replicate (n - trimmed.length) '0'
    let rest := trimmed.drop n
    (whole, if rest.isEmpty then (if keepPoint then ['.', '0'] else if l.alternate then ['.'] else []) else '.' :: rest)

def float (l : Layout) (x : Float) : Attempt String := do
  let style := l.style
  unless style.all (fun c => c ∈ ['e', 'E', 'f', 'F', 'g', 'G', 'n', '%']) do throw .badValue
  let upper := style.any fun c => c == 'E' || c == 'F' || c == 'G'
  let x := if style == some '%' then x * 100.0 else x
  let caps (cs : List Char) : List Char := if upper then cs.map Char.toUpper else cs
  let side := if l.zero then '=' else '>'
  let percent (cs : List Char) : List Char := if style == some '%' then cs ++ ['%'] else cs
  match Number.Binary.ofFloat x with
  | .nan => return l.pad side (l.signText false) (percent (caps ['n', 'a', 'n']))
  | .infinite negative => return l.pad side (l.signText negative) (percent (caps ['i', 'n', 'f']))
  | .finite negative m e =>
    let (num, den) := Number.Binary.ratio false m e
    let num := num.toNat
    let (whole, rest) : List Char × List Char := match style with
      | some 'f' | some 'F' | some '%' =>
        let (whole, places) := fixedPlaces num den (l.precision.getD 6)
        let rest := if places.isEmpty then (if l.alternate then ['.'] else []) else '.' :: places
        (whole, percent rest)
      | some 'e' | some 'E' =>
        let (ds, exponent) := significant num den (l.precision.getD 6 + 1)
        scientific l ds exponent 'e'
      | some _ => general l num den (l.precision.getD 6) 'e' false
      | none =>
        match l.precision with
        | some p => general l num den p 'e' true
        | none =>
          let s := (Number.floatText x.abs).toList
          let rest := s.dropWhile Char.isDigit
          (s.takeWhile Char.isDigit, if l.alternate && !rest.contains '.' then '.' :: rest else rest)
    let isZero := !(whole ++ rest.takeWhile (· != 'e')).any fun c => '1' ≤ c && c ≤ '9'
    let mark := l.signText (negative && !(l.plainZero && isZero))
    let body := l.groupDigits 3 whole (mark.length + rest.length) ++ caps rest
    return l.pad side mark body

def int (l : Layout) (n : Int) : Attempt String := do
  let inBase (base : Nat) (mark : String) (size : Nat) (caps : Bool) : Attempt String := do
    if l.precision.isSome || l.plainZero then throw .badValue
    let ds := Nat.toDigits base n.natAbs
    let ds := if caps then ds.map Char.toUpper else ds
    let sign := l.signText (n < 0) ++ (if l.alternate then mark.toList else [])
    return l.pad (if l.zero then '=' else '>') sign (l.groupDigits size ds sign.length)
  match l.style with
  | none | some 'd' | some 'n' => inBase 10 "" 3 false
  | some 'b' => inBase 2 "0b" 4 false
  | some 'o' => inBase 8 "0o" 4 false
  | some 'x' => inBase 16 "0x" 4 false
  | some 'X' => inBase 16 "0X" 4 true
  | some 'c' =>
    if l.precision.isSome || l.plainZero || l.sign.isSome || l.alternate then throw .badValue
    if 0 ≤ n && n < 0x110000 then return l.pad '>' [] [Char.ofNat n.toNat] else throw .overflow
  | some _ => do l.float (← Integer.toFloat n)

end Layout

/-- A value laid out in a field; only text and numbers take a layout that is not empty. -/
def Value.laidOut (v : Value) (layout : String) : Attempt String := do
  if v.tooLongToWrite then throw .badValue
  if layout.toList.any (fun c => c == '\x7b' || c == '\x7d') then throw .badValue
  if layout.isEmpty then return v.shown
  match v with
  | .text s => (← Layout.read layout).text s
  | .float x => (← Layout.read layout).float x
  | .int n => (← Layout.read layout).int n
  | .bool b => (← Layout.read layout).int (if b then 1 else 0)
  | _ => throw .wrongType

end AccessPolicy
