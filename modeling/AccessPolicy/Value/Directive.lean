import AccessPolicy.Number.Integer
import AccessPolicy.Value.Items
import AccessPolicy.Value.Layout

/-!
Texts with directives, which start with `%` and are replaced by arguments. A directive may name its argument,
pad it to a width, and give a precision; width and precision may be arguments themselves.
-/

namespace AccessPolicy

/-- A directive, apart from its argument. -/
structure Directive where
  left : Bool := false
  plus : Bool := false
  blank : Bool := false
  alternate : Bool := false
  zero : Bool := false
  width : Nat := 0
  precision : Option Nat := none

namespace Directive

/-- The arguments that are left: those of a list, or a single one, which is taken once. -/
inductive Supply where
  | items (vs : List Value)
  | single (v : Value)
  | taken

def Supply.next : Supply → Attempt (Value × Supply)
  | .items (v :: vs) => .ok (v, .items vs)
  | .single v => .ok (v, .taken)
  | .items [] | .taken => .error .wrongType

def Supply.of : Value → Supply
  | .tuple vs => .items vs
  | v => .single v

/-- Whether parts of a value can be picked out by a key, so that directives may name them. -/
def hasParts : Value → Bool
  | .list _ | .bytes _ | .byteArray _ | .mapping .. | .range .. | .array .. => true
  | _ => false

/-- A number of a directive, or a star for the next argument. -/
def takeNumber (supply : Supply) (cs : List Char) : Attempt (Option Int × Supply × List Char) := do
  match cs with
  | '*' :: rest =>
    let (v, supply) ← supply.next
    match v with
    | .int n => if n.natAbs < Nat.pow 2 31 then return (some n, supply, rest) else throw .overflow
    | .bool b => return (some (if b then 1 else 0), supply, rest)
    | _ => throw .wrongType
  | cs =>
    let ds := cs.takeWhile Char.isDigit
    if ds.isEmpty then return (none, supply, cs)
    let n := Number.ofDigits 10 (ds.map fun c => c.toNat - '0'.toNat)
    if n < Nat.pow 2 63 then return (some n, supply, cs.drop ds.length) else throw .badValue

def takeFlags (d : Directive) : List Char → Directive × List Char
  | '-' :: cs => takeFlags { d with left := true } cs
  | '+' :: cs => takeFlags { d with plus := true } cs
  | ' ' :: cs => takeFlags { d with blank := true } cs
  | '#' :: cs => takeFlags { d with alternate := true } cs
  | '0' :: cs => takeFlags { d with zero := true } cs
  | cs => (d, cs)

/-- A body behind its sign and mark, padded to the width. -/
def pad (d : Directive) (sign mark body : List Char) (number : Bool) : List Char :=
  let missing := d.width - (sign.length + mark.length + body.length)
  if d.left then sign ++ mark ++ body ++ List.replicate missing ' '
  else if number && d.zero then sign ++ mark ++ List.replicate missing '0' ++ body
  else List.replicate missing ' ' ++ sign ++ mark ++ body

def sign (d : Directive) (negative : Bool) : List Char :=
  if negative then ['-'] else if d.plus then ['+'] else if d.blank then [' '] else []

/-- A text, cut to the precision. -/
def text (d : Directive) (s : String) : List Char :=
  d.pad [] [] (d.precision.elim s.toList s.toList.take) false

/-- An integer; the precision is its least number of digits. -/
def integer (d : Directive) (n : Int) (base : Nat) (mark : String) (upper : Bool) : List Char :=
  let ds := Nat.toDigits base n.natAbs
  let ds := List.replicate (d.precision.getD 0 - ds.length) '0' ++ if upper then ds.map Char.toUpper else ds
  d.pad (d.sign (n < 0)) (if d.alternate then mark.toList else []) ds true

def float (d : Directive) (x : Float) (style : Char) : Attempt (List Char) := do
  let layout : Layout := { alternate := d.alternate, precision := some (d.precision.getD 6), style := some style }
  let cs := (← layout.float x).toList
  match cs with
  | '-' :: body => return d.pad ['-'] [] body true
  | body => return d.pad (d.sign false) [] body true

def whole (v : Value) : Attempt Int :=
  match v.index?, v with
  | some n, _ => .ok n
  | none, .float x =>
    match Number.truncate? x with
    | some n => .ok n
    | none => .error (if x.isNaN then .badValue else .overflow)
  | none, _ => .error .wrongType

/-- A text of ASCII characters, with escapes for the others. -/
def asciiText (s : String) : String :=
  String.join (s.toList.map fun c =>
    if c.toNat < 0x80 then c.toString
    else if c.toNat < 0x100 then "\\x" ++ Number.hex 2 c.toNat
    else if c.toNat < 0x10000 then "\\u" ++ Number.hex 4 c.toNat
    else "\\U" ++ Number.hex 8 c.toNat)

/-- The argument of a directive as the directive's letter says. -/
def write (d : Directive) (letter : Char) (v : Value) : Attempt (List Char) := do
  if v.tooLongToWrite && letter ∈ ['s', 'r', 'a', 'd', 'i', 'u'] then throw .badValue
  match letter with
  | 's' => return d.text v.shown
  | 'r' => return d.text v.written
  | 'a' => return d.text (asciiText v.written)
  | 'd' | 'i' | 'u' => return d.integer (← whole v) 10 "" false
  | 'x' | 'X' | 'o' =>
    match v.index? with
    | none => throw .wrongType
    | some n =>
      return if letter == 'o' then d.integer n 8 "0o" false
        else if letter == 'x' then d.integer n 16 "0x" false
        else d.integer n 16 "0X" true
  | 'e' | 'E' | 'f' | 'F' | 'g' | 'G' =>
    match v.numeric? with
    | some (.int n) => d.float (← Integer.toFloat n) letter
    | some (.float x) => d.float x letter
    | _ => throw .wrongType
  | 'c' =>
    match v.index?, v with
    | some n, _ =>
      if 0 ≤ n && n < 0x110000 then return d.pad [] [] [Char.ofNat n.toNat] false else throw .overflow
    | none, .text s => if s.length == 1 then return d.pad [] [] s.toList false else throw .wrongType
    | none, _ => throw .wrongType
  | _ => throw .badValue

/-- The name of an argument up to the bracket that closes it, and the rest. -/
def takeName (depth : Nat) (acc : List Char) : List Char → Option (String × List Char)
  | [] => none
  | ')' :: cs => if depth = 0 then some (String.ofList acc.reverse, cs) else takeName (depth - 1) (')' :: acc) cs
  | '(' :: cs => takeName (depth + 1) ('(' :: acc) cs
  | c :: cs => takeName depth (c :: acc) cs

def source (whole : Value) (supply : Supply) (cs : List Char) : Attempt (Supply × List Char) := do
  match cs with
  | '(' :: rest =>
    if !hasParts whole then throw .wrongType
    match takeName 0 [] rest with
    | none => throw .badValue
    | some (name, rest) => return (.single (← whole.subscript (.text name)), rest)
  | cs => return (supply, cs)

def one (whole : Value) (supply : Supply) (cs : List Char) : Attempt (List Char × Supply × List Char) := do
  let (supply, cs) ← source whole supply cs
  let (d, cs) := takeFlags {} cs
  let (width, supply, cs) ← takeNumber supply cs
  let w := width.getD 0
  let d := { d with width := w.natAbs, left := d.left || w < 0 }
  let (precision, supply, cs) ← match cs with
    | '.' :: rest => do
      let (p, supply, rest) ← takeNumber supply rest
      pure (some (p.getD 0).toNat, supply, rest)
    | cs => pure (none, supply, cs)
  let d := { d with precision }
  let cs := match cs with
    | c :: rest => if c ∈ ['h', 'l', 'L'] then rest else cs
    | [] => []
  match cs with
  | [] => throw .badValue
  | letter :: rest =>
    let (v, supply) ← supply.next
    return (← d.write letter v, supply, rest)

/-- Replaces directives, and `%%` by a single `%`; every step takes a character. -/
def fillFrom (whole : Value) : Nat → Supply → List Char → Attempt (List Char × Supply)
  | 0, supply, _ | _, supply, [] => .ok ([], supply)
  | n + 1, supply, '%' :: '%' :: cs => do
    let (more, supply) ← fillFrom whole n supply cs
    return ('%' :: more, supply)
  | n + 1, supply, '%' :: cs => do
    let (piece, supply, rest) ← one whole supply cs
    let (more, supply) ← fillFrom whole n supply rest
    return (piece ++ more, supply)
  | n + 1, supply, c :: cs => do
    let (more, supply) ← fillFrom whole n supply cs
    return (c :: more, supply)

/-- A text with its directives replaced by an argument, or by those of a tuple. All arguments must be used,
unless they could have been named. -/
def fill (s : String) (v : Value) : Attempt String := do
  let (cs, left) ← fillFrom v (s.length + 1) (Supply.of v) s.toList
  match left with
  | .items (_ :: _) => throw .wrongType
  | .single _ => if hasParts v then return String.ofList cs else throw .wrongType
  | _ => return String.ofList cs

end Directive

end AccessPolicy
