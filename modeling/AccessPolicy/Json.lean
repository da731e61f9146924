import AccessPolicy.Number.Decimal
import AccessPolicy.Number.Shortest
import AccessPolicy.Value

/-!
JSON documents. The fields of an object keep their order; of fields with the same name the last one counts,
at the place of the first. Numbers without a fraction and an exponent are integers of any size.
-/

namespace AccessPolicy

inductive Json where
  | null
  | bool (b : Bool)
  | int (n : Int)
  | float (x : Float)
  | text (s : String)
  | list (items : List Json)
  | object (fields : List (String × Json))

instance : Inhabited Json := ⟨.null⟩

namespace Json

def get? (j : Json) (name : String) : Option Json :=
  match j with
  | .object fields => fields.lookup name
  | _ => none

/-- The field of an object, where a field that is not there counts as null. -/
def fld (j : Json) (name : String) : Json := (j.get? name).getD .null

def has (j : Json) (name : String) : Bool := (j.get? name).isSome

/-- The items of a list; other documents have none. -/
def items : Json → List Json
  | .list js => js
  | _ => []

/-- The fields of an object; other documents have none. -/
def fields : Json → List (String × Json)
  | .object fs => fs
  | _ => []

def str? : Json → Option String
  | .text s => some s
  | _ => none

/-- The text of a document; other documents than texts have the empty text. -/
def str (j : Json) : String := j.str?.getD ""

/-- The number of a document; other documents than integers have the number zero. -/
def num : Json → Int
  | .int n => n
  | _ => 0

def isTrue : Json → Bool
  | .bool b => b
  | _ => false

def isNull : Json → Bool
  | .null => true
  | _ => false

def strs (j : Json) : List String := j.items.map str

/-- Sets a field; one that is there already keeps its place. -/
def setField (name : String) (j : Json) : List (String × Json) → List (String × Json)
  | [] => [(name, j)]
  | (n, k) :: fields => if n == name then (n, j) :: fields else (n, k) :: setField name j fields

/-- Joins the field lists of an object, where later fields replace earlier ones. -/
def joinFields (fields : List (String × Json)) : List (String × Json) :=
  fields.foldl (fun acc (n, j) => setField n j acc) []

def isBlank (c : Char) : Bool := c == ' ' || c == '\t' || c == '\n' || c == '\r'

def skipBlank (cs : List Char) : List Char := cs.dropWhile isBlank

def unit? : List Char → Option (Nat × List Char)
  | a :: b :: c :: d :: cs => do
    let ds ← [a, b, c, d].mapM (Number.digitBelow? 16)
    return (Number.ofDigits 16 ds, cs)
  | _ => none

/-- The character that one or two units write; a unit that is half of a pair stands for no character. -/
def ofUnits (high : Nat) (cs : List Char) : Char × List Char :=
  if 0xD800 ≤ high && high < 0xDC00 then
    match cs with
    | '\\' :: 'u' :: rest =>
      match unit? rest with
      | some (low, rest) =>
        if 0xDC00 ≤ low && low < 0xE000 then
          (Char.ofNat (0x10000 + (high - 0xD800) * 1024 + (low - 0xDC00)), rest)
        else ('\ufffd', cs)
      | none => ('\ufffd', cs)
    | _ => ('\ufffd', cs)
  else if 0xDC00 ≤ high && high < 0xE000 then ('\ufffd', cs)
  else (Char.ofNat high, cs)

def escape? : Char → Option Char
  | '"' => some '"'
  | '\\' => some '\\'
  | '/' => some '/'
  | 'b' => some '\x08'
  | 'f' => some '\x0c'
  | 'n' => some '\n'
  | 'r' => some '\r'
  | 't' => some '\t'
  | _ => none

/-- The rest of a text after its opening quote, where `start` characters were left; every step takes a
character. A fault is told by the number of characters that are left at it. -/
def takeText (start : Nat) : Nat → List Char → List Char → Except Nat (String × List Char)
  | 0, _, _ => .error start
  | n + 1, acc, cs =>
    match cs with
    | '"' :: rest => .ok (String.ofList acc.reverse, rest)
    | '\\' :: c :: rest =>
      match escape? c with
      | some e => takeText start n (e :: acc) rest
      | none =>
        if c == 'u' then
          match unit? rest with
          | some (high, rest) =>
            let (c, rest) := ofUnits high rest
            takeText start n (c :: acc) rest
          | none => .error (if rest.length ≤ 4 then rest.length else rest.length + 1)
        else .error cs.length
    | ['\\'] | [] => .error start
    | c :: rest => if c < ' ' then .error cs.length else takeText start n (c :: acc) rest

def takeNumber? (cs : List Char) : Option (Json × List Char) := do
  let (negative, cs) := match cs with
    | '-' :: rest => (true, rest)
    | cs => (false, cs)
  let whole := cs.takeWhile Char.isDigit
  let rest := cs.drop whole.length
  if whole.isEmpty then none
  let (whole, rest) := match whole with
    | '0' :: more => (['0'], more ++ rest)
    | whole => (whole, rest)
  let (fraction, rest) := match rest with
    | '.' :: r =>
      let ds := r.takeWhile Char.isDigit
      if ds.isEmpty then (none, rest) else (some ds, r.drop ds.length)
    | r => (none, r)
  let (exponent, rest) : Option Int × List Char := match rest with
    | e :: r =>
      if e == 'e' || e == 'E' then
        let (sign, r') : Int × List Char := match r with
          | '-' :: r => (-1, r)
          | '+' :: r => (1, r)
          | r => (1, r)
        let ds := r'.takeWhile Char.isDigit
        if ds.isEmpty then (none, rest)
        else (some (sign * (String.ofList ds).toInt?.getD 0), r'.drop ds.length)
      else (none, rest)
    | [] => (none, rest)
  let digits := (whole ++ fraction.getD []).map fun c => c.toNat - '0'.toNat
  let n := Number.ofDigits 10 digits
  match fraction, exponent with
  | none, none => return (.int (if negative then -n else n), rest)
  | f, e =>
    let x := Number.ofDecimal digits (e.getD 0 - (f.getD []).length)
    return (.float (if negative then -x else x), rest)

mutual

/-- A document at the start of a text, nested at most as deep as the fuel. -/
def take (fuel : Nat) (cs : List Char) : Except Nat (Json × List Char) :=
  match fuel with
  | 0 => .error cs.length
  | n + 1 =>
    match skipBlank cs with
    | 'n' :: 'u' :: 'l' :: 'l' :: rest => .ok (.null, rest)
    | 't' :: 'r' :: 'u' :: 'e' :: rest => .ok (.bool true, rest)
    | 'f' :: 'a' :: 'l' :: 's' :: 'e' :: rest => .ok (.bool false, rest)
    | 'N' :: 'a' :: 'N' :: rest => .ok (.float (0.0 / 0.0), rest)
    | 'I' :: 'n' :: 'f' :: 'i' :: 'n' :: 'i' :: 't' :: 'y' :: rest => .ok (.float (1.0 / 0.0), rest)
    | '-' :: 'I' :: 'n' :: 'f' :: 'i' :: 'n' :: 'i' :: 't' :: 'y' :: rest => .ok (.float (-1.0 / 0.0), rest)
    | '"' :: rest => do
      let (s, rest) ← takeText (rest.length + 1) (rest.length + 1) [] rest
      return (.text s, rest)
    | '[' :: rest =>
      match skipBlank rest with
      | ']' :: rest => .ok (.list [], rest)
      | rest => takeItems n [] rest
    | '\x7b' :: rest =>
      match skipBlank rest with
      | '\x7d' :: rest => .ok (.object [], rest)
      | rest => takeFields n [] rest
    | cs => (takeNumber? cs).elim (.error cs.length) .ok

def takeItems (fuel : Nat) (acc : List Json) (cs : List Char) : Except Nat (Json × List Char) :=
  match fuel with
  | 0 => .error cs.length
  | n + 1 => do
    let (j, rest) ← take n cs
    match skipBlank rest with
    | ',' :: rest => takeItems n (j :: acc) rest
    | ']' :: rest => .ok (.list (j :: acc).reverse, rest)
    | rest => .error rest.length

/-- The fields of an object after its opening brace. -/
def takeFields (fuel : Nat) (acc : List (String × Json)) (cs : List Char) : Except Nat (Json × List Char) :=
  match fuel with
  | 0 => .error cs.length
  | n + 1 =>
    match skipBlank cs with
    | '"' :: rest => do
      let (name, rest) ← takeText (rest.length + 1) (rest.length + 1) [] rest
      match skipBlank rest with
      | ':' :: rest =>
        let (j, rest) ← take n rest
        match skipBlank rest with
        | ',' :: rest => takeFields n ((name, j) :: acc) rest
        | '\x7d' :: rest => .ok (.object (joinFields ((name, j) :: acc).reverse), rest)
        | rest => .error rest.length
      | rest => .error rest.length
    | cs => .error cs.length

end

/-- The document that a text writes, or the position of the first fault. -/
def read (s : String) : Except Nat Json :=
  let cs := s.toList
  match take (cs.length + 1) cs with
  | .error left => .error (cs.length - left)
  | .ok (j, rest) =>
    match skipBlank rest with
    | [] => .ok j
    | rest => .error (cs.length - rest.length)

mutual

def value : Json → Value
  | .null => .null
  | .bool b => .bool b
  | .int n => .int n
  | .float x => .float x
  | .text s => .text s
  | .list items => .list (values items)
  | .object fields => .dict (entries fields)
termination_by structural j => j

def values : List Json → List Value
  | [] => []
  | j :: js => value j :: values js
termination_by structural js => js

def entries : List (String × Json) → List (Value × Value)
  | [] => []
  | (n, j) :: fields => (.text n, value j) :: entries fields
termination_by structural fields => fields

end

def quoteText (s : String) : String :=
  let escape (c : Char) : String :=
    match c with
    | '"' => "\\\""
    | '\\' => "\\\\"
    | '\n' => "\\n"
    | '\r' => "\\r"
    | '\t' => "\\t"
    | '\x08' => "\\b"
    | '\x0c' => "\\f"
    | c =>
      if c < ' ' then
        "\\u" ++ Number.hex 4 c.toNat
      else c.toString
  "\"" ++ String.join (s.toList.map escape) ++ "\""

mutual

def write : Json → String
  | .null => "null"
  | .bool b => if b then "true" else "false"
  | .int n => toString n
  | .float x => Number.floatText x
  | .text s => quoteText s
  | .list items => "[" ++ ",".intercalate (writeItems items) ++ "]"
  | .object fields => "\x7b" ++ ",".intercalate (writeFields fields) ++ "\x7d"
termination_by structural j => j

def writeItems : List Json → List String
  | [] => []
  | j :: js => write j :: writeItems js
termination_by structural js => js

def writeFields : List (String × Json) → List String
  | [] => []
  | (n, j) :: fields => (quoteText n ++ ":" ++ write j) :: writeFields fields
termination_by structural fields => fields

end

end Json

end AccessPolicy
