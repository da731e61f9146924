import AccessPolicy.Number.Decimal
import AccessPolicy.Yaml.Cursor

/-!
What the form of a plain scalar says about its kind: numbers in several bases and in sixties, truth values,
days, and words for nothing. Any other scalar is a text.
-/

namespace AccessPolicy.Yaml

inductive ScalarKind where
  | text
  | null
  | bool
  | int
  | float
  | timestamp
  /-- The key whose value is merged into a mapping. -/
  | merge
  /-- The key of a default value. -/
  | value
  deriving DecidableEq, Repr

namespace Form

def trueWords : List String := ["yes", "true", "on"]
def falseWords : List String := ["no", "false", "off"]

/-- A word in lower case, capitalised, or in upper case. -/
def isWord (words : List String) (s : String) : Bool :=
  words.any fun w => s == w || s == w.capitalize || s == w.toUpper

def isNull (s : String) : Bool := s.isEmpty || s == "~" || isWord ["null"] s

def isRun (isDigit : Char → Bool) (cs : List Char) : Bool :=
  !cs.isEmpty && cs.all fun c => c == '_' || isDigit c

def isOctal (c : Char) : Bool := '0' ≤ c && c ≤ '7'

def isBinary (c : Char) : Bool := c == '0' || c == '1'

def unsigned : List Char → List Char
  | '-' :: cs | '+' :: cs => cs
  | cs => cs

/-- Two digits of which the first is below six, or one digit. -/
def isSixty : List Char → Bool
  | [c] => c.isDigit
  | [c, d] => '0' ≤ c && c ≤ '5' && d.isDigit
  | _ => false

/-- Digits in decimal notation, underscores after the first. -/
def isDecimal : List Char → Bool
  | [] => false
  | c :: cs => c.isDigit && cs.all fun d => d == '_' || d.isDigit

def isNatural (cs : List Char) : Bool :=
  match cs with
  | ['0'] => true
  | '0' :: 'b' :: ds => isRun isBinary ds
  | '0' :: 'x' :: ds => isRun (fun c => (Number.hexDigit? c).isSome) ds
  | '0' :: ds => isRun isOctal ds
  | cs =>
    match cs.splitOn ':' with
    | [whole] => isDecimal whole
    | whole :: sixties => isDecimal whole && sixties.all isSixty
    | [] => false

/-- Whether a text is an exponent with its sign, or empty. -/
def isExponent : List Char → Bool
  | [] => true
  | e :: s :: ds => (e == 'e' || e == 'E') && (s == '+' || s == '-') && !ds.isEmpty && ds.all Char.isDigit
  | _ => false

def isFraction (cs : List Char) : Bool :=
  let body := unsigned cs
  let whole := body.takeWhile (· != '.')
  match body.dropWhile (· != '.') with
  | '.' :: rest =>
    let places := rest.takeWhile fun c => c == '_' || c.isDigit
    let exponent := rest.drop places.length
    if whole.isEmpty then
      (cs.head? == some '.' && isDecimal places && isExponent exponent) || isWord ["inf"] (String.ofList rest) ||
        (cs.head? == some '.' && ["nan", "NaN", "NAN"].contains (String.ofList rest))
    else
      match whole.splitOn ':' with
      | [w] => isDecimal w && isExponent exponent
      | w :: sixties => isDecimal w && sixties.all isSixty && exponent.isEmpty
      | [] => false
  | _ => false

/-- Whether a text begins with digits, at least `least` and at most `most` of them, and what follows. -/
def takeDigits (least most : Nat) (cs : List Char) : Option (List Char) :=
  let ds := (cs.take most).takeWhile Char.isDigit
  if ds.length < least then none else some (cs.drop ds.length)

def takeChar (c : Char) (cs : List Char) : Option (List Char) :=
  if cs.head? == some c then some cs.tail else none

/-- A day, with a part of it or not. -/
def isTimestamp (cs : List Char) : Bool :=
  isDay || (do
    let cs ← takeDigits 4 4 cs
    let cs ← takeDigits 1 2 (← takeChar '-' cs)
    let cs ← takeDigits 1 2 (← takeChar '-' cs)
    let blanks := cs.takeWhile fun c => c == ' ' || c == '\t'
    let cs ← if blanks.isEmpty then takeChar 't' cs <|> takeChar 'T' cs else some (cs.drop blanks.length)
    let cs ← takeDigits 1 2 cs
    let cs ← takeDigits 2 2 (← takeChar ':' cs)
    let cs ← takeDigits 2 2 (← takeChar ':' cs)
    let cs := if cs.head? == some '.' then cs.tail.dropWhile Char.isDigit else cs
    let zone := cs.dropWhile fun c => c == ' ' || c == '\t'
    match zone with
    | [] => if cs.isEmpty then some () else none
    | ['Z'] => some ()
    | s :: zone =>
      if s != '+' && s != '-' then none
      let rest ← takeDigits 1 2 zone
      if rest.isEmpty then some ()
      else if (← takeDigits 2 2 (← takeChar ':' rest)).isEmpty then some () else none).isSome
where
  isDay : Bool :=
    match cs with
    | [a, b, c, d, '-', e, f, '-', g, h] => [a, b, c, d, e, f, g, h].all Char.isDigit
    | _ => false

def kind (s : String) : ScalarKind :=
  let cs := s.toList
  if isNull s then .null
  else if isWord (trueWords ++ falseWords) s then .bool
  else if isFraction cs then .float
  else if isNatural (unsigned cs) then .int
  else if s == "<<" then .merge
  else if isTimestamp cs then .timestamp
  else if s == "=" then .value
  else .text

def bool (s : String) : Result Bool :=
  if trueWords.contains s.toLower then .ok true
  else if falseWords.contains s.toLower then .ok false
  else .error .unknownWord

/-- Digits in a base, of which there must be some. -/
def digits (base : Nat) (cs : List Char) : Result Nat :=
  match cs, cs.mapM (Number.digitBelow? base) with
  | _ :: _, some ds => .ok (Number.ofDigits base ds)
  | _, _ => .error .badValue

def sixties (cs : List Char) : Result Nat := do
  (cs.splitOn ':').foldlM (fun n part => do return n * 60 + (← digits 10 part)) 0

def int (s : String) : Result Int := do
  let cs := s.toList.filter (· != '_')
  let n ← match unsigned cs with
    | ['0'] => pure 0
    | '0' :: 'b' :: ds => digits 2 ds
    | '0' :: 'x' :: ds => digits 16 ds
    | '0' :: ds => digits 8 ds
    | cs => if cs.contains ':' then sixties cs else digits 10 cs
  return if cs.head? == some '-' then -(n : Int) else n

def float (s : String) : Result Float := do
  let cs := (s.toLower.toList.filter (· != '_'))
  let body := unsigned cs
  let x : Float ←
    if body == ".inf".toList then pure (1.0 / 0.0)
    else if body == ".nan".toList then pure (0.0 / 0.0)
    else if body.contains ':' then do
      let n ← sixties (body.takeWhile (· != '.'))
      let places := (body.dropWhile (· != '.')).drop 1
      let ds ← if places.isEmpty then pure [] else
        match places.mapM (Number.digitBelow? 10) with
        | some ds => pure ds
        | none => throw .badValue
      pure (Float.ofNat n + Number.ofDecimal ds (-(ds.length : Int)))
    else
      match Number.float? (String.ofList body) with
      | some x => pure x
      | none => throw .badValue
  return if cs.head? == some '-' then -x else x

end Form

end AccessPolicy.Yaml
