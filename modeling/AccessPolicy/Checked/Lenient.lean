import AccessPolicy.Checked
import AccessPolicy.Number.Integer
import AccessPolicy.Text.Class
import AccessPolicy.Text.Search
import AccessPolicy.Value.Whole

/-!
Lenient reading of data: whole numbers and truth values may be written as texts or as other numbers.
-/

namespace AccessPolicy.Checked

/-- A number without its leading zeros, one of which stays where no other digit would. Underscores among
leading zeros go with them. -/
def dropZeros? : List Char → Option (List Char)
  | '0' :: cs => go '0' cs
  | c :: cs => if ('1' ≤ c && c ≤ '9') || c == '-' then some (c :: cs) else none
  | [] => none
where
  /-- The rest of a number after its leading zeros, the last character of which was `last`. -/
  go (last : Char) : List Char → Option (List Char)
    | [] => some [last]
    | c :: cs =>
      if c == '0' || c == '_' then go c cs
      else if '1' ≤ c && c ≤ '9' then some (c :: cs)
      else if c == '.' then some (last :: c :: cs)
      else none

/-- A number without a fraction of zeros only. -/
def dropFraction (cs : List Char) : List Char :=
  let fraction := (cs.dropWhile (· != '.')).drop 1
  if fraction.all (· == '0') then cs.takeWhile (· != '.') else cs

/-- A number without its underscores, each of which must follow a character and be followed by another one. -/
def dropUnderscores? (cs : List Char) : Option (List Char) :=
  if cs.getLast? == some '_' || (Text.find? ['_', '_'] cs).isSome then none else some (cs.filter (· != '_'))

/-- The number that digits write, after an optional minus sign. -/
def signedDigits? (cs : List Char) : Option Int :=
  let digits (ds : List Char) : Option Int :=
    if ds.isEmpty || !ds.all Char.isDigit then none
    else some (Number.ofDigits 10 (ds.map fun c => c.toNat - '0'.toNat))
  match cs with
  | '-' :: ds => (digits ds).map (- ·)
  | ds => digits ds

def wholeNumber? (s : String) : Option Int := do
  let cs := Text.trimBoth Number.isMargin s.toList
  let cs ← match cs with
    | '+' :: '-' :: _ => none
    | '+' :: cs => some cs
    | cs => some cs
  signedDigits? (← dropUnderscores? (dropFraction (← dropZeros? cs)))

/-- A whole number, leniently. -/
def integer : Value → Checked Int
  | .int n => .ok n
  | .bool b => .ok (if b then 1 else 0)
  | .text s =>
    if Number.maxDigits < (Text.trimBoth Number.isMargin s.toList).length then fault .tooLarge
    else (wholeNumber? s).elim (fault .notIntegerText) .ok
  | .float x =>
    if x.isNaN || x.isInf then fault .notFinite
    else
      match Number.truncate? x with
      | some n =>
        if !(Value.float x).equal (.int n) then fault .fractional
        else if -Int.pow 2 63 < n && n < Int.pow 2 63 then .ok n
        else fault .tooLarge
      | none => fault .notInteger
  | _ => fault .notInteger

/-- The words for true and for false, in any case. -/
def trueWords : List String := ["1", "on", "t", "y", "yes", "true"]
def falseWords : List String := ["0", "off", "f", "n", "no", "false"]

def ofNumber (n : Int) : Checked Bool :=
  if n = 0 then .ok false else if n = 1 then .ok true else fault .notBooleanText

/-- A truth value, leniently. -/
def boolean : Value → Checked Bool
  | .bool b => .ok b
  | .int n => ofNumber n
  | .text s =>
    if trueWords.contains s.toLower then .ok true
    else if falseWords.contains s.toLower then .ok false
    else fault .notBooleanText
  | .float x =>
    match integer (.float x) with
    | .ok n => ofNumber n
    | .error _ => fault .notBoolean
  | _ => fault .notBoolean

def boundedText (low high : Nat) (v : Value) : Checked String := do
  let s ← text v
  if s.length < low then fault .tooShort
  else if high < s.length then fault .tooLong
  else return s

end AccessPolicy.Checked
