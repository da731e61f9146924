import AccessPolicy.Text.Search

/-!
Integers written as text. White space around the number is ignored, one sign may lead, single
underscores may separate digits, and the digits may be those of any script, up to 4300 of them.
-/

namespace AccessPolicy.Number

/-- White space around a number; separators of records are none. -/
def isMargin (c : Char) : Bool := Text.isSpace c && !(28 ≤ c.toNat && c.toNat ≤ 31)

/-- The most digits that a written integer may have. -/
def maxDigits : Nat := 4300

/-- The digits of a number in which single underscores stand only between two digits. -/
def separatedDigits? (digit? : Char → Option Nat) : List Char → Option (List Nat)
  | [] => none
  | c :: cs =>
    match digit? c with
    | none => none
    | some d =>
      match cs with
      | [] => some [d]
      | '_' :: rest => (separatedDigits? digit? rest).map (d :: ·)
      | next :: rest => (separatedDigits? digit? (next :: rest)).map (d :: ·)

def ofDigits (base : Nat) (ds : List Nat) : Nat :=
  ds.foldl (fun n d => n * base + d) 0

/-- The number that decimal digits write, of which there may only be so many. -/
def natural? (cs : List Char) : Option Nat := do
  let ds ← separatedDigits? Text.decimalDigit? cs
  if ds.length ≤ maxDigits then some (ofDigits 10 ds) else none

def integer? (s : String) : Option Int :=
  match Text.trimBoth isMargin s.toList with
  | '-' :: cs => (natural? cs).map fun n : Nat => -(n : Int)
  | '+' :: cs => (natural? cs).map fun n : Nat => (n : Int)
  | cs => (natural? cs).map fun n : Nat => (n : Int)

def hexDigit? (c : Char) : Option Nat :=
  if c.isDigit then some (c.toNat - 48)
  else if 'a' ≤ c ∧ c ≤ 'f' then some (c.toNat - 87)
  else if 'A' ≤ c ∧ c ≤ 'F' then some (c.toNat - 55)
  else none

def digitBelow? (base : Nat) (c : Char) : Option Nat :=
  match hexDigit? c with
  | some d => if d < base then some d else none
  | none => none

/-- The number that hexadecimal digits write; other characters count as zero. -/
def ofHex (s : String) : Nat := ofDigits 16 (s.toList.map fun c => (hexDigit? c).getD 0)

/-- The bytes that pairs of hexadecimal digits write. -/
def hexBytes (s : String) : List UInt8 := go s.toList
where
  go : List Char → List UInt8
    | a :: b :: cs => UInt8.ofNat (16 * (hexDigit? a).getD 0 + (hexDigit? b).getD 0) :: go cs
    | _ => []

/-- A number in hexadecimal digits, with zeros in front up to a width. -/
def hex (width n : Nat) : String :=
  let ds := Nat.toDigits 16 n
  String.ofList (List.replicate (width - ds.length) '0' ++ ds)

end AccessPolicy.Number
