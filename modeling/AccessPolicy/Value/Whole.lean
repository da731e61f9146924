import AccessPolicy.Value.Items
import AccessPolicy.Number.Integer
import AccessPolicy.Number.Binary

/-!
Values read as whole numbers: numbers lose their fraction, and texts must write a whole number. Bytes, and what
is kept as such, count as the text of their characters.
-/

namespace AccessPolicy

/-- The bytes that an integer is kept in, the lowest first. -/
def integerBytes (size : Nat) (n : Int) : List UInt8 :=
  (List.range size).map fun i => UInt8.ofNat (n / Int.pow 256 i % 256).toNat

/-- The number of bytes of an element of an array. -/
def elementSize (code : String) : Nat :=
  if code ∈ ["b", "B"] then 1 else if code ∈ ["h", "H"] then 2 else if code ∈ ["i", "I", "f", "u"] then 4 else 8

/-- The bytes that an element of an array is kept in. -/
def elementBytes (code : String) : Value → List UInt8
  | .int n => integerBytes (elementSize code) n
  | .float x =>
    integerBytes (elementSize code) (if code == "f" then x.toFloat32.toBits.toNat else x.toBits.toNat)
  | .text s => s.toList.flatMap fun c => integerBytes (elementSize code) c.toNat
  | _ => []

/-- The bytes that a value is kept in, if it is one that gives them out. -/
def Value.buffer? : Value → Option (List UInt8)
  | .bytes data | .byteArray data => some data
  | .array code items => some (items.flatMap (elementBytes code))
  | _ => none

/-- The text of bytes that may write a number; beyond ASCII there are none that do. -/
def numeralOf? (data : List UInt8) : Option String :=
  if data.all (· < 128) then some (String.ofList (data.map fun b => Char.ofNat b.toNat)) else none

def Value.whole (v : Value) : Attempt Int :=
  match v.index?, v with
  | some n, _ => .ok n
  | none, .float x =>
    match Number.truncate? x with
    | some n => .ok n
    | none => .error (if x.isNaN then .badValue else .overflow)
  | none, .text s => (Number.integer? s).elim (.error .badValue) .ok
  | none, v =>
    match v.buffer? with
    | some data => ((numeralOf? data).bind Number.integer?).elim (.error .badValue) .ok
    | none => .error .wrongType

end AccessPolicy
