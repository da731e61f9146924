/-!
UTF-8 read byte by byte. The longest run of bytes that begins a character but does not end it is read as one
replacement character, and so is a byte that begins none.
-/

namespace AccessPolicy.Text.Utf8

/-- A character that is not complete: how many bytes it still needs, the bounds of the next one, and the bits
so far. -/
structure Pending where
  owed : Nat
  low : Nat
  high : Nat
  bits : Nat
  deriving DecidableEq, Repr

def replacement : Char := '\ufffd'

def start (b : Nat) : List Char × Option Pending :=
  if b < 0x80 then ([Char.ofNat b], none)
  else if 0xC2 ≤ b && b < 0xE0 then ([], some ⟨1, 0x80, 0xBF, b - 0xC0⟩)
  else if 0xE0 ≤ b && b < 0xF0 then
    ([], some ⟨2, if b = 0xE0 then 0xA0 else 0x80, if b = 0xED then 0x9F else 0xBF, b - 0xE0⟩)
  else if 0xF0 ≤ b && b < 0xF5 then
    ([], some ⟨3, if b = 0xF0 then 0x90 else 0x80, if b = 0xF4 then 0x8F else 0xBF, b - 0xF0⟩)
  else ([replacement], none)

/-- The characters that a byte completes, and the one that it leaves open. -/
def step : Option Pending → Nat → List Char × Option Pending
  | none, b => start b
  | some p, b =>
    if p.low ≤ b && b ≤ p.high then
      let bits := p.bits * 64 + (b - 0x80)
      if p.owed ≤ 1 then ([Char.ofNat bits], none) else ([], some ⟨p.owed - 1, 0x80, 0xBF, bits⟩)
    else
      let (cs, next) := start b
      (replacement :: cs, next)

/-- What a character that is never completed reads as. -/
def leftOver (p : Option Pending) : List Char := if p.isSome then [replacement] else []

theorem start_ascii {b : Nat} (h : b < 0x80) : start b = ([Char.ofNat b], none) := by
  simp [start, h]

/-- The bytes of a text as characters, one for each byte. -/
def bytewise (s : String) : String :=
  String.ofList (s.toUTF8.toList.map fun b => Char.ofNat b.toNat)

end AccessPolicy.Text.Utf8
