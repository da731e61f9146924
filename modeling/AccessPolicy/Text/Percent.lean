import AccessPolicy.Number.Integer
import AccessPolicy.Text.Utf8

/-!
Percent encoding. `%` and two hexadecimal digits stand for a byte; adjacent bytes, those of ASCII characters
included, are read as UTF-8. Any other `%` stands for itself.
-/

namespace AccessPolicy.Text.Percent

/-- The bytes and the wide characters of an encoded text. -/
def units : List Char → List (Nat ⊕ Char)
  | [] => []
  | '%' :: a :: b :: cs =>
    match Number.hexDigit? a, Number.hexDigit? b with
    | some m, some n => .inl (16 * m + n) :: units cs
    | _, _ => .inl '%'.toNat :: units (a :: b :: cs)
  | c :: cs => (if c.toNat < 128 then .inl c.toNat else .inr c) :: units cs

/-- Reads units after a character that is still open. -/
def ofUnits (pending : Option Utf8.Pending) : List (Nat ⊕ Char) → List Char
  | [] => Utf8.leftOver pending
  | .inl b :: us =>
    let (cs, next) := Utf8.step pending b
    cs ++ ofUnits next us
  | .inr c :: us => Utf8.leftOver pending ++ c :: ofUnits none us

def decode (s : String) : String := String.ofList (ofUnits none (units s.toList))

end AccessPolicy.Text.Percent
