/-!
What can go wrong when values are combined. Only the kind of such a fault is ever told, never a text.
-/

namespace AccessPolicy

inductive OperandFault where
  /-- An operand of a type that the operation is not defined for, or a call with the wrong arguments. -/
  | wrongType
  /-- An operand of the right type with a value that is not accepted. -/
  | badValue
  | missingKey
  | outOfRange
  | divisionByZero
  | overflow
  /-- A text with a character that it cannot be sent with. -/
  | unencodable
  | noSuchAttribute
  deriving DecidableEq, Repr

abbrev Attempt (α : Type) := Except OperandFault α

end AccessPolicy
