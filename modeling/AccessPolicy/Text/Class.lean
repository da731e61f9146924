import AccessPolicy.Text.Printable
import AccessPolicy.Text.Identifier
import AccessPolicy.Text.Digit

/-!
Character classes. A class is given by the increasing list of code points at which membership
changes, so a code point belongs to it iff an odd number of boundaries is at most that code point.
-/

namespace AccessPolicy.Text

/-- Membership in the class with the given boundaries. -/
def inBounds (bounds : List Nat) (c : Nat) : Bool :=
  (bounds.takeWhile (· ≤ c)).length % 2 == 1

/-- White space: the characters that `strip` removes and that separate nothing. -/
def isSpace (c : Char) : Bool :=
  let n := c.toNat
  (9 ≤ n && n ≤ 13) || (28 ≤ n && n ≤ 32) || n == 0x85 || n == 0xA0 || n == 0x1680 ||
    (0x2000 ≤ n && n ≤ 0x200A) || n == 0x2028 || n == 0x2029 || n == 0x202F || n == 0x205F || n == 0x3000

/-- Characters that stand for themselves inside quoted text. -/
def isPrintable (c : Char) : Bool :=
  if c.toNat < 128 then 32 ≤ c.toNat && c.toNat < 127 else inBounds printableBounds c.toNat

/-- Characters that may begin an identifier. -/
def isIdentifierStart (c : Char) : Bool :=
  if c.toNat < 128 then c.isAlpha || c == '_' else inBounds identifierStartBounds c.toNat

/-- Characters that may continue an identifier. -/
def isIdentifierPart (c : Char) : Bool :=
  if c.toNat < 128 then c.isAlphanum || c == '_' else inBounds identifierContinueBounds c.toNat

/-- Identifiers: a starting character followed by continuing ones. Keywords count. -/
def isIdentifier (s : String) : Bool :=
  match s.toList with
  | [] => false
  | c :: cs => isIdentifierStart c && cs.all isIdentifierPart

def decimalDigit? (c : Char) : Option Nat :=
  if c.toNat < 128 then
    if c.isDigit then some (c.toNat - 48) else none
  else
    (decimalZeros.find? fun zeroPoint => zeroPoint ≤ c.toNat && c.toNat ≤ zeroPoint + 9).map (c.toNat - ·)

/-- Characters with a digit value, superscripts and circled digits included. -/
def isDigitLike (c : Char) : Bool :=
  (decimalDigit? c).isSome || inBounds otherDigitBounds c.toNat

/-- A text without its leading and trailing white space. -/
def strip (s : String) : String :=
  String.ofList ((s.toList.dropWhile isSpace).reverse.dropWhile isSpace).reverse

end AccessPolicy.Text
