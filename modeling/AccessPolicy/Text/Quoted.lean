import AccessPolicy.Text.Class

/-!
Quoted text. A text is written between single quotes, or between double quotes when it holds a single
quote and no double one; the quote in use, the backslash and every unprintable character are escaped.
-/

namespace AccessPolicy.Text

/-- The last `width` hexadecimal digits of a number, in lower case. -/
def hexDigits (n : Nat) : Nat → List Char
  | 0 => []
  | width + 1 => hexDigits (n / 16) width ++ [Nat.digitChar (n % 16)]

/-- The quote that surrounds a text with the given characters. -/
def quoteFor (holds : Char → Bool) : Char :=
  if holds '\'' && !holds '"' then '"' else '\''

def quotedChar (quote c : Char) : List Char :=
  if c == quote || c == '\\' then ['\\', c]
  else if c == '\n' then ['\\', 'n']
  else if c == '\r' then ['\\', 'r']
  else if c == '\t' then ['\\', 't']
  else if isPrintable c then [c]
  else if c.toNat < 0x100 then '\\' :: 'x' :: hexDigits c.toNat 2
  else if c.toNat < 0x10000 then '\\' :: 'u' :: hexDigits c.toNat 4
  else '\\' :: 'U' :: hexDigits c.toNat 8

def quoted (s : String) : String :=
  let cs := s.toList
  let quote := quoteFor cs.contains
  String.ofList (quote :: cs.flatMap (quotedChar quote) ++ [quote])

/-- One byte of quoted bytes: only printable ASCII stands for itself. -/
def quotedByte (quote : Char) (b : UInt8) : List Char :=
  let c := Char.ofNat b.toNat
  if b.toNat < 128 then quotedChar quote c else '\\' :: 'x' :: hexDigits b.toNat 2

def quotedBytes (bytes : List UInt8) : String :=
  let quote := quoteFor fun c => bytes.any (·.toNat == c.toNat)
  String.ofList ('b' :: quote :: bytes.flatMap (quotedByte quote) ++ [quote])

/-- A text between single quotes, as it is. -/
def singleQuoted (s : String) : String :=
  "'" ++ s ++ "'"

/-- A list of texts, each quoted, between square brackets. -/
def quotedList (ss : List String) : String :=
  "[" ++ ", ".intercalate (ss.map quoted) ++ "]"

example : quoted "it's" = "\"it's\"" := by decide +kernel
example : quoted "a\\b\n" = "'a\\\\b\\n'" := by decide +kernel

end AccessPolicy.Text
