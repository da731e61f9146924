/-!
A place in the text of a YAML document.
-/

namespace AccessPolicy

/-- Why a document cannot be read: its characters, its tokens, their order, a reference, a value of a kind
that is not known, or the text of a value. -/
inductive YamlFault where
  | reader
  | scanner
  | parser
  | composer
  | constructor
  | badValue
  | unknownWord
  deriving DecidableEq, Repr

namespace Yaml

abbrev Result (α : Type) := Except YamlFault α

/-- What is left of a text, and where in the text that is. -/
structure Cursor where
  rest : List Char
  index : Nat := 0
  line : Nat := 0
  column : Nat := 0
  deriving DecidableEq, Repr

def isBreak (c : Char) : Bool := c == '\n' || c == '\x85' || c == '\u2028' || c == '\u2029'

/-- Whether a character that may be missing is a line break, or missing. -/
def endsLine (c : Option Char) : Bool := c.all isBreak

/-- Whether a character that may be missing is a blank or a line break, or missing. -/
def isGap (c : Option Char) : Bool := c.all fun c => c == ' ' || c == '\t' || isBreak c

namespace Cursor

def peek (c : Cursor) (distance : Nat := 0) : Option Char := (c.rest.drop distance).head?

def isAt (c : Cursor) (wanted : Char) : Bool := c.peek == some wanted

def next (c : Cursor) : Cursor :=
  match c.rest with
  | [] => c
  | d :: rest =>
    if isBreak d then ⟨rest, c.index + 1, c.line + 1, 0⟩
    else ⟨rest, c.index + 1, c.line, if d == '\ufeff' then c.column else c.column + 1⟩

def forward (c : Cursor) : Nat → Cursor
  | 0 => c
  | n + 1 => c.next.forward n

/-- The characters of a class, and the place after them. -/
def takeWhile (c : Cursor) (p : Char → Bool) : List Char × Cursor :=
  let cs := c.rest.takeWhile p
  (cs, c.forward cs.length)

def skipWhile (c : Cursor) (p : Char → Bool) : Cursor := (c.takeWhile p).2

/-- The line break at a place, as the text of a scalar has it, and the place after it. -/
def takeBreak (c : Cursor) : List Char × Cursor :=
  match c.peek with
  | some d => if isBreak d then ([if d == '\x85' then '\n' else d], c.next) else ([], c)
  | none => ([], c)

/-- Whether a line begins here that parts documents: three marks of a kind, and a gap. -/
def isSeparator (c : Cursor) (mark : Char) : Bool :=
  c.peek == some mark && c.peek 1 == some mark && c.peek 2 == some mark && isGap (c.peek 3)

def partsDocuments (c : Cursor) : Bool := c.isSeparator '-' || c.isSeparator '.'

theorem next_rest_length (c : Cursor) : c.next.rest.length = c.rest.length - 1 := by
  cases h : c.rest with
  | nil => simp [next, h]
  | cons d rest => by_cases hb : isBreak d <;> simp [next, h, hb]

end Cursor

end Yaml

end AccessPolicy
