import AccessPolicy.Text.Class

/-!
Regular expressions, as far as patterns for paths need them: sets of characters, how often they repeat, named
groups of them, and the ends of a text. A character that means something stands for itself after a backslash.
An expression with anything else in it is not read, and nothing matches it.
-/

namespace AccessPolicy.Text.Regex

/-- The characters that an escaped text has a backslash before. -/
def escapedChars : List Char :=
  ['(', ')', '[', ']', '\x7b', '\x7d', '?', '*', '+', '-', '|', '^', '$', '\\', '.', '&', '~', '#', ' ',
   '\t', '\n', '\r', '\x0b', '\x0c']

def escapeChar (c : Char) : List Char := if escapedChars.contains c then ['\\', c] else [c]

inductive CharSet where
  /-- Every character but a line break. -/
  | any
  | only (c : Char)
  | oneOf (cs : List Char)
  | noneOf (cs : List Char)
  deriving DecidableEq, Repr

def CharSet.has : CharSet → Char → Bool
  | .any, c => c != '\n'
  | .only d, c => d == c
  | .oneOf cs, c => cs.contains c
  | .noneOf cs, c => !cs.contains c

inductive Item where
  | start
  | finish
  /-- From `least` to `most` characters of a set, in a named group if it has a name. -/
  | run (name : Option String) (set : CharSet) (least : Nat) (most : Option Nat)
  deriving DecidableEq, Repr

/-- The characters that mean something where a character may stand. -/
def isSpecial (c : Char) : Bool :=
  c ∈ ['.', '^', '$', '*', '+', '?', '\x7b', '\x7d', '[', ']', '\\', '|', '(', ')']

/-- The characters that may mean something among the members of a set. -/
def isSpecialMember (c : Char) : Bool := c ∈ ['[', '\\', '-', '^', '&', '~', '|']

/-- The members of a set up to its closing bracket, and the rest. -/
def members? (cs : List Char) : Option (List Char × List Char) :=
  match cs.takeWhile (· != ']'), cs.dropWhile (· != ']') with
  | m :: ms, _ :: rest => if (m :: ms).any isSpecialMember then none else some (m :: ms, rest)
  | _, _ => none

def charSet? : List Char → Option (CharSet × List Char)
  | '.' :: cs => some (.any, cs)
  | '[' :: '^' :: cs => (members? cs).map fun (ms, rest) => (.noneOf ms, rest)
  | '[' :: cs => (members? cs).map fun (ms, rest) => (.oneOf ms, rest)
  | '\\' :: c :: cs => if c.isAlphanum then none else some (.only c, cs)
  | c :: cs => if isSpecial c then none else some (.only c, cs)
  | [] => none

/-- How often what stands before repeats. -/
def repetition : List Char → (Nat × Option Nat) × List Char
  | '*' :: cs => ((0, none), cs)
  | '+' :: cs => ((1, none), cs)
  | '?' :: cs => ((0, some 1), cs)
  | cs => ((1, some 1), cs)

def run? (name : Option String) (cs : List Char) : Option (Item × List Char) := do
  let (set, cs) ← charSet? cs
  let ((least, most), cs) := repetition cs
  return (.run name set least most, cs)

/-- The rest of a named group, after the sign that opens its name. -/
def group? (cs : List Char) : Option (Item × List Char) :=
  let name := String.ofList (cs.takeWhile (· != '>'))
  match cs.dropWhile (· != '>') with
  | _ :: cs =>
    match run? (some name) cs with
    | some (item, ')' :: rest) => if isIdentifier name then some (item, rest) else none
    | _ => none
  | [] => none

def item? : List Char → Option (Item × List Char)
  | '^' :: cs => some (.start, cs)
  | '$' :: cs => some (.finish, cs)
  | '(' :: '?' :: 'P' :: '<' :: cs => group? cs
  | cs => run? none cs

/-- The items of an expression; every item takes a character, so the length is fuel enough. -/
def items? (cs : List Char) : Option (List Item) := go cs.length cs
where
  go : Nat → List Char → Option (List Item)
    | _, [] => some []
    | 0, _ => none
    | n + 1, cs => do
      let (item, rest) ← item? cs
      return item :: (← go n rest)

def Item.name? : Item → Option String
  | .run name .. => name
  | _ => none

/-- Reads an expression, whose groups must have different names. -/
def read (s : String) : Option (List Item) := do
  let items ← items? s.toList
  if (items.filterMap Item.name?).Nodup then some items else none

/-- Whether a text ends: nothing follows, or one line break. -/
def isEnd : List Char → Bool
  | [] | ['\n'] => true
  | _ => false

/-- The groups of a text that begins with what items describe. Where there is a choice, earlier items take as
much as they can. -/
def groups? (atStart : Bool) : List Item → List Char → Option (List (String × String))
  | [], _ => some []
  | .start :: items, cs => if atStart then groups? atStart items cs else none
  | .finish :: items, cs => if isEnd cs then groups? atStart items cs else none
  | .run name set least most :: items, cs =>
    let longest := cs.takeWhile set.has
    let longest := most.elim longest longest.take
    (List.range (longest.length + 1 - least)).reverse.findSome? fun i =>
      let n := i + least
      (groups? (atStart && n == 0) items (cs.drop n)).map fun gs =>
        name.elim gs fun name => (name, String.ofList (longest.take n)) :: gs

/-- The named groups of a text that begins with a match of an expression. -/
def match? (expression text : String) : Option (List (String × String)) := do
  groups? true (← read expression) text.toList

end AccessPolicy.Text.Regex
