import AccessPolicy.Text.Class

/-!
Searching in texts: occurrences, replacement and splitting. A text is a list of characters here, and a
position is a number of characters from its start.
-/

namespace AccessPolicy.Text

/-- The rest of a text after a beginning, if it begins so. -/
def afterPrefix? (part : List Char) (s : List Char) : Option (List Char) :=
  if part.isPrefixOf s then some (s.drop part.length) else none

def find? (part : List Char) : List Char → Option Nat
  | [] => if part.isEmpty then some 0 else none
  | c :: cs => if part.isPrefixOf (c :: cs) then some 0 else (find? part cs).map (· + 1)

def findLast? (part : List Char) : List Char → Option Nat
  | [] => if part.isEmpty then some 0 else none
  | c :: cs =>
    match findLast? part cs with
    | some n => some (n + 1)
    | none => if part.isPrefixOf (c :: cs) then some 0 else none

/-- Splits at non-overlapping occurrences of a separator, from the left, at most `most` times. -/
def splitAt (separator : List Char) (most : Nat) (s : List Char) : List (List Char) :=
  match most with
  | 0 => [s]
  | most + 1 =>
    match find? separator s with
    | none => [s]
    | some n => s.take n :: splitAt separator most (s.drop (n + separator.length))

/-- Splits at runs of white space, at most `most` times; no part is empty. -/
def splitWords (most : Nat) (s : List Char) : List (List Char) :=
  match s.dropWhile isSpace with
  | [] => []
  | s =>
    match most with
    | 0 => [(s.reverse.dropWhile isSpace).reverse]
    | most + 1 => s.takeWhile (!isSpace ·) :: splitWords most (s.dropWhile (!isSpace ·))

/-- The number of non-overlapping occurrences of a part; an empty part occurs around every character. -/
def occurrences (part s : List Char) : Nat :=
  if part.isEmpty then s.length + 1 else (splitAt part s.length s).length - 1

/-- Replaces occurrences of a part, at most `most` of them. -/
def replace (part by' : List Char) (most : Nat) (s : List Char) : List Char :=
  if part.isEmpty then
    let insertions := (s.take most).flatMap fun c => by' ++ [c]
    if most ≤ s.length then insertions ++ s.drop most else insertions ++ by'
  else by'.intercalate (splitAt part most s)

def trimBoth (p : Char → Bool) (s : List Char) : List Char :=
  ((s.dropWhile p).reverse.dropWhile p).reverse

end AccessPolicy.Text
