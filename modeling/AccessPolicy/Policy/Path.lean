import AccessPolicy.Handler
import AccessPolicy.Text.Regex

/-!
Path templates: text with variables in braces. A variable stands for one or more characters of a segment of
a path. One line break may follow the end of a path. Rules for requests match a template as a regular
expression.
-/

namespace AccessPolicy

inductive PathPart where
  | char (c : Char)
  | variable (name : String)
  deriving DecidableEq, Repr

abbrev PathTemplate := List PathPart

namespace PathTemplate

/-- The characters that a variable's name may not contain. -/
def endsName (c : Char) : Bool := c == '/' || c == '\x7b' || c == '\x7d'

/-- A variable at the start of a text, and the rest. -/
def takeVariable? : List Char → Option (String × List Char)
  | '\x7b' :: cs =>
    match cs.takeWhile fun c => !endsName c, cs.dropWhile fun c => !endsName c with
    | [], _ => none
    | name, '\x7d' :: rest => some (Text.strip (String.ofList name), rest)
    | _, _ => none
  | _ => none

/-- The parts of a text; every part takes a character, so the length is fuel enough. -/
def parts (s : String) : PathTemplate := go s.length s.toList
where
  go : Nat → List Char → PathTemplate
    | 0, _ | _, [] => []
    | n + 1, c :: cs =>
      match takeVariable? (c :: cs) with
      | some (name, rest) => .variable name :: go n rest
      | none => .char c :: go n cs

def variableNames : PathTemplate → List String
  | [] => []
  | .char _ :: ps => variableNames ps
  | .variable n :: ps => n :: variableNames ps

/-- Checks the names of variables, after those in `seen`. -/
def checkNames (template : String) (seen : List String) : List String → Except Misconfiguration Unit
  | [] => .ok ()
  | n :: ns =>
    if !Text.isIdentifier n then .error (.pathVariableMalformed n template)
    else if reservedNames.contains n then .error (.pathVariableReserved n template)
    else if seen.contains n then .error (.pathVariableRepeated n template)
    else checkNames template (n :: seen) ns

def read (s : String) : Except Misconfiguration PathTemplate := do
  let ps := parts s
  checkNames s [] ps.variableNames
  return ps

/-- The part of a regular expression that stands for a part of a path. -/
def patternOf : PathPart → List Char
  | .char c => Text.Regex.escapeChar c
  | .variable n => ['(', '?', 'P', '<'] ++ n.toList ++ ['>', '[', '^', '/', ']', '+', ')']

/-- The regular expression of a template. -/
def pattern (t : PathTemplate) : String :=
  String.ofList ('^' :: t.flatMap patternOf ++ ['$'])

/-- The variables of a path that fits a template. Where there is a choice, earlier variables take as much as
they can. -/
def fit? : PathTemplate → List Char → Option (List (String × String))
  | [], cs => if Text.Regex.isEnd cs then some [] else none
  | .char c :: ps, d :: cs => if c == d then fit? ps cs else none
  | .char _ :: _, [] => none
  | .variable n :: ps, cs =>
    let segment := cs.takeWhile (· != '/')
    (List.range segment.length).reverse.findSome? fun i =>
      (fit? ps (cs.drop (i + 1))).map fun vs => (n, String.ofList (segment.take (i + 1))) :: vs

end PathTemplate

end AccessPolicy
