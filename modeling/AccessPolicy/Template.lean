import AccessPolicy.Failure

/-!
Named texts with placeholders. A placeholder is an identifier in braces; an identifier in doubled braces
stands for itself in single ones. All other braces stay as they are.
-/

namespace AccessPolicy

inductive TemplatePart where
  | text (c : Char)
  | placeholder (name : String)
  | braced (name : String)
  deriving DecidableEq, Repr

namespace TemplatePart

def isNameStart (c : Char) : Bool := c.isAlpha || c == '_'

def isNamePart (c : Char) : Bool := c.isAlphanum || c == '_'

def takeName? (cs : List Char) : Option (List Char × List Char) :=
  match cs with
  | c :: _ => if isNameStart c then some (cs.takeWhile isNamePart, cs.dropWhile isNamePart) else none
  | [] => none

/-- A placeholder or a doubled name at the start of a text, and the rest. -/
def take? : List Char → Option (TemplatePart × List Char)
  | '\x7b' :: '\x7b' :: cs =>
    match takeName? cs with
    | some (n, '\x7d' :: '\x7d' :: rest) => some (.braced (String.ofList n), rest)
    | _ => none
  | '\x7b' :: cs =>
    match takeName? cs with
    | some (n, '\x7d' :: rest) => some (.placeholder (String.ofList n), rest)
    | _ => none
  | _ => none

/-- The parts of a template; every part takes a character, so the length is fuel enough. -/
def ofText (s : String) : List TemplatePart := go s.length s.toList
where
  go : Nat → List Char → List TemplatePart
    | 0, _ | _, [] => []
    | n + 1, c :: cs =>
      match take? (c :: cs) with
      | some (part, rest) => part :: go n rest
      | none => .text c :: go n cs

end TemplatePart

/-- The text of a guard: given directly, or a template with values for its placeholders. -/
inductive GuardText where
  | plain (s : String)
  | template (name : String) (params : List (String × Value))

structure Templates where
  texts : List (String × String) := []

namespace Templates

def contains (ts : Templates) (name : String) : Bool :=
  (ts.texts.lookup name).isSome

def names (ts : Templates) : List String :=
  ts.texts.map Prod.fst

/-- The text that a value is inserted as, which an integer with too many digits does not have. -/
def inserted (v : Value) : Except Failure String :=
  if v.tooLongToWrite then .error (.operand .badValue) else .ok v.shown

def fill (name : String) (params : List (String × Value)) : List TemplatePart → Except Failure (List Char)
  | [] => .ok []
  | .text c :: ps => do return c :: (← fill name params ps)
  | .braced n :: ps => do return '\x7b' :: n.toList ++ '\x7d' :: (← fill name params ps)
  | .placeholder n :: ps =>
    match params.lookup n with
    | some v => do
      let text ← inserted v
      return text.toList ++ (← fill name params ps)
    | none => .error (.configuration (.missingParameter name n))

def expand (ts : Templates) : GuardText → Except Failure String
  | .plain s => .ok s
  | .template name params =>
    match ts.texts.lookup name with
    | none => .error (.configuration (.unknownTemplate name))
    | some text => do return String.ofList (← fill name params (TemplatePart.ofText text))

end Templates

end AccessPolicy
