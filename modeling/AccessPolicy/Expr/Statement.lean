import AccessPolicy.Expr.Grammar

/-!
Source texts as sequences of statements. Only statements that are expressions have a meaning here; the
others are recognised, so that a text which is no single expression can be told from a malformed one.
-/

namespace AccessPolicy

/-- A statement: an expression, or anything else. -/
inductive Statement where
  | expression (e : Expr)
  | other

namespace Statement

open Reader

variable (g : Grammar)

/-- Repeats a reader for its effect as long as it answers that it took something. -/
def repeated (step : Reader Bool) : Reader Unit :=
  repeatWhile (fun _ => do return if ← step then some () else none) ()

/-- The operators that combine an assignment with a computation. -/
def combiningOps : List String :=
  ["+=", "-=", "*=", "/=", "//=", "%=", "@=", "&=", "|=", "^=", "<<=", ">>=", "**="]

/-- The value of an assignment. -/
def assigned : Reader Expr := do
  if ← atWord "yield" then g.yielded else g.expressions

/-- A statement that begins with an expression. -/
def fromExpression : Reader Statement := do
  let e ← g.expressions
  let simple := e matches .name _ | .attribute .. | .subscript ..
  match ← peek with
  | some (.op ":") =>
    if !simple then failure
    skip
    let _ ← g.expression
    if ← tryOp "=" then let _ ← assigned g
    return .other
  | some (.op "=") =>
    if !Grammar.isTarget e then failure
    repeated do
      if !(← tryOp "=") then return false
      let value ← assigned g
      if (← atOp "=") && !Grammar.isTarget value then failure
      return true
    return .other
  | some (.op o) =>
    if combiningOps.contains o then
      if !simple then failure
      skip
      let _ ← assigned g
      return .other
    return .expression e
  | _ => return .expression e

def atStatementEnd : Reader Bool := do
  match ← peek with
  | some .newline | some (.op ";") | none => return true
  | _ => return false

/-- Whether an expression can be deleted. -/
def isDeletable : Expr → Bool
  | .name _ | .attribute .. | .subscript .. => true
  | .tuple es | .list es => allDeletable es
  | _ => false
where
  allDeletable : List Expr → Bool
    | [] => true
    | e :: es => isDeletable e && allDeletable es

/-- A name with dots. -/
def dottedName : Reader Unit := do
  let _ ← name
  repeated do
    if !(← tryOp ".") then return false
    let _ ← name
    return true

/-- An optional name after `as`. -/
def asName : Reader Unit := do
  if ← tryWord "as" then let _ ← name

/-- One or more of something, separated by commas. -/
def separated (item : Reader Unit) : Reader Unit := do
  item
  repeated do
    if !(← tryOp ",") then return false
    item
    return true

/-- The rest of an import from a module. -/
def importedNames : Reader Unit := do
  repeated (do return (← tryOp ".") || (← tryOp "..."))
  if !(← atWord "import") then dottedName
  word "import"
  if ← tryOp "*" then return ()
  let item : Reader Unit := do
    let _ ← name
    asName
  if ← tryOp "(" then
    let _ ← commaTail (atOp ")") item (← item)
    op ")"
  else separated item

/-- A statement within a line. -/
def simple : Reader Statement := do
  match ← peek with
  | some (.name w) =>
    match w with
    | "yield" => return .expression (← g.yielded)
    | "pass" | "break" | "continue" => do skip; return .other
    | "return" => do
      skip
      if !(← atStatementEnd) then let _ ← g.expressions
      return .other
    | "raise" => do
      skip
      if !(← atStatementEnd) then
        let _ ← g.expression
        if ← tryWord "from" then let _ ← g.expression
      return .other
    | "import" => do
      skip
      separated do
        dottedName
        asName
      return .other
    | "from" => do
      skip
      importedNames
      return .other
    | "del" => do
      skip
      let e ← g.expressions
      if isDeletable e then return .other else failure
    | "assert" => do
      skip
      let _ ← g.expression
      if ← tryOp "," then let _ ← g.expression
      return .other
    | "global" | "nonlocal" => do
      skip
      separated (do let _ ← name)
      return .other
    | _ => fromExpression g
  | _ => fromExpression g

/-- Takes the next statement of a line, if there is one, onto those before it; tells whether another may follow. -/
def nextInLine (sofar : List Statement × Bool) : Reader (Option (List Statement × Bool)) := do
  if !sofar.2 then return none
  if !(← tryOp ";") then return none
  if (← peek) matches some .newline then return some (sofar.1, false)
  return some ((← simple g) :: sofar.1, true)

/-- The statements of a line. -/
def line : Reader (List Statement) := do
  let first ← simple g
  let found ← repeatWhile (nextInLine g) ([first], true)
  if !((← peek) matches some .newline) then failure
  skip
  return found.1.reverse

/-- A `with` clause without the brackets around its items. -/
def contextItem : Reader Unit := do
  let _ ← g.expression
  if ← tryWord "as" then
    let e ← g.statementElement
    if !Grammar.isTarget e then failure

/-- The items of a `with` clause, in brackets or not, up to its colon. -/
def contextItems : Reader Unit := do
  let bracketed : Reader Unit := do
    op "("
    let _ ← commaTail (atOp ")") (contextItem g) (← contextItem g)
    op ")"
    op ":"
  bracketed <|> (do
    separated (contextItem g)
    op ":")

/-- An optional hint of a parameter. -/
def hint (collecting : Bool) : Reader Unit := do
  if ← tryOp ":" then
    let _ ← if collecting then g.statementElement else g.expression

/-- A compound statement, when one comes next; `block` reads the block after a colon. -/
def compound (block : Reader Unit) : Reader Unit := do
  let orElse : Reader Unit := do
    if ← tryWord "else" then
      op ":"
      block
  let loop : Reader Unit := do
    let _ ← g.target
    word "in"
    let _ ← g.expressions
    op ":"
    block
    orElse
  let contexts : Reader Unit := do
    contextItems g
    block
  let function : Reader Unit := do
    let _ ← name
    op "("
    let _ ← g.parameters (hint g) ")"
    op ")"
    if ← tryOp "->" then let _ ← g.expression
    op ":"
    block
  let definition : Reader Unit := do
    if ← tryWord "class" then
      let _ ← name
      if ← tryOp "(" then let _ ← g.arguments
      op ":"
      block
    else
      let _ ← tryWord "async"
      word "def"
      function
  if ← tryWord "if" then
    let _ ← g.named
    op ":"
    block
    repeated do
      if !(← tryWord "elif") then return false
      let _ ← g.named
      op ":"
      block
      return true
    orElse
  else if ← tryWord "while" then
    let _ ← g.named
    op ":"
    block
    orElse
  else if ← tryWord "for" then loop
  else if ← tryWord "with" then contexts
  else if ← tryWord "try" then
    op ":"
    block
    let group ← do
      match ← get with
      | .name "except" :: .op "*" :: _ => pure true
      | _ => pure false
    let handlers ← repeatWhile (fun n => do
      if !(← tryWord "except") then return none
      let starred ← tryOp "*"
      if starred != group then failure
      if starred || !(← atOp ":") then
        let _ ← g.expression
        asName
      op ":"
      block
      return some (n + 1)) 0
    if handlers > 0 then orElse
    if ← tryWord "finally" then
      op ":"
      block
    else if handlers == 0 then failure
  else if ← atOp "@" then
    repeated do
      if !(← tryOp "@") then return false
      let _ ← g.named
      if !((← peek) matches some .newline) then failure
      skip
      return true
    definition
  else
    match ← get with
    | .name "async" :: .name "for" :: rest => do set rest; loop
    | .name "async" :: .name "with" :: rest => do set rest; contexts
    | _ => definition

/-- Words and signs that begin a compound statement. -/
def atCompound : Reader Bool := do
  match ← peek with
  | some (.name w) =>
    return ["if", "while", "for", "with", "try", "def", "class", "async"].contains w
  | some (.op o) => return o == "@"
  | _ => return false

/-- The statements of the next line or block, with blocks nested at most `n` deep. -/
def next : Nat → Reader (List Statement)
  | 0 => failure
  | n + 1 => do
    if ← atCompound then
      compound g do
        match ← peek with
        | some .newline => do
          skip
          match ← peek with
          | some .indent => skip
          | _ => failure
          let _ ← next n
          repeated do
            if (← peek) matches some .dedent then return false
            let _ ← next n
            return true
          skip
        | _ => do
          let _ ← line g
      return [.other]
    else line g

/-- Reads on to the statements of the next line or block, if there is one. -/
def nextOnward (depth : Nat) (sofar : List Statement) : Reader (Option (List Statement)) := do
  if (← peek).isNone then return none
  return some (sofar ++ (← next (Grammar.ofDepth depth) depth))

/-- A depth that no source of some length is nested to. -/
def depthOf (source : List Char) : Nat := 4 * (source.length + 1)

/-- The statements of a source text, unless it is malformed. -/
def ofSource? (source : List Char) : Option (List Statement) := do
  let tokens ← Token.scan? source
  let (statements, rest) ← (repeatWhile (nextOnward (depthOf source)) []).run tokens
  if rest.isEmpty then return statements else none

end Statement

end AccessPolicy
