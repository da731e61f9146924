import AccessPolicy.Expr.TextLiteral

/-!
The grammar of expressions over tokens. A `Reader` takes tokens from the front and fails on tokens that it
cannot use. `Grammar.ofDepth n` reads expressions nested at most `n` deep, where an expression, a comparison
and a factor each count; four times the length of the source is always depth enough, since every nesting
takes a character.
-/

namespace AccessPolicy

/-- Reads something off the front of the tokens. -/
abbrev Reader (α : Type) := StateT (List Token) Option α

namespace Reader

/-- Words that are not names. -/
def reserved : List String :=
  ["False", "None", "True", "and", "as", "assert", "async", "await", "break", "class", "continue", "def",
   "del", "elif", "else", "except", "finally", "for", "from", "global", "if", "import", "in", "is", "lambda",
   "nonlocal", "not", "or", "pass", "raise", "return", "try", "while", "with", "yield"]

def peek : Reader (Option Token) := do return (← get).head?

def skip : Reader Unit := modify List.tail

/-- Whether the next token is the operator `s`. -/
def atOp (s : String) : Reader Bool := do
  match ← peek with
  | some (.op o) => return o == s
  | _ => return false

/-- Whether the next token is the word `s`. -/
def atWord (s : String) : Reader Bool := do
  match ← peek with
  | some (.name w) => return w == s
  | _ => return false

/-- Takes the operator `s` if it comes next. -/
def tryOp (s : String) : Reader Bool := do
  let found ← atOp s
  if found then skip
  return found

/-- Takes the word `s` if it comes next. -/
def tryWord (s : String) : Reader Bool := do
  let found ← atWord s
  if found then skip
  return found

def op (s : String) : Reader Unit := do
  if !(← tryOp s) then failure

def word (s : String) : Reader Unit := do
  if !(← tryWord s) then failure

/-- A name that is not reserved. -/
def name : Reader String := do
  match ← peek with
  | some (.name w) =>
    if reserved.contains w then failure
    skip
    return w
  | _ => failure

/-- Repeats a step until it answers no more; a step that answers takes a token, so their number bounds the
repetition. -/
def repeatWhile {α : Type} (step : α → Reader (Option α)) (a : α) : Reader α := do
  go (← get).length a
where
  go : Nat → α → Reader α
    | 0, a => pure a
    | n + 1, a => do
      match ← step a with
      | some b => go n b
      | none => return a

/-- Items separated by commas, with an optional comma at the end, up to a token that `atEnd` accepts; tells
whether the last item had a comma. -/
def commaTail {α : Type} (atEnd : Reader Bool) (item : Reader α) (first : α) : Reader (List α × Bool) := do
  let (items, comma, _) ← repeatWhile (fun (items, _, more) => do
    if !more then return none
    if ← tryOp "," then
      if ← atEnd then return some (items, true, false)
      return some ((← item) :: items, false, true)
    return none) ([first], false, true)
  return (items.reverse, comma)

/-- Left-associative binary operators. -/
def leftAssoc (ops : List (String × BinaryOp)) (operand : Reader Expr) : Reader Expr := do
  let first ← operand
  repeatWhile (fun left => do
    match ← peek with
    | some (.op o) =>
      match ops.lookup o with
      | some b =>
        skip
        return some (.binary b left (← operand))
      | none => return none
    | _ => return none) first

/-- Operands joined by a word; a single operand stands for itself. -/
def connectedBy (w : String) (c : Connective) (operand : Reader Expr) : Reader Expr := do
  let first ← operand
  let operands ← repeatWhile (fun acc => do
    if ← tryWord w then return some ((← operand) :: acc)
    return none) [first]
  match operands with
  | [e] => return e
  | es => return .connected c es.reverse

end Reader

/-- Readers for expressions up to some depth. -/
structure Grammar where
  /-- A conditional expression, a function or anything that binds tighter. -/
  expression : Reader Expr
  /-- A signed power. -/
  factor : Reader Expr
  /-- A comparison under any number of `not`s. -/
  inversion : Reader Expr
  /-- The expression between the braces of an interpolated text. -/
  field : List Char → Option Expr

namespace Grammar

open Reader

variable (g : Grammar)

def product : Reader Expr :=
  leftAssoc [("*", .multiply), ("/", .divide), ("//", .floorDivide), ("%", .modulo), ("@", .matrixMultiply)] g.factor

def sum : Reader Expr := leftAssoc [("+", .add), ("-", .subtract)] g.product

def shift : Reader Expr := leftAssoc [("<<", .shiftLeft), (">>", .shiftRight)] g.sum

/-- An operand of comparisons. -/
def disjoint : Reader Expr :=
  leftAssoc [("|", .bitOr)] (leftAssoc [("^", .bitXor)] (leftAssoc [("&", .bitAnd)] g.shift))

/-- The comparisons that are written with signs. -/
def comparisons : List (String × CompareOp) :=
  [("==", .equal), ("!=", .notEqual), ("<", .order .less), ("<=", .order .lessOrEqual),
   (">", .order .greater), (">=", .order .greaterOrEqual)]

/-- The operator of a comparison, if one comes next. -/
def tryComparison : Reader (Option CompareOp) := do
  match ← peek with
  | some (.op o) =>
    match comparisons.lookup o with
    | some c =>
      skip
      return some c
    | none => return none
  | some (.name "in") =>
    skip
    return some .contains
  | some (.name "not") =>
    skip
    word "in"
    return some .notContains
  | some (.name "is") =>
    skip
    if ← tryWord "not" then return some .isNot
    return some .is
  | _ => return none

def comparison : Reader Expr := do
  let first ← g.disjoint
  let rest ← repeatWhile (fun acc => do
    match ← tryComparison with
    | some c => return some (.mk c (← g.disjoint) :: acc)
    | none => return none) []
  if rest.isEmpty then return first
  return .compared first rest.reverse

def disjunction : Reader Expr :=
  connectedBy "or" .or (connectedBy "and" .and g.inversion)

/-- An expression, or an assignment to a name inside one. -/
def named : Reader Expr := do
  match ← get with
  | .name w :: .op ":=" :: rest =>
    if reserved.contains w then failure
    set rest
    return .assignment w (← g.expression)
  | _ => g.expression

/-- A spread or named expression, as displays hold them. -/
def element : Reader Expr := do
  if ← tryOp "*" then return .starred (← g.disjoint)
  g.named

/-- A spread or plain expression, as statements hold them. -/
def statementElement : Reader Expr := do
  if ← tryOp "*" then return .starred (← g.disjoint)
  g.expression

/-- Whether a list of expressions ends before the next token. -/
def atListEnd : Reader Bool := do
  match ← peek with
  | some (.op o) =>
    return [")", "]", "\x7d", "=", ":", ";", "+=", "-=", "*=", "/=", "//=", "%=", "@=", "&=", "|=", "^=",
      "<<=", ">>=", "**="].contains o
  | some .newline | none => return true
  | some (.name w) => return w == "in"
  | _ => return false

/-- One expression, or several as a tuple. -/
def expressions : Reader Expr := do
  let first ← g.statementElement
  let (items, comma) ← commaTail atListEnd g.statementElement first
  match items, comma with
  | [e], false => return e
  | es, _ => return .tuple es

def yielded : Reader Expr := do
  word "yield"
  if ← tryWord "from" then return .yieldFrom (← g.expression)
  if ← atListEnd then return .yield none
  return .yield (some (← g.expressions))

/-- Whether an expression can be assigned to. -/
def isTarget : Expr → Bool
  | .name _ | .attribute .. | .subscript .. => true
  | .starred e => isTarget e
  | .tuple es | .list es => allTargets es
  | _ => false
where
  allTargets : List Expr → Bool
    | [] => true
    | e :: es => isTarget e && allTargets es

/-- The target of a `for` clause. -/
def target : Reader Expr := do
  let item : Reader Expr := do
    if ← tryOp "*" then return .starred (← g.disjoint)
    g.disjoint
  let first ← item
  let (items, comma) ← commaTail (atWord "in") item first
  let e : Expr := match items, comma with
    | [e], false => e
    | es, _ => .tuple es
  if isTarget e then return e else failure

/-- Whether a `for` clause comes next. -/
def atFor : Reader Bool := do
  match ← get with
  | .name "for" :: _ | .name "async" :: .name "for" :: _ => return true
  | _ => return false

/-- The `for` clauses of a comprehension. -/
def generators : Reader (List Generator) := do
  let clauses ← repeatWhile (fun acc => do
    if !(← atFor) then return none
    let _ ← tryWord "async"
    word "for"
    let target ← g.target
    word "in"
    let iterable ← g.disjunction
    let conditions ← repeatWhile (fun acc => do
      if ← tryWord "if" then return some ((← g.disjunction) :: acc)
      return none) []
    return some (.mk target iterable conditions.reverse :: acc)) []
  return clauses.reverse

/-- What follows the first element of a display that `kind` names, up to its closing bracket. -/
def displayTail (kind : Collecting) (first : Expr) (close : String) (ofItems : List Expr → Bool → Expr) :
    Reader Expr := do
  if ← atFor then
    if first matches .starred _ then failure
    let clauses ← g.generators
    op close
    return .comprehension kind first clauses
  let (items, comma) ← commaTail (atOp close) g.element first
  op close
  return ofItems items comma

/-- An expression in round brackets, after the opening one. -/
def parenthesized : Reader Expr := do
  if ← tryOp ")" then return .tuple []
  if ← atWord "yield" then
    let e ← g.yielded
    op ")"
    return e
  let first ← g.element
  let e ← g.displayTail .generator first ")" fun items comma =>
    match items, comma with
    | [e], false => e
    | es, _ => .tuple es
  if e matches .starred _ then failure
  return e

/-- A list, after its opening bracket. -/
def listDisplay : Reader Expr := do
  if ← tryOp "]" then return .list []
  g.displayTail .list (← g.element) "]" fun items _ => .list items

def dictItem : Reader DictItem := do
  if ← tryOp "**" then return .spread (← g.disjoint)
  let key ← g.expression
  op ":"
  return .entry key (← g.expression)

/-- A mapping or a set, after its opening brace. -/
def braces : Reader Expr := do
  if ← tryOp "\x7d" then return .dict []
  if ← atOp "**" then
    let (items, _) ← commaTail (atOp "\x7d") g.dictItem (← g.dictItem)
    op "\x7d"
    return .dict items
  let first ← g.element
  if !(← atOp ":") then
    return ← g.displayTail .set first "\x7d" fun items _ => .set items
  if first matches .starred _ | .assignment .. then failure
  op ":"
  let value ← g.expression
  if ← atFor then
    let clauses ← g.generators
    op "\x7d"
    return .dictComprehension first value clauses
  let (items, _) ← commaTail (atOp "\x7d") g.dictItem (.entry first value)
  op "\x7d"
  return .dict items

/-- The smallest expressions. -/
def atom : Reader Expr := do
  match ← get with
  | .literal c :: rest =>
    set rest
    return .literal c
  | .text _ :: _ =>
    let texts := (← get).takeWhile fun | .text _ => true | _ => false
    set ((← get).drop texts.length)
    match TextToken.expression? g.field (texts.filterMap fun | .text t => some t | _ => none) with
    | some e => return e
    | none => failure
  | .name w :: rest =>
    match w with
    | "None" => do set rest; return .literal .null
    | "True" => do set rest; return .literal (.bool true)
    | "False" => do set rest; return .literal (.bool false)
    | _ => return .name (← name)
  | .op o :: rest =>
    match o with
    | "(" => do set rest; g.parenthesized
    | "[" => do set rest; g.listDisplay
    | "\x7b" => do set rest; g.braces
    | "..." => do set rest; return .literal .ellipsis
    | _ => failure
  | _ => failure

/-- One argument of a call, after the arguments before it. -/
def argument (sofar : List Expr × List Keyword × Bool) : Reader (List Expr × List Keyword × Bool) := do
  let (args, keywords, spread) := sofar
  if ← tryOp "**" then
    return (args, .mk none (← g.expression) :: keywords, true)
  if ← tryOp "*" then
    if spread then failure
    return (.starred (← g.expression) :: args, keywords, spread)
  match ← get with
  | .name w :: .op "=" :: rest =>
    if reserved.contains w then failure
    set rest
    return (args, .mk (some w) (← g.expression) :: keywords, spread)
  | _ =>
    if !keywords.isEmpty then failure
    let e ← g.named
    return (e :: args, keywords, spread)

/-- The arguments of a call, after the opening bracket; a lone comprehension needs no brackets of its own. -/
def arguments : Reader (List Expr × List Keyword) := do
  if ← tryOp ")" then return ([], [])
  let first ← g.argument ([], [], false)
  if ← atFor then
    match first with
    | ([e], [], _) =>
      if e matches .starred _ then failure
      let clauses ← g.generators
      op ")"
      return ([.comprehension .generator e clauses], [])
    | _ => failure
  let (args, keywords, _) ← repeatWhile (fun sofar => do
    if ← tryOp "," then
      if ← atOp ")" then return none
      return some (← g.argument sofar)
    return none) first
  op ")"
  return (args.reverse, keywords.reverse)

/-- One end of a slice, or its step, if there is one. -/
def bound : Reader (Option Expr) := do
  match ← peek with
  | some (.op ":") | some (.op ",") | some (.op "]") => return none
  | _ => return some (← g.expression)

/-- A slice after its lower end. -/
def sliceFrom (lower : Option Expr) : Reader Expr := do
  op ":"
  let upper ← g.bound
  if ← tryOp ":" then return .slice lower upper (← g.bound)
  return .slice lower upper none

/-- One index or slice. -/
def indexItem : Reader Expr := do
  if ← tryOp "*" then return .starred (← g.expression)
  if ← atOp ":" then return ← g.sliceFrom none
  let e ← g.named
  if ← atOp ":" then
    if e matches .assignment .. then failure
    return ← g.sliceFrom (some e)
  return e

/-- The inside of square brackets after an expression. -/
def index : Reader Expr := do
  let first ← g.indexItem
  let (items, comma) ← commaTail (atOp "]") g.indexItem first
  op "]"
  match items, comma with
  | [.starred e], _ => return .tuple [.starred e]
  | [e], false => return e
  | es, _ => return .tuple es

/-- An atom followed by attributes, calls and indices. -/
def primary : Reader Expr := do
  repeatWhile (fun e => do
    if ← tryOp "." then return some (.attribute e (← name))
    if ← tryOp "(" then
      let (args, keywords) ← g.arguments
      return some (.call e args keywords)
    if ← tryOp "[" then return some (.subscript e (← g.index))
    return none) (← g.atom)

/-- A primary expression, which may be awaited. -/
def awaited : Reader Expr := do
  if ← tryWord "await" then return .await (← g.primary)
  g.primary

def power : Reader Expr := do
  let base ← g.awaited
  if ← tryOp "**" then return .binary .power base (← g.factor)
  return base

/-- What a list of parameters has had so far. -/
structure Parameters where
  names : List String := []
  defaults : List Expr := []
  /-- Whether a parameter with a default came, among those that can be given by position. -/
  optional : Bool := false
  /-- Whether the parameters have become named ones. -/
  keyword : Bool := false
  /-- Whether a named parameter must follow. -/
  bare : Bool := false
  slash : Bool := false
  /-- Whether nothing may follow. -/
  closed : Bool := false

/-- One parameter; `hint` reads what may follow its name, and gets whether it collects the rest. -/
def parameter (hint : Bool → Reader Unit) (p : Parameters) : Reader Parameters := do
  if p.closed then failure
  if ← tryOp "**" then
    if p.bare then failure
    let n ← name
    hint false
    return { p with names := n :: p.names, closed := true }
  if ← tryOp "*" then
    if p.keyword then failure
    if ← atOp "," then return { p with keyword := true, bare := true }
    let n ← name
    hint true
    return { p with names := n :: p.names, keyword := true }
  if ← tryOp "/" then
    if p.slash || p.keyword || p.names.isEmpty then failure
    return { p with slash := true }
  let n ← name
  hint false
  let p := { p with names := n :: p.names, bare := false }
  if ← tryOp "=" then
    let e ← g.expression
    return { p with defaults := e :: p.defaults, optional := p.optional || !p.keyword }
  if p.optional && !p.keyword then failure
  return p

/-- Parameters up to the closing token. -/
def parameters (hint : Bool → Reader Unit) (close : String) : Reader Parameters := do
  if ← atOp close then return {}
  let first ← g.parameter hint {}
  let p ← repeatWhile (fun p => do
    if ← tryOp "," then
      if ← atOp close then return none
      return some (← g.parameter hint p)
    return none) first
  if p.bare then failure
  return { p with names := p.names.reverse, defaults := p.defaults.reverse }

/-- A function without a name. -/
def lambda : Reader Expr := do
  word "lambda"
  let p ← g.parameters (fun _ => pure ()) ":"
  op ":"
  return .lambda p.names p.defaults (← g.expression)

def conditional : Reader Expr := do
  if ← atWord "lambda" then return ← g.lambda
  let body ← g.disjunction
  if ← tryWord "if" then
    let test ← g.disjunction
    word "else"
    return .conditional test body (← g.expression)
  return body

/-- The sign of a factor, if one comes next. -/
def trySign : Reader (Option UnaryOp) := do
  match ← peek with
  | some (.op "+") => do skip; return some .plus
  | some (.op "-") => do skip; return some .negate
  | some (.op "~") => do skip; return some .invert
  | _ => return none

/-- The field of an interpolated text reads as if it stood in round brackets. -/
def fieldOf (source : List Char) : Option Expr := do
  let tokens ← Token.scan? ('(' :: source ++ [')'])
  let (e, rest) ← g.expressions.run tokens
  match rest with
  | [.newline] => return e
  | _ => none

/-- Readers for expressions one level deeper. -/
def step : Grammar where
  expression := g.conditional
  factor := do
    match ← trySign with
    | some s => return .unary s (← g.factor)
    | none => g.power
  inversion := do
    if ← tryWord "not" then return .unary .not (← g.inversion)
    g.comparison
  field := g.fieldOf

/-- Readers for expressions nested at most `n` deep. -/
def ofDepth : Nat → Grammar
  | 0 => ⟨failure, failure, failure, fun _ => none⟩
  | n + 1 => (ofDepth n).step

end Grammar

end AccessPolicy
