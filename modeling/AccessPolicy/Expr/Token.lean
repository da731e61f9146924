import AccessPolicy.Number.Decimal
import AccessPolicy.Expr
import AccessPolicy.Number.Integer

/-!
The tokens of a source text. White space separates tokens; a line break ends a line unless a bracket is
open; the indentation of a line is told by tokens of its own. `Token.scan?` fails on text that is not
made of tokens: stray characters, unfinished texts and brackets, malformed numbers, uneven indentation.
-/

namespace AccessPolicy

/-- A text literal before its escapes and fields are read. -/
structure TextToken where
  isBytes : Bool
  isRaw : Bool
  isInterpolated : Bool
  body : List Char

inductive Token where
  | name (s : String)
  | literal (c : Literal)
  | text (t : TextToken)
  | op (s : String)
  | newline
  | indent
  | dedent

namespace Token

/-- The operators and delimiters, longest first. -/
def operators : List String :=
  ["**=", "//=", ">>=", "<<=", "...",
   "!=", "%=", "&=", "**", "*=", "+=", "-=", "->", "//", "/=", ":=", "<<", "<=", "==", ">=", ">>", "@=",
   "^=", "|=",
   "%", "&", "(", ")", "*", "+", ",", "-", ".", "/", ":", ";", "<", "=", ">", "@", "[", "]", "^",
   "\x7b", "|", "\x7d", "~"]

def maxDepth : Nat := 200

/-- Digits of a base, with single underscores between them, and the rest. -/
def takeDigits (digit? : Char → Option Nat) : List Char → List Nat × List Char
  | [] => ([], [])
  | c :: cs =>
    match digit? c with
    | some d =>
      let (ds, rest) := takeDigits digit? cs
      (d :: ds, rest)
    | none =>
      if c == '_' then
        match cs with
        | next :: _ =>
          if (digit? next).isSome then takeDigits digit? cs else ([], c :: cs)
        | [] => ([], c :: cs)
      else ([], c :: cs)

/-- Digits that must begin with one, not with an underscore. -/
def digitRun (digit? : Char → Option Nat) (cs : List Char) : List Nat × List Char :=
  match cs with
  | '_' :: _ => ([], cs)
  | cs => takeDigits digit? cs

/-- Words that may stand directly after a number. -/
def wordsAfterNumber : List String :=
  ["and", "else", "for", "if", "in", "is", "or", "not"]

/-- A number must not run into a word, unless that begins like a connecting word. -/
def endsNumber (cs : List Char) : Bool :=
  match cs with
  | [] => true
  | c :: _ =>
    wordsAfterNumber.any (fun w => w.toList.isPrefixOf cs) || !(Text.isIdentifierPart c)

/-- An exponent: the letter, an optional sign and digits. -/
def takeExponent? (cs : List Char) : Option (Int × List Char) :=
  match cs with
  | e :: rest =>
    if e == 'e' || e == 'E' then
      let (sign, rest) : Int × List Char := match rest with
        | '-' :: r => (-1, r)
        | '+' :: r => (1, r)
        | r => (1, r)
      let (ds, rest) := digitRun (Number.digitBelow? 10) rest
      if ds.isEmpty then none else some (sign * Number.ofDigits 10 ds, rest)
    else none
  | [] => none

/-- The fraction after a decimal point, the rest, and whether there is a point. -/
def takeFraction (cs : List Char) : List Nat × List Char × Bool :=
  match cs with
  | '.' :: r =>
    let (ds, r) := digitRun (Number.digitBelow? 10) r
    (ds, r, true)
  | r => ([], r, false)

/-- The exponent, which is nought without one, the rest, and whether there is one. -/
def takeScale (cs : List Char) : Int × List Char × Bool :=
  match takeExponent? cs with
  | some (e, r) => (e, r, true)
  | none => (0, cs, false)

/-- A number in another base than ten, after the letter that tells the base. -/
def inBase? (base : Nat) (cs : List Char) : Option (Literal × List Char) :=
  let (ds, rest) := takeDigits (Number.digitBelow? base) cs
  if ds.isEmpty || !endsNumber rest then none else some (.int (Number.ofDigits base ds), rest)

def decimal? (cs : List Char) : Option (Literal × List Char) :=
  let (whole, rest) := digitRun (Number.digitBelow? 10) cs
  let (fraction, rest, hasPoint) := takeFraction rest
  let (exponent, rest, hasExponent) := takeScale rest
  let floating := Number.ofDecimal (whole ++ fraction) (exponent - fraction.length)
  if rest.head?.any fun c => c == 'j' || c == 'J' then
    if endsNumber rest.tail then some (.imaginary floating, rest.tail) else none
  else if !endsNumber rest then none
  else if hasPoint || hasExponent then some (.float floating, rest)
  else if whole.head? == some 0 && whole.any (· != 0) then none
  else if whole.length > Number.maxDigits then none
  else some (.int (Number.ofDigits 10 whole), rest)

def number? (cs : List Char) : Option (Literal × List Char) :=
  match cs with
  | '0' :: x :: rest =>
    if x == 'x' || x == 'X' then inBase? 16 rest
    else if x == 'o' || x == 'O' then inBase? 8 rest
    else if x == 'b' || x == 'B' then inBase? 2 rest
    else decimal? cs
  | _ => decimal? cs

/-- The body of a text up to its closing quotes; a backslash keeps the next character. -/
def takeBody (quotes : List Char) (multiline : Bool) : List Char → Option (List Char × List Char)
  | [] => none
  | '\\' :: c :: cs => (takeBody quotes multiline cs).map fun (body, rest) => ('\\' :: c :: body, rest)
  | c :: cs =>
    if quotes.isPrefixOf (c :: cs) then some ([], (c :: cs).drop quotes.length)
    else if c == '\n' && !multiline then none
    else (takeBody quotes multiline cs).map fun (body, rest) => (c :: body, rest)

def text? (letters : List Char) (cs : List Char) : Option (Token × List Char) := do
  let letters := letters.map Char.toLower
  guard ([[], ['r'], ['u'], ['b'], ['f'], ['b', 'r'], ['r', 'b'], ['f', 'r'], ['r', 'f']].contains letters)
  let quote ← cs.head?
  guard (quote == '"' || quote == '\'')
  let triple := List.replicate 3 quote
  let (body, rest) ←
    if triple.isPrefixOf cs then takeBody triple true (cs.drop 3)
    else takeBody [quote] false (cs.drop 1)
  return (.text ⟨letters.contains 'b', letters.contains 'r', letters.contains 'f', body⟩, rest)

def closing? (s : String) : Option String :=
  match s with
  | "(" => some ")"
  | "[" => some "]"
  | "\x7b" => some "\x7d"
  | _ => none

/-- What the scanner knows about the text before the current position. -/
structure State where
  /-- The brackets that close the open ones, innermost first. -/
  open' : List String := []
  /-- The indentations of the enclosing blocks, innermost first. -/
  indents : List Nat := []
  /-- Whether the current line has a token yet. -/
  lineEmpty : Bool := true
  /-- The tokens so far, last first. -/
  tokens : List Token := []

def State.push (s : State) (t : Token) : State :=
  { s with tokens := t :: s.tokens, lineEmpty := false }

/-- The column that leading white space reaches; a tab goes to the next multiple of eight. -/
def columnOf (cs : List Char) : Nat :=
  cs.foldl (fun n c => if c == '\t' then (n / 8 + 1) * 8 else if c == '\x0c' then 0 else n + 1) 0

/-- Adjusts the enclosing blocks to a line that begins at a column. -/
def State.enterLine? (s : State) (column : Nat) : Option State :=
  let current := s.indents.headD 0
  if column > current then
    some { s with indents := column :: s.indents, tokens := Token.indent :: s.tokens }
  else
    let closed := s.indents.takeWhile (· > column)
    let remaining := s.indents.dropWhile (· > column)
    if remaining.headD 0 == column then
      some { s with
        indents := remaining
        tokens := List.replicate closed.length Token.dedent ++ s.tokens }
    else none

/-- Ends the text: the last line, the open blocks and the open brackets. -/
def State.finish? (s : State) : Option (List Token) :=
  if s.open'.isEmpty then
    let tokens := if s.lineEmpty then s.tokens else .newline :: s.tokens
    some (List.replicate s.indents.length Token.dedent ++ tokens).reverse
  else none

def isBlank (c : Char) : Bool :=
  c == ' ' || c == '\t' || c == '\x0c'

/-- Scans one token at the start of the text, and goes on with `next`. -/
def scanToken (next : State → List Char → Option (List Token)) (s : State) (cs : List Char) :
    Option (List Token) :=
  match cs with
  | [] => s.finish?
  | c :: rest =>
    if Text.isIdentifierStart c then
      let word := cs.takeWhile Text.isIdentifierPart
      let after := cs.dropWhile Text.isIdentifierPart
      match text? word after with
      | some (t, after) => next (s.push t) after
      | none => next (s.push (.name (String.ofList word))) after
    else if c == '"' || c == '\'' then do
      let (t, after) ← text? [] cs
      next (s.push t) after
    else if c.isDigit || (c == '.' && (rest.head?.any Char.isDigit)) then do
      let (n, after) ← number? cs
      next (s.push (.literal n)) after
    else do
      let o ← operators.find? fun o => o.toList.isPrefixOf cs
      let after := cs.drop o.length
      match closing? o with
      | some close =>
        if s.open'.length ≥ maxDepth then none
        else next { s.push (.op o) with open' := close :: s.open' } after
      | none =>
        if o == ")" || o == "]" || o == "\x7d" then
          match s.open' with
          | expected :: outer =>
            if expected == o then next { s.push (.op o) with open' := outer } after else none
          | [] => none
        else next (s.push (.op o)) after

/-- Scans the rest of a text; every step takes at least one character, so its length is fuel enough. -/
def scanFrom (fuel : Nat) (s : State) (cs : List Char) : Option (List Token) :=
  match fuel with
  | 0 => s.finish?
  | fuel + 1 =>
    match cs with
    | [] => s.finish?
    | '#' :: rest => scanFrom fuel s (rest.dropWhile (· != '\n'))
    | '\\' :: '\n' :: rest => if rest.isEmpty then none else scanFrom fuel s rest
    | '\n' :: rest =>
      if !s.open'.isEmpty || s.lineEmpty then scanFrom fuel s rest
      else scanFrom fuel { s.push .newline with lineEmpty := true } rest
    | c :: rest =>
      if isBlank c && !(s.lineEmpty && s.open'.isEmpty) then scanFrom fuel s rest
      else if isBlank c then
        -- leading white space of a line: skipped here when the line holds nothing else
        let lead := (c :: rest).takeWhile isBlank
        let body := (c :: rest).dropWhile isBlank
        match body with
        | [] => s.finish?
        | '\n' :: _ | '#' :: _ => scanFrom fuel s body
        | _ => do scanToken (scanFrom fuel) (← s.enterLine? (columnOf lead)) body
      else if s.lineEmpty && s.open'.isEmpty then do
        scanToken (scanFrom fuel) (← s.enterLine? 0) (c :: rest)
      else scanToken (scanFrom fuel) s (c :: rest)
termination_by structural fuel

/-- Line breaks in their three spellings become one. -/
def unifyBreaks : List Char → List Char
  | [] => []
  | '\r' :: '\n' :: cs => '\n' :: unifyBreaks cs
  | '\r' :: cs => '\n' :: unifyBreaks cs
  | c :: cs => c :: unifyBreaks cs

def scan? (cs : List Char) : Option (List Token) :=
  let cs := unifyBreaks cs
  scanFrom (cs.length + 1) {} cs

end Token

end AccessPolicy
