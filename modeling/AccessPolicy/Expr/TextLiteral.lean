import AccessPolicy.Expr.Token

/-!
The content of text literals: escapes, and the fields of interpolated texts. Reading fails on malformed
escapes, stray braces and fields that hold no expression.
-/

namespace AccessPolicy

namespace TextToken

def hexDigits? : Nat → List Char → Option (Nat × List Char)
  | n, cs => go n 0 cs
where
  go : Nat → Nat → List Char → Option (Nat × List Char)
    | 0, acc, cs => some (acc, cs)
    | n + 1, acc, c :: cs => do
      let d ← Number.digitBelow? 16 c
      go n (16 * acc + d) cs
    | _ + 1, _, [] => none

/-- The character with a code point; code points that no character has are refused. -/
def char? (n : Nat) : Option Char :=
  if h : n.isValidChar then some (Char.ofNatAux n h) else none

def octal (first : Nat) : List Char → Nat × List Char
  | a :: b :: cs =>
    match Number.digitBelow? 8 a, Number.digitBelow? 8 b with
    | some x, some y => (64 * first + 8 * x + y, cs)
    | some x, none => (8 * first + x, b :: cs)
    | none, _ => (first, a :: b :: cs)
  | [a] =>
    match Number.digitBelow? 8 a with
    | some x => (8 * first + x, [])
    | none => (first, [a])
  | [] => (first, [])

def simpleEscape? : Char → Option Char
  | '\\' => some '\\'
  | '\'' => some '\''
  | '"' => some '"'
  | 'a' => some '\x07'
  | 'b' => some '\x08'
  | 'f' => some '\x0c'
  | 'n' => some '\n'
  | 'r' => some '\r'
  | 't' => some '\t'
  | 'v' => some '\x0b'
  | _ => none

/-- One escape, without its backslash: the characters it stands for and the rest. Unknown escapes stay. -/
def escape? (isBytes : Bool) (c : Char) (cs : List Char) : Option (List Char × List Char) :=
  match simpleEscape? c with
  | some e => some ([e], cs)
  | none =>
    match c, Number.digitBelow? 8 c with
    | '\n', _ => some ([], cs)
    | _, some d =>
      let (n, rest) := octal d cs
      (char? (if isBytes then n % 256 else n)).map fun e => ([e], rest)
    | 'x', none => unit 2
    | 'u', none => if isBytes then some (['\\', c], cs) else unit 4
    | 'U', none => if isBytes then some (['\\', c], cs) else unit 8
    | 'N', none => if isBytes then some (['\\', c], cs) else none
    | _, none => some (['\\', c], cs)
where
  unit (n : Nat) : Option (List Char × List Char) := do
    let (code, rest) ← hexDigits? n cs
    let e ← char? code
    return ([e], rest)

/-- Replaces escapes; every step takes a character, so the length is fuel enough. -/
def unescape? (isBytes : Bool) (cs : List Char) : Option (List Char) :=
  go cs.length cs
where
  go : Nat → List Char → Option (List Char)
    | _, [] => some []
    | 0, cs => some cs
    | _ + 1, ['\\'] => some ['\\']
    | fuel + 1, '\\' :: c :: cs => do
      let (es, rest) ← escape? isBytes c cs
      let tail ← go fuel rest
      return es ++ tail
    | fuel + 1, c :: cs => (go fuel cs).map (c :: ·)

/-- The text of a plain literal, with its escapes replaced unless it is raw. -/
def plain? (t : TextToken) (body : List Char) : Option (List Char) :=
  if t.isRaw then some body else unescape? t.isBytes body

/-- The bytes of a byte literal, which is written in ASCII. -/
def bytes? (t : TextToken) : Option (List UInt8) :=
  if t.body.all (·.toNat < 128) then
    (t.plain? t.body).map fun cs => cs.map fun c => UInt8.ofNat c.toNat
  else none

/-- Plain text up to a brace that opens or closes a field; doubled braces stand for themselves. Inside the
layout of a field braces cannot be doubled. -/
def takePlain? (raw nested : Bool) : List Char → Option (List Char × List Char)
  | [] => some ([], [])
  | '\\' :: c :: cs =>
    if raw || c == '\x7b' || c == '\x7d' then
      (takePlain? raw nested (c :: cs)).map fun (text, rest) => ('\\' :: text, rest)
    else (takePlain? raw nested cs).map fun (text, rest) => ('\\' :: c :: text, rest)
  | '\x7b' :: cs =>
    match nested, cs with
    | false, '\x7b' :: cs => (takePlain? raw nested cs).map fun (text, rest) => ('\x7b' :: text, rest)
    | _, cs => some ([], '\x7b' :: cs)
  | '\x7d' :: cs =>
    match nested, cs with
    | false, '\x7d' :: cs => (takePlain? raw nested cs).map fun (text, rest) => ('\x7d' :: text, rest)
    | false, _ => none
    | true, cs => some ([], '\x7d' :: cs)
  | c :: cs => (takePlain? raw nested cs).map fun (text, rest) => (c :: text, rest)

def closingBracket? : Char → Option Char
  | '(' => some ')'
  | '[' => some ']'
  | '\x7b' => some '\x7d'
  | _ => none

/-- The source of a field's expression up to the sign that ends it, which is kept in the rest. `open'` holds
the brackets to be closed, `quotes` the quotes of the text that the position is in. -/
def takeSource? (open' : List Char) (quotes : Option (List Char)) :
    Nat → List Char → Option (List Char × List Char)
  | 0, _ | _, [] => none
  | fuel + 1, c :: cs =>
    let keep (taken : List Char) (open' : List Char) (quotes : Option (List Char)) (rest : List Char) :=
      (takeSource? open' quotes fuel rest).map fun (source, rest) => (taken ++ source, rest)
    if c == '\\' then none
    else
      match quotes with
      | some q =>
        if q.isPrefixOf (c :: cs) then keep q open' none ((c :: cs).drop q.length)
        else keep [c] open' quotes cs
      | none =>
        if c == '\'' || c == '"' then
          let triple := List.replicate 3 c
          if triple.isPrefixOf (c :: cs) then keep triple open' (some triple) (cs.drop 2)
          else keep [c] open' (some [c]) cs
        else
          match closingBracket? c with
          | some close => keep [c] (close :: open') none cs
          | none =>
            if c == '#' then none
            else if open'.isEmpty && "!:\x7d=<>".toList.contains c then
              match cs with
              | '=' :: rest =>
                if c == ':' || c == '\x7d' then some ([], c :: cs) else keep [c, '='] open' none rest
              | _ => if c == '<' || c == '>' then keep [c] open' none cs else some ([], c :: cs)
            else if c == ')' || c == ']' || c == '\x7d' then
              match open' with
              | expected :: outer => if expected == c then keep [c] outer none cs else none
              | [] => none
            else keep [c] open' none cs

/-- Puts a text before pieces, as part of the first one where that is a text. -/
def consText (text : List Char) (pieces : List Piece) : List Piece :=
  match text, pieces with
  | [], pieces => pieces
  | text, .text s :: pieces => .text (String.ofList text ++ s) :: pieces
  | text, pieces => .text (String.ofList text) :: pieces

/-- The text that a field shows besides its value, which is its source if that ends in a sign of equality, and what
follows it. -/
def echo (source rest : List Char) : List Char × List Char :=
  match rest with
  | '=' :: r =>
    let blank := r.takeWhile fun c => c == ' ' || ('\t' ≤ c && c ≤ '\r')
    (source ++ '=' :: blank, r.drop blank.length)
  | r => ([], r)

/-- What follows the conversion of a field, if it has one. -/
def conversion? : List Char → Option (List Char)
  | '!' :: c :: r => if c == 's' || c == 'r' || c == 'a' then some r else none
  | '!' :: [] => none
  | r => some r

/-- The pieces of an interpolated text and what follows them: nothing, or inside a layout (`depth` is how
many fields enclose it) the brace that ends the field. -/
def pieces? (expression? : List Char → Option Expr) (t : TextToken) (depth : Nat) :
    Nat → List Char → Option (List Piece × List Char)
  | 0, _ => none
  | fuel + 1, cs => do
    let (text, rest) ← takePlain? t.isRaw (depth != 0) cs
    let text ← t.plain? text
    match rest with
    | '\x7b' :: rest =>
      if depth ≥ 2 then none
      else do
        let (source, rest) ← takeSource? [] none (rest.length + 1) rest
        if source.all fun c => c == ' ' || c == '\t' || c == '\n' || c == '\x0c' then none
        else do
          let e ← expression? source
          let rest' ← conversion? (echo source rest).2
          let (layout, rest') ← (match rest' with
            | ':' :: r => (pieces? expression? t (depth + 1) fuel r).map fun (ps, r) => (some ps, r)
            | r => some (none, r))
          match rest' with
          | '\x7d' :: rest' =>
            let (more, rest') ← pieces? expression? t depth fuel rest'
            return (consText (text ++ (echo source rest).1) (.field e layout :: more), rest')
          | _ => none
    | rest => return (consText text [], rest)

def allPieces? (expression? : List Char → Option Expr) (t : TextToken) : Option (List Piece) := do
  if t.isInterpolated then
    let (pieces, rest) ← pieces? expression? t 0 (t.body.length + 1) t.body
    if rest.isEmpty then return pieces else none
  else
    let text ← t.plain? t.body
    return consText text []

/-- The concatenation of pieces, with texts that meet joined. -/
def append (a b : List Piece) : List Piece :=
  match a with
  | [] => b
  | [.text s] => consText s.toList b
  | p :: a => p :: append a b

/-- The expression that adjacent text literals stand for together. Bytes do not mix with texts. -/
def expression? (read? : List Char → Option Expr) (ts : List TextToken) : Option Expr := do
  if ts.all (·.isBytes) then
    let parts ← ts.mapM bytes?
    return .literal (.bytes parts.flatten)
  if ts.any (·.isBytes) then none
  let pieces ← ts.mapM (allPieces? read?)
  let pieces := pieces.foldr append []
  if ts.any (·.isInterpolated) then return .interpolated pieces
  match pieces with
  | [.text s] => return .literal (.text s)
  | _ => return .literal (.text "")

end TextToken

end AccessPolicy
