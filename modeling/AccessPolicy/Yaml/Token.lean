import AccessPolicy.Yaml.Scalar

/-!
The tokens of a YAML document. Indentation becomes tokens that start and end blocks. A key is known only by
the colon after it, so places where one may have begun are kept until the line ends.
-/

namespace AccessPolicy.Yaml

/-- A tag as it is written: a handle, if it has one, and what follows. -/
structure Tag where
  handle : Option String
  suffix : String
  deriving DecidableEq, Repr

inductive Token where
  /-- A directive; only versions and tag handles mean anything. -/
  | version (major : Nat)
  | handle (name uri : String)
  | directive
  | documentStart
  | documentEnd
  | blockSequenceStart
  | blockMappingStart
  | blockEnd
  | flowSequenceStart
  | flowSequenceEnd
  | flowMappingStart
  | flowMappingEnd
  | entry
  | flowEntry
  | key
  | value
  | anchor (name : String)
  | reference (name : String)
  | tag (t : Tag)
  | scalar (plain : Bool) (text : String)
  | streamEnd
  deriving DecidableEq, Repr

/-- A place where a key may have begun. -/
structure KeyStart where
  /-- How many tokens come before it. -/
  position : Nat
  /-- Whether it must turn out to be one. -/
  required : Bool
  index : Nat
  line : Nat
  column : Nat

structure Scan where
  cursor : Cursor
  flow : Int := 0
  indent : Int := -1
  indents : List Int := []
  allowKey : Bool := true
  keys : List (Int × KeyStart) := []
  tokens : List Token := []

namespace Scan

def push (s : Scan) (t : Token) : Scan := { s with tokens := s.tokens ++ [t] }

def insert (s : Scan) (position : Nat) (t : Token) : Scan :=
  { s with tokens := s.tokens.take position ++ t :: s.tokens.drop position }

def inFlow (s : Scan) : Bool := s.flow != 0

/-- Gives up the key that may have begun on this level. -/
def dropKey (s : Scan) : Result Scan :=
  match s.keys.lookup s.flow with
  | some k => if k.required then .error .scanner else .ok { s with keys := s.keys.filter (·.1 != s.flow) }
  | none => .ok s

/-- Notes that a key may begin here. -/
def noteKey (s : Scan) : Result Scan := do
  if !s.allowKey then return s
  let required := !s.inFlow && s.indent == s.cursor.column
  let s ← s.dropKey
  let k : KeyStart := ⟨s.tokens.length, required, s.cursor.index, s.cursor.line, s.cursor.column⟩
  return { s with keys := (s.flow, k) :: s.keys }

/-- Gives up keys that would end on another line or be too long. -/
def dropStaleKeys (s : Scan) : Result Scan :=
  let isStale (k : KeyStart) : Bool := k.line != s.cursor.line || s.cursor.index - k.index > 1024
  if s.keys.any fun (_, k) => isStale k && k.required then .error .scanner
  else .ok { s with keys := s.keys.filter fun (_, k) => !isStale k }

/-- Ends the blocks that are indented further than a column. -/
def unwind (s : Scan) (column : Int) : Scan :=
  if s.inFlow then s else go s s.indents
where
  go (s : Scan) : List Int → Scan
    | [] => s
    | outer :: rest =>
      if s.indent > column then go { s.push .blockEnd with indent := outer, indents := rest } rest else s

/-- Starts a block at a column, if it is further than the current one; `start` goes before the token with a
number. -/
def indentTo (s : Scan) (column : Nat) (position : Nat) (start : Token) : Scan :=
  if s.indent < column then
    { s.insert position start with indent := column, indents := s.indent :: s.indents }
  else s

/-- Skips blanks, comments and line breaks. -/
def skipGaps : Nat → Scan → Scan
  | 0, s => s
  | n + 1, s =>
    let c := s.cursor.skipWhile (· == ' ')
    let c := if c.isAt '#' then c.skipWhile fun d => !isBreak d else c
    match c.takeBreak with
    | ([], c) => { s with cursor := c }
    | (_, c) => skipGaps n { s with cursor := c, allowKey := s.allowKey || !s.inFlow }

def mark (s : Scan) (t : Token) : Scan := { s.push t with cursor := s.cursor.next }

/-- Ends all blocks before a directive or a mark between documents. -/
def toTop (s : Scan) : Result Scan := do
  return { ← (s.unwind (-1)).dropKey with allowKey := false }

def isWordChar (c : Char) : Bool := c.isAlphanum || c == '-' || c == '_'

def word (c : Cursor) : Result (String × Cursor) := do
  let (cs, c) := c.takeWhile isWordChar
  if cs.isEmpty then throw .scanner
  return (String.ofList cs, c)

def number (c : Cursor) : Result (Nat × Cursor) := do
  let (ds, c) := c.takeWhile Char.isDigit
  if ds.isEmpty then throw .scanner
  return (Number.ofDigits 10 (ds.map fun d => d.toNat - '0'.toNat), c)

/-- Whether a character may stand in a tag. -/
def isUriChar (c : Char) : Bool :=
  c.isAlphanum || c ∈ ['-', ';', '/', '?', ':', '@', '&', '=', '+', '$', ',', '_', '.', '!', '~', '*', '\'', '(',
    ')', '[', ']', '%']

def uri (c : Cursor) : Result (String × Cursor) := do
  let (cs, c) := c.takeWhile isUriChar
  if cs.isEmpty then throw .scanner
  return (String.ofList cs, c)

/-- The handle of a tag: marks around a word, which may be missing together with its second mark. -/
def tagHandle (c : Cursor) : Result (String × Cursor) := do
  if !c.isAt '!' then throw .scanner
  let (cs, d) := c.next.takeWhile isWordChar
  if d.isAt '!' then return ("!" ++ String.ofList cs ++ "!", d.next)
  else if cs.isEmpty then return ("!", d)
  else throw .scanner

def directive (c : Cursor) : Result (Token × Cursor) := do
  let (name, c) ← word c
  if !(endsLine c.peek || c.isAt ' ') then throw .scanner
  let (t, c) : Token × Cursor ←
    if name == "YAML" then do
      let (major, c) ← number (c.skipWhile (· == ' '))
      if !c.isAt '.' then throw .scanner
      let (_, c) ← number c.next
      if !(endsLine c.peek || c.isAt ' ') then throw .scanner
      pure (.version major, c)
    else if name == "TAG" then do
      let (handle, c) ← tagHandle (c.skipWhile (· == ' '))
      if !c.isAt ' ' then throw .scanner
      let (target, c) ← uri (c.skipWhile (· == ' '))
      if !(endsLine c.peek || c.isAt ' ') then throw .scanner
      pure (.handle handle target, c)
    else pure (.directive, c.skipWhile fun d => !isBreak d)
  let c := c.skipWhile (· == ' ')
  let c := if c.isAt '#' then c.skipWhile fun d => !isBreak d else c
  if endsLine c.peek then return (t, c.takeBreak.2) else throw .scanner

/-- The name of an anchor or a reference after its mark. -/
def anchorName (c : Cursor) : Result (String × Cursor) := do
  let (name, c) ← word c
  if isGap c.peek || c.peek.any fun d => d ∈ ['?', ':', ',', ']', '\x7d', '%', '@', '\x60'] then return (name, c)
  else throw .scanner

def tag (c : Cursor) : Result (Tag × Cursor) := do
  let (t, c) : Tag × Cursor ←
    if c.peek 1 == some '<' then do
      let (suffix, c) ← uri (c.forward 2)
      if !c.isAt '>' then throw .scanner
      pure (⟨none, suffix⟩, c.next)
    else if isGap (c.peek 1) then pure (⟨none, "!"⟩, c.next)
    else do
      let untilGap := c.next.rest.takeWhile fun d => !(d == ' ' || isBreak d)
      let (handle, c) ← if untilGap.contains '!' then tagHandle c else pure ("!", c.next)
      let (suffix, c) ← uri c
      pure (⟨some handle, suffix⟩, c)
  if endsLine c.peek || c.isAt ' ' then return (t, c) else throw .scanner

def blockEntry (s : Scan) : Result Scan := do
  if !s.inFlow && !s.allowKey then throw .scanner
  let s := if s.inFlow then s else s.indentTo s.cursor.column s.tokens.length .blockSequenceStart
  return (← { s with allowKey := true }.dropKey).mark .entry

def markedKey (s : Scan) : Result Scan := do
  if !s.inFlow && !s.allowKey then throw .scanner
  let s := if s.inFlow then s else s.indentTo s.cursor.column s.tokens.length .blockMappingStart
  return (← { s with allowKey := !s.inFlow }.dropKey).mark .key

/-- A value: what may have begun as a key is one now. -/
def startValue (s : Scan) : Result Scan := do
  match s.keys.lookup s.flow with
  | some k =>
    let s := { s with keys := s.keys.filter (·.1 != s.flow) }.insert k.position .key
    let s := if s.inFlow then s else s.indentTo k.column k.position .blockMappingStart
    return { s with allowKey := false }.mark .value
  | none =>
    if !s.inFlow && !s.allowKey then throw .scanner
    let s := if s.inFlow then s else s.indentTo s.cursor.column s.tokens.length .blockMappingStart
    return (← { s with allowKey := !s.inFlow }.dropKey).mark .value

/-- A token that may begin a key, and that `read` reads after its mark. -/
def keyed (s : Scan) (read : Cursor → Result (Token × Cursor)) : Result Scan := do
  let s := { ← s.noteKey with allowKey := false }
  let (t, c) ← read s.cursor
  return { s.push t with cursor := c }

def startsPlain (s : Scan) : Bool :=
  match s.cursor.peek with
  | none => false
  | some c =>
    let special := isGap (some c) || c ∈ ['-', '?', ':', ',', '[', ']', '\x7b', '\x7d', '#', '&', '*', '!', '|', '>',
      '\'', '"', '%', '@', '\x60']
    !special || (!isGap (s.cursor.peek 1) && (c == '-' || (!s.inFlow && (c == '?' || c == ':'))))

/-- The next token, and whether it is the last one. -/
def step (s : Scan) : Result (Scan × Bool) := do
  let s ← (skipGaps (s.cursor.rest.length + 1) s).dropStaleKeys
  let s := s.unwind s.cursor.column
  let c := s.cursor
  let spaced := isGap (c.peek 1)
  let go (s : Result Scan) : Result (Scan × Bool) := do return (← s, false)
  match c.peek with
  | none =>
    let s ← s.toTop
    return (s.push .streamEnd, true)
  | some d =>
    if d == '%' && c.column == 0 then go do
      let s ← s.toTop
      let (t, c) ← directive s.cursor.next
      return { s.push t with cursor := c }
    else if c.column == 0 && c.partsDocuments then go do
      let s ← s.toTop
      return { s.push (if d == '-' then .documentStart else .documentEnd) with cursor := s.cursor.forward 3 }
    else if d == '[' || d == '\x7b' then go do
      let s ← s.noteKey
      return { s with flow := s.flow + 1, allowKey := true }.mark
        (if d == '[' then .flowSequenceStart else .flowMappingStart)
    else if d == ']' || d == '\x7d' then go do
      let s ← s.dropKey
      return { s with flow := s.flow - 1, allowKey := false }.mark
        (if d == ']' then .flowSequenceEnd else .flowMappingEnd)
    else if d == ',' then go do
      return (← { s with allowKey := true }.dropKey).mark .flowEntry
    else if d == '-' && spaced then go s.blockEntry
    else if d == '?' && (s.inFlow || spaced) then go s.markedKey
    else if d == ':' && (s.inFlow || spaced) then go s.startValue
    else if d == '*' then go (s.keyed fun c => do
      let (name, c) ← anchorName c.next
      return (.reference name, c))
    else if d == '&' then go (s.keyed fun c => do
      let (name, c) ← anchorName c.next
      return (.anchor name, c))
    else if d == '!' then go (s.keyed fun c => do
      let (t, c) ← tag c
      return (.tag t, c))
    else if (d == '|' || d == '>') && !s.inFlow then go do
      let s ← { s with allowKey := true }.dropKey
      let (text, c) ← block (d == '>') s.indent s.cursor.next
      return { s.push (.scalar false (String.ofList text)) with cursor := c }
    else if d == '\'' || d == '"' then go (s.keyed fun c => do
      let (text, c) ← quoted d c.rest.length c.next
      return (.scalar false (String.ofList text), c))
    else if s.startsPlain then go do
      let s ← s.noteKey
      let (text, broken, c) := plain s.inFlow (s.indent + 1) (s.cursor.rest.length + 1) [] s.cursor
      return { s.push (.scalar true (String.ofList text)) with cursor := c, allowKey := broken }
    else throw .scanner

/-- All tokens; every step but the last takes a character. After a fault come no tokens that a key which may
have begun before them would still change. -/
def run : Nat → Scan → List Token × Option YamlFault
  | 0, s => (s.tokens, some .scanner)
  | n + 1, s =>
    match s.step with
    | .ok (s, true) => (s.tokens, none)
    | .ok (s, false) => run n s
    | .error f =>
      let pending := s.dropStaleKeys.toOption.getD s
      (s.tokens.take (pending.keys.foldl (fun m (_, k) => min m k.position) s.tokens.length), some f)

end Scan

/-- The tokens of a text, and the fault that ends them before its end. -/
def tokens (cs : List Char) : List Token × Option YamlFault :=
  let cs := if cs.head? == some '\ufeff' then cs.tail else cs
  Scan.run (cs.length + 1) { cursor := { rest := cs } }

end AccessPolicy.Yaml
