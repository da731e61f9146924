import AccessPolicy.Number.Integer
import AccessPolicy.Yaml.Cursor

/-!
The texts of scalars in YAML: in quotes, plain, or as a block of lines. A single line break inside a scalar
becomes a blank, and of several the first one is dropped, except in literal blocks.
-/

namespace AccessPolicy.Yaml

def escape? : Char → Option Char
  | '0' => some '\x00'
  | 'a' => some '\x07'
  | 'b' => some '\x08'
  | 't' | '\t' => some '\t'
  | 'n' => some '\n'
  | 'v' => some '\x0b'
  | 'f' => some '\x0c'
  | 'r' => some '\r'
  | 'e' => some '\x1b'
  | ' ' => some ' '
  | '"' => some '"'
  | '\\' => some '\\'
  | '/' => some '/'
  | 'N' => some '\u0085'
  | '_' => some '\u00a0'
  | 'L' => some '\u2028'
  | 'P' => some '\u2029'
  | _ => none

/-- How many digits follow the letters of numeric escapes. -/
def escapeDigits? : Char → Option Nat
  | 'x' => some 2
  | 'u' => some 4
  | 'U' => some 8
  | _ => none

/-- The line breaks in a quoted text after its first one, without the blanks around them. Documents cannot
part there. -/
def moreBreaks : Nat → Cursor → Result (List Char × Cursor)
  | 0, c => .ok ([], c)
  | n + 1, c =>
    if c.partsDocuments then .error .scanner
    else
      let c := c.skipWhile fun d => d == ' ' || d == '\t'
      match c.takeBreak with
      | ([], c) => .ok ([], c)
      | (broken, c) => do
        let (more, c) ← moreBreaks n c
        return (broken ++ more, c)

/-- What a line break and the ones after it stand for. -/
def folded (first more : List Char) : List Char :=
  (if first != ['\n'] then first else if more.isEmpty then [' '] else []) ++ more

def quoted (quote : Char) : Nat → Cursor → Result (List Char × Cursor)
  | 0, _ => .error .scanner
  | n + 1, c => do
    let andThen (piece : List Char) (c : Cursor) : Result (List Char × Cursor) := do
      let (more, c) ← quoted quote n c
      return (piece ++ more, c)
    match c.peek with
    | none => throw .scanner
    | some d =>
      if d == quote then
        if quote == '\'' && c.peek 1 == some '\'' then andThen ['\''] (c.forward 2)
        else return ([], c.next)
      else if d == '\\' && quote == '"' then
        let c := c.next
        match c.peek with
        | none => throw .scanner
        | some e =>
          match escape? e, escapeDigits? e with
          | some x, _ => andThen [x] c.next
          | none, some count =>
            let ds := c.next.rest.take count
            match ds.mapM Number.hexDigit? with
            | some values =>
              if values.length == count then
                andThen [Char.ofNat (Number.ofDigits 16 values)] (c.next.forward count)
              else throw .scanner
            | none => throw .scanner
          | none, none =>
            if isBreak e then
              let (more, c) ← moreBreaks c.rest.length c.takeBreak.2
              andThen more c
            else throw .scanner
      else if d == ' ' || d == '\t' || isBreak d then
        let (blanks, c) := c.takeWhile fun e => e == ' ' || e == '\t'
        match c.takeBreak with
        | ([], c) => if c.peek.isNone then throw .scanner else andThen blanks c
        | (first, c) =>
          let (more, c) ← moreBreaks c.rest.length c
          andThen (folded first more) c
      else andThen [d] c.next

/-- The blanks and line breaks between the lines of a plain scalar; nothing where the scalar must end. Also
whether a line break was passed. -/
def plainGap (c : Cursor) : List Char × Bool × Cursor :=
  let (blanks, c) := c.takeWhile (· == ' ')
  match c.takeBreak with
  | ([], c) => (blanks, false, c)
  | (first, c) =>
    if c.partsDocuments then ([], true, c)
    else
      match breaks c.rest.length c with
      | (none, c) => ([], true, c)
      | (some more, c) => (folded first more, true, c)
where
  /-- The further line breaks; none at all where documents part. -/
  breaks : Nat → Cursor → Option (List Char) × Cursor
    | 0, c => (some [], c)
    | n + 1, c =>
      let c := c.skipWhile (· == ' ')
      match c.takeBreak with
      | ([], c) => (some [], c)
      | (broken, c) =>
        if c.partsDocuments then (none, c)
        else
          let (more, c) := breaks n c
          (more.map (broken ++ ·), c)

def plainRun (inFlow : Bool) : List Char → Nat
  | [] => 0
  | c :: cs =>
    let ends := isGap (some c) ||
      (c == ':' && (isGap cs.head? || (inFlow && cs.head?.any fun d => d ∈ [',', '[', ']', '\x7b', '\x7d']))) ||
      (inFlow && c ∈ [',', '?', '[', ']', '\x7b', '\x7d'])
    if ends then 0 else plainRun inFlow cs + 1

/-- A plain scalar with lines indented by at least `indent`, and whether a line break was passed after
it. -/
def plain (inFlow : Bool) (indent : Int) : Nat → List Char → Cursor → List Char × Bool × Cursor
  | 0, _, c => ([], false, c)
  | n + 1, gap, c =>
    let size := if c.isAt '#' then 0 else plainRun inFlow c.rest
    if size == 0 then ([], !gap.isEmpty && gap.any isBreak, c)
    else
      let piece := gap ++ c.rest.take size
      let (gap, broken, c) := plainGap (c.forward size)
      if gap.isEmpty || c.isAt '#' || (!inFlow && (c.column : Int) < indent) then (piece, broken, c)
      else
        let (more, brokenLater, c') := plain inFlow indent n gap c
        if more.isEmpty then (piece, broken, c') else (piece ++ more, brokenLater, c')

/-- What becomes of the line breaks at the end of a block. -/
inductive Chomping where
  | clip
  | strip
  | keep
  deriving DecidableEq, Repr

def chomping? : Option Char → Option Chomping
  | some '+' => some .keep
  | some '-' => some .strip
  | _ => none

def increment? : Option Char → Option Nat
  | some c => if c.isDigit then some (c.toNat - '0'.toNat) else none
  | none => none

/-- The indicators of a block: how its end is treated, and how far it is indented if that is said. -/
def blockHeader (c : Cursor) : Result (Chomping × Option Nat × Cursor) := do
  let (chomping, increment, c) : Option Chomping × Option Nat × Cursor :=
    match chomping? c.peek with
    | some k =>
      match increment? c.next.peek with
      | some n => (some k, some n, c.forward 2)
      | none => (some k, none, c.next)
    | none =>
      match increment? c.peek with
      | some n =>
        match chomping? c.next.peek with
        | some k => (some k, some n, c.forward 2)
        | none => (none, some n, c.next)
      | none => (none, none, c)
  if increment == some 0 then throw .scanner
  if !(endsLine c.peek || c.isAt ' ') then throw .scanner
  let c := c.skipWhile (· == ' ')
  let c := if c.isAt '#' then c.skipWhile fun d => !isBreak d else c
  if endsLine c.peek then return (chomping.getD .clip, increment, c.takeBreak.2) else throw .scanner

/-- The empty lines at the start of a block, and the widest indentation among them and the line after. -/
def blockStart : Nat → Nat → Cursor → List Char × Nat × Cursor
  | 0, widest, c => ([], widest, c)
  | n + 1, widest, c =>
    let c := c.skipWhile (· == ' ')
    let widest := max widest c.column
    match c.takeBreak with
    | ([], c) => ([], widest, c)
    | (broken, c) =>
      let (more, widest, c) := blockStart n widest c
      (broken ++ more, widest, c)

def indentTo (indent : Nat) (c : Cursor) : Cursor :=
  c.forward (min (indent - c.column) (c.rest.takeWhile (· == ' ')).length)

/-- The empty lines inside a block, and the place after the indentation of the line that follows. -/
def blockBreaks (indent : Nat) : Nat → Cursor → List Char × Cursor
  | 0, c => ([], c)
  | n + 1, c =>
    let c := indentTo indent c
    match c.takeBreak with
    | ([], c) => ([], c)
    | (broken, c) =>
      let (more, c) := blockBreaks indent n c
      (broken ++ more, c)

/-- The lines of a block after the line breaks `before`; also the line breaks at its end. -/
def blockLines (fold : Bool) (indent : Nat) : Nat → List Char → List Char → Cursor →
    List Char × List Char × List Char × Cursor
  | 0, lineBreak, before, c => ([], lineBreak, before, c)
  | n + 1, lineBreak, before, c =>
    if c.column == indent && c.peek.isSome then
      let leadsWithText := !(c.isAt ' ' || c.isAt '\t')
      let (text, c) := c.takeWhile fun d => !isBreak d
      let (lineBreak', c) := c.takeBreak
      let (breaks, c) := blockBreaks indent (c.rest.length + 1) c
      if c.column == indent && c.peek.isSome then
        let joined :=
          if fold && lineBreak' == ['\n'] && leadsWithText && !(c.isAt ' ' || c.isAt '\t') then
            (if breaks.isEmpty then [' '] else [])
          else lineBreak'
        let (more, last, tail, c) := blockLines fold indent n lineBreak' breaks c
        (before ++ text ++ joined ++ more, last, tail, c)
      else (before ++ text, lineBreak', breaks, c)
    else ([], lineBreak, before, c)

/-- A block of lines after its mark, inside a collection that is indented by `outer`. -/
def block (fold : Bool) (outer : Int) (c : Cursor) : Result (List Char × Cursor) := do
  let (chomping, increment, c) ← blockHeader c
  let least := (max (outer + 1) 1).toNat
  let (indent, before, c) : Nat × List Char × Cursor := match increment with
    | some n =>
      let indent := least + n - 1
      let (breaks, c) := blockBreaks indent (c.rest.length + 1) c
      (indent, breaks, c)
    | none =>
      let (breaks, widest, c) := blockStart (c.rest.length + 1) 0 c
      (max least widest, breaks, c)
  let (text, lineBreak, breaks, c) := blockLines fold indent (c.rest.length + 1) [] before c
  let text := if chomping == .strip then text else text ++ lineBreak
  return (if chomping == .keep then text ++ breaks else text, c)

end AccessPolicy.Yaml
