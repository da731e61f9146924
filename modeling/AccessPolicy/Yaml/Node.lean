import AccessPolicy.Yaml.Token

/-!
The nodes of a YAML document: scalars, sequences and mappings, with their tags. A reference is the node that
its anchor stands at.
-/

namespace AccessPolicy.Yaml

/-- A node. A node without a tag of its own takes one from its form, which only a plain scalar has. -/
inductive Node where
  | scalar (tag : Option String) (plain : Bool) (text : String)
  | sequence (tag : Option String) (items : List Node)
  | mapping (tag : Option String) (entries : List (Node × Node))
  /-- A reference to a node around it. -/
  | cycle

instance : Inhabited Node := ⟨.cycle⟩

def Node.empty : Node := .scalar none true ""

/-- What is left of a document, and what it has declared. -/
structure Reading where
  tokens : List Token
  /-- The fault after the last token. -/
  fault : YamlFault
  /-- Anchors; those of nodes that are not complete have no node yet. -/
  anchors : List (String × Option Node) := []
  handles : List (String × String) := []

abbrev Parser := StateT Reading (Except YamlFault)

namespace Parser

def peek : Parser Token := do
  match (← get).tokens with
  | t :: _ => return t
  | [] => throw (← get).fault

def advance : Parser Unit := modify fun r => { r with tokens := r.tokens.tail }

def take (t : Token) : Parser Bool := do
  if (← peek) == t then advance; return true else return false

def isOneOf (ts : List Token) : Parser Bool := do return ts.contains (← peek)

def standardTag : String := "tag:yaml.org,2002:"

def standardHandles : List (String × String) := [("!", "!"), ("!!", standardTag)]

/-- The tag that a written tag stands for. A lone mark asks for the tag of the form. -/
def resolveTag (t : Tag) : Parser (Option String) := do
  match t.handle with
  | none => return if t.suffix == "!" then none else some t.suffix
  | some h =>
    match ((← get).handles ++ standardHandles).lookup h with
    | some target => return some (target ++ t.suffix)
    | none => throw .parser

/-- What stands before a node: an anchor and a tag in either order. -/
structure Properties where
  anchor : Option String := none
  tag : Option Tag := none

def takeAnchor (p : Properties) : Parser Properties := do
  match ← peek with
  | .anchor name => advance; return { p with anchor := some name }
  | _ => return p

def takeTag (p : Properties) : Parser Properties := do
  match ← peek with
  | .tag t => advance; return { p with tag := some t }
  | _ => return p

def properties : Parser Properties := do
  let p ← takeAnchor {}
  let p ← takeTag p
  if p.anchor.isNone then takeAnchor p else return p

/-- Declares an anchor, which must be a new one. -/
def declare : Option String → Parser Unit
  | none => return ()
  | some name => do
    if ((← get).anchors.lookup name).isSome then throw .composer
    modify fun r => { r with anchors := (name, none) :: r.anchors }

def complete (anchor : Option String) (node : Node) : Parser Node := do
  if let some name := anchor then
    modify fun r => { r with anchors := r.anchors.map fun (n, old) => if n == name then (n, some node) else (n, old) }
  return node

mutual

/-- A node; `inBlock` says that it may be a block, and `indentless` that its entries may stand as far left as
the key before them. -/
def node (fuel : Nat) (inBlock indentless : Bool) : Parser Node := do
  match fuel with
  | 0 => throw .parser
  | n + 1 =>
    if let .reference name ← peek then
      advance
      match (← get).anchors.lookup name with
      | some found => return found.getD .cycle
      | none => throw .composer
    let p ← properties
    let tag ← match p.tag with
      | some t => resolveTag t
      | none => pure none
    match ← peek with
    | .scalar plain text =>
      advance
      declare p.anchor
      let isPlain := if p.tag.isSome then tag.isNone else plain
      complete p.anchor (.scalar tag isPlain text)
    | .flowSequenceStart => advance; declare p.anchor; complete p.anchor (.sequence tag (← flowItems n true))
    | .flowMappingStart => advance; declare p.anchor; complete p.anchor (.mapping tag (← flowEntries n true))
    | .blockSequenceStart =>
      if !inBlock then throw .parser
      advance
      declare p.anchor
      complete p.anchor (.sequence tag (← blockItems n))
    | .blockMappingStart =>
      if !inBlock then throw .parser
      advance
      declare p.anchor
      complete p.anchor (.mapping tag (← blockEntries n))
    | t =>
      if indentless && t == .entry then
        declare p.anchor
        complete p.anchor (.sequence tag (← indentlessItems n))
      else if p.anchor.isSome || p.tag.isSome then
        declare p.anchor
        complete p.anchor (.scalar tag tag.isNone "")
      else throw .parser

/-- A node, or nothing where one of some tokens follows. -/
def nodeUnless (fuel : Nat) (ends : List Token) (inBlock indentless : Bool) : Parser Node := do
  match fuel with
  | 0 => throw .parser
  | n + 1 => if ← isOneOf ends then return .empty else node n inBlock indentless

def blockItems (fuel : Nat) : Parser (List Node) := do
  match fuel with
  | 0 => throw .parser
  | n + 1 =>
    if ← take .entry then
      let item ← nodeUnless n [.entry, .blockEnd] true false
      return item :: (← blockItems n)
    else if ← take .blockEnd then return []
    else throw .parser

/-- The items of a sequence as far left as the key before it. -/
def indentlessItems (fuel : Nat) : Parser (List Node) := do
  match fuel with
  | 0 => throw .parser
  | n + 1 =>
    if ← take .entry then
      let item ← nodeUnless n [.entry, .key, .value, .blockEnd] true false
      return item :: (← indentlessItems n)
    else return []

def blockEntries (fuel : Nat) : Parser (List (Node × Node)) := do
  match fuel with
  | 0 => throw .parser
  | n + 1 =>
    let ends : List Token := [.key, .value, .blockEnd]
    let value : Parser Node := do
      if ← take .value then nodeUnless n ends true true else return .empty
    if ← take .key then
      let key ← nodeUnless n ends true true
      let v ← value
      return (key, v) :: (← blockEntries n)
    else if ← take .blockEnd then return []
    else throw .parser

def flowItems (fuel : Nat) (first : Bool) : Parser (List Node) := do
  match fuel with
  | 0 => throw .parser
  | n + 1 =>
    if ← take .flowSequenceEnd then return []
    if !first then
      if !(← take .flowEntry) then throw .parser
    if ← take .key then
      let key ← nodeUnless n [.value, .flowEntry, .flowSequenceEnd] false false
      let value ← if ← take .value then nodeUnless n [.flowEntry, .flowSequenceEnd] false false else pure .empty
      return .mapping none [(key, value)] :: (← flowItems n false)
    else if ← take .flowSequenceEnd then return []
    else
      let item ← node n false false
      return item :: (← flowItems n false)

def flowEntries (fuel : Nat) (first : Bool) : Parser (List (Node × Node)) := do
  match fuel with
  | 0 => throw .parser
  | n + 1 =>
    if ← take .flowMappingEnd then return []
    if !first then
      if !(← take .flowEntry) then throw .parser
    if ← take .key then
      let key ← nodeUnless n [.value, .flowEntry, .flowMappingEnd] false false
      let value ← if ← take .value then nodeUnless n [.flowEntry, .flowMappingEnd] false false else pure .empty
      return (key, value) :: (← flowEntries n false)
    else if ← take .flowMappingEnd then return []
    else
      let key ← node n false false
      return (key, .empty) :: (← flowEntries n false)

end

/-- Reads directives. There is at most one version, and it begins with one; each handle is declared once. -/
def directives (fuel : Nat) (versioned : Bool) : Parser Unit := do
  match fuel with
  | 0 => throw .parser
  | n + 1 =>
    match ← peek with
    | .version major =>
      advance
      if versioned || major != 1 then throw .parser
      directives n true
    | .handle name target =>
      advance
      if ((← get).handles.lookup name).isSome then throw .parser
      modify fun r => { r with handles := (name, target) :: r.handles }
      directives n versioned
    | .directive => advance; directives n versioned
    | _ => return ()

def skipEnds (fuel : Nat) : Parser Unit := do
  match fuel with
  | 0 => throw .parser
  | n + 1 => if ← take .documentEnd then skipEnds n

/-- The start of a document that is marked; answers whether there is one. -/
def startDocument (fuel : Nat) : Parser Bool := do
  skipEnds fuel
  if (← peek) == .streamEnd then return false
  directives fuel false
  if ← take .documentStart then return true else throw .parser

/-- The only document of a text, if there is one. -/
def document (fuel : Nat) : Parser (Option Node) := do
  let root : Option Node ← match ← peek with
    | .version _ | .handle .. | .directive | .documentStart | .streamEnd =>
      if ← startDocument fuel then
        match ← peek with
        | .version _ | .handle .. | .directive | .documentStart | .documentEnd | .streamEnd => pure (some .empty)
        | _ => some <$> node fuel true false
      else pure none
    | _ => some <$> node fuel true false
  if root.isSome then
    if ← startDocument fuel then throw .composer
  return root

end Parser

/-- The node of the only document of a text, if there is one. -/
def node? (cs : List Char) : Result (Option Node) :=
  let (ts, fault) := tokens cs
  ((Parser.document (8 * ts.length + 8)).run { tokens := ts, fault := fault.getD .parser }).map Prod.fst

end AccessPolicy.Yaml
