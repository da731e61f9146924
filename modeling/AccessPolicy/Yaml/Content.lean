import AccessPolicy.Value.Equality
import AccessPolicy.Value.Items
import AccessPolicy.Yaml.Form
import AccessPolicy.Yaml.Node

/-!
The values of YAML nodes. A mapping may merge others into itself; its own entries win, and of entries with
equal keys the last one counts.
-/

namespace AccessPolicy.Yaml

namespace Node

def standardName? (tag : String) : Option String :=
  if tag.startsWith Parser.standardTag then some (tag.drop Parser.standardTag.length).toString else none

def kindName : ScalarKind → String
  | .text => "str"
  | .null => "null"
  | .bool => "bool"
  | .int => "int"
  | .float => "float"
  | .timestamp => "timestamp"
  | .merge => "merge"
  | .value => "value"

/-- The name of the kind of a node; none for a tag that is not standard. -/
def kind? : Node → Option String
  | .scalar none plain text => some (if plain then kindName (Form.kind text) else "str")
  | .sequence none _ => some "seq"
  | .mapping none _ => some "map"
  | .scalar (some t) _ _ | .sequence (some t) _ | .mapping (some t) _ => standardName? t
  | .cycle => none

def scalarValue (kind text : String) : Result Value :=
  match kind with
  | "str" => .ok (.text text)
  | "null" => .ok .null
  | "bool" => do return .bool (← Form.bool text)
  | "int" => do return .int (← Form.int text)
  | "float" => do return .float (← Form.float text)
  | "timestamp" => .ok (.object ⟨0, "date", [], none, []⟩)
  | _ => .error .constructor

/-- The entries of a mapping with those that it merges, which go first. -/
def merged : Nat → List (Node × Node) → Result (List (Node × Node))
  | 0, _ => .error .constructor
  | n + 1, entries => do
    let own := entries.filter fun (k, _) => k.kind? != some "merge"
    let others ← (entries.filter fun (k, _) => k.kind? == some "merge").mapM fun (_, v) =>
      match v with
      | .mapping _ es => merged n es
      | .sequence _ items => do
        let parts ← items.mapM fun
          | .mapping _ es => merged n es
          | _ => .error .constructor
        return parts.reverse.flatten
      | _ => .error .constructor
    return others.flatten ++ own

def keyNode : Node → Node
  | .scalar none true "=" => .scalar none false "="
  | k => k

def content : Nat → Node → Result Value
  | 0, _ => .error .constructor
  | n + 1, node => do
    let pairs (entries : List (Node × Node)) : Result (List (Value × Value)) := do
      (← merged n entries).foldlM (fun es (k, v) => do
        let key ← content n (keyNode k)
        if !key.isHashable then throw .constructor
        return insertEntry es key (← content n v)) []
    match node.kind?, node with
    | some "seq", .sequence _ items => return .list (← items.mapM (content n))
    | some "map", .mapping _ entries => return .dict (← pairs entries)
    | some "set", .mapping _ entries => return .set ((← pairs entries).map Prod.fst)
    | some "omap", .sequence _ items | some "pairs", .sequence _ items =>
      return .list (← items.mapM fun
        | .mapping _ [(k, v)] => do return .tuple [← content n k, ← content n v]
        | _ => throw .constructor)
    | some kind, .scalar _ _ text => scalarValue kind text
    | _, _ => throw .constructor

end Node

/-- The characters that may stand in a document. -/
def isPrintable (c : Char) : Bool :=
  let n := c.toNat
  c == '\t' || c == '\n' || c == '\r' || (0x20 ≤ n && n ≤ 0x7E) || n == 0x85 || (0xA0 ≤ n && n ≤ 0xFFFD) ||
    0x10000 ≤ n

/-- A text with all its line breaks written as one character. -/
def unifyBreaks : List Char → List Char
  | '\r' :: '\n' :: cs => '\n' :: unifyBreaks cs
  | '\r' :: cs => '\n' :: unifyBreaks cs
  | c :: cs => c :: unifyBreaks cs
  | [] => []

/-- The value of the only document of a text; a text without a document has none. -/
def read (s : String) : Result Value := do
  let cs := unifyBreaks s.toList
  if !cs.all isPrintable then throw .reader
  match ← node? cs with
  | none => return .null
  | some root => root.content (2 * cs.length + 2)

end AccessPolicy.Yaml
