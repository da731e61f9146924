import AccessPolicy.Value.Equality
import AccessPolicy.Value.Fault
import AccessPolicy.Value.SetOrder

/-!
Values as collections: their size, their elements in order, and what a subscript picks out of them.
-/

namespace AccessPolicy

def rangeItems (start stop step : Int) : List Value :=
  (List.range (rangeLength start stop step)).map fun (i : Nat) => .int (start + step * i)

/-- The fields of a document, as pairs. -/
def Document.fields (d : Document) : List (String × Value) :=
  [("id", .int d.id), ("title", .text d.title), ("owner", .text d.owner), ("confidential", .bool d.confidential)]

/-- The elements that iteration yields; `none` for what cannot be iterated. -/
def Value.items? : Value → Option (List Value)
  | .text s => some (s.toList.map fun c => .text c.toString)
  | .bytes data | .byteArray data => some (data.map fun b => .int b.toNat)
  | .list items | .tuple items | .deque items | .view _ items | .array _ items | .iterator items => some items
  | .set items | .frozenSet items => some (listed items items)
  | .mapping _ entries => some (entries.map (·.1))
  | .range start stop step => some (rangeItems start stop step)
  | .document d => some (d.fields.map fun (name, v) => .tuple [.text name, v])
  | .peer host port => some [.text host, .int port]
  | .request _ => some []
  | .requestHeaders r => some (r.headers.map fun h => .text h.1)
  | _ => none

def Value.items (v : Value) : Attempt (List Value) :=
  match v.items? with
  | some items => .ok items
  | none => .error .wrongType

def Value.size? : Value → Option Nat
  | .text s => some s.length
  | .bytes data | .byteArray data => some data.length
  | .list items | .tuple items | .deque items | .set items | .frozenSet items | .view _ items
  | .array _ items => some items.length
  | .mapping _ entries => some entries.length
  | .range start stop step => some (rangeLength start stop step)
  | .peer .. => some 2
  | .requestHeaders r => some r.headers.length
  | _ => none

def Value.truthy : Value → Bool
  | .null => false
  | .bool b => b
  | .int n => n != 0
  | .float x => x != 0
  | .complex re im => re != 0 || im != 0
  | v =>
    match v.size? with
    | some n => n != 0
    | none => true

/-- A value as an index: integers and truth values only. -/
def Value.index? : Value → Option Int
  | .int n => some n
  | .bool b => some (if b then 1 else 0)
  | _ => none

/-- The position that an index counted from either end denotes. -/
def position? (size : Nat) (i : Int) : Option Nat :=
  let j := if i < 0 then i + size else i
  if 0 ≤ j && j < size then some j.toNat else none

/-- One bound of a slice: absent, or an index. -/
def sliceBound : Value → Attempt (Option Int)
  | .null => .ok none
  | v =>
    match v.index? with
    | some n => .ok (some n)
    | none => .error .wrongType

/-- The bounds and the step of a slice of a sequence of the given size; the first bound is the first position
that is picked, if there is one. -/
def sliceBounds (size : Nat) (lower upper step : Value) : Attempt (Int × Int × Int) := do
  let step ← sliceBound step
  let step := step.getD 1
  if step == 0 then throw .badValue
  let lower ← sliceBound lower
  let upper ← sliceBound upper
  let n : Int := size
  let clamp (least most i : Int) : Int :=
    let i := if i < 0 then i + n else i
    max least (min most i)
  let (least, most) : Int × Int := if step > 0 then (0, n) else (-1, n - 1)
  let start := match lower with
    | some i => clamp least most i
    | none => if step > 0 then 0 else n - 1
  let stop := match upper with
    | some i => clamp least most i
    | none => if step > 0 then n else -1
  return (start, stop, step)

/-- The positions that a slice of a sequence of the given size picks, in order. -/
def slicePositions (size : Nat) (lower upper step : Value) : Attempt (List Nat) := do
  let (start, stop, step) ← sliceBounds size lower upper step
  return (List.range (rangeLength start stop step)).map fun (i : Nat) => (start + step * i).toNat

def pick {α : Type} (items : List α) (positions : List Nat) : List α :=
  let a := items.toArray
  positions.filterMap fun i => a[i]?

/-- One element, or a slice, of a sequence; `whole` builds a value of the same shape. -/
def subscriptSequence {α : Type} (items : List α) (one : α → Value) (whole : List α → Value) (key : Value) :
    Attempt Value :=
  match key with
  | .slice lower upper step => do
    return whole (pick items (← slicePositions items.length lower upper step))
  | key =>
    match key.index? with
    | none => .error .wrongType
    | some i =>
      match (position? items.length i).bind (items[·]?) with
      | some v => .ok (one v)
      | none => .error .outOfRange

/-- A header by its name, in any case; the first of equal names. -/
def Request.header? (r : Request) (name : String) : Option String :=
  (r.headers.find? fun h => h.1.toLower == name.toLower).map (·.2)

def Value.subscript (v key : Value) : Attempt Value :=
  match v with
  | .text s => subscriptSequence s.toList (fun c => .text c.toString) (fun cs => .text (String.ofList cs)) key
  | .bytes data => subscriptSequence data (fun b => .int b.toNat) .bytes key
  | .byteArray data => subscriptSequence data (fun b => .int b.toNat) .byteArray key
  | .list items => subscriptSequence items id .list key
  | .tuple items => subscriptSequence items id .tuple key
  | .array code items => subscriptSequence items id (.array code) key
  | .peer host port => subscriptSequence [.text host, .int port] id .tuple key
  | .deque items =>
    match key with
    | .slice .. => .error .wrongType
    | key => subscriptSequence items id .deque key
  | .range start stop step =>
    match key with
    | .slice lower upper by' => do
      let (first, last, stride) ← sliceBounds (rangeLength start stop step) lower upper by'
      return .range (start + step * first) (start + step * last) (step * stride)
    | key => subscriptSequence (rangeItems start stop step) id .list key
  | .mapping _ entries =>
    if key.isHashable then
      match lookupEntry entries key with
      | some v => .ok v
      | none => .error .missingKey
    else .error .wrongType
  | .request r =>
    match key with
    | .text "method" => .ok (.text r.method)
    | .text "path" => .ok (.text r.path)
    | .text "type" => .ok (.text "http")
    | _ => if key.isHashable then .error .missingKey else .error .wrongType
  | .requestHeaders r =>
    match key with
    | .text name =>
      match r.header? name with
      | some s => .ok (.text s)
      | none => .error .missingKey
    | _ => .error .noSuchAttribute
  | _ => .error .wrongType

/-- Whether `needle` occurs in `hay` as a run of neighbours. -/
def containsRun {α : Type} [BEq α] (needle : List α) : List α → Bool
  | [] => needle.isEmpty
  | c :: cs => needle.isPrefixOf (c :: cs) || containsRun needle cs

/-- Membership, as the `in` operator decides it. -/
def Value.contains (v needle : Value) : Attempt Bool :=
  match v with
  | .text s =>
    match needle with
    | .text t => .ok (containsRun t.toList s.toList)
    | _ => .error .wrongType
  | .bytes data | .byteArray data =>
    match needle with
    | .bytes part | .byteArray part => .ok (containsRun part data)
    | _ =>
      match needle.index? with
      | some n => if 0 ≤ n && n < 256 then .ok (data.any fun b => (b.toNat : Int) == n) else .error .badValue
      | none => .error .wrongType
  | .set items | .frozenSet items =>
    match needle with
    | .set _ => .ok (items.any (alike needle))
    | _ => if needle.isHashable then .ok (items.any (alike needle)) else .error .wrongType
  | .view .keys items => if needle.isHashable then .ok (items.any (alike needle)) else .error .wrongType
  | .view .items items =>
    match needle with
    | .tuple [k, _] => if k.isHashable then .ok (items.any (alike needle)) else .error .wrongType
    | _ => .ok false
  | .mapping _ entries =>
    if needle.isHashable then .ok (entries.any fun e => alike needle e.1) else .error .wrongType
  | .requestHeaders r =>
    match needle with
    | .text name => .ok (r.header? name).isSome
    | _ => .error .noSuchAttribute
  | v => do return (← v.items).any (alike needle)

end AccessPolicy
