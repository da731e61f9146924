import AccessPolicy.Guard

/-!
Filtering of containers, element by element. The result is a new container of the same kind where there is
such a kind, and the kept elements keep their order. A mapping is filtered by its entries.
-/

namespace AccessPolicy

/-- The elements that pass a test, tested in their order. -/
def keepM {m : Type → Type} [Monad m] {α : Type} (keep : α → m Bool) : List α → m (List α)
  | [] => pure []
  | a :: as => do
    let kept ← keep a
    let rest ← keepM keep as
    return if kept then a :: rest else rest

/-- Whether a value has elements that can be filtered. -/
def Value.isFilterable : Value → Bool
  | .list _ | .tuple _ | .deque _ | .set _ | .frozenSet _ | .mapping .. | .array .. | .range .. | .peer .. => true
  | .view .keys _ | .view .items _ => true
  | _ => false

variable {σ : Type}

/-- A test for a new set: an element that passes must be one that a set can hold. -/
def forSet (keep : Value → Run σ Bool) (element : Value) : Run σ Bool := do
  let kept ← keep element
  if kept && !element.isHashable then throw (.operand .wrongType)
  return kept

/-- A container with only the elements that pass a test. A missing container stays missing. -/
def Value.filtered (keep : Value → Run σ Bool) (v : Value) : Run σ Value :=
  match v with
  | .null => pure .null
  | .mapping kind entries => do
    let kept ← keepM (fun (k, v) => keep (.entry k v)) entries
    return .mapping (if kind == .ordered then .ordered else .plain) kept
  | .array code items => do return .array code (← keepM keep items)
  | .tuple items => do return .tuple (← keepM keep items)
  | .set items => do return .set (← keepM keep (listed items items))
  | .frozenSet items => do return .frozenSet (← keepM keep (listed items items))
  | .view .keys items | .view .items items => do return .set (← keepM (forSet keep) items)
  | v =>
    if v.isFilterable then do
      let items ← Run.attempt v.items
      let kept ← keepM keep items
      match v with
      | .peer .. => return .tuple kept
      | _ => return .list kept
    else throw (.configuration (.notFilterable v.typeName))

def elementName : String := "filterObject"

/-- A container with the elements that a guard lets pass. -/
def Guard.filter (g : Guard) (ctx : Context σ) (v : Value) : Run σ Value :=
  v.filtered fun element => g.allows (ctx.withVariables [(elementName, element)])

end AccessPolicy
