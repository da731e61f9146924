import AccessPolicy.Value

/-!
The order in which the elements of a set are listed. A set has a number of places that grows with its size;
whole numbers stand at the places that their remainders name, so that a set of small numbers is listed in
ascending order. Where places are shared or elements are no whole numbers, the order of insertion stays.
-/

namespace AccessPolicy

/-- The number of places of a set: four times as many whenever three fifths of them are taken. -/
def setPlaces (size : Nat) : Nat :=
  grow size 8
where
  /-- Grows at most `fuel` times, which is more often than a set of that size needs. -/
  grow : Nat → Nat → Nat
    | 0, places => places
    | fuel + 1, places => if 5 * size < 3 * (places - 1) then places else grow fuel (4 * places)

/-- The place of an element among so many. Minus one stands where minus two does. -/
def Value.place? (places : Nat) : Value → Option Nat
  | .bool b => some (if b then 1 else 0)
  | .int n =>
    let key := n.tmod (Int.pow 2 61 - 1)
    some (((if key == -1 then -2 else key).emod places).toNat)
  | _ => none

/-- What belongs to the elements of a set, in the order in which the set lists them. -/
def listed {α : Type} (elements : List Value) (xs : List α) : List α :=
  match elements.mapM (·.place? (setPlaces elements.length)) with
  | some places =>
    if places.Nodup then ((places.zip xs).mergeSort fun a b => a.1 ≤ b.1).map Prod.snd else xs
  | none => xs

end AccessPolicy
