import AccessPolicy.Value.Items

/-!
The order comparisons of the language. Numbers compare by what they denote, texts by code points,
sequences by their first difference, and sets by inclusion.
-/

namespace AccessPolicy

inductive OrderTest where
  | less
  | lessOrEqual
  | greater
  | greaterOrEqual
  deriving DecidableEq, Repr

/-- Whether an outcome of a comparison passes a test. -/
def OrderTest.holds (t : OrderTest) (o : Ordering) : Bool :=
  match t with
  | .less => o == .lt
  | .lessOrEqual => o != .gt
  | .greater => o == .gt
  | .greaterOrEqual => o != .lt

/-- The order of two numbers; `none` when one is not a number. -/
def Numeric.compare? : Numeric → Numeric → Option (Option Ordering)
  | .int m, .int n => some (some (compare m n))
  | .float x, .int n => some (Number.compareInt? x n)
  | .int m, .float y => some ((Number.compareInt? y m).map Ordering.swap)
  | .float x, .float y => some (if x < y then some .lt else if x > y then some .gt else if x == y then some .eq else none)
  | _, _ => none

/-- The order of two sequences of characters or bytes. -/
def compareCodes (xs ys : List Nat) : Ordering :=
  match xs, ys with
  | [], [] => .eq
  | [], _ :: _ => .lt
  | _ :: _, [] => .gt
  | x :: xs, y :: ys => if x < y then .lt else if x > y then .gt else compareCodes xs ys

def setOrder (t : OrderTest) (xs ys : List Value) : Bool :=
  match t with
  | .less => xs.length < ys.length && allWithin xs ys
  | .lessOrEqual => xs.length ≤ ys.length && allWithin xs ys
  | .greater => ys.length < xs.length && allWithin ys xs
  | .greaterOrEqual => ys.length ≤ xs.length && allWithin ys xs

mutual

/-- An order comparison; values of kinds that have no common order fault. -/
def Value.ordered (t : OrderTest) : Value → Value → Attempt Bool
  | .list xs, .list ys => orderedItems t xs ys
  | .tuple xs, .tuple ys => orderedItems t xs ys
  | .deque xs, .deque ys => orderedItems t xs ys
  | .array _ xs, .array _ ys => orderedItems t xs ys
  | .text a, .text b => .ok (t.holds (compareCodes (a.toList.map Char.toNat) (b.toList.map Char.toNat)))
  | .bytes a, .bytes b | .bytes a, .byteArray b | .byteArray a, .bytes b | .byteArray a, .byteArray b =>
    .ok (t.holds (compareCodes (a.map UInt8.toNat) (b.map UInt8.toNat)))
  | v, w =>
    match v.numeric?, w.numeric? with
    | some m, some n =>
      match m.compare? n with
      | some (some o) => .ok (t.holds o)
      | some none => .ok false
      | none => .error .wrongType
    | _, _ =>
      match v.setItems?, w.setItems? with
      | some xs, some ys => .ok (setOrder t xs ys)
      | _, _ => .error .wrongType
termination_by structural x => x

/-- Sequences compare by their first two unlike elements, else by length. -/
def orderedItems (t : OrderTest) : List Value → List Value → Attempt Bool
  | [], [] => .ok (t.holds .eq)
  | [], _ :: _ => .ok (t.holds .lt)
  | _ :: _, [] => .ok (t.holds .gt)
  | x :: xs, y :: ys => if alike x y then orderedItems t xs ys else x.ordered t y
termination_by structural x => x

end

end AccessPolicy
