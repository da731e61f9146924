import AccessPolicy.Value
import AccessPolicy.Number.Binary

/-!
Three notions of sameness. `same` compares structure and type, so `1`, `1.0` and `True` are three
different values; `equal` is the equality of the language, under which those three are equal; containers
compare their elements with `alike`, which also holds for a not-a-number and itself.
-/

namespace AccessPolicy

/-- Two floating-point numbers with the same bits, all not-a-numbers being one. -/
def sameFloat (x y : Float) : Bool :=
  (x.isNaN && y.isNaN) || x.toBits == y.toBits

/-- Numbers that take part in comparisons between types. -/
inductive Numeric where
  | int (n : Int)
  | float (x : Float)
  | complex (re im : Float)

/-- A value as a number; truth values count as zero and one. -/
def Value.numeric? : Value → Option Numeric
  | .bool b => some (.int (if b then 1 else 0))
  | .int n => some (.int n)
  | .float x => some (.float x)
  | .complex re im => some (.complex re im)
  | _ => none

/-- Equality of numbers, without rounding. -/
def Numeric.equal : Numeric → Numeric → Bool
  | .int m, .int n => m == n
  | .int m, .float y => Number.compareInt? y m == some .eq
  | .float x, .int n => Number.compareInt? x n == some .eq
  | .float x, .float y => x == y
  | .complex a b, .complex c d => a == c && b == d
  | .complex a b, .int n => b == 0 && Number.compareInt? a n == some .eq
  | .int n, .complex a b => b == 0 && Number.compareInt? a n == some .eq
  | .complex a b, .float y => b == 0 && a == y
  | .float y, .complex a b => b == 0 && a == y

def rangeLength (start stop step : Int) : Nat :=
  if step == 0 then 0
  else if step > 0 then if start < stop then ((stop - start - 1) / step + 1).toNat else 0
  else if stop < start then ((start - stop - 1) / (-step) + 1).toNat else 0

/-- Two ranges are equal when they run through the same numbers. -/
def rangeEqual (a b c a' b' c' : Int) : Bool :=
  let n := rangeLength a b c
  n == rangeLength a' b' c' && (n == 0 || (a == a' && (n == 1 || c == c')))

mutual

/-- Equality of structure: the same type and the same parts. Sets and authorities have no order. -/
def Value.same : Value → Value → Bool
  | .null, .null => true
  | .bool a, .bool b => a == b
  | .int a, .int b => a == b
  | .float a, .float b => sameFloat a b
  | .complex a b, .complex c d => sameFloat a c && sameFloat b d
  | .ellipsis, .ellipsis => true
  | .text a, .text b => a == b
  | .bytes a, .bytes b => a == b
  | .byteArray a, .byteArray b => a == b
  | .list a, .list b => sameAll a b
  | .tuple a, .tuple b => sameAll a b
  | .deque a, .deque b => sameAll a b
  | .set a, .set b => a.length == b.length && sameSubset a b
  | .frozenSet a, .frozenSet b => a.length == b.length && sameSubset a b
  | .mapping k a, .mapping l b => k == l && sameEntries a b
  | .view k a, .view l b => k == l && sameAll a b
  | .array c a, .array d b => c == d && sameAll a b
  | .range a b c, .range a' b' c' => a == a' && b == b' && c == c'
  | .iterator a, .iterator b => sameAll a b
  | .slice a b c, .slice a' b' c' => a.same a' && b.same b' && c.same c'
  | .entry k v, .entry l w => k.same l && v.same w
  | .identity a, .identity b => a.same b
  | .document a, .document b => a == b
  | .object a, .object b => a.id == b.id
  | .function f, .function g => f.same g
  | .request a, .request b => a == b
  | .requestHeaders a, .requestHeaders b => a == b
  | .requestUrl a, .requestUrl b => a == b
  | .peer h p, .peer h' p' => h == h' && p == p'
  | _, _ => false
termination_by structural x => x

def Authentication.same : Authentication → Authentication → Bool
  | ⟨n, p, as, an, r, d⟩, ⟨n', p', as', an', r', d'⟩ =>
    n == n' && p.same p' && as.all as'.contains && as'.all as.contains && an == an' && r == r' &&
      sameEntries d d'
termination_by structural x => x

def Function.same : Function → Function → Bool
  | .predicate p, .predicate q => p == q
  | .builder c, .builder d => c == d
  | .conversion c, .conversion d => c == d
  | .method r n, .method r' n' => n == n' && r.same r'
  | _, _ => false
termination_by structural x => x

def sameAll : List Value → List Value → Bool
  | [], [] => true
  | x :: xs, y :: ys => x.same y && sameAll xs ys
  | _, _ => false
termination_by structural x => x

def sameSubset : List Value → List Value → Bool
  | [], _ => true
  | x :: xs, ys => ys.any (fun y => x.same y) && sameSubset xs ys
termination_by structural x => x

def sameEntries : List (Value × Value) → List (Value × Value) → Bool
  | [], [] => true
  | (k, v) :: xs, (l, w) :: ys => k.same l && v.same w && sameEntries xs ys
  | _, _ => false
termination_by structural x => x

end

/-- The elements of a set or of a view that behaves as one. -/
def Value.setItems? : Value → Option (List Value)
  | .set xs | .frozenSet xs | .view .keys xs | .view .items xs => some xs
  | _ => none

def numericEqual (n : Numeric) (w : Value) : Bool :=
  match w.numeric? with
  | some m => n.equal m
  | none => false

/-- Two not-a-numbers, which are unequal but count as one element. -/
def bothNaN : Value → Value → Bool
  | .float x, .float y => x.isNaN && y.isNaN
  | _, _ => false

mutual

def Value.equal : Value → Value → Bool
  | .null, .null => true
  | .bool a, w => numericEqual (.int (if a then 1 else 0)) w
  | .int a, w => numericEqual (.int a) w
  | .float a, w => numericEqual (.float a) w
  | .complex a b, w => numericEqual (.complex a b) w
  | .ellipsis, .ellipsis => true
  | .text a, .text b => a == b
  | .bytes a, .bytes b | .bytes a, .byteArray b | .byteArray a, .bytes b
  | .byteArray a, .byteArray b => a == b
  | .list a, .list b => alikeAll a b
  | .tuple a, .tuple b => alikeAll a b
  | .tuple a, .peer h p => alikeAll a [.text h, .int p]
  | .deque a, .deque b => alikeAll a b
  | .set a, w => w.setItems?.any fun b => a.length == b.length && allWithin a b
  | .frozenSet a, w => w.setItems?.any fun b => a.length == b.length && allWithin a b
  | .view .keys a, w => w.setItems?.any fun b => a.length == b.length && allWithin a b
  | .view .items a, w => w.setItems?.any fun b => a.length == b.length && allWithin a b
  | .mapping .ordered a, .mapping .ordered b => alikeEntries a b
  | .mapping _ a, .mapping _ b => a.length == b.length && entriesWithin a b
  | .array _ a, .array _ b => alikeAll a b
  | .range a b c, .range a' b' c' => rangeEqual a b c a' b' c'
  | .slice a b c, .slice a' b' c' => (bothNaN a a' || Value.equal a a') && (bothNaN b b' || Value.equal b b') && (bothNaN c c' || Value.equal c c')
  | .entry k v, .entry l w => (bothNaN k l || Value.equal k l) && (bothNaN v w || Value.equal v w)
  | .identity a, .identity b => a.equal b
  | .document a, .document b => a == b
  | .object a, .object b => a.id == b.id
  | .function f, .function g => f.same g
  | .request a, .request b => a == b
  | .requestHeaders a, .requestHeaders b => a == b
  | .requestUrl a, .requestUrl b => a == b
  | .peer h p, .peer h' p' => h == h' && p == p'
  | .peer h p, .tuple [.text h', .int p'] => h == h' && p == p'
  | _, _ => false
termination_by structural x => x

/-- Identities are equal when all but their details are. -/
def Authentication.equal : Authentication → Authentication → Bool
  | ⟨n, p, as, an, r, _⟩, ⟨n', p', as', an', r', _⟩ =>
    n == n' && (bothNaN p p' || Value.equal p p') && as.all as'.contains && as'.all as.contains && an == an' && r == r'
termination_by structural x => x

def alikeAll : List Value → List Value → Bool
  | [], [] => true
  | x :: xs, y :: ys => (bothNaN x y || Value.equal x y) && alikeAll xs ys
  | _, _ => false
termination_by structural x => x

def allWithin : List Value → List Value → Bool
  | [], _ => true
  | x :: xs, ys => ys.any (fun y => (bothNaN x y || Value.equal x y)) && allWithin xs ys
termination_by structural x => x

def alikeEntries : List (Value × Value) → List (Value × Value) → Bool
  | [], [] => true
  | (k, v) :: xs, (l, w) :: ys => (bothNaN k l || Value.equal k l) && (bothNaN v w || Value.equal v w) && alikeEntries xs ys
  | _, _ => false
termination_by structural x => x

def entriesWithin : List (Value × Value) → List (Value × Value) → Bool
  | [], _ => true
  | (k, v) :: xs, ys => ys.any (fun e => (bothNaN k e.1 || Value.equal k e.1) && (bothNaN v e.2 || Value.equal v e.2)) && entriesWithin xs ys
termination_by structural x => x

end

/-- Equality of the elements of containers: the same not-a-number is like itself. -/
def alike (v w : Value) : Bool :=
  bothNaN v w || v.equal w

mutual

/-- Whether a value may be an element of a set or a key of a mapping. -/
def Value.isHashable : Value → Bool
  | .list _ | .deque _ | .set _ | .byteArray _ | .mapping .. | .array .. | .slice .. => false
  | .view .values _ => true
  | .view _ _ => false
  | .tuple items => allHashable items
  | .entry key value => key.isHashable && value.isHashable
  | .identity a => a.isHashable
  | .function (.method receiver _) => receiver.isHashable
  | .requestHeaders _ => false
  | _ => true
termination_by structural x => x

def Authentication.isHashable : Authentication → Bool
  | ⟨_, principal, _, _, _, _⟩ => principal.isHashable
termination_by structural x => x

def allHashable : List Value → Bool
  | [] => true
  | v :: vs => v.isHashable && allHashable vs
termination_by structural x => x

end

/-- Adds an element to a set unless one like it is there. -/
def insertItem (items : List Value) (v : Value) : List Value :=
  if items.any (alike v) then items else items ++ [v]

/-- The elements of a list without repetition, in order of first appearance. -/
def distinct (items : List Value) : List Value :=
  items.foldl insertItem []

/-- Binds a key: a key already present keeps its place and takes the new value. -/
def insertEntry (entries : List (Value × Value)) (k v : Value) : List (Value × Value) :=
  if entries.any (fun e => alike k e.1) then
    entries.map fun e => if alike k e.1 then (e.1, v) else e
  else entries ++ [(k, v)]

def lookupEntry (entries : List (Value × Value)) (k : Value) : Option Value :=
  (entries.find? fun e => alike k e.1).map (·.2)

/-- Identity of two values of which neither is known to be a fresh one. Truth values, the null value,
small integers, short texts and functions are unique; an object is known by its number. -/
def Value.isUnique : Value → Bool
  | .null | .bool _ | .ellipsis | .object _ => true
  | .int n => -5 ≤ n && n ≤ 256
  | .text s => s.length == 0 || (s.length == 1 && s.toList.all (·.toNat < 256))
  | .bytes b => b.length ≤ 1
  | .tuple items => items.isEmpty
  | .frozenSet items => items.isEmpty
  | .function (.predicate _) | .function (.builder _) | .function (.conversion _) => true
  | _ => false

end AccessPolicy
