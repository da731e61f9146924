import AccessPolicy.Failure
import AccessPolicy.Number.Integer
import AccessPolicy.Text.Search
import AccessPolicy.Value.Method

/-!
Network addresses and ranges. A range is an address with a prefix length, a net mask or a host mask; the
bits of the address after the prefix do not count. Addresses of different families never match.
-/

namespace AccessPolicy

inductive Family where
  | v4
  | v6
  deriving DecidableEq, Repr

def Family.width : Family → Nat
  | .v4 => 32
  | .v6 => 128

/-- An address, as the number that its bits write. -/
structure Address where
  family : Family
  bits : Nat
  deriving DecidableEq, Repr

/-- A range of addresses: those whose first `length` bits are those of `base`. -/
structure Network where
  family : Family
  base : Nat
  length : Nat
  deriving DecidableEq, Repr

def Network.contains (n : Network) (a : Address) : Bool :=
  a.family == n.family && a.bits >>> (n.family.width - n.length) == n.base >>> (n.family.width - n.length)

namespace Address

def decimal? (cs : List Char) : Option Nat :=
  if cs.isEmpty || !cs.all Char.isDigit then none
  else some (cs.foldl (fun n c => 10 * n + (c.toNat - '0'.toNat)) 0)

def octet? (cs : List Char) : Option Nat := do
  let n ← decimal? cs
  if cs.length > 3 || (cs.head? == some '0' && cs.length > 1) || n > 255 then none else some n

def dotted? (cs : List Char) : Option Nat := do
  match ← (Text.splitAt ['.'] cs.length cs).mapM octet? with
  | [a, b, c, d] => some (((a * 256 + b) * 256 + c) * 256 + d)
  | _ => none

def group? (cs : List Char) : Option Nat := do
  if cs.isEmpty || cs.length > 4 then none
  else return Number.ofDigits 16 (← cs.mapM (Number.digitBelow? 16))

/-- The groups at an end of an address; a single empty text stands for none. -/
def groups? (parts : List (List Char)) : Option (List Nat) :=
  match parts with
  | [[]] => some []
  | parts => parts.mapM group?

def ofGroups (gs : List Nat) : Nat :=
  gs.foldl (fun n g => n * 65536 + g) 0

/-- Writes a dotted end of an address as the two groups it stands for. -/
def expandDotted? (parts : List (List Char)) : Option (List (List Char)) :=
  match parts.getLast? with
  | some last =>
    if last.contains '.' then do
      let n ← dotted? last
      return parts.dropLast ++ [Nat.toDigits 16 (n / 65536), Nat.toDigits 16 (n % 65536)]
    else some parts
  | none => some parts

/-- An address with colons: eight groups, of which one run of zeros can be left out. -/
def coloned? (cs : List Char) : Option Nat := do
  let parts := Text.splitAt [':'] cs.length cs
  if parts.length < 3 then none
  let parts ← expandDotted? parts
  if parts.length > 9 then none
  let inner := parts.tail.dropLast
  match inner.filter List.isEmpty with
  | [] =>
    let gs ← parts.mapM group?
    if gs.length == 8 then some (ofGroups gs) else none
  | [_] =>
    let i := 1 + inner.findIdx List.isEmpty
    let high ← groups? (parts.take i)
    let low ← groups? (parts.drop (i + 1))
    if high.length + low.length < 8 then
      some (ofGroups (high ++ List.replicate (8 - high.length - low.length) 0 ++ low))
    else none
  | _ => none

def zoned? (cs : List Char) : Option Nat :=
  match cs.dropWhile (· != '%') with
  | [] => coloned? cs
  | _ :: zone => if zone.isEmpty || zone.contains '%' then none else coloned? (cs.takeWhile (· != '%'))

def ofText? (family : Family) (cs : List Char) : Option Address :=
  if cs.contains '/' then none
  else
    match family with
    | .v4 => (dotted? cs).map (⟨.v4, ·⟩)
    | .v6 => (zoned? cs).map (⟨.v6, ·⟩)

/-- An address of a family as a value: its number, its bytes, or anything that is written like one. -/
def ofValue? (family : Family) (v : Value) : Option Address :=
  match v.index?, v with
  | some n, _ => if 0 ≤ n && n < Nat.pow 2 family.width then some ⟨family, n.toNat⟩ else none
  | none, .bytes data =>
    if data.length * 8 == family.width then
      some ⟨family, data.foldl (fun n b => n * 256 + b.toNat) 0⟩
    else none
  | none, v => ofText? family v.shown.toList

/-- The first family that a value is an address of. -/
def read? (v : Value) : Option Address :=
  (ofValue? .v4 v).orElse fun _ => ofValue? .v6 v

end Address

namespace Network

/-- The length of the prefix of ones that a mask consists of, before zeros only. -/
def maskLength? (mask : Nat) : Option Nat :=
  (List.range 33).find? fun n => mask == (Nat.pow 2 n - 1) * Nat.pow 2 (32 - n)

/-- A prefix length in its written form, or a mask of a dotted address. -/
def lengthOfText? (family : Family) (cs : List Char) : Option Nat :=
  match Address.decimal? cs, family with
  | some n, family => if cs.length ≤ Number.maxDigits && n ≤ family.width then some n else none
  | none, .v4 => do
    let mask ← Address.dotted? cs
    (maskLength? mask).orElse fun _ => maskLength? (Nat.pow 2 32 - 1 - mask)
  | none, .v6 => none

def lengthOfValue? (family : Family) (v : Value) : Attempt (Option Nat) :=
  match v.index?, v with
  | some n, _ => .ok (if 0 ≤ n && n ≤ family.width then some n.toNat else none)
  | none, .text s => .ok (lengthOfText? family s.toList)
  | none, _ => .error .noSuchAttribute

def of? (family : Family) (address length : Value) : Attempt (Option Network) := do
  match Address.ofValue? family address with
  | none => return none
  | some a => return (← lengthOfValue? family length).map fun n => ⟨family, a.bits, n⟩

/-- The range of a family that a value denotes: a number, bytes, an address and a length as a pair, or a
text with both divided by a slash. -/
def ofValue? (family : Family) (v : Value) : Attempt (Option Network) :=
  let whole := Value.int family.width
  match v with
  | .bytes _ => of? family v whole
  | .tuple [] => .error .outOfRange
  | .tuple [a] => of? family a whole
  | .tuple [a, n] => of? family a n
  | .tuple _ => .error .badValue
  | v =>
    if v.index?.isSome then of? family v whole
    else
      match Text.splitAt ['/'] v.shown.length v.shown.toList with
      | [a] => of? family (.text (String.ofList a)) whole
      | [a, n] => of? family (.text (String.ofList a)) (.text (String.ofList n))
      | _ => .ok none

/-- The range that a value denotes, of the first family that it fits. -/
def read? (v : Value) : Attempt (Option Network) := do
  match ← ofValue? .v4 v with
  | some n => return some n
  | none => ofValue? .v6 v

end Network

/-- The caller's address as a request tells it: the host of its client, or else its remote address. -/
def Value.remoteAddress (request : Value) : Value :=
  match ((request.attribute? "client").bind (·.attribute? "host")).getD .null with
  | .null => (request.attribute? "remote_addr").getD .null
  | host => host

/-- Whether a request comes from an address in a range. -/
def isFrom (request range : Value) : Except Failure Bool :=
  match Network.read? range with
  | .error f => .error (.operand f)
  | .ok none => .error (.addressRange range)
  | .ok (some network) =>
    match request.remoteAddress with
    | .null => .ok false
    | host => .ok ((Address.read? host).any network.contains)

end AccessPolicy
