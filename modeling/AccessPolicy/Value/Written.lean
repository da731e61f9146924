import AccessPolicy.Value.SetOrder
import AccessPolicy.Number.Shortest
import AccessPolicy.Text.Quoted

/-!
The written form of values: `written` is what messages and containers show, `shown` what a value looks
like when it is inserted into text. The two differ only for text and for documents.
-/

namespace AccessPolicy

/-- One part of a complex number: a whole part has no decimal point. -/
def complexPart (x : Float) : String :=
  let s := Number.floatText x
  if s.endsWith ".0" then (s.dropEnd 2).toString else s

/-- The text of a complex number; a positive zero real part is left out. -/
def complexText (re im : Float) : String :=
  if re == 0 && !Number.isNegative re then complexPart im ++ "j"
  else
    let sign := if Number.isNegative im && !im.isNaN then "" else "+"
    "(" ++ complexPart re ++ sign ++ complexPart im ++ "j)"

def boolText (b : Bool) : String :=
  if b then "True" else "False"

/-- A document's fields, in the order of declaration. -/
def Document.written (d : Document) (separator : String) : String :=
  separator.intercalate ["id=" ++ toString d.id, "title=" ++ Text.quoted d.title,
    "owner=" ++ Text.quoted d.owner, "confidential=" ++ boolText d.confidential]

/-- A name that may be missing. -/
def optionalText (s : Option String) : String :=
  match s with
  | some s => Text.quoted s
  | none => "None"

mutual

def Value.written : Value → String
  | .null => "None"
  | .bool b => boolText b
  | .int n => toString n
  | .float x => Number.floatText x
  | .complex re im => complexText re im
  | .ellipsis => "Ellipsis"
  | .text s => Text.quoted s
  | .bytes data => Text.quotedBytes data
  | .byteArray data => "bytearray(" ++ Text.quotedBytes data ++ ")"
  | .list items => "[" ++ ", ".intercalate (writtenAll items) ++ "]"
  | .tuple items =>
    match writtenAll items with
    | [one] => "(" ++ one ++ ",)"
    | all => "(" ++ ", ".intercalate all ++ ")"
  | .deque items => "deque([" ++ ", ".intercalate (writtenAll items) ++ "])"
  | .set items =>
    if items.isEmpty then "set()"
    else "\x7b" ++ ", ".intercalate (listed items (writtenAll items)) ++ "\x7d"
  | .frozenSet items =>
    if items.isEmpty then "frozenset()"
    else "frozenset(\x7b" ++ ", ".intercalate (listed items (writtenAll items)) ++ "\x7d)"
  | .mapping kind entries =>
    match kind with
    | .plain => "\x7b" ++ ", ".intercalate (writtenEntries ": " entries) ++ "\x7d"
    | .readOnly => "mappingproxy(\x7b" ++ ", ".intercalate (writtenEntries ": " entries) ++ "\x7d)"
    | .ordered =>
      if entries.isEmpty then "OrderedDict()"
      else "OrderedDict([" ++
        ", ".intercalate ((writtenEntries ", " entries).map fun e => "(" ++ e ++ ")") ++ "])"
  | .view kind items =>
    let name := match kind with
      | .keys => "dict_keys"
      | .values => "dict_values"
      | .items => "dict_items"
    name ++ "([" ++ ", ".intercalate (writtenAll items) ++ "])"
  | .array code items =>
    if items.isEmpty then "array(" ++ Text.quoted code ++ ")"
    else "array(" ++ Text.quoted code ++ ", [" ++ ", ".intercalate (writtenAll items) ++ "])"
  | .range start stop step =>
    "range(" ++ toString start ++ ", " ++ toString stop ++
      (if step == 1 then "" else ", " ++ toString step) ++ ")"
  | .iterator _ => "<list_iterator object>"
  | .slice lower upper step =>
    "slice(" ++ lower.written ++ ", " ++ upper.written ++ ", " ++ step.written ++ ")"
  | .entry key value => "MapEntry(key=" ++ key.written ++ ", value=" ++ value.written ++ ")"
  | .identity a => a.written
  | .document d => "DocumentOut(" ++ d.written ", " ++ ")"
  | .object o => "<" ++ o.className ++ ">"
  | .function (.builder c) => "<class " ++ Text.quoted c.name ++ ">"
  | .function (.conversion c) => "<class " ++ Text.quoted c.name ++ ">"
  | .function (.predicate p) => "<bound method " ++ p.name ++ ">"
  | .function (.method _ name) => "<bound method " ++ name ++ ">"
  | .request _ => "<Request>"
  | .requestHeaders _ => "Headers()"
  | .requestUrl _ => "URL()"
  | .peer host port => "Address(host=" ++ Text.quoted host ++ ", port=" ++ toString port ++ ")"
termination_by structural x => x

/-- The written form of an identity, field by field. -/
def Authentication.written : Authentication → String
  | ⟨name, principal, authorities, anonymous, rememberMe, details⟩ =>
    "Authentication(name=" ++ optionalText name ++
    ", principal=" ++ principal.written ++
    ", authorities=" ++
      (if authorities.isEmpty then "frozenset()"
       else "frozenset(\x7b" ++ ", ".intercalate (authorities.map Text.quoted) ++ "\x7d)") ++
    ", anonymous=" ++ boolText anonymous ++
    ", remember_me=" ++ boolText rememberMe ++
    ", details=\x7b" ++ ", ".intercalate (writtenEntries ": " details) ++ "\x7d)"
termination_by structural x => x

def writtenAll : List Value → List String
  | [] => []
  | v :: vs => v.written :: writtenAll vs
termination_by structural x => x

def writtenEntries (separator : String) : List (Value × Value) → List String
  | [] => []
  | (k, v) :: rest => (k.written ++ separator ++ v.written) :: writtenEntries separator rest
termination_by structural x => x

end

def Value.shown : Value → String
  | .text s => s
  | .document d => d.written " "
  | .mapping .readOnly entries => (Value.mapping .plain entries).written
  | v => v.written

/-- The bound above which integers have no written form. -/
def writtenBound : Nat := Nat.pow 10 4300

mutual

/-- Whether a value holds an integer with more than 4300 digits, which cannot be written. -/
def Value.tooLongToWrite : Value → Bool
  | .int n => n.natAbs ≥ writtenBound
  | .list items | .tuple items | .deque items | .set items | .frozenSet items | .view _ items
  | .array _ items => anyTooLong items
  | .mapping _ entries => anyEntryTooLong entries
  | .range start stop step =>
    start.natAbs ≥ writtenBound || stop.natAbs ≥ writtenBound || step.natAbs ≥ writtenBound
  | .slice lower upper step => lower.tooLongToWrite || upper.tooLongToWrite || step.tooLongToWrite
  | .entry key value => key.tooLongToWrite || value.tooLongToWrite
  | .identity a => a.tooLongToWrite
  | .document d => d.id.natAbs ≥ writtenBound
  | .peer _ port => port.natAbs ≥ writtenBound
  | _ => false
termination_by structural x => x

def Authentication.tooLongToWrite : Authentication → Bool
  | ⟨_, principal, _, _, _, details⟩ => principal.tooLongToWrite || anyEntryTooLong details
termination_by structural x => x

def anyTooLong : List Value → Bool
  | [] => false
  | v :: vs => v.tooLongToWrite || anyTooLong vs
termination_by structural x => x

def anyEntryTooLong : List (Value × Value) → Bool
  | [] => false
  | (k, v) :: rest => k.tooLongToWrite || v.tooLongToWrite || anyEntryTooLong rest
termination_by structural x => x

end

end AccessPolicy
