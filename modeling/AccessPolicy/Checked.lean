import AccessPolicy.Value.Items
import AccessPolicy.Value.Written
import AccessPolicy.Value.Equality

/-!
Reading data of a given shape off values. All faults of a value are found, each with the path to it.
-/

namespace AccessPolicy

inductive DataFaultKind where
  | missing
  | notText
  | notList
  | notMapping
  | notRecord
  /-- A body that is no object. -/
  | notObject
  | notBoolean
  | notBooleanText
  | notInteger
  | notIntegerText
  | fractional
  | notFinite
  | tooLarge
  | tooShort
  | tooLong
  | malformedDocument
  /-- Each field may be right, but not all of them together. -/
  | contradictory
  deriving DecidableEq, Repr

def DataFaultKind.name : DataFaultKind → String
  | .missing => "missing"
  | .notText => "string_type"
  | .notList => "list_type"
  | .notMapping => "dict_type"
  | .notRecord => "model_type"
  | .notObject => "model_attributes_type"
  | .notBoolean => "bool_type"
  | .notBooleanText => "bool_parsing"
  | .notInteger => "int_type"
  | .notIntegerText => "int_parsing"
  | .fractional => "int_from_float"
  | .notFinite => "finite_number"
  | .tooLarge => "int_parsing_size"
  | .tooShort => "string_too_short"
  | .tooLong => "string_too_long"
  | .malformedDocument => "json_invalid"
  | .contradictory => "value_error"

structure DataFault where
  path : List String
  kind : DataFaultKind
  deriving DecidableEq, Repr

/-- Data, or everything that is wrong with it. -/
abbrev Checked (α : Type) := Except (List DataFault) α

namespace Checked

def fault {α : Type} (kind : DataFaultKind) : Checked α := .error [⟨[], kind⟩]

/-- The data of a part, whose faults are under `step`. -/
def under {α : Type} (step : String) (x : Checked α) : Checked α :=
  x.mapError fun faults => faults.map fun f => { f with path := step :: f.path }

/-- Two pieces of data, with the faults of both. -/
def both {α β : Type} (x : Checked α) (y : Checked β) : Checked (α × β) :=
  match x, y with
  | .ok a, .ok b => .ok (a, b)
  | .error e, .ok _ => .error e
  | .ok _, .error e => .error e
  | .error e, .error f => .error (e ++ f)

/-- All of several pieces of data, with the faults of all. -/
def all {α : Type} : List (Checked α) → Checked (List α)
  | [] => .ok []
  | x :: xs => (both x (all xs)).map fun (a, as) => a :: as

def text : Value → Checked String
  | .text s => .ok s
  | _ => fault .notText

/-- A value of a kind, or nothing. -/
def optional {α : Type} (read : Value → Checked α) : Value → Checked (Option α)
  | .null => .ok none
  | v => (read v).map some

def list {α : Type} (read : Value → Checked α) : Value → Checked (List α)
  | .list items | .tuple items => all (items.mapIdx fun i v => under (toString i) (read v))
  | _ => fault .notList

def mapping {α : Type} (read : Value → Checked α) : Value → Checked (List (String × α))
  | .mapping _ entries =>
    all (entries.map fun (k, v) =>
      match k with
      | .text s => (under s (read v)).map fun a => (s, a)
      | k =>
        (both (under k.shown (under "[key]" (fault .notText))) (under k.shown (read v))).map Prod.fst)
  | _ => fault .notMapping

def record : Value → Checked (List (Value × Value))
  | .mapping _ entries => .ok entries
  | _ => fault .notRecord

/-- A field of a record, with the data to take where it is missing. -/
def field {α : Type} (entries : List (Value × Value)) (name : String) (missing : Checked α)
    (read : Value → Checked α) : Checked α :=
  under name (match lookupEntry entries (.text name) with
    | some v => read v
    | none => missing)

end Checked

end AccessPolicy
