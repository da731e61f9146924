import AccessPolicy.Http.Credentials
import AccessPolicy.Value.Written
import AccessPolicy.Number.Decimal
import AccessPolicy.Text.Search

/-!
A store of accounts and documents. Documents are kept by ascending id, and a new one gets the id after the
largest. Ids are matched by value: a text or a float that writes a whole number matches it.
-/

namespace AccessPolicy

structure Store where
  accounts : List Account := []
  documents : List Document := []

namespace Store

def demoAccounts : List Account :=
  [⟨1, "alice", "alice@example.com", true, [("ROLE_ADMIN", "System administrator")]⟩,
   ⟨2, "bob", "bob@example.com", true, [("ROLE_USER", "Regular user")]⟩,
   ⟨3, "carol", "carol@example.com", true,
     [("ROLE_STAFF", "Staff member"), ("audit:read", "May read audit reports")]⟩,
   ⟨4, "dave", "dave@example.com", false, [("ROLE_USER", "Regular user")]⟩]

def demoDocuments : List Document :=
  [⟨1, "Company handbook", "alice", false⟩, ⟨2, "Salary bands", "alice", true⟩,
   ⟨3, "Bob's notes", "bob", false⟩, ⟨4, "Bob's diary", "bob", true⟩, ⟨5, "Quarterly plan", "carol", false⟩]

def demo : Store := ⟨demoAccounts, demoDocuments⟩

/-- The store, with the demonstration's data if it has no accounts yet. -/
def seeded (s : Store) : Store := if s.accounts.isEmpty then demo else s

def document? (s : Store) (id : Int) : Option Document :=
  s.documents.find? fun d => d.id == id

/-- The id of a new document, which is 1 in an empty store. -/
def nextId (s : Store) : Int :=
  ((s.documents.map (·.id)).max?).elim 1 (· + 1)

def add (s : Store) (title owner : String) (confidential : Bool) : Store × Document :=
  let d : Document := ⟨s.nextId, title, owner, confidential⟩
  ({ s with documents := s.documents ++ [d] }, d)

def rename (s : Store) (id : Int) (title : String) : Store :=
  { s with documents := s.documents.map fun d => if d.id == id then { d with title } else d }

def remove (s : Store) (ids : List Int) : Store :=
  { s with documents := s.documents.filter fun d => !ids.contains d.id }

/-- The number that a text is matched with: what it writes in decimal notation, if that is whole. -/
def numberOf (s : String) : Option Int :=
  let cs := Text.trimBoth (fun c => c == ' ' || (9 ≤ c.toNat && c.toNat ≤ 13)) s.toList
  if !cs.all fun c => c.isDigit || c ∈ ['+', '-', '.', 'e', 'E'] then none
  else
    match Number.integer? (String.ofList cs) with
    | some n => some n
    | none => do
      let x ← Number.float? (String.ofList cs)
      (Number.truncate? x).filter fun n => (Value.float x).equal (.int n)

/-- The number that a value is matched with as an id, if there is one. -/
def idOf (v : Value) : Except Failure (Option Int) :=
  match v.index?, v with
  | some n, _ => if Credentials.isKey n then .ok (some n) else .error (.operand .overflow)
  | none, .null | none, .bytes _ | none, .byteArray _ => .ok none
  | none, .float x => .ok ((Number.truncate? x).filter fun n => v.equal (.int n))
  | none, .text s => .ok (numberOf s)
  | none, _ => .error (.store .unsupported)

/-- The value that is looked up as a key. A collection must hold just one, and a mapping must give it the
name of the key. -/
def keyOf (v : Value) : Except Failure Value :=
  match v with
  | .text _ | .bytes _ => .ok v
  | .mapping _ entries =>
    match lookupEntry entries (.text "id"), entries with
    | some key, [_] => .ok key
    | _, _ => .error (.store .keyShape)
  | v =>
    match v.items? with
    | none => .ok v
    | some [key] => if key.isHashable then .ok key else .error (.operand .wrongType)
    | some _ => .error (.store .keyShape)

end Store

end AccessPolicy
