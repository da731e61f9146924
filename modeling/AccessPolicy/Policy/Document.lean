import AccessPolicy.Policy.Model
import AccessPolicy.Yaml.Content
import AccessPolicy.Value.Items

/-!
Policies in documents. A document is a mapping with the policy in its section `security`; an empty document
counts as an empty mapping.
-/

namespace AccessPolicy

inductive PolicyFault where
  | unreadable (fault : YamlFault)
  | noSection
  /-- The document is no mapping. -/
  | notMapping
  | invalid (faults : List DataFault)

def policySection : String := "security"

/-- The wording of a missing section of the document at a place. -/
def missingSection (place : String) : String :=
  "Missing top-level 'security' key in config: " ++ place

def sectionOf (v : Value) : Except PolicyFault Value :=
  let v := if v.truthy then v else .dict []
  match v with
  | .mapping _ entries => (lookupEntry entries (.text policySection)).elim (.error .noSection) .ok
  | v =>
    match v.contains (.text policySection) with
    | .ok false => .error .noSection
    | _ => .error .notMapping

def Policy.ofText (s : String) : Except PolicyFault Policy := do
  let v ← (Yaml.read s).mapError .unreadable
  (Policy.ofValue (← sectionOf v)).mapError .invalid

end AccessPolicy
