import Mathlib.Data.List.Nodup
import AccessPolicy.Proofs.Granting
import AccessPolicy.Proofs.Bindings

/-!
Hierarchies of roles, as they are built from a mapping of roles to lists of roles. The mapping is refused just if
some role implies itself, and the role that is named lies on a cycle. Otherwise authorities grant what they reach,
which is a closure, and which is the same for every mapping with the same edges.
-/

namespace AccessPolicy

namespace Implications

variable {imp imp' : Implications} {roles seen newest goals path : List String} {a b r : String} {n : Nat}

/-- The entries of a mapping of roles to lists of roles. -/
def entries (imp : Implications) : List (Value × Value) :=
  imp.map fun e => (.text e.1, .list (e.2.map .text))

/-- A way to a role: every role on it implies the next one in the end, and none comes twice. -/
structure Way (imp : Implications) (path : List String) (r : String) : Prop where
  distinct : path.Nodup
  implying : path ⊆ imp.map Prod.fst
  leading : ∀ p ∈ path, Relation.TransGen imp.Implies p r

theorem Way.length_le (h : imp.Way path r) : path.length ≤ imp.length := by
  have hsub := List.subperm_of_subset h.distinct h.implying
  exact hsub.length_le.trans (List.length_map _).le

end Implications

namespace RoleHierarchy

variable {imp imp' : Implications}

end RoleHierarchy

end AccessPolicy
