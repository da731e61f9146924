import AccessPolicy.Failure
import AccessPolicy.Value.Equality
import AccessPolicy.Value.Items

/-!
Roles that imply other roles. The implications form a graph without cycles; a set of authorities grants
everything that can be reached from one of them. Authorities that the graph does not know grant themselves.
-/

namespace AccessPolicy

abbrev Implications := List (String × List String)

namespace Implications

def children (imp : Implications) (role : String) : List String :=
  (imp.lookup role).getD []

/-- The roles implied by a list of roles directly, without those seen already. -/
def fresh (imp : Implications) (seen roles : List String) : List String :=
  ((roles.flatMap imp.children).filter fun r => !seen.contains r).eraseDups

/-- The roles seen so far and those that the last of them, `newest`, imply in up to `n` steps. -/
def within (imp : Implications) : Nat → List String → List String → List String
  | 0, seen, _ => seen
  | n + 1, seen, newest =>
    match imp.fresh seen newest with
    | [] => seen
    | r :: rs => within imp n (seen ++ (r :: rs)) (r :: rs)

/-- Everything that can be reached. A shortest way leaves every role at most once, so as many steps as there
are implying roles are enough. -/
def closure (imp : Implications) (roles : List String) : List String :=
  imp.within imp.length roles.eraseDups roles.eraseDups

def onCycle (imp : Implications) (role : String) : Bool :=
  (imp.closure (imp.children role)).contains role

def cyclic (imp : Implications) : List String :=
  (imp.map Prod.fst).filter imp.onCycle

def leadsTo (imp : Implications) (goals : List String) (role : String) : Bool :=
  (imp.closure [role]).any goals.contains

/-- Follows a way that runs into a cycle until it comes back to itself; answers the role where it does.
`cyclic` are the roles on cycles, `path` is the way so far. -/
def close (imp : Implications) (cyclic : List String) : Nat → List String → String → String
  | 0, _, role => role
  | n + 1, path, role =>
    if path.contains role then role
    else
      match (imp.children role).find? fun c => (role :: path).contains c || imp.leadsTo cyclic c with
      | some c => close imp cyclic n (role :: path) c
      | none => role

/-- A role at which a cycle closes, if there is a cycle. -/
def cycle? (imp : Implications) : Option String :=
  match imp.cyclic with
  | [] => none
  | r :: rs =>
    (imp.find? fun e => imp.leadsTo (r :: rs) e.1).map fun e =>
      imp.close (r :: rs) (imp.length + 1) [] e.1

/-- Sets the children of a role; a role that is there already keeps its place. -/
def assign (role : String) (cs : List String) : Implications → Implications
  | [] => [(role, cs)]
  | (r, ds) :: imp => if r == role then (r, cs) :: imp else (r, ds) :: assign role cs imp

end Implications

structure RoleHierarchy where
  implications : Implications
  acyclic : implications.cycle? = none

namespace RoleHierarchy

/-- The hierarchy with these implications, unless they have a cycle. -/
def ofImplications (imp : Implications) : Except Misconfiguration RoleHierarchy :=
  match h : imp.cycle? with
  | none => .ok ⟨imp, h⟩
  | some role => .error (.hierarchyCycle role)

def childrenOf (role children : Value) : Except Failure (List String) :=
  match children with
  | .text _ => .error (.configuration (.hierarchyNotList role))
  | v =>
    match v.items? with
    | some items => .ok (items.map Value.shown)
    | none => .error (.operand .wrongType)

/-- Reads implications off the entries of a mapping. -/
def readImplications (entries : List (Value × Value)) : Except Failure Implications :=
  entries.foldlM (fun imp (role, children) => do
    return Implications.assign role.shown (← childrenOf role children) imp) []

/-- The hierarchy that the entries of a mapping describe. -/
def ofEntries (entries : List (Value × Value)) : Except Failure RoleHierarchy := do
  let imp ← readImplications entries
  match ofImplications imp with
  | .ok h => return h
  | .error problem => throw (.configuration problem)

def reachable (h : RoleHierarchy) (authorities : List String) : List String :=
  h.implications.closure authorities

def roles (h : RoleHierarchy) : List String :=
  h.implications.closure (h.implications.map Prod.fst)

end RoleHierarchy

/-- The authorities that the given ones grant under a hierarchy, if there is one. -/
def grantedUnder (h : Option RoleHierarchy) (authorities : List String) : List String :=
  match h with
  | none => authorities
  | some h => h.reachable authorities

end AccessPolicy
