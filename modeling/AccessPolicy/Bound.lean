import AccessPolicy.BoundIdentity
import AccessPolicy.Policy.Rules

/-!
Work done while an identity is bound. What runs apart from that work sees the identity that is bound, but
what it binds itself is seen by nothing else.
-/

namespace AccessPolicy

/-- A world, and the identity that is bound in it. -/
structure Bound (σ : Type) where
  world : σ
  identity : BoundIdentity := {}

namespace Bound

variable {σ α : Type}

def bind (b : Bound σ) (who : Option Authentication) : Bound σ :=
  { b with identity := b.identity.bind who }

/-- A computation that leaves the bound identity as it is, whatever the computation does to it. -/
def apart (x : Run (Bound σ) α) : Run (Bound σ) α := do
  let { identity, .. } ← get
  tryFinally x (modify fun b => { b with identity })

/-- Binds an identity for a computation; what was bound before is bound again when the computation ends, in
whatever way. -/
def during (who : Option Authentication) (x : Run (Bound σ) α) : Run (Bound σ) α := do
  let before := (← get).identity.current
  modify (·.bind who)
  tryFinally x (modify (·.bind before))

end Bound

variable {σ α : Type}

/-- A computation on the world alone. -/
def Run.within (x : Run σ α) : Run (Bound σ) α := fun b =>
  let (a, world) := x.run.run b.world
  (a, { b with world })

namespace PermissionEvaluator

mutual

def within : PermissionEvaluator σ → PermissionEvaluator (Bound σ)
  | .denyAll => .denyAll
  | .byRole grants hierarchy => .byRole grants hierarchy
  | .delegating routes fallback => .delegating (routesWithin routes) (fallbackWithin fallback)
  | .lent name answer => .lent name fun who q => (answer who q).within
termination_by structural e => e

def routesWithin : List (String × PermissionEvaluator σ) → List (String × PermissionEvaluator (Bound σ))
  | [] => []
  | (tag, e) :: routes => (tag, e.within) :: routesWithin routes
termination_by structural routes => routes

def fallbackWithin : Option (PermissionEvaluator σ) → Option (PermissionEvaluator (Bound σ))
  | none => none
  | some e => some e.within
termination_by structural e => e

end

end PermissionEvaluator

def Handler.within (h : Handler σ) : Handler (Bound σ) where
  rolePrefix := h.rolePrefix
  evaluator := h.evaluator.map PermissionEvaluator.within
  hierarchy := h.hierarchy
  beans := h.beans
  templates := h.templates
  send o name args named := (h.send o name args named).within

/-- Rules whose evaluators and beans know nothing of the bound identity. -/
def Rules.within (rs : Rules σ) : Rules (Bound σ) where
  credentials := rs.credentials
  handler := rs.handler.within
  routes := rs.routes

end AccessPolicy
