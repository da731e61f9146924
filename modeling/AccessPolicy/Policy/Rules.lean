import AccessPolicy.Policy.Model
import AccessPolicy.Policy.Path
import AccessPolicy.Text.Case

/-!
A policy at work: its guards are read and checked, and each request finds the one that decides about it.
A route without variables goes before routes that only fit a path; among equals the first one counts.
-/

namespace AccessPolicy

structure Route where
  path : String
  /-- The regular expression that paths are matched with. -/
  pattern : String
  variableNames : List String
  methods : List String
  guard : Guard

/-- The guard that decides about a request, and the variables of its path. -/
structure RouteMatch where
  guard : Guard
  pathVariables : List (String × String)

structure Routes where
  routes : List Route
  default : Guard

/-- A policy with the handler that evaluates its guards. -/
structure Rules (σ : Type) where
  credentials : CredentialNames
  handler : Handler σ
  routes : Routes

namespace Routes

def admits (method : String) (r : Route) : Bool := r.methods.contains method

def find (rs : Routes) (path method : String) : RouteMatch :=
  let method := Text.upper method
  match rs.routes.find? fun r => r.variableNames.isEmpty && r.path == path && admits method r with
  | some r => ⟨r.guard, []⟩
  | none =>
    let fitting := rs.routes.findSome? fun r =>
      if admits method r then (Text.Regex.match? r.pattern path).map fun vs => RouteMatch.mk r.guard vs
      else none
    fitting.getD ⟨rs.default, []⟩

end Routes

namespace Rules

variable {σ : Type}

def grants (p : Policy) : Grants :=
  p.permissions.map fun (type, permissions) =>
    (.text type, permissions.map fun (permission, authorities) =>
      (.text permission, authorities.eraseDups.map .text))

/-- The handler of a policy: evaluators for single types go before what the policy grants. -/
def handlerOf (p : Policy) (evaluators : List (String × PermissionEvaluator σ)) (beans : Bindings)
    (send : Object → String → List Value → Bindings → Run σ Value) : Except Misconfiguration (Handler σ) := do
  let hierarchy ← if p.hierarchy.isEmpty then pure none else
    some <$> RoleHierarchy.ofImplications p.hierarchy
  let granted := if p.permissions.isEmpty then none else some (.byRole (grants p) hierarchy)
  let evaluator := if evaluators.isEmpty then granted else some (.delegating evaluators granted)
  return {
    rolePrefix := some p.rolePrefix
    evaluator
    hierarchy
    beans := ← Beans.ofEntries beans
    templates := ⟨p.templates⟩
    send }

def route (h : Handler σ) (index : Nat) (r : RouteRule) : Except Failure Route := do
  let template ← match PathTemplate.read r.path with
    | .ok t => pure t
    | .error problem => throw (.configuration problem)
  let g ← h.guard r.guard ("routes[" ++ toString index ++ "] " ++ r.path)
  h.validate g template.variableNames true
  return ⟨r.path, template.pattern, template.variableNames, r.methods.map Text.upper, g⟩

/-- The routes of a policy, read and checked. -/
def routesOf (h : Handler σ) (p : Policy) : Except Failure Routes := do
  let routes ← (p.routes.mapIdx fun i r => (i, r)).mapM fun (i, r) => route h i r
  let g ← h.guard p.default "default"
  h.validate g [] true
  return ⟨routes, g⟩

def of (p : Policy) (evaluators : List (String × PermissionEvaluator σ)) (beans : Bindings)
    (send : Object → String → List Value → Bindings → Run σ Value) : Except Failure (Rules σ) := do
  match handlerOf p evaluators beans send with
  | .error problem => throw (.configuration problem)
  | .ok h => return ⟨p.credentials, h, ← routesOf h p⟩

/-- The context of a request under the rule that it found. -/
def context (rs : Rules σ) (who : Option Authentication) (request : Value) (m : RouteMatch) : Context σ :=
  rs.handler.webContext who request (m.pathVariables.map fun (n, s) => (n, .text s))

end Rules

end AccessPolicy
