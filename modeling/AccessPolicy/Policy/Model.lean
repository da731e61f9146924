import AccessPolicy.Checked
import AccessPolicy.Template

/-!
The policy of an application as it is configured: which guard each route has, and by which rules guards are
decided. Everything has a default; a rule has either the text of its guard or a template, never both.
-/

namespace AccessPolicy

structure CredentialNames where
  header : String := "Authorization"
  bearer : String := "Bearer"
  cookie : String := "remember-me"
  deriving DecidableEq, Repr

/-- A rule for requests: a path template, the methods it is for, and the guard. -/
structure RouteRule where
  path : String
  methods : List String := ["GET"]
  guard : GuardText

structure Policy where
  rolePrefix : String := "ROLE_"
  hierarchy : List (String × List String) := []
  templates : List (String × String) := []
  /-- Type tags, the permissions of each, and the authorities that have them. -/
  permissions : List (String × List (String × List String)) := []
  credentials : CredentialNames := {}
  default : GuardText := .plain "isAuthenticated()"
  routes : List RouteRule := []

namespace Policy

open Checked

def credentialNames (v : Value) : Checked CredentialNames := do
  let entries ← record v
  let names : CredentialNames := {}
  let ((header, bearer), cookie) ← both
    (both (field entries "authorization_header" (.ok names.header) text)
      (field entries "bearer_prefix" (.ok names.bearer) text))
    (field entries "remember_me_cookie" (.ok names.cookie) text)
  return ⟨header, bearer, cookie⟩

/-- A template and the values for its placeholders. -/
def templateRef (v : Value) : Checked GuardText := do
  let entries ← record v
  let (name, params) ← both (field entries "name" (fault .missing) text)
    (field entries "params" (.ok []) (mapping .ok))
  return .template name params

/-- The guard of a rule: a text or a template. `access` is the text where the rule gives none. -/
def guardOf (entries : List (Value × Value)) (access : Option String) : Checked (Option GuardText) := do
  let (access, template) ← both (field entries "access" (.ok access) (optional text))
    (field entries "template" (.ok none) (optional templateRef))
  match access, template with
  | some s, none => return some (.plain s)
  | none, some t => return some t
  | _, _ => return none

def required : Option GuardText → Checked GuardText
  | some g => .ok g
  | none => fault .contradictory

def route (v : Value) : Checked RouteRule := do
  let entries ← record v
  let ((path, methods), guard) ← both
    (both (field entries "path" (fault .missing) text) (field entries "methods" (.ok ["GET"]) (list text)))
    (guardOf entries none)
  return ⟨path, methods, ← required guard⟩

/-- The rule for requests that no route is for; a template takes the place of its usual text. -/
def defaultGuard (v : Value) : Checked GuardText := do
  let entries ← record v
  let hasTemplate := match lookupEntry entries (.text "template") with
    | none | some .null => false
    | _ => true
  required (← guardOf entries (if hasTemplate then none else some "isAuthenticated()"))

def ofValue (v : Value) : Checked Policy := do
  let entries ← record v
  let start : Policy := {}
  let ((((rolePrefix, hierarchy), (templates, permissions)), (credentials, default)), routes) ← both
    (both
      (both
        (both (field entries "default_role_prefix" (.ok start.rolePrefix) text)
          (field entries "role_hierarchy" (.ok []) (mapping (list text))))
        (both (field entries "templates" (.ok []) (mapping text))
          (field entries "permissions" (.ok []) (mapping (mapping (list text))))))
      (both (field entries "auth" (.ok start.credentials) credentialNames)
        (field entries "default" (.ok start.default) defaultGuard)))
    (field entries "routes" (.ok []) (list route))
  return { rolePrefix, hierarchy, templates, permissions, credentials, default, routes }

end Policy

end AccessPolicy
