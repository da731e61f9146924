import AccessPolicy.Guard
import AccessPolicy.Filter
import AccessPolicy.Subject
import AccessPolicy.Text.Class

/-!
The handler of guards: it knows the beans, templates and rules of an application, checks guards before they
are used, and makes the contexts that they are evaluated in. A guard that passed the check has no unbound
names.
-/

namespace AccessPolicy

def Predicate.common : List Predicate :=
  [.hasRole, .hasAnyRole, .hasAuthority, .hasAnyAuthority, .hasPermission, .isAnonymous, .isRememberMe,
   .isAuthenticated, .isFullyAuthenticated]

def commonVariables : List String :=
  ["principal", "authentication", "permitAll", "denyAll"]

/-- The names that only some expressions see, and that nothing else may take. -/
def specialNames : List String :=
  [elementName, "returnValue", "request", "this", "hasIpAddress"]

/-- Names that beans and path variables may not take. -/
def reservedNames : List String :=
  Predicate.common.map Predicate.name ++ commonVariables ++ specialNames

structure Beans where
  entries : Bindings
  notReserved : (entries.map Prod.fst).filter reservedNames.contains = []
  wellFormed : entries.find? (fun e => !Text.isIdentifier e.1) = none

namespace Beans

def empty : Beans := ⟨[], rfl, rfl⟩

/-- Beans under the given names, each an identifier that is not reserved. -/
def ofEntries (entries : Bindings) : Except Misconfiguration Beans :=
  if h : (entries.map Prod.fst).filter reservedNames.contains = [] then
    match h' : entries.find? (fun e => !Text.isIdentifier e.1) with
    | none => .ok ⟨entries, h, h'⟩
    | some e => .error (.beanNameMalformed e.1)
  else .error (.beanNamesReserved (Text.sortedSet ((entries.map Prod.fst).filter reservedNames.contains)))

def get? (b : Beans) (name : String) : Option Value := b.entries.lookup name

def names (b : Beans) : List String := b.entries.map Prod.fst

end Beans

/-- What guards are checked against and evaluated with. -/
structure Handler (σ : Type) where
  rolePrefix : Option String := some "ROLE_"
  evaluator : Option (PermissionEvaluator σ) := none
  hierarchy : Option RoleHierarchy := none
  beans : Beans := .empty
  templates : Templates := {}
  /-- How the embedding program answers methods of the objects it lent. -/
  send : Object → String → List Value → Bindings → Run σ Value

namespace Handler

variable {σ : Type} (h : Handler σ)

def guard (text : GuardText) (label : String) : Except Failure Guard :=
  Guard.read h.templates text label

/-- The names that a guard may use. -/
def knownNames (extra : List String) (web : Bool) : List String :=
  Predicate.common.map Predicate.name ++ commonVariables ++ h.beans.names ++ extra ++
    (if web then ["request", "hasIpAddress"] else [])

/-- Checks the literal arguments of a call of the address predicate. -/
def checkRange (label : String) (args : List Literal) : Except Failure Unit :=
  match args with
  | [c] =>
    let range := c.value.shown
    match Network.read? (.text range) with
    | .ok (some _) => .ok ()
    | _ => .error (.configuration (.addressRange c.value label range))
  | _ => .error (.configuration (.addressArguments label))

/-- Refuses guards that could never be evaluated. -/
def validate (g : Guard) (extra : List String) (web : Bool) : Except Failure Unit := do
  let unknown := g.names.filter fun n => !(h.knownNames extra web).contains n
  if !unknown.isEmpty then throw (.configuration (.unboundNames g.label unknown g.source))
  if g.names.contains "hasPermission" && h.evaluator.isNone then
    throw (.configuration (.permissionUnavailable g.label))
  if web then (g.literalArguments "hasIpAddress").forM (checkRange g.label)

/-- The subject of decisions about a caller; a missing identity is anonymous. -/
def subject (who : Option Authentication) : Subject σ where
  identity := some (who.getD Authentication.anonymousUser)
  rolePrefix := h.rolePrefix
  hierarchy := h.hierarchy
  evaluator := h.evaluator

/-- A context over variables; beans are hidden by variables of the same name. -/
def contextOver (who : Option Authentication) (predicates : List Predicate) (request : Value)
    (bindings : Bindings) : Context σ where
  bindings := h.beans.entries.updated bindings
  predicates := predicates
  decide := (h.subject who).decide request
  send := h.send

/-- The context that knows an identity only. -/
def commonContext (who : Option Authentication) : Context σ :=
  h.contextOver who Predicate.common .null (h.subject who).bindings

/-- The context of a request and its path variables. -/
def webContext (who : Option Authentication) (request : Value) (pathVariables : Bindings) : Context σ :=
  h.contextOver who (Predicate.common ++ [.hasIpAddress]) request
    ((pathVariables.updated (h.subject who).bindings).updated [("request", request)])

/-- The context of a call: its arguments, the object it is made on, and what it returned. -/
def methodContext (who : Option Authentication) (arguments : Bindings) (this returned : Option Value) :
    Context σ :=
  let target : Bindings := match this with
    | some .null | none => []
    | some v => [("this", v)]
  let result : Bindings := returned.elim [] fun v => [("returnValue", v)]
  h.contextOver who Predicate.common .null
    (((arguments.updated (h.subject who).bindings).updated target).updated result)

end Handler

end AccessPolicy
