import AccessPolicy.RoleHierarchy

/-!
Permission evaluators answer whether an identity may do something to an object. A question names the object
itself, or its id and type. An evaluator that fails, or that answers anything but a truth value, is a fault
of its own and never a denial.
-/

namespace AccessPolicy

/-- The tag that permissions know a value's type by. -/
def Value.typeTag : Value → String
  | .document _ => "Document"
  | .object o =>
    match o.permissionTag with
    | some (.text tag) => if tag.isEmpty then o.className else tag
    | _ => o.className
  | v => v.typeName

inductive PermissionQuestion where
  | object (target permission : Value)
  | byId (id type permission : Value)

def PermissionQuestion.ofArgs? : List Value → Option PermissionQuestion
  | [target, permission] => some (.object target permission)
  | [id, type, permission] => some (.byId id type permission)
  | _ => none

/-- Type tags, the permissions of each, and the authorities that have them. -/
abbrev Grants := List (Value × List (Value × List Value))

def Value.entries (v : Value) : Attempt (List (Value × Value)) :=
  match v with
  | .mapping _ entries => .ok entries
  | _ => .error .noSuchAttribute

def Grants.ofValue (v : Value) : Attempt Grants := do
  (← v.entries).mapM fun (type, permissions) => do
    let permissions ← (← permissions.entries).mapM fun (permission, authorities) => do
      let authorities ← authorities.items
      if authorities.all Value.isHashable then return (permission, distinct authorities)
      else throw .wrongType
    return (type, permissions)

/-- The authorities that have a permission on a type. -/
def Grants.allowed (g : Grants) (type : Value) (permission : String) : List Value :=
  match g.find? fun e => alike e.1 type with
  | some (_, permissions) =>
    match permissions.find? fun e => alike e.1 (.text permission) with
    | some (_, authorities) => authorities
    | none => []
  | none => []

inductive PermissionEvaluator (σ : Type) where
  | denyAll
  /-- Grants by authority, widened by a hierarchy. -/
  | byRole (grants : Grants) (hierarchy : Option RoleHierarchy)
  /-- One evaluator for each type tag, and one for the others. -/
  | delegating (routes : List (String × PermissionEvaluator σ)) (fallback : Option (PermissionEvaluator σ))
  /-- An evaluator of the embedding program. -/
  | lent (name : String) (answer : Option Authentication → PermissionQuestion → Run σ Value)

namespace PermissionEvaluator

variable {σ : Type}

def name : PermissionEvaluator σ → String
  | .denyAll => "DenyAllPermissionEvaluator"
  | .byRole .. => "RolePermissionEvaluator"
  | .delegating .. => "DelegatingPermissionEvaluator"
  | .lent name _ => name

/-- What grants say about a type, a permission and an identity's authorities. -/
def grantsAnswer (grants : Grants) (hierarchy : Option RoleHierarchy) (who : Option Authentication)
    (type permission : Value) : Attempt Bool :=
  match who with
  | none => .ok false
  | some a =>
    if !type.isHashable then .error .wrongType
    else if permission.tooLongToWrite then .error .badValue
    else
      let allowed := grants.allowed type permission.shown
      .ok ((grantedUnder hierarchy a.authorities).any fun g => allowed.any (alike (.text g)))

/-- What grants say about a question; a missing object is denied. -/
def byRoleAnswer (grants : Grants) (hierarchy : Option RoleHierarchy) (who : Option Authentication) :
    PermissionQuestion → Attempt Bool
  | .object .null _ => .ok false
  | .object target permission => grantsAnswer grants hierarchy who (.text target.typeTag) permission
  | .byId _ type permission => grantsAnswer grants hierarchy who type permission

def PermissionQuestion.tag : PermissionQuestion → Value
  | .object target _ => .text target.typeTag
  | .byId _ type _ => type

mutual

def answer (who : Option Authentication) (q : PermissionQuestion) : PermissionEvaluator σ → Run σ Value
  | .denyAll => pure (.bool false)
  | .byRole grants hierarchy => do return .bool (← Run.attempt (byRoleAnswer grants hierarchy who q))
  | .delegating routes fallback =>
    if (PermissionQuestion.tag q).isHashable then
      match answerRoute who q (PermissionQuestion.tag q) routes with
      | some answer => answer
      | none => answerFallback who q fallback
    else throw (.operand .wrongType)
  | .lent _ f => f who q
termination_by structural e => e

/-- The answer of the evaluator that a tag is routed to, if it is routed. -/
def answerRoute (who : Option Authentication) (q : PermissionQuestion) (tag : Value) :
    List (String × PermissionEvaluator σ) → Option (Run σ Value)
  | [] => none
  | (t, e) :: routes => if alike (.text t) tag then some (answer who q e) else answerRoute who q tag routes
termination_by structural routes => routes

def answerFallback (who : Option Authentication) (q : PermissionQuestion) :
    Option (PermissionEvaluator σ) → Run σ Value
  | none => pure (.bool false)
  | some e => answer who q e
termination_by structural e => e

end

/-- Asks an evaluator. Faults of the evaluator become permission faults. -/
def ask (e : PermissionEvaluator σ) (who : Option Authentication) (args : List Value) : Run σ Bool := do
  match PermissionQuestion.ofArgs? args with
  | none => throw (.permissionArity args.length)
  | some q =>
    let v ← tryCatch (e.answer who q) fun f =>
      match f with
      | .permission _ => throw f
      | f => throw (.permission (.failed e.name f))
    match v with
    | .bool b => return b
    | v => throw (.permission (.notBoolean e.name v.typeName))

end PermissionEvaluator

end AccessPolicy
