import AccessPolicy.Documents.Store
import AccessPolicy.Expr.Eval
import AccessPolicy.Permission
import AccessPolicy.Value.Method
import AccessPolicy.Value.Whole

/-!
Who may do what to a document. Administrators may do anything; an owner may read, write and delete; others
may read what is not confidential. Nobody may do anything without an identity.
-/

namespace AccessPolicy

namespace Documents

def adminAuthority : String := "ROLE_ADMIN"

def decide (who : Option Authentication) (owner : Value) (confidential : Bool) (permission : Value) : Bool :=
  match who with
  | none => false
  | some a =>
    let owns := owner.equal (a.name.elim .null .text)
    if a.anonymous then false
    else if a.holds adminAuthority then true
    else if permission.equal (.text "read") then owns || !confidential
    else if permission.equal (.text "write") || permission.equal (.text "delete") then owns
    else false

/-- The whole number that a value denotes, if it denotes one; numbers without bounds are refused. -/
def wholeOrNone (v : Value) : Except Failure (Option Int) :=
  match v.whole with
  | .ok n => .ok (some n)
  | .error .wrongType | .error .badValue => .ok none
  | .error f => .error (.operand f)

def lookUp (s : Store) (id : Value) : Except Failure (Option Document) := do
  match ← wholeOrNone id with
  | none => return none
  | some n => if Credentials.isKey n then return s.document? n else throw (.operand .overflow)

/-- The answer to a question about an object that is at hand. -/
def mayUse (who : Option Authentication) (target permission : Value) : Except Failure Bool :=
  match target with
  | .null => .ok false
  | v =>
    match v.attribute? "owner", v.attribute? "confidential" with
    | some owner, some confidential => .ok (decide who owner confidential.truthy permission)
    | _, _ => .error (.operand .noSuchAttribute)

/-- The answer to a question about the document with an id; a document that is not there is denied. -/
def mayUseById (s : Store) (who : Option Authentication) (id permission : Value) : Except Failure Bool := do
  match ← lookUp s id with
  | none => return false
  | some d => return decide who (.text d.owner) d.confidential permission

/-- Whether an identity owns the document with an id. -/
def isOwner (s : Store) (who : Option Authentication) (id : Value) : Except Failure Bool :=
  match who with
  | none => .ok false
  | some a =>
    if a.anonymous then .ok false
    else do
      match ← lookUp s id with
      | none => return false
      | some d => return a.name == some d.owner

def evaluator : PermissionEvaluator Store :=
  .lent "DocumentPermissionEvaluator" fun who q => do
    match q with
    | .object target permission => return .bool (← Run.ofExcept (mayUse who target permission))
    | .byId id _ permission => return .bool (← Run.ofExcept (mayUseById (← get) who id permission))

def ownerQuestion : String := "is_owner"

/-- The bean by which guards ask for the owner of a document. -/
def access : Object := ⟨0, "DocumentAccess", [], none, [ownerQuestion]⟩

/-- An argument that must be an identity or nothing. -/
def identityArgument : Value → Except Failure (Option Authentication)
  | .null => .ok none
  | .identity a => .ok (some a)
  | _ => .error (.operand .noSuchAttribute)

end Documents

end AccessPolicy
