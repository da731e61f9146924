import AccessPolicy.Address
import AccessPolicy.Identity
import AccessPolicy.Permission
import AccessPolicy.Expr.Eval

/-!
The predicates of the expression language, decided for one identity. A missing identity holds nothing and
counts as anonymous. The role prefix is put before the arguments of the role predicates, never before the
authorities themselves.
-/

namespace AccessPolicy

/-- A role with the prefix of roles, unless it has it already. -/
def withRolePrefix (rolePrefix : Option String) (role : String) : String :=
  match rolePrefix with
  | none => role
  | some p => if p.isEmpty || role.startsWith p then role else p ++ role

/-- A role with its prefix, for values of any type: an empty prefix changes nothing, and otherwise both must
be texts. -/
def prefixedRole (rolePrefix role : Value) : Attempt Value :=
  if !rolePrefix.truthy then .ok role
  else
    match role, rolePrefix with
    | .text r, .text p => .ok (.text (withRolePrefix (some p) r))
    | .text _, _ | .bytes _, _ | .byteArray _, _ => .error .wrongType
    | _, _ => .error .noSuchAttribute

/-- Whose identity predicates are about, and by which rules they are decided. -/
structure Subject (σ : Type) where
  identity : Option Authentication
  rolePrefix : Option String := some "ROLE_"
  hierarchy : Option RoleHierarchy := none
  evaluator : Option (PermissionEvaluator σ) := none

namespace Subject

variable {σ : Type}

/-- The authorities that the identity holds, implied ones included. -/
def authorities (s : Subject σ) : List String :=
  grantedUnder s.hierarchy (s.identity.elim [] (·.authorities))

/-- Whether one of the candidates is held; candidates that are no texts are not. -/
def holdsAny (s : Subject σ) (rolePrefix : Option String) (candidates : List Value) : Bool :=
  candidates.any fun
    | .text c => s.authorities.contains (withRolePrefix rolePrefix c)
    | _ => false

def principal (s : Subject σ) : Value :=
  match s.identity with
  | some a => a.principal
  | none => .null

def identityValue (s : Subject σ) : Value :=
  match s.identity with
  | some a => .identity a
  | none => .null

/-- The single argument of a call, given by position or by its name. -/
def oneArgument (name : String) (args : List Value) (named : Bindings) : Run σ Value :=
  match args, named with
  | [v], [] => pure v
  | [], [(n, v)] => if n == name then pure v else throw (.operand .wrongType)
  | _, _ => throw (.operand .wrongType)

/-- The arguments of a call that takes none by name. -/
def unnamed (args : List Value) (named : Bindings) : Run σ (List Value) :=
  if named.isEmpty then pure args else throw (.operand .wrongType)

def constant (b : Bool) (args : List Value) (named : Bindings) : Run σ Value :=
  if args.isEmpty && named.isEmpty then pure (.bool b) else throw (.operand .wrongType)

/-- Decides a predicate; `request` is the inbound request, which only the address predicate reads. -/
def decide (s : Subject σ) (request : Value) (p : Predicate) (args : List Value) (named : Bindings) :
    Run σ Value := do
  match p with
  | .hasRole => return .bool (s.holdsAny s.rolePrefix [← oneArgument "role" args named])
  | .hasAnyRole => return .bool (s.holdsAny s.rolePrefix (← unnamed args named))
  | .hasAuthority => return .bool (s.holdsAny none [← oneArgument "authority" args named])
  | .hasAnyAuthority => return .bool (s.holdsAny none (← unnamed args named))
  | .hasPermission =>
    let args ← unnamed args named
    match s.evaluator with
    | none => throw (.configuration .noPermissionEvaluator)
    | some e => return .bool (← e.ask s.identity args)
  | .isAnonymous => constant (Trust.of s.identity).anonymous args named
  | .isRememberMe => constant (Trust.of s.identity).rememberMe args named
  | .isAuthenticated => constant (Trust.of s.identity).authenticated args named
  | .isFullyAuthenticated => constant (Trust.of s.identity).fullyAuthenticated args named
  | .hasIpAddress =>
    let range ← oneArgument "ip_range" args named
    match isFrom request range with
    | .ok b => return .bool b
    | .error f => throw f

def bindings (s : Subject σ) : Bindings :=
  [("principal", s.principal), ("authentication", s.identityValue), ("permitAll", .bool true),
   ("denyAll", .bool false)]

end Subject

end AccessPolicy
