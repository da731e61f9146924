import AccessPolicy.Callable.TypeHint
import AccessPolicy.Expr.Eval
import AccessPolicy.Failure

/-!
Callables as the policy engine sees them: their parameters, and how a call's arguments are bound to them.
-/

namespace AccessPolicy

inductive ParameterKind where
  | positional
  | normal
  | rest
  | named
  | namedRest
  deriving DecidableEq, Repr

/-- The tags that give a parameter a name of its own. -/
inductive TagKind where
  | explicit
  | query
  deriving DecidableEq, Repr

def TagKind.name : TagKind → String
  | .explicit => "P"
  | .query => "Param"

/-- What is known about the declared type of a parameter. -/
inductive DeclaredType where
  | absent
  /-- Declared, with a text that has no meaning. -/
  | unknown
  | is (hint : TypeHint)

structure Parameter where
  name : String
  kind : ParameterKind := .normal
  default : Option Value := none
  type : DeclaredType := .absent
  tags : List (TagKind × String) := []

namespace Parameter

/-- Whether a parameter takes a single argument by its position. -/
def isPositional (p : Parameter) : Bool := p.kind == .positional || p.kind == .normal

/-- The names of parameters in the order in which a body keeps them: the variadic ones come last. -/
def localNames (ps : List Parameter) : List String :=
  (ps.filter isPositional ++ ps.filter (fun p => p.kind == .named) ++ ps.filter (fun p => p.kind == .rest) ++
    ps.filter (fun p => p.kind == .namedRest)).map (·.name)

end Parameter

/-- A callable: its name, the parameters that it declares if they can be told, whether its body can be read,
whether it is bound to a receiver, which is its first argument, and the local names of its body besides the
parameters. -/
structure Callable where
  name : String
  declared : Option (List Parameter)
  readable : Bool := true
  bound : Bool := false
  locals : List String := []

namespace Callable

/-- What is left of declared parameters once the receiver is given. A variadic parameter takes it and stays;
a callable that could not take it has no parameters that can be told. -/
def withoutReceiver? : List Parameter → Option (List Parameter)
  | [] => none
  | p :: ps =>
    if p.isPositional then some ps
    else if p.kind == .rest then some (p :: ps)
    else none

/-- The parameters of a call, if they can be told. -/
def parameters (c : Callable) : Option (List Parameter) :=
  if c.bound then c.declared.bind withoutReceiver? else c.declared

/-- The names of the parameters of a call as the body has them, brought back into the order of declaration. What
the receiver of a bound callable takes is the first of them. -/
def bodyNames? (c : Callable) : Option (List String) := do
  let ps ← if c.readable then c.declared else none
  let names := Parameter.localNames ps ++ c.locals
  let positional := (ps.filter Parameter.isPositional).length
  let named := (ps.filter fun p => p.kind == .named).length
  let rest := if ps.any fun p => p.kind == .rest then 1 else 0
  let namedRest := if ps.any fun p => p.kind == .namedRest then 1 else 0
  let variadic := names.drop (positional + named)
  let ordered := names.take positional ++ variadic.take rest ++ (names.drop positional).take named ++
    (variadic.drop rest).take namedRest
  return if c.bound then ordered.drop 1 else ordered

def method (name : String) (parameters : List Parameter) (readable : Bool) : Callable :=
  ⟨name, some ({ name := "self" } :: parameters), readable, true, []⟩

/-- The declared types by parameter; none at all if one of them has no meaning. -/
def types (c : Callable) : List (String × TypeHint) :=
  let declared := c.parameters.getD []
  if declared.any fun p => p.type matches .unknown then []
  else declared.filterMap fun p =>
    match p.type with
    | .is h => some (p.name, h)
    | _ => none

/-- The tags of a parameter; tags are part of the declared types. -/
def tagsOf (c : Callable) (p : Parameter) : List (TagKind × String) :=
  if (c.parameters.getD []).any fun q => q.type matches .unknown then [] else p.tags

end Callable

/-- Arguments by parameter, in the order of the parameters. -/
abbrev Arguments := Bindings

namespace Parameter

/-- The value of a parameter that a call leaves out. -/
def missing (p : Parameter) : Attempt Value :=
  match p.default with
  | some v => .ok v
  | none => .error .wrongType

/-- Binds positional arguments, then named ones, to the parameters in their order; answers the named ones
that are left as well. -/
def bindAll : List Parameter → List Value → Bindings → Attempt (Arguments × Bindings)
  | [], [], named => .ok ([], named)
  | [], _ :: _, _ => .error .wrongType
  | p :: ps, args, named => do
    match p.kind, args with
    | .rest, args =>
      let (bound, named) ← bindAll ps [] named
      return ((p.name, .tuple args) :: bound, named)
    | .namedRest, [] =>
      let (bound, named) ← bindAll ps [] named
      return ((p.name, .dict (named.map fun (n, v) => (.text n, v))) :: bound, [])
    | .named, [] =>
      let v ← match named.lookup p.name with
        | some v => pure v
        | none => p.missing
      let (bound, named) ← bindAll ps [] (named.filter (·.1 != p.name))
      return ((p.name, v) :: bound, named)
    | .named, _ :: _ | .namedRest, _ :: _ => throw .wrongType
    | kind, v :: args =>
      if kind == .normal && (named.lookup p.name).isSome then throw .wrongType
      let (bound, named) ← bindAll ps args named
      return ((p.name, v) :: bound, named)
    | kind, [] =>
      let v ← match named.lookup p.name with
        | some v => if kind == .positional then throw .wrongType else pure v
        | none => p.missing
      let (bound, named) ← bindAll ps [] (named.filter (·.1 != p.name))
      return ((p.name, v) :: bound, named)

/-- Binds the arguments of a call, defaults included; left-over named arguments are refused. -/
def bind (ps : List Parameter) (args : List Value) (named : Bindings) : Attempt Arguments := do
  let (bound, left) ← bindAll ps args named
  if left.isEmpty then return bound else throw .wrongType

/-- Whether arguments can be given to a parameter by its name. -/
def isNameable (p : Parameter) : Bool := p.kind == .normal || p.kind == .named

/-- The named arguments of a call that name no parameter; the name of a positional parameter is free for them. -/
def strangers (ps : List Parameter) (named : Bindings) : Bindings :=
  named.filter fun e => !ps.any fun p => p.isNameable && p.name == e.1

/-- The value of a parameter that is given by its name or left out. -/
def byName (p : Parameter) (named : Bindings) : Attempt Value :=
  match named.lookup p.name with
  | some v => .ok v
  | none => p.missing

/-- The value that a parameter of a function takes, and the positional arguments that it leaves. -/
def take (p : Parameter) (named strangers : Bindings) (args : List Value) : Attempt (Value × List Value) :=
  match p.kind, args with
  | .rest, args => .ok (.tuple args, [])
  | .namedRest, args => .ok (.dict (strangers.map fun (n, v) => (.text n, v)), args)
  | .named, args => do return (← p.byName named, args)
  | .positional, v :: args => .ok (v, args)
  | .positional, [] => do return (← p.missing, [])
  | .normal, v :: args => if (named.lookup p.name).isSome then .error .wrongType else .ok (v, args)
  | .normal, [] => do return (← p.byName named, [])

def receiveAll (named strangers : Bindings) : List Parameter → List Value → Attempt Arguments
  | [], [] => .ok []
  | [], _ :: _ => .error .wrongType
  | p :: ps, args => do
    let (v, args) ← p.take named strangers args
    return (p.name, v) :: (← receiveAll named strangers ps args)

/-- Whether left-over named arguments are collected. -/
def collects (ps : List Parameter) : Bool := ps.any (·.kind == .namedRest)

/-- What a function receives that is called without anything in between. It differs from `bind` where the name of
a positional parameter that is left out is given to further named arguments. -/
def receive (ps : List Parameter) (args : List Value) (named : Bindings) : Attempt Arguments :=
  if (strangers ps named).isEmpty || collects ps then receiveAll named (strangers ps named) ps args
  else .error .wrongType

/-- What a parameter's argument is passed on as by position. -/
def byPosition (p : Parameter) (v : Value) : List Value :=
  match p.kind with
  | .positional | .normal => [v]
  | .rest => v.items?.getD []
  | .named | .namedRest => []

/-- What a parameter's argument is passed on as by name. -/
def underName (p : Parameter) (v : Value) : Bindings :=
  match p.kind, v with
  | .named, v => [(p.name, v)]
  | .namedRest, .mapping _ entries => entries.filterMap fun
    | (.text n, v) => some (n, v)
    | _ => none
  | _, _ => []

def passed {α : Type} (ps : List Parameter) (arguments : Arguments) (part : Parameter → Value → List α) : List α :=
  ps.flatMap fun p => (arguments.lookup p.name).elim [] (part p)

/-- Calls a function with arguments that are bound already, which are taken apart again. -/
def pass {α : Type} (ps : List Parameter) (f : List Value → Bindings → α) (arguments : Arguments) : α :=
  f (passed ps arguments byPosition) (passed ps arguments underName)

end Parameter

namespace Callable

/-- Whether a call gives an argument by the name of the parameter that takes the receiver. -/
def receiverNamed (c : Callable) (named : Bindings) : Bool :=
  c.bound && (c.declared.getD []).head?.any fun p => p.kind == .normal && (named.lookup p.name).isSome

/-- What a callable receives from a call besides its receiver. -/
def receive (c : Callable) (args : List Value) (named : Bindings) : Attempt Arguments :=
  if c.receiverNamed named then .error .wrongType
  else Parameter.receive (c.parameters.getD []) args named

/-- A callable as it is called: its body runs with what it receives. -/
def function {σ α : Type} (c : Callable) (body : Arguments → Run σ α) (args : List Value) (named : Bindings) :
    Run σ α := do
  body (← Run.attempt (c.receive args named))

/-- What a callable does when it is called with arguments that are bound already. -/
def apply {σ α : Type} (c : Callable) (body : Arguments → Run σ α) (arguments : Arguments) : Run σ α :=
  Parameter.pass (c.parameters.getD []) (c.function body) arguments

end Callable

end AccessPolicy
