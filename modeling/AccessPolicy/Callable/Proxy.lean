import AccessPolicy.Callable.Secured

/-!
Objects with secured methods. A proxy has two names of its own; behind all others it answers the secured methods
of its target itself, and everything else as the target does.
-/

namespace AccessPolicy

/-- A method of a class: how it is called, what guards it, and what it does. -/
structure Method (σ : Type) where
  name : String
  callable : Callable
  slots : Slots
  body : Arguments → Run σ Value

namespace Method

variable {σ : Type}

def run (m : Method σ) (args : List Value) (named : Bindings) : Run σ Value := do
  m.body (← Run.attempt (Parameter.receive (m.callable.parameters.getD []) args named))

/-- A handler that answers the methods of an object by running them, without their guards. -/
def lend (methods : List (Method σ)) (target : Object) (h : Handler σ) : Handler σ :=
  { h with
    send := fun o name args named =>
      match methods.find? fun m => o.id == target.id && m.name == name with
      | some m => m.run args named
      | none => h.send o name args named }

end Method

/-- What a name stands for on an object or on its proxy. -/
inductive Member (σ : Type) where
  /-- The object itself. -/
  | target
  | value (v : Value)
  /-- A method as its class has it. -/
  | method (m : Method σ)
  /-- A method behind its guards. -/
  | secured (a : Attachment) (m : Method σ)

/-- What a name stands for on an object with methods. -/
def Object.member? {σ : Type} (o : Object) (methods : List (Method σ)) (name : String) : Option (Member σ) :=
  match o.attributes.lookup name with
  | some v => some (.value v)
  | none => (methods.find? (·.name == name)).map .method

structure Proxy (σ : Type) where
  target : Object
  methods : List (Method σ)
  /-- By the names of the methods that carry guards: these guards, or the attribute of the target that hid the
  method when the proxy was made. -/
  members : List (String × (Attachment ⊕ Value))

namespace Proxy

variable {σ : Type}

/-- The guards of the secured methods, by name. -/
def secured (p : Proxy σ) : List (String × Attachment) :=
  p.members.filterMap fun (n, x) => x.getLeft?.map fun a => (n, a)

/-- A method behind its guards. An attribute of the object that hides the method is taken as it is if its
parameters can be told, as a value carries no guards. -/
def memberOf (h : Handler σ) (target : Object) (hasParameters : Value → Bool) (m : Method σ) :
    Except Failure (Attachment ⊕ Value) :=
  match target.attributes.lookup m.name with
  | some v => if hasParameters v then .ok (.inr v) else .error (.configuration (.noParameters v.written))
  | none => .inl <$> Attachment.of h NameResolver.standard m.callable m.slots m.callable.bound

/-- Secures the methods of an object that carry guards, but for those with a special name. -/
def protect (h : Handler σ) (target : Object) (methods : List (Method σ))
    (hasParameters : Value → Bool := fun _ => false) : Except Failure (Proxy σ) := do
  let guarded := methods.filter fun m => m.slots.isSecured && !m.name.startsWith "__"
  let guarded := guarded.mergeSort fun a b => !(b.name < a.name)
  let members ← guarded.mapM fun m => do return (m.name, ← memberOf h target hasParameters m)
  return ⟨{ target with methods := methods.map (·.name) }, methods, members⟩

def set (p : Proxy σ) (name : String) (v : Value) : Proxy σ :=
  { p with target := { p.target with attributes := Bindings.assign name v p.target.attributes } }

/-- The name by which the target itself can be had. -/
def targetName : String := "_target"

/-- The name by which the secured methods can be had together. -/
def methodsName : String := "_methods"

/-- The method of a class that answers calls of its objects. -/
def callName : String := "__call__"

/-- A method of the target as a value. -/
def methodValue (p : Proxy σ) (name : String) : Value := .function (.method (.object p.target) name)

/-- What a name stands for on a proxy. -/
def member? (p : Proxy σ) (name : String) : Option (Member σ) :=
  if name == targetName then some .target
  else if name == methodsName then
    some (.value (.dict (p.members.map fun (n, x) => (.text n, x.elim (fun _ => p.methodValue n) id))))
  else
    match p.members.lookup name, p.methods.find? (·.name == name) with
    | some (.inl a), some m => some (.secured a m)
    | some (.inr v), _ => some (.value v)
    | _, _ => p.target.member? p.methods name

def get (p : Proxy σ) (name : String) : Attempt Value :=
  match p.member? name with
  | some .target => .ok (.object p.target)
  | some (.value v) => .ok v
  | some (.method m) | some (.secured _ m) => .ok (p.methodValue m.name)
  | none => .error .noSuchAttribute

def call (p : Proxy σ) (h : Handler σ) (who : Option Authentication) (name : String) (args : List Value)
    (named : Bindings) : Run σ Value :=
  match p.member? name with
  | some .target =>
    match p.methods.find? (·.name == callName) with
    | some m => m.run args named
    | none => throw (.operand .wrongType)
  | some (.value v) => (h.commonContext who).call v args named
  | some (.method m) => m.run args named
  | some (.secured a m) =>
    let this := if a.hasTarget then some (.object p.target) else none
    a.call (Method.lend p.methods p.target h) this who m.body args named
  | none => throw (.operand .noSuchAttribute)

/-- How a proxy is shown, after its target. -/
def shown (target : String) : String := "SecuredProxy(" ++ target ++ ")"

end Proxy

end AccessPolicy
