import AccessPolicy.Callable.Binder
import AccessPolicy.Callable.Slots
import AccessPolicy.Handler

/-!
Secured calls. Before a call, one guard decides whether it happens, and another filters an argument; after
it, one filters what it returned, and another decides whether the caller gets to see that. A call that is
refused before it happens never runs its body.
-/

namespace AccessPolicy

/-- The guards of a callable, read and checked. -/
structure Attachment where
  operation : String
  binder : Binder
  /-- Whether calls are made on an object. -/
  hasTarget : Bool
  preAuthorize : Option Guard
  preFilter : Option Guard
  /-- The parameter to filter; without one, each call decides. -/
  filterTarget : Option String
  postAuthorize : Option Guard
  postFilter : Option Guard

namespace Attachment

def hasGuards (a : Attachment) : Bool :=
  a.preAuthorize.isSome || a.preFilter.isSome || a.postAuthorize.isSome || a.postFilter.isSome

/-- The parameter that the filter before a call is for, as far as the callable itself tells. -/
def staticTarget (b : Binder) (target : Option String) : Except Misconfiguration (Option String) :=
  match target with
  | some n =>
    match b.parameter? n with
    | some p => .ok (some p)
    | none => .error (.filterTargetUnknown n b.callable.name)
  | none =>
    let names := b.parameters.map (·.name)
    let types := b.callable.types
    match names with
    | [p] => .ok (some p)
    | names =>
      match names.filter fun n => (types.lookup n).any (·.isContainer) with
      | [p] => .ok (some p)
      | [] =>
        if !types.isEmpty && names.all fun n => (types.lookup n).isSome then
          .error (.filterTargetMissing b.callable.name)
        else .ok none
      | ps => .error (.filterTargetAmbiguous b.callable.name ps)

variable {σ : Type}

def guard? (a : Attachment) : Slot → Option Guard
  | .preAuthorize => a.preAuthorize
  | .preFilter => a.preFilter
  | .postAuthorize => a.postAuthorize
  | .postFilter => a.postFilter

/-- The names that the guard of a slot sees besides the arguments of the call. -/
def slotNames : Slot → List String
  | .preAuthorize => []
  | .preFilter => [elementName]
  | .postAuthorize => ["returnValue"]
  | .postFilter => ["returnValue", elementName]

/-- Reads and checks the guard of a slot, if there is one; `arguments` are the names that all slots see. -/
def compile (h : Handler σ) (c : Callable) (slots : Slots) (arguments : List String) (slot : Slot) :
    Except Failure (Option Guard) := do
  match slots.get slot with
  | none => return none
  | some text =>
    let g ← h.guard text (c.name ++ ":" ++ slot.name)
    h.validate g (arguments ++ slotNames slot) false
    return some g

def configured {α : Type} (x : Except Misconfiguration α) : Except Failure α :=
  match x with
  | .ok a => .ok a
  | .error p => .error (.configuration p)

/-- The names of a call's arguments, and of the object that it is made on. -/
def argumentNames (b : Binder) (hasTarget : Bool) : List String :=
  b.names.map Prod.fst ++ (if hasTarget then ["this"] else [])

def of (h : Handler σ) (rs : List NameResolver) (c : Callable) (slots : Slots) (hasTarget : Bool) :
    Except Failure Attachment := do
  let binder ← configured (Binder.of rs c)
  let arguments := argumentNames binder hasTarget
  let preFilter ← compile h c slots arguments .preFilter
  let filterTarget ← if preFilter.isSome then configured (staticTarget binder slots.filterTarget) else pure none
  let preAuthorize ← compile h c slots arguments .preAuthorize
  let postAuthorize ← compile h c slots arguments .postAuthorize
  let postFilter ← compile h c slots arguments .postFilter
  return ⟨c.name, binder, hasTarget, preAuthorize, preFilter, filterTarget, postAuthorize, postFilter⟩

/-- The parameter to filter in a call that has exactly one container among its arguments. -/
def dynamicTarget (a : Attachment) (arguments : Arguments) : Except Misconfiguration String :=
  match (arguments.filter fun e => e.2.isFilterable).map Prod.fst with
  | [p] => .ok p
  | [] => .error (.callWithoutContainer a.operation)
  | ps => .error (.filterTargetAmbiguous a.operation ps)

/-- The parameter to filter in a call; an empty name counts as none. -/
def target (a : Attachment) (arguments : Arguments) : Except Failure String :=
  match a.filterTarget.filter (!·.isEmpty) with
  | some p => .ok p
  | none =>
    match a.dynamicTarget arguments with
    | .ok p => .ok p
    | .error problem => .error (.configuration problem)

variable (h : Handler σ) (a : Attachment) (this : Option Value) (who : Option Authentication)

/-- Refuses unless a guard, if there is one, lets the caller pass. -/
def demand (ctx : Context σ) (g : Option Guard) : Run σ Unit := do
  match g with
  | none => pure ()
  | some g => if !(← g.allows ctx) then throw .accessDenied

/-- What guards see of a call, and of what it returned. -/
def context (arguments : Arguments) (returned : Option Value) : Context σ :=
  h.methodContext who (a.binder.bindings arguments) this returned

/-- The arguments with the one that the filter before a call is for narrowed. -/
def narrow (ctx : Context σ) (arguments : Arguments) : Run σ Arguments := do
  match a.preFilter with
  | none => return arguments
  | some g =>
    let p ← Run.ofExcept (a.target arguments)
    match arguments.lookup p with
    | none => throw (.operand .missingKey)
    | some v => return Bindings.assign p (← g.filter ctx v) arguments

/-- What happens before a call: the arguments to make it with. -/
def before (arguments : Arguments) : Run σ Arguments := do
  let ctx := context h a this who arguments none
  demand ctx a.preAuthorize
  a.narrow ctx arguments

/-- A returned value, narrowed by the filter after a call if there is one. -/
def screen (ctx : Context σ) (g : Option Guard) (returned : Value) : Run σ Value :=
  match g with
  | none => pure returned
  | some g => g.filter ctx returned

/-- What happens after a call: the value that the caller gets. -/
def after (arguments : Arguments) (returned : Value) : Run σ Value := do
  let v ← screen (context h a this who arguments (some returned)) a.postFilter returned
  demand (context h a this who arguments (some v)) a.postAuthorize
  return v

def invoke (body : Arguments → Run σ Value) (args : List Value) (named : Bindings) : Run σ Value := do
  let arguments ← Run.attempt (a.binder.bind args named)
  let arguments ← before h a this who arguments
  let returned ← body arguments
  after h a this who arguments returned

/-- A secured call of a body that answers a computation, which is awaited before anything happens after it. -/
def invokeAwaited (body : Arguments → Run σ (Run σ Value)) (args : List Value) (named : Bindings) :
    Run σ Value := do
  let arguments ← Run.attempt (a.binder.bind args named)
  let arguments ← before h a this who arguments
  let pending ← body arguments
  let returned ← pending
  after h a this who arguments returned

/-- A call that is secured only where there are guards; without any, the callable is called itself. -/
def call (body : Arguments → Run σ Value) (args : List Value) (named : Bindings) : Run σ Value := do
  if a.hasGuards then invoke h a this who body args named
  else body (← Run.attempt (Parameter.receive a.binder.parameters args named))

/-- A call of a secured function. It is passed the arguments as they were bound, or called itself where there are
no guards. -/
def callFunction (f : List Value → Bindings → Run σ Value) (args : List Value) (named : Bindings) : Run σ Value :=
  if a.hasGuards then invoke h a this who (Parameter.pass a.binder.parameters f) args named
  else f args named

/-- The same for a function that answers a computation, which is awaited. -/
def callAwaited (f : List Value → Bindings → Run σ (Run σ Value)) (args : List Value) (named : Bindings) :
    Run σ Value :=
  if a.hasGuards then invokeAwaited h a this who (Parameter.pass a.binder.parameters f) args named
  else do (← f args named)

end Attachment

end AccessPolicy
