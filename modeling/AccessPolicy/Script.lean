import AccessPolicy.Permission
import AccessPolicy.Expr.Eval

/-!
Embedding programs that follow a script: what they lend answers by rule, and every call is recorded.
-/

namespace AccessPolicy

inductive Reply where
  | returns (v : Value)
  | fails (f : Failure)
  /-- The list of the arguments. -/
  | echoes
  /-- The first rule whose arguments are the last ones of the call, or else the default. -/
  | byRule (rules : List (List Value × Reply)) (default : Reply)

instance : Inhabited Reply := ⟨.returns .null⟩

/-- What a scripted program keeps: its calls so far, and the arguments that secured bodies received. -/
structure Script where
  calls : List (String × List Value) := []
  received : List Bindings := []

namespace Reply

/-- Whether the last arguments of a call are the given ones. -/
def endsWith (args wanted : List Value) : Bool :=
  wanted.length ≤ args.length &&
    (List.zipWith Value.same (args.drop (args.length - wanted.length)) wanted).all id

mutual

def answer (args : List Value) : Reply → Except Failure Value
  | .returns v => .ok v
  | .fails f => .error f
  | .echoes => .ok (.list args)
  | .byRule rules default =>
    match answerByRule args rules with
    | some answer => answer
    | none => answer args default
termination_by structural r => r

def answerByRule (args : List Value) : List (List Value × Reply) → Option (Except Failure Value)
  | [] => none
  | (wanted, r) :: rules => if endsWith args wanted then some (answer args r) else answerByRule args rules
termination_by structural rules => rules

end

def perform (r : Reply) (label : String) (args : List Value) : Run Script Value := do
  modify fun s => { s with calls := s.calls ++ [(label, args)] }
  Run.ofExcept (r.answer args)

end Reply

namespace Script

/-- The answers of the methods of lent objects, by the object's number. -/
abbrev Methods := List (Nat × List (String × Reply))

def send (ms : Methods) (o : Object) (name : String) (args : List Value) (named : Bindings) :
    Run Script Value :=
  match (ms.lookup o.id).bind (·.lookup name) with
  | some r => if named.isEmpty then r.perform (o.className ++ "." ++ name) args else throw (.operand .wrongType)
  | none => throw (.operand .wrongType)

def identityValue (who : Option Authentication) : Value := who.elim .null .identity

def evaluator (name : String) (object byId : Reply) : PermissionEvaluator Script :=
  .lent name fun who q =>
    match q with
    | .object target permission =>
      object.perform "has_permission" [identityValue who, target, permission]
    | .byId id type permission =>
      byId.perform "has_permission_by_id" [identityValue who, id, type, permission]

/-- Runs a computation under a script that was not used yet. -/
def perform {α : Type} (x : Run Script α) : Except Failure α × Script := x.run.run {}

/-- Runs one computation after another under the same script. -/
def performAll {α : Type} (xs : List (Run Script α)) : List (Except Failure α) × Script :=
  xs.foldl (fun (results, s) x => let (r, s) := x.run.run s; (results ++ [r], s)) ([], {})

end Script

end AccessPolicy
