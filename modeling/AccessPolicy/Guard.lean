import AccessPolicy.Expr.Statement
import AccessPolicy.Expr.Names
import AccessPolicy.Expr.Eval
import AccessPolicy.Template

/-!
Guards: access expressions that were read once, with the text they came from and a label for messages. A
guard that fails to evaluate is a fault that names it; the engine's own failures pass through unchanged.
-/

namespace AccessPolicy

structure Guard where
  source : String
  label : String
  expr : Expr

namespace Guard

def defaultLabel : String := "<expression>"

def names (g : Guard) : List String := g.expr.freeNames

/-- The literal arguments of the guard's calls of a name. -/
def literalArguments (g : Guard) (callee : String) : List (List Literal) :=
  (g.expr.literalCalls.filter (·.callee == callee)).map (·.args)

def ofText (text label : String) : Except Failure Guard :=
  let source := Text.strip text
  if source.isEmpty then .error (.configuration (.emptyExpression label))
  else if source.toList.contains '\x00' then .error (.operand .badValue)
  else
    match Statement.ofSource? source.toList with
    | none => .error (.configuration (.malformedExpression source label))
    | some [] => .error (.expression .nothingToEvaluate)
    | some (.expression e :: _) => .ok ⟨source, label, e⟩
    | some (.other :: _) => .error (.configuration (.notAnExpression source label))

/-- Reads the expression that a guard's text stands for. -/
def read (ts : Templates) (text : GuardText) (label : String) : Except Failure Guard := do
  ofText (← ts.expand text) label

variable {σ : Type}

def evaluate (g : Guard) (ctx : Context σ) : Run σ Value :=
  tryCatch (g.expr.eval ctx g.source) fun f =>
    if f.isOwn then throw f else throw (.evaluation g.label g.source f)

/-- Whether a value lets a caller pass: only truth itself does. -/
def passes : Value → Bool
  | .bool true => true
  | _ => false

def allows (g : Guard) (ctx : Context σ) : Run σ Bool := do
  return passes (← g.evaluate ctx)

end Guard

end AccessPolicy
