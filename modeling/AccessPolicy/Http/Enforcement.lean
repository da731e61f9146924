import AccessPolicy.Bound
import AccessPolicy.Http.Credentials

/-!
Enforcement of the rules for requests. A refusal tells an anonymous sender to prove an identity; a fault of
the rules or of a permission store is answered as such, and never as a refusal.
-/

namespace AccessPolicy

namespace Rules

variable {σ : Type}

/-- Whether a request passes the rule that it finds. -/
def admits (rs : Rules σ) (who : Authentication) (r : Request) : Run σ Bool := do
  match r.location? with
  | none => throw (.operand .badValue)
  | some location =>
    let m := rs.routes.find location.path r.method
    m.guard.allows (rs.context (some who) (.request r) m)

/-- How a fault of a rule is answered; the engine's other failures stay what they are. -/
def answerOf : Failure → Failure
  | .permission _ => .refused 503 "Authorization service unavailable"
  | .evaluation .. => .refused 500 "Authorization evaluation failed"
  | f => f

/-- Refuses a request that the rules do not let pass. -/
def permit (rs : Rules σ) (who : Authentication) (r : Request) : Run σ Unit := do
  let admitted ← tryCatch (rs.admits who r) fun f => throw (answerOf f)
  if admitted then return ()
  else if who.anonymous then throw (.refused 401 "Authentication required")
  else throw (.refused 403 "Access is denied")

/-- Runs an endpoint for the sender of a request that the rules let pass. The sender's identity is bound while
the rules decide and while the endpoint runs. -/
def serve {α : Type} (rs : Rules (Bound σ)) (accounts : List Account) (r : Request)
    (endpoint : Authentication → Run (Bound σ) α) : Run (Bound σ) α := do
  let who ← Run.ofExcept (Credentials.resolve rs.credentials accounts r)
  Bound.during (some who) do
    Bound.apart (rs.permit who r)
    endpoint who

end Rules

/-- The identity of a sender, who must have proved one. -/
def Authentication.required (who : Authentication) : Except Failure Authentication :=
  if who.anonymous then .error (.refused 401 "Authentication required") else .ok who

end AccessPolicy
