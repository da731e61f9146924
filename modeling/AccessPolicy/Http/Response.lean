import AccessPolicy.Failure
import AccessPolicy.Json

/-!
Responses of a site. What a caller is told of a failure says who has to act, and no more: a refusal, a fault
of the rules and a fault of a permission store are different answers, and none has a reason in it.
-/

namespace AccessPolicy

inductive Content where
  | empty
  | json (j : Json)
  /-- What is wrong with the data of the request. -/
  | faults (fs : List DataFault)

structure Response where
  status : Nat
  content : Content := .empty

namespace Response

def json (status : Nat) (j : Json) : Response := ⟨status, .json j⟩

def detail (status : Nat) (text : String) : Response := json status (.object [("detail", .text text)])

def invalid (fs : List DataFault) : Response := ⟨422, .faults fs⟩

def notFound : Response := detail 404 "Not Found"

def methodNotAllowed : Response := detail 405 "Method Not Allowed"

/-- The response to a request that failed. A failure that is not one of access control says nothing. -/
def ofFailure : Failure → Response
  | .accessDenied => detail 403 "Access is denied"
  | .evaluation .. => detail 500 "Authorization evaluation failed"
  | .permission _ => detail 503 "Authorization service unavailable"
  | .configuration _ => detail 500 "Security misconfiguration"
  | .refused status text => detail status text
  | _ => ⟨500, .empty⟩

end Response

end AccessPolicy
