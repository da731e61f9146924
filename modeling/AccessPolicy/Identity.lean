import AccessPolicy.Value.Equality
import AccessPolicy.Value.Fault

/-!
Identities: how one is made, and how far its proof of identity goes. A missing identity counts as
anonymous everywhere.
-/

namespace AccessPolicy

namespace Authentication

/-- The identity of a named actor; the principal is the name unless another one is given. -/
def of (name : String) (authorities : List String) (principal : Value) (rememberMe : Bool)
    (details : List (Value × Value)) : Authentication where
  name := some name
  principal := match principal with
    | .null => .text name
    | p => p
  authorities := authorities.eraseDups
  anonymous := false
  rememberMe := rememberMe
  details := details

/-- The identity of a caller who gave no proof of one. -/
def anonymousUser : Authentication where
  name := some "anonymousUser"
  principal := .text "anonymousUser"
  authorities := ["ROLE_ANONYMOUS"]
  anonymous := true
  rememberMe := false
  details := []

def isAuthenticated (a : Authentication) : Bool :=
  !a.anonymous

def isFullyAuthenticated (a : Authentication) : Bool :=
  !a.anonymous && !a.rememberMe

def holds (a : Authentication) (authority : String) : Bool :=
  a.authorities.contains authority

end Authentication

/-- How far the proof of a possibly missing identity goes. -/
structure Trust where
  anonymous : Bool
  rememberMe : Bool
  authenticated : Bool
  fullyAuthenticated : Bool
  deriving DecidableEq, Repr

def Trust.of (a : Option Authentication) : Trust :=
  let anonymous := match a with
    | none => true
    | some a => a.anonymous
  let rememberMe := match a with
    | none => false
    | some a => !a.anonymous && a.rememberMe
  { anonymous
    rememberMe
    authenticated := !anonymous
    fullyAuthenticated := !anonymous && !rememberMe }

/-- How many of the given identities are different; an identity whose principal cannot be hashed
cannot be counted. -/
def countDistinct (identities : List (Option Authentication)) : Attempt Nat :=
  let values := identities.map fun a =>
    match a with
    | some a => Value.identity a
    | none => Value.null
  if allHashable values then .ok (distinct values).length else .error .wrongType

end AccessPolicy
