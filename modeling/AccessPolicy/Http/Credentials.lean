import AccessPolicy.Failure
import AccessPolicy.Http.Cookie
import AccessPolicy.Identity
import AccessPolicy.Policy.Model
import AccessPolicy.Text.Case
import AccessPolicy.Value.Items

/-!
Who sends a request. A bearer credential is proof of an identity, a cookie that remembers one is a weaker
proof, and a request with neither is anonymous. A malformed bearer credential is the sender's mistake and is
never taken for its absence; a malformed cookie is.
-/

namespace AccessPolicy

structure Account where
  id : Int
  username : String
  email : String
  active : Bool
  /-- The granted authorities and what they are for. -/
  authorities : List (String × String)
  deriving DecidableEq, Repr

namespace Credentials

/-- Refuses malformed credentials; a request without a location cannot even be refused. -/
def bad {α : Type} (r : Request) (detail : String) : Except Failure α :=
  match r.location? with
  | some _ => .error (.refused 400 detail)
  | none => .error (.operand .badValue)

/-- Whether a header can have a name: its characters are sent as one byte each, in lower case. -/
def isHeaderName (name : String) : Bool := (Text.lower name).toList.all (·.toNat < 256)

/-- The scheme of a credential, which ends at the first space. -/
def schemeOf (text : String) : String := String.ofList (text.toList.takeWhile (· != ' '))

/-- What follows the scheme of a credential. -/
def tokenOf (text : String) : String := Text.strip (String.ofList ((text.toList.dropWhile (· != ' ')).drop 1))

/-- The account number that the bearer credential of a request gives, if it has one. -/
def bearer (names : CredentialNames) (r : Request) : Except Failure (Option Int) :=
  if !isHeaderName names.header then .error (.operand .unencodable)
  else
    match (r.header? names.header).getD "" with
    | "" => .ok none
    | raw =>
      let expected := "Invalid " ++ names.header ++ ". Expected '" ++ names.bearer ++ " <user id>'."
      if schemeOf raw != names.bearer || (tokenOf raw).isEmpty then bad r expected
      else if !(tokenOf raw).toList.all Text.isDigitLike then bad r "Bearer token must be a user id in this demo."
      else
        match Number.integer? (tokenOf raw) with
        | some n => .ok (some n)
        | none => .error (.operand .badValue)

/-- The account number that the cookie of a request gives, if it has one that is a number. -/
def remembered (names : CredentialNames) (r : Request) : Except Failure (Option Int) :=
  match (r.cookie? names.cookie).getD "" with
  | "" => .ok none
  | raw =>
    match Number.integer? raw, r.location? with
    | some n, _ => .ok (some n)
    | none, some _ => .ok none
    | none, none => .error (.operand .badValue)

/-- Whether a number can be the key of a stored row. -/
def isKey (n : Int) : Bool := -Int.pow 2 63 ≤ n && n < Int.pow 2 63

/-- The identity of the account with a number, which must be active. -/
def identityOf (accounts : List Account) (id : Int) (rememberMe : Bool) : Except Failure Authentication :=
  if !isKey id then .error (.operand .overflow)
  else
    match accounts.find? fun a => a.id == id && a.active with
    | some a =>
      .ok (Authentication.of a.username (a.authorities.map Prod.fst) (.text a.username) rememberMe
        [(.text "user_id", .int a.id), (.text "email", .text a.email)])
    | none => .error (.refused 401 "Invalid or inactive user")

def resolve (names : CredentialNames) (accounts : List Account) (r : Request) :
    Except Failure Authentication := do
  match ← bearer names r with
  | some id => identityOf accounts id false
  | none =>
    match ← remembered names r with
    | some id => identityOf accounts id true
    | none => return Authentication.anonymousUser

end Credentials

end AccessPolicy
