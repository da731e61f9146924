import AccessPolicy.Http.Location
import AccessPolicy.Text.Percent
import AccessPolicy.Text.Utf8
import AccessPolicy.Text.Case

/-!
Requests as they are sent to a site, and as they are received. The target of a request is a path with an
optional query; dot segments are removed from the path, and its percent encoding is taken off twice: by
the sender, which reads a target as a location, and by the receiver.
-/

namespace AccessPolicy

structure Sent where
  method : String := "GET"
  target : String := "/"
  headers : List (String × String) := []
  body : String := ""
  deriving DecidableEq, Repr

namespace Target

/-- The parts of a path between its slashes, without those that are `.` and those that a `..` takes back. -/
def resolveDots (parts : List (List Char)) : List (List Char) :=
  parts.foldl (fun kept part =>
    if part == ['.'] then kept
    else if part == ['.', '.'] then (if kept == [[]] then kept else kept.dropLast)
    else kept ++ [part]) []

/-- A path without dot segments, beginning with one slash. -/
def normalPath (cs : List Char) : List Char :=
  let cs := '/' :: cs.dropWhile (· == '/')
  match ['/'].intercalate (resolveDots (cs.splitOn '/')) with
  | [] => ['/']
  | cs => cs

/-- A target without the host that it may name. -/
def withoutHost : List Char → List Char
  | '/' :: '/' :: cs => cs.dropWhile fun c => !(c == '/' || c == '?')
  | cs => cs

def read (s : String) : String × String :=
  let (path, query) := splitPath (withoutHost s.toList)
  (Text.Percent.decode (Text.Percent.decode (String.ofList (normalPath path))), String.ofList query)

end Target

namespace Sent

/-- The host that a request is for unless it says so. -/
def defaultHost : String := "testserver"

/-- The headers as they are received: the host first, and a character for each byte of a value. -/
def receivedHeaders (s : Sent) : List (String × String) :=
  let given := s.headers.map fun (n, v) => (n, Text.Utf8.bytewise v)
  if given.any fun h => h.1.toLower == "host" then given else ("host", defaultHost) :: given

def received (s : Sent) (client : String) : Request :=
  let (path, query) := Target.read s.target
  { method := Text.upper s.method, path, query, headers := s.receivedHeaders, client := some client }

def contentType : String := "content-type"

/-- A request with a body of the kind `application/json`, unless its headers name another kind. -/
def withJson (s : Sent) (body : String) : Sent :=
  let named := s.headers.any fun h => h.1.toLower == contentType
  { s with body, headers := if named then s.headers else s.headers ++ [(contentType, "application/json")] }

end Sent

/-- Whether a request says that its body is a JSON document. -/
def Request.carriesJson (r : Request) : Bool :=
  let kind := (r.firstHeader? Sent.contentType).getD ""
  let kind := Text.strip (String.ofList (kind.toList.takeWhile (· != ';')))
  match (Text.lower kind).toList.splitOn '/' with
  | [main, sub] =>
    String.ofList main == "application" && (String.ofList sub == "json" || (String.ofList sub).endsWith "+json")
  | _ => false

end AccessPolicy
