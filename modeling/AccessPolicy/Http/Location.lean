import AccessPolicy.Value

/-!
The location of a request as its text form shows it. A request's location is the text
`http://<host header><path>?<query>`, read back as a location; its path component is the path up to the
first `?` or `#`, which is another path than the one dispatched on when the path or the host holds one.
-/

namespace AccessPolicy

/-- The parts of a location that are read back from its text. -/
structure Location where
  host : String
  path : String
  query : String
  deriving DecidableEq, Repr

/-- Characters that are dropped from a location wherever they stand. -/
def isDroppedFromLocation (c : Char) : Bool :=
  c == '\t' || c == '\n' || c == '\r'

/-- Splits the part after the host at the first `#` and then at the first `?`. -/
def splitPath (cs : List Char) : List Char × List Char :=
  let cs := cs.takeWhile (· != '#')
  (cs.takeWhile (· != '?'), (cs.dropWhile (· != '?')).drop 1)

/-- Reads a location from text that begins with `//`, after the scheme; `none` for a host with an
unmatched bracket. -/
def Location.ofAuthority? (cs : List Char) : Option Location :=
  let cs := cs.filter fun c => !isDroppedFromLocation c
  let ends (c : Char) : Bool := c == '/' || c == '?' || c == '#'
  let host := cs.takeWhile fun c => !ends c
  let (path, query) := splitPath (cs.dropWhile fun c => !ends c)
  if host.contains '[' == host.contains ']' then
    some { host := String.ofList host, path := String.ofList path, query := String.ofList query }
  else none

def Location.ofPath? (cs : List Char) : Option Location :=
  let cs := (cs.dropWhile fun c => c.toNat ≤ 32).filter fun c => !isDroppedFromLocation c
  match cs with
  | '/' :: '/' :: rest => Location.ofAuthority? rest
  | cs =>
    let (path, query) := splitPath cs
    some { host := "", path := String.ofList path, query := String.ofList query }

/-- The first header with a name, in any case. -/
def Request.firstHeader? (r : Request) (name : String) : Option String :=
  (r.headers.find? fun h => h.1.toLower == name).map (·.2)

/-- The location of a request, rebuilt from its host header and path. -/
def Request.location? (r : Request) : Option Location :=
  let query := if r.query.isEmpty then [] else '?' :: r.query.toList
  match r.firstHeader? "host" with
  | some host => Location.ofAuthority? (host.toList ++ r.path.toList ++ query)
  | none => Location.ofPath? (r.path.toList ++ query)

end AccessPolicy
