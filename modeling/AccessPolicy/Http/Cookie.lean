import AccessPolicy.Http.Location
import AccessPolicy.Number.Integer
import AccessPolicy.Text.Class
import AccessPolicy.Text.Search

/-!
Cookies of a request. A header holds any number of them, divided by semicolons; a value in double quotes is
read without them.
-/

namespace AccessPolicy

namespace Cookie

/-- Replaces the escapes of a quoted value: three octal digits, or any single character. -/
def unescape : List Char → List Char
  | [] => []
  | '\\' :: a :: b :: c :: cs =>
    if '0' ≤ a && a ≤ '3' && '0' ≤ b && b ≤ '7' && '0' ≤ c && c ≤ '7' then
      Char.ofNat (Number.ofDigits 8 ([a, b, c].map fun d => d.toNat - '0'.toNat)) :: unescape cs
    else if a == '\n' then '\\' :: a :: unescape (b :: c :: cs)
    else a :: unescape (b :: c :: cs)
  | '\\' :: a :: cs => if a == '\n' then '\\' :: a :: unescape cs else a :: unescape cs
  | c :: cs => c :: unescape cs

def unquote (s : String) : String :=
  match s.toList with
  | '"' :: cs =>
    match cs.getLast? with
    | some '"' => String.ofList (unescape cs.dropLast)
    | _ => s
  | _ => s

/-- One piece of a cookie header: a name and a value. A piece without a sign has the empty name. -/
def ofPiece (cs : List Char) : String × String :=
  let (name, value) := if cs.contains '=' then (cs.takeWhile (· != '='), (cs.dropWhile (· != '=')).drop 1)
    else ([], cs)
  (Text.strip (String.ofList name), Text.strip (String.ofList value))

/-- The cookies of a header in their order; empty pieces are skipped. -/
def ofHeader (s : String) : List (String × String) :=
  ((Text.splitAt [';'] s.length s.toList).map ofPiece).filterMap fun (n, v) =>
    if n.isEmpty && v.isEmpty then none else some (n, unquote v)

end Cookie

/-- The cookie of a name; of several the last one counts. -/
def Request.cookie? (r : Request) (name : String) : Option String :=
  (r.firstHeader? "cookie").bind fun s => (Cookie.ofHeader s).reverse.lookup name

end AccessPolicy
