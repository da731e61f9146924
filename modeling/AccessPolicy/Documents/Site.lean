import AccessPolicy.Checked.Lenient
import AccessPolicy.Documents.DemoPolicy
import AccessPolicy.Http.Response
import AccessPolicy.Http.Target

/-!
The document site: which request is for which page, what a page needs to know, and what it answers. A body is
read before the rules for requests decide, and it is checked only after that.
-/

namespace AccessPolicy

namespace Documents

inductive Page where
  /-- A description of the site, which is open to all. -/
  | description
  | health
  | ping
  | caller
  | accounts
  | audit
  | list
  | index
  | fetch
  | create
  | rename
  | delete
  | deleteMany
  | listForOwner
  deriving DecidableEq, Repr

/-- A page with the methods and the paths that it is for. -/
structure Entry where
  methods : List String
  path : PathTemplate
  page : Page

/-- The pages, in the order in which they are tried. -/
def entries : List Entry :=
  [(["GET", "HEAD"], "/openapi.json", Page.description),
   (["GET", "HEAD"], "/docs", .description),
   (["GET", "HEAD"], "/docs/oauth2-redirect", .description),
   (["GET", "HEAD"], "/redoc", .description),
   (["GET"], "/health", .health),
   (["GET"], "/internal/ping", .ping),
   (["GET"], "/me", .caller),
   (["GET"], "/admin/users", .accounts),
   (["GET"], "/admin/audit", .audit),
   (["GET"], "/documents", .list),
   (["GET"], "/documents/index", .index),
   (["GET"], "/documents/\x7bdocument_id\x7d", .fetch),
   (["POST"], "/documents", .create),
   (["PATCH"], "/documents/\x7bdocument_id\x7d", .rename),
   (["DELETE"], "/documents/\x7bdocument_id\x7d", .delete),
   (["POST"], "/documents/delete", .deleteMany),
   (["GET"], "/users/\x7busername\x7d/documents", .listForOwner)].map
    fun (methods, path, page) => ⟨methods, PathTemplate.parts path, page⟩

inductive Lookup where
  | found (page : Page) (vars : List (String × String))
  /-- There is a page, but not for the method. -/
  | wrongMethod
  | nothing

def lookupPage (path method : String) : Lookup :=
  let fitting := entries.filterMap fun e => (e.path.fit? path.toList).map fun vs => (e, vs)
  match fitting.find? fun (e, _) => e.methods.contains method with
  | some (e, vs) => .found e.page vs
  | none => if fitting.isEmpty then .nothing else .wrongMethod

/-- A path with a slash at its end, or without any where it had some. -/
def toggleSlash (path : String) : String :=
  let cs := path.toList.reverse
  String.ofList (if cs.head? == some '/' then (cs.dropWhile (· == '/')).reverse else ('/' :: cs).reverse)

/-- The headers that a request keeps when it is sent on: cookies are left behind, and so is proof of identity
on the way to another host. -/
def keptHeaders (headers : List (String × String)) : List (String × String) :=
  let elsewhere := headers.any fun h => h.1.toLower == "host" && h.2.toLower != Sent.defaultHost
  headers.filter fun h =>
    h.1.toLower != "cookie" && !(elsewhere && h.1.toLower == "authorization")

/-- The request that a request is sent on as, where its path leads nowhere but would with its last slash
toggled. -/
def sentOn? (s : Sent) (r : Request) : Option Sent :=
  match lookupPage r.path r.method, lookupPage (toggleSlash r.path) r.method with
  | .nothing, .nothing => none
  | .nothing, _ =>
    if r.path == "/" then none
    else
      some { s with
        target := toggleSlash r.path ++ (if r.query.isEmpty then "" else "?" ++ r.query)
        headers := keptHeaders s.headers }
  | _, _ => none

def Page.hasBody (p : Page) : Bool := p == .create || p == .rename || p == .deleteMany

/-- Whether a page is only for callers with an identity. -/
def Page.needsIdentity (p : Page) : Bool := p == .caller || p == .create

/-- What a body says: nothing, a document, or a text that is none. -/
def bodyOf (s : Sent) (r : Request) : Checked Value :=
  let cs := s.body.toList
  let cs := if cs.head? == some '\ufeff' then cs.tail else cs
  if s.body.isEmpty then .ok .null
  else if !r.carriesJson then .ok (.text s.body)
  else
    match Json.read (String.ofList cs) with
    | .ok j => .ok j.value
    | .error position => Checked.under "body" (Checked.under (toString position) (Checked.fault .malformedDocument))

def formOf : Value → Checked (List (Value × Value))
  | .null => Checked.under "body" (Checked.fault .missing)
  | .mapping _ fields => .ok fields
  | _ => Checked.under "body" (Checked.fault .notObject)

def formField {α : Type} (fields : List (Value × Value)) (name : String) (missing : Checked α)
    (read : Value → Checked α) : Checked α :=
  Checked.under "body" (Checked.field fields name missing read)

def titleIn (fields : List (Value × Value)) : Checked String :=
  formField fields "title" (Checked.fault .missing) (Checked.boundedText 1 200)

def idIn (vars : List (String × String)) : Checked Int :=
  Checked.under "path" (Checked.under "document_id"
    (Checked.integer (.text ((vars.lookup "document_id").getD ""))))

def shownDocument (d : Document) : Json :=
  .object [("id", .int d.id), ("title", .text d.title), ("owner", .text d.owner),
    ("confidential", .bool d.confidential)]

def shown : Value → Json
  | .document d => shownDocument d
  | .list items => .list (items.map fun
    | .document d => shownDocument d
    | .int n => .int n
    | _ => .null)
  | .mapping _ entries => .object (entries.filterMap fun
    | (.int n, .document d) => some (toString n, shownDocument d)
    | _ => none)
  | _ => .null

def shownAccount (a : Account) : Json :=
  .object [("id", .int a.id), ("username", .text a.username), ("email", .text a.email),
    ("is_active", .bool a.active),
    ("authorities", .list (a.authorities.map fun (name, description) =>
      .object [("name", .text name), ("description", .text description)]))]

def shownIdentity (a : Authentication) : Json :=
  .object [("name", a.name.elim .null .text),
    ("authorities", .list ((Text.sortedSet a.authorities).map .text)), ("anonymous", .bool a.anonymous),
    ("remember_me", .bool a.rememberMe), ("fully_authenticated", .bool a.isFullyAuthenticated)]

/-- The site: the rules for requests, and the secured operations. -/
structure Site where
  rules : Rules Store
  operations : Proxy Store

def site : Except Failure Site := do
  let rules ← siteRulesAtWork
  return ⟨rules, ← service rules.handler⟩

namespace Site

/-- Performs an operation for the identity that is bound. -/
def perform (site : Site) (name : String) (args : List Value) (named : Bindings) :
    Run (Bound Store) Value := do
  let who := (← get).identity.current
  (site.operations.call site.rules.handler who name args named).within

/-- The response of an operation on a document that may not be there. -/
def orNotFound (x : Run (Bound Store) Response) : Run (Bound Store) Response :=
  tryCatch x fun f =>
    match f with
    | .documentNotFound _ => throw (.refused 404 "Document not found")
    | f => throw f

/-- What a page answers to a caller, or what is wrong with the data that it was sent. -/
def answerOf (site : Site) (who : Authentication) (vars : List (String × String)) (body : Value) :
    Page → Checked (Run (Bound Store) Response)
  | .description => .ok (pure ⟨200, .empty⟩)
  | .health => .ok (pure (Response.json 200 (.object [("status", .text "ok")])))
  | .ping => .ok (pure (Response.json 200 (.object [("status", .text "pong")])))
  | .caller => .ok (pure (Response.json 200 (shownIdentity who)))
  | .accounts => .ok do
    return Response.json 200 (.list ((← get).world.accounts.map shownAccount))
  | .audit => .ok (pure (Response.json 200 (.object [("report", .text "daily"), ("entries", .list [])])))
  | .list => .ok do
    return Response.json 200 (shown (← site.perform "list_documents" [] []))
  | .index => .ok do
    return Response.json 200 (shown (← site.perform "index" [] []))
  | .fetch => do
    let id ← idIn vars
    return orNotFound do
      return Response.json 200 (shown (← site.perform "get_document" [.int id] []))
  | .create => do
    let fields ← formOf body
    let (title, confidential) ← Checked.both (titleIn fields)
      (formField fields "confidential" (.ok false) Checked.boolean)
    return do
      let d ← site.perform "create" [who.name.elim .null .text, .text title]
        [("confidential", .bool confidential)]
      return Response.json 201 (shown d)
  | .rename => do
    let (id, title) ← Checked.both (idIn vars) (formOf body >>= titleIn)
    return orNotFound do
      return Response.json 200 (shown (← site.perform "rename" [.int id, .text title] []))
  | .delete => do
    let id ← idIn vars
    return do
      let _ ← site.perform "delete_many" [.list [.int id]] []
      return ⟨204, .empty⟩
  | .deleteMany => do
    let fields ← formOf body
    let ids ← formField fields "ids" (Checked.fault .missing) (Checked.list Checked.integer)
    return do
      let deleted ← site.perform "delete_many" [.list (ids.map .int)] []
      return Response.json 200 (.object [("ids", shown deleted)])
  | .listForOwner => .ok do
    return Response.json 200
      (shown (← site.perform "list_for_owner" [.text ((vars.lookup "username").getD "")] []))

/-- What a page answers to a request that the rules let pass. -/
def visit (site : Site) (page : Page) (vars : List (String × String)) (body : Value) (r : Request) :
    Run (Bound Store) Response := do
  site.rules.within.serve (← get).world.accounts r fun who => do
    if page.needsIdentity then
      let _ ← Run.ofExcept who.required
    match site.answerOf who vars body page with
    | .error fs => return Response.invalid fs
    | .ok answer => answer

/-- The response to a request whose path is looked up as it is. -/
def respond (site : Site) (s : Sent) (r : Request) : Run (Bound Store) Response :=
  match lookupPage r.path r.method with
  | .nothing => pure Response.notFound
  | .wrongMethod => pure Response.methodNotAllowed
  | .found .description _ => pure ⟨200, .empty⟩
  | .found page vars =>
    if page.hasBody then
      match bodyOf s r with
      | .error fs => pure (Response.invalid fs)
      | .ok body => site.visit page vars body r
    else site.visit page vars .null r

/-- The response to a request of a client, and the store after it. -/
def answer (site : Site) (client : String) (s : Sent) (store : Store) : Response × Store :=
  let s := (sentOn? s (s.received client)).getD s
  let r := s.received client
  let (x, bound) := (site.respond s r).run.run { world := store }
  let response := match x with
    | .ok response => response
    | .error f => Response.ofFailure f
  (if r.method == "HEAD" then ⟨response.status, .empty⟩ else response, bound.world)

end Site

end Documents

end AccessPolicy
