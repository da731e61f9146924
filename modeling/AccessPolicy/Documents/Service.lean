import AccessPolicy.Callable.Proxy
import AccessPolicy.Documents.Permission

/-!
The secured operations on documents. What they do says nothing about who may do it: that is said by the
guards that are attached to them.
-/

namespace AccessPolicy

namespace Documents

def existing (id : Value) : Run Store Document := do
  match ← Run.ofExcept (Store.keyOf id >>= Store.idOf) with
  | none => throw (.documentNotFound id)
  | some n =>
    match (← get).document? n with
    | some d => return d
    | none => throw (.documentNotFound id)

def documentList (ds : List Document) : Value := .list (ds.map .document)

def storedText : Value → Except Failure String
  | .text s => .ok s
  | .null => .error (.store .constraint)
  | .bool b => .ok (if b then "1" else "0")
  | .int n => if Credentials.isKey n then .ok (toString n) else .error (.operand .overflow)
  | .float x => .ok (Value.float x).shown
  | _ => .error (.store .unsupported)

def storedBool (v : Value) : Except Failure Bool :=
  match v with
  | .null => .error (.store .constraint)
  | v => if v.equal (.int 0) then .ok false else if v.equal (.int 1) then .ok true else .error (.store .notBoolean)

/-- Documents are answered only with a title that was given as a text. -/
def answered (d : Document) (title : Value) : Run Store Value :=
  match title with
  | .text _ => pure (.document d)
  | _ => throw (.invalid [⟨["title"], .notText⟩])

def list (_ : Arguments) : Run Store Value := do
  return documentList (← get).documents

def listForOwner (args : Arguments) : Run Store Value := do
  match (args.lookup "username").getD .null with
  | .null => return documentList []
  | v =>
    let owner ← Run.ofExcept (storedText v)
    return documentList ((← get).documents.filter fun d => d.owner == owner)

def index (_ : Arguments) : Run Store Value := do
  return .dict ((← get).documents.map fun d => (.int d.id, .document d))

def fetch (args : Arguments) : Run Store Value := do
  return .document (← existing ((args.lookup "document_id").getD .null))

def create (args : Arguments) : Run Store Value := do
  let title := (args.lookup "title").getD .null
  let confidential ← Run.ofExcept (storedBool ((args.lookup "confidential").getD .null))
  let stored ← Run.ofExcept (storedText title)
  let owner ← Run.ofExcept (storedText ((args.lookup "owner").getD .null))
  let (s, d) := (← get).add stored owner confidential
  set s
  answered d title

def rename (args : Arguments) : Run Store Value := do
  let title := (args.lookup "title").getD .null
  let d ← existing ((args.lookup "document_id").getD .null)
  let stored ← Run.ofExcept (storedText title)
  modify fun s => s.rename d.id stored
  answered { d with title := stored } title

/-- Removes documents; answers the ids of those that were there. -/
def deleteMany (args : Arguments) : Run Store Value := do
  let ids := (args.lookup "document_ids").getD .null
  if !ids.truthy then return .list []
  let items ← Run.attempt ids.items
  let ids ← items.mapM fun v => Run.ofExcept (Store.idOf v)
  let found := ((← get).documents.map (·.id)).filter fun n => ids.contains (some n)
  modify fun s => s.remove found
  return .list (found.map .int)

/-- An operation: its parameters, its guards and what it does. -/
def operation (name : String) (parameters : List Parameter) (slots : Slots)
    (body : Arguments → Run Store Value) : Method Store :=
  { name, callable := Callable.method ("DocumentService." ++ name) parameters true, slots, body }

def parameter (name type : String) (container : Bool) (default : Option Value) : Parameter :=
  { name, default, type := .is (.named type container) }

def idParameter : Parameter := parameter "document_id" "int" false none

def titleParameter : Parameter := parameter "title" "str" false none

def operations : List (Method Store) :=
  [operation "list_documents" [] { postFilter := some (.plain "hasPermission(filterObject, 'read')") } list,
   operation "list_for_owner" [parameter "username" "str" false none]
     { postFilter := some (.plain "hasPermission(filterObject, 'read')") } listForOwner,
   operation "index" [] { postFilter := some (.plain "hasPermission(filterObject.value, 'read')") } index,
   operation "get_document" [idParameter]
     { postAuthorize := some (.plain "hasPermission(returnValue, 'read')") } fetch,
   operation "create"
     [parameter "owner" "str" false none, titleParameter,
      parameter "confidential" "bool" false (some (.bool false))]
     { preAuthorize := some (.plain "isFullyAuthenticated() and owner == authentication.name") } create,
   operation "rename" [idParameter, titleParameter]
     { preAuthorize := some (.plain "hasPermission(document_id, 'Document', 'write')") } rename,
   operation "delete_many" [parameter "document_ids" "list[int]" true none]
     { preAuthorize := some (.plain "isFullyAuthenticated()")
       preFilter := some (.plain "hasPermission(filterObject, 'Document', 'delete')")
       filterTarget := some "document_ids" } deleteMany]

/-- The arguments of a question: who it is about and the values with the given names. -/
def questionArguments (args : Arguments) (names : List String) :
    Except Failure (Option Authentication × List Value) := do
  let who ← identityArgument ((args.lookup "authentication").getD .null)
  return (who, names.map fun n => (args.lookup n).getD .null)

/-- A question about an identity, which is its first argument. -/
def question (name : String) (names : List String)
    (answer : Store → Option Authentication → List Value → Except Failure Bool) : Method Store :=
  operation name (({ name := "authentication" } : Parameter) :: names.map fun n => { name := n }) {} fun args => do
    let (who, values) ← Run.ofExcept (questionArguments args names)
    return .bool (← Run.ofExcept (answer (← get) who values))

def ownership : Method Store :=
  question ownerQuestion ["document_id"] fun s who values => isOwner s who (values.headD .null)

/-- The questions that may be asked without an operation. -/
def questions : List (Method Store) :=
  [ownership,
   question "has_permission" ["target", "permission"] fun _ who values =>
    mayUse who (values.headD .null) (values.getD 1 .null),
   question "has_permission_by_id" ["target_id", "target_type", "permission"] fun s who values =>
    mayUseById s who (values.headD .null) (values.getD 2 .null)]

/-- Answers the methods of the bean that guards ask. -/
def send (o : Object) (name : String) (args : List Value) (named : Bindings) : Run Store Value :=
  if o.id == access.id && name == ownerQuestion then ownership.run args named else throw (.operand .wrongType)

def serviceObject : Object := ⟨1, "DocumentService", [], none, []⟩

def service (h : Handler Store) : Except Failure (Proxy Store) :=
  Proxy.protect h serviceObject operations

/-- The handler that decides about documents alone. -/
def plainHandler : Handler Store :=
  { evaluator := some (.delegating [("Document", evaluator)] none), send }

/-- Asks a question about a caller, or performs an operation for it. -/
def perform (p : Proxy Store) (who : Option Authentication) (name : String) (args : List Value)
    (named : Bindings) : Run Store Value :=
  match questions.find? fun m => m.name == name with
  | some m => m.run (who.elim .null .identity :: args) named
  | none => p.call plainHandler who name args named

end Documents

end AccessPolicy
