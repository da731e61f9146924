import AccessPolicy.Callable.Signature

/-!
The names by which expressions refer to the parameters of a callable. They come from a chain of resolvers,
of which later ones only fill the gaps that earlier ones left.
-/

namespace AccessPolicy

/-- A way to find names for the parameters of a callable. -/
inductive NameResolver where
  | tag (kind : TagKind)
  /-- The names of the parameters. -/
  | signature
  /-- The names as the body knows them. -/
  | body
  /-- Names that were given. -/
  | fixed (names : Option (List (Option String)))
  deriving DecidableEq, Repr

/-- A name for each parameter, where one was found. -/
abbrev FoundNames := List (Option String)

namespace NameResolver

/-- The resolvers that are used unless others are given. -/
def standard : List NameResolver := [.tag .explicit, .tag .query, .signature, .body]

/-- The name that a tag gives a parameter; more than one tag of a kind is a mistake. -/
def taggedName (kind : TagKind) (c : Callable) (p : Parameter) : Except Misconfiguration (Option String) :=
  match (c.tagsOf p).filter (·.1 == kind) with
  | [] => .ok none
  | [(_, n)] => .ok (some n)
  | _ => .error (.severalTags p.name c.name kind.name)

def repeated? : FoundNames → Option String
  | [] => none
  | none :: ns => repeated? ns
  | some n :: ns => repeatedAfter [n] ns
where
  repeatedAfter (seen : List String) : FoundNames → Option String
    | [] => none
    | none :: ns => repeatedAfter seen ns
    | some n :: ns => if seen.contains n then some n else repeatedAfter (n :: seen) ns

def isGiven : Option String → Bool
  | some n => !n.isEmpty
  | none => false

/-- The names that a resolver finds, or nothing where it does not apply. -/
def resolve (r : NameResolver) (c : Callable) : Except Misconfiguration (Option FoundNames) := do
  match r, c.parameters with
  | .fixed names, _ => return names
  | .body, _ => return c.bodyNames?.map fun names => names.map some
  | _, none => return none
  | .signature, some ps => return some (ps.map fun p => some p.name)
  | .tag kind, some ps =>
    let names ← ps.mapM (taggedName kind c)
    if !names.any isGiven then return none
    match repeated? names with
    | some n => throw (.tagRepeated kind.name n c.name)
    | none => return some names

/-- Fills the gaps of some names with others, if there are as many. -/
def fill (found more : FoundNames) : FoundNames :=
  if more.length == found.length then
    List.zipWith (fun a b => if isGiven a then a else b) found more
  else found

/-- Asks resolvers in turn until every parameter has a name. -/
def discoverFrom (c : Callable) : Option FoundNames → List NameResolver →
    Except Misconfiguration (Option FoundNames)
  | found, [] => .ok found
  | found, r :: rs => do
    match ← r.resolve c with
    | none => discoverFrom c found rs
    | some names =>
      let merged := found.elim names fun f => fill f names
      if merged.all isGiven then return some merged else discoverFrom c (some merged) rs

def discover (rs : List NameResolver) (c : Callable) : Except Misconfiguration (Option FoundNames) :=
  discoverFrom c none rs

end NameResolver

/-- Which expression name refers to which parameter of a callable. -/
structure Binder where
  callable : Callable
  parameters : List Parameter
  names : List (String × String)

namespace Binder

/-- Pairs names with parameters; two parameters cannot share a name. -/
def pair (c : Callable) (names : List (String × String)) :
    List (Parameter × Option String) → Except Misconfiguration (List (String × String))
  | [] => .ok names
  | (_, none) :: rest => pair c names rest
  | (p, some n) :: rest =>
    match names.lookup n with
    | some first => .error (.nameShared n first p.name c.name)
    | none => pair c (names ++ [(n, p.name)]) rest

/-- The binder of a callable whose parameters can be told. -/
def of (rs : List NameResolver) (c : Callable) : Except Misconfiguration Binder := do
  match c.parameters with
  | none => throw (.noParameters c.name)
  | some ps =>
    let found := (← NameResolver.discover rs c).getD []
    let found := if found.length == ps.length then found else ps.map fun _ => none
    return ⟨c, ps, ← pair c [] (ps.zip found)⟩

def bind (b : Binder) (args : List Value) (named : Bindings) : Attempt Arguments :=
  Parameter.bind b.parameters args named

def bindings (b : Binder) (arguments : Arguments) : Bindings :=
  b.names.filterMap fun (n, p) => (arguments.lookup p).map fun v => (n, v)

/-- The parameter that an expression name refers to. -/
def parameter? (b : Binder) (name : String) : Option String := b.names.lookup name

end Binder

end AccessPolicy
