import AccessPolicy.Expr
import AccessPolicy.Failure
import AccessPolicy.Value.Layout
import AccessPolicy.Value.Conversion
import AccessPolicy.Value.Method

/-!
Evaluation of expressions. An evaluation may ask the embedding program to decide predicates and to answer
the methods of the objects it lent; everything else is computed here. Sizes are bounded: texts, sequences,
powers, shifts and the elements that comprehensions run through.
-/

namespace AccessPolicy

/-- Names and their values, each name once. -/
abbrev Bindings := List (String × Value)

/-- Gives a name a value; a name that is there already keeps its place. -/
def Bindings.assign (n : String) (v : Value) : Bindings → Bindings
  | [] => [(n, v)]
  | (m, w) :: bs => if m == n then (m, v) :: bs else (m, w) :: Bindings.assign n v bs

def Bindings.updated (bs extra : Bindings) : Bindings :=
  extra.foldl (fun bs (n, v) => Bindings.assign n v bs) bs

/-- What an expression is evaluated against: named values, named predicates, and the embedding program's
ways to decide predicates and to answer methods. -/
structure Context (σ : Type) where
  bindings : Bindings
  predicates : List Predicate
  decide : Predicate → List Value → Bindings → Run σ Value
  send : Object → String → List Value → Bindings → Run σ Value

/-- The context with further variables, which hide those of the same name. -/
def Context.withVariables {σ : Type} (ctx : Context σ) (extra : Bindings) : Context σ :=
  { ctx with bindings := ctx.bindings.updated extra }

/-- The conversions of a context: only one without predicates has any. -/
def Context.conversions {σ : Type} (ctx : Context σ) : List Conversion :=
  if ctx.predicates.isEmpty then [.whole, .real, .text] else []

def Context.function? {σ : Type} (ctx : Context σ) (n : String) : Option Function :=
  match ctx.predicates.find? fun p => p.name == n with
  | some p => some (.predicate p)
  | none =>
    match ctx.conversions.find? fun c => c.name == n with
    | some c => some (.conversion c)
    | none => ([Container.list, .tuple, .dict, .set].find? fun c => c.name == n).map .builder

def Context.call {σ : Type} (ctx : Context σ) (f : Value) (args : List Value) (named : Bindings) :
    Run σ Value :=
  match f with
  | .function (.predicate p) => ctx.decide p args named
  | .function (.builder c) => Run.attempt (c.build args named)
  | .function (.conversion c) => Run.attempt (c.apply args named)
  | .function (.method (.object o) n) => ctx.send o n args named
  | .function (.method v n) => Run.attempt (v.callNamed n args named)
  | _ => throw (.operand .wrongType)

/-- Evaluation counts the elements that comprehensions run through. -/
abbrev Evaluation (σ α : Type) := StateT Nat (Run σ) α

namespace Evaluation

def maxPower : Nat := 4000000

def maxShift : Nat := 10000

/-- The largest number that is shifted: the largest finite float. -/
def maxShifted : Nat := (Nat.pow 2 53 - 1) * Nat.pow 2 971

/-- How many elements the comprehensions of one evaluation may run through. -/
def maxElements : Nat := 10000

/-- Prefixes of attributes that are never given out. -/
def hiddenPrefixes : List String := ["_", "func_"]

/-- Methods that are never given out. -/
def hiddenMethods : List String :=
  ["format", "format_map", "mro", "tb_frame", "gi_frame", "ag_frame", "cr_frame", "exec"]

variable {σ : Type}

def fault {α : Type} (f : ExpressionFault) : Evaluation σ α := throw (.expression f)

def attempt {α : Type} (x : Attempt α) : Evaluation σ α := liftM (Run.attempt x : Run σ α)

/-- The value of a literal, unless it is too long. -/
def literal (c : Literal) : Evaluation σ Value :=
  match c.value.size? with
  | some n => if n > maxLength then fault (.iterableTooLong (.literal n)) else pure c.value
  | none => pure c.value

/-- Whether the magnitude of a number exceeds a bound; values without a magnitude are refused. -/
def exceeds (v : Value) (bound : Nat) : Evaluation σ Bool :=
  match v.numeric? with
  | some (.int n) => pure (n.natAbs > bound)
  | some (.float x) => pure (x.abs > Float.ofNat bound)
  | some (.complex a b) => pure ((a * a + b * b).sqrt > Float.ofNat bound)
  | none => throw (.operand .wrongType)

/-- Whether repeating a sequence would make it too long. -/
def repetitionTooLong (v w : Value) : Bool :=
  match v.size?, w.numeric? with
  | some size, some (.int n) => n * size > maxLength
  | some size, some (.float x) => x * Float.ofNat size > Float.ofNat maxLength
  | _, _ => false

/-- Refuses an operation on numbers that are too high. -/
def tooHigh (v : Value) (sign : String) (w : Value) : Evaluation σ Unit :=
  if v.tooLongToWrite || w.tooLongToWrite then throw (.operand .badValue)
  else fault (.numberTooHigh v.shown sign w.shown)

/-- Refuses operations whose results would be too large. -/
def guardSize (op : BinaryOp) (v w : Value) : Evaluation σ Unit := do
  match op with
  | .power => if (← exceeds v maxPower) || (← exceeds w maxPower) then tooHigh v "**" w
  | .shiftLeft => if (← exceeds w maxShift) || (← exceeds v maxShifted) then tooHigh v "<<" w
  | .shiftRight => if (← exceeds w maxShift) || (← exceeds v maxShifted) then tooHigh v ">>" w
  | .multiply => if repetitionTooLong v w || repetitionTooLong w v then fault (.iterableTooLong .repetition)
  | .add =>
    match v.size?, w.size? with
    | some m, some n => if m + n > maxLength then fault (.iterableTooLong .concatenation)
    | _, _ => pure ()
  | _ => pure ()

/-- Whether an expression refers to a value that exists already. -/
def refers : Expr → Bool
  | .name _ | .attribute .. | .subscript .. => true
  | _ => false

/-- An attribute of a value, or else its item of that name. -/
def attributeOf (source : String) (v : Value) (attr : String) : Evaluation σ Value :=
  match v.attribute? attr with
  | some w => pure w
  | none =>
    match v.subscript (.text attr) with
    | .ok w => pure w
    | .error .missingKey | .error .wrongType => fault (.attributeDoesNotExist attr source)
    | .error f => throw (.operand f)

/-- Refuses attributes that are never given out. -/
def guardAttribute (attr : String) : Evaluation σ Unit :=
  if hiddenPrefixes.any fun p => attr.startsWith p then fault (.featureNotAvailable (.privateAttribute attr))
  else if hiddenMethods.contains attr then fault (.featureNotAvailable (.forbiddenMethod attr))
  else pure ()

mutual

/-- Binds the names of a target to the parts of a value, as many as both have. -/
def bindTarget (v : Value) : Expr → Bindings → Attempt Bindings
  | .name n, bs => .ok (Bindings.assign n v bs)
  | .tuple es, bs => do bindTargets (← v.items) es bs
  | .list es, bs => do bindTargets (← v.items) es bs
  | _, _ => .error .noSuchAttribute
termination_by structural e => e

def bindTargets (vs : List Value) : List Expr → Bindings → Attempt Bindings
  | [], bs => .ok bs
  | e :: es, bs =>
    match vs with
    | [] => .ok bs
    | v :: vs => do bindTargets vs es (← bindTarget v e bs)
termination_by structural es => es

end

/-- Counts an element that a comprehension runs through. -/
def countElement : Evaluation σ Unit := do
  modify (· + 1)
  if (← get) > maxElements then fault (.iterableTooLong .comprehension)

def laidOut (v : Value) (layout : String) : Evaluation σ Value :=
  if layout.any fun c => c == '\x7b' || c == '\x7d' then throw (.operand .badValue)
  else do return .text (← attempt (v.laidOut layout))

def addPart (sofar : String) (v : Value) : Evaluation σ String := do
  if v.tooLongToWrite then throw (.operand .badValue)
  let part := v.shown
  if part.length + sofar.length > maxLength then fault (.iterableTooLong .interpolation)
  return sofar ++ part

variable (ctx : Context σ) (source : String)

mutual

/-- The value of an expression; `extra` holds the names that comprehensions around it have bound. -/
def eval (extra : Bindings) : Expr → Evaluation σ Value
  | .literal c => literal c
  | .name n =>
    match extra.lookup n with
    | some v => pure v
    | none =>
      match ctx.bindings.lookup n with
      | some v => pure v
      | none =>
        match ctx.function? n with
        | some f => pure (.function f)
        | none => fault (.nameNotDefined n source)
  | .attribute base attr => do
    guardAttribute attr
    attributeOf source (← eval extra base) attr
  | .subscript base index => do
    let v ← eval extra base
    attempt (v.subscript (← eval extra index))
  | .slice lower upper step => do
    let l ← evalMaybe extra lower
    let u ← evalMaybe extra upper
    return .slice l u (← evalMaybe extra step)
  | .call (.attribute base attr) args keywords => do
    guardAttribute attr
    let f ← attributeOf source (← eval extra base) attr
    let vs ← evalAll extra args
    let named ← evalKeywords extra [] keywords
    liftM (ctx.call f vs named)
  | .call (.name n) args keywords =>
    match ctx.function? n with
    | some f => do
      let vs ← evalAll extra args
      let named ← evalKeywords extra [] keywords
      liftM (ctx.call (.function f) vs named)
    | none => fault (.functionNotDefined n source)
  | .call _ _ _ => fault (.featureNotAvailable .computedCallee)
  | .unary op e => do
    let v ← eval extra e
    attempt (op.apply v)
  | .binary .matrixMultiply _ _ => fault .operatorNotDefined
  | .binary op a b => do
    let v ← eval extra a
    let w ← eval extra b
    guardSize op v w
    attempt (op.apply v w)
  | .connected op es => evalConnected extra op es
  | .compared e rest => do
    let v ← eval extra e
    evalCompared extra (.bool true) v (refers e) rest
  | .conditional test body orelse => do
    if (← eval extra test).truthy then eval extra body else eval extra orelse
  | .list es => do return .list (← evalSpread extra es)
  | .tuple es => do return .tuple (← evalAll extra es)
  | .set es => do
    let vs ← evalAll extra es
    if vs.all Value.isHashable then return .set (distinct vs) else throw (.operand .wrongType)
  | .dict items => do return .dict (← evalItems extra [] items)
  | .comprehension .set _ _ => fault (.featureNotAvailable (.construct "SetComp"))
  | .comprehension _ e clauses => do
    let (_, out) ← evalClauses extra (fun bound => do return (.null, ← eval bound e)) clauses ([], [])
    return .list (out.reverse.map Prod.snd)
  | .dictComprehension k v clauses => do
    let entry (bound : Bindings) : Evaluation σ (Value × Value) := do
      let value ← eval bound v
      let key ← eval bound k
      if key.isHashable then return (key, value) else throw (.operand .wrongType)
    let (_, out) ← evalClauses extra entry clauses ([], [])
    return .dict (out.reverse.foldl (fun entries (k, v) => insertEntry entries k v) [])
  | .interpolated pieces => do return .text (← evalPieces extra "" pieces)
  | e => fault (.featureNotAvailable (.construct e.construct))
termination_by structural e => e

def evalMaybe (extra : Bindings) : Option Expr → Evaluation σ Value
  | none => pure .null
  | some e => eval extra e
termination_by structural e => e

def evalAll (extra : Bindings) : List Expr → Evaluation σ (List Value)
  | [] => pure []
  | e :: es => do
    let v ← eval extra e
    return v :: (← evalAll extra es)
termination_by structural es => es

/-- The items of a list display, where other collections may be spread out. -/
def evalSpread (extra : Bindings) : List Expr → Evaluation σ (List Value)
  | [] => pure []
  | .starred e :: es => do
    let vs ← attempt (← eval extra e).items
    return vs ++ (← evalSpread extra es)
  | e :: es => do
    let v ← eval extra e
    return v :: (← evalSpread extra es)
termination_by structural es => es

/-- Named arguments, of which the last of a name counts. A spread mapping is refused after it was evaluated. -/
def evalKeywords (extra sofar : Bindings) : List Keyword → Evaluation σ Bindings
  | [] => pure sofar
  | .mk (some n) e :: ks => do
    let v ← eval extra e
    evalKeywords extra (Bindings.assign n v sofar) ks
  | .mk none e :: ks => do
    let _ ← eval extra e
    let _ ← evalKeywords extra sofar ks
    throw (.operand .wrongType)
termination_by structural ks => ks

def evalConnected (extra : Bindings) (op : Connective) : List Expr → Evaluation σ Value
  | [] => pure .null
  | [e] => eval extra e
  | e :: es => do
    let v ← eval extra e
    if v.truthy == (op == .or) then return v else evalConnected extra op es
termination_by structural es => es

/-- A chain of comparisons ends with the first one that fails. -/
def evalCompared (extra : Bindings) (outcome left : Value) (shared : Bool) :
    List Comparison → Evaluation σ Value
  | [] => pure outcome
  | .mk op e :: rest =>
    if outcome.truthy then do
      let right ← eval extra e
      let outcome ← attempt (op.apply (shared && refers e) left right)
      evalCompared extra outcome right (refers e) rest
    else pure outcome
termination_by structural rest => rest

/-- The entries of a mapping display; the value of an entry is evaluated before its key. -/
def evalItems (extra : Bindings) (entries : List (Value × Value)) :
    List DictItem → Evaluation σ (List (Value × Value))
  | [] => pure entries
  | .entry k v :: items => do
    let value ← eval extra v
    let key ← eval extra k
    if key.isHashable then evalItems extra (insertEntry entries key value) items
    else throw (.operand .wrongType)
  | .spread e :: items => do
    let v ← eval extra e
    evalItems extra (← attempt (absorb entries v)) items
termination_by structural items => items

/-- Runs the `for` clauses of a comprehension and collects what `emit` makes, last first. The names that
the clauses bind stay bound from one element to the next. -/
def evalClauses (extra : Bindings) (emit : Bindings → Evaluation σ (Value × Value)) :
    List Generator → Bindings × List (Value × Value) → Evaluation σ (Bindings × List (Value × Value))
  | [], (bound, out) => do return (bound, (← emit (bound ++ extra)) :: out)
  | .mk target iterable conditions :: rest, (bound, out) => do
    let items ← attempt (← eval (bound ++ extra) iterable).items
    items.foldlM (fun (bound, out) item => do
      countElement
      let bound ← attempt (bindTarget item target bound)
      if ← evalConditions (bound ++ extra) conditions then evalClauses extra emit rest (bound, out)
      else return (bound, out)) (bound, out)
termination_by structural clauses => clauses

def evalConditions (extra : Bindings) : List Expr → Evaluation σ Bool
  | [] => pure true
  | e :: es => do
    if (← eval extra e).truthy then evalConditions extra es else return false
termination_by structural es => es

/-- The text of interpolated pieces; the layout of a field is evaluated before its value. -/
def evalPieces (extra : Bindings) (sofar : String) : List Piece → Evaluation σ String
  | [] => pure sofar
  | .text s :: ps => do
    let v ← literal (.text s)
    evalPieces extra (← addPart sofar v) ps
  | .field e layout :: ps => do
    let layout ← evalLayout extra layout
    let v ← eval extra e
    let part ← match layout with
      | some l => laidOut v l
      | none => pure v
    evalPieces extra (← addPart sofar part) ps
termination_by structural ps => ps

def evalLayout (extra : Bindings) : Option (List Piece) → Evaluation σ (Option String)
  | none => pure none
  | some ps => do return some (← evalPieces extra "" ps)
termination_by structural ps => ps

end

end Evaluation

/-- The value of an expression in a context; `source` is the text that messages show. -/
def Expr.eval {σ : Type} (ctx : Context σ) (source : String) (e : Expr) : Run σ Value :=
  StateT.run' (Evaluation.eval ctx source [] e) 0

end AccessPolicy
