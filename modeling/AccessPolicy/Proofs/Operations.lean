import AccessPolicy.Documents.Service
import AccessPolicy.Proofs.GuardDecisions

/-!
What the secured operations on documents come to, for every caller: each is its body behind the decisions of
its guards, and these are what the evaluator for documents answers.
-/

namespace AccessPolicy

/-- Whether the permissions on documents are those of their own evaluator. -/
def Handler.JudgesDocuments (h : Handler Store) : Prop :=
  ∃ routes fallback, h.evaluator = some (.delegating routes fallback) ∧
    routes.lookup "Document" = some Documents.evaluator

namespace Documents

open Handler (caller)

/-- Whether a caller may read a document. -/
def readable (who : Option Authentication) (d : Document) : Bool :=
  decide (some (caller who)) (.text d.owner) d.confidential (.text "read")

/-- The answer to a question about a document by its id, as the evaluator that is delegated to gives it. -/
def judgement (s : Store) (who : Option Authentication) (id permission : Value) : Except Failure Bool :=
  (mayUseById s (some (caller who)) id permission).mapError fun f =>
    .permission (.failed "DelegatingPermissionEvaluator" f)

def judged (who : Option Authentication) (id permission : Value) : Run Store Bool := do
  Run.ofExcept (judgement (← get) who id permission)

theorem outcome_judged (who : Option Authentication) (id permission : Value) (s : Store) :
    (judged who id permission).outcome s = (judgement s who id permission, s) :=
  Run.outcome_ofExcept _ s

theorem wholeOrNone_operand {v : Value} {f : Failure} (h : wholeOrNone v = .error f) :
    ∃ fault, f = .operand fault := by
  unfold wholeOrNone at h
  split at h
  · cases h
  · cases h
  · cases h
  · cases h
    exact ⟨_, rfl⟩

/-- A whole number is looked up if it can be the id of a document. -/
theorem lookUp_number {s : Store} {id : Value} {n : Int} (hn : wholeOrNone id = .ok (some n)) :
    lookUp s id = if Credentials.isKey n then .ok (s.document? n) else .error (.operand .overflow) := by
  unfold lookUp
  rw [hn]
  rfl

theorem lookUp_operand {s : Store} {id : Value} {f : Failure} (h : lookUp s id = .error f) :
    ∃ fault, f = .operand fault := by
  cases hw : wholeOrNone id with
  | error g =>
    unfold lookUp at h
    rw [hw] at h
    cases h
    exact wholeOrNone_operand hw
  | ok n =>
    cases n with
    | none =>
      unfold lookUp at h
      rw [hw] at h
      cases h
    | some n =>
      rw [lookUp_number hw] at h
      split at h
      · cases h
      · cases h
        exact ⟨_, rfl⟩

theorem mayUseById_eq (s : Store) (who : Option Authentication) (id permission : Value) :
    mayUseById s who id permission =
      (lookUp s id).map fun found => found.any fun d => decide who (.text d.owner) d.confidential permission := by
  unfold mayUseById
  cases lookUp s id with
  | error f => rfl
  | ok found => cases found <;> rfl

theorem mayUseById_operand {s : Store} {who : Option Authentication} {id permission : Value} {f : Failure}
    (h : mayUseById s who id permission = .error f) : ∃ fault, f = .operand fault := by
  unfold mayUseById at h
  cases hl : lookUp s id with
  | error g =>
    rw [hl] at h
    cases h
    exact lookUp_operand hl
  | ok d =>
    rw [hl] at h
    cases d <;> cases h

theorem outcome_answer (who : Option Authentication) (id type permission : Value) (s : Store) :
    (evaluator.answer who (.byId id type permission)).outcome s =
      ((mayUseById s who id permission).map Value.bool, s) := by
  have hread : (get : Run Store Store).outcome s = (.ok s, s) := rfl
  change Run.outcome (do return Value.bool (← Run.ofExcept (mayUseById (← get) who id permission))) s = _
  rw [Run.outcome_bind_ok hread, Run.outcome_bind, Run.outcome_ofExcept]
  cases mayUseById s who id permission <;> rfl

theorem judged_failsOnly (who : Option Authentication) (id permission : Value) :
    (judged who id permission).FailsOnly fun f => f.isOwn = true := by
  intro s f t h
  rw [outcome_judged] at h
  unfold judgement at h
  cases hm : mayUseById s (some (caller who)) id permission with
  | ok b =>
    rw [hm] at h
    cases h
  | error g =>
    rw [hm] at h
    cases h
    rfl

theorem equal_name (o : String) (n : Option String) :
    (Value.text o).equal (n.elim .null .text) = true ↔ n = some o := by
  cases n with
  | none => simp only [Option.elim_none, Value.equal, Bool.false_eq_true, reduceCtorEq]
  | some m =>
    rw [Option.elim_some, equal_text, beq_iff_eq, Option.some.injEq]
    exact eq_comm

section Questions

variable {routes : List (String × PermissionEvaluator Store)} {fallback : Option (PermissionEvaluator Store)}

theorem answer_document (hroutes : routes.lookup "Document" = some evaluator) (who : Option Authentication)
    {q : PermissionQuestion} (hq : PermissionEvaluator.PermissionQuestion.tag q = .text "Document") :
    (PermissionEvaluator.delegating routes fallback).answer who q = evaluator.answer who q := by
  rw [PermissionEvaluator.answer, hq, PermissionEvaluator.answerRoute_lookup, hroutes]
  rfl

theorem ask_document (hroutes : routes.lookup "Document" = some evaluator) (who : Option Authentication)
    (d : Document) (permission : Value) :
    (PermissionEvaluator.delegating routes fallback).ask who [.document d, permission] =
      pure (decide who (.text d.owner) d.confidential permission) := by
  simp only [PermissionEvaluator.ask, PermissionQuestion.ofArgs?]
  rw [answer_document hroutes who rfl]
  rfl

theorem ask_byId (hroutes : routes.lookup "Document" = some evaluator) (who : Option Authentication)
    (id permission : Value) :
    (PermissionEvaluator.delegating routes fallback).ask (some (caller who)) [id, .text "Document", permission] =
      judged who id permission := by
  refine Run.ext_outcome fun s => ?_
  rw [PermissionEvaluator.outcome_ask _ _ rfl, answer_document hroutes _ rfl, outcome_answer, outcome_judged]
  unfold judgement
  cases hm : mayUseById s (some (caller who)) id permission with
  | ok b => rfl
  | error f =>
    obtain ⟨fault, rfl⟩ := mayUseById_operand hm
    rfl

end Questions

/-- The document that a key stands for in a store. -/
def existed (s : Store) (id : Value) : Except Failure Document := do
  match ← Store.keyOf id >>= Store.idOf with
  | none => .error (.documentNotFound id)
  | some n => (s.document? n).elim (.error (.documentNotFound id)) .ok

theorem existed_number {s : Store} {id : Value} {n : Int} (hn : (Store.keyOf id >>= Store.idOf) = .ok (some n)) :
    existed s id = (s.document? n).elim (.error (.documentNotFound id)) .ok := by
  unfold existed
  rw [hn]
  rfl

theorem outcome_existing (id : Value) (s : Store) : (existing id).outcome s = (existed s id, s) := by
  have hread : (get : Run Store Store).outcome s = (.ok s, s) := rfl
  unfold existing
  rw [Run.outcome_bind, Run.outcome_ofExcept]
  cases hid : Store.keyOf id >>= Store.idOf with
  | error f => rw [existed, hid]; rfl
  | ok n =>
    cases n with
    | none => rw [existed, hid]; rfl
    | some n =>
      rw [existed_number hid]
      refine (Run.outcome_bind_ok hread _).trans ?_
      cases s.document? n <;> rfl

section Calls

variable {h : Handler Store} {p : Proxy Store} {m : Method Store} {args : List Value} {named : Bindings}
  {arguments : Arguments}

theorem operations_named : (operations.map (·.name)).Nodup := by decide

theorem operations_secured : ∀ m ∈ operations, Proxy.secures m = true := by decide +kernel

/-- No operation has a name that a proxy keeps for itself. -/
theorem operations_open : ∀ m ∈ operations, m.name ≠ Proxy.targetName ∧ m.name ≠ Proxy.methodsName := by decide

theorem operations_bound : ∀ m ∈ operations, m.callable.bound = true := by decide

/-- In guards, parameters have their own names. -/
theorem operations_binders : ∀ m ∈ operations,
    (Binder.of NameResolver.standard m.callable).toOption.map (·.names) =
        some ((m.callable.parameters.getD []).map fun q => (q.name, q.name)) ∧
      ((m.callable.parameters.getD []).map (·.name)).Nodup := by
  decide

theorem plainHandler_judges : plainHandler.JudgesDocuments := ⟨[("Document", evaluator)], none, rfl, rfl⟩

/-- The object that calls of the operations are made on. -/
def protectedService : Object := { serviceObject with methods := operations.map (·.name) }

/-- The handler of calls of the operations, which answers their methods as well. -/
def serving (h : Handler Store) : Handler Store := Method.lend operations protectedService h

/-- What the guards of a call see of it, and of what it returned. -/
def callContext (h : Handler Store) (who : Option Authentication) (arguments : Arguments)
    (returned : Option Value) : Context Store :=
  (serving h).methodContext who arguments (some (.object protectedService)) returned

theorem member_of (hp : service h = .ok p) (hm : m ∈ operations) :
    ∃ a, Attachment.of h NameResolver.standard m.callable m.slots true = .ok a ∧
      p.members.lookup m.name = some (.inl a) ∧
      p.methods.find? (fun k => k.name == m.name) = some m ∧ p.methods = operations ∧ p.target = protectedService := by
  obtain ⟨htarget, hmethods, hmembers, _⟩ := Proxy.protect_ok hp operations_named
  obtain ⟨x, hlookup, hx⟩ := hmembers m hm (operations_secured m hm)
  obtain ⟨a, rfl, ha⟩ := Proxy.memberOf_ok hx rfl
  rw [operations_bound m hm] at ha
  refine ⟨a, ha, hlookup, ?_, hmethods, htarget⟩
  rw [hmethods]
  exact find?_of_mem_nodup operations_named hm

theorem secured_of (hp : service h = .ok p) (hm : m ∈ operations) :
    ∃ a, Attachment.of h NameResolver.standard m.callable m.slots true = .ok a ∧ p.secured.lookup m.name = some a ∧
      p.methods.find? (fun k => k.name == m.name) = some m ∧ p.methods = operations ∧ p.target = protectedService := by
  obtain ⟨a, ha, hlookup, hfind, hmethods, htarget⟩ := member_of hp hm
  exact ⟨a, ha, Proxy.lookup_secured hlookup, hfind, hmethods, htarget⟩

/-- A call of an operation is a call that is secured with them. -/
theorem call_secured (hp : service h = .ok p) (hm : m ∈ operations) :
    ∃ a, Attachment.of h NameResolver.standard m.callable m.slots true = .ok a ∧
      ∀ who args named, p.call h who m.name args named =
        a.invoke (serving h) (some (.object protectedService)) who m.body args named := by
  obtain ⟨a, ha, hlookup, hfind, hmethods, htarget⟩ := member_of hp hm
  have hslots : m.slots.isSecured = true := (Bool.and_eq_true_iff.mp (operations_secured m hm)).1
  have hmember : p.member? m.name = some (.secured a m) :=
    Proxy.member?_secured (operations_open m hm) hlookup hfind
  refine ⟨a, ha, fun who args named => ?_⟩
  unfold Proxy.call
  rw [hmember, hmethods, htarget]
  dsimp only
  rw [Attachment.hasTarget_of ha]
  change a.call (serving h) (some (.object protectedService)) who m.body args named = _
  unfold Attachment.call
  rw [Attachment.hasGuards_of_secured ha hslots, if_pos rfl]

theorem parameters_of {a : Attachment}
    (ha : Attachment.of h NameResolver.standard m.callable m.slots true = .ok a) :
    a.binder.parameters = m.callable.parameters.getD [] := by
  rw [Binder.of_ok (Attachment.of_compiled ha).1]
  rfl

theorem names_of {a : Attachment} (hm : m ∈ operations)
    (ha : Attachment.of h NameResolver.standard m.callable m.slots true = .ok a) :
    a.binder.names = (m.callable.parameters.getD []).map fun q => (q.name, q.name) := by
  have hbinder := (operations_binders m hm).1
  rw [(Attachment.of_compiled ha).1] at hbinder
  exact Option.some.inj hbinder

theorem call_unbound (hp : service h = .ok p) (hm : m ∈ operations) {f : OperandFault}
    (hb : Parameter.bind (m.callable.parameters.getD []) args named = .error f) (who : Option Authentication) :
    p.call h who m.name args named = throw (.operand f) := by
  obtain ⟨a, ha, hcall⟩ := call_secured hp hm
  rw [hcall]
  unfold Attachment.invoke Binder.bind
  rw [parameters_of ha, hb]
  rfl

/-- A call of an operation whose arguments bind goes through its guards in their order. -/
theorem call_bound (hp : service h = .ok p) (hm : m ∈ operations)
    (hb : Parameter.bind (m.callable.parameters.getD []) args named = .ok arguments) :
    (Bindings.names arguments).Nodup ∧
      ∃ a, Attachment.of h NameResolver.standard m.callable m.slots true = .ok a ∧
        (∀ returned who, a.context (serving h) (some (.object protectedService)) who arguments returned =
          callContext h who arguments returned) ∧
        ∀ who, p.call h who m.name args named = (do
          Attachment.demand (callContext h who arguments none) a.preAuthorize
          let narrowed ← a.narrow (callContext h who arguments none) arguments
          let returned ← m.body narrowed
          a.after (serving h) (some (.object protectedService)) who narrowed returned) := by
  obtain ⟨a, ha, hcall⟩ := call_secured hp hm
  have hparameters := parameters_of ha
  have hnames := Parameter.bind_names hb
  have harguments : (Bindings.names arguments).Nodup := hnames ▸ (operations_binders m hm).2
  have hself : a.binder.bindings arguments = arguments := by
    refine Binder.bindings_eq ?_ ?_ harguments
    · rw [hparameters, names_of hm ha]
    · rw [hparameters, hnames]
  have hcontext (returned : Option Value) (who : Option Authentication) :
      a.context (serving h) (some (.object protectedService)) who arguments returned =
        callContext h who arguments returned := by
    unfold Attachment.context callContext
    rw [hself]
  refine ⟨harguments, a, ha, hcontext, fun who => ?_⟩
  rw [hcall]
  unfold Attachment.invoke Binder.bind
  rw [hparameters, hb, Run.attempt_ok, pure_bind, Protocol.before_eq, hcontext]
  simp only [bind_assoc]

section Guards

variable {who : Option Authentication} {ctx : Context Store} {source label : String} {a : Atom} {permission : String}

/-- A question about a document at hand is decided by the document and the caller alone. -/
theorem decides_document (hj : h.JudgesDocuments) (hc : (serving h).Identifies who ctx) {d : Document}
    (ha : a.Denotes ctx source (.document d)) (hlength : permission.length ≤ maxLength) :
    (Guard.mk source label (Plain.ask "hasPermission" [a, .text permission]).expr).Decides ctx
      (pure (decide (some (caller who)) (.text d.owner) d.confidential (.text permission))) := by
  obtain ⟨routes, fallback, he, hroutes⟩ := hj
  have hm := Handler.means_hasPermission hc (e := .delegating routes fallback) he
    (.cons ha (.cons (Atom.denotes_text hlength) .nil))
  rw [ask_document hroutes, map_pure] at hm
  exact .of_means_pure hm

/-- A question about a document by its id is one to the store. -/
theorem decides_byId (hj : h.JudgesDocuments) (hc : (serving h).Identifies who ctx) {id : Value}
    (ha : a.Denotes ctx source id) (hlength : permission.length ≤ maxLength) :
    (Guard.mk source label (Plain.ask "hasPermission" [a, .text "Document", .text permission]).expr).Decides ctx
      (judged who id (.text permission)) := by
  obtain ⟨routes, fallback, he, hroutes⟩ := hj
  have hm := Handler.means_hasPermission hc (e := .delegating routes fallback) he
    (.cons ha (.cons (Atom.denotes_text (s := "Document") (by decide)) (.cons (Atom.denotes_text hlength) .nil)))
  rw [ask_byId hroutes] at hm
  exact .of_means hm (judged_failsOnly who id _)

theorem callContext_identifies (hn : (Bindings.names arguments).Nodup) (returned : Option Value) :
    (serving h).Identifies who (callContext h who arguments returned) :=
  Handler.methodContext_identifies hn

theorem element_denotes (returned : Option Value) (item : Value) :
    (Atom.name elementName).Denotes ((callContext h who arguments returned).withVariables [(elementName, item)])
      source item := by
  apply Atom.denotes_name
  rw [Context.lookup_withElement, if_pos rfl]

theorem argument_denotes (hn : (Bindings.names arguments).Nodup) (returned : Option Value) {n : String} {v : Value}
    (hcommon : n ∉ commonVariables) (hspecial : n ∉ specialNames) (hv : arguments.lookup n = some v) :
    (Atom.name n).Denotes (callContext h who arguments returned) source v :=
  Atom.denotes_name (Handler.lookup_argument hn hcommon hspecial hv)

end Guards

/-- How the guards of the operations are written, and how they are read. -/
def operationGuards : List (String × Plain) :=
  [("hasPermission(filterObject, 'read')", .ask "hasPermission" [.name elementName, .text "read"]),
   ("hasPermission(filterObject.value, 'read')", .ask "hasPermission" [.attribute elementName "value", .text "read"]),
   ("hasPermission(returnValue, 'read')", .ask "hasPermission" [.name "returnValue", .text "read"]),
   ("isFullyAuthenticated() and owner == authentication.name",
    .both (.ask "isFullyAuthenticated" []) (.same (.name "owner") (.attribute "authentication" "name"))),
   ("hasPermission(document_id, 'Document', 'write')",
    .ask "hasPermission" [.name "document_id", .text "Document", .text "write"]),
   ("isFullyAuthenticated()", .ask "isFullyAuthenticated" []),
   ("hasPermission(filterObject, 'Document', 'delete')",
    .ask "hasPermission" [.name elementName, .text "Document", .text "delete"])]

theorem operationAttributes_givenOut : ∀ n ∈ ["name", "value"], Atom.isGivenOut n = true := by
  decide +kernel

theorem operationGuards_read : ∀ g ∈ operationGuards, Guard.readsAs g.1 g.2 = true := by
  decide +kernel

theorem reads_element : Guard.readsAs "hasPermission(filterObject, 'read')"
    (.ask "hasPermission" [.name elementName, .text "read"]) = true :=
  operationGuards_read operationGuards[0] (List.getElem_mem _)

theorem reads_entry : Guard.readsAs "hasPermission(filterObject.value, 'read')"
    (.ask "hasPermission" [.attribute elementName "value", .text "read"]) = true :=
  operationGuards_read operationGuards[1] (List.getElem_mem _)

theorem reads_result : Guard.readsAs "hasPermission(returnValue, 'read')"
    (.ask "hasPermission" [.name "returnValue", .text "read"]) = true :=
  operationGuards_read operationGuards[2] (List.getElem_mem _)

theorem reads_own : Guard.readsAs "isFullyAuthenticated() and owner == authentication.name"
    (.both (.ask "isFullyAuthenticated" []) (.same (.name "owner") (.attribute "authentication" "name"))) = true :=
  operationGuards_read operationGuards[3] (List.getElem_mem _)

theorem reads_write : Guard.readsAs "hasPermission(document_id, 'Document', 'write')"
    (.ask "hasPermission" [.name "document_id", .text "Document", .text "write"]) = true :=
  operationGuards_read operationGuards[4] (List.getElem_mem _)

theorem reads_full : Guard.readsAs "isFullyAuthenticated()" (.ask "isFullyAuthenticated" []) = true :=
  operationGuards_read operationGuards[5] (List.getElem_mem _)

theorem reads_delete : Guard.readsAs "hasPermission(filterObject, 'Document', 'delete')"
    (.ask "hasPermission" [.name elementName, .text "Document", .text "delete"]) = true :=
  operationGuards_read operationGuards[6] (List.getElem_mem _)

section Availability

variable {text : String} {q : Plain}

/-- What a guard in a slot of an operation may name. -/
def visible (m : Method Store) (slot : Slot) : List String :=
  Predicate.common.map Predicate.name ++ commonVariables ++
    ((m.callable.parameters.getD []).map (·.name) ++ ["this"] ++ Attachment.slotNames slot)

theorem argumentNames_eq {binder : Binder}
    (hnames : binder.names = (m.callable.parameters.getD []).map fun q => (q.name, q.name)) :
    Attachment.argumentNames binder true = (m.callable.parameters.getD []).map (·.name) ++ ["this"] := by
  unfold Attachment.argumentNames
  rw [hnames, List.map_map]
  rfl

theorem attached_single (slot : Slot) (he : h.evaluator.isSome = true) (hm : m ∈ operations) (hslot : slot ≠ .preFilter)
    (hs : m.slots = ({} : Slots).set slot (some (.plain text))) (hq : Guard.readsAs text q = true)
    (hnames : ∀ n ∈ q.expr.freeNames, n ∈ visible m slot) :
    ∃ a, Attachment.of h NameResolver.standard m.callable m.slots true = .ok a := by
  obtain ⟨binder, hb, hbinder⟩ := Option.map_eq_some_iff.mp (operations_binders m hm).1
  have hget (other : Slot) : m.slots.get other = if other = slot then some (.plain text) else none := by
    rw [hs]
    cases slot <;> cases other <;> rfl
  refine Attachment.of_total (except_ok_of_toOption hb) (fun other => ?_) (.inl ?_)
  · by_cases heq : other = slot
    · subst heq
      rw [argumentNames_eq hbinder]
      exact ⟨_, Attachment.compile_plain he ((hget other).trans (if_pos rfl)) hq hnames⟩
    · exact ⟨none, Attachment.compile_none _ _ ((hget other).trans (if_neg heq))⟩
  · exact (hget .preFilter).trans (if_neg hslot.symm)

theorem attached_deleteMany (he : h.evaluator.isSome = true) : ∃ a, Attachment.of h NameResolver.standard
    operations[6].callable operations[6].slots true = .ok a := by
  obtain ⟨binder, hb, hbinder⟩ := Option.map_eq_some_iff.mp (operations_binders operations[6] (List.getElem_mem _)).1
  refine Attachment.of_total (except_ok_of_toOption hb) (fun slot => ?_) (.inr ⟨some "document_ids", ?_⟩)
  · rw [argumentNames_eq hbinder]
    cases slot with
    | preAuthorize => exact ⟨_, Attachment.compile_plain he rfl reads_full (by decide)⟩
    | preFilter => exact ⟨_, Attachment.compile_plain he rfl reads_delete (by decide)⟩
    | postAuthorize | postFilter => exact ⟨none, Attachment.compile_none _ _ rfl⟩
  · have hnames : binder.names = [("document_ids", "document_ids")] := hbinder
    unfold Attachment.staticTarget Binder.parameter?
    rw [hnames]
    rfl

theorem service_available (he : h.evaluator.isSome = true) : ∃ p, service h = .ok p := by
  refine Proxy.protect_total fun m hm _ => Proxy.memberOf_total rfl ?_
  have hmem := hm
  simp only [operations, List.mem_cons, List.not_mem_nil, or_false] at hmem
  rcases hmem with rfl | rfl | rfl | rfl | rfl | rfl | rfl
  · exact attached_single .postFilter he hm (by decide) rfl reads_element (by decide)
  · exact attached_single .postFilter he hm (by decide) rfl reads_element (by decide)
  · exact attached_single .postFilter he hm (by decide) rfl reads_entry (by decide)
  · exact attached_single .postAuthorize he hm (by decide) rfl reads_result (by decide)
  · exact attached_single .preAuthorize he hm (by decide) rfl reads_own (by decide)
  · exact attached_single .preAuthorize he hm (by decide) rfl reads_write (by decide)
  · exact attached_deleteMany he

end Availability

section Shapes

variable {text : String} {q : Plain}

/-- The guard of an operation's slot. -/
def guardOf (m : Method Store) (slot : Slot) (text : String) (q : Plain) : Guard :=
  ⟨text, m.callable.name ++ ":" ++ slot.name, q.expr⟩

/-- A call of an operation that only filters what it returns. -/
theorem call_filtered (hp : service h = .ok p) (hm : m ∈ operations) (hs : m.slots = { postFilter := some (.plain text) })
    (hq : Guard.readsAs text q = true) (hb : Parameter.bind (m.callable.parameters.getD []) args named = .ok arguments)
    (who : Option Authentication) :
    (Bindings.names arguments).Nodup ∧ p.call h who m.name args named = (do
      let returned ← m.body arguments
      (guardOf m .postFilter text q).filter (callContext h who arguments (some returned)) returned) := by
  obtain ⟨hn, a, ha, hcontext, hcall⟩ := call_bound hp hm hb
  have hpre : a.preAuthorize = none := Attachment.guard?_none .preAuthorize ha (by rw [hs]; rfl)
  have hnarrow : a.preFilter = none := Attachment.guard?_none .preFilter ha (by rw [hs]; rfl)
  have hpost : a.postAuthorize = none := Attachment.guard?_none .postAuthorize ha (by rw [hs]; rfl)
  have hscreen : a.postFilter = some (guardOf m .postFilter text q) :=
    Attachment.guard?_plain .postFilter ha (by rw [hs]; rfl) hq
  refine ⟨hn, ?_⟩
  rw [hcall]
  simp only [hpre, Attachment.demand, pure_bind, Attachment.narrow, hnarrow, Attachment.after, hcontext, hscreen,
    Attachment.screen, hpost, bind_pure]

/-- A call of an operation that only decides whether its result is shown. -/
theorem call_shown (hp : service h = .ok p) (hm : m ∈ operations) (hs : m.slots = { postAuthorize := some (.plain text) })
    (hq : Guard.readsAs text q = true) (hb : Parameter.bind (m.callable.parameters.getD []) args named = .ok arguments)
    (who : Option Authentication) :
    (Bindings.names arguments).Nodup ∧ p.call h who m.name args named = (do
      let returned ← m.body arguments
      Attachment.demand (callContext h who arguments (some returned)) (some (guardOf m .postAuthorize text q))
      return returned) := by
  obtain ⟨hn, a, ha, hcontext, hcall⟩ := call_bound hp hm hb
  have hpre : a.preAuthorize = none := Attachment.guard?_none .preAuthorize ha (by rw [hs]; rfl)
  have hnarrow : a.preFilter = none := Attachment.guard?_none .preFilter ha (by rw [hs]; rfl)
  have hscreen : a.postFilter = none := Attachment.guard?_none .postFilter ha (by rw [hs]; rfl)
  have hpost : a.postAuthorize = some (guardOf m .postAuthorize text q) :=
    Attachment.guard?_plain .postAuthorize ha (by rw [hs]; rfl) hq
  refine ⟨hn, ?_⟩
  rw [hcall, hpre, Attachment.demand, pure_bind, Attachment.narrow, hnarrow, pure_bind]
  simp only [Attachment.after, hscreen, Attachment.screen, hpost, hcontext, pure_bind]

/-- A call of an operation that only decides whether it happens. -/
theorem call_demanded (hp : service h = .ok p) (hm : m ∈ operations) (hs : m.slots = { preAuthorize := some (.plain text) })
    (hq : Guard.readsAs text q = true) (hb : Parameter.bind (m.callable.parameters.getD []) args named = .ok arguments)
    (who : Option Authentication) :
    (Bindings.names arguments).Nodup ∧ p.call h who m.name args named = (do
      Attachment.demand (callContext h who arguments none) (some (guardOf m .preAuthorize text q))
      m.body arguments) := by
  obtain ⟨hn, a, ha, hcontext, hcall⟩ := call_bound hp hm hb
  have hpre : a.preAuthorize = some (guardOf m .preAuthorize text q) :=
    Attachment.guard?_plain .preAuthorize ha (by rw [hs]; rfl) hq
  have hnarrow : a.preFilter = none := Attachment.guard?_none .preFilter ha (by rw [hs]; rfl)
  have hscreen : a.postFilter = none := Attachment.guard?_none .postFilter ha (by rw [hs]; rfl)
  have hpost : a.postAuthorize = none := Attachment.guard?_none .postAuthorize ha (by rw [hs]; rfl)
  refine ⟨hn, ?_⟩
  rw [hcall, hpre, Attachment.narrow, hnarrow]
  simp only [Attachment.after, hscreen, Attachment.screen, hpost, Attachment.demand, pure_bind, bind_pure]

end Shapes

theorem lookup_bound {parameters : List Parameter} (hb : Parameter.bind parameters args named = .ok arguments) {n : String}
    (hn : n ∈ parameters.map (·.name)) : ∃ v, arguments.lookup n = some v := by
  refine Bindings.lookup_of_mem ?_
  rw [Parameter.bind_names hb]
  exact hn

section Decisions

variable {who : Option Authentication}

/-- The guards before the operations that change documents. -/
theorem decides_full (hn : (Bindings.names arguments).Nodup) (m : Method Store) :
    (guardOf m .preAuthorize "isFullyAuthenticated()" (.ask "isFullyAuthenticated" [])).Decides
      (callContext h who arguments none) (pure (caller who).isFullyAuthenticated) :=
  .of_means_pure (Handler.means_isFullyAuthenticated (callContext_identifies hn none))

theorem decides_own (hn : (Bindings.names arguments).Nodup) (m : Method Store) {owner : Value}
    (howner : arguments.lookup "owner" = some owner) :
    (guardOf m .preAuthorize "isFullyAuthenticated() and owner == authentication.name"
      (.both (.ask "isFullyAuthenticated" []) (.same (.name "owner") (.attribute "authentication" "name")))).Decides
      (callContext h who arguments none)
      (pure ((caller who).isFullyAuthenticated && owner.equal ((caller who).name.elim .null .text))) := by
  have hc : (serving h).Identifies who (callContext h who arguments none) := callContext_identifies hn none
  have howner' : (Atom.name "owner").Denotes (callContext h who arguments none)
      "isFullyAuthenticated() and owner == authentication.name" owner :=
    argument_denotes hn none (by decide) (by decide) howner
  have hname : (Atom.attribute "authentication" "name").Denotes (callContext h who arguments none)
      "isFullyAuthenticated() and owner == authentication.name" ((caller who).name.elim .null .text) := by
    refine Atom.denotes_attribute (v := .identity (caller who)) ?_ (operationAttributes_givenOut "name" (by decide)) rfl
    rw [hc.values "authentication" (by decide)]
    rfl
  refine .of_means_pure ?_
  refine Eq.trans (Plain.means_both (Handler.means_isFullyAuthenticated hc) (Plain.means_same howner' hname)) ?_
  cases (caller who).isFullyAuthenticated <;> rfl

theorem decides_write (hj : h.JudgesDocuments) (hn : (Bindings.names arguments).Nodup) (m : Method Store) {id : Value}
    (hid : arguments.lookup "document_id" = some id) :
    (guardOf m .preAuthorize "hasPermission(document_id, 'Document', 'write')"
      (.ask "hasPermission" [.name "document_id", .text "Document", .text "write"])).Decides
      (callContext h who arguments none) (judged who id (.text "write")) :=
  decides_byId hj (callContext_identifies hn none) (argument_denotes hn none (by decide) (by decide) hid) (by decide)

end Decisions

/-- The filter after a reading operation keeps what the caller may read. -/
theorem filter_readable (hj : h.JudgesDocuments) (hn : (Bindings.names arguments).Nodup) (who : Option Authentication)
    (m : Method Store) (returned : Option Value) (ds : List Document) :
    (guardOf m .postFilter "hasPermission(filterObject, 'read')"
        (.ask "hasPermission" [.name elementName, .text "read"])).filter (callContext h who arguments returned)
        (documentList ds) = pure (documentList (ds.filter (readable who))) :=
  Guard.filter_list fun d => decides_document hj ((callContext_identifies hn returned).withElement (.document d))
    (element_denotes returned (.document d)) (by decide)

/-- Reading all documents answers those that the caller may read. -/
theorem call_list (hj : h.JudgesDocuments) (hp : service h = .ok p)
    (hb : Parameter.bind [] args named = .ok arguments) (who : Option Authentication) :
    p.call h who "list_documents" args named =
      (do return documentList ((← get).documents.filter (readable who))) := by
  obtain ⟨hn, hcall⟩ := call_filtered (m := operations[0]) hp (List.getElem_mem _) rfl reads_element hb who
  refine hcall.trans ?_
  change (do
    let s ← get
    (guardOf operations[0] .postFilter _ _).filter _ (documentList s.documents) : Run Store Value) = _
  simp only [filter_readable hj hn]

/-- Reading somebody's documents answers those of them that the caller may read. -/
theorem call_listForOwner (hj : h.JudgesDocuments) (hp : service h = .ok p)
    (hb : Parameter.bind [parameter "username" "str" false none] args named = .ok arguments)
    (who : Option Authentication) :
    p.call h who "list_for_owner" args named =
      match (arguments.lookup "username").getD .null with
      | .null => pure (documentList [])
      | v => do
        let owner ← Run.ofExcept (storedText v)
        return documentList (((← get).documents.filter fun d => d.owner == owner).filter (readable who)) := by
  obtain ⟨hn, hcall⟩ := call_filtered (m := operations[1]) hp (List.getElem_mem _) rfl reads_element hb who
  refine hcall.trans ?_
  change (do
    let returned ← listForOwner arguments
    (guardOf operations[1] .postFilter _ _).filter _ returned : Run Store Value) = _
  unfold listForOwner
  generalize (arguments.lookup "username").getD .null = v
  cases v with
  | null => exact filter_readable hj hn who operations[1] (some (documentList [])) []
  | _ => simp only [bind_assoc, pure_bind, filter_readable hj hn]

/-- The index answers the documents that the caller may read, by their ids. -/
theorem call_index (hj : h.JudgesDocuments) (hp : service h = .ok p)
    (hb : Parameter.bind [] args named = .ok arguments) (who : Option Authentication) :
    p.call h who "index" args named =
      (do return .dict (((← get).documents.filter (readable who)).map fun d => (.int d.id, .document d))) := by
  obtain ⟨hn, hcall⟩ := call_filtered (m := operations[2]) hp (List.getElem_mem _) rfl reads_entry hb who
  refine hcall.trans ?_
  have hfilter (returned : Option Value) (ds : List Document) :
      (guardOf operations[2] .postFilter "hasPermission(filterObject.value, 'read')"
        (.ask "hasPermission" [.attribute elementName "value", .text "read"])).filter
        (callContext h who arguments returned) (.dict (ds.map fun d => (.int d.id, .document d))) =
        pure (.dict ((ds.filter (readable who)).map fun d => (.int d.id, .document d))) := by
    refine Guard.filter_dict fun d => decides_document hj
      ((callContext_identifies hn returned).withElement (.entry (.int d.id) (.document d))) ?_ (by decide)
    refine Atom.denotes_attribute (v := .entry (.int d.id) (.document d)) ?_
      (operationAttributes_givenOut "value" (by decide)) rfl
    rw [Context.lookup_withElement, if_pos rfl]
  change (do
    let s ← get
    (guardOf operations[2] .postFilter _ _).filter _ (.dict (s.documents.map fun d => (.int d.id, .document d))) :
      Run Store Value) = _
  simp only [hfilter]

/-- Reading a document answers it if it is there and the caller may read it. -/
theorem call_fetch (hj : h.JudgesDocuments) (hp : service h = .ok p)
    (hb : Parameter.bind [idParameter] args named = .ok arguments) (who : Option Authentication) :
    p.call h who "get_document" args named = (do
      let d ← existing ((arguments.lookup "document_id").getD .null)
      if readable who d then return .document d else throw .accessDenied) := by
  obtain ⟨hn, hcall⟩ := call_shown (m := operations[3]) hp (List.getElem_mem _) rfl reads_result hb who
  refine hcall.trans ?_
  have hdecides (d : Document) : (guardOf operations[3] .postAuthorize "hasPermission(returnValue, 'read')"
      (.ask "hasPermission" [.name "returnValue", .text "read"])).Decides
      (callContext h who arguments (some (.document d))) (pure (readable who d)) := by
    refine decides_document hj (callContext_identifies hn _) ?_ (by decide)
    exact Atom.denotes_name (Handler.lookup_returnValue hn)
  change (do
    let returned ← (do return .document (← existing ((arguments.lookup "document_id").getD .null)))
    Attachment.demand _ _
    return returned : Run Store Value) = _
  simp only [bind_assoc, pure_bind, (hdecides _).demand_then]

/-- A document is created if the caller is fully authenticated and is to own it. -/
theorem call_create (hp : service h = .ok p)
    (hb : Parameter.bind [parameter "owner" "str" false none, titleParameter,
      parameter "confidential" "bool" false (some (.bool false))] args named = .ok arguments)
    (who : Option Authentication) :
    p.call h who "create" args named =
      if (caller who).isFullyAuthenticated &&
          ((arguments.lookup "owner").getD .null).equal ((caller who).name.elim .null .text)
      then create arguments else throw .accessDenied := by
  obtain ⟨hn, hcall⟩ := call_demanded (m := operations[4]) hp (List.getElem_mem _) rfl reads_own hb who
  obtain ⟨owner, howner⟩ := lookup_bound hb (n := "owner") (by decide)
  refine hcall.trans (((decides_own hn operations[4] howner).demand_then _).trans ?_)
  rw [pure_bind, howner]
  rfl

/-- A document is renamed if the caller may write it. -/
theorem call_rename (hj : h.JudgesDocuments) (hp : service h = .ok p)
    (hb : Parameter.bind [idParameter, titleParameter] args named = .ok arguments) (who : Option Authentication) :
    p.call h who "rename" args named = (do
      if ← judged who ((arguments.lookup "document_id").getD .null) (.text "write") then rename arguments
      else throw .accessDenied) := by
  obtain ⟨hn, hcall⟩ := call_demanded (m := operations[5]) hp (List.getElem_mem _) rfl reads_write hb who
  obtain ⟨id, hid⟩ := lookup_bound hb (n := "document_id") (by decide)
  refine hcall.trans ?_
  rw [hid]
  exact (decides_write hj hn operations[5] hid).demand_then _

/-- The filter before the deletion keeps the ids of what the caller may delete. -/
theorem filter_deletable (hj : h.JudgesDocuments) (hn : (Bindings.names arguments).Nodup)
    (who : Option Authentication) (m : Method Store) (ids : Value) :
    (guardOf m .preFilter "hasPermission(filterObject, 'Document', 'delete')"
        (.ask "hasPermission" [.name elementName, .text "Document", .text "delete"])).filter
        (callContext h who arguments none) ids = ids.filtered fun id => judged who id (.text "delete") := by
  unfold Guard.filter
  refine congrArg (Value.filtered · ids) (funext fun id => ?_)
  exact (decides_byId hj ((callContext_identifies hn none).withElement id) (element_denotes none id) (by decide)).allows

/-- Before the deletion those of the documents are left that the caller may delete. A caller who is not fully
authenticated does not get that far. -/
theorem admit_deleteMany (hj : h.JudgesDocuments) {a : Attachment} {who : Option Authentication} {ids : Value}
    (ha : Attachment.of h NameResolver.standard operations[6].callable operations[6].slots true = .ok a)
    (hn : (Bindings.names arguments).Nodup) (hids : arguments.lookup "document_ids" = some ids) :
    (do
      Attachment.demand (callContext h who arguments none) a.preAuthorize
      a.narrow (callContext h who arguments none) arguments : Run Store Arguments) =
      if (caller who).isFullyAuthenticated then do
        let kept ← Value.filtered (fun id => judged who id (.text "delete")) ids
        return Bindings.assign "document_ids" kept arguments
      else throw .accessDenied := by
  have hpre : a.preAuthorize = some (guardOf operations[6] .preAuthorize _ _) :=
    Attachment.guard?_plain .preAuthorize ha rfl reads_full
  have hnarrow : a.preFilter = some (guardOf operations[6] .preFilter _ _) :=
    Attachment.guard?_plain .preFilter ha rfl reads_delete
  have hnames : a.binder.names = [("document_ids", "document_ids")] := names_of (List.getElem_mem _) ha
  have htarget : a.target arguments = .ok "document_ids" := by
    have hstatic : Attachment.staticTarget a.binder (some "document_ids") = .ok a.filterTarget :=
      (Attachment.of_compiled ha).2.2 (by rw [hnarrow]; rfl)
    unfold Attachment.staticTarget Binder.parameter? at hstatic
    rw [hnames] at hstatic
    have hgiven : (some "document_ids").filter (fun n => !n.isEmpty) = some "document_ids" := by decide
    unfold Attachment.target
    rw [← Except.ok.inj hstatic, hgiven]
  have hfilter := filter_deletable hj hn who operations[6] ids
  rw [hpre]
  refine ((decides_full hn operations[6]).demand_then _).trans ?_
  rw [pure_bind]
  simp only [Attachment.narrow, hnarrow, htarget, Run.ofExcept, pure_bind, hids, hfilter]

/-- Of the documents to delete, those are left that the caller may delete; a caller who is not fully
authenticated deletes none. -/
theorem call_deleteMany (hj : h.JudgesDocuments) (hp : service h = .ok p)
    (hb : Parameter.bind [parameter "document_ids" "list[int]" true none] args named = .ok arguments)
    (who : Option Authentication) :
    p.call h who "delete_many" args named =
      if (caller who).isFullyAuthenticated then do
        let ids ← Value.filtered (fun id => judged who id (.text "delete")) ((arguments.lookup "document_ids").getD .null)
        deleteMany (Bindings.assign "document_ids" ids arguments)
      else throw .accessDenied := by
  obtain ⟨hn, a, ha, hcontext, hcall⟩ := call_bound (m := operations[6]) hp (List.getElem_mem _) hb
  have hscreen : a.postFilter = none := Attachment.guard?_none .postFilter ha rfl
  have hpost : a.postAuthorize = none := Attachment.guard?_none .postAuthorize ha rfl
  obtain ⟨ids, hids⟩ := lookup_bound hb (n := "document_ids") (by decide)
  refine (hcall who).trans ?_
  rw [← bind_assoc, admit_deleteMany hj ha hn hids, hids]
  simp only [Attachment.after, hscreen, Attachment.screen, hpost, Attachment.demand, bind_pure, pure_bind]
  cases (caller who).isFullyAuthenticated with
  | true => simp only [↓reduceIte, bind_assoc, pure_bind]; rfl
  | false => rfl

/-- There is nothing to call under another name. -/
theorem call_unknown (hp : service h = .ok p) {name : String} (hname : name ∉ operations.map (·.name))
    (who : Option Authentication) : ∃ f, p.call h who name args named = throw f := by
  obtain ⟨htarget, hmethods, _, hothers⟩ := Proxy.protect_ok hp operations_named
  have hfind : p.methods.find? (fun k => k.name == name) = none := by
    rw [hmethods, List.find?_eq_none]
    intro k hk heq
    exact hname (beq_iff_eq.mp heq ▸ List.mem_map_of_mem hk)
  have hlookup : p.members.lookup name = none :=
    hothers name fun m hm _ heq => hname (heq ▸ List.mem_map_of_mem hm)
  have hcall : p.methods.find? (fun k => k.name == Proxy.callName) = none := by
    rw [hmethods]
    rfl
  have hmember : p.member? name = none ∨ p.member? name = some .target ∨
      ∃ entries, p.member? name = some (.value (.dict entries)) := by
    unfold Proxy.member?
    rw [hlookup, hfind, htarget]
    by_cases hown : name = Proxy.targetName
    · rw [hown]
      exact .inr (.inl rfl)
    by_cases hall : name = Proxy.methodsName
    · rw [hall]
      exact .inr (.inr ⟨_, rfl⟩)
    rw [beq_false_of_ne hown, beq_false_of_ne hall]
    unfold Object.member?
    rw [hfind]
    exact .inl rfl
  unfold Proxy.call
  obtain hnone | hown | ⟨entries, hall⟩ := hmember
  · rw [hnone]
    exact ⟨_, rfl⟩
  · rw [hown]
    dsimp only
    rw [hcall]
    exact ⟨_, rfl⟩
  · rw [hall]
    exact ⟨_, rfl⟩

end Calls

end Documents

end AccessPolicy
