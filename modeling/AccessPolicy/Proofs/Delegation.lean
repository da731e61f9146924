import AccessPolicy.Policy.Rules
import AccessPolicy.Proofs.Granting
import AccessPolicy.Proofs.GuardDecisions

/-!
Who answers permission questions under a policy. Every type tag has the evaluator that it is registered with, or else
what the policy lists for it; questions about an object and about its id and tag go the same way.
-/

namespace AccessPolicy

open Handler (caller)

variable {σ : Type}

/-- Whether an identity holds an authority, or one that implies it, that a policy lists under a type and a
permission. -/
def Policy.Lists (p : Policy) (a : Authentication) (type permission : String) : Prop :=
  ∃ held ∈ a.authorities, ∃ authority, Implications.Reaches p.hierarchy held authority ∧
    ∃ permissions authorities, p.permissions.lookup type = some permissions ∧
      permissions.lookup permission = some authorities ∧ authority ∈ authorities

/-- The evaluator that a policy makes of its permissions, if it has any. -/
def Policy.granted (p : Policy) (hierarchy : Option RoleHierarchy) : Option (PermissionEvaluator σ) :=
  if p.permissions.isEmpty then none else some (.byRole (Rules.grants p) hierarchy)

/-- What a permission question comes to in a context. -/
def Context.permits (ctx : Context σ) (args : List Value) : Run σ Value :=
  ctx.call (.function (.predicate .hasPermission)) args []

/-- What the answer of a registered evaluator is turned into. -/
def PermissionEvaluator.routed (answered : Except Failure Value × σ) : Except Failure Value × σ :=
  ((judged "DelegatingPermissionEvaluator" answered.1).map Value.bool, answered.2)

/-- How a context answers permission questions about an identity under a policy and evaluators for single tags. -/
structure Policy.Answers (p : Policy) (evaluators : List (String × PermissionEvaluator σ)) (a : Authentication)
    (ctx : Context σ) : Prop where
  asks : ∀ source extra args, Evaluation.eval ctx source extra (.call (.name "hasPermission") args []) =
    Evaluation.evalAll ctx source extra args >>= fun vs => liftM (ctx.permits vs)
  /-- An evaluator of its own answers for a tag, and no other. -/
  routed : ∀ tag own, evaluators.lookup tag = some own → ∀ id permission s,
    (ctx.permits [id, .text tag, permission]).outcome s =
      PermissionEvaluator.routed ((own.answer (some a) (.byId id (.text tag) permission)).outcome s)
  routedObject : ∀ (target : Value) own, evaluators.lookup target.typeTag = some own → ∀ permission s,
    (ctx.permits [target, permission]).outcome s =
      PermissionEvaluator.routed ((own.answer (some a) (.object target permission)).outcome s)
  /-- For the other tags the listed authorities decide. -/
  listed : ∀ tag, evaluators.lookup tag = none → ∀ (id permission : Value),
    p.permissions = [] ∨ permission.tooLongToWrite = false →
      ∃ b, ctx.permits [id, .text tag, permission] = pure (.bool b) ∧ (b = true ↔ p.Lists a tag permission.shown)
  /-- A permission that cannot be written is not looked up. -/
  unwritable : ∀ tag, evaluators.lookup tag = none → ∀ (id permission : Value), p.permissions ≠ [] →
    permission.tooLongToWrite = true →
      ∃ name, ctx.permits [id, .text tag, permission] = throw (.permission (.failed name (.operand .badValue)))
  objects : ∀ target : Value, target ≠ .null → evaluators.lookup target.typeTag = none → ∀ id permission,
    ctx.permits [target, permission] = ctx.permits [id, .text target.typeTag, permission]
  missing : evaluators.lookup Value.null.typeTag = none → ∀ permission,
    ctx.permits [.null, permission] = pure (.bool false)

section Grants

theorem find?_texts {α β : Type} (l : List (String × α)) (f : α → β) (key : String) :
    ((l.map fun e => (Value.text e.1, f e.2)).find? fun e => alike e.1 (.text key)) =
      (l.lookup key).map fun a => (.text key, f a) := by
  induction l with
  | nil => rfl
  | cons e l ih =>
    obtain ⟨k, a⟩ := e
    rw [List.map_cons, List.find?_cons, alike_text, List.lookup_cons, ih, Bool.beq_comm]
    cases hk : key == k with
    | true =>
      cases beq_iff_eq.mp hk
      rfl
    | false => rfl

/-- What the grants of a policy say is what it lists. -/
theorem allowed_grants (p : Policy) (type permission : String) :
    (Rules.grants p).allowed (.text type) permission =
      (((p.permissions.lookup type).bind (·.lookup permission)).getD []).eraseDups.map .text := by
  unfold Grants.allowed Rules.grants
  rw [find?_texts]
  cases p.permissions.lookup type with
  | none => rfl
  | some permissions =>
    simp only [Option.map_some, Option.bind_some]
    rw [find?_texts permissions fun authorities : List String => authorities.eraseDups.map Value.text]
    cases permissions.lookup permission <;> rfl

theorem mem_allowed_grants {p : Policy} {type permission authority : String} :
    (Grants.allowed (Rules.grants p) (.text type) permission).any (alike (.text authority)) = true ↔
      ∃ permissions authorities, p.permissions.lookup type = some permissions ∧
        permissions.lookup permission = some authorities ∧ authority ∈ authorities := by
  rw [allowed_grants, List.any_map, List.any_eq_true]
  simp only [Function.comp_apply, alike_text, beq_iff_eq, exists_eq_right', List.mem_eraseDups]
  cases p.permissions.lookup type with
  | none => simp
  | some permissions => cases hl : permissions.lookup permission <;> simp [hl]

theorem confers_none {implications : Implications} (h : implications.isEmpty = true) (a r : String) :
    Confers none a r ↔ implications.Reaches a r := by
  have himplies (b : String) : ¬implications.Implies b r := by
    rw [List.isEmpty_iff.mp h]
    exact List.not_mem_nil
  exact (Implications.reaches_unimplied himplies).symm

theorem confers_some {implications : Implications} {hierarchy : RoleHierarchy}
    (h : RoleHierarchy.ofImplications implications = .ok hierarchy) (a r : String) :
    Confers (some hierarchy) a r ↔ implications.Reaches a r := by
  change hierarchy.implications.Reaches a r ↔ _
  rw [RoleHierarchy.ofImplications_ok h]

/-- What a policy grants, it grants to whom it lists for the type and the permission as it is written. -/
theorem grantsAnswer_iff {p : Policy} {hierarchy : Option RoleHierarchy}
    (hc : ∀ a r, Confers hierarchy a r ↔ Implications.Reaches p.hierarchy a r) (who : Authentication) (type : String)
    {permission : Value} (hp : permission.tooLongToWrite = false) :
    ∃ b, PermissionEvaluator.grantsAnswer (Rules.grants p) hierarchy (some who) (.text type) permission = .ok b ∧
      (b = true ↔ p.Lists who type permission.shown) := by
  refine ⟨(grantedUnder hierarchy who.authorities).any fun authority =>
    ((Rules.grants p).allowed (.text type) permission.shown).any (alike (.text authority)), ?_, ?_⟩
  · unfold PermissionEvaluator.grantsAnswer
    rw [hp]
    rfl
  · rw [List.any_eq_true]
    simp only [mem_grantedUnder, hc, mem_allowed_grants]
    constructor
    · rintro ⟨authority, ⟨held, hheld, hreaches⟩, hlisted⟩
      exact ⟨held, hheld, authority, hreaches, hlisted⟩
    · rintro ⟨held, hheld, authority, hreaches, hlisted⟩
      exact ⟨authority, ⟨held, hheld, hreaches⟩, hlisted⟩

end Grants

namespace Policy

section Routing

variable {p : Policy} {evaluators : List (String × PermissionEvaluator σ)} {beans : Bindings}
  {send : Object → String → List Value → Bindings → Run σ Value} {h : Handler σ} {who : Option Authentication}
  {ctx : Context σ} {hierarchy : Option RoleHierarchy} {tag : String} {q : PermissionQuestion}

/-- The evaluator of a policy's handler. -/
def evaluator? (p : Policy) (evaluators : List (String × PermissionEvaluator σ))
    (hierarchy : Option RoleHierarchy) : Option (PermissionEvaluator σ) :=
  if evaluators.isEmpty then p.granted hierarchy else some (.delegating evaluators (p.granted hierarchy))

theorem handlerOf_ok (hh : Rules.handlerOf p evaluators beans send = .ok h) :
    ∃ hierarchy, (∀ a r, Confers hierarchy a r ↔ Implications.Reaches p.hierarchy a r) ∧
      h.evaluator = p.evaluator? evaluators hierarchy := by
  unfold Rules.handlerOf at hh
  dsimp only at hh
  split at hh
  next hempty =>
    obtain ⟨_, hnone, hh⟩ := except_bind_ok hh
    obtain ⟨_, _, hh⟩ := except_bind_ok hh
    cases hnone
    cases hh
    exact ⟨none, confers_none hempty, rfl⟩
  next =>
    obtain ⟨_, hhierarchy, hh⟩ := except_bind_ok hh
    obtain ⟨_, _, hh⟩ := except_bind_ok hh
    cases hh
    cases hread : RoleHierarchy.ofImplications p.hierarchy with
    | error =>
      rw [hread] at hhierarchy
      cases hhierarchy
    | ok hierarchy =>
      rw [hread] at hhierarchy
      cases hhierarchy
      exact ⟨some hierarchy, confers_some hread, rfl⟩

theorem evaluator?_some (hp : p.permissions ≠ [] ∨ evaluators ≠ []) (hierarchy : Option RoleHierarchy) :
    ∃ e, p.evaluator? evaluators hierarchy = some e := by
  unfold evaluator? granted
  cases hevaluators : evaluators.isEmpty with
  | false => exact ⟨_, rfl⟩
  | true =>
    have hpermissions : p.permissions ≠ [] := hp.resolve_right fun hne => hne (List.isEmpty_iff.mp hevaluators)
    rw [if_pos rfl, if_neg (mt List.isEmpty_iff.mp hpermissions)]
    exact ⟨_, rfl⟩

/-- A question about a tag that has an evaluator of its own is answered by that. -/
theorem answer_routed {e own : PermissionEvaluator σ} (he : p.evaluator? evaluators hierarchy = some e)
    (hown : evaluators.lookup tag = some own) (hq : PermissionEvaluator.PermissionQuestion.tag q = .text tag)
    (who : Option Authentication) : e.name = "DelegatingPermissionEvaluator" ∧ e.answer who q = own.answer who q := by
  have hevaluators : evaluators.isEmpty = false := by
    cases evaluators with
    | nil => cases hown
    | cons => rfl
  unfold evaluator? at he
  rw [hevaluators] at he
  cases he
  refine ⟨rfl, ?_⟩
  rw [PermissionEvaluator.answer, hq, PermissionEvaluator.answerRoute_lookup, hown]
  rfl

/-- A question about any other tag is answered by what is granted, and denied without that. -/
theorem answer_unrouted {e : PermissionEvaluator σ} (he : p.evaluator? evaluators hierarchy = some e)
    (hnone : evaluators.lookup tag = none) (hq : PermissionEvaluator.PermissionQuestion.tag q = .text tag) :
    e.answer who q = PermissionEvaluator.answerFallback who q (p.granted hierarchy) := by
  unfold evaluator? at he
  split at he
  next =>
    rw [he]
    rfl
  next =>
    cases he
    rw [PermissionEvaluator.answer, hq, PermissionEvaluator.answerRoute_lookup, hnone]
    rfl

theorem answer_byId (hp : p.permissions ≠ []) (who : Option Authentication) (id permission : Value) :
    PermissionEvaluator.answerFallback who (.byId id (.text tag) permission)
        (p.granted hierarchy : Option (PermissionEvaluator σ)) = (do
      return .bool (← Run.attempt
        (PermissionEvaluator.grantsAnswer (Rules.grants p) hierarchy who (.text tag) permission))) := by
  unfold granted
  rw [if_neg (mt List.isEmpty_iff.mp hp)]
  rfl

/-- What is granted answers a question about an id with a truth value, if the permission can be written. -/
theorem answer_granted (hc : ∀ a r, Confers hierarchy a r ↔ Implications.Reaches p.hierarchy a r)
    (who : Authentication) (id : Value) {permission : Value}
    (hp : p.permissions = [] ∨ permission.tooLongToWrite = false) :
    ∃ b, PermissionEvaluator.answerFallback (some who) (.byId id (.text tag) permission)
        (p.granted hierarchy : Option (PermissionEvaluator σ)) = pure (.bool b) ∧
      (b = true ↔ p.Lists who tag permission.shown) := by
  by_cases hempty : p.permissions = []
  · refine ⟨false, ?_, nofun, ?_⟩
    · unfold granted
      rw [hempty]
      rfl
    · rintro ⟨_, _, _, _, permissions, _, hlookup, _⟩
      rw [hempty] at hlookup
      cases hlookup
  · obtain ⟨b, hanswer, hb⟩ := grantsAnswer_iff hc who tag (hp.resolve_left hempty)
    refine ⟨b, ?_, hb⟩
    rw [answer_byId hempty, hanswer]
    rfl

/-- What is granted knows nothing of a permission that cannot be written. -/
theorem answer_unwritable (hp : p.permissions ≠ []) (who : Authentication) (id : Value) {permission : Value}
    (hwritten : permission.tooLongToWrite = true) :
    PermissionEvaluator.answerFallback (some who) (.byId id (.text tag) permission)
      (p.granted hierarchy : Option (PermissionEvaluator σ)) = throw (.operand .badValue) := by
  have hanswer : PermissionEvaluator.grantsAnswer (Rules.grants p) hierarchy (some who) (.text tag) permission =
      .error .badValue := by
    unfold PermissionEvaluator.grantsAnswer
    rw [hwritten]
    rfl
  rw [answer_byId hp, hanswer]
  rfl

theorem answer_object {target : Value} (hnull : target ≠ .null) (who : Option Authentication) (id permission : Value) :
    PermissionEvaluator.answerFallback who (.object target permission)
        (p.granted hierarchy : Option (PermissionEvaluator σ)) =
      PermissionEvaluator.answerFallback who (.byId id (.text target.typeTag) permission) (p.granted hierarchy) := by
  unfold granted
  split
  · rfl
  · cases target <;> first | rfl | exact absurd rfl hnull

theorem answer_null (who : Option Authentication) (permission : Value) :
    PermissionEvaluator.answerFallback who (.object .null permission)
      (p.granted hierarchy : Option (PermissionEvaluator σ)) = pure (.bool false) := by
  unfold granted
  split <;> rfl

theorem ask_congr (e : PermissionEvaluator σ) {args args' : List Value} {q q' : PermissionQuestion}
    (hq : PermissionQuestion.ofArgs? args = some q) (hq' : PermissionQuestion.ofArgs? args' = some q')
    (h : e.answer who q = e.answer who q') : e.ask who args = e.ask who args' := by
  unfold PermissionEvaluator.ask
  rw [hq, hq']
  dsimp only
  rw [h]

section Permits

variable {e : PermissionEvaluator σ} (hm : h.Makes who ctx) (hevaluator : h.evaluator = some e)
  (he : p.evaluator? evaluators hierarchy = some e)

include hm

theorem eval_hasPermission (source : String) (extra : Bindings) (args : List Expr) :
    Evaluation.eval ctx source extra (.call (.name "hasPermission") args []) =
      Evaluation.evalAll ctx source extra args >>= fun vs => liftM (ctx.permits vs) := by
  obtain ⟨more, hmore⟩ := hm.identifies.predicates
  have hfunction : ctx.function? "hasPermission" = some (.predicate .hasPermission) :=
    Context.function?_builtin (p := .hasPermission) hmore (by decide)
  simp only [Evaluation.eval, hfunction]
  rfl

include hevaluator

theorem permits_eq (args : List Value) : ctx.permits args = Value.bool <$> e.ask (some (caller who)) args := by
  obtain ⟨request, hdecide⟩ := hm.identifies.decide
  have hsubject : (h.subject who).evaluator = some e := hevaluator
  change ctx.decide .hasPermission args [] = _
  rw [hdecide]
  simp only [Subject.decide, hsubject]
  rfl

include he

theorem permits_routed {own : PermissionEvaluator σ} {args : List Value} (hown : evaluators.lookup tag = some own)
    (hq : PermissionQuestion.ofArgs? args = some q) (htag : PermissionEvaluator.PermissionQuestion.tag q = .text tag)
    (s : σ) :
    (ctx.permits args).outcome s = PermissionEvaluator.routed ((own.answer (some (caller who)) q).outcome s) := by
  obtain ⟨hname, hanswer⟩ := answer_routed he hown htag (some (caller who))
  rw [permits_eq hm hevaluator, Run.outcome_map, e.outcome_ask _ hq, hname, hanswer]
  rfl

theorem permits_listed (hc : ∀ a r, Confers hierarchy a r ↔ Implications.Reaches p.hierarchy a r)
    (hnone : evaluators.lookup tag = none) (id : Value) {permission : Value}
    (hwritten : p.permissions = [] ∨ permission.tooLongToWrite = false) :
    ∃ b, ctx.permits [id, .text tag, permission] = pure (.bool b) ∧
      (b = true ↔ p.Lists (caller who) tag permission.shown) := by
  obtain ⟨b, hanswer, hb⟩ := answer_granted hc (caller who) id hwritten
  refine ⟨b, ?_, hb⟩
  rw [permits_eq hm hevaluator, PermissionEvaluator.ask_of_answer rfl ((answer_unrouted he hnone rfl).trans hanswer)]
  rfl

theorem permits_unwritable (hnone : evaluators.lookup tag = none) (hp : p.permissions ≠ []) (id : Value)
    {permission : Value} (hwritten : permission.tooLongToWrite = true) :
    ctx.permits [id, .text tag, permission] = throw (.permission (.failed e.name (.operand .badValue))) := by
  have hanswer := (answer_unrouted (q := .byId id (.text tag) permission) he hnone rfl).trans
    (answer_unwritable hp (caller who) id hwritten)
  rw [permits_eq hm hevaluator]
  unfold PermissionEvaluator.ask
  dsimp only [PermissionQuestion.ofArgs?]
  rw [hanswer]
  rfl

theorem permits_object {target : Value} (hnull : target ≠ .null) (hnone : evaluators.lookup target.typeTag = none)
    (id permission : Value) :
    ctx.permits [target, permission] = ctx.permits [id, .text target.typeTag, permission] := by
  rw [permits_eq hm hevaluator, permits_eq hm hevaluator]
  refine congrArg _ (ask_congr e rfl rfl ?_)
  rw [answer_unrouted he hnone rfl, answer_unrouted he hnone rfl]
  exact answer_object hnull _ id permission

theorem permits_null (hnone : evaluators.lookup Value.null.typeTag = none) (permission : Value) :
    ctx.permits [.null, permission] = pure (.bool false) := by
  rw [permits_eq hm hevaluator,
    PermissionEvaluator.ask_of_answer rfl ((answer_unrouted he hnone rfl).trans (answer_null _ _))]
  rfl

end Permits

end Routing

/-- Under every policy with permissions or evaluators, the evaluator that is registered for a tag answers all
questions about it, and the policy's permissions answer the others, for objects as for their tags. -/
theorem permissions_routed (p : Policy) (evaluators : List (String × PermissionEvaluator σ)) (beans : Bindings)
    (send : Object → String → List Value → Bindings → Run σ Value) {h : Handler σ}
    (hh : Rules.handlerOf p evaluators beans send = .ok h) (hp : p.permissions ≠ [] ∨ evaluators ≠ [])
    {who : Option Authentication} {ctx : Context σ} (hm : h.Makes who ctx) :
    p.Answers evaluators (caller who) ctx := by
  obtain ⟨hierarchy, hc, hevaluator⟩ := handlerOf_ok hh
  obtain ⟨e, he⟩ := evaluator?_some hp hierarchy
  rw [he] at hevaluator
  exact {
    asks := eval_hasPermission hm
    routed := fun _ _ hown _ _ => permits_routed hm hevaluator he hown rfl rfl
    routedObject := fun _ _ hown _ => permits_routed hm hevaluator he hown rfl rfl
    listed := fun _ hnone id _ => permits_listed hm hevaluator he hc hnone id
    unwritable := fun _ hnone id _ hpermissions hwritten =>
      ⟨e.name, permits_unwritable hm hevaluator he hnone hpermissions id hwritten⟩
    objects := fun _ hnull hnone => permits_object hm hevaluator he hnull hnone
    missing := permits_null hm hevaluator he }

end Policy

section Shelves

/-- Editors are users, and users may read documents. -/
def shelves : Policy where
  hierarchy := [("ROLE_EDITOR", ["ROLE_USER"])]
  permissions := [("Document", [("read", ["ROLE_USER"])])]

/-- Anybody may do anything to folders. -/
def folders : List (String × PermissionEvaluator Unit) :=
  [("Folder", .lent "FolderEvaluator" fun _ _ => pure (.bool true))]

def editor : Authentication where
  name := some "kim"
  principal := .text "kim"
  authorities := ["ROLE_EDITOR"]
  anonymous := false
  rememberMe := false
  details := []

theorem shelves_ok (evaluators : List (String × PermissionEvaluator Unit)) :
    ∃ h, Rules.handlerOf shelves evaluators [] (fun _ _ _ _ => pure .null) = .ok h :=
  ⟨_, rfl⟩

theorem shelves_lists : shelves.Lists editor "Document" "read" :=
  ⟨"ROLE_EDITOR", List.mem_singleton_self _, "ROLE_USER", .single (List.mem_singleton_self _), _, _, rfl, rfl,
    List.mem_singleton_self _⟩

/-- An editor may read documents but not write them, and may write folders. -/
theorem shelves_routed :
    ∃ h, Rules.handlerOf shelves folders [] (fun _ _ _ _ => pure .null) = .ok h ∧
      ∃ ctx, h.Makes (some editor) ctx ∧
        ctx.permits [.int 1, .text "Document", .text "read"] = pure (.bool true) ∧
        ctx.permits [.int 1, .text "Document", .text "write"] = pure (.bool false) ∧
        (ctx.permits [.int 1, .text "Folder", .text "write"]).outcome () = (.ok (.bool true), ()) := by
  obtain ⟨h, hh⟩ := shelves_ok folders
  have hm : h.Makes (some editor) (h.commonContext (some editor)) := .common
  have hroutes := Policy.permissions_routed shelves folders [] _ hh (.inl (List.cons_ne_nil _ _)) hm
  obtain ⟨_, hread, hreads⟩ := hroutes.listed "Document" rfl (.int 1) (.text "read") (.inr rfl)
  obtain ⟨b, hwrite, hwrites⟩ := hroutes.listed "Document" rfl (.int 1) (.text "write") (.inr rfl)
  refine ⟨h, hh, _, hm, ?_, ?_, hroutes.routed "Folder" _ rfl (.int 1) (.text "write") ()⟩
  · cases hreads.mpr shelves_lists
    exact hread
  · cases b with
    | false => exact hwrite
    | true =>
      obtain ⟨_, _, _, _, _, _, htype, hpermission, _⟩ := hwrites.mp rfl
      cases htype
      cases hpermission

/-- A type that is not listed is not denied for a number that is too long to write: the question fails. -/
theorem shelves_unanswered :
    ∃ h, Rules.handlerOf shelves ([] : List (String × PermissionEvaluator Unit)) [] (fun _ _ _ _ => pure .null) =
        .ok h ∧ shelves.permissions.lookup "Folder" = none ∧
      (h.commonContext none).permits [.int 1, .text "Folder", .int writtenBound] =
        throw (.permission (.failed "RolePermissionEvaluator" (.operand .badValue))) := by
  obtain ⟨h, hh⟩ := shelves_ok []
  obtain ⟨hierarchy, _, hevaluator⟩ := Policy.handlerOf_ok hh
  have hlong : (Value.int writtenBound).tooLongToWrite = true := by
    rw [Value.tooLongToWrite, Int.natAbs_natCast]
    exact decide_eq_true (Nat.le_refl _)
  have he : shelves.evaluator? ([] : List (String × PermissionEvaluator Unit)) hierarchy =
      some (.byRole (Rules.grants shelves) hierarchy) := rfl
  exact ⟨h, hh, rfl, Policy.permits_unwritable .common (hevaluator.trans he) he rfl (List.cons_ne_nil _ _) (.int 1) hlong⟩

end Shelves

end AccessPolicy
