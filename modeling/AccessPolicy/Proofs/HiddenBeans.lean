import AccessPolicy.Proofs.Accepted
import AccessPolicy.Proofs.Builtins

/-!
Beans and what callers supply. Path variables and arguments share one space of names with the beans, and where
they have the name of a bean they hide it: the name then stands for what the caller supplied. All other beans
that an accepted guard reads are those of its handler.
-/

namespace AccessPolicy

variable {σ : Type}

theorem Context.Denotes.unique {ctx : Context σ} {n : String} {v w : Value} (hv : ctx.Denotes n v)
    (hw : ctx.Denotes n w) (s : σ) : v = w := by
  have h := (hv "" [] rfl).symm.trans (hw "" [] rfl)
  have hout := congrArg (fun x => (Evaluation.outcome x 0 s).1) h
  exact congrArg Prod.fst (Except.ok.inj hout)

namespace Handler

variable {h : Handler σ}

/-- A context in which the beans go before the variables of their names. -/
def beansFirst (h : Handler σ) (ctx : Context σ) : Context σ :=
  { ctx with bindings := h.beans.entries ++ ctx.bindings }

theorem lookup_beansFirst (ctx : Context σ) (n : String) :
    (h.beansFirst ctx).bindings.lookup n = (h.beans.get? n).or (ctx.bindings.lookup n) :=
  List.lookup_append

theorem bean_not_reserved {n : String} (hn : n ∈ h.beans.names) : n ∉ reservedNames := by
  intro hr
  have hmem : n ∈ h.beans.names.filter reservedNames.contains :=
    List.mem_filter.mpr ⟨hn, List.contains_iff_mem.mpr hr⟩
  rw [show h.beans.names.filter reservedNames.contains = [] from h.beans.notReserved] at hmem
  cases hmem

/-- What a name stands for that is not reserved: what the caller supplied under it, or else a bean. -/
theorem lookup_webContext {who : Option Authentication} {request : Value} {supplied : Bindings} {n : String}
    (hnames : (Bindings.names supplied).Nodup) (hn : n ∉ reservedNames) :
    (h.webContext who request supplied).bindings.lookup n = (supplied.lookup n).or (h.beans.get? n) := by
  have hrequest : n ∉ Bindings.names [("request", request)] := by
    intro hmem
    obtain rfl : n = "request" := List.mem_singleton.mp hmem
    exact hn (by decide)
  have hidentity : n ∉ Bindings.names (h.subject who).bindings := by
    rw [names_subject]
    exact fun hmem => hn (List.mem_append_left _ (List.mem_append_right _ hmem))
  simp only [webContext, contextOver]
  rw [Bindings.lookup_updated (Bindings.nodup_updated (Bindings.nodup_updated hnames)),
    Bindings.lookup_updated_of_not_mem hrequest, Bindings.lookup_updated_of_not_mem hidentity]
  rfl

theorem lookup_methodContext {who : Option Authentication} {supplied : Bindings} {this returned : Option Value}
    {n : String} (hnames : (Bindings.names supplied).Nodup) (hn : n ∉ reservedNames) :
    (h.methodContext who supplied this returned).bindings.lookup n =
      (supplied.lookup n).or (h.beans.get? n) := by
  have hidentity : n ∉ Bindings.names (h.subject who).bindings := by
    rw [names_subject]
    exact fun hmem => hn (List.mem_append_left _ (List.mem_append_right _ hmem))
  simp only [methodContext, contextOver]
  rw [Bindings.lookup_updated (Bindings.nodup_updated (Bindings.nodup_updated (Bindings.nodup_updated hnames))),
    Bindings.lookup_updated_of_not_mem, Bindings.lookup_updated_of_not_mem,
    Bindings.lookup_updated_of_not_mem hidentity]
  · rfl
  · intro hmem
    rw [target_names hmem] at hn
    exact hn (by decide)
  · intro hmem
    rw [result_names hmem] at hn
    exact hn (by decide)

end Handler

/-- Whether the beans of a context are those of a handler, but for the names under which a caller supplied
something. -/
structure Context.Lends (ctx : Context σ) (h : Handler σ) (supplied : Bindings) : Prop where
  lookup : ∀ n ∈ h.beans.names, ctx.bindings.lookup n = (supplied.lookup n).or (h.beans.get? n)

namespace Context.Lends

variable {h : Handler σ} {ctx : Context σ} {supplied : Bindings}

theorem withElement (hc : ctx.Lends h supplied) (item : Value) :
    (ctx.withVariables [(elementName, item)]).Lends h supplied := by
  refine ⟨fun n hn => ?_⟩
  rw [Context.lookup_withElement, if_neg, hc.lookup n hn]
  rintro rfl
  exact Handler.bean_not_reserved hn (by decide)

theorem lookup_free (hc : ctx.Lends h supplied) {n : String} (hn : n ∈ h.beans.names)
    (hfree : n ∉ Bindings.names supplied) : ctx.bindings.lookup n = h.beans.get? n := by
  rw [hc.lookup n hn, Bindings.lookup_eq_none.mpr hfree]
  rfl

/-- Where no bean that a guard asks for is hidden, the guard is evaluated as if beans could not be hidden. -/
theorem evaluate_eq (hc : ctx.Lends h supplied) {g : Guard}
    (hg : ∀ n, .value n ∈ g.expr.demands → n ∈ h.beans.names → n ∉ Bindings.names supplied) :
    g.evaluate ctx = g.evaluate (h.beansFirst ctx) := by
  have hf : ctx.SameFunctions (h.beansFirst ctx) := ⟨rfl, rfl, rfl⟩
  refine Guard.evaluate_congr hf g fun n hn => ?_
  rw [Handler.lookup_beansFirst]
  cases hb : h.beans.get? n with
  | none => rfl
  | some v =>
    have hmem : n ∈ h.beans.names := Bindings.mem_of_lookup hb
    rw [hc.lookup_free hmem (hg n hn hmem), hb]
    rfl

end Context.Lends

theorem Binder.pair_distinct {c : Callable} {names more : List (String × String)}
    {found : List (Parameter × Option String)} (h : Binder.pair c names found = .ok more)
    (hnames : (names.map Prod.fst).Nodup) : (more.map Prod.fst).Nodup := by
  induction found generalizing names with
  | nil =>
    cases h
    exact hnames
  | cons f found ih =>
    obtain ⟨p, n⟩ := f
    cases n with
    | none => exact ih h hnames
    | some n =>
      simp only [pair] at h
      split at h
      next => cases h
      next hnone =>
        refine ih h ?_
        have hnew : n ∉ names.map Prod.fst := by
          intro hmem
          obtain ⟨e, he, rfl⟩ := List.mem_map.mp hmem
          simpa using List.lookup_eq_none_iff.mp hnone e he
        rw [List.map_append, List.nodup_append]
        refine ⟨hnames, List.pairwise_singleton _ n, ?_⟩
        rintro m hm _ hmem rfl
        obtain rfl : m = n := List.mem_singleton.mp hmem
        exact hnew hm

theorem Binder.nodup_bindings {rs : List NameResolver} {c : Callable} {b : Binder} (hb : Binder.of rs c = .ok b)
    (args : Arguments) : (Bindings.names (b.bindings args)).Nodup := by
  have hnames : (b.names.map Prod.fst).Nodup := by
    unfold Binder.of at hb
    split at hb
    next => cases hb
    next =>
      obtain ⟨_, _, hb⟩ := except_bind_ok hb
      obtain ⟨names, hp, hb⟩ := except_bind_ok hb
      cases hb
      exact pair_distinct hp List.nodup_nil
  refine hnames.sublist ?_
  unfold bindings Bindings.names
  induction b.names with
  | nil => exact .slnil
  | cons e names ih =>
    cases hv : args.lookup e.2 with
    | none =>
      rw [List.filterMap_cons_none (by simp [hv])]
      exact ih.cons e.1
    | some v =>
      rw [List.filterMap_cons_some (b := (e.1, v)) (by simp [hv])]
      exact ih.cons_cons e.1

theorem Rules.pathVariables_distinct {h : Handler σ} {p : Policy} {rs : Routes} (hrs : routesOf h p = .ok rs)
    (path method : String) : ((rs.find path method).pathVariables.map Prod.fst).Nodup := by
  rcases rs.find_cases path method with hf | ⟨r, hr, _, hvariables⟩
  · rw [hf]
    exact List.nodup_nil
  · obtain ⟨i, rule, _, hcompiled⟩ := routesOf_mem hrs hr
    rcases hvariables with ⟨hnone, _⟩ | hmatch
    · rw [hnone]
      exact List.nodup_nil
    · rw [hcompiled.match?_eq] at hmatch
      rw [PathTemplate.fit?_names hmatch]
      exact hcompiled.distinct

namespace Protocol

variable {h : Handler σ} {a : Attachment} {this : Option Value} {who : Option Authentication}

theorem Consults.lends {send : Object → String → List Value → Bindings → Run σ Value} {p : Phase} {slot : Slot}
    {ctx : Context σ} (hc : Consults (h.answering send) a this who p slot ctx) {args : Arguments}
    (hargs : p.arguments? = some args) (hnames : (Bindings.names (a.binder.bindings args)).Nodup) :
    ctx.Lends h (a.binder.bindings args) := by
  have hcall (returned : Option Value) :
      (a.context (h.answering send) this who args returned).Lends h (a.binder.bindings args) :=
    ⟨fun n hn => Handler.lookup_methodContext (h := h.answering send) hnames (Handler.bean_not_reserved hn)⟩
  cases hc with
  | preAuthorize | postAuthorize =>
    cases hargs
    exact hcall _
  | preFilter | postFilter =>
    cases hargs
    exact (hcall _).withElement _

end Protocol

/-- The evaluations that are made of the guards that a handler accepted, with what the caller supplied under
names of its own: the arguments of the call that is under way, or the variables of the request's path. -/
inductive EvaluatedWith (h : Handler σ) : Guard → Context σ → Bindings → Prop
  | inCall {rs : List NameResolver} {c : Callable} {slots : Slots} {hasTarget : Bool} {a : Attachment}
      {this : Option Value} {who : Option Authentication}
      {send : Object → String → List Value → Bindings → Run σ Value} {p : Protocol.Phase} {args : Arguments}
      {slot : Slot} {g : Guard} {ctx : Context σ} :
      Attachment.of h rs c slots hasTarget = .ok a →
      p.arguments? = some args →
      Protocol.Consults (h.answering send) a this who p slot ctx →
      a.guard? slot = some g → EvaluatedWith h g ctx (a.binder.bindings args)
  | forRequest {policy : Policy} {routes : Routes} {credentials : CredentialNames} {path method : String}
      {send : Object → String → List Value → Bindings → Run σ Value} {who : Option Authentication}
      {request : Value} :
      Rules.routesOf h policy = .ok routes →
      EvaluatedWith h (routes.find path method).guard
        (Rules.context ⟨credentials, h.answering send, routes⟩ who request (routes.find path method))
        ((routes.find path method).pathVariables.map fun e => (e.1, .text e.2))

theorem EvaluatedWith.lends {h : Handler σ} {g : Guard} {ctx : Context σ} {supplied : Bindings}
    (he : EvaluatedWith h g ctx supplied) : ctx.Lends h supplied := by
  cases he with
  | inCall ha hargs hc _ =>
    obtain ⟨hbinder, _⟩ := Attachment.of_ok ha
    exact hc.lends hargs (Binder.nodup_bindings hbinder _)
  | @forRequest _ routes _ path method send _ _ hroutes =>
    have hnames : (Bindings.names ((routes.find path method).pathVariables.map fun e =>
        (e.1, Value.text e.2))).Nodup := by
      have hdistinct := Rules.pathVariables_distinct hroutes path method
      rwa [Bindings.names, List.map_map]
    exact ⟨fun n hn => Handler.lookup_webContext (h := h.answering send) hnames (Handler.bean_not_reserved hn)⟩

/-- In every evaluation of an accepted guard the name of a bean stands for the bean, unless the caller supplies
something under that name: then it stands for what the caller supplied. A guard that asks for no bean with such
a name is evaluated as if no bean could be hidden. -/
theorem bean_denoted_unless_hidden (h : Handler σ) {g : Guard} {ctx : Context σ} {supplied : Bindings}
    (he : EvaluatedWith h g ctx supplied) :
    (∀ n v, h.beans.get? n = some v →
      (n ∉ Bindings.names supplied → ctx.Denotes n v) ∧
      (∀ w, supplied.lookup n = some w → ctx.Denotes n w)) ∧
    ((∀ n, .value n ∈ g.expr.demands → n ∈ h.beans.names → n ∉ Bindings.names supplied) →
      g.evaluate ctx = g.evaluate (h.beansFirst ctx)) := by
  have hlends := he.lends
  refine ⟨fun n v hv => ⟨fun hfree => ?_, fun w hw => ?_⟩, hlends.evaluate_eq⟩
  · apply Context.denotes_of_lookup
    rw [hlends.lookup_free (Bindings.mem_of_lookup hv) hfree, hv]
  · apply Context.denotes_of_lookup
    rw [hlends.lookup n (Bindings.mem_of_lookup hv), hw]
    rfl

/-- A handler with a bean that lists the members of the staff. -/
def staffHandler : Handler Unit where
  beans := ⟨[("staff", .list [.text "carol"])], by decide, by decide⟩
  send _ _ _ _ := throw (.operand .wrongType)

/-- A policy whose only rule asks whether the caller is of the staff. Its path has the given template. -/
def staffPolicy (path : String) : Policy where
  default := .plain "denyAll"
  routes := [⟨path, ["get"], .plain "authentication.name in staff"⟩]

def callerNamed (name : String) : Authentication :=
  .of name [] .null false []

theorem staff_denoted_for_team :
    ∃ routes, Rules.routesOf staffHandler (staffPolicy "/teams/\x7bteam\x7d") = .ok routes ∧
      (Rules.context ⟨{}, staffHandler, routes⟩ (some (callerNamed "carol")) .null
        (routes.find "/teams/red" "GET")).Denotes "staff" (.list [.text "carol"]) := by
  have hfind : ((Rules.routesOf staffHandler (staffPolicy "/teams/\x7bteam\x7d")).toOption.map fun routes =>
      (routes.find "/teams/red" "GET").pathVariables) = some [("team", "red")] := by
    decide +kernel
  obtain ⟨routes, hroutes, hvariables⟩ := Option.map_eq_some_iff.mp hfind
  have hroutes := except_ok_of_toOption hroutes
  refine ⟨routes, hroutes, ?_⟩
  have he : EvaluatedWith staffHandler _ (Rules.context ⟨{}, staffHandler.answering staffHandler.send, routes⟩
      (some (callerNamed "carol")) .null (routes.find "/teams/red" "GET")) _ := .forRequest hroutes
  refine ((bean_denoted_unless_hidden staffHandler he).1 "staff" _ rfl).1 ?_
  rw [hvariables]
  decide

/-- A bean is hidden by what a path has in its place: anyone is of the staff who says so in the path. -/
theorem staff_hidden_by_path :
    ∃ routes, Rules.routesOf staffHandler (staffPolicy "/teams/\x7bstaff\x7d") = .ok routes ∧
      staffHandler.beans.get? "staff" = some (.list [.text "carol"]) ∧
      ∃ ctx, ctx = Rules.context ⟨{}, staffHandler, routes⟩ (some (callerNamed "mallory")) .null
          (routes.find "/teams/mallory" "GET") ∧
        ctx.Denotes "staff" (.text "mallory") ∧ ¬ ctx.Denotes "staff" (.list [.text "carol"]) ∧
        ((((routes.find "/teams/mallory" "GET").guard.allows ctx).outcome ()).1.toOption = some true) ∧
        ((((routes.find "/teams/mallory" "GET").guard.allows (staffHandler.beansFirst ctx)).outcome ()).1.toOption =
          some false) := by
  have hfind : ((Rules.routesOf staffHandler (staffPolicy "/teams/\x7bstaff\x7d")).toOption.map fun routes =>
      let m := routes.find "/teams/mallory" "GET"
      let ctx := Rules.context ⟨{}, staffHandler, routes⟩ (some (callerNamed "mallory")) .null m
      (m.pathVariables, ((m.guard.allows ctx).outcome ()).1.toOption,
        ((m.guard.allows (staffHandler.beansFirst ctx)).outcome ()).1.toOption)) =
      some ([("staff", "mallory")], some true, some false) := by
    decide +kernel
  obtain ⟨routes, hroutes, hfind⟩ := Option.map_eq_some_iff.mp hfind
  simp only [Prod.mk.injEq] at hfind
  obtain ⟨hvariables, hallowed, hrefused⟩ := hfind
  refine ⟨routes, except_ok_of_toOption hroutes, rfl, _, rfl, ?_⟩
  have hhidden : (Rules.context ⟨{}, staffHandler, routes⟩ (some (callerNamed "mallory")) .null
      (routes.find "/teams/mallory" "GET")).Denotes "staff" (.text "mallory") := by
    apply Context.denotes_of_lookup
    simp only [Rules.context, hvariables]
    rfl
  exact ⟨hhidden, fun hbean => absurd (hhidden.unique hbean ()) (by simp), hallowed, hrefused⟩

end AccessPolicy
