import AccessPolicy.Proofs.Builtins
import AccessPolicy.Proofs.Protected

/-!
Guards as decisions. Where a guard comes to a truth value in any case, asking it, demanding it before a call
and filtering by it is the same as computing that truth value.
-/

namespace AccessPolicy

variable {σ α β : Type}

/-- Whether a guard comes to the truth value that a computation finds, and fails as it does. -/
def Guard.Decides (g : Guard) (ctx : Context σ) (x : Run σ Bool) : Prop :=
  g.evaluate ctx = Value.bool <$> x

namespace Guard.Decides

variable {g : Guard} {ctx : Context σ} {x : Run σ Bool}

theorem allows (h : g.Decides ctx x) : g.allows ctx = x := by
  unfold Guard.allows
  rw [show g.evaluate ctx = _ from h, bind_map_left]
  conv_rhs => rw [← bind_pure x]
  congr 1
  funext b
  cases b <;> rfl

/-- What is done once a guard lets the caller pass is done where the truth value is found true. -/
theorem demand_then (h : g.Decides ctx x) (y : Run σ α) :
    (do Attachment.demand ctx (some g); y) = (do if ← x then y else throw .accessDenied) := by
  simp only [Attachment.demand, h.allows, bind_assoc]
  congr 1
  funext b
  cases b <;> rfl

theorem of_means {source label : String} {p : Plain} (h : p.Means ctx source (Value.bool <$> x))
    (hx : x.FailsOnly fun f => f.isOwn = true) : (Guard.mk source label p.expr).Decides ctx x :=
  Guard.evaluate_eq h (hx.map _)

theorem of_means_pure {source label : String} {p : Plain} {b : Bool}
    (h : p.Means ctx source (pure (.bool b))) : (Guard.mk source label p.expr).Decides ctx (pure b) :=
  of_means (by rwa [map_pure]) (.pure b)

end Guard.Decides

theorem keepM_map {keep : α → Run σ Bool} {f : β → Bool} {g : β → α} {bs : List β}
    (h : ∀ b, keep (g b) = pure (f b)) : keepM keep (bs.map g) = pure ((bs.filter f).map g) := by
  induction bs with
  | nil => rfl
  | cons b bs ih =>
    simp only [List.map_cons, keepM, h, ih, pure_bind, List.filter_cons]
    cases f b <;> rfl

theorem Guard.filter_list {g : Guard} {ctx : Context σ} {f : β → Bool} {v : β → Value} {bs : List β}
    (h : ∀ b, g.Decides (ctx.withVariables [(elementName, v b)]) (pure (f b))) :
    g.filter ctx (.list (bs.map v)) = pure (.list ((bs.filter f).map v)) := by
  let keep (element : Value) : Run σ Bool := g.allows (ctx.withVariables [(elementName, element)])
  have hkeep : keepM keep (bs.map v) = pure ((bs.filter f).map v) := keepM_map fun b => (h b).allows
  change (do let kept ← keepM keep (bs.map v); return Value.list kept : Run σ Value) = _
  rw [hkeep, pure_bind]

theorem Guard.filter_dict {g : Guard} {ctx : Context σ} {f : β → Bool} {k v : β → Value} {bs : List β}
    (h : ∀ b, g.Decides (ctx.withVariables [(elementName, .entry (k b) (v b))]) (pure (f b))) :
    g.filter ctx (.dict (bs.map fun b => (k b, v b))) = pure (.dict ((bs.filter f).map fun b => (k b, v b))) := by
  let keep (e : Value × Value) : Run σ Bool := g.allows (ctx.withVariables [(elementName, .entry e.1 e.2)])
  have hkeep : keepM keep (bs.map fun b => (k b, v b)) = pure ((bs.filter f).map fun b => (k b, v b)) :=
    keepM_map fun b => (h b).allows
  change (do let kept ← keepM keep (bs.map fun b => (k b, v b)); return Value.dict kept : Run σ Value) = _
  rw [hkeep, pure_bind]

namespace Handler

variable {h : Handler σ} {who : Option Authentication} {ctx : Context σ} {source : String}

/-- Whoever calls, or nobody in particular. -/
def caller (who : Option Authentication) : Authentication := who.getD Authentication.anonymousUser

theorem Identifies.function? (hc : h.Identifies who ctx) {p : Predicate} (hp : p ∈ Predicate.common) :
    ctx.function? p.name = some (.predicate p) := by
  obtain ⟨more, hmore⟩ := hc.predicates
  exact Context.function?_builtin hmore hp

theorem Identifies.withElement (hc : h.Identifies who ctx) (item : Value) :
    h.Identifies who (ctx.withVariables [(elementName, item)]) := by
  refine ⟨?_, hc.predicates, hc.decide, hc.send⟩
  intro n hn
  rw [Context.lookup_withElement, if_neg, hc.values n hn]
  rintro rfl
  exact not_common_of_special elementName (by decide) hn

theorem fullyAuthenticated_caller (who : Option Authentication) :
    (Trust.of (some (caller who))).fullyAuthenticated = (caller who).isFullyAuthenticated := by
  simp only [Trust.of, Authentication.isFullyAuthenticated]
  cases (caller who).anonymous <;> simp

theorem means_isFullyAuthenticated (hc : h.Identifies who ctx) :
    (Plain.ask "isFullyAuthenticated" []).Means ctx source (pure (.bool (caller who).isFullyAuthenticated)) := by
  obtain ⟨request, hr⟩ := hc.decide
  have hm : (Plain.ask "isFullyAuthenticated" []).Means ctx source _ :=
    Plain.means_ask (hc.function? (p := .isFullyAuthenticated) (by decide)) .nil
  rw [hr] at hm
  rw [← fullyAuthenticated_caller]
  exact hm

theorem means_isAuthenticated (hc : h.Identifies who ctx) :
    (Plain.ask "isAuthenticated" []).Means ctx source (pure (.bool (caller who).isAuthenticated)) := by
  obtain ⟨request, hr⟩ := hc.decide
  have hm : (Plain.ask "isAuthenticated" []).Means ctx source _ :=
    Plain.means_ask (hc.function? (p := .isAuthenticated) (by decide)) .nil
  rw [hr] at hm
  exact hm

theorem means_hasRole (hc : h.Identifies who ctx) {role : String} (hrole : role.length ≤ maxLength) :
    (Plain.ask "hasRole" [.text role]).Means ctx source
      (pure (.bool ((h.subject who).holdsAny h.rolePrefix [.text role]))) := by
  obtain ⟨request, hr⟩ := hc.decide
  have hm : (Plain.ask "hasRole" [.text role]).Means ctx source _ :=
    Plain.means_ask (hc.function? (p := .hasRole) (by decide)) (.cons (Atom.denotes_text hrole) .nil)
  rw [hr] at hm
  exact hm

theorem means_hasPermission (hc : h.Identifies who ctx) {e : PermissionEvaluator σ} (he : h.evaluator = some e)
    {args : List Atom} {vs : List Value} (hargs : List.Forall₂ (Atom.Denotes ctx source) args vs) :
    (Plain.ask "hasPermission" args).Means ctx source (Value.bool <$> e.ask (some (caller who)) vs) := by
  obtain ⟨request, hr⟩ := hc.decide
  have hm : (Plain.ask "hasPermission" args).Means ctx source _ :=
    Plain.means_ask (hc.function? (p := .hasPermission) (by decide)) hargs
  rw [hr] at hm
  simp only [Subject.decide, Subject.unnamed, List.isEmpty_nil, ↓reduceIte, pure_bind, subject, he] at hm
  rw [map_eq_pure_bind]
  exact hm

/-- An argument of a call is had by its name, unless the name is kept for something else. -/
theorem lookup_argument {arguments : Bindings} {this returned : Option Value} {n : String} {v : Value}
    (hnames : (Bindings.names arguments).Nodup) (hn : n ∉ commonVariables) (hspecial : n ∉ specialNames)
    (hv : arguments.lookup n = some v) :
    (h.methodContext who arguments this returned).bindings.lookup n = some v := by
  refine lookup_contextOver ?_ ?_
  · exact Bindings.nodup_updated (Bindings.nodup_updated (Bindings.nodup_updated hnames))
  · rw [Bindings.lookup_updated_of_not_mem, Bindings.lookup_updated_of_not_mem, Bindings.lookup_updated_of_not_mem]
    · exact hv
    · rwa [names_subject]
    · exact fun hm => hspecial (target_names hm ▸ by decide)
    · exact fun hm => hspecial (result_names hm ▸ by decide)

/-- A variable of a path is had by its name, unless the name is kept for something else. -/
theorem lookup_pathVariable {request : Value} {vars : Bindings} {n : String} {v : Value}
    (hnames : (Bindings.names vars).Nodup) (hn : n ∉ commonVariables) (hrequest : n ≠ "request")
    (hv : vars.lookup n = some v) : (h.webContext who request vars).bindings.lookup n = some v := by
  refine lookup_contextOver ?_ ?_
  · exact Bindings.nodup_updated (Bindings.nodup_updated hnames)
  · rw [Bindings.lookup_updated_of_not_mem, Bindings.lookup_updated_of_not_mem]
    · exact hv
    · rwa [names_subject]
    · exact fun hm => hrequest (List.mem_singleton.mp hm)

theorem means_hasIpAddress {request : Value} {vars : Bindings} {range : String} {x : Bool}
    (hrange : range.length ≤ maxLength) (hx : isFrom request (.text range) = .ok x) :
    (Plain.ask "hasIpAddress" [.text range]).Means (h.webContext who request vars) source (pure (.bool x)) := by
  have hpredicate : (h.webContext who request vars).function? "hasIpAddress" = some (.predicate .hasIpAddress) := by
    have hfind : (Predicate.common ++ [Predicate.hasIpAddress]).find? (fun q => q.name == "hasIpAddress") =
        some .hasIpAddress := by decide +kernel
    unfold Context.function? webContext contextOver
    rw [hfind]
  have hm : (Plain.ask "hasIpAddress" [.text range]).Means (h.webContext who request vars) source _ :=
    Plain.means_ask (q := .hasIpAddress) hpredicate (.cons (Atom.denotes_text hrange) .nil)
  have hdecide : (h.webContext who request vars).decide .hasIpAddress [.text range] [] = pure (.bool x) := by
    change (h.subject who).decide request .hasIpAddress [.text range] [] = _
    simp only [Subject.decide, Subject.oneArgument, pure_bind, hx]
  rwa [hdecide] at hm

end Handler

end AccessPolicy
