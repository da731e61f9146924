import AccessPolicy.Proofs.Faults
import AccessPolicy.Proofs.KnownNames

/-!
Guards that fail for want of nothing. Every name that such a guard reads has a value in the context that it
is evaluated in, and if it asks for permissions then there is an evaluator; it can still fail with what the
calls that it makes fail with.
-/

namespace AccessPolicy

variable {σ : Type}

/-- Whether a failure tells that a name has no value, or that there is no permission evaluator. -/
def Failure.isWant : Failure → Prop
  | .expression (.nameNotDefined ..) | .configuration .noPermissionEvaluator => True
  | _ => False

theorem Failure.not_isWant {f : Failure} (h : f.isPlain) : ¬ f.isWant := by
  intro hw
  unfold isWant at hw
  split at hw
  · cases h
  · cases h
  · exact hw

theorem Subject.oneArgument_fails (name : String) (args : List Value) (named : Bindings) :
    Run.FailsOnly (σ := σ) (fun f => ¬ f.isWant) (oneArgument name args named) := by
  unfold oneArgument
  split
  · exact .pure _
  · split
    · exact .pure _
    · exact .throw id
  · exact .throw id

theorem Subject.unnamed_fails (args : List Value) (named : Bindings) :
    Run.FailsOnly (σ := σ) (fun f => ¬ f.isWant) (unnamed args named) := by
  unfold unnamed
  split
  · exact .pure _
  · exact .throw id

theorem Subject.constant_fails (b : Bool) (args : List Value) (named : Bindings) :
    Run.FailsOnly (σ := σ) (fun f => ¬ f.isWant) (constant b args named) := by
  unfold constant
  split
  · exact .pure _
  · exact .throw id

theorem PermissionEvaluator.ask_fails (e : PermissionEvaluator σ) (who : Option Authentication)
    (args : List Value) : Run.FailsOnly (fun f => ¬ f.isWant) (e.ask who args) := by
  intro s f t h
  cases hq : PermissionQuestion.ofArgs? args with
  | none =>
    simp only [ask, hq] at h
    cases h
    exact id
  | some q =>
    rw [e.outcome_ask who hq] at h
    cases ha : (e.answer who q).outcome s with
    | mk r u =>
      rw [ha] at h
      cases r with
      | error g => cases g <;> cases h <;> exact id
      | ok v => cases v <;> cases h <;> exact id

theorem isFrom_fails {request range : Value} {f : Failure} (h : isFrom request range = .error f) :
    ¬ f.isWant := by
  unfold isFrom at h
  split at h
  next =>
    cases h
    exact id
  next =>
    cases h
    exact id
  next =>
    split at h
    next => cases h
    next => cases h

/-- Predicates fail for want of something only when they ask for a permission and nobody answers. -/
theorem Subject.decide_fails (s : Subject σ) (request : Value) (p : Predicate) (args : List Value)
    (named : Bindings) :
    Run.FailsOnly (fun f => f.isWant → p = .hasPermission ∧ s.evaluator = none)
      (s.decide request p args named) := by
  have hnever {x : Run σ Value} (hx : Run.FailsOnly (fun f => ¬ f.isWant) x) :
      Run.FailsOnly (fun f => f.isWant → p = .hasPermission ∧ s.evaluator = none) x :=
    hx.imp fun f hf hw => absurd hw hf
  cases p with
  | hasRole | hasAuthority => exact hnever ((oneArgument_fails _ args named).bind fun _ => .pure _)
  | hasAnyRole | hasAnyAuthority => exact hnever ((unnamed_fails args named).bind fun _ => .pure _)
  | isAnonymous | isRememberMe | isAuthenticated | isFullyAuthenticated =>
    exact hnever (constant_fails _ args named)
  | hasPermission =>
    refine ((unnamed_fails args named).imp fun f hf hw => absurd hw hf).bind fun args => ?_
    cases he : s.evaluator with
    | none => exact .throw fun _ => ⟨rfl, rfl⟩
    | some e => exact ((e.ask_fails s.identity args).bind fun _ => .pure _).imp fun f hf hw => absurd hw hf
  | hasIpAddress =>
    refine hnever ((oneArgument_fails _ args named).bind fun range => ?_)
    cases hf : isFrom request range with
    | ok b => exact .pure _
    | error f => exact .throw (isFrom_fails hf)

/-- A guard that fails for want of nothing in a context: what it reads has a value, the permissions that it
asks for have an evaluator, and a failure for want of something was raised by a method that it called, or by
a predicate that it does not name. -/
structure Guard.Grounded (g : Guard) (ctx : Context σ) : Prop where
  resolves : ∀ n, .read n ∈ g.expr.mentions → ctx.Resolves n
  permission : .read "hasPermission" ∈ g.expr.mentions → ∀ args named s t,
    (ctx.decide .hasPermission args named).outcome s ≠ (.error (.configuration .noPermissionEvaluator), t)
  evaluation : ∀ s, ∃ (r : Except Failure Value) (t : σ) (made : List (Asked σ)),
    (g.evaluate ctx).outcome s = (r.mapError g.wrap, t) ∧
    (g.evaluate ctx.recording).outcome (s, []) = (r.mapError g.wrap, t, made) ∧
    ∀ f, r = .error f → f.isWant → ∃ c ∈ made, c.Fails ctx f ∧
      ((∃ o n, c.callee = .method o n) ∨
        (c.callee = .predicate .hasPermission ∧ .read "hasPermission" ∉ g.expr.mentions))

/-- What makes a guard grounded: its names resolve, its predicates are those of a subject, and that subject
has an evaluator if the guard reads the name of the permission predicate. -/
theorem Guard.grounded_of {g : Guard} {ctx : Context σ} {subject : Subject σ} {request : Value}
    (hctx : ctx.decide = subject.decide request)
    (hresolves : ∀ n, .read n ∈ g.expr.mentions → ctx.Resolves n)
    (hevaluator : .read "hasPermission" ∈ g.expr.mentions → subject.evaluator ≠ none) : g.Grounded ctx := by
  refine ⟨hresolves, ?_, ?_⟩
  · intro hread args named s t ht
    rw [hctx] at ht
    have hnone := subject.decide_fails request .hasPermission args named s _ t ht trivial
    exact hevaluator hread hnone.2
  · intro s
    have hvalues : ∀ n, .value n ∈ g.expr.demands → ctx.value? n = none →
        Failure.isPlain (.expression (.nameNotDefined n g.source)) := by
      intro n hn hnone
      obtain ⟨v, hv⟩ := hresolves n (g.expr.demands_read _ hn)
      rw [hnone] at hv
      cases hv
    obtain ⟨r, t, made, hr, hrec, hm⟩ :=
      g.evaluate_recorded ctx (fun f => f.isPlain) (fun _ hf => hf) hvalues s
    refine ⟨r, t, made, hr, hrec, ?_⟩
    rintro f rfl hw
    cases hm with
    | raised _ hf => exact absurd hw (Failure.not_isWant hf)
    | @failed _ earlier c _ hc =>
      refine ⟨c, List.mem_append_right _ (List.mem_singleton_self c), hc, ?_⟩
      obtain ⟨callee, args, named, u⟩ := c
      cases callee with
      | method o n => exact .inl ⟨o, n, rfl⟩
      | predicate p =>
        obtain ⟨t, hout⟩ := hc
        have hdecide : (subject.decide request p args named).outcome u = (.error f, t) := hctx ▸ hout
        obtain ⟨rfl, hnone⟩ := subject.decide_fails request p args named u f t hdecide hw
        exact .inr ⟨rfl, fun hread => hevaluator hread hnone⟩

end AccessPolicy
