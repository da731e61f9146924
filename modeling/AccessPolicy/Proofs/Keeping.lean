import AccessPolicy.Policy.Rules
import AccessPolicy.Bound
import AccessPolicy.Proofs.Related
import AccessPolicy.Proofs.Serving

/-!
Computations that leave a part of the world as it is. An evaluation by itself changes nothing, so a guard
changes only what the embedding program changes in its answers.
-/

namespace AccessPolicy

variable {σ τ α β : Type} {f : σ → τ}

/-- Whether a part of the world is the same after a computation as before it. -/
def Run.Keeps (f : σ → τ) (x : Run σ α) : Prop := ∀ s, f (x.outcome s).2 = f s

namespace Run.Keeps

theorem pure (a : α) : Keeps f (Pure.pure a) := fun _ => rfl

theorem throw (e : Failure) : Keeps (α := α) f (MonadExcept.throw e) := fun _ => rfl

theorem get : Keeps f (MonadState.get : Run σ σ) := fun _ => rfl

theorem ofExcept (x : Except Failure α) : Keeps f (Run.ofExcept x) := by
  intro s
  rw [outcome_ofExcept]

theorem attempt (x : Attempt α) : Keeps f (Run.attempt x) := by
  cases x with
  | ok a => exact pure a
  | error e => exact throw (.operand e)

theorem bind {x : Run σ α} {k : α → Run σ β} (hx : Keeps f x) (hk : ∀ a, Keeps f (k a)) :
    Keeps f (x >>= k) := by
  intro s
  have hs := hx s
  rw [outcome_bind]
  generalize x.outcome s = r at hs ⊢
  obtain ⟨e | a, t⟩ := r
  · exact hs
  · exact (hk a t).trans hs

theorem map {x : Run σ α} (k : α → β) (hx : Keeps f x) : Keeps f (k <$> x) := by
  rw [map_eq_pure_bind]
  exact hx.bind fun _ => pure _

theorem tryCatch {x : Run σ α} {k : Failure → Run σ α} (hx : Keeps f x) (hk : ∀ e, Keeps f (k e)) :
    Keeps f (MonadExcept.tryCatch x k) := by
  intro s
  have hs := hx s
  rw [outcome_tryCatch]
  generalize x.outcome s = r at hs ⊢
  obtain ⟨e | a, t⟩ := r
  · exact (hk e t).trans hs
  · exact hs

/-- What happens in the world alone keeps of a world with an identity what it keeps of the world. -/
theorem within {x : Run σ α} (h : Keeps f x) : Keeps (fun b : Bound σ => f b.world) x.within :=
  fun b => h b.world

end Run.Keeps

/-- The same of an evaluation, however many elements it has counted. -/
def Evaluation.Keeps (f : σ → τ) (x : Evaluation σ α) : Prop := ∀ n, Run.Keeps f (x.run n)

theorem Evaluation.Keeps.liftM {x : Run σ α} (h : x.Keeps f) : Evaluation.Keeps f (liftM x : Evaluation σ α) :=
  fun _ => h.bind fun _ => .pure _

/-- Evaluations by themselves leave all of the world as it is. -/
def Simulation.keeping (f : σ → τ) : Simulation σ σ where
  related x _ := Evaluation.Keeps f x
  value a := fun _ => .pure (a, _)
  failure _ := fun _ => .throw _
  next := by
    intro α β x y k l hx hk n s
    have hs := hx n s
    cases hr : (x.run n).outcome s with
    | mk r t =>
      rw [hr] at hs
      cases r with
      | error e =>
        rw [StateT.run_bind, Run.outcome_bind, hr]
        exact hs
      | ok p =>
        rw [StateT.run_bind, Run.outcome_bind, hr]
        exact (hk p.1 ⟨n, s, p.2, t, hr⟩ p.2 t).trans hs
  count := fun _ => .pure _
  counted := fun _ => .pure _

/-- Whether what a context asks the embedding program leaves a part of the world as it is. -/
structure Context.Keeps (f : σ → τ) (ctx : Context σ) : Prop where
  decide : ∀ p args named, (ctx.decide p args named).Keeps f
  send : ∀ o name args named, (ctx.send o name args named).Keeps f

namespace Context.Keeps

variable {ctx : Context σ}

theorem call (h : ctx.Keeps f) (v : Value) (args : List Value) (named : Bindings) :
    (ctx.call v args named).Keeps f := by
  unfold Context.call
  split
  · exact h.decide _ args named
  · exact .attempt _
  · exact .attempt _
  · exact h.send _ _ args named
  · exact .attempt _
  · exact .throw _

theorem eval (h : ctx.Keeps f) (source : String) (e : Expr) : (e.eval ctx source).Keeps f := by
  have hmet : (Simulation.keeping f).Met ctx ctx source [] e.demands := by
    refine ⟨fun v args named => .liftM (h.call v args named), ?_⟩
    intro d _ _
    cases d with
    | function n => rfl
    | value n => exact Simulation.meets_value rfl fun _ => fun _ => .throw _
  exact (Simulation.related_eval [] e hmet 0).map Prod.fst

theorem evaluate (h : ctx.Keeps f) (g : Guard) : (g.evaluate ctx).Keeps f := by
  refine (h.eval g.source g.expr).tryCatch fun e => ?_
  split
  · exact .throw _
  · exact .throw _

theorem allows (h : ctx.Keeps f) (g : Guard) : (g.allows ctx).Keeps f :=
  (h.evaluate g).bind fun _ => .pure _

end Context.Keeps

/-- Whether an evaluator leaves a part of the world as it is, whatever it is asked. -/
def PermissionEvaluator.Keeps (f : σ → τ) (e : PermissionEvaluator σ) : Prop :=
  ∀ who q, (e.answer who q).Keeps f

namespace PermissionEvaluator

theorem Keeps.ask {e : PermissionEvaluator σ} (h : e.Keeps f) (who : Option Authentication)
    (args : List Value) : (e.ask who args).Keeps f := by
  unfold PermissionEvaluator.ask
  split
  · exact .throw _
  · refine ((h who _).tryCatch fun e => ?_).bind fun v => ?_
    · split
      · exact .throw _
      · exact .throw _
    · split
      · exact .pure _
      · exact .throw _

mutual

/-- An evaluator that knows nothing of the bound identity answers as it does without one. -/
theorem answer_within (who : Option Authentication) (q : PermissionQuestion) :
    ∀ e : PermissionEvaluator σ, e.within.answer who q = (e.answer who q).within
  | .denyAll => rfl
  | .byRole grants hierarchy => by
    simp only [within, answer]
    cases byRoleAnswer grants hierarchy who q <;> rfl
  | .delegating routes fallback => by
    simp only [within, answer, answerRoute_within who q (PermissionQuestion.tag q) routes,
      answerFallback_within who q fallback]
    split
    · cases answerRoute who q (PermissionQuestion.tag q) routes <;> rfl
    · rfl
  | .lent _ _ => rfl
termination_by structural e => e

theorem answerRoute_within (who : Option Authentication) (q : PermissionQuestion) (tag : Value) :
    ∀ routes : List (String × PermissionEvaluator σ),
      answerRoute who q tag (routesWithin routes) = (answerRoute who q tag routes).map Run.within
  | [] => rfl
  | (t, e) :: routes => by
    simp only [routesWithin, answerRoute, answer_within who q e, answerRoute_within who q tag routes]
    split <;> rfl
termination_by structural routes => routes

theorem answerFallback_within (who : Option Authentication) (q : PermissionQuestion) :
    ∀ e : Option (PermissionEvaluator σ),
      answerFallback who q (fallbackWithin e) = (answerFallback who q e).within
  | none => rfl
  | some e => answer_within who q e
termination_by structural e => e

end

end PermissionEvaluator

namespace Subject

theorem oneArgument_keeps (name : String) (args : List Value) (named : Bindings) :
    (oneArgument name args named : Run σ Value).Keeps f := by
  unfold oneArgument
  split
  · exact .pure _
  · split
    · exact .pure _
    · exact .throw _
  · exact .throw _

theorem unnamed_keeps (args : List Value) (named : Bindings) :
    (unnamed args named : Run σ (List Value)).Keeps f := by
  unfold unnamed
  split
  · exact .pure _
  · exact .throw _

theorem constant_keeps (b : Bool) (args : List Value) (named : Bindings) :
    (constant b args named : Run σ Value).Keeps f := by
  unfold constant
  split
  · exact .pure _
  · exact .throw _

/-- Only the evaluator of permissions could change anything. -/
theorem decide_keeps {s : Subject σ} (h : ∀ e, s.evaluator = some e → e.Keeps f) (request : Value)
    (p : Predicate) (args : List Value) (named : Bindings) : (s.decide request p args named).Keeps f := by
  cases p with
  | hasRole | hasAuthority => exact (oneArgument_keeps _ args named).bind fun _ => .pure _
  | hasAnyRole | hasAnyAuthority => exact (unnamed_keeps args named).bind fun _ => .pure _
  | isAnonymous | isRememberMe | isAuthenticated | isFullyAuthenticated => exact constant_keeps _ args named
  | hasPermission =>
    refine (unnamed_keeps args named).bind fun args => ?_
    cases he : s.evaluator with
    | none => exact .throw _
    | some e => exact ((h e he).ask s.identity args).bind fun _ => .pure _
  | hasIpAddress =>
    refine (oneArgument_keeps _ args named).bind fun range => ?_
    split
    · exact .pure _
    · exact .throw _

end Subject

/-- Whether what a handler is lent leaves a part of the world as it is. -/
structure Handler.Keeps (f : σ → τ) (h : Handler σ) : Prop where
  evaluator : ∀ e, h.evaluator = some e → e.Keeps f
  send : ∀ o name args named, (h.send o name args named).Keeps f

namespace Handler.Keeps

variable {h : Handler σ}

theorem contextOver (hk : h.Keeps f) (who : Option Authentication) (predicates : List Predicate)
    (request : Value) (bindings : Bindings) : (h.contextOver who predicates request bindings).Keeps f :=
  ⟨fun p args named => Subject.decide_keeps hk.evaluator request p args named, hk.send⟩

/-- A handler that knows nothing of the bound identity keeps of the world what it keeps without one. -/
theorem within (hk : h.Keeps f) : h.within.Keeps fun b : Bound σ => f b.world := by
  refine ⟨?_, fun o name args named => (hk.send o name args named).within⟩
  intro e he who q
  obtain ⟨e, hmem, rfl⟩ := Option.map_eq_some_iff.mp he
  rw [PermissionEvaluator.answer_within]
  exact (hk.evaluator e hmem who q).within

end Handler.Keeps

namespace Rules

theorem admits_keeps {rs : Rules σ} (h : rs.handler.Keeps f) (who : Authentication) (r : Request) :
    (rs.admits who r).Keeps f := by
  unfold admits
  split
  · exact .throw _
  · exact (h.contextOver _ _ _ _).allows _

theorem permit_keeps {rs : Rules σ} (h : rs.handler.Keeps f) (who : Authentication) (r : Request) :
    (rs.permit who r).Keeps f := by
  refine ((admits_keeps h who r).tryCatch fun e => .throw _).bind fun admitted => ?_
  split
  · exact .pure _
  · split
    · exact .throw _
    · exact .throw _

variable {rs : Rules (Bound σ)} {g : Bound σ → τ}

/-- The rules for a request leave alone what the handler leaves alone and the bound identity is no part of: a
request that is stopped changed nothing of it, and nothing of it changed before an endpoint runs. -/
theorem serve_keeps (h : rs.handler.Keeps g) (hg : ∀ (b : Bound σ) i, g { b with identity := i } = g b)
    (accounts : List Account) (r : Request) (b : Bound σ) :
    (∃ e c, g c = g b ∧ ∀ {α : Type} (endpoint : Authentication → Run (Bound σ) α),
      (rs.serve accounts r endpoint).outcome b = (.error e, c)) ∨
    ∃ who c, g c = g b ∧ c.identity.current = some who ∧
      ∀ {α : Type} (endpoint : Authentication → Run (Bound σ) α),
        (rs.serve accounts r endpoint).outcome b =
          (((endpoint who).outcome c).1, ((endpoint who).outcome c).2.bind b.identity.current) := by
  cases hwho : Credentials.resolve rs.credentials accounts r with
  | error e => exact .inl ⟨e, b, rfl, fun endpoint => outcome_unresolved hwho endpoint b⟩
  | ok who =>
    have hkeeps := permit_keeps h who r (b.bind (some who))
    cases hp : (rs.permit who r).outcome (b.bind (some who)) with
    | mk permission c =>
      rw [hp] at hkeeps
      have hc : g { c with identity := b.identity.bind (some who) } = g b :=
        (hg c _).trans (hkeeps.trans (hg b _))
      cases permission with
      | error e =>
        refine .inl ⟨e, ({ c with identity := b.identity.bind (some who) } : Bound σ).bind b.identity.current, ?_, ?_⟩
        · exact (hg _ _).trans hc
        · intro α endpoint
          rw [outcome_serve hwho, Bound.outcome_during, Run.outcome_bind, Bound.outcome_apart, hp]
          rfl
      | ok _ =>
        refine .inr ⟨who, { c with identity := b.identity.bind (some who) }, hc, rfl, ?_⟩
        intro α endpoint
        rw [outcome_serve hwho, Bound.outcome_during, Run.outcome_bind, Bound.outcome_apart, hp]
        rfl

variable {accounts : List Account} {r : Request} {b : Bound σ}

end Rules

end AccessPolicy
