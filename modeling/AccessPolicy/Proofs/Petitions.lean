import AccessPolicy.Proofs.Faults
import AccessPolicy.Proofs.Formulas

/-!
Permission questions that expressions put in literals. The evaluator of the handler is asked for whoever calls,
unless a literal is too long to be evaluated: then nobody is asked.
-/

namespace AccessPolicy

open Handler (caller)

/-- A permission question, about an object or about an id and a type, with arguments of any kind. -/
inductive Petition (α : Type) where
  | object (target permission : α)
  | byId (id type permission : α)

namespace Petition

variable {σ α β : Type}

def map (f : α → β) : Petition α → Petition β
  | .object target permission => .object (f target) (f permission)
  | .byId id type permission => .byId (f id) (f type) (f permission)

def args : Petition α → List α
  | .object target permission => [target, permission]
  | .byId id type permission => [id, type, permission]

/-- What an evaluator is asked. -/
def question : Petition Literal → PermissionQuestion
  | .object target permission => .object target.value permission.value
  | .byId id type permission => .byId id.value type.value permission.value

def expr (p : Petition Literal) : Expr :=
  .call (.name Predicate.hasPermission.name) (p.args.map .literal) []

def Overlong (p : Petition Literal) : Prop := ∃ c ∈ p.args, c.Overlong

instance (p : Petition Literal) : Decidable p.Overlong := inferInstanceAs (Decidable (∃ c ∈ p.args, c.Overlong))

variable {p : Petition Literal} {h : Handler σ} {who : Option Authentication} {ctx : Context σ} {source : String}
  {e : PermissionEvaluator σ}

theorem ofArgs?_args (p : Petition Literal) :
    PermissionQuestion.ofArgs? (p.args.map Literal.value) = some p.question := by
  cases p <;> rfl

theorem eval_brief (hc : h.Identifies who ctx) (he : h.evaluator = some e) (hp : ¬p.Overlong) :
    Evaluation.eval ctx source [] p.expr =
      liftM (Value.bool <$> e.ask (some (caller who)) (p.args.map Literal.value)) := by
  obtain ⟨request, hcall⟩ := eval_builtin hc source
  have hdecided : (h.subject who).decide request .hasPermission (p.args.map Literal.value) [] =
      Value.bool <$> e.ask (some (caller who)) (p.args.map Literal.value) := by
    have hevaluator : (h.subject who).evaluator = some e := he
    simp only [Subject.decide, Subject.unnamed, List.isEmpty_nil, if_true, pure_bind, hevaluator, bind_pure_comp]
    rfl
  refine (hcall .hasPermission (by decide) (p.args.map .literal) []).trans ?_
  simp only [evalAll_brief hp, Evaluation.evalKeywords, pure_bind, hdecided]

theorem eval_overlong (hp : p.Overlong) :
    ∃ n, maxLength < n ∧ ∀ {σ : Type} {h : Handler σ} {who : Option Authentication} {ctx : Context σ},
      h.Identifies who ctx → ∀ source,
        Evaluation.eval ctx source [] p.expr = Evaluation.fault (.iterableTooLong (.literal n)) := by
  obtain ⟨n, hn, hfault⟩ := evalAll_overlong hp
  refine ⟨n, hn, fun hc source => ?_⟩
  obtain ⟨request, hcall⟩ := eval_builtin hc source
  refine (hcall .hasPermission (by decide) (p.args.map .literal) []).trans ?_
  rw [hfault]
  rfl

end Petition

end AccessPolicy
