import AccessPolicy.Subject
import AccessPolicy.Proofs.Recording

/-!
How faults come out of guards. A guard that asks something and gets no answer gives no value: the engine's
own failures come out as they are, a permission question without a truth value for an answer comes out as a
permission fault, and everything else as a fault of the guard.
-/

namespace AccessPolicy

variable {σ : Type}

theorem Failure.isOwn_of_isPlain {f : Failure} (h : f.isPlain) : f.isOwn = false := by
  cases f <;> first | rfl | cases h

/-- What an evaluator's answer comes to: a truth value for itself, and everything else for a permission fault. -/
def PermissionEvaluator.judged (name : String) : Except Failure Value → Except Failure Bool
  | .ok (.bool b) => .ok b
  | .ok v => .error (.permission (.notBoolean name v.typeName))
  | .error (.permission p) => .error (.permission p)
  | .error f => .error (.permission (.failed name f))

theorem PermissionEvaluator.judged_error (name : String) {r : Except Failure Value} (h : ∀ b, r ≠ .ok (.bool b)) :
    ∃ p, judged name r = .error (.permission p) := by
  cases r with
  | error f => cases f <;> exact ⟨_, rfl⟩
  | ok v =>
    cases v with
    | bool b => exact absurd rfl (h b)
    | _ => exact ⟨_, rfl⟩

theorem PermissionEvaluator.outcome_ask (e : PermissionEvaluator σ) (who : Option Authentication)
    {args : List Value} {q : PermissionQuestion} (hq : PermissionQuestion.ofArgs? args = some q) (s : σ) :
    (e.ask who args).outcome s =
      (judged e.name ((e.answer who q).outcome s).1, ((e.answer who q).outcome s).2) := by
  unfold ask
  simp only [hq, Run.outcome_bind, Run.outcome_tryCatch]
  rcases (e.answer who q).outcome s with ⟨f | v, t⟩
  · cases f <;> rfl
  · cases v <;> rfl

theorem PermissionEvaluator.ask_of_answer {e : PermissionEvaluator σ} {who : Option Authentication}
    {args : List Value} {q : PermissionQuestion} {b : Bool} (hq : PermissionQuestion.ofArgs? args = some q)
    (h : e.answer who q = pure (.bool b)) : e.ask who args = pure b := by
  unfold ask
  rw [hq]
  dsimp only
  rw [h]
  rfl

theorem PermissionEvaluator.answerRoute_lookup (routes : List (String × PermissionEvaluator σ))
    (who : Option Authentication) (q : PermissionQuestion) (tag : String) :
    answerRoute who q (.text tag) routes = (routes.lookup tag).map (·.answer who q) := by
  induction routes with
  | nil => rfl
  | cons r routes ih =>
    obtain ⟨t, e⟩ := r
    rw [answerRoute, alike_text, List.lookup_cons, ih, Bool.beq_comm]
    cases tag == t <;> rfl

/-- Whether a question is a permission question, about an object or about an id and a type, for which an
evaluator gives no truth value. -/
structure Asked.Unanswered (subject : Subject σ) (c : Asked σ) : Prop where
  callee : c.callee = .predicate .hasPermission
  args : c.args.length = 2 ∨ c.args.length = 3
  named : c.named = []
  evaluator : ∃ e, subject.evaluator = some e ∧ ∀ q, PermissionQuestion.ofArgs? c.args = some q →
    ∀ b t, (e.answer subject.identity q).outcome c.world ≠ (.ok (.bool b), t)

theorem PermissionQuestion.ofArgs?_of_length {args : List Value}
    (h : args.length = 2 ∨ args.length = 3) : ∃ q, ofArgs? args = some q := by
  match args, h with
  | [a, b], _ => exact ⟨_, rfl⟩
  | [a, b, c], _ => exact ⟨_, rfl⟩

/-- A permission question without an answer fails, and it fails as a permission fault. -/
theorem Asked.Unanswered.fails {subject : Subject σ} {c : Asked σ} (h : c.Unanswered subject)
    (ctx : Context σ) {request : Value} (hctx : ctx.decide = subject.decide request) :
    ∃ p, c.Fails ctx (.permission p) := by
  obtain ⟨callee, args, named, s⟩ := c
  obtain ⟨hcallee, hargs, hnamed, e, he, hanswer⟩ := h
  dsimp only at hcallee hargs hnamed hanswer
  subst hcallee hnamed
  obtain ⟨q, hq⟩ := PermissionQuestion.ofArgs?_of_length hargs
  have hout : Asked.outcome ctx ⟨.predicate .hasPermission, args, [], s⟩ =
      (do return .bool (← e.ask subject.identity args) : Run σ Value).outcome s := by
    simp only [Asked.outcome, Context.answer, hctx, Subject.decide, he]
    rfl
  have hnone : ∀ b, ((e.answer subject.identity q).outcome s).1 ≠ .ok (.bool b) := fun b hb =>
    hanswer q hq b _ (Prod.ext hb rfl)
  obtain ⟨p, hp⟩ := PermissionEvaluator.judged_error e.name hnone
  refine ⟨p, ((e.answer subject.identity q).outcome s).2, ?_⟩
  rw [hout, bind_pure_comp, Run.outcome_map, e.outcome_ask _ hq, hp]
  rfl

def Guard.wrap (g : Guard) (f : Failure) : Failure :=
  if f.isOwn then f else .evaluation g.label g.source f

theorem Guard.evaluate_recorded (g : Guard) (ctx : Context σ) (raised : Failure → Prop)
    (hplain : ∀ f : Failure, f.isPlain → raised f)
    (hnames : ∀ n, .value n ∈ g.expr.demands → ctx.value? n = none →
      raised (.expression (.nameNotDefined n g.source))) (s : σ) :
    ∃ r t made,
      (g.evaluate ctx).outcome s = (r.mapError g.wrap, t) ∧
      (g.evaluate ctx.recording).outcome (s, []) = (r.mapError g.wrap, t, made) ∧
      Accounts ctx raised r made := by
  obtain ⟨made, hy, hm⟩ := g.expr.eval_recorded ctx hplain g.source hnames s
  refine ⟨_, _, made, outcome_evaluate g ctx s, ?_, hm⟩
  rw [outcome_evaluate, hy]
  rfl

/-- Every way in which a guard can fail. Evaluated on record it ends as it does without; if it asked for a
permission and got no truth value, it ends with a permission fault; if it asked for anything and got a
failure, it ends with that failure, under its own label and source unless the failure is the engine's own;
and if all its questions were answered, its failures are faults of the guard under its label and source.
Asking whether the guard lets a caller pass changes none of that. -/
theorem Guard.faults_come_out (g : Guard) (bindings : Bindings) (predicates : List Predicate)
    (subject : Subject σ) (request : Value) (send : Object → String → List Value → Bindings → Run σ Value)
    (s : σ) :
    let ctx : Context σ := ⟨bindings, predicates, subject.decide request, send⟩
    ∃ r t made,
      (g.evaluate ctx).outcome s = (r, t) ∧
      (g.allows ctx).outcome s = (r.map passes, t) ∧
      (g.evaluate ctx.recording).outcome (s, []) = (r, t, made) ∧
      (∀ c ∈ made, c.Unanswered subject → ∃ p, r = .error (.permission p)) ∧
      (∀ c ∈ made, ∀ f, c.Fails ctx f →
        r = .error (if f.isOwn then f else .evaluation g.label g.source f)) ∧
      ((∀ c ∈ made, c.Succeeds ctx) → ∀ f, r = .error f →
        ∃ cause, f = .evaluation g.label g.source cause ∧ cause.isOwn = false) := by
  intro ctx
  obtain ⟨r, t, made, hr, hrec, hm⟩ := g.evaluate_recorded ctx (fun f => f.isOwn = false)
    (fun _ => Failure.isOwn_of_isPlain) (fun _ _ _ => rfl) s
  refine ⟨r.mapError g.wrap, t, made, hr, ?_, hrec, ?_, ?_, ?_⟩
  · unfold allows
    rw [bind_pure_comp, Run.outcome_map, hr]
  · intro c hc hun
    obtain ⟨p, hf⟩ := hun.fails ctx rfl
    rw [hm.of_fails hc hf]
    exact ⟨p, rfl⟩
  · intro c hc f hf
    rw [hm.of_fails hc hf]
    rfl
  · intro hall f hf
    cases hm with
    | value _ => cases hf
    | @raised cause _ _ hown =>
      cases hf
      exact ⟨cause, by simp [wrap, hown], hown⟩
    | @failed cause earlier c _ hc =>
      exact absurd (hall c (by simp)) (Asked.not_succeeds hc)

end AccessPolicy
