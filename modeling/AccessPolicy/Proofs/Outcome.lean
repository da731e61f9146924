import AccessPolicy.Guard

/-!
How computations end. A computation of the engine is a function of the world it starts in; its outcome is
the value or the failure that it ends with and the world that it leaves.
-/

namespace AccessPolicy

theorem except_bind_ok {ε α β : Type} {x : Except ε α} {k : α → Except ε β} {b : β}
    (h : x >>= k = .ok b) : ∃ a, x = .ok a ∧ k a = .ok b := by
  cases x with
  | error e => cases h
  | ok a => exact ⟨a, rfl, h⟩

theorem except_ok_of_toOption {ε α : Type} {x : Except ε α} {a : α} (h : x.toOption = some a) : x = .ok a := by
  cases x with
  | error e => cases h
  | ok b =>
    cases h
    rfl

/-- How a computation ends when it starts in a world, and the world that it leaves. -/
def Run.outcome {σ α : Type} (x : Run σ α) (s : σ) : Except Failure α × σ := x.run.run s

theorem Run.ext_outcome {σ α : Type} {x y : Run σ α} (h : ∀ s, x.outcome s = y.outcome s) : x = y :=
  funext h

@[simp] theorem Run.outcome_pure {σ α : Type} (a : α) (s : σ) :
    (pure a : Run σ α).outcome s = (.ok a, s) := rfl

@[simp] theorem Run.outcome_throw {σ α : Type} (f : Failure) (s : σ) :
    (throw f : Run σ α).outcome s = (.error f, s) := rfl

@[simp] theorem Run.outcome_ofExcept {σ α : Type} (r : Except Failure α) (s : σ) :
    (Run.ofExcept r : Run σ α).outcome s = (r, s) := by
  cases r <;> rfl

theorem Run.outcome_bind {σ α β : Type} (x : Run σ α) (k : α → Run σ β) (s : σ) :
    (x >>= k).outcome s =
      match x.outcome s with
      | (.ok a, t) => (k a).outcome t
      | (.error f, t) => (.error f, t) := by
  simp only [outcome, ExceptT.run_bind, StateT.run_bind]
  obtain ⟨r, t⟩ := x.run.run s
  cases r <;> rfl

theorem Run.outcome_tryCatch {σ α : Type} (x : Run σ α) (k : Failure → Run σ α) (s : σ) :
    (tryCatch x k).outcome s =
      match x.outcome s with
      | (.ok a, t) => (.ok a, t)
      | (.error f, t) => (k f).outcome t := by
  simp only [outcome, ExceptT.run_tryCatch, StateT.run_bind]
  obtain ⟨r, t⟩ := x.run.run s
  cases r <;> rfl

theorem Run.outcome_bind_ok {σ α β : Type} {x : Run σ α} {s t : σ} {a : α} (h : x.outcome s = (.ok a, t))
    (k : α → Run σ β) : (x >>= k).outcome s = (k a).outcome t := by
  rw [outcome_bind, h]

theorem Run.outcome_bind_error {σ α β : Type} {x : Run σ α} {s t : σ} {f : Failure}
    (h : x.outcome s = (.error f, t)) (k : α → Run σ β) : (x >>= k).outcome s = (.error f, t) := by
  rw [outcome_bind, h]

theorem Run.outcome_map {σ α β : Type} (k : α → β) (x : Run σ α) (s : σ) :
    (k <$> x).outcome s = ((x.outcome s).1.map k, (x.outcome s).2) := by
  rw [map_eq_pure_bind, outcome_bind]
  rcases x.outcome s with ⟨_ | _, _⟩ <;> rfl

/-- A computation that fails, if at all, only in ways that `P` allows. -/
def Run.FailsOnly {σ α : Type} (P : Failure → Prop) (x : Run σ α) : Prop :=
  ∀ s f t, x.outcome s = (.error f, t) → P f

theorem Run.FailsOnly.imp {σ α : Type} {P Q : Failure → Prop} {x : Run σ α} (hx : FailsOnly P x)
    (h : ∀ f, P f → Q f) : FailsOnly Q x :=
  fun s f t hs => h f (hx s f t hs)

theorem Run.FailsOnly.pure {σ α : Type} {P : Failure → Prop} (a : α) :
    FailsOnly (σ := σ) P (Pure.pure a) := by
  rintro s f t ⟨⟩

theorem Run.FailsOnly.throw {σ α : Type} {P : Failure → Prop} {f : Failure} (h : P f) :
    FailsOnly (σ := σ) (α := α) P (MonadExcept.throw f) := by
  rintro s g t ⟨⟩
  exact h

theorem Run.FailsOnly.bind {σ α β : Type} {P : Failure → Prop} {x : Run σ α} {k : α → Run σ β}
    (hx : FailsOnly P x) (hk : ∀ a, FailsOnly P (k a)) : FailsOnly P (x >>= k) := by
  intro s f t h
  rw [outcome_bind] at h
  cases hs : x.outcome s with
  | mk r u =>
    rw [hs] at h
    cases r with
    | error g =>
      cases h
      exact hx s f t hs
    | ok a => exact hk a u f t h

theorem Run.FailsOnly.map {σ α β : Type} {P : Failure → Prop} {x : Run σ α} (hx : FailsOnly P x)
    (k : α → β) : FailsOnly P (k <$> x) := by
  rw [map_eq_pure_bind]
  exact hx.bind fun _ => .pure _

/-- How an evaluation ends that has counted `n` elements before. -/
def Evaluation.outcome {σ α : Type} (x : Evaluation σ α) (n : Nat) (s : σ) :
    Except Failure (α × Nat) × σ :=
  Run.outcome (x.run n) s

theorem Evaluation.ext_outcome {σ α : Type} {x y : Evaluation σ α}
    (h : ∀ n s, x.outcome n s = y.outcome n s) : x = y :=
  funext fun n => funext (h n)

theorem Evaluation.outcome_bind {σ α β : Type} (x : Evaluation σ α) (k : α → Evaluation σ β) (n : Nat)
    (s : σ) :
    (x >>= k).outcome n s =
      match x.outcome n s with
      | (.ok (a, m), t) => (k a).outcome m t
      | (.error f, t) => (.error f, t) := by
  simp only [outcome, StateT.run_bind, Run.outcome_bind]
  rcases (x.run n).outcome s with ⟨_ | _, _⟩ <;> rfl

theorem Evaluation.outcome_liftM {σ α : Type} (x : Run σ α) (n : Nat) (s : σ) :
    (liftM x : Evaluation σ α).outcome n s =
      match x.outcome s with
      | (.ok a, t) => (.ok (a, n), t)
      | (.error f, t) => (.error f, t) :=
  Run.outcome_bind x _ s

theorem Expr.outcome_eval {σ : Type} (ctx : Context σ) (source : String) (e : Expr) (s : σ) :
    (e.eval ctx source).outcome s =
      (((Evaluation.eval ctx source [] e).outcome 0 s).1.map Prod.fst,
        ((Evaluation.eval ctx source [] e).outcome 0 s).2) :=
  Run.outcome_map Prod.fst ((Evaluation.eval ctx source [] e).run 0) s

theorem Guard.outcome_evaluate {σ : Type} (g : Guard) (ctx : Context σ) (s : σ) :
    (g.evaluate ctx).outcome s =
      (((g.expr.eval ctx g.source).outcome s).1.mapError fun f =>
          if f.isOwn then f else .evaluation g.label g.source f,
        ((g.expr.eval ctx g.source).outcome s).2) := by
  unfold evaluate
  rw [Run.outcome_tryCatch]
  rcases (g.expr.eval ctx g.source).outcome s with ⟨f | v, t⟩
  · change (if f.isOwn then throw f else throw (.evaluation g.label g.source f) : Run σ Value).outcome t =
      (Except.error (if f.isOwn then f else .evaluation g.label g.source f), t)
    split <;> rfl
  · rfl

end AccessPolicy
