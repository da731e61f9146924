import AccessPolicy.Proofs.Related

/-!
Evaluations that record what they ask the embedding program. Recording changes nothing about an evaluation;
the record shows that an evaluation goes on only while the answers are values, and that it ends with the
failure of the first answer that is none.
-/

namespace AccessPolicy

inductive Callee where
  | predicate (p : Predicate)
  | method (o : Object) (name : String)

/-- A question to the embedding program, and the world that it was asked in. -/
structure Asked (σ : Type) where
  callee : Callee
  args : List Value
  named : Bindings
  world : σ

variable {σ : Type}

/-- How a context answers a question. -/
def Context.answer (ctx : Context σ) (c : Callee) (args : List Value) (named : Bindings) : Run σ Value :=
  match c with
  | .predicate p => ctx.decide p args named
  | .method o n => ctx.send o n args named

namespace Asked

def outcome (ctx : Context σ) (c : Asked σ) : Except Failure Value × σ :=
  (ctx.answer c.callee c.args c.named).outcome c.world

def Succeeds (ctx : Context σ) (c : Asked σ) : Prop := ∃ v t, c.outcome ctx = (.ok v, t)

def Fails (ctx : Context σ) (c : Asked σ) (f : Failure) : Prop := ∃ t, c.outcome ctx = (.error f, t)

theorem not_succeeds {ctx : Context σ} {c : Asked σ} {f : Failure} (h : c.Fails ctx f) :
    ¬ c.Succeeds ctx := by
  rintro ⟨v, t, hv⟩
  obtain ⟨u, hf⟩ := h
  rw [hv] at hf
  cases hf

theorem Fails.unique {ctx : Context σ} {c : Asked σ} {f g : Failure} (hf : c.Fails ctx f)
    (hg : c.Fails ctx g) : f = g := by
  obtain ⟨t, hf⟩ := hf
  obtain ⟨u, hg⟩ := hg
  rw [hf] at hg
  cases hg
  rfl

end Asked

namespace Context

/-- A question that is put on record with the world that it is asked in. -/
def record (ctx : Context σ) (c : Callee) (args : List Value) (named : Bindings) :
    Run (σ × List (Asked σ)) Value :=
  fun (s, made) =>
    let (r, t) := (ctx.answer c args named).outcome s
    (r, (t, made ++ [⟨c, args, named, s⟩]))

def recording (ctx : Context σ) : Context (σ × List (Asked σ)) where
  bindings := ctx.bindings
  predicates := ctx.predicates
  decide p := ctx.record (.predicate p)
  send o n := ctx.record (.method o n)

theorem outcome_record (ctx : Context σ) (c : Callee) (args : List Value) (named : Bindings) (s : σ)
    (made : List (Asked σ)) :
    (ctx.record c args named).outcome (s, made) =
      (((ctx.answer c args named).outcome s).1,
        ((ctx.answer c args named).outcome s).2, made ++ [⟨c, args, named, s⟩]) := rfl

end Context

/-- The questions of an evaluation account for its result: a value comes after values only, and a failure is
that of the last question, or one that evaluation raises by itself. -/
inductive Accounts (ctx : Context σ) (raised : Failure → Prop) {α : Type} :
    Except Failure α → List (Asked σ) → Prop
  | value {a made} : (∀ c ∈ made, c.Succeeds ctx) → Accounts ctx raised (.ok a) made
  | raised {f made} : (∀ c ∈ made, c.Succeeds ctx) → raised f → Accounts ctx raised (.error f) made
  | failed {f made c} : (∀ c ∈ made, c.Succeeds ctx) → c.Fails ctx f →
      Accounts ctx raised (.error f) (made ++ [c])

theorem Accounts.after {ctx : Context σ} {raised : Failure → Prop} {α : Type} {r : Except Failure α}
    {earlier made : List (Asked σ)} (he : ∀ c ∈ earlier, c.Succeeds ctx) (h : Accounts ctx raised r made) :
    Accounts ctx raised r (earlier ++ made) := by
  have hall {made : List (Asked σ)} (hm : ∀ c ∈ made, c.Succeeds ctx) :
      ∀ c ∈ earlier ++ made, c.Succeeds ctx := by
    intro c hc
    rcases List.mem_append.mp hc with hc | hc
    · exact he c hc
    · exact hm c hc
  cases h with
  | value hm => exact .value (hall hm)
  | raised hm hf => exact .raised (hall hm) hf
  | failed hm hc =>
    rw [← List.append_assoc]
    exact .failed (hall hm) hc

theorem Accounts.map {ctx : Context σ} {raised : Failure → Prop} {α β : Type} {r : Except Failure α}
    {made : List (Asked σ)} (k : α → β) (h : Accounts ctx raised r made) :
    Accounts ctx raised (r.map k) made := by
  cases h with
  | value hm => exact .value hm
  | raised hm hf => exact .raised hm hf
  | failed hm hc => exact .failed hm hc

theorem Accounts.of_fails {ctx : Context σ} {raised : Failure → Prop} {α : Type} {r : Except Failure α}
    {made : List (Asked σ)} {c : Asked σ} {f : Failure} (h : Accounts ctx raised r made) (hc : c ∈ made)
    (hf : c.Fails ctx f) : r = .error f := by
  cases h with
  | value hm => exact absurd (hm c hc) (Asked.not_succeeds hf)
  | raised hm _ => exact absurd (hm c hc) (Asked.not_succeeds hf)
  | failed hm hlast =>
    rcases List.mem_append.mp hc with hc | hc
    · exact absurd (hm c hc) (Asked.not_succeeds hf)
    · cases List.mem_singleton.mp hc
      rw [hlast.unique hf]

/-- Whether an evaluation ends as another does that keeps a record, and the record accounts for the end. -/
def Recorded (ctx : Context σ) (raised : Failure → Prop) {α : Type} (x : Evaluation σ α)
    (y : Evaluation (σ × List (Asked σ)) α) : Prop :=
  ∀ n s earlier, ∃ made,
    y.outcome n (s, earlier) = ((x.outcome n s).1, (x.outcome n s).2, earlier ++ made) ∧
      Accounts ctx raised (x.outcome n s).1 made

theorem Recorded.bind {ctx : Context σ} {raised : Failure → Prop} {α β : Type} {x : Evaluation σ α}
    {y : Evaluation (σ × List (Asked σ)) α} {k : α → Evaluation σ β}
    {l : α → Evaluation (σ × List (Asked σ)) β} (h : Recorded ctx raised x y)
    (hk : ∀ a, x.Yields a → Recorded ctx raised (k a) (l a)) : Recorded ctx raised (x >>= k) (y >>= l) := by
  intro n s earlier
  obtain ⟨made, hy, hm⟩ := h n s earlier
  cases hx : x.outcome n s with
  | mk r t =>
    rw [hx] at hy hm
    cases r with
    | error f =>
      refine ⟨made, ?_, ?_⟩
      · rw [Evaluation.outcome_bind, Evaluation.outcome_bind, hy, hx]
      · rw [Evaluation.outcome_bind, hx]
        cases hm with
        | raised ha hf => exact .raised ha hf
        | failed ha hc => exact .failed ha hc
    | ok p =>
      obtain ⟨more, hl, hmore⟩ := hk p.1 ⟨n, s, p.2, t, hx⟩ p.2 t (earlier ++ made)
      cases hm with
      | value ha =>
        refine ⟨made ++ more, ?_, ?_⟩
        · rw [Evaluation.outcome_bind, Evaluation.outcome_bind, hy, hx, ← List.append_assoc]
          exact hl
        · rw [Evaluation.outcome_bind, hx]
          exact hmore.after ha

def Simulation.recorded (ctx : Context σ) (raised : Failure → Prop)
    (hplain : ∀ f : Failure, f.isPlain → raised f) : Simulation σ (σ × List (Asked σ)) where
  related := Recorded ctx raised
  value a := fun n s earlier => ⟨[], by rw [List.append_nil]; rfl, .value (by simp)⟩
  failure hf := fun n s earlier => ⟨[], by rw [List.append_nil]; rfl, .raised (by simp) (hplain _ hf)⟩
  next h hk := h.bind hk
  count := fun n s earlier => ⟨[], by rw [List.append_nil]; rfl, .value (by simp)⟩
  counted := fun n s earlier => ⟨[], by rw [List.append_nil]; rfl, .value (by simp)⟩

theorem recorded_liftM {ctx : Context σ} {raised : Failure → Prop} (c : Callee) (args : List Value)
    (named : Bindings) :
    Recorded ctx raised (liftM (ctx.answer c args named)) (liftM (ctx.record c args named)) := by
  intro n s earlier
  refine ⟨[⟨c, args, named, s⟩], ?_, ?_⟩
  · rw [Evaluation.outcome_liftM, Evaluation.outcome_liftM, Context.outcome_record]
    rcases (ctx.answer c args named).outcome s with ⟨_ | _, _⟩ <;> rfl
  · rw [Evaluation.outcome_liftM]
    cases ha : (ctx.answer c args named).outcome s with
    | mk r t =>
      cases r with
      | error f => exact .failed (List.forall_mem_nil _) ⟨t, ha⟩
      | ok v =>
        apply Accounts.value
        intro c hc
        cases List.mem_singleton.mp hc
        exact ⟨v, t, ha⟩

theorem Simulation.recorded_call {ctx : Context σ} {raised : Failure → Prop}
    (hplain : ∀ f : Failure, f.isPlain → raised f) (f : Value) (args : List Value) (named : Bindings) :
    (recorded ctx raised hplain).related (liftM (ctx.call f args named))
      (liftM (ctx.recording.call f args named)) := by
  unfold Context.call
  split
  · exact recorded_liftM (.predicate _) args named
  · exact (recorded ctx raised hplain).attempt _
  · exact (recorded ctx raised hplain).attempt _
  · exact recorded_liftM (.method _ _) args named
  · exact (recorded ctx raised hplain).attempt _
  · exact (recorded ctx raised hplain).failure rfl

/-- An expression is evaluated on record as it is without. The names that it asks for and that have no value
are among the causes of its failures; `raised` says which causes there are besides the answers. -/
theorem Expr.eval_recorded (ctx : Context σ) {raised : Failure → Prop}
    (hplain : ∀ f : Failure, f.isPlain → raised f) (source : String) (e : Expr)
    (hnames : ∀ n, .value n ∈ e.demands → ctx.value? n = none →
      raised (.expression (.nameNotDefined n source))) (s : σ) :
    ∃ made,
      (e.eval ctx.recording source).outcome (s, []) =
        (((e.eval ctx source).outcome s).1, ((e.eval ctx source).outcome s).2, made) ∧
      Accounts ctx raised ((e.eval ctx source).outcome s).1 made := by
  have hmet : (Simulation.recorded ctx raised hplain).Met ctx ctx.recording source [] e.demands := by
    refine ⟨Simulation.recorded_call hplain, ?_⟩
    intro d hd _
    cases d with
    | function n => rfl
    | value n =>
      refine Simulation.meets_value rfl fun hnone n' s earlier => ⟨[], ?_, ?_⟩
      · rw [List.append_nil]
        rfl
      · exact .raised (by simp) (hnames n hd hnone)
  obtain ⟨made, hy, hm⟩ := Simulation.related_eval [] e hmet 0 s []
  refine ⟨made, ?_, ?_⟩
  · rw [outcome_eval, outcome_eval, hy]
    rfl
  · rw [outcome_eval]
    exact hm.map Prod.fst

end AccessPolicy
