import AccessPolicy.Proofs.Scope
import AccessPolicy.Proofs.Related

/-!
The names of a guard, and the names that occur free in it. The former leave out every name that is bound
anywhere in the expression, so they are the latter only where no name is used both inside the scope that
binds it and outside. What evaluation depends on are the names that the expression asks its context for.
-/

namespace AccessPolicy

def Simulation.equality (σ : Type) : Simulation σ σ where
  related x y := x = y
  value _ := rfl
  failure _ := rfl
  next := by
    rintro α β x y k l rfl hk
    apply Evaluation.ext_outcome
    intro n s
    rw [Evaluation.outcome_bind, Evaluation.outcome_bind]
    cases hx : x.outcome n s with
    | mk r t =>
      cases r with
      | error f => rfl
      | ok p => exact congrArg (fun y => y.outcome p.2 t) (hk p.1 ⟨n, s, p.2, t, hx⟩)
  count := rfl
  counted := rfl

/-- Contexts that differ in their variables only. -/
structure Context.SameFunctions {σ : Type} (ctx ctx' : Context σ) : Prop where
  predicates : ctx.predicates = ctx'.predicates
  decide : ctx.decide = ctx'.decide
  send : ctx.send = ctx'.send

namespace Context

variable {σ : Type} {ctx ctx' : Context σ}

theorem SameFunctions.function? (h : ctx.SameFunctions ctx') (n : String) :
    ctx.function? n = ctx'.function? n := by
  unfold Context.function? Context.conversions
  rw [h.predicates]

theorem SameFunctions.call (h : ctx.SameFunctions ctx') (f : Value) (args : List Value) (named : Bindings) :
    ctx.call f args named = ctx'.call f args named := by
  unfold Context.call
  rw [h.decide, h.send]

end Context

/-- Evaluation depends on the functions of its context, and on the variables that the expression asks for. -/
theorem Expr.eval_congr {σ : Type} {ctx ctx' : Context σ} (hf : ctx.SameFunctions ctx') (source : String)
    (e : Expr) (hv : ∀ n, .value n ∈ e.demands → ctx.bindings.lookup n = ctx'.bindings.lookup n) :
    e.eval ctx source = e.eval ctx' source := by
  have hmet : (Simulation.equality σ).Met ctx ctx' source [] e.demands := by
    refine ⟨fun f vs named => congrArg _ (hf.call f vs named), ?_⟩
    intro d hd _
    cases d with
    | function n => exact hf.function? n
    | value n =>
      refine Simulation.meets_value ?_ fun _ => rfl
      unfold Context.value?
      rw [hv n hd, hf.function? n]
  unfold Expr.eval
  rw [show Evaluation.eval ctx source [] e = Evaluation.eval ctx' source [] e from
    Simulation.related_eval [] e hmet]

namespace Guard

theorem names_mem_iff {g : Guard} {n : String} :
    n ∈ g.names ↔ .read n ∈ g.expr.mentions ∧ .bound n ∉ g.expr.mentions :=
  Expr.mem_freeNames

/-- The names of a guard are those that occur free in it, up to names that are bound elsewhere in the
expression and parameters. -/
theorem names_eq_free_iff (g : Guard) :
    (∀ n, n ∈ g.names ↔ g.expr.Free n) ↔
      (∀ n, g.expr.Free n → .bound n ∉ g.expr.mentions) ∧
        ∀ n ∈ g.names, n ∈ parametersAmong g.expr.subexpressions → g.expr.Free n := by
  have hscoped := g.expr.scoped
  constructor
  · intro h
    exact ⟨fun n hn => (names_mem_iff.mp ((h n).mpr hn)).2, fun n hn _ => (h n).mp hn⟩
  · rintro ⟨hbound, hparameters⟩ n
    constructor
    · intro hn
      obtain ⟨hread, hnot⟩ := names_mem_iff.mp hn
      rcases hscoped.complete n hread with ho | hb | hp
      · exact ⟨ho, fun hb => hnot (hscoped.sound _ hb)⟩
      · exact absurd hb hnot
      · exact hparameters n hn hp
    · intro hn
      exact names_mem_iff.mpr ⟨hscoped.sound _ hn.1, hbound n hn⟩

theorem evaluate_congr {σ : Type} {ctx ctx' : Context σ} (hf : ctx.SameFunctions ctx') (g : Guard)
    (hv : ∀ n, .value n ∈ g.expr.demands → ctx.bindings.lookup n = ctx'.bindings.lookup n) :
    g.evaluate ctx = g.evaluate ctx' := by
  unfold evaluate
  rw [g.expr.eval_congr hf g.source hv]

/-- When the names of a guard are the names that occur free in it: exactly if no name that occurs free is
bound somewhere else in the expression, and no parameter is among the names unless it occurs free as well.
And what a guard depends on: the variables that it asks for, which are among its names if none of them is
bound somewhere in the expression. -/
theorem names_exact (g : Guard) :
    ((∀ n, n ∈ g.names ↔ g.expr.Free n) ↔
      (∀ n, g.expr.Free n → .bound n ∉ g.expr.mentions) ∧
        ∀ n ∈ g.names, n ∈ parametersAmong g.expr.subexpressions → g.expr.Free n) ∧
    ∀ (σ : Type) (ctx ctx' : Context σ), ctx.SameFunctions ctx' →
      ((∀ n, .value n ∈ g.expr.demands → ctx.bindings.lookup n = ctx'.bindings.lookup n) →
        g.evaluate ctx = g.evaluate ctx') ∧
      ((∀ n, .value n ∈ g.expr.demands → .bound n ∉ g.expr.mentions) →
        (∀ n ∈ g.names, ctx.bindings.lookup n = ctx'.bindings.lookup n) →
        g.evaluate ctx = g.evaluate ctx') := by
  refine ⟨g.names_eq_free_iff, ?_⟩
  intro σ ctx ctx' hf
  refine ⟨g.evaluate_congr hf, ?_⟩
  intro hfree hnames
  apply g.evaluate_congr hf
  intro n hn
  exact hnames n (names_mem_iff.mpr ⟨g.expr.demands_read _ hn, hfree n hn⟩)

def outerRead (x : String) : Context Unit where
  bindings := [("xs", .list [.text "a"]), ("x", .text x)]
  predicates := []
  decide _ _ _ := throw (.operand .wrongType)
  send _ _ _ _ := throw (.operand .wrongType)

/-- A name that is read outside the comprehension that binds it occurs free, but is not among the names;
contexts that agree on the names can differ in it, and then the guard decides differently. -/
theorem names_miss_outer_read :
    ∃ g, Guard.ofText "x in [x for x in xs]" defaultLabel = .ok g ∧ g.names = ["xs"] ∧ g.expr.Free "x" ∧
      ∃ ctx ctx' : Context Unit, ctx.SameFunctions ctx' ∧
        (∀ n ∈ g.names, ctx.bindings.lookup n = ctx'.bindings.lookup n) ∧
        ((g.allows ctx).outcome ()).1.toOption = some true ∧
        ((g.allows ctx').outcome ()).1.toOption = some false := by
  have hread : ((Guard.ofText "x in [x for x in xs]" defaultLabel).toOption.map fun g =>
      (g.names, decide (g.expr.Free "x"))) = some (["xs"], true) := by decide +kernel
  have hinside : ((Guard.ofText "x in [x for x in xs]" defaultLabel).toOption.map fun g =>
      ((g.allows (outerRead "a")).outcome ()).1.toOption) = some (some true) := by decide +kernel
  have houtside : ((Guard.ofText "x in [x for x in xs]" defaultLabel).toOption.map fun g =>
      ((g.allows (outerRead "b")).outcome ()).1.toOption) = some (some false) := by decide +kernel
  cases hg : Guard.ofText "x in [x for x in xs]" defaultLabel with
  | error f => simp [hg, Except.toOption] at hread
  | ok g =>
    simp only [hg, Except.toOption, Option.map_some, Option.some.injEq, Prod.mk.injEq,
      decide_eq_true_eq] at hread hinside houtside
    obtain ⟨hnames, hfree⟩ := hread
    refine ⟨g, rfl, hnames, hfree, outerRead "a", outerRead "b", ⟨rfl, rfl, rfl⟩, ?_, hinside, houtside⟩
    intro n hn
    rw [hnames, List.mem_singleton] at hn
    subst hn
    rfl

end Guard

end AccessPolicy
