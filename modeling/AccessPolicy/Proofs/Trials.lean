import AccessPolicy.Proofs.Protocol
import AccessPolicy.Proofs.Builtins

/-!
Containers under a guard. The guard is asked about one element after another, once about each and in the order
of iteration, until there are no more or it fails. What is left is a container of the same kind, as far as there
is such a kind, with the elements for which the guard came to truth itself.
-/

namespace AccessPolicy

variable {σ : Type} {g : Guard} {ctx : Context σ}

/-- What a guard is asked about in a container: the entries of a mapping, and otherwise what iteration yields. -/
def Value.elements : Value → List Value
  | .mapping _ entries => entries.map fun e => .entry e.1 e.2
  | v => v.items?.getD []

/-- Evaluations of a guard for elements, each in the world that the one before has left. The answers are the
elements with what the guard came to for them; a failure ends the evaluations. -/
inductive Trials (g : Guard) (ctx : Context σ) :
    List Value → σ → List (Value × Value) → Option Failure → σ → Prop
  | done {s} : Trials g ctx [] s [] none s
  | answered {e es s t u v answers ending} :
      (g.evaluate (ctx.withVariables [(elementName, e)])).outcome s = (.ok v, t) →
      Trials g ctx es t answers ending u → Trials g ctx (e :: es) s ((e, v) :: answers) ending u
  | failed {e es s t f} :
      (g.evaluate (ctx.withVariables [(elementName, e)])).outcome s = (.error f, t) →
      Trials g ctx (e :: es) s [] (some f) t

/-- The elements for which a guard came to truth itself. -/
def admitted (answers : List (Value × Value)) : List Value :=
  (answers.filter fun a => Guard.passes a.2).map Prod.fst

/-- What remains of a container when it is made anew of some of its elements. -/
inductive Remains : Value → List Value → Value → Prop
  | tuple {items kept} : Remains (.tuple items) kept (.tuple kept)
  | peer {host port kept} : Remains (.peer host port) kept (.tuple kept)
  | array {code items kept} : Remains (.array code items) kept (.array code kept)
  | ordered {entries : List (Value × Value)} {kept : List (Value × Value)} :
      Remains (.mapping .ordered entries) (kept.map fun e => .entry e.1 e.2) (.mapping .ordered kept)
  | mapping {kind} {entries : List (Value × Value)} {kept : List (Value × Value)} : kind ≠ .ordered →
      Remains (.mapping kind entries) (kept.map fun e => .entry e.1 e.2) (.dict kept)
  | set {items kept} : Remains (.set items) kept (.set kept)
  | frozenSet {items kept} : Remains (.frozenSet items) kept (.frozenSet kept)
  | view {kind items kept} : Remains (.view kind items) kept (.set kept)
  | list {items kept} : Remains (.list items) kept (.list kept)
  | deque {items kept} : Remains (.deque items) kept (.list kept)
  | range {start stop step kept} : Remains (.range start stop step) kept (.list kept)

namespace Trials

variable {es : List Value} {s t : σ} {answers : List (Value × Value)} {ending : Option Failure}

theorem complete (h : Trials g ctx es s answers none t) : answers.map Prod.fst = es := by
  generalize hending : (none : Option Failure) = ending at h
  induction h with
  | done => rfl
  | answered _ _ ih => rw [List.map_cons, ih hending]
  | failed _ => cases hending

theorem unchanged (h : Trials g ctx es s answers ending t)
    (hpure : ∀ e ∈ es, ∀ u, ((g.evaluate (ctx.withVariables [(elementName, e)])).outcome u).2 = u) : t = s := by
  induction h with
  | done => rfl
  | @answered e es s t u v answers ending he _ ih =>
    have hs := hpure e List.mem_cons_self s
    rw [he] at hs
    exact (ih fun e' he' => hpure e' (List.mem_cons_of_mem e he')).trans hs
  | @failed e es s t f he =>
    have hs := hpure e List.mem_cons_self s
    rwa [he] at hs

end Trials

section Keeping

variable {α : Type}

/-- How the evaluations for the elements of a container decide what becomes of it. -/
def Guard.Sifts (g : Guard) (ctx : Context σ) (v : Value) (s : σ) : Prop :=
  ∃ answers ending t, Trials g ctx v.elements s answers ending t ∧
    (∀ f, ending = some f → (g.filter ctx v).outcome s = (.error f, t)) ∧
    (ending = none →
      ∃ w, Remains v (admitted answers) w ∧ (g.filter ctx v).outcome s = (.ok w, t))

theorem outcome_allows (g : Guard) (ctx : Context σ) (s : σ) :
    (g.allows ctx).outcome s =
      (((g.evaluate ctx).outcome s).1.map Guard.passes, ((g.evaluate ctx).outcome s).2) := by
  unfold Guard.allows
  rw [bind_pure_comp, Run.outcome_map]

/-- Elements that stand for what a guard is asked about are kept as the guard's answers say. -/
theorem keepM_trials (g : Guard) (ctx : Context σ) (embed : α → Value) (as : List α) (s : σ) :
    ∃ answers ending t, Trials g ctx (as.map embed) s answers ending t ∧
      (∀ f, ending = some f →
        (keepM (fun a => g.allows (ctx.withVariables [(elementName, embed a)])) as).outcome s = (.error f, t)) ∧
      (ending = none → ∃ kept, kept.map embed = admitted answers ∧
        (keepM (fun a => g.allows (ctx.withVariables [(elementName, embed a)])) as).outcome s = (.ok kept, t)) := by
  induction as generalizing s with
  | nil => exact ⟨[], none, s, .done, nofun, fun _ => ⟨[], rfl, rfl⟩⟩
  | cons a as ih =>
    have hallows := outcome_allows g (ctx.withVariables [(elementName, embed a)]) s
    cases he : (g.evaluate (ctx.withVariables [(elementName, embed a)])).outcome s with
    | mk r t =>
      rw [he] at hallows
      cases r with
      | error f =>
        refine ⟨[], some f, t, .failed he, ?_, nofun⟩
        rintro _ ⟨⟩
        exact Run.outcome_bind_error hallows _
      | ok v =>
        obtain ⟨answers, ending, u, htrials, hfailed, hkept⟩ := ih t
        refine ⟨(embed a, v) :: answers, ending, u, .answered he htrials, ?_, ?_⟩
        · intro f hf
          rw [keepM, Run.outcome_bind_ok hallows]
          exact Run.outcome_bind_error (hfailed f hf) _
        · intro hnone
          obtain ⟨kept, hadmitted, hrest⟩ := hkept hnone
          rw [keepM, Run.outcome_bind_ok hallows, Run.outcome_bind_ok hrest]
          simp only [admitted, List.filter_cons]
          cases Guard.passes v with
          | true => exact ⟨a :: kept, congrArg (embed a :: ·) hadmitted, rfl⟩
          | false => exact ⟨kept, hadmitted, rfl⟩

/-- A container is sifted when it is made anew of the elements that are kept. -/
theorem Guard.sifts_of_keepM {v : Value} {as : List α} (embed : α → Value) {build : List α → Value}
    (hfilter : g.filter ctx v = (do
      let kept ← keepM (fun a => g.allows (ctx.withVariables [(elementName, embed a)])) as
      return build kept))
    (helements : as.map embed = v.elements) (hbuild : ∀ kept, Remains v (kept.map embed) (build kept)) (s : σ) :
    g.Sifts ctx v s := by
  obtain ⟨answers, ending, t, htrials, hfailed, hkept⟩ := keepM_trials g ctx embed as s
  rw [helements] at htrials
  refine ⟨answers, ending, t, htrials, ?_, ?_⟩
  · intro f hf
    rw [hfilter]
    exact Run.outcome_bind_error (hfailed f hf) _
  · intro hnone
    obtain ⟨kept, hadmitted, houtcome⟩ := hkept hnone
    refine ⟨build kept, hadmitted ▸ hbuild kept, ?_⟩
    rw [hfilter, Run.outcome_bind_ok houtcome]
    rfl

theorem keepM_congr {keep keep' : α → Run σ Bool} {as : List α} (h : ∀ a ∈ as, keep a = keep' a) :
    keepM keep as = keepM keep' as := by
  induction as with
  | nil => rfl
  | cons a as ih =>
    rw [keepM, keepM, h a List.mem_cons_self, ih fun b hb => h b (List.mem_cons_of_mem a hb)]

/-- A set takes in whatever passes, if it can hold it. -/
theorem forSet_eq {keep : Value → Run σ Bool} {v : Value} (hv : v.isHashable = true) : forSet keep v = keep v := by
  simp only [forSet, hv, Bool.not_true, Bool.and_false, Bool.false_eq_true, ↓reduceIte, bind_pure]

end Keeping

/-- Whether the elements of a view can all be held by a set. -/
def Value.FitsSet : Value → Prop
  | .view _ items => ∀ e ∈ items, e.isHashable = true
  | _ => True

/-- The same where the guard is asked about the elements themselves. -/
theorem Guard.sifts_of_items {v : Value} {items : List Value} {build : List Value → Value}
    (hfilter : g.filter ctx v = (do
      let kept ← keepM (fun e => g.allows (ctx.withVariables [(elementName, e)])) items
      return build kept))
    (helements : items = v.elements) (hbuild : ∀ kept, Remains v kept (build kept)) (s : σ) : g.Sifts ctx v s := by
  refine sifts_of_keepM id hfilter ((List.map_id items).trans helements) (fun kept => ?_) s
  rw [List.map_id]
  exact hbuild kept

theorem Guard.sifts (g : Guard) (ctx : Context σ) {v : Value} (hv : v.isFilterable = true) (hset : v.FitsSet)
    (s : σ) : g.Sifts ctx v s := by
  cases v with
  | tuple items => exact sifts_of_items rfl rfl (fun kept => .tuple) s
  | peer host port => exact sifts_of_items rfl rfl (fun kept => .peer) s
  | array code items => exact sifts_of_items rfl rfl (fun kept => .array) s
  | set items => exact sifts_of_items rfl rfl (fun kept => .set) s
  | frozenSet items => exact sifts_of_items rfl rfl (fun kept => .frozenSet) s
  | list items => exact sifts_of_items rfl rfl (fun kept => .list) s
  | deque items => exact sifts_of_items rfl rfl (fun kept => .deque) s
  | range start stop step => exact sifts_of_items rfl rfl (fun kept => .range) s
  | mapping kind entries =>
    cases kind with
    | ordered => exact sifts_of_keepM _ rfl rfl (fun kept => .ordered) s
    | plain => exact sifts_of_keepM _ rfl rfl (fun kept => .mapping (by decide)) s
    | readOnly => exact sifts_of_keepM _ rfl rfl (fun kept => .mapping (by decide)) s
  | view kind items =>
    let keep (element : Value) : Run σ Bool := g.allows (ctx.withVariables [(elementName, element)])
    have hkeep : keepM (forSet keep) items = keepM keep items := keepM_congr fun e he => forSet_eq (hset e he)
    refine sifts_of_items ?_ rfl (fun kept => .view) s
    cases kind with
    | values => cases hv
    | keys | items => exact congrArg (· >>= fun kept => pure (Value.set kept)) hkeep
  | _ => cases hv

/-- What filtering does with any value. Nothing is left of nothing, and what is no container is refused. A
container is gone through once: its elements, or the entries of a mapping, are put to the guard one by one, under
the name that is kept for elements and with everything else as it was. If the guard fails for one of them, this
is the end; otherwise a container of the same kind remains, with the elements for which the guard came to truth
itself, in their order. Nothing changes in the world but what the guard itself changes. -/
theorem Guard.filter_by_trials (g : Guard) (ctx : Context σ) (v : Value) (s : σ) :
    (v = .null → (g.filter ctx v).outcome s = (.ok .null, s)) ∧
    (v ≠ .null → v.isFilterable = false →
      (g.filter ctx v).outcome s = (.error (.configuration (.notFilterable v.typeName)), s)) ∧
    (v.isFilterable = true → v.FitsSet →
      ∃ answers ending t, Trials g ctx v.elements s answers ending t ∧
        (∀ f, ending = some f → (g.filter ctx v).outcome s = (.error f, t)) ∧
        (ending = none → answers.map Prod.fst = v.elements ∧
          ∃ w, Remains v (admitted answers) w ∧ (g.filter ctx v).outcome s = (.ok w, t)) ∧
        ((∀ e ∈ v.elements, ∀ u, ((g.evaluate (ctx.withVariables [(elementName, e)])).outcome u).2 = u) →
          t = s)) ∧
    ∀ e n, (ctx.withVariables [(elementName, e)]).bindings.lookup n =
      if n = elementName then some e else ctx.bindings.lookup n := by
  refine ⟨?_, ?_, ?_, fun e n => ctx.lookup_withElement e n⟩
  · rintro rfl
    rfl
  · intro hnull hv
    cases v with
    | null => exact absurd rfl hnull
    | view kind items =>
      cases kind with
      | values => rfl
      | keys | items => cases hv
    | tuple | peer | array | set | frozenSet | list | deque | range | mapping => cases hv
    | _ => rfl
  · intro hv hset
    obtain ⟨answers, ending, t, htrials, hfailed, hkept⟩ := g.sifts ctx hv hset s
    refine ⟨answers, ending, t, htrials, hfailed, ?_, htrials.unchanged⟩
    rintro rfl
    exact ⟨htrials.complete, hkept rfl⟩

end AccessPolicy
