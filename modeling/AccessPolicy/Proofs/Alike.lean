import AccessPolicy.Proofs.LackingCalls
import AccessPolicy.Proofs.KnownNames

/-!
Computations that nobody can tell apart who sees their results. They start in worlds that are related, end
with the same result and leave worlds that are related again. An evaluation that is not given a predicate
never asks it, so contexts that decide only that predicate differently evaluate expressions alike.
-/

namespace AccessPolicy

variable {σ α β : Type} {W : σ → σ → Prop} {P : α → Prop} {Q : β → Prop}

/-- Whether computations that start in related worlds have the same result, which has a property if it is a
value, and leave related worlds. -/
def Run.Alike (W : σ → σ → Prop) (P : α → Prop) (x y : Run σ α) : Prop :=
  ∀ s t, W s t → ∃ r s' t', x.outcome s = (r, s') ∧ y.outcome t = (r, t') ∧ W s' t' ∧ ∀ a, r = .ok a → P a

namespace Run.Alike

theorem pure {a : α} (h : P a) : Alike W P (Pure.pure a) (Pure.pure a) :=
  fun s t hw => ⟨.ok a, s, t, rfl, rfl, hw, fun _ hb => Except.ok.inj hb ▸ h⟩

theorem throw (f : Failure) : Alike W P (MonadExcept.throw f) (MonadExcept.throw f) :=
  fun s t hw => ⟨.error f, s, t, rfl, rfl, hw, by rintro _ ⟨⟩⟩

theorem attempt {x : Attempt α} (h : x.Gives P) : Alike W P (Run.attempt x) (Run.attempt x) := by
  cases x with
  | error f => exact throw (.operand f)
  | ok a => exact pure (h a rfl)

theorem bind {x y : Run σ α} {k l : α → Run σ β} (h : Alike W P x y) (hk : ∀ a, P a → Alike W Q (k a) (l a)) :
    Alike W Q (x >>= k) (y >>= l) := by
  intro s t hw
  obtain ⟨r, s', t', hx, hy, hw', hP⟩ := h s t hw
  rw [outcome_bind, outcome_bind, hx, hy]
  cases r with
  | error f => exact ⟨.error f, s', t', rfl, rfl, hw', by rintro _ ⟨⟩⟩
  | ok a => exact hk a (hP a rfl) s' t' hw'

theorem map {x y : Run σ α} {k : α → β} (h : Alike W P x y) (hk : ∀ a, P a → Q (k a)) :
    Alike W Q (k <$> x) (k <$> y) := by
  rw [map_eq_pure_bind, map_eq_pure_bind]
  exact h.bind fun a ha => pure (hk a ha)

theorem tryCatch {x y : Run σ α} {k l : Failure → Run σ α} (h : Alike W P x y)
    (hk : ∀ f, Alike W P (k f) (l f)) : Alike W P (MonadExcept.tryCatch x k) (MonadExcept.tryCatch y l) := by
  intro s t hw
  obtain ⟨r, s', t', hx, hy, hw', hP⟩ := h s t hw
  rw [outcome_tryCatch, outcome_tryCatch, hx, hy]
  cases r with
  | error f => exact hk f s' t' hw'
  | ok a => exact ⟨.ok a, s', t', rfl, rfl, hw', hP⟩

end Run.Alike

/-- The same of evaluations that have counted as many elements before. -/
def Evaluation.Alike (W : σ → σ → Prop) (P : α → Prop) (x y : Evaluation σ α) : Prop :=
  ∀ n, Run.Alike W (fun r => P r.1) (x.run n) (y.run n)

namespace Evaluation.Alike

theorem pure {a : α} (h : P a) : Alike W P (Pure.pure a) (Pure.pure a) := fun _ => .pure h

theorem throw (f : Failure) : Alike W P (MonadExcept.throw f) (MonadExcept.throw f) := fun _ => .throw f

theorem liftM {x y : Run σ α} (h : x.Alike W P y) : Alike W P (liftM x) (liftM y) :=
  fun _ => h.bind fun _ ha => .pure ha

theorem attempt {x : Attempt α} (h : x.Gives P) : Alike W P (Evaluation.attempt x) (Evaluation.attempt x) :=
  liftM (.attempt h)

theorem bind {x y : Evaluation σ α} {k l : α → Evaluation σ β} (h : Alike W P x y)
    (hk : ∀ a, P a → Alike W Q (k a) (l a)) : Alike W Q (x >>= k) (y >>= l) :=
  fun n => (h n).bind fun r hr => hk r.1 hr r.2

theorem ite {x x' y y' : Evaluation σ α} {c : Prop} [Decidable c] (h : Alike W P x y) (h' : Alike W P x' y') :
    Alike W P (if c then x else x') (if c then y else y') := by
  split
  · exact h
  · exact h'

/-- What is known of the values that an evaluation can end with is known of the common result. -/
theorem yielding {x y : Evaluation σ α} (h : Alike W (fun _ => True) x y) (hP : ∀ a, x.Yields a → P a) :
    Alike W P x y := by
  intro n s t hw
  obtain ⟨r, s', t', hx, hy, hw', _⟩ := h n s t hw
  refine ⟨r, s', t', hx, hy, hw', ?_⟩
  rintro ⟨a, m⟩ rfl
  exact hP a ⟨n, s, m, s', hx⟩

theorem foldlM {f g : β → α → Evaluation σ β} {as : List α} {b : β}
    (hf : ∀ b a, Q b → P a → Alike W Q (f b a) (g b a)) (has : ∀ a ∈ as, P a) (hb : Q b) :
    Alike W Q (as.foldlM f b) (as.foldlM g b) := by
  induction as generalizing b with
  | nil => exact pure hb
  | cons a as ih =>
    rw [List.foldlM_cons, List.foldlM_cons]
    refine bind (hf b a hb (has a List.mem_cons_self)) fun c hc => ?_
    exact ih (fun a ha => has a (List.mem_cons_of_mem _ ha)) hc

end Evaluation.Alike

/-- Whatever the relation between worlds is, evaluations by themselves do not touch them. -/
def Simulation.alike (W : σ → σ → Prop) : Simulation σ σ where
  related := Evaluation.Alike W fun _ => True
  value _ := .pure trivial
  failure _ := .throw _
  next := by
    intro α β x y k l h hk
    exact (h.yielding fun _ ha => ha).bind hk
  count := fun n s t hw => ⟨.ok ((), n + 1), s, t, rfl, rfl, hw, fun _ _ => trivial⟩
  counted := fun n s t hw => ⟨.ok (n, n), s, t, rfl, rfl, hw, fun _ _ => trivial⟩

theorem Evaluation.Alike.after {x y : Evaluation σ α} {k l : α → Evaluation σ β}
    (h : (Simulation.alike W).related x y) (hk : ∀ a, Alike W Q (k a) (l a)) : Alike W Q (x >>= k) (y >>= l) :=
  bind (P := fun _ => True) h fun a _ => hk a

variable {p : Predicate}

theorem assign_lacks {n : String} {v : Value} {bs : Bindings} (hv : v.lacks p = true)
    (h : ∀ b ∈ bs, b.2.lacks p = true) : ∀ b ∈ Bindings.assign n v bs, b.2.lacks p = true := by
  induction bs with
  | nil => simpa [Bindings.assign] using hv
  | cons b bs ih =>
    obtain ⟨hb, hbs⟩ := List.forall_mem_cons.mp h
    obtain ⟨m, w⟩ := b
    simp only [Bindings.assign]
    split
    · exact List.forall_mem_cons.mpr ⟨hv, hbs⟩
    · exact List.forall_mem_cons.mpr ⟨hb, ih hbs⟩

namespace Evaluation

mutual

theorem bindTarget_lacks {v : Value} (hv : v.lacks p = true) : ∀ (target : Expr) {bs : Bindings},
    (∀ b ∈ bs, b.2.lacks p = true) → (bindTarget v target bs).Gives (∀ b ∈ ·, b.2.lacks p = true)
  | .name _, _, h => .ok (assign_lacks hv h)
  | .tuple es, _, h => .bind (Value.items_lack hv) fun vs hvs => bindTargets_lack es vs hvs h
  | .list es, _, h => .bind (Value.items_lack hv) fun vs hvs => bindTargets_lack es vs hvs h
  | .literal _, _, _ | .attribute .., _, _ | .subscript .., _, _ | .slice .., _, _ | .call .., _, _
  | .unary .., _, _ | .binary .., _, _ | .connected .., _, _ | .compared .., _, _ | .conditional .., _, _
  | .set _, _, _ | .dict _, _, _ | .starred _, _, _ | .comprehension .., _, _ | .dictComprehension .., _, _
  | .interpolated _, _, _ | .lambda .., _, _ | .await _, _, _ | .yield _, _, _ | .yieldFrom _, _, _
  | .assignment .., _, _ => .error _
termination_by structural target => target

theorem bindTargets_lack : ∀ (es : List Expr) (vs : List Value) {bs : Bindings},
    (∀ v ∈ vs, v.lacks p = true) → (∀ b ∈ bs, b.2.lacks p = true) →
    (bindTargets vs es bs).Gives (∀ b ∈ ·, b.2.lacks p = true)
  | [], _, _, _, h => .ok h
  | _ :: _, [], _, _, h => .ok h
  | e :: es, _ :: vs, _, hvs, h =>
    have ⟨hv, hvs⟩ := List.forall_mem_cons.mp hvs
    .bind (bindTarget_lacks hv e h) fun _ hcs => bindTargets_lack es vs hvs hcs
termination_by structural es => es

end

theorem literal_yields {c : Literal} {v : Value} (h : (literal c : Evaluation σ Value).Yields v) :
    v = c.value := by
  unfold literal at h
  split at h
  · split at h
    · exact (yields_throw h).elim
    · exact (yields_pure h).symm
  · exact (yields_pure h).symm

theorem attributeOf_lacks {source : String} {v w : Value} {attr : String} (hv : v.lacks p = true)
    (h : (attributeOf source v attr : Evaluation σ Value).Yields w) : w.lacks p = true := by
  unfold attributeOf at h
  split at h
  next u hu =>
    cases yields_pure h
    exact Value.attribute?_lacks hv hu
  next =>
    split at h
    next hu => exact Value.subscript_lacks _ hv w (yields_pure h ▸ hu)
    next => exact (yields_throw h).elim
    next => exact (yields_throw h).elim
    next => exact (yields_throw h).elim

end Evaluation

/-- Contexts that know the same names, none of them for a predicate, and answer alike as long as they are not
asked it. -/
structure Context.Barring (W : σ → σ → Prop) (p : Predicate) (ctx ctx' : Context σ) : Prop where
  bindings : ctx.bindings = ctx'.bindings
  predicates : ctx.predicates = ctx'.predicates
  values : ∀ b ∈ ctx.bindings, b.2.lacks p = true
  unknown : p ∉ ctx.predicates
  calls : ∀ f vs named, f.lacks p = true → (∀ v ∈ vs, v.lacks p = true) →
    (∀ b ∈ named, b.2.lacks p = true) → (ctx.call f vs named).Alike W (·.lacks p = true) (ctx'.call f vs named)

namespace Context

variable {ctx ctx' : Context σ}

theorem function?_congr (h : ctx.predicates = ctx'.predicates) (n : String) :
    ctx.function? n = ctx'.function? n := by
  unfold function? conversions
  rw [h]

theorem function?_lacks (h : p ∉ ctx.predicates) {n : String} {f : Function}
    (hf : ctx.function? n = some f) : f.lacks p = true := by
  unfold function? at hf
  split at hf
  next q hq =>
    cases hf
    have hne : q ≠ p := fun heq => h (heq ▸ List.mem_of_find?_eq_some hq)
    simpa [Function.lacks] using hne
  next =>
    split at hf
    next => cases hf; rfl
    next =>
      obtain ⟨c, _, rfl⟩ := Option.map_eq_some_iff.mp hf
      rfl

end Context

namespace Evaluation

variable {ctx ctx' : Context σ} {source : String}

theorem alike_name (h : Context.Barring W p ctx ctx') {extra : Bindings} (hextra : ∀ b ∈ extra, b.2.lacks p = true)
    (n : String) :
    Alike W (·.lacks p = true) (eval ctx source extra (.name n)) (eval ctx' source extra (.name n)) := by
  simp only [eval, ← h.bindings, ← Context.function?_congr h.predicates]
  split
  next hv => exact .pure (lookup_lacks hextra hv)
  next =>
    split
    next hv => exact .pure (lookup_lacks h.values hv)
    next =>
      split
      next hf => exact .pure (Context.function?_lacks h.unknown hf)
      next => exact .throw _

theorem alike_literal (c : Literal) :
    Alike W (·.lacks p = true) (literal (σ := σ) c) (literal c) :=
  ((Simulation.alike W).literal c).yielding fun _ hv => literal_yields hv ▸ c.value_lacks

theorem alike_attributeOf {v : Value} {attr : String} (hv : v.lacks p = true) :
    Alike W (·.lacks p = true) (attributeOf (σ := σ) source v attr) (attributeOf source v attr) :=
  ((Simulation.alike W).attributeOf source v attr).yielding fun _ => attributeOf_lacks hv

mutual

/-- An evaluation that is not given a predicate ends alike wherever only that predicate is decided
differently, and gives the predicate to nobody. -/
theorem alike_eval (h : Context.Barring W p ctx ctx') {extra : Bindings}
    (hextra : ∀ b ∈ extra, b.2.lacks p = true) : ∀ e : Expr,
    Alike W (·.lacks p = true) (eval ctx source extra e) (eval ctx' source extra e)
  | .literal c => by
    simp only [eval]
    exact alike_literal c
  | .name n => alike_name h hextra n
  | .attribute base attr => by
    simp only [eval]
    refine .after ((Simulation.alike W).guardAttribute attr) fun _ => ?_
    exact .bind (alike_eval h hextra base) fun v hv => alike_attributeOf hv
  | .subscript base index => by
    simp only [eval]
    refine .bind (alike_eval h hextra base) fun v hv => ?_
    exact .bind (alike_eval h hextra index) fun w _ => .attempt (Value.subscript_lacks w hv)
  | .slice lower upper step => by
    simp only [eval]
    refine .bind (alike_evalMaybe h hextra lower) fun l hl => ?_
    refine .bind (alike_evalMaybe h hextra upper) fun u hu => ?_
    exact .bind (alike_evalMaybe h hextra step) fun w hw => .pure (by simp [Value.lacks, hl, hu, hw])
  | .call callee args keywords => by
    cases callee with
    -- A called name denotes a predicate that the contexts know, so another one than the one barred.
    | name n =>
      simp only [eval, ← Context.function?_congr h.predicates]
      split
      next f hf =>
        have hf := Context.function?_lacks h.unknown hf
        refine .bind (alike_evalAll h hextra args) fun vs hvs => ?_
        refine .bind (alike_evalKeywords h hextra (List.forall_mem_nil _) keywords) fun named hnamed => ?_
        exact .liftM (h.calls (.function f) vs named hf hvs hnamed)
      next => exact .throw _
    | «attribute» base attr =>
      simp only [eval]
      refine .after ((Simulation.alike W).guardAttribute attr) fun _ => ?_
      refine .bind (alike_eval h hextra base) fun v hv => ?_
      refine .bind (alike_attributeOf hv) fun f hf => ?_
      refine .bind (alike_evalAll h hextra args) fun vs hvs => ?_
      refine .bind (alike_evalKeywords h hextra (List.forall_mem_nil _) keywords) fun named hnamed => ?_
      exact .liftM (h.calls f vs named hf hvs hnamed)
    | _ =>
      simp only [eval]
      exact .throw _
  | .unary op e => by
    simp only [eval]
    exact .bind (alike_eval h hextra e) fun v _ => .attempt UnaryOp.apply_lacks
  | .binary op a b => by
    have happly (v w : Value) (hv : v.lacks p = true) (hw : w.lacks p = true) :
        Alike W (fun u : Value => u.lacks p = true) (attempt (σ := σ) (op.apply v w)) (attempt (op.apply v w)) :=
      .attempt (BinaryOp.apply_lacks hv hw)
    have hoperands : Alike W (fun u : Value => u.lacks p = true) _ _ :=
      .bind (alike_eval h hextra a) fun v hv => .bind (alike_eval h hextra b) fun w hw =>
        .after ((Simulation.alike W).guardSize op v w) fun _ => happly v w hv hw
    cases op with
    | matrixMultiply =>
      simp only [eval]
      exact .throw _
    | _ => simpa only [eval] using hoperands
  | .connected op es => by
    simp only [eval]
    exact alike_evalConnected h hextra op es
  | .compared e rest => by
    simp only [eval]
    -- What is compared is not given on, only the outcome is.
    exact .bind (alike_eval h hextra e) fun v hv => alike_evalCompared h hextra rfl rest
  | .conditional test body orelse => by
    simp only [eval]
    exact .bind (alike_eval h hextra test) fun _ _ => .ite (alike_eval h hextra body) (alike_eval h hextra orelse)
  | .list es => by
    simp only [eval]
    exact .bind (alike_evalSpread h hextra es) fun vs hvs => .pure (allLack_iff.mpr hvs)
  | .tuple es => by
    simp only [eval]
    exact .bind (alike_evalAll h hextra es) fun vs hvs => .pure (allLack_iff.mpr hvs)
  | .set es => by
    simp only [eval]
    exact .bind (alike_evalAll h hextra es) fun vs hvs =>
      .ite (.pure (allLack_iff.mpr (distinct_lacks hvs))) (.throw _)
  | .dict items => by
    simp only [eval]
    exact .bind (alike_evalItems h hextra (List.forall_mem_nil _) items) fun es hes =>
      .pure (entriesLack_iff.mpr hes)
  | .comprehension kind e clauses => by
    have hemit (bs : Bindings) (hbs : ∀ b ∈ bs, b.2.lacks p = true) :
        Alike W (fun d : Value × Value => d.1.lacks p = true ∧ d.2.lacks p = true)
          (do return (Value.null, ← eval ctx source bs e)) (do return (Value.null, ← eval ctx' source bs e)) :=
      .bind (alike_eval h hbs e) fun v hv => .pure ⟨rfl, hv⟩
    have hlist (r : Bindings × List (Value × Value)) (hr : ∀ d ∈ r.2, d.1.lacks p = true ∧ d.2.lacks p = true) :
        (Value.list (r.2.reverse.map Prod.snd)).lacks p = true := by
      refine allLack_iff.mpr fun v hv => ?_
      obtain ⟨d, hd, rfl⟩ := List.mem_map.mp hv
      exact (hr d (List.mem_reverse.mp hd)).2
    have hclauses : Alike W (fun u : Value => u.lacks p = true) _ _ :=
      .bind (alike_evalClauses h hextra hemit clauses (List.forall_mem_nil _) (List.forall_mem_nil _)) fun r hr =>
        .pure (hlist r hr.2)
    cases kind with
    | set =>
      simp only [eval]
      exact .throw _
    | list => simpa only [eval] using hclauses
    | generator => simpa only [eval] using hclauses
  | .dictComprehension k v clauses => by
    simp only [eval]
    -- An element is evaluated before its key, and the entries stand in reverse until the last clause is done.
    refine .bind (alike_evalClauses h hextra (fun bs hbs => ?_) clauses (List.forall_mem_nil _)
      (List.forall_mem_nil _)) fun r hr => .pure (entriesLack_iff.mpr ?_)
    · refine .bind (alike_eval h hbs v) fun value hvalue => ?_
      exact .bind (alike_eval h hbs k) fun key hkey => .ite (.pure ⟨hkey, hvalue⟩) (.throw _)
    · exact insertEntries_lack (List.forall_mem_nil _) fun d hd => hr.2 d (List.mem_reverse.mp hd)
  | .interpolated pieces => by
    simp only [eval]
    exact .bind (alike_evalPieces h hextra "" pieces) fun _ _ => .pure rfl
  | .starred _ | .lambda .. | .await _ | .yield _ | .yieldFrom _ | .assignment .. => by
    simp only [eval]
    exact .throw _
termination_by structural e => e

theorem alike_evalMaybe (h : Context.Barring W p ctx ctx') {extra : Bindings}
    (hextra : ∀ b ∈ extra, b.2.lacks p = true) : ∀ e : Option Expr,
    Alike W (·.lacks p = true) (evalMaybe ctx source extra e) (evalMaybe ctx' source extra e)
  | none => by
    simp only [evalMaybe]
    exact .pure rfl
  | some e => by
    simp only [evalMaybe]
    exact alike_eval h hextra e
termination_by structural e => e

theorem alike_evalAll (h : Context.Barring W p ctx ctx') {extra : Bindings}
    (hextra : ∀ b ∈ extra, b.2.lacks p = true) : ∀ es : List Expr,
    Alike W (∀ v ∈ ·, v.lacks p = true) (evalAll ctx source extra es) (evalAll ctx' source extra es)
  | [] => by
    simp only [evalAll]
    exact .pure (List.forall_mem_nil _)
  | e :: es => by
    simp only [evalAll]
    refine .bind (alike_eval h hextra e) fun v hv => ?_
    exact .bind (alike_evalAll h hextra es) fun vs hvs => .pure (List.forall_mem_cons.mpr ⟨hv, hvs⟩)
termination_by structural es => es

theorem alike_evalSpread (h : Context.Barring W p ctx ctx') {extra : Bindings}
    (hextra : ∀ b ∈ extra, b.2.lacks p = true) : ∀ es : List Expr,
    Alike W (∀ v ∈ ·, v.lacks p = true) (evalSpread ctx source extra es) (evalSpread ctx' source extra es)
  | [] => by
    simp only [evalSpread]
    exact .pure (List.forall_mem_nil _)
  | e :: es => by
    have hrest := alike_evalSpread h hextra es
    cases e with
    | starred e =>
      simp only [evalSpread]
      refine .bind (alike_eval h hextra e) fun v hv => .bind (.attempt (Value.items_lack hv)) fun vs hvs => ?_
      exact .bind hrest fun ws hws => .pure (List.forall_mem_append.mpr ⟨hvs, hws⟩)
    | _ =>
      simp only [evalSpread]
      exact .bind (alike_eval h hextra _) fun v hv => .bind hrest fun ws hws =>
        .pure (List.forall_mem_cons.mpr ⟨hv, hws⟩)
termination_by structural es => es

theorem alike_evalKeywords (h : Context.Barring W p ctx ctx') {extra sofar : Bindings}
    (hextra : ∀ b ∈ extra, b.2.lacks p = true) (hsofar : ∀ b ∈ sofar, b.2.lacks p = true) :
    ∀ ks : List Keyword,
    Alike W (∀ b ∈ ·, b.2.lacks p = true) (evalKeywords ctx source extra sofar ks)
      (evalKeywords ctx' source extra sofar ks)
  | [] => by
    simp only [evalKeywords]
    exact .pure hsofar
  | .mk (some n) e :: ks => by
    simp only [evalKeywords]
    exact .bind (alike_eval h hextra e) fun v hv => alike_evalKeywords h hextra (assign_lacks hv hsofar) ks
  | .mk none e :: ks => by
    simp only [evalKeywords]
    refine .bind (alike_eval h hextra e) fun _ _ => ?_
    exact .bind (alike_evalKeywords h hextra hsofar ks) fun _ _ => .throw _
termination_by structural ks => ks

theorem alike_evalConnected (h : Context.Barring W p ctx ctx') {extra : Bindings}
    (hextra : ∀ b ∈ extra, b.2.lacks p = true) (op : Connective) : ∀ es : List Expr,
    Alike W (·.lacks p = true) (evalConnected ctx source extra op es) (evalConnected ctx' source extra op es)
  | [] => by
    simp only [evalConnected]
    exact .pure rfl
  | [e] => by
    simp only [evalConnected]
    exact alike_eval h hextra e
  | e :: e' :: es => by
    simp only [evalConnected]
    refine .bind (alike_eval h hextra e) fun v hv => ?_
    exact .ite (.pure hv) (alike_evalConnected h hextra op (e' :: es))
termination_by structural es => es

theorem alike_evalCompared (h : Context.Barring W p ctx ctx') {extra : Bindings}
    (hextra : ∀ b ∈ extra, b.2.lacks p = true) {outcome left : Value} {shared : Bool}
    (houtcome : outcome.lacks p = true) : ∀ rest : List Comparison,
    Alike W (·.lacks p = true) (evalCompared ctx source extra outcome left shared rest)
      (evalCompared ctx' source extra outcome left shared rest)
  | [] => by
    simp only [evalCompared]
    exact .pure houtcome
  | .mk op e :: rest => by
    simp only [evalCompared]
    refine .ite (.bind (alike_eval h hextra e) fun right _ => ?_) (.pure houtcome)
    exact .bind (.attempt CompareOp.apply_lacks) fun outcome ho => alike_evalCompared h hextra ho rest
termination_by structural rest => rest

theorem alike_evalItems (h : Context.Barring W p ctx ctx') {extra : Bindings} {entries : List (Value × Value)}
    (hextra : ∀ b ∈ extra, b.2.lacks p = true)
    (hentries : ∀ d ∈ entries, d.1.lacks p = true ∧ d.2.lacks p = true) : ∀ items : List DictItem,
    Alike W (∀ d ∈ ·, d.1.lacks p = true ∧ d.2.lacks p = true) (evalItems ctx source extra entries items)
      (evalItems ctx' source extra entries items)
  | [] => by
    simp only [evalItems]
    exact .pure hentries
  | .entry k v :: items => by
    simp only [evalItems]
    refine .bind (alike_eval h hextra v) fun value hvalue => .bind (alike_eval h hextra k) fun key hkey => ?_
    exact .ite (alike_evalItems h hextra (insertEntry_lacks hentries hkey hvalue) items) (.throw _)
  | .spread e :: items => by
    simp only [evalItems]
    refine .bind (alike_eval h hextra e) fun v hv => ?_
    exact .bind (.attempt (absorb_lacks hentries hv)) fun _ hd => alike_evalItems h hextra hd items
termination_by structural items => items

theorem alike_evalClauses (h : Context.Barring W p ctx ctx') {extra : Bindings}
    {emit emit' : Bindings → Evaluation σ (Value × Value)} (hextra : ∀ b ∈ extra, b.2.lacks p = true)
    (hemit : ∀ bs : Bindings, (∀ b ∈ bs, b.2.lacks p = true) →
      Alike W (fun d => d.1.lacks p = true ∧ d.2.lacks p = true) (emit bs) (emit' bs)) :
    ∀ (gs : List Generator) {bound : Bindings} {out : List (Value × Value)},
    (∀ b ∈ bound, b.2.lacks p = true) → (∀ d ∈ out, d.1.lacks p = true ∧ d.2.lacks p = true) →
    Alike W (fun r => (∀ b ∈ r.1, b.2.lacks p = true) ∧ ∀ d ∈ r.2, d.1.lacks p = true ∧ d.2.lacks p = true)
      (evalClauses ctx source extra emit gs (bound, out)) (evalClauses ctx' source extra emit' gs (bound, out))
  | [], _, _, hbound, hout => by
    simp only [evalClauses]
    exact .bind (hemit _ (List.forall_mem_append.mpr ⟨hbound, hextra⟩)) fun d hd =>
      .pure ⟨hbound, List.forall_mem_cons.mpr ⟨hd, hout⟩⟩
  | .mk target iterable conditions :: gs, _, _, hbound, hout => by
    simp only [evalClauses]
    refine .bind (alike_eval h (List.forall_mem_append.mpr ⟨hbound, hextra⟩) iterable) fun v hv => ?_
    refine .bind (.attempt (Value.items_lack hv)) fun items hitems => ?_
    refine .foldlM ?_ hitems ⟨hbound, hout⟩
    rintro ⟨bs, ds⟩ item ⟨hbs, hds⟩ hitem
    refine .after (Simulation.alike W).countElement fun _ => ?_
    refine .bind (.attempt (bindTarget_lacks hitem target hbs)) fun cs hcs => ?_
    refine .bind (alike_evalConditions h (List.forall_mem_append.mpr ⟨hcs, hextra⟩) conditions) fun _ _ => ?_
    exact .ite (alike_evalClauses h hextra hemit gs hcs hds) (.pure ⟨hcs, hds⟩)
termination_by structural gs => gs

theorem alike_evalConditions (h : Context.Barring W p ctx ctx') {extra : Bindings}
    (hextra : ∀ b ∈ extra, b.2.lacks p = true) : ∀ es : List Expr,
    Alike W (fun _ => True) (evalConditions ctx source extra es) (evalConditions ctx' source extra es)
  | [] => by
    simp only [evalConditions]
    exact .pure trivial
  | e :: es => by
    simp only [evalConditions]
    exact .bind (alike_eval h hextra e) fun _ _ => .ite (alike_evalConditions h hextra es) (.pure trivial)
termination_by structural es => es

theorem alike_evalPieces (h : Context.Barring W p ctx ctx') {extra : Bindings}
    (hextra : ∀ b ∈ extra, b.2.lacks p = true) (sofar : String) : ∀ ps : List Piece,
    Alike W (fun _ => True) (evalPieces ctx source extra sofar ps) (evalPieces ctx' source extra sofar ps)
  | [] => by
    simp only [evalPieces]
    exact .pure trivial
  | .text s :: ps => by
    simp only [evalPieces]
    refine .after ((Simulation.alike W).literal _) fun v => ?_
    exact .after ((Simulation.alike W).addPart sofar v) fun sofar => alike_evalPieces h hextra sofar ps
  | .field e layout :: ps => by
    simp only [evalPieces]
    have hrest (part : Value) : Alike W (fun _ : String => True) _ _ :=
      .after ((Simulation.alike W).addPart sofar part) fun sofar => alike_evalPieces h hextra sofar ps
    refine .bind (alike_evalLayout h hextra layout) fun l _ => .bind (alike_eval h hextra e) fun v _ => ?_
    split
    · exact .after ((Simulation.alike W).laidOut v _) fun part => hrest part
    · exact .bind (P := fun _ => True) (.pure trivial) fun part _ => hrest part
termination_by structural ps => ps

theorem alike_evalLayout (h : Context.Barring W p ctx ctx') {extra : Bindings}
    (hextra : ∀ b ∈ extra, b.2.lacks p = true) : ∀ layout : Option (List Piece),
    Alike W (fun _ => True) (evalLayout ctx source extra layout) (evalLayout ctx' source extra layout)
  | none => by
    simp only [evalLayout]
    exact .pure trivial
  | some ps => by
    simp only [evalLayout]
    exact .bind (alike_evalPieces h hextra "" ps) fun _ _ => .pure trivial
termination_by structural layout => layout

end

end Evaluation

end AccessPolicy
