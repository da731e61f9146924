import AccessPolicy.Proofs.Demands

/-!
Evaluations of one expression in two contexts are related if what they ask their contexts for is: a single
induction over the syntax, from which statements about what evaluation depends on, what it calls and how it
fails follow by the choice of a relation.
-/

namespace AccessPolicy

namespace Evaluation

mutual

/-- Binding a target loses no name, and a plain name is bound by it. -/
theorem bindTarget_names {v : Value} : ∀ {target : Expr} {bs cs : Bindings},
    bindTarget v target bs = .ok cs → ∀ n, n ∈ bs.names ∨ target = .name n → n ∈ cs.names
  | .name m, bs, cs, h, n, hn => by
    simp only [bindTarget, Except.ok.injEq] at h
    subst h
    rw [Bindings.mem_names_assign]
    rcases hn with hn | ⟨⟨⟩⟩
    · exact .inr hn
    · exact .inl rfl
  | .tuple es, bs, cs, h, n, hn => by
    simp only [bindTarget] at h
    cases hv : v.items with
    | error f => rw [hv] at h; cases h
    | ok vs =>
      rw [hv] at h
      exact bindTargets_names h n (by simpa using hn)
  | .list es, bs, cs, h, n, hn => by
    simp only [bindTarget] at h
    cases hv : v.items with
    | error f => rw [hv] at h; cases h
    | ok vs =>
      rw [hv] at h
      exact bindTargets_names h n (by simpa using hn)
termination_by structural target => target

theorem bindTargets_names : ∀ {es : List Expr} {vs : List Value} {bs cs : Bindings},
    bindTargets vs es bs = .ok cs → ∀ n ∈ bs.names, n ∈ cs.names
  | [], vs, bs, cs, h, n, hn => by
    simp only [bindTargets, Except.ok.injEq] at h
    exact h ▸ hn
  | e :: es, [], bs, cs, h, n, hn => by
    simp only [bindTargets, Except.ok.injEq] at h
    exact h ▸ hn
  | e :: es, v :: vs, bs, cs, h, n, hn => by
    simp only [bindTargets] at h
    cases hb : bindTarget v e bs with
    | error f => rw [hb] at h; cases h
    | ok ds =>
      rw [hb] at h
      exact bindTargets_names h n (bindTarget_names hb n (.inl hn))
termination_by structural es => es

end

variable {σ : Type} {ctx : Context σ} {source : String} {extra : Bindings}

theorem element_names {β : Type} {item : Value} {target : Expr} {bs : Bindings} {b : β}
    {test : Bindings → Evaluation σ Bool} {k : Bindings → Evaluation σ (Bindings × β)} {r : Bindings × β}
    (hk : ∀ cs r, (k cs).Yields r → ∀ n ∈ cs.names, n ∈ r.1.names)
    (h : (do
      countElement
      let cs ← attempt (bindTarget item target bs)
      if ← test cs then k cs else return (cs, b) : Evaluation σ (Bindings × β)).Yields r) :
    ∀ n ∈ bs.names, n ∈ r.1.names := by
  obtain ⟨_, _, h⟩ := yields_bind h
  obtain ⟨cs, hcs, h⟩ := yields_bind h
  obtain ⟨holds, _, h⟩ := yields_bind h
  have hnames := bindTarget_names (yields_attempt hcs)
  intro n hn
  split at h
  next => exact hk cs r h n (hnames n (.inl hn))
  next =>
    cases yields_pure h
    exact hnames n (.inl hn)

theorem evalClauses_names {emit : Bindings → Evaluation σ (Value × Value)} {gs : List Generator}
    {bound : Bindings} {out : List (Value × Value)} {r : Bindings × List (Value × Value)}
    (h : (evalClauses ctx source extra emit gs (bound, out)).Yields r) :
    ∀ n ∈ bound.names, n ∈ r.1.names := by
  induction gs generalizing bound out r with
  | nil =>
    simp only [evalClauses] at h
    obtain ⟨_, _, h⟩ := yields_bind h
    cases yields_pure h
    exact fun n hn => hn
  | cons g gs ih =>
    obtain ⟨target, iterable, conditions⟩ := g
    simp only [evalClauses] at h
    obtain ⟨_, _, h⟩ := yields_bind h
    obtain ⟨items, _, h⟩ := yields_bind h
    refine yields_foldlM (P := fun p => ∀ n ∈ bound.names, n ∈ p.1.names) ?_ (fun n hn => hn) h
    intro p item r hP hr n hn
    exact element_names (fun _ _ => ih) hr n (hP n hn)

end Evaluation

namespace Simulation

open Evaluation

variable {σ τ : Type} {R : Simulation σ τ} {ctx : Context σ} {ctx' : Context τ} {source : String}

theorem related_name {bound : Bindings} {n : String} (h : R.Met ctx ctx' source bound [.value n]) :
    R.related (eval ctx source bound (.name n)) (eval ctx' source bound (.name n)) := by
  cases hv : bound.lookup n with
  | some v =>
    simp only [eval, hv]
    exact R.value v
  | none =>
    have hn := h.answers (.value n) List.mem_cons_self (by rintro m ⟨⟩; exact Bindings.lookup_eq_none.mp hv)
    simpa only [Meets, eval, hv, List.lookup_nil] using hn

mutual

/-- Evaluations of an expression are related if the answers to its demands and all calls are. -/
theorem related_eval (bound : Bindings) : ∀ e : Expr, R.Met ctx ctx' source bound e.demands →
    R.related (eval ctx source bound e) (eval ctx' source bound e)
  | .literal c, h => by
    simp only [eval]
    exact R.literal c
  | .name n, h => related_name h
  | .attribute base attr, h => by
    simp only [eval]
    refine R.next (R.guardAttribute attr) fun _ _ => ?_
    exact R.next (related_eval bound base h) fun v _ => R.attributeOf source v attr
  | .subscript base index, h => by
    simp only [eval]
    refine R.next (related_eval bound base h.left) fun v _ => ?_
    exact R.next (related_eval bound index h.right) fun w _ => R.attempt _
  | .slice lower upper step, h => by
    simp only [eval]
    refine R.next (related_evalMaybe bound lower h.left.left) fun l _ => ?_
    refine R.next (related_evalMaybe bound upper h.left.right) fun u _ => ?_
    exact R.next (related_evalMaybe bound step h.right) fun w _ => R.value _
  | .call callee args keywords, h => by
    -- Only names and attributes are called; whatever else is written there is refused.
    cases callee with
    | name n =>
      simp only [eval, h.function]
      split
      · refine R.next (related_evalAll bound args h.tail.left) fun vs _ => ?_
        exact R.next (related_evalKeywords bound [] keywords h.tail.right) fun named _ => h.calls _ vs named
      · exact R.fault rfl
    | «attribute» base attr =>
      simp only [eval]
      refine R.next (R.guardAttribute attr) fun _ _ => ?_
      refine R.next (related_eval bound base h.left.left) fun v _ => ?_
      refine R.next (R.attributeOf source v attr) fun f _ => ?_
      refine R.next (related_evalAll bound args h.left.right) fun vs _ => ?_
      exact R.next (related_evalKeywords bound [] keywords h.right) fun named _ => h.calls f vs named
    | _ =>
      simp only [eval]
      exact R.fault rfl
  | .unary op e, h => by
    simp only [eval]
    exact R.next (related_eval bound e h) fun v _ => R.attempt _
  | .binary op a b, h => by
    have hoperands := R.next (related_eval bound a h.left) fun v _ =>
      R.next (related_eval bound b h.right) fun w _ =>
        R.next (R.guardSize op v w) fun _ _ => R.attempt (op.apply v w)
    cases op with
    | matrixMultiply =>
      simp only [eval]
      exact R.fault rfl
    | _ => simpa only [eval] using hoperands
  | .connected op es, h => by
    simp only [eval]
    exact related_evalConnected bound op es h
  | .compared e rest, h => by
    simp only [eval]
    exact R.next (related_eval bound e h.left) fun v _ => related_evalCompared bound _ v _ rest h.right
  | .conditional test body orelse, h => by
    simp only [eval]
    refine R.next (related_eval bound test h.left.left) fun v _ => R.choice _ ?_ ?_
    · exact related_eval bound body h.left.right
    · exact related_eval bound orelse h.right
  | .list es, h => by
    simp only [eval]
    exact R.next (related_evalSpread bound es h) fun vs _ => R.value _
  | .tuple es, h => by
    simp only [eval]
    exact R.next (related_evalAll bound es h) fun vs _ => R.value _
  | .set es, h => by
    simp only [eval]
    exact R.next (related_evalAll bound es h) fun vs _ => R.choice _ (R.value _) (R.failure rfl)
  | .dict items, h => by
    simp only [eval]
    exact R.next (related_evalItems bound [] items h) fun entries _ => R.value _
  | .comprehension kind e clauses, h => by
    have hclauses := R.next
      (related_evalClauses bound (fun bs => do return (Value.null, ← eval ctx source bs e))
        (fun bs => do return (Value.null, ← eval ctx' source bs e))
        (fun bs hbs => R.next (related_eval bs e hbs) fun v _ => R.value _) clauses [] [] h)
      fun p _ => R.value (Value.list (p.2.reverse.map Prod.snd))
    cases kind with
    | set =>
      simp only [eval]
      exact R.fault rfl
    | list => simpa only [eval] using hclauses
    | generator => simpa only [eval] using hclauses
  | .dictComprehension k v clauses, h => by
    simp only [eval]
    refine R.next (related_evalClauses bound _ _ (fun bs hbs => ?_) clauses [] [] h) fun p _ => R.value _
    refine R.next (related_eval bs v hbs.left) fun value _ => ?_
    exact R.next (related_eval bs k hbs.right) fun key _ => R.choice _ (R.value _) (R.failure rfl)
  | .interpolated pieces, h => by
    simp only [eval]
    exact R.next (related_evalPieces bound "" pieces h) fun s _ => R.value _
  | .starred _, _ | .lambda .., _ | .await _, _ | .yield _, _ | .yieldFrom _, _ | .assignment .., _ => by
    simp only [eval]
    exact R.fault rfl
termination_by structural e => e

theorem related_evalMaybe (bound : Bindings) : ∀ e : Option Expr,
    R.Met ctx ctx' source bound (demandsMaybe e) →
    R.related (evalMaybe ctx source bound e) (evalMaybe ctx' source bound e)
  | none, _ => by
    simp only [evalMaybe]
    exact R.value Value.null
  | some e, h => by
    simp only [evalMaybe]
    exact related_eval bound e h
termination_by structural e => e

theorem related_evalAll (bound : Bindings) : ∀ es : List Expr,
    R.Met ctx ctx' source bound (demandsAll es) →
    R.related (evalAll ctx source bound es) (evalAll ctx' source bound es)
  | [], _ => by
    simp only [evalAll]
    exact R.value []
  | e :: es, h => by
    simp only [evalAll]
    refine R.next (related_eval bound e h.left) fun v _ => ?_
    exact R.next (related_evalAll bound es h.right) fun vs _ => R.value _
termination_by structural es => es

theorem related_evalSpread (bound : Bindings) : ∀ es : List Expr,
    R.Met ctx ctx' source bound (demandsAll es) →
    R.related (evalSpread ctx source bound es) (evalSpread ctx' source bound es)
  | [], _ => by
    simp only [evalSpread]
    exact R.value []
  | e :: es, h => by
    have hrest := related_evalSpread bound es h.right
    cases e with
    | starred e =>
      simp only [evalSpread]
      refine R.next (related_eval bound e h.left) fun v _ => ?_
      exact R.next (R.attempt _) fun vs _ => R.next hrest fun ws _ => R.value _
    | _ =>
      simp only [evalSpread]
      exact R.next (related_eval bound _ h.left) fun v _ => R.next hrest fun ws _ => R.value _
termination_by structural es => es

theorem related_evalKeywords (bound sofar : Bindings) : ∀ ks : List Keyword,
    R.Met ctx ctx' source bound (demandsKeywords ks) →
    R.related (evalKeywords ctx source bound sofar ks) (evalKeywords ctx' source bound sofar ks)
  | [], _ => by
    simp only [evalKeywords]
    exact R.value sofar
  | .mk (some n) e :: ks, h => by
    simp only [evalKeywords]
    exact R.next (related_eval bound e h.left) fun v _ => related_evalKeywords bound _ ks h.right
  | .mk none e :: ks, h => by
    simp only [evalKeywords]
    refine R.next (related_eval bound e h.left) fun v _ => ?_
    exact R.next (related_evalKeywords bound sofar ks h.right) fun _ _ => R.failure rfl
termination_by structural ks => ks

theorem related_evalConnected (bound : Bindings) (op : Connective) : ∀ es : List Expr,
    R.Met ctx ctx' source bound (demandsAll es) →
    R.related (evalConnected ctx source bound op es) (evalConnected ctx' source bound op es)
  | [], _ => by
    simp only [evalConnected]
    exact R.value Value.null
  | [e], h => by
    simp only [evalConnected]
    exact related_eval bound e h.left
  | e :: e' :: es, h => by
    simp only [evalConnected]
    refine R.next (related_eval bound e h.left) fun v _ => ?_
    exact R.choice _ (R.value _) (related_evalConnected bound op (e' :: es) h.right)
termination_by structural es => es

theorem related_evalCompared (bound : Bindings) (outcome left : Value) (shared : Bool) :
    ∀ rest : List Comparison, R.Met ctx ctx' source bound (demandsCompared rest) →
    R.related (evalCompared ctx source bound outcome left shared rest)
      (evalCompared ctx' source bound outcome left shared rest)
  | [], _ => by
    simp only [evalCompared]
    exact R.value outcome
  | .mk op e :: rest, h => by
    simp only [evalCompared]
    refine R.choice _ ?_ (R.value outcome)
    refine R.next (related_eval bound e h.left) fun right _ => ?_
    refine R.next (R.attempt _) fun outcome _ => ?_
    exact related_evalCompared bound outcome right _ rest h.right
termination_by structural rest => rest

theorem related_evalItems (bound : Bindings) (entries : List (Value × Value)) : ∀ items : List DictItem,
    R.Met ctx ctx' source bound (demandsItems items) →
    R.related (evalItems ctx source bound entries items) (evalItems ctx' source bound entries items)
  | [], _ => by
    simp only [evalItems]
    exact R.value entries
  | .entry k v :: items, h => by
    simp only [evalItems]
    refine R.next (related_eval bound v h.left.left) fun value _ => ?_
    refine R.next (related_eval bound k h.left.right) fun key _ => ?_
    exact R.choice _ (related_evalItems bound _ items h.right) (R.failure rfl)
  | .spread e :: items, h => by
    simp only [evalItems]
    refine R.next (related_eval bound e h.left) fun v _ => ?_
    exact R.next (R.attempt _) fun entries _ => related_evalItems bound entries items h.right
termination_by structural items => items

theorem related_evalClauses (extra : Bindings) (emit : Bindings → Evaluation σ (Value × Value))
    (emit' : Bindings → Evaluation τ (Value × Value)) {inner : List Demand}
    (hemit : ∀ bs, R.Met ctx ctx' source bs inner → R.related (emit bs) (emit' bs)) :
    ∀ (gs : List Generator) (bound : Bindings) (out : List (Value × Value)),
    R.Met ctx ctx' source (bound ++ extra) (demandsClauses inner gs) →
    R.related (evalClauses ctx source extra emit gs (bound, out))
      (evalClauses ctx' source extra emit' gs (bound, out))
  | [], bound, out, h => by
    simp only [evalClauses]
    exact R.next (hemit _ h) fun entry _ => R.value _
  | .mk target iterable conditions :: gs, bound, out, h => by
    simp only [evalClauses]
    refine R.next (related_eval _ iterable h.left) fun v _ => ?_
    refine R.next (R.attempt _) fun items _ => ?_
    refine R.foldlM (P := fun p => ∀ n ∈ bound.names, n ∈ p.1.names) ?_ ?_ (fun n hn => hn)
    · intro p item hP
      refine R.next R.countElement fun _ _ => ?_
      refine R.next (R.attempt _) fun cs hcs => ?_
      have hnames := bindTarget_names (yields_attempt hcs)
      have hin : R.Met ctx ctx' source (cs ++ extra) (demandsAll conditions ++ demandsClauses inner gs) := by
        apply h.right.inside
        · intro n hn
          rw [Bindings.names_append, List.mem_append] at hn ⊢
          exact hn.imp_left fun hn => hnames n (.inl (hP n hn))
        · intro n hn
          rw [Bindings.names_append, List.mem_append]
          exact .inl (hnames n (.inr hn))
      refine R.next (related_evalConditions _ conditions hin.left) fun holds _ => ?_
      exact R.choice _ (related_evalClauses extra emit emit' hemit gs cs p.2 hin.right) (R.value _)
    · intro p item r hP hr n hn
      exact element_names (fun _ _ => evalClauses_names) hr n (hP n hn)
termination_by structural gs => gs

theorem related_evalConditions (bound : Bindings) : ∀ es : List Expr,
    R.Met ctx ctx' source bound (demandsAll es) →
    R.related (evalConditions ctx source bound es) (evalConditions ctx' source bound es)
  | [], _ => by
    simp only [evalConditions]
    exact R.value true
  | e :: es, h => by
    simp only [evalConditions]
    refine R.next (related_eval bound e h.left) fun v _ => ?_
    exact R.choice _ (related_evalConditions bound es h.right) (R.value false)
termination_by structural es => es

theorem related_evalPieces (bound : Bindings) (sofar : String) : ∀ ps : List Piece,
    R.Met ctx ctx' source bound (demandsPieces ps) →
    R.related (evalPieces ctx source bound sofar ps) (evalPieces ctx' source bound sofar ps)
  | [], _ => by
    simp only [evalPieces]
    exact R.value sofar
  | .text s :: ps, h => by
    simp only [evalPieces]
    refine R.next (R.literal _) fun v _ => ?_
    exact R.next (R.addPart sofar v) fun sofar _ => related_evalPieces bound sofar ps h
  | .field e layout :: ps, h => by
    simp only [evalPieces]
    refine R.next (related_evalLayout bound layout h.left.left) fun l _ => ?_
    refine R.next (related_eval bound e h.left.right) fun v _ => ?_
    have hrest (part : Value) := R.next (R.addPart sofar part) fun sofar _ =>
      related_evalPieces bound sofar ps h.right
    split
    · exact R.next (R.laidOut v _) fun part _ => hrest part
    · exact R.next (R.value v) fun part _ => hrest part
termination_by structural ps => ps

theorem related_evalLayout (bound : Bindings) : ∀ layout : Option (List Piece),
    R.Met ctx ctx' source bound (demandsLayout layout) →
    R.related (evalLayout ctx source bound layout) (evalLayout ctx' source bound layout)
  | none, _ => by
    simp only [evalLayout]
    exact R.value none
  | some ps, h => by
    simp only [evalLayout]
    exact R.next (related_evalPieces bound "" ps h) fun s _ => R.value _
termination_by structural layout => layout

end

end Simulation

end AccessPolicy
