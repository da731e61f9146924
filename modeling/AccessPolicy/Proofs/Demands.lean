import AccessPolicy.Proofs.Simulation
import AccessPolicy.Proofs.Bindings

/-!
What an expression asks of its context: the values of the names that it reads and does not bind, and the
functions that it calls by name. Evaluations of one expression in two contexts are related if their answers
to these demands are.
-/

namespace AccessPolicy

/-- Something that an expression may ask its context for. -/
inductive Demand where
  | value (name : String)
  | function (name : String)
  deriving DecidableEq

/-- The demands that are left once a target is bound. A part of a sequence may have no value to be bound to. -/
def Demand.without : Expr → List Demand → List Demand
  | .name n, ds => ds.filter (· != .value n)
  | _, ds => ds

mutual

/-- What an expression may ask its context for. -/
def Expr.demands : Expr → List Demand
  | .name n => [.value n]
  | .attribute base _ => base.demands
  | .subscript base index => base.demands ++ index.demands
  | .slice lower upper step => demandsMaybe lower ++ demandsMaybe upper ++ demandsMaybe step
  | .call (.attribute base _) args keywords => base.demands ++ demandsAll args ++ demandsKeywords keywords
  | .call (.name n) args keywords => .function n :: (demandsAll args ++ demandsKeywords keywords)
  | .unary _ e => e.demands
  | .binary _ a b => a.demands ++ b.demands
  | .connected _ es => demandsAll es
  | .compared e rest => e.demands ++ demandsCompared rest
  | .conditional test body orelse => test.demands ++ body.demands ++ orelse.demands
  | .list es => demandsAll es
  | .tuple es => demandsAll es
  | .set es => demandsAll es
  | .dict items => demandsItems items
  | .starred e => e.demands
  | .comprehension _ e clauses => demandsClauses e.demands clauses
  | .dictComprehension k v clauses => demandsClauses (v.demands ++ k.demands) clauses
  | .interpolated pieces => demandsPieces pieces
  | _ => []
termination_by structural e => e

def demandsMaybe : Option Expr → List Demand
  | none => []
  | some e => e.demands
termination_by structural e => e

def demandsAll : List Expr → List Demand
  | [] => []
  | e :: es => e.demands ++ demandsAll es
termination_by structural es => es

def demandsKeywords : List Keyword → List Demand
  | [] => []
  | .mk _ e :: ks => e.demands ++ demandsKeywords ks
termination_by structural ks => ks

def demandsCompared : List Comparison → List Demand
  | [] => []
  | .mk _ e :: cs => e.demands ++ demandsCompared cs
termination_by structural cs => cs

def demandsItems : List DictItem → List Demand
  | [] => []
  | .entry k v :: items => v.demands ++ k.demands ++ demandsItems items
  | .spread e :: items => e.demands ++ demandsItems items
termination_by structural items => items

/-- What clauses ask for around something with the demands `inner`. -/
def demandsClauses (inner : List Demand) : List Generator → List Demand
  | [] => inner
  | .mk target iterable conditions :: gs =>
    iterable.demands ++ Demand.without target (demandsAll conditions ++ demandsClauses inner gs)
termination_by structural gs => gs

def demandsPieces : List Piece → List Demand
  | [] => []
  | .text _ :: ps => demandsPieces ps
  | .field e layout :: ps => demandsLayout layout ++ e.demands ++ demandsPieces ps
termination_by structural ps => ps

def demandsLayout : Option (List Piece) → List Demand
  | none => []
  | some ps => demandsPieces ps
termination_by structural ps => ps

end

def Demand.name : Demand → String
  | .value n => n
  | .function n => n

theorem Demand.of_without {target : Expr} {ds : List Demand} {d : Demand}
    (h : d ∈ Demand.without target ds) : d ∈ ds := by
  unfold without at h
  split at h
  next => exact (List.mem_filter.mp h).1
  next => exact h

mutual

theorem Expr.demands_read : ∀ e : Expr, ∀ d ∈ e.demands, .read d.name ∈ e.mentions
  | .name n, d, h => by
    cases List.mem_singleton.mp h
    exact List.mem_singleton_self _
  | .attribute base _, d, h => base.demands_read d h
  | .subscript base index, d, h => by
    simp only [Expr.demands, Expr.mentions, List.mem_append] at h ⊢
    exact h.imp (base.demands_read d) (index.demands_read d)
  | .slice lower upper step, d, h => by
    simp only [Expr.demands, Expr.mentions, List.mem_append] at h ⊢
    exact h.imp (Or.imp (demandsMaybe_read lower d) (demandsMaybe_read upper d)) (demandsMaybe_read step d)
  | .call callee args keywords, d, h => by
    cases callee with
    | name n =>
      simp only [Expr.demands, Expr.mentions, List.mem_cons, List.mem_append, List.not_mem_nil, or_false]
        at h ⊢
      rcases h with rfl | h | h
      · exact .inl (.inl rfl)
      · exact .inl (.inr (demandsAll_read args d h))
      · exact .inr (demandsKeywords_read keywords d h)
    | «attribute» base _ =>
      simp only [Expr.demands, Expr.mentions, List.mem_append] at h ⊢
      exact h.imp (Or.imp (base.demands_read d) (demandsAll_read args d)) (demandsKeywords_read keywords d)
    | _ => cases h
  | .unary _ e, d, h => e.demands_read d h
  | .binary _ a b, d, h => by
    simp only [Expr.demands, Expr.mentions, List.mem_append] at h ⊢
    exact h.imp (a.demands_read d) (b.demands_read d)
  | .connected _ es, d, h => demandsAll_read es d h
  | .compared e rest, d, h => by
    simp only [Expr.demands, Expr.mentions, List.mem_append] at h ⊢
    exact h.imp (e.demands_read d) (demandsCompared_read rest d)
  | .conditional test body orelse, d, h => by
    simp only [Expr.demands, Expr.mentions, List.mem_append] at h ⊢
    exact h.imp (Or.imp (test.demands_read d) (body.demands_read d)) (orelse.demands_read d)
  | .list es, d, h => demandsAll_read es d h
  | .tuple es, d, h => demandsAll_read es d h
  | .set es, d, h => demandsAll_read es d h
  | .dict items, d, h => demandsItems_read items d h
  | .starred e, d, h => e.demands_read d h
  | .comprehension _ e clauses, d, h => by
    simp only [Expr.demands, Expr.mentions, List.mem_append] at h ⊢
    exact (demandsClauses_read clauses d h).imp_left (e.demands_read d)
  | .dictComprehension k v clauses, d, h => by
    simp only [Expr.demands, Expr.mentions, List.mem_append] at h ⊢
    rcases demandsClauses_read clauses d h with h | h
    · rcases List.mem_append.mp h with h | h
      · exact .inl (.inr (v.demands_read d h))
      · exact .inl (.inl (k.demands_read d h))
    · exact .inr h
  | .interpolated pieces, d, h => demandsPieces_read pieces d h
termination_by structural e => e

theorem demandsMaybe_read : ∀ e : Option Expr, ∀ d ∈ demandsMaybe e, .read d.name ∈ mentionsMaybe e
  | some e, d, h => e.demands_read d h
termination_by structural e => e

theorem demandsAll_read : ∀ es : List Expr, ∀ d ∈ demandsAll es, .read d.name ∈ mentionsAll es
  | e :: es, d, h => by
    simp only [demandsAll, mentionsAll, List.mem_append] at h ⊢
    exact h.imp (e.demands_read d) (demandsAll_read es d)
termination_by structural es => es

theorem demandsKeywords_read : ∀ ks : List Keyword, ∀ d ∈ demandsKeywords ks,
    .read d.name ∈ mentionsKeywords ks
  | .mk _ e :: ks, d, h => by
    simp only [demandsKeywords, mentionsKeywords, List.mem_append] at h ⊢
    exact h.imp (e.demands_read d) (demandsKeywords_read ks d)
termination_by structural ks => ks

theorem demandsCompared_read : ∀ cs : List Comparison, ∀ d ∈ demandsCompared cs,
    .read d.name ∈ mentionsCompared cs
  | .mk _ e :: cs, d, h => by
    simp only [demandsCompared, mentionsCompared, List.mem_append] at h ⊢
    exact h.imp (e.demands_read d) (demandsCompared_read cs d)
termination_by structural cs => cs

theorem demandsItems_read : ∀ items : List DictItem, ∀ d ∈ demandsItems items,
    .read d.name ∈ mentionsItems items
  | .entry k v :: items, d, h => by
    simp only [demandsItems, mentionsItems, List.mem_append] at h ⊢
    rcases h with (h | h) | h
    · exact .inl (.inr (v.demands_read d h))
    · exact .inl (.inl (k.demands_read d h))
    · exact .inr (demandsItems_read items d h)
  | .spread e :: items, d, h => by
    simp only [demandsItems, mentionsItems, List.mem_append] at h ⊢
    exact h.imp (e.demands_read d) (demandsItems_read items d)
termination_by structural items => items

theorem demandsClauses_read {inner : List Demand} : ∀ gs : List Generator,
    ∀ d ∈ demandsClauses inner gs, d ∈ inner ∨ .read d.name ∈ mentionsClauses gs
  | [], d, h => .inl h
  | .mk target iterable conditions :: gs, d, h => by
    simp only [demandsClauses, mentionsClauses, List.mem_append] at h ⊢
    rcases h with h | h
    · exact .inr (.inl (.inl (.inr (iterable.demands_read d h))))
    · rcases List.mem_append.mp (Demand.of_without h) with h | h
      · exact .inr (.inl (.inr (demandsAll_read conditions d h)))
      · exact (demandsClauses_read gs d h).imp_right .inr
termination_by structural gs => gs

theorem demandsPieces_read : ∀ ps : List Piece, ∀ d ∈ demandsPieces ps, .read d.name ∈ mentionsPieces ps
  | .text _ :: ps, d, h => demandsPieces_read ps d h
  | .field e layout :: ps, d, h => by
    simp only [demandsPieces, mentionsPieces, List.mem_append] at h ⊢
    rcases h with (h | h) | h
    · exact .inl (.inr (demandsLayout_read layout d h))
    · exact .inl (.inl (e.demands_read d h))
    · exact .inr (demandsPieces_read ps d h)
termination_by structural ps => ps

theorem demandsLayout_read : ∀ layout : Option (List Piece), ∀ d ∈ demandsLayout layout,
    .read d.name ∈ mentionsLayout layout
  | some ps, d, h => demandsPieces_read ps d h
termination_by structural layout => layout

end

/-- The value that a name has in a context: that of a variable, or else a function. -/
def Context.value? {σ : Type} (ctx : Context σ) (n : String) : Option Value :=
  (ctx.bindings.lookup n).or ((ctx.function? n).map .function)

theorem Evaluation.eval_name {σ : Type} (ctx : Context σ) (source n : String) :
    eval ctx source [] (.name n) =
      match ctx.value? n with
      | some v => pure v
      | none => fault (.nameNotDefined n source) := by
  simp only [eval, List.lookup_nil, Context.value?]
  cases ctx.bindings.lookup n with
  | some v => rfl
  | none => cases ctx.function? n <;> rfl

namespace Simulation

variable {σ τ : Type} (R : Simulation σ τ) (ctx : Context σ) (ctx' : Context τ) (source : String)

def Meets : Demand → Prop
  | .value n =>
    R.related (Evaluation.eval ctx source [] (.name n)) (Evaluation.eval ctx' source [] (.name n))
  | .function n => ctx.function? n = ctx'.function? n

/-- The answers of two contexts are related: those of all calls, and those to demands, but for the names that
are bound already. -/
structure Met (bound : Bindings) (ds : List Demand) : Prop where
  calls : ∀ f vs named, R.related (liftM (ctx.call f vs named)) (liftM (ctx'.call f vs named))
  answers : ∀ d ∈ ds, (∀ n, d = .value n → n ∉ bound.names) → R.Meets ctx ctx' source d

variable {R ctx ctx' source}

theorem meets_value {n : String} (h : ctx.value? n = ctx'.value? n)
    (hnone : ctx.value? n = none → R.related (α := Value) (Evaluation.fault (.nameNotDefined n source))
      (Evaluation.fault (.nameNotDefined n source))) :
    R.Meets ctx ctx' source (.value n) := by
  simp only [Meets, Evaluation.eval_name, ← h]
  cases hv : ctx.value? n with
  | some v => exact R.value v
  | none => exact hnone hv

theorem Met.subset {bound : Bindings} {ds es : List Demand} (h : R.Met ctx ctx' source bound ds)
    (hsub : ∀ d ∈ es, d ∈ ds) : R.Met ctx ctx' source bound es :=
  ⟨h.calls, fun d hd => h.answers d (hsub d hd)⟩

theorem Met.left {bound : Bindings} {ds es : List Demand} (h : R.Met ctx ctx' source bound (ds ++ es)) :
    R.Met ctx ctx' source bound ds :=
  h.subset fun _ => List.mem_append_left es

theorem Met.right {bound : Bindings} {ds es : List Demand} (h : R.Met ctx ctx' source bound (ds ++ es)) :
    R.Met ctx ctx' source bound es :=
  h.subset fun _ => List.mem_append_right ds

theorem Met.tail {bound : Bindings} {d : Demand} {ds : List Demand}
    (h : R.Met ctx ctx' source bound (d :: ds)) : R.Met ctx ctx' source bound ds :=
  h.subset fun _ => List.mem_cons_of_mem d

theorem Met.function {bound : Bindings} {n : String} {ds : List Demand}
    (h : R.Met ctx ctx' source bound (.function n :: ds)) : ctx.function? n = ctx'.function? n :=
  h.answers (.function n) List.mem_cons_self (by rintro m ⟨⟩)

theorem Met.inside {bound more : Bindings} {target : Expr} {ds : List Demand}
    (h : R.Met ctx ctx' source bound (Demand.without target ds)) (hb : ∀ n ∈ bound.names, n ∈ more.names)
    (ht : ∀ n, target = .name n → n ∈ more.names) : R.Met ctx ctx' source more ds := by
  refine ⟨h.calls, ?_⟩
  intro d hd hfree
  apply h.answers d
  · unfold Demand.without
    split
    next n =>
      refine List.mem_filter.mpr ⟨hd, ?_⟩
      simp only [bne_iff_ne, ne_eq]
      intro hn
      exact hfree n hn (ht n rfl)
    next => exact hd
  · intro n hn hmem
    exact hfree n hn (hb n hmem)

end Simulation

end AccessPolicy
