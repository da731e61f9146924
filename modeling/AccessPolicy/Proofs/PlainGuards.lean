import Mathlib.Data.List.Forall2
import AccessPolicy.Handler
import AccessPolicy.Proofs.Outcome

/-!
Guards of a plain form: predicates and methods that are asked with texts, names and attributes of names, and
the two ways to connect such questions. What a guard of this form comes to is put together from the answers.
-/

namespace AccessPolicy

/-- Something that a question is asked about. -/
inductive Atom where
  | text (s : String)
  | name (n : String)
  | attribute (n attr : String)

/-- A guard of the plain form. -/
inductive Plain where
  | read (n : String)
  | ask (predicate : String) (args : List Atom)
  | send (object method : String) (args : List Atom)
  | same (a b : Atom)
  | both (a b : Plain)
  | either (a b : Plain)

namespace Atom

def expr : Atom → Expr
  | .text s => .literal (.text s)
  | .name n => .name n
  | .attribute n attr => .attribute (.name n) attr

/-- Whether an expression is one of these, and which. -/
def isOf : Atom → Expr → Bool
  | .text s, .literal (.text t) => s == t
  | .name n, .name m => n == m
  | .attribute n attr, .attribute (.name m) attr' => n == m && attr == attr'
  | _, _ => false

def areOf : List Atom → List Expr → Bool
  | [], [] => true
  | a :: as, e :: es => a.isOf e && areOf as es
  | _, _ => false

theorem eq_of_isOf {a : Atom} {e : Expr} (h : a.isOf e = true) : e = a.expr := by
  unfold isOf at h
  split at h
  · rw [beq_iff_eq.mp h]
    rfl
  · rw [beq_iff_eq.mp h]
    rfl
  · obtain ⟨hn, ha⟩ := Bool.and_eq_true_iff.mp h
    rw [beq_iff_eq.mp hn, beq_iff_eq.mp ha]
    rfl
  · cases h

theorem eq_of_areOf {as : List Atom} {es : List Expr} (h : areOf as es = true) : es = as.map expr := by
  induction as generalizing es with
  | nil =>
    cases es with
    | nil => rfl
    | cons e es => cases h
  | cons a as ih =>
    cases es with
    | nil => cases h
    | cons e es =>
      obtain ⟨ha, has⟩ := Bool.and_eq_true_iff.mp h
      rw [eq_of_isOf ha, ih has]
      rfl

end Atom

namespace Plain

def expr : Plain → Expr
  | .read n => .name n
  | .ask p args => .call (.name p) (args.map Atom.expr) []
  | .send o m args => .call (.attribute (.name o) m) (args.map Atom.expr) []
  | .same a b => .compared a.expr [.mk .equal b.expr]
  | .both a b => .connected .and [a.expr, b.expr]
  | .either a b => .connected .or [a.expr, b.expr]

def isOf : Plain → Expr → Bool
  | .read n, .name m => n == m
  | .ask p args, .call (.name q) es [] => p == q && Atom.areOf args es
  | .send o m args, .call (.attribute (.name o') m') es [] => o == o' && m == m' && Atom.areOf args es
  | .same a b, .compared e [.mk .equal e'] => a.isOf e && b.isOf e'
  | .both a b, .connected .and [e, e'] => a.isOf e && b.isOf e'
  | .either a b, .connected .or [e, e'] => a.isOf e && b.isOf e'
  | _, _ => false

theorem eq_of_isOf {p : Plain} {e : Expr} (h : p.isOf e = true) : e = p.expr := by
  fun_induction isOf p e with
  | case1 n m => rw [beq_iff_eq.mp h]; rfl
  | case2 p args q es =>
    obtain ⟨hp, hargs⟩ := Bool.and_eq_true_iff.mp h
    rw [beq_iff_eq.mp hp, Atom.eq_of_areOf hargs]
    rfl
  | case3 o m args o' m' es =>
    obtain ⟨hom, hargs⟩ := Bool.and_eq_true_iff.mp h
    obtain ⟨ho, hm⟩ := Bool.and_eq_true_iff.mp hom
    rw [beq_iff_eq.mp ho, beq_iff_eq.mp hm, Atom.eq_of_areOf hargs]
    rfl
  | case4 a b e e' =>
    obtain ⟨ha, hb⟩ := Bool.and_eq_true_iff.mp h
    rw [Atom.eq_of_isOf ha, Atom.eq_of_isOf hb]
    rfl
  | case5 a b e e' iha ihb | case6 a b e e' iha ihb =>
    obtain ⟨ha, hb⟩ := Bool.and_eq_true_iff.mp h
    rw [iha ha, ihb hb]
    rfl
  | case7 => cases h

end Plain

namespace Guard

variable {text source label : String} {p : Plain}

theorem read_expanded {ts : Templates} {written : GuardText} (h : ts.expand written = .ok text) (label : String) :
    read ts written label = ofText text label := by
  unfold read
  rw [h]
  simp only [bind, Except.bind]

theorem read_plain (ts : Templates) (text label : String) : read ts (.plain text) label = ofText text label :=
  read_expanded rfl label

/-- Whether a text is read as a guard of the plain form. -/
def readsAs (text : String) (p : Plain) : Bool :=
  (ofText text defaultLabel).toOption.any fun g => g.source == text && p.isOf g.expr

/-- A guard is labelled, but read without a look at the label. -/
theorem ofText_relabelled {l : String} {g : Guard} (h : ofText text l = .ok g) (label : String) :
    ofText text label = .ok { g with label } := by
  unfold ofText at h ⊢
  dsimp only at h ⊢
  split at h
  next => cases h
  next hne =>
    rw [if_neg hne]
    split at h
    next => cases h
    next hnul =>
      rw [if_neg hnul]
      split at h
      next => cases h
      next => cases h
      next hs =>
        cases h
        rfl
      next => cases h

theorem ofText_plain (h : readsAs text p = true) (label : String) : ofText text label = .ok ⟨text, label, p.expr⟩ := by
  obtain ⟨g, hg, hp⟩ := (Option.any_eq_true _ _).mp h
  obtain ⟨hsource, hexpr⟩ := Bool.and_eq_true_iff.mp hp
  rw [ofText_relabelled (except_ok_of_toOption hg) label, beq_iff_eq.mp hsource, Plain.eq_of_isOf hexpr]

end Guard

section Evaluation

variable {σ : Type} {ctx : Context σ} {source : String} {x y : Run σ Value} {v w : Value}

/-- Whether the evaluation of an expression is a computation that counts no elements. -/
def Expr.Means (ctx : Context σ) (source : String) (e : Expr) (x : Run σ Value) : Prop :=
  Evaluation.eval ctx source [] e = liftM x

theorem Evaluation.liftM_bind {α β : Type} (x : Run σ α) (k : α → Run σ β) :
    (liftM (x >>= k) : Evaluation σ β) = liftM x >>= fun a => liftM (k a) := by
  apply Evaluation.ext_outcome
  intro n s
  rw [outcome_bind, outcome_liftM, outcome_liftM, Run.outcome_bind]
  rcases x.outcome s with ⟨_ | a, t⟩
  · rfl
  · exact (outcome_liftM (k a) n t).symm

theorem Expr.Means.eval {e : Expr} (h : e.Means ctx source x) : e.eval ctx source = x := by
  apply Run.ext_outcome
  intro s
  rw [outcome_eval, h, Evaluation.outcome_liftM]
  rcases x.outcome s with ⟨_ | _, _⟩ <;> rfl

/-- Whether what a question is about has a value. -/
def Atom.Denotes (ctx : Context σ) (source : String) (a : Atom) (v : Value) : Prop :=
  a.expr.Means ctx source (pure v)

namespace Atom

theorem denotes_text {s : String} (hs : s.length ≤ maxLength) : (text s).Denotes ctx source (.text s) := by
  simp [Denotes, Expr.Means, expr, Evaluation.eval, Evaluation.literal, Literal.value, Value.size?,
    Nat.not_lt.mpr hs]

theorem denotes_name {n : String} (h : ctx.bindings.lookup n = some v) : (name n).Denotes ctx source v := by
  simp only [Denotes, Expr.Means, expr, Evaluation.eval, List.lookup_nil, h, liftM_pure]

/-- Whether evaluation gives out an attribute. -/
def isGivenOut (attr : String) : Bool :=
  !(Evaluation.hiddenPrefixes.any fun p => attr.startsWith p) && !Evaluation.hiddenMethods.contains attr

theorem guardAttribute_givenOut {attr : String} (h : isGivenOut attr = true) :
    (Evaluation.guardAttribute attr : Evaluation σ Unit) = pure () := by
  obtain ⟨hprefixes, hmethods⟩ := Bool.and_eq_true_iff.mp h
  rw [Bool.not_eq_true'] at hprefixes hmethods
  simp only [Evaluation.guardAttribute, hprefixes, hmethods, Bool.false_eq_true, ↓reduceIte]

theorem denotes_attribute {n attr : String} (h : ctx.bindings.lookup n = some v) (hattr : isGivenOut attr = true)
    (hw : v.attribute? attr = some w) : (Atom.attribute n attr).Denotes ctx source w := by
  simp only [Denotes, Expr.Means, expr, Evaluation.eval, guardAttribute_givenOut hattr, List.lookup_nil, h, pure_bind,
    Evaluation.attributeOf, hw, liftM_pure]

theorem evalAll_eq {as : List Atom} {vs : List Value} (h : List.Forall₂ (Denotes ctx source) as vs) :
    Evaluation.evalAll ctx source [] (as.map expr) = pure vs := by
  induction h with
  | nil => rfl
  | cons ha _ ih =>
    simp only [List.map_cons, Evaluation.evalAll, ih]
    rw [show Evaluation.eval ctx source [] _ = _ from ha]
    rfl

end Atom

namespace Plain

def Means (ctx : Context σ) (source : String) (p : Plain) (x : Run σ Value) : Prop :=
  p.expr.Means ctx source x

theorem means_read {n : String} (h : ctx.bindings.lookup n = some v) : (read n).Means ctx source (pure v) :=
  Atom.denotes_name h

theorem means_ask {q : Predicate} {args : List Atom} {vs : List Value}
    (hq : ctx.function? q.name = some (.predicate q)) (hargs : List.Forall₂ (Atom.Denotes ctx source) args vs) :
    (ask q.name args).Means ctx source (ctx.decide q vs []) := by
  simp only [Means, Expr.Means, expr, Evaluation.eval, hq, Atom.evalAll_eq hargs, Evaluation.evalKeywords, pure_bind]
  rfl

theorem means_same {a b : Atom} (ha : a.Denotes ctx source v) (hb : b.Denotes ctx source w) :
    (same a b).Means ctx source (pure (.bool (v.equal w))) := by
  simp only [Means, Expr.Means, expr, Evaluation.eval]
  rw [show Evaluation.eval ctx source [] a.expr = _ from ha]
  simp only [Evaluation.evalCompared, liftM_pure, pure_bind]
  rw [show Evaluation.eval ctx source [] b.expr = _ from hb]
  rfl

theorem means_both {a b : Plain} (ha : a.Means ctx source x) (hb : b.Means ctx source y) :
    (both a b).Means ctx source (do let v ← x; if v.truthy then y else pure v) := by
  simp only [Means, Expr.Means, expr, Evaluation.eval, Evaluation.evalConnected]
  rw [show Evaluation.eval ctx source [] a.expr = _ from ha, show Evaluation.eval ctx source [] b.expr = _ from hb,
    Evaluation.liftM_bind]
  congr 1
  funext v
  cases v.truthy <;> rfl

/-- What is connected to a falsehood is not even asked. -/
theorem means_both_false {a b : Plain} (ha : a.Means ctx source (pure (.bool false))) :
    (both a b).Means ctx source (pure (.bool false)) := by
  simp only [Means, Expr.Means, expr, Evaluation.eval, Evaluation.evalConnected]
  rw [show Evaluation.eval ctx source [] a.expr = _ from ha]
  rfl

theorem means_either {a b : Plain} (ha : a.Means ctx source x) (hb : b.Means ctx source y) :
    (either a b).Means ctx source (do let v ← x; if v.truthy then pure v else y) := by
  simp only [Means, Expr.Means, expr, Evaluation.eval, Evaluation.evalConnected]
  rw [show Evaluation.eval ctx source [] a.expr = _ from ha, show Evaluation.eval ctx source [] b.expr = _ from hb,
    Evaluation.liftM_bind]
  congr 1
  funext v
  cases v.truthy <;> rfl

end Plain

/-- A guard whose expression fails only in the engine's own ways comes to what the expression comes to. -/
theorem Guard.evaluate_eq {label : String} {p : Plain} (h : p.Means ctx source x)
    (hx : x.FailsOnly fun f => f.isOwn = true) : (Guard.mk source label p.expr).evaluate ctx = x := by
  apply Run.ext_outcome
  intro s
  rw [outcome_evaluate, Expr.Means.eval h]
  cases hr : x.outcome s with
  | mk r t =>
    cases r with
    | ok v => rfl
    | error f => simp [Except.mapError, hx s f t hr]

end Evaluation

end AccessPolicy
