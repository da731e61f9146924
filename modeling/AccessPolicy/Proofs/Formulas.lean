import AccessPolicy.Proofs.Granting
import AccessPolicy.Proofs.GuardDecisions

/-!
Formulas over the predicates that an identity alone decides. Whatever a formula is built of, evaluating it comes
to a truth value, and to the one that its connectives make of its leaves. Nothing stands in the way but literals
that are too long to be evaluated, and these only where evaluation comes to them.
-/

namespace AccessPolicy

open Handler (caller)

variable {σ : Type}

/-- What the predicates of holdings ask for: roles, whose names are completed by a prefix, or authorities. -/
inductive Holding where
  | role
  | authority

/-- How an identity was established. -/
inductive Standing where
  | anonymous
  | rememberMe
  | authenticated
  | fullyAuthenticated

/-- A formula: its leaves are constants, questions about the standing of an identity, and questions about what
it holds, with a single literal, which may be given by its name, or with any number of them. -/
inductive Formula where
  | constant (b : Bool)
  | standing (q : Standing)
  | holds (kind : Holding) (byName : Bool) (c : Literal)
  | holdsAny (kind : Holding) (cs : List Literal)
  | not (f : Formula)
  | connected (op : Connective) (first : Formula) (rest : List Formula)

namespace Standing

def predicate : Standing → Predicate
  | .anonymous => .isAnonymous
  | .rememberMe => .isRememberMe
  | .authenticated => .isAuthenticated
  | .fullyAuthenticated => .isFullyAuthenticated

def granted : Standing → Trust → Bool
  | .anonymous => Trust.anonymous
  | .rememberMe => Trust.rememberMe
  | .authenticated => Trust.authenticated
  | .fullyAuthenticated => Trust.fullyAuthenticated

/-- Whether an identity has a standing. -/
def Of (a : Authentication) : Standing → Prop
  | .anonymous => a.anonymous = true
  | .rememberMe => a.anonymous = false ∧ a.rememberMe = true
  | .authenticated => a.anonymous = false
  | .fullyAuthenticated => a.anonymous = false ∧ a.rememberMe = false

end Standing

namespace Holding

def one : Holding → Predicate
  | .role => .hasRole
  | .authority => .hasAuthority

def any : Holding → Predicate
  | .role => .hasAnyRole
  | .authority => .hasAnyAuthority

def parameter : Holding → String
  | .role => "role"
  | .authority => "authority"

/-- The prefix that names are completed by. -/
def completion (h : Handler σ) : Holding → Option String
  | .role => h.rolePrefix
  | .authority => none

end Holding

/-- Whether a name stands for an authority: a prefix completes it, unless that is empty or there already. -/
def StandsFor (completion : Option String) (name authority : String) : Prop :=
  match completion with
  | none => authority = name
  | some p => if p = "" ∨ p.toList <+: name.toList then authority = name else authority = p ++ name

/-- Whether an identity holds what a literal names. Only texts name anything. -/
def Held (h : Handler σ) (who : Option Authentication) (kind : Holding) (c : Literal) : Prop :=
  ∃ name authority, c = .text name ∧ StandsFor (kind.completion h) name authority ∧
    ∃ a ∈ (caller who).authorities, Confers h.hierarchy a authority

/-- Whether a literal is too long to be evaluated. -/
def Literal.Overlong : Literal → Prop
  | .text s => maxLength < s.length
  | .bytes data => maxLength < data.length
  | _ => False

instance : DecidablePred Literal.Overlong
  | .text s => inferInstanceAs (Decidable (maxLength < s.length))
  | .bytes data => inferInstanceAs (Decidable (maxLength < data.length))
  | .null | .bool _ | .int _ | .float _ | .imaginary _ | .ellipsis => inferInstanceAs (Decidable False)

def Connective.Joins (op : Connective) (p q : Prop) : Prop :=
  match op with
  | .and => p ∧ q
  | .or => p ∨ q

namespace Formula

mutual

def expr : Formula → Expr
  | .constant b => .name (if b then "permitAll" else "denyAll")
  | .standing q => .call (.name q.predicate.name) [] []
  | .holds kind false c => .call (.name kind.one.name) [.literal c] []
  | .holds kind true c => .call (.name kind.one.name) [] [.mk (some kind.parameter) (.literal c)]
  | .holdsAny kind cs => .call (.name kind.any.name) (cs.map .literal) []
  | .not f => .unary .not f.expr
  | .connected op f fs => .connected op (f.expr :: exprs fs)

def exprs : List Formula → List Expr
  | [] => []
  | f :: fs => f.expr :: exprs fs

end

variable (h : Handler σ) (who : Option Authentication)

mutual

/-- Whether a formula is true of an identity. -/
def Holds : Formula → Prop
  | .constant b => b = true
  | .standing q => q.Of (caller who)
  | .holds kind _ c => Held h who kind c
  | .holdsAny kind cs => ∃ c ∈ cs, Held h who kind c
  | .not f => ¬Holds f
  | .connected op f fs => op.Joins (Holds f) (HoldTogether op fs)

/-- Whether formulas are true together: all of them, or one of them. -/
def HoldTogether (op : Connective) : List Formula → Prop
  | [] => op = .and
  | f :: fs => op.Joins (Holds f) (HoldTogether op fs)

end

mutual

/-- Whether evaluation comes to a literal that is too long. It goes from left to right, and past an operand only
if that does not settle the matter. -/
def Breaks : Formula → Prop
  | .constant _ | .standing _ => False
  | .holds _ _ c => c.Overlong
  | .holdsAny _ cs => ∃ c ∈ cs, c.Overlong
  | .not f => Breaks f
  | .connected op f fs => Breaks f ∨ (Holds h who f ↔ op = .and) ∧ BreakAmong op fs

def BreakAmong (op : Connective) : List Formula → Prop
  | [] => False
  | f :: fs => Breaks f ∨ (Holds h who f ↔ op = .and) ∧ BreakAmong op fs

end

end Formula

section Leaves

variable {h : Handler σ} {who : Option Authentication} {ctx : Context σ} {source : String} {kind : Holding}

theorem standsFor_iff {completion : Option String} {name authority : String} :
    StandsFor completion name authority ↔ authority = withRolePrefix completion name := by
  cases completion with
  | none => rfl
  | some p =>
    have hempty : p.isEmpty = true ↔ p = "" := String.isEmpty_iff
    have hstarts : name.startsWith p = true ↔ p.toList <+: name.toList := by
      rw [String.startsWith_string_iff]
    simp only [StandsFor, withRolePrefix, ← hempty, ← hstarts, Bool.or_eq_true]
    split <;> rfl

theorem holdsAny_iff (cs : List Literal) :
    (h.subject who).holdsAny (kind.completion h) (cs.map Literal.value) = true ↔ ∃ c ∈ cs, Held h who kind c := by
  have hauthorities : (h.subject who).authorities = grantedUnder h.hierarchy (caller who).authorities := rfl
  unfold Subject.holdsAny
  rw [List.any_map, List.any_eq_true]
  refine exists_congr fun c => and_congr_right fun _ => ?_
  cases c with
  | text name =>
    simp only [Function.comp, Literal.value, List.contains_iff_mem, hauthorities, mem_grantedUnder]
    constructor
    · intro hgranted
      exact ⟨name, _, rfl, standsFor_iff.mpr rfl, hgranted⟩
    · rintro ⟨_, authority, ⟨⟩, hstands, hgranted⟩
      rwa [← standsFor_iff.mp hstands]
  | _ =>
    constructor
    · rintro ⟨⟩
    · rintro ⟨_, _, ⟨⟩, _⟩

theorem granted_iff {q : Standing} {a : Authentication} : q.granted (Trust.of (some a)) = true ↔ q.Of a := by
  cases q with
  | anonymous => rfl
  | rememberMe | authenticated => simp [Standing.granted, Standing.Of, Trust.of]
  | fullyAuthenticated =>
    simp only [Standing.granted, Standing.Of, Trust.of]
    cases a.anonymous <;> simp

/-- Whether an evaluation comes to the truth value of a proposition, unless a literal is too long for it. -/
structure Settles (x : Evaluation σ Value) (breaks holds : Prop) : Prop where
  decided : ¬breaks → ∃ b, x = pure (.bool b) ∧ (b = true ↔ holds)
  broken : breaks → ∃ n, maxLength < n ∧ x = Evaluation.fault (.iterableTooLong (.literal n))

namespace Settles

variable {x : Evaluation σ Value} {breaks holds : Prop}

theorem of_decided {b : Bool} (hx : x = pure (.bool b)) (hb : b = true ↔ holds) : Settles x False holds :=
  ⟨fun _ => ⟨b, hx, hb⟩, False.elim⟩

theorem negated (h : Settles x breaks holds) :
    Settles (do let v ← x; Evaluation.attempt (UnaryOp.not.apply v)) breaks (¬holds) := by
  constructor
  · intro hb
    obtain ⟨b, rfl, hiff⟩ := h.decided hb
    refine ⟨!b, rfl, ?_⟩
    rw [← hiff, Bool.not_eq_true', Bool.not_eq_true]
  · intro hb
    obtain ⟨n, hn, rfl⟩ := h.broken hb
    exact ⟨n, hn, rfl⟩

end Settles

section Connecting

variable {op : Connective} {p q : Prop}

theorem joins_open (h : p ↔ op = .and) : op.Joins p q ↔ q := by
  cases op with
  | and => exact and_iff_right (h.mpr rfl)
  | or => exact or_iff_right fun hp => nomatch h.mp hp

theorem joins_settled (h : ¬(p ↔ op = .and)) : op.Joins p q ↔ p := by
  cases op with
  | and => exact and_iff_left_of_imp fun hp => absurd (iff_of_true hp rfl) h
  | or => exact or_iff_left_of_imp fun _ => by_contra fun hp => h (iff_of_false hp (by decide))

theorem joins_neutral : op.Joins p (op = .and) ↔ p := by
  cases op with
  | and => exact and_iff_left rfl
  | or => exact or_iff_left (by decide)

theorem settled_iff {b : Bool} (hb : b = true ↔ p) :
    ((Value.bool b).truthy == (op == .or)) = true ↔ ¬(p ↔ op = .and) := by
  rw [← hb]
  cases op <;> cases b <;> decide

/-- An operand that leaves the matter open leaves it to the rest. -/
theorem Settles.joined {x y : Evaluation σ Value} {breaks holds breaks' holds' : Prop} (h : Settles x breaks holds)
    (h' : Settles y breaks' holds') :
    Settles (do let v ← x; if v.truthy == (op == .or) then return v else y)
      (breaks ∨ (holds ↔ op = .and) ∧ breaks') (op.Joins holds holds') := by
  by_cases hbreaks : breaks
  · obtain ⟨n, hn, rfl⟩ := h.broken hbreaks
    exact ⟨fun hb => absurd (.inl hbreaks) hb, fun _ => ⟨n, hn, rfl⟩⟩
  obtain ⟨b, rfl, hiff⟩ := h.decided hbreaks
  rw [pure_bind]
  by_cases hopen : holds ↔ op = .and
  · rw [if_neg (mt (settled_iff hiff).mp (not_not_intro hopen))]
    constructor
    · intro hb
      obtain ⟨b', hy, hiff'⟩ := h'.decided fun hb' => hb (.inr ⟨hopen, hb'⟩)
      exact ⟨b', hy, hiff'.trans (joins_open hopen).symm⟩
    · intro hb
      exact h'.broken (hb.resolve_left hbreaks).2
  · rw [if_pos ((settled_iff hiff).mpr hopen)]
    constructor
    · intro _
      exact ⟨b, rfl, hiff.trans (joins_settled hopen).symm⟩
    · intro hb
      exact absurd (hb.resolve_left hbreaks).1 hopen

/-- The last operand has the last word. -/
theorem Settles.last {x : Evaluation σ Value} {breaks holds : Prop} (h : Settles x breaks holds) :
    Settles x (breaks ∨ (holds ↔ op = .and) ∧ False) (op.Joins holds (op = .and)) := by
  refine ⟨fun hb => ?_, fun hb => h.broken (hb.resolve_right And.right)⟩
  obtain ⟨b, hx, hiff⟩ := h.decided fun hbreaks => hb (.inl hbreaks)
  exact ⟨b, hx, hiff.trans joins_neutral.symm⟩

end Connecting

section Literals

variable {c : Literal} {cs : List Literal}

theorem overlong_iff : c.Overlong ↔ ∃ n, c.value.size? = some n ∧ maxLength < n := by
  cases c <;> simp [Literal.Overlong, Literal.value, Value.size?]

theorem literal_brief (hc : ¬c.Overlong) : (Evaluation.literal c : Evaluation σ Value) = pure c.value := by
  unfold Evaluation.literal
  cases hs : c.value.size? with
  | none => rfl
  | some n => exact if_neg fun hn => hc (overlong_iff.mpr ⟨n, hs, hn⟩)

theorem literal_overlong (hc : c.Overlong) :
    ∃ n, maxLength < n ∧ ∀ {σ : Type},
      (Evaluation.literal c : Evaluation σ Value) = Evaluation.fault (.iterableTooLong (.literal n)) := by
  obtain ⟨n, hs, hn⟩ := overlong_iff.mp hc
  refine ⟨n, hn, fun {σ} => ?_⟩
  unfold Evaluation.literal
  rw [hs]
  exact if_pos hn

theorem evalAll_brief (hcs : ¬∃ c ∈ cs, c.Overlong) :
    Evaluation.evalAll ctx source [] (cs.map .literal) = pure (cs.map Literal.value) := by
  induction cs with
  | nil => rfl
  | cons c cs ih =>
    obtain ⟨hc, hrest⟩ := List.forall_mem_cons.mp fun c hc hlong => hcs ⟨c, hc, hlong⟩
    simp only [List.map_cons, Evaluation.evalAll, Evaluation.eval, literal_brief hc, pure_bind,
      ih fun ⟨c, hc, hlong⟩ => hrest c hc hlong]

/-- The first literal that is too long ends the evaluation of the arguments. -/
theorem evalAll_overlong (hcs : ∃ c ∈ cs, c.Overlong) :
    ∃ n, maxLength < n ∧ ∀ {σ : Type} (ctx : Context σ) (source : String),
      Evaluation.evalAll ctx source [] (cs.map .literal) = Evaluation.fault (.iterableTooLong (.literal n)) := by
  induction cs with
  | nil => simp at hcs
  | cons c cs ih =>
    simp only [List.map_cons, Evaluation.evalAll, Evaluation.eval]
    by_cases hc : c.Overlong
    · obtain ⟨n, hn, hfault⟩ := literal_overlong hc
      exact ⟨n, hn, fun _ _ => by rw [hfault]; rfl⟩
    · obtain ⟨n, hn, hfault⟩ := ih ((List.exists_mem_cons_iff ..).mp hcs |>.resolve_left hc)
      exact ⟨n, hn, fun _ _ => by rw [literal_brief hc, pure_bind, hfault]; rfl⟩

end Literals

section Evaluating

variable (hc : h.Identifies who ctx)
include hc

/-- A call of a built-in predicate evaluates its arguments and is decided for the identity. -/
theorem eval_builtin (source : String) : ∃ request, ∀ p ∈ Predicate.common, ∀ args keywords,
    Evaluation.eval ctx source [] (.call (.name p.name) args keywords) = (do
      let vs ← Evaluation.evalAll ctx source [] args
      let named ← Evaluation.evalKeywords ctx source [] [] keywords
      liftM ((h.subject who).decide request p vs named)) := by
  obtain ⟨request, hdecide⟩ := hc.decide
  refine ⟨request, fun p hp args keywords => ?_⟩
  simp only [Evaluation.eval, hc.function? hp, Context.call, hdecide]

theorem eval_constant (source : String) (b : Bool) :
    Evaluation.eval ctx source [] (Formula.constant b).expr = pure (.bool b) := by
  have hlookup : ctx.bindings.lookup (if b then "permitAll" else "denyAll") = some (.bool b) := by
    cases b with
    | true => exact hc.values "permitAll" (by decide)
    | false => exact hc.values "denyAll" (by decide)
  simp only [Formula.expr, Evaluation.eval, List.lookup_nil, hlookup]

theorem settles_constant (b : Bool) :
    Settles (Evaluation.eval ctx source [] (Formula.constant b).expr) False (b = true) :=
  .of_decided (eval_constant hc source b) Iff.rfl

theorem settles_standing (q : Standing) :
    Settles (Evaluation.eval ctx source [] (Formula.standing q).expr) False (q.Of (caller who)) := by
  obtain ⟨request, hcall⟩ := eval_builtin hc source
  refine .of_decided ?_ granted_iff
  have hcommon : q.predicate ∈ Predicate.common := by cases q <;> decide
  have hdecided : (h.subject who).decide request q.predicate [] [] =
      pure (.bool (q.granted (Trust.of (some (caller who))))) := by
    cases q <;> rfl
  refine (hcall q.predicate hcommon [] []).trans ?_
  simp only [Evaluation.evalAll, Evaluation.evalKeywords, pure_bind, hdecided, liftM_pure]

theorem settles_holdsAny (kind : Holding) (cs : List Literal) :
    Settles (Evaluation.eval ctx source [] (Formula.holdsAny kind cs).expr) (∃ c ∈ cs, c.Overlong)
      (∃ c ∈ cs, Held h who kind c) := by
  obtain ⟨request, hcall⟩ := eval_builtin hc source
  have hcommon : kind.any ∈ Predicate.common := by cases kind <;> decide
  have hdecided : (h.subject who).decide request kind.any (cs.map Literal.value) [] =
      pure (.bool ((h.subject who).holdsAny (kind.completion h) (cs.map Literal.value))) := by
    cases kind <;> rfl
  have heval := hcall kind.any hcommon (cs.map .literal) []
  constructor
  · intro hcs
    refine ⟨_, heval.trans ?_, holdsAny_iff cs⟩
    simp only [evalAll_brief hcs, Evaluation.evalKeywords, pure_bind, hdecided, liftM_pure]
  · intro hcs
    obtain ⟨n, hn, hfault⟩ := evalAll_overlong hcs
    exact ⟨n, hn, heval.trans (by rw [hfault]; rfl)⟩

theorem settles_holds (kind : Holding) (byName : Bool) (c : Literal) :
    Settles (Evaluation.eval ctx source [] (Formula.holds kind byName c).expr) c.Overlong (Held h who kind c) := by
  obtain ⟨request, hcall⟩ := eval_builtin hc source
  have hcommon : kind.one ∈ Predicate.common := by cases kind <;> decide
  have hheld : (h.subject who).holdsAny (kind.completion h) [c.value] = true ↔ Held h who kind c :=
    (holdsAny_iff [c]).trans (by simp)
  have hdecided : (h.subject who).decide request kind.one [c.value] [] =
      pure (.bool ((h.subject who).holdsAny (kind.completion h) [c.value])) := by
    cases kind <;> rfl
  have hnamed : (h.subject who).decide request kind.one [] [(kind.parameter, c.value)] =
      pure (.bool ((h.subject who).holdsAny (kind.completion h) [c.value])) := by
    cases kind <;> rfl
  cases byName with
  | false =>
    have heval := hcall kind.one hcommon [.literal c] []
    constructor
    · intro hbrief
      refine ⟨_, heval.trans ?_, hheld⟩
      simp only [Evaluation.evalAll, Evaluation.eval, literal_brief hbrief, Evaluation.evalKeywords, pure_bind, hdecided,
        liftM_pure]
    · intro hlong
      obtain ⟨n, hn, hfault⟩ := literal_overlong hlong
      refine ⟨n, hn, heval.trans ?_⟩
      simp only [Evaluation.evalAll, Evaluation.eval, hfault]
      rfl
  | true =>
    have heval := hcall kind.one hcommon [] [.mk (some kind.parameter) (.literal c)]
    constructor
    · intro hbrief
      refine ⟨_, heval.trans ?_, hheld⟩
      simp only [Evaluation.evalAll, Evaluation.eval, literal_brief hbrief, Evaluation.evalKeywords, Bindings.assign,
        pure_bind, hnamed, liftM_pure]
    · intro hlong
      obtain ⟨n, hn, hfault⟩ := literal_overlong hlong
      refine ⟨n, hn, heval.trans ?_⟩
      simp only [Evaluation.evalAll, Evaluation.eval, Evaluation.evalKeywords, hfault, pure_bind]
      rfl

end Evaluating

mutual

theorem settles_eval (hc : h.Identifies who ctx) (source : String) (f : Formula) :
    Settles (Evaluation.eval ctx source [] f.expr) (f.Breaks h who) (f.Holds h who) :=
  match f with
  | .constant b => settles_constant hc b
  | .standing q => settles_standing hc q
  | .holds kind byName c => settles_holds hc kind byName c
  | .holdsAny kind cs => settles_holdsAny hc kind cs
  | .not f => (settles_eval hc source f).negated
  | .connected op f fs => settles_chain hc source op f (settles_eval hc source f) fs
termination_by structural f

theorem settles_chain (hc : h.Identifies who ctx) (source : String) (op : Connective) (f : Formula)
    (hf : Settles (Evaluation.eval ctx source [] f.expr) (f.Breaks h who) (f.Holds h who)) (fs : List Formula) :
    Settles (Evaluation.evalConnected ctx source [] op (f.expr :: Formula.exprs fs))
      (f.Breaks h who ∨ (f.Holds h who ↔ op = .and) ∧ Formula.BreakAmong h who op fs)
      (op.Joins (f.Holds h who) (Formula.HoldTogether h who op fs)) :=
  match fs with
  | [] => hf.last
  | g :: gs => hf.joined (settles_chain hc source op g (settles_eval hc source g) gs)
termination_by structural fs

end

end Leaves

namespace Guard

variable {h : Handler σ} {who : Option Authentication} {ctx : Context σ} {f : Formula}

section Settled

variable {source : String} {e : Expr} {breaks holds : Prop}

theorem settled (hs : Settles (Evaluation.eval ctx source [] e) breaks holds) (label : String) (hb : ¬breaks) :
    ∃ b, (Guard.mk source label e).evaluate ctx = pure (.bool b) ∧ (Guard.mk source label e).allows ctx = pure b ∧
      (b = true ↔ holds) := by
  obtain ⟨b, heval, hiff⟩ := hs.decided hb
  have hexpr : e.Means ctx source (pure (.bool b)) := by
    rw [Expr.Means, heval, liftM_pure]
  have hevaluate : (Guard.mk source label e).evaluate ctx = pure (.bool b) := by
    unfold evaluate
    rw [hexpr.eval]
    rfl
  refine ⟨b, hevaluate, ?_, hiff⟩
  unfold allows
  rw [hevaluate]
  cases b <;> rfl

theorem broken (hs : Settles (Evaluation.eval ctx source [] e) breaks holds) (label : String) (hb : breaks) :
    ∃ n, maxLength < n ∧ (Guard.mk source label e).evaluate ctx =
      throw (.evaluation label source (.expression (.iterableTooLong (.literal n)))) := by
  obtain ⟨n, hn, heval⟩ := hs.broken hb
  have hexpr : e.Means ctx source (throw (.expression (.iterableTooLong (.literal n)))) := by
    rw [Expr.Means, heval]
    rfl
  refine ⟨n, hn, ?_⟩
  unfold evaluate
  rw [hexpr.eval]
  rfl

end Settled

theorem formula_settled (hc : h.Identifies who ctx) (source label : String) (hf : ¬f.Breaks h who) :
    ∃ b, (Guard.mk source label f.expr).evaluate ctx = pure (.bool b) ∧
      (Guard.mk source label f.expr).allows ctx = pure b ∧ (b = true ↔ f.Holds h who) :=
  settled (settles_eval hc source f) label hf

theorem formula_broken (hc : h.Identifies who ctx) (source label : String) (hf : f.Breaks h who) :
    ∃ n, maxLength < n ∧ (Guard.mk source label f.expr).evaluate ctx =
      throw (.evaluation label source (.expression (.iterableTooLong (.literal n)))) :=
  broken (settles_eval hc source f) label hf

/-- Guards that are formulas come to the truth of the formula, in every context that is made for an identity and
for every identity, prefix and hierarchy; only where evaluation comes to a literal that is too long, it fails. -/
theorem formula_decided (h : Handler σ) (who : Option Authentication) {ctx : Context σ} (hm : h.Makes who ctx)
    (source label : String) (f : Formula) :
    (¬f.Breaks h who →
      ∃ b, (Guard.mk source label f.expr).evaluate ctx = pure (.bool b) ∧
        (Guard.mk source label f.expr).allows ctx = pure b ∧ (b = true ↔ f.Holds h who)) ∧
    (f.Breaks h who →
      ∃ n, maxLength < n ∧ (Guard.mk source label f.expr).evaluate ctx =
        throw (.evaluation label source (.expression (.iterableTooLong (.literal n))))) :=
  ⟨formula_settled hm.identifies source label, formula_broken hm.identifies source label⟩

end Guard

namespace Formula

/-- A handler by which administrators are users. -/
def ranked : Handler Unit where
  hierarchy := some ⟨[("ROLE_ADMIN", ["ROLE_USER"])], by decide⟩
  send _ _ _ _ := throw (.operand .wrongType)

def root : Authentication := .of "root" ["ROLE_ADMIN"] .null false []

/-- Somebody who is not anonymous and who holds the authority 1, which is none, or is a user. -/
def userOrOne : Formula :=
  .connected .and (.not (.standing .anonymous))
    [.connected .or (.holdsAny .authority [.int 1]) [.holds .role false (.text "USER"), .constant false]]

theorem decided_root : ¬userOrOne.Breaks ranked (some root) ∧
    ∃ b, (Guard.mk "not isAnonymous() and (hasAnyAuthority(1) or hasRole('USER') or denyAll)" "rule"
      userOrOne.expr).evaluate (ranked.commonContext (some root)) = pure (.bool b) ∧ b = true := by
  have hbreaks : ¬userOrOne.Breaks ranked (some root) := by
    simp only [userOrOne, Breaks, BreakAmong, Literal.Overlong, maxLength, List.exists_mem_cons_iff,
      List.not_mem_nil, false_and, exists_false, or_false, and_false, false_or, not_and, Nat.not_lt]
    exact fun _ _ => by decide
  have hholds : userOrOne.Holds ranked (some root) := by
    have hheld : Held ranked (some root) .role (.text "USER") := by
      refine ⟨"USER", "ROLE_USER", rfl, standsFor_iff.mpr rfl, "ROLE_ADMIN", by decide, ?_⟩
      exact Relation.ReflTransGen.single (by decide : "ROLE_USER" ∈ Implications.children _ "ROLE_ADMIN")
    exact ⟨(by decide : ¬root.anonymous = true), .inr (.inl hheld), rfl⟩
  obtain ⟨b, hevaluate, _, hiff⟩ := (Guard.formula_decided ranked (some root) .common
    "not isAnonymous() and (hasAnyAuthority(1) or hasRole('USER') or denyAll)" "rule" userOrOne).1 hbreaks
  exact ⟨hbreaks, b, hevaluate, hiff.mpr hholds⟩

def repeated (n : Nat) : String := String.ofList (List.replicate n 'a')

theorem length_repeated (n : Nat) : (repeated n).length = n := by
  rw [repeated, String.length_ofList, List.length_replicate]

theorem repeated_overlong : (Literal.text (repeated (maxLength + 1))).Overlong := by
  change maxLength < (repeated (maxLength + 1)).length
  rw [length_repeated]
  exact Nat.lt_succ_self maxLength

/-- A question about a role with a name that is just too long is not answered. -/
theorem long_name_undecided : ¬∃ v,
    (Guard.mk ("hasRole('" ++ repeated (maxLength + 1) ++ "')") "rule"
      (holds .role false (.text (repeated (maxLength + 1)))).expr).evaluate (ranked.commonContext none) = pure v := by
  rintro ⟨v, hv⟩
  have hlong : (holds .role false (.text (repeated (maxLength + 1)))).Breaks ranked none := repeated_overlong
  obtain ⟨n, _, hfault⟩ := Guard.formula_broken Handler.commonContext_identifies
    ("hasRole('" ++ repeated (maxLength + 1) ++ "')") "rule" hlong
  rw [hfault] at hv
  have houtcome := congrArg (Run.outcome · ()) hv
  rw [Run.outcome_throw, Run.outcome_pure] at houtcome
  cases houtcome

end Formula

end AccessPolicy
