import AccessPolicy.Callable.Secured
import AccessPolicy.Proofs.Outcome
import AccessPolicy.Proofs.Bindings
import Mathlib.Logic.Relation

/-!
The decision protocol of secured calls, as a machine that goes from phase to phase. A secured call ends as
the machine does, in the same world, and the machine runs the body at most once.
-/

namespace AccessPolicy.Protocol

variable {σ : Type}

/-- How a slot decides whether a caller passes; only truth itself lets a caller pass. -/
inductive Decision (ctx : Context σ) : Option Guard → σ → Except Failure Unit → σ → Prop
  | absent {s} : Decision ctx none s (.ok ()) s
  | allowed {g s t} : (g.evaluate ctx).outcome s = (.ok (.bool true), t) →
      Decision ctx (some g) s (.ok ()) t
  | denied {g s t v} : (g.evaluate ctx).outcome s = (.ok v, t) → v ≠ .bool true →
      Decision ctx (some g) s (.error .accessDenied) t
  | failed {g s t f} : (g.evaluate ctx).outcome s = (.error f, t) →
      Decision ctx (some g) s (.error f) t

/-- How the one argument that a filter is for is replaced before a call. -/
inductive Narrowing (a : Attachment) (ctx : Context σ) (arguments : Arguments) :
    σ → Except Failure Arguments → σ → Prop
  | absent {s} : a.preFilter = none → Narrowing a ctx arguments s (.ok arguments) s
  | untargeted {g s f} : a.preFilter = some g → a.target arguments = .error f →
      Narrowing a ctx arguments s (.error f) s
  | missing {g s p} : a.preFilter = some g → a.target arguments = .ok p → arguments.lookup p = none →
      Narrowing a ctx arguments s (.error (.operand .missingKey)) s
  | replaced {g s t p v w} : a.preFilter = some g → a.target arguments = .ok p →
      arguments.lookup p = some v → (g.filter ctx v).outcome s = (.ok w, t) →
      Narrowing a ctx arguments s (.ok (Bindings.assign p w arguments)) t
  | failed {g s t p v f} : a.preFilter = some g → a.target arguments = .ok p →
      arguments.lookup p = some v → (g.filter ctx v).outcome s = (.error f, t) →
      Narrowing a ctx arguments s (.error f) t

/-- How a returned value is replaced by its filtered copy. -/
inductive Screening (ctx : Context σ) (v : Value) : Option Guard → σ → Except Failure Value → σ → Prop
  | absent {s} : Screening ctx v none s (.ok v) s
  | replaced {g s t r} : (g.filter ctx v).outcome s = (r, t) → Screening ctx v (some g) s r t

/-- How far a secured call has come, with the arguments and the value that it has by then. -/
inductive Phase
  | start (arguments : Arguments)
  | preAuthorized (arguments : Arguments)
  | ready (arguments : Arguments)
  | invoked (arguments : Arguments) (returned : Value)
  | postFiltered (arguments : Arguments) (returned : Value)
  | ended (result : Except Failure Value)

/-- A secured call under way: its phase, the world, and the arguments of every run of the body so far. -/
structure Progress (σ : Type) where
  phase : Phase
  world : σ
  runs : List Arguments

variable (h : Handler σ) (a : Attachment) (this : Option Value) (who : Option Authentication)
  (body : Arguments → Run σ Value)

/-- One step of a secured call. -/
inductive Step : Progress σ → Progress σ → Prop
  | authorize {args s t runs} :
      Decision (a.context h this who args none) a.preAuthorize s (.ok ()) t →
      Step ⟨.start args, s, runs⟩ ⟨.preAuthorized args, t, runs⟩
  | refuse {args s t runs f} :
      Decision (a.context h this who args none) a.preAuthorize s (.error f) t →
      Step ⟨.start args, s, runs⟩ ⟨.ended (.error f), t, runs⟩
  | narrow {args args' s t runs} :
      Narrowing a (a.context h this who args none) args s (.ok args') t →
      Step ⟨.preAuthorized args, s, runs⟩ ⟨.ready args', t, runs⟩
  | unnarrowed {args s t runs f} :
      Narrowing a (a.context h this who args none) args s (.error f) t →
      Step ⟨.preAuthorized args, s, runs⟩ ⟨.ended (.error f), t, runs⟩
  | run {args s t runs v} : (body args).outcome s = (.ok v, t) →
      Step ⟨.ready args, s, runs⟩ ⟨.invoked args v, t, runs ++ [args]⟩
  | fail {args s t runs f} : (body args).outcome s = (.error f, t) →
      Step ⟨.ready args, s, runs⟩ ⟨.ended (.error f), t, runs ++ [args]⟩
  | screen {args v w s t runs} :
      Screening (a.context h this who args (some v)) v a.postFilter s (.ok w) t →
      Step ⟨.invoked args v, s, runs⟩ ⟨.postFiltered args w, t, runs⟩
  | unscreened {args v s t runs f} :
      Screening (a.context h this who args (some v)) v a.postFilter s (.error f) t →
      Step ⟨.invoked args v, s, runs⟩ ⟨.ended (.error f), t, runs⟩
  | release {args v s t runs} :
      Decision (a.context h this who args (some v)) a.postAuthorize s (.ok ()) t →
      Step ⟨.postFiltered args v, s, runs⟩ ⟨.ended (.ok v), t, runs⟩
  | withhold {args v s t runs f} :
      Decision (a.context h this who args (some v)) a.postAuthorize s (.error f) t →
      Step ⟨.postFiltered args v, s, runs⟩ ⟨.ended (.error f), t, runs⟩

abbrev Reaches : Progress σ → Progress σ → Prop := Relation.ReflTransGen (Step h a this who body)

/-- A call with some arguments ends by the protocol, having run its body with the arguments in `runs`. -/
def Ends (arguments : Arguments) (s : σ) (r : Except Failure Value) (t : σ) (runs : List Arguments) : Prop :=
  Reaches h a this who body ⟨.start arguments, s, []⟩ ⟨.ended r, t, runs⟩

/-- What is left to do from a phase on. -/
def rest : Phase → Run σ Value
  | .start args => do
    let args ← a.before h this who args
    let v ← body args
    a.after h this who args v
  | .preAuthorized args => do
    let args ← a.narrow (a.context h this who args none) args
    let v ← body args
    a.after h this who args v
  | .ready args => do
    let v ← body args
    a.after h this who args v
  | .invoked args v => a.after h this who args v
  | .postFiltered args v => do
    Attachment.demand (a.context h this who args (some v)) a.postAuthorize
    return v
  | .ended r => Run.ofExcept r

variable {h a this who body}

theorem passes_iff {v : Value} : Guard.passes v = true ↔ v = .bool true := by
  constructor
  · intro hv
    unfold Guard.passes at hv
    split at hv
    · rfl
    · cases hv
  · rintro rfl
    rfl

theorem outcome_demand_some (ctx : Context σ) (g : Guard) (s : σ) :
    (Attachment.demand ctx (some g)).outcome s =
      match (g.evaluate ctx).outcome s with
      | (.ok v, t) => (if Guard.passes v then .ok () else .error .accessDenied, t)
      | (.error f, t) => (.error f, t) := by
  change (g.allows ctx >>= fun b => if !b then throw .accessDenied else pure () : Run σ Unit).outcome s = _
  rw [Run.outcome_bind, Guard.allows, Run.outcome_bind]
  rcases (g.evaluate ctx).outcome s with ⟨f | v, t⟩
  · rfl
  · cases hv : Guard.passes v <;> simp [hv]

theorem decision_iff {ctx : Context σ} {g : Option Guard} {s t : σ} {r : Except Failure Unit} :
    Decision ctx g s r t ↔ (Attachment.demand ctx g).outcome s = (r, t) := by
  cases g with
  | none =>
    constructor
    · rintro ⟨⟩
      rfl
    · rintro ⟨⟩
      exact .absent
  | some g =>
    rw [outcome_demand_some]
    constructor
    · intro hd
      cases hd with
      | allowed he => rw [he]; rfl
      | denied he hv => rw [he]; simp [passes_iff, hv]
      | failed he => rw [he]
    · intro hd
      cases he : (g.evaluate ctx).outcome s with
      | mk e u =>
        rw [he] at hd
        cases e with
        | error f => cases hd; exact .failed he
        | ok v =>
          by_cases hv : v = .bool true
          · subst hv
            cases hd
            exact .allowed he
          · simp only [passes_iff, hv, ↓reduceIte] at hd
            cases hd
            exact .denied he hv

theorem narrowing_iff {ctx : Context σ} {args : Arguments} {s t : σ} {r : Except Failure Arguments} :
    Narrowing a ctx args s r t ↔ (a.narrow ctx args).outcome s = (r, t) := by
  unfold Attachment.narrow
  constructor
  · intro hn
    cases hn with
    | absent hf => simp [hf]
    | untargeted hf ht => simp [hf, ht, Run.outcome_bind]
    | missing hf ht hl => simp [hf, ht, hl, Run.outcome_bind]
    | replaced hf ht hl he => simp [hf, ht, hl, he, Run.outcome_bind, Run.outcome_map, Except.map]
    | failed hf ht hl he => simp [hf, ht, hl, he, Run.outcome_bind, Run.outcome_map, Except.map]
  · intro hn
    cases hf : a.preFilter with
    | none =>
      simp only [hf, Run.outcome_pure] at hn
      cases hn
      exact .absent hf
    | some g =>
      simp only [hf, Run.outcome_bind, Run.outcome_ofExcept] at hn
      cases ht : a.target args with
      | error f =>
        rw [ht] at hn
        cases hn
        exact .untargeted hf ht
      | ok p =>
        simp only [ht] at hn
        cases hl : args.lookup p with
        | none =>
          simp only [hl, Run.outcome_throw] at hn
          cases hn
          exact .missing hf ht hl
        | some v =>
          simp only [hl, Run.outcome_bind] at hn
          cases he : (g.filter ctx v).outcome s with
          | mk e u =>
            rw [he] at hn
            cases e with
            | error f => cases hn; exact .failed hf ht hl he
            | ok w => cases hn; exact .replaced hf ht hl he

theorem screening_iff {ctx : Context σ} {v : Value} {g : Option Guard} {s t : σ} {r : Except Failure Value} :
    Screening ctx v g s r t ↔ (Attachment.screen ctx g v).outcome s = (r, t) := by
  cases g with
  | none =>
    constructor
    · rintro ⟨⟩
      rfl
    · rintro ⟨⟩
      exact .absent
  | some g =>
    constructor
    · intro hs
      cases hs with
      | replaced he => exact he
    · intro he
      exact .replaced he

theorem step_outcome {c d : Progress σ} (hs : Step h a this who body c d) :
    (rest h a this who body c.phase).outcome c.world = (rest h a this who body d.phase).outcome d.world := by
  cases hs with
  | authorize hd =>
    simp only [rest, Attachment.before, bind_assoc]
    exact Run.outcome_bind_ok (decision_iff.mp hd) _
  | refuse hd =>
    simp only [rest, Attachment.before, bind_assoc, Run.outcome_ofExcept]
    exact Run.outcome_bind_error (decision_iff.mp hd) _
  | narrow hn => exact Run.outcome_bind_ok (narrowing_iff.mp hn) _
  | unnarrowed hn => exact Run.outcome_bind_error (narrowing_iff.mp hn) _
  | run hb => exact Run.outcome_bind_ok hb _
  | fail hb => exact Run.outcome_bind_error hb _
  | screen hc => exact Run.outcome_bind_ok (screening_iff.mp hc) _
  | unscreened hc => exact Run.outcome_bind_error (screening_iff.mp hc) _
  | release hd => exact Run.outcome_bind_ok (decision_iff.mp hd) _
  | withhold hd => exact Run.outcome_bind_error (decision_iff.mp hd) _

theorem reaches_outcome {c d : Progress σ} (hr : Reaches h a this who body c d) :
    (rest h a this who body c.phase).outcome c.world = (rest h a this who body d.phase).outcome d.world := by
  induction hr with
  | refl => rfl
  | tail _ hs ih => exact ih.trans (step_outcome hs)

def Phase.distance : Phase → Nat
  | .start _ => 5
  | .preAuthorized _ => 4
  | .ready _ => 3
  | .invoked .. => 2
  | .postFiltered .. => 1
  | .ended _ => 0

variable (h a this who body)

/-- A call that has not ended takes a step, and comes closer to its end. -/
theorem step_exists (c : Progress σ) (hc : 0 < c.phase.distance) :
    ∃ d, Step h a this who body c d ∧ d.phase.distance < c.phase.distance := by
  obtain ⟨phase, s, runs⟩ := c
  cases phase with
  | start args =>
    cases hd : (Attachment.demand (a.context h this who args none) a.preAuthorize).outcome s with
    | mk r t =>
      cases r with
      | ok u => exact ⟨_, .authorize (decision_iff.mpr hd), by simp [Phase.distance]⟩
      | error f => exact ⟨_, .refuse (decision_iff.mpr hd), by simp [Phase.distance]⟩
  | preAuthorized args =>
    cases hn : (a.narrow (a.context h this who args none) args).outcome s with
    | mk r t =>
      cases r with
      | ok args' => exact ⟨_, .narrow (narrowing_iff.mpr hn), by simp [Phase.distance]⟩
      | error f => exact ⟨_, .unnarrowed (narrowing_iff.mpr hn), by simp [Phase.distance]⟩
  | ready args =>
    cases hb : (body args).outcome s with
    | mk r t =>
      cases r with
      | ok v => exact ⟨_, .run hb, by simp [Phase.distance]⟩
      | error f => exact ⟨_, .fail hb, by simp [Phase.distance]⟩
  | invoked args v =>
    cases hc : (Attachment.screen (a.context h this who args (some v)) a.postFilter v).outcome s with
    | mk r t =>
      cases r with
      | ok w => exact ⟨_, .screen (screening_iff.mpr hc), by simp [Phase.distance]⟩
      | error f => exact ⟨_, .unscreened (screening_iff.mpr hc), by simp [Phase.distance]⟩
  | postFiltered args v =>
    cases hd : (Attachment.demand (a.context h this who args (some v)) a.postAuthorize).outcome s with
    | mk r t =>
      cases r with
      | ok u => exact ⟨_, .release (decision_iff.mpr hd), by simp [Phase.distance]⟩
      | error f => exact ⟨_, .withhold (decision_iff.mpr hd), by simp [Phase.distance]⟩
  | ended r => exact absurd hc (Nat.lt_irrefl 0)

theorem reaches_end (c : Progress σ) :
    ∃ r t runs, Reaches h a this who body c ⟨.ended r, t, runs⟩ := by
  induction hn : c.phase.distance using Nat.strongRecOn generalizing c with
  | ind n ih =>
    by_cases hz : 0 < c.phase.distance
    · obtain ⟨d, hs, hd⟩ := step_exists h a this who body c hz
      obtain ⟨r, t, runs, hr⟩ := ih _ (hn ▸ hd) d rfl
      exact ⟨r, t, runs, .head hs hr⟩
    · obtain ⟨phase, s, runs⟩ := c
      cases phase with
      | ended r => exact ⟨r, s, runs, .refl⟩
      | _ => exact absurd (by simp [Phase.distance]) hz

variable {h a this who body}

theorem narrowing_others {ctx : Context σ} {args args' : Arguments} {s t : σ}
    (hn : Narrowing a ctx args s (.ok args') t) :
    args'.names = args.names ∧ (a.preFilter = none → args' = args) ∧
      ∀ q, a.target args ≠ .ok q → args'.lookup q = args.lookup q := by
  cases hn with
  | absent hf => exact ⟨rfl, fun _ => rfl, fun _ _ => rfl⟩
  | @replaced g s t p v w hf ht hl he =>
    refine ⟨?_, ?_, ?_⟩
    · exact Bindings.names_assign_of_mem (Bindings.mem_of_lookup hl)
    · intro hnone
      rw [hnone] at hf
      cases hf
    · intro q hq
      rw [Bindings.lookup_assign, if_neg]
      rintro rfl
      exact hq ht

theorem before_eq (arguments : Arguments) :
    a.before h this who arguments = (do
      Attachment.demand (a.context h this who arguments none) a.preAuthorize
      a.narrow (a.context h this who arguments none) arguments) := rfl

theorem before_ok {arguments args : Arguments} {s t : σ}
    (hb : (a.before h this who arguments).outcome s = (.ok args, t)) :
    ∃ u, Narrowing a (a.context h this who arguments none) arguments u (.ok args) t := by
  rw [before_eq, Run.outcome_bind] at hb
  cases hd : (Attachment.demand (a.context h this who arguments none) a.preAuthorize).outcome s with
  | mk r u =>
    rw [hd] at hb
    cases r with
    | error f => cases hb
    | ok _ => exact ⟨u, narrowing_iff.mpr hb⟩

/-- What holds of a call under way that started with some arguments in the world `s`: before its body runs
it has run no body, and it runs the body with what is left of the arguments, once. -/
def Faithful (h : Handler σ) (a : Attachment) (this : Option Value) (who : Option Authentication)
    (arguments : Arguments) (s : σ) (c : Progress σ) : Prop :=
  match c.phase with
  | .start args => args = arguments ∧ c.world = s ∧ c.runs = []
  | .preAuthorized args => args = arguments ∧ c.runs = [] ∧
      (a.before h this who arguments).outcome s =
        (a.narrow (a.context h this who arguments none) arguments).outcome c.world
  | .ready args => c.runs = [] ∧ (a.before h this who arguments).outcome s = (.ok args, c.world)
  | .invoked args _ | .postFiltered args _ =>
    c.runs = [args] ∧ ∃ u, (a.before h this who arguments).outcome s = (.ok args, u)
  | .ended r =>
    (c.runs = [] ∧ ∃ f, r = .error f ∧ (a.before h this who arguments).outcome s = (.error f, c.world)) ∨
      ∃ args u, c.runs = [args] ∧ (a.before h this who arguments).outcome s = (.ok args, u)

theorem step_faithful {arguments : Arguments} {s : σ} {c d : Progress σ}
    (hs : Step h a this who body c d) (hc : Faithful h a this who arguments s c) :
    Faithful h a this who arguments s d := by
  cases hs with
  | authorize hd =>
    obtain ⟨rfl, rfl, hr⟩ := hc
    exact ⟨rfl, hr, Run.outcome_bind_ok (decision_iff.mp hd) _⟩
  | @refuse args s t runs f hd =>
    obtain ⟨rfl, rfl, hr⟩ := hc
    exact .inl ⟨hr, f, rfl, Run.outcome_bind_error (decision_iff.mp hd) _⟩
  | narrow hn =>
    obtain ⟨rfl, hr, hb⟩ := hc
    exact ⟨hr, hb.trans (narrowing_iff.mp hn)⟩
  | @unnarrowed args s t runs f hn =>
    obtain ⟨rfl, hr, hb⟩ := hc
    exact .inl ⟨hr, f, rfl, hb.trans (narrowing_iff.mp hn)⟩
  | run _ =>
    obtain ⟨hr, hb⟩ := hc
    exact ⟨congrArg (· ++ _) hr, _, hb⟩
  | fail _ =>
    obtain ⟨hr, hb⟩ := hc
    exact .inr ⟨_, _, congrArg (· ++ _) hr, hb⟩
  | screen _ => exact hc
  | unscreened _ | release _ | withhold _ =>
    obtain ⟨hr, u, hb⟩ := hc
    exact .inr ⟨_, u, hr, hb⟩

theorem reaches_faithful {arguments : Arguments} {s : σ} {c : Progress σ}
    (hr : Reaches h a this who body ⟨.start arguments, s, []⟩ c) : Faithful h a this who arguments s c := by
  induction hr with
  | refl => exact ⟨rfl, rfl, rfl⟩
  | tail _ hs ih => exact step_faithful hs ih

theorem ends_iff {arguments : Arguments} {s t : σ} {r : Except Failure Value} :
    (rest h a this who body (.start arguments)).outcome s = (r, t) ↔
      ∃ runs, Ends h a this who body arguments s r t runs := by
  constructor
  · intro ho
    obtain ⟨r', t', runs, hr⟩ := reaches_end h a this who body
      ⟨.start arguments, s, []⟩
    have hrest := (reaches_outcome hr).symm.trans ho
    simp only [rest, Run.outcome_ofExcept] at hrest
    cases hrest
    exact ⟨runs, hr⟩
  · rintro ⟨runs, hr⟩
    exact (reaches_outcome hr).trans (Run.outcome_ofExcept r t)

/-- The caller gets a value only from the last step, which decides about that very value. -/
theorem ends_ok {arguments : Arguments} {s t : σ} {v : Value} {runs : List Arguments}
    (he : Ends h a this who body arguments s (.ok v) t runs) :
    ∃ args u, Reaches h a this who body ⟨.start arguments, s, []⟩ ⟨.postFiltered args v, u, runs⟩ ∧
      Decision (a.context h this who args (some v)) a.postAuthorize u (.ok ()) t := by
  rcases Relation.ReflTransGen.cases_tail he with he | ⟨c, hr, hs⟩
  · cases he
  · cases hs with
    | release hd => exact ⟨_, _, hr, hd⟩

/-- A secured call whose arguments bind ends as the protocol does, in the same world. Its body is not run if
what comes before it fails, and otherwise it is run once, with the filtered argument replaced and every other
argument as it was; the caller gets a value only once the last guard lets it pass. A body that is awaited
makes no difference. -/
theorem invoke_follows_protocol (h : Handler σ) (a : Attachment) (this : Option Value)
    (who : Option Authentication) (body : Arguments → Run σ Value) (args : List Value) (named : Bindings)
    (s : σ) :
    (∀ f, a.binder.bind args named = .error f →
      (a.invoke h this who body args named).outcome s = (.error (.operand f), s)) ∧
    (∀ arguments, a.binder.bind args named = .ok arguments →
      (∀ r t, (a.invoke h this who body args named).outcome s = (r, t) ↔
        ∃ runs, Ends h a this who body arguments s r t runs) ∧
      (∀ r t runs, Ends h a this who body arguments s r t runs →
        (runs = [] ∧ ∃ f, r = .error f ∧ (a.before h this who arguments).outcome s = (.error f, t)) ∨
        (∃ final u, runs = [final] ∧ (a.before h this who arguments).outcome s = (.ok final, u) ∧
          final.names = arguments.names ∧ (a.preFilter = none → final = arguments) ∧
          ∀ q, a.target arguments ≠ .ok q → final.lookup q = arguments.lookup q)) ∧
      (∀ v t runs, Ends h a this who body arguments s (.ok v) t runs →
        ∃ final u,
          Reaches h a this who body ⟨.start arguments, s, []⟩ ⟨.postFiltered final v, u, runs⟩ ∧
          Decision (a.context h this who final (some v)) a.postAuthorize u (.ok ()) t)) ∧
    (∀ pending : Arguments → Run σ (Run σ Value),
      a.invokeAwaited h this who pending args named =
        a.invoke h this who (fun arguments => do (← pending arguments)) args named) := by
  refine ⟨?_, ?_, ?_⟩
  · intro f hf
    simp only [Attachment.invoke, hf]
    rfl
  · intro arguments hok
    have hi : a.invoke h this who body args named = rest h a this who body (.start arguments) := by
      simp only [Attachment.invoke, hok]
      rfl
    refine ⟨?_, ?_, fun v t runs => ends_ok⟩
    · intro r t
      rw [hi]
      exact ends_iff
    · intro r t runs he
      rcases reaches_faithful he with ⟨hr, hf⟩ | ⟨final, u, hr, hb⟩
      · exact .inl ⟨hr, hf⟩
      · obtain ⟨v, hn⟩ := before_ok hb
        exact .inr ⟨final, u, hr, hb, narrowing_others hn⟩
  · intro pending
    simp only [Attachment.invokeAwaited, Attachment.invoke, bind_assoc]

end AccessPolicy.Protocol
