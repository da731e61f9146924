import AccessPolicy.Callable.Signature
import AccessPolicy.Proofs.Bindings

/-!
What a function receives from a call, and how binding a call's arguments to the parameters relates to that. Binding
refuses more: an argument by the name of a positional parameter that is left out.
-/

namespace AccessPolicy

/-- Whether a parameter of a kind may be declared before one of another kind. -/
def ParameterKind.mayPrecede : ParameterKind → ParameterKind → Bool
  | .positional, _ => true
  | .normal, k => k != .positional
  | .rest, k => k == .named || k == .namedRest
  | .named, k => k == .named || k == .namedRest
  | .namedRest, _ => false

namespace Parameter

/-- Parameters as a function may declare them: under different names, and in the order of their kinds, of which the
variadic ones come once. -/
structure WellFormed (ps : List Parameter) : Prop where
  named : ∀ p ∈ ps, p.name ≠ ""
  apart : (ps.map (·.name)).Nodup
  ordered : ps.Pairwise fun p q => p.kind.mayPrecede q.kind = true

/-- Whether a call gives an argument by the name of a positional parameter that it gives none by position. -/
def shadowed (ps : List Parameter) (args : List Value) (named : Bindings) : Bool :=
  ((ps.filter (·.kind == .positional)).drop args.length).any fun p => (named.lookup p.name).isSome

variable {p : Parameter} {ps : List Parameter} {args : List Value} {named extra : Bindings} {n : String}

theorem WellFormed.tail (hw : WellFormed (p :: ps)) : WellFormed ps :=
  ⟨fun q hq => hw.named q (List.mem_cons_of_mem _ hq), (List.nodup_cons.mp hw.apart).2,
    (List.pairwise_cons.mp hw.ordered).2⟩

theorem WellFormed.head_apart (hw : WellFormed (p :: ps)) : ∀ q ∈ ps, q.name ≠ p.name := by
  intro q hq hname
  exact (List.nodup_cons.mp hw.apart).1 (List.mem_map.mpr ⟨q, hq, hname⟩)

theorem WellFormed.follows (hw : WellFormed (p :: ps)) : ∀ q ∈ ps, p.kind.mayPrecede q.kind = true :=
  (List.pairwise_cons.mp hw.ordered).1

theorem WellFormed.last (hw : WellFormed (p :: ps)) (hk : p.kind = .namedRest) : ps = [] := by
  refine List.eq_nil_iff_forall_not_mem.mpr fun q hq => ?_
  have hfollows := hw.follows q hq
  rw [hk] at hfollows
  cases hfollows

theorem WellFormed.none_positional (hw : WellFormed (p :: ps)) (hk : p.kind ≠ .positional) :
    ∀ q ∈ ps, q.kind ≠ .positional := by
  intro q hq hpositional
  have hfollows := hw.follows q hq
  rw [hpositional] at hfollows
  cases hkind : p.kind with
  | positional => exact hk hkind
  | _ =>
    rw [hkind] at hfollows
    cases hfollows

/-- Once positional arguments are used up or collected, only named parameters are left. -/
theorem WellFormed.only_named (hw : WellFormed (p :: ps)) (hk : p.kind = .rest ∨ p.kind = .named) :
    ∀ q ∈ ps, q.kind = .named ∨ q.kind = .namedRest := by
  intro q hq
  have hfollows := hw.follows q hq
  rcases hk with hk | hk <;> simpa [hk, ParameterKind.mayPrecede] using hfollows

theorem missing_cases (p : Parameter) : (∃ v, p.missing = .ok v) ∨ p.missing = .error .wrongType := by
  unfold missing
  cases p.default with
  | some v => exact .inl ⟨v, rfl⟩
  | none => exact .inr rfl

theorem byName_cases (p : Parameter) (named : Bindings) :
    (∃ v, p.byName named = .ok v) ∨ p.byName named = .error .wrongType := by
  unfold byName
  cases named.lookup p.name with
  | some v => exact .inl ⟨v, rfl⟩
  | none => exact missing_cases p

theorem lookup_filter_ne {n m : String} (h : m ≠ n) : (named.filter (·.1 != n)).lookup m = named.lookup m := by
  induction named with
  | nil => rfl
  | cons e named ih =>
    obtain ⟨k, v⟩ := e
    by_cases hk : k = n
    · rw [List.filter_cons_of_neg (by simp [hk]), ih, Bindings.lookup_cons, if_neg (hk ▸ h)]
    · rw [List.filter_cons_of_pos (by simp [hk]), Bindings.lookup_cons, Bindings.lookup_cons, ih]

theorem filter_ne_of_lookup (h : named.lookup n = none) : named.filter (·.1 != n) = named := by
  refine List.filter_eq_self.mpr fun e he => ?_
  rw [bne_iff_ne]
  rintro rfl
  simpa using List.lookup_eq_none_iff.mp h e he

theorem strangers_nil (named : Bindings) : strangers [] named = named := List.filter_eq_self.mpr fun _ _ => rfl

theorem strangers_nameable (hk : p.isNameable = true) :
    strangers (p :: ps) named = strangers ps (named.filter (·.1 != p.name)) := by
  unfold strangers
  rw [List.filter_filter]
  refine List.filter_congr fun e _ => ?_
  simp only [List.any_cons, hk, Bool.true_and, Bool.not_or]
  rw [Bool.and_comm, bne, BEq.comm]

theorem strangers_unnameable (hk : p.isNameable = false) : strangers (p :: ps) named = strangers ps named := by
  simp [strangers, hk]

theorem strangers_unnamed (hn : named.lookup p.name = none) : strangers (p :: ps) named = strangers ps named := by
  cases hk : p.isNameable with
  | false => exact strangers_unnameable hk
  | true => rw [strangers_nameable hk, filter_ne_of_lookup hn]

theorem shadowed_of_none (h : ∀ q ∈ ps, q.kind ≠ .positional) : shadowed ps args named = false := by
  have hnone : ps.filter (·.kind == .positional) = [] :=
    List.filter_eq_nil_iff.mpr fun q hq => by simpa using h q hq
  simp [shadowed, hnone]

/-- What parameters receive depends on the arguments that have their names alone. -/
theorem receiveAll_congr {named' : Bindings} (h : ∀ q ∈ ps, named.lookup q.name = named'.lookup q.name) (args : List Value) :
    receiveAll named extra ps args = receiveAll named' extra ps args := by
  induction ps generalizing args with
  | nil => cases args <;> rfl
  | cons p ps ih =>
    obtain ⟨hp, hps⟩ := List.forall_mem_cons.mp h
    have htake : p.take named extra args = p.take named' extra args := by
      unfold take byName
      rw [hp]
    simp only [receiveAll, htake, ih hps]

theorem receiveAll_taken {v : Value} {args' : List Value} (h : p.take named extra args = .ok (v, args')) :
    receiveAll named extra (p :: ps) args = (receiveAll named extra ps args').map ((p.name, v) :: ·) := by
  simp only [receiveAll, h]
  change (do return (p.name, v) :: (← receiveAll named extra ps args')) = _
  rw [← map_eq_pure_bind]
  rfl

theorem receiveAll_untaken {f : OperandFault} (h : p.take named extra args = .error f) :
    receiveAll named extra (p :: ps) args = .error f := by
  simp only [receiveAll, h]
  rfl

/-- Positional arguments that named parameters are left with are too many. -/
theorem receiveAll_surplus (h : ∀ q ∈ ps, q.kind = .named ∨ q.kind = .namedRest) (v : Value) (args : List Value) :
    receiveAll named extra ps (v :: args) = .error .wrongType := by
  induction ps with
  | nil => rfl
  | cons p ps ih =>
    obtain ⟨hp, hps⟩ := List.forall_mem_cons.mp h
    rcases hp with hk | hk
    · rcases byName_cases p named with ⟨w, hv⟩ | hv
      · have htake : p.take named extra (v :: args) = .ok (w, v :: args) := by
          simp only [take, hk, hv]
          rfl
        rw [receiveAll_taken htake, ih hps]
        rfl
      · exact receiveAll_untaken (by simp only [take, hk, hv]; rfl)
    · rw [receiveAll_taken (by simp only [take, hk]; rfl), ih hps]
      rfl

theorem take_error {f : OperandFault} (h : p.take named extra args = .error f) : f = .wrongType := by
  have given {x : Attempt Value} {args : List Value} (hx : (∃ v, x = .ok v) ∨ x = .error .wrongType)
      (h : (do return (← x, args) : Attempt (Value × List Value)) = .error f) : f = .wrongType := by
    rcases hx with ⟨v, rfl⟩ | rfl <;> cases h
    rfl
  unfold take at h
  split at h
  · cases h
  · cases h
  · exact given (byName_cases p named) h
  · cases h
  · exact given (missing_cases p) h
  · split at h <;> cases h
    rfl
  · exact given (byName_cases p named) h

theorem receiveAll_error {f : OperandFault} (h : receiveAll named extra ps args = .error f) : f = .wrongType := by
  induction ps generalizing args with
  | nil =>
    cases args with
    | nil => cases h
    | cons v args =>
      cases h
      rfl
  | cons p ps ih =>
    cases htake : p.take named extra args with
    | error g =>
      rw [receiveAll_untaken htake] at h
      cases h
      exact take_error htake
    | ok r =>
      rw [receiveAll_taken htake] at h
      cases hr : receiveAll named extra ps r.2 with
      | error g =>
        rw [hr] at h
        cases h
        exact ih hr
      | ok arguments =>
        rw [hr] at h
        cases h

theorem receive_error {f : OperandFault} (h : receive ps args named = .error f) : f = .wrongType := by
  unfold receive at h
  split at h
  next => exact receiveAll_error h
  next =>
    cases h
    rfl

/-- How binding relates to what a function receives: it also answers the named arguments that nothing collects, and
refuses those with the name of a positional parameter that is left out. -/
def bound (ps : List Parameter) (args : List Value) (named : Bindings) : Attempt (Arguments × Bindings) :=
  if shadowed ps args named then .error .wrongType
  else (receiveAll named (strangers ps named) ps args).map fun arguments =>
    (arguments, if collects ps then [] else strangers ps named)

theorem bound_taken {v : Value} {args' : List Value} {named' : Bindings}
    (htake : p.take named (strangers (p :: ps) named) args = .ok (v, args'))
    (hshadowed : shadowed (p :: ps) args named = shadowed ps args' named')
    (hstrangers : strangers (p :: ps) named = strangers ps named') (hcollects : collects (p :: ps) = collects ps)
    (hnamed : ∀ q ∈ ps, named.lookup q.name = named'.lookup q.name) :
    bound (p :: ps) args named = (bound ps args' named').map fun r => ((p.name, v) :: r.1, r.2) := by
  unfold bound
  rw [hshadowed, receiveAll_taken htake, hstrangers, hcollects, receiveAll_congr hnamed]
  cases shadowed ps args' named' with
  | true => rfl
  | false => cases receiveAll named' (strangers ps named') ps args' <;> rfl

theorem bound_untaken (h : p.take named (strangers (p :: ps) named) args = .error .wrongType) :
    bound (p :: ps) args named = .error .wrongType := by
  unfold bound
  rw [receiveAll_untaken h]
  split <;> rfl

theorem bindAll_step (x : Attempt (Arguments × Bindings)) (n : String) (v : Value) :
    (do
      let (bound, named) ← x
      return ((n, v) :: bound, named) : Attempt (Arguments × Bindings)) = x.map fun r => ((n, v) :: r.1, r.2) := by
  cases x <;> rfl

theorem shadowed_positional (hk : p.kind = .positional) (v : Value) (args : List Value) :
    shadowed (p :: ps) (v :: args) named = shadowed ps args named := by
  simp [shadowed, hk]

theorem shadowed_left_out (hk : p.kind = .positional) :
    shadowed (p :: ps) [] named = ((named.lookup p.name).isSome || shadowed ps [] named) := by
  simp [shadowed, hk]

theorem shadowed_other (hw : WellFormed (p :: ps)) (hk : p.kind ≠ .positional) (args args' : List Value)
    (named' : Bindings) : shadowed (p :: ps) args named = shadowed ps args' named' := by
  rw [shadowed_of_none (hw.none_positional hk), shadowed_of_none]
  exact List.forall_mem_cons.mpr ⟨hk, hw.none_positional hk⟩

theorem collects_other (hk : p.kind ≠ .namedRest) : collects (p :: ps) = collects ps := by
  simp [collects, hk]

/-- A parameter without a positional argument is given by its name, or takes its default. -/
theorem bound_byName (hw : WellFormed (p :: ps)) (hk : p.kind = .normal ∨ p.kind = .named) (named : Bindings) :
    (do
      let v ← p.byName named
      let (bound, named) ← bound ps [] (named.filter (·.1 != p.name))
      return ((p.name, v) :: bound, named) : Attempt (Arguments × Bindings)) = bound (p :: ps) [] named := by
  have hnameable : p.isNameable = true := by rcases hk with hk | hk <;> simp [isNameable, hk]
  have hother : p.kind ≠ .positional ∧ p.kind ≠ .namedRest := by rcases hk with hk | hk <;> simp [hk]
  have htake : p.take named (strangers (p :: ps) named) [] = (p.byName named).map fun v => (v, []) := by
    rcases hk with hk | hk <;> simp only [take, hk] <;> cases p.byName named <;> rfl
  rcases byName_cases p named with ⟨v, hv⟩ | hv
  · rw [hv] at htake ⊢
    rw [bound_taken htake (shadowed_other hw hother.1 _ _ _) (strangers_nameable hnameable) (collects_other hother.2)
      fun q hq => (lookup_filter_ne (hw.head_apart q hq)).symm]
    exact bindAll_step _ p.name v
  · rw [hv] at htake ⊢
    rw [bound_untaken htake]
    rfl

section BindAll

-- What the remaining parameters are bound to, which every kind of parameter goes on with.
variable (ih : ∀ args named, bindAll ps args named = bound ps args named)

include ih

theorem bindAll_positional (hk : p.kind = .positional) (args : List Value) (named : Bindings) :
    bindAll (p :: ps) args named = bound (p :: ps) args named := by
  have hunnameable : p.isNameable = false := by simp [isNameable, hk]
  have hcollects : collects (p :: ps) = collects ps := collects_other (by simp [hk])
  cases args with
  | cons v args =>
    have htake : p.take named (strangers (p :: ps) named) (v :: args) = .ok (v, args) := by simp only [take, hk]
    simp only [bindAll, hk, bindAll_step, ih]
    rw [bound_taken htake (shadowed_positional hk v args) (strangers_unnameable hunnameable) hcollects fun _ _ => rfl]
    rfl
  | nil =>
    simp only [bindAll, hk, bindAll_step, ih]
    cases hl : named.lookup p.name with
    | some w =>
      simp only [bound, shadowed_left_out hk, hl]
      rfl
    | none =>
      have htake : p.take named (strangers (p :: ps) named) [] = p.missing.map fun v => (v, []) := by
        simp only [take, hk]
        cases p.missing <;> rfl
      rcases missing_cases p with ⟨v, hv⟩ | hv
      · rw [hv] at htake ⊢
        have hshadowed : shadowed (p :: ps) [] named = shadowed ps [] named := by simp [shadowed_left_out hk, hl]
        rw [bound_taken htake hshadowed (strangers_unnameable hunnameable) hcollects fun _ _ => rfl,
          filter_ne_of_lookup hl]
        rfl
      · rw [hv] at htake ⊢
        rw [bound_untaken htake]
        rfl

theorem bindAll_normal (hw : WellFormed (p :: ps)) (hk : p.kind = .normal) (args : List Value) (named : Bindings) :
    bindAll (p :: ps) args named = bound (p :: ps) args named := by
  cases args with
  | cons v args =>
    simp only [bindAll, hk, bindAll_step, ih]
    cases hl : named.lookup p.name with
    | some w =>
      rw [bound_untaken (by simp only [take, hk, hl]; rfl)]
      rfl
    | none =>
      have htake : p.take named (strangers (p :: ps) named) (v :: args) = .ok (v, args) := by
        simp only [take, hk, hl]
        rfl
      rw [bound_taken htake (shadowed_other hw (by simp [hk]) _ _ _) (strangers_unnamed hl)
        (collects_other (by simp [hk])) fun _ _ => rfl]
      rfl
  | nil =>
    rw [← bound_byName hw (.inl hk)]
    simp only [bindAll, hk, ih, byName]
    cases named.lookup p.name <;> rfl

theorem bindAll_rest (hw : WellFormed (p :: ps)) (hk : p.kind = .rest) (args : List Value) (named : Bindings) :
    bindAll (p :: ps) args named = bound (p :: ps) args named := by
  have hunnameable : p.isNameable = false := by simp [isNameable, hk]
  have htake : p.take named (strangers (p :: ps) named) args = .ok (.tuple args, []) := by simp only [take, hk]
  simp only [bindAll, hk, bindAll_step, ih]
  rw [bound_taken htake (shadowed_other hw (by simp [hk]) _ _ _) (strangers_unnameable hunnameable)
    (collects_other (by simp [hk])) fun _ _ => rfl]

theorem bindAll_named (hw : WellFormed (p :: ps)) (hk : p.kind = .named) (args : List Value) (named : Bindings) :
    bindAll (p :: ps) args named = bound (p :: ps) args named := by
  cases args with
  | cons v args =>
    have hsurplus : receiveAll named (strangers (p :: ps) named) (p :: ps) (v :: args) = .error .wrongType :=
      receiveAll_surplus (List.forall_mem_cons.mpr ⟨.inl hk, hw.only_named (.inr hk)⟩) v args
    simp only [bindAll, hk, bound, hsurplus]
    split <;> rfl
  | nil =>
    rw [← bound_byName hw (.inr hk)]
    simp only [bindAll, hk, ih, byName]
    cases named.lookup p.name <;> rfl

end BindAll

theorem bindAll_namedRest (hk : p.kind = .namedRest) (args : List Value) (named : Bindings) :
    bindAll [p] args named = bound [p] args named := by
  cases args with
  | cons v args =>
    have hsurplus : receiveAll named (strangers [p] named) [p] (v :: args) = .error .wrongType :=
      receiveAll_surplus (List.forall_mem_cons.mpr ⟨.inr hk, by simp⟩) v args
    simp only [bindAll, hk, bound, hsurplus]
    split <;> rfl
  | nil =>
    have hstrangers : strangers [p] named = named := by
      rw [strangers_unnameable (by simp [isNameable, hk]), strangers_nil]
    have hshadowed : shadowed [p] [] named = false := shadowed_of_none (by simp [hk])
    simp [bindAll, hk, bound, hshadowed, hstrangers, receiveAll, take, collects, Except.map]
    rfl

/-- Binding gives parameters what a function receives and leaves what it does not collect, unless an argument has
the name of a positional parameter that is left out. -/
theorem bindAll_eq (hw : WellFormed ps) (args : List Value) (named : Bindings) :
    bindAll ps args named = bound ps args named := by
  induction ps generalizing args named with
  | nil =>
    cases args with
    | nil => simp [bindAll, bound, shadowed, receiveAll, strangers_nil, collects, Except.map]
    | cons v args => rfl
  | cons p ps ih =>
    have ih := ih hw.tail
    cases hk : p.kind with
    | positional => exact bindAll_positional ih hk args named
    | normal => exact bindAll_normal ih hw hk args named
    | rest => exact bindAll_rest ih hw hk args named
    | named => exact bindAll_named ih hw hk args named
    | namedRest =>
      cases hw.last hk
      exact bindAll_namedRest hk args named

/-- Binding and receiving differ in one case alone. -/
theorem bind_eq (hw : WellFormed ps) (args : List Value) (named : Bindings) :
    Parameter.bind ps args named = if shadowed ps args named then .error .wrongType else receive ps args named := by
  have hleft : (if collects ps then [] else strangers ps named).isEmpty =
      ((strangers ps named).isEmpty || collects ps) := by
    cases collects ps <;> simp
  unfold Parameter.bind receive
  rw [bindAll_eq hw, bound, ← hleft]
  cases shadowed ps args named with
  | true => rfl
  | false =>
    cases hr : receiveAll named (strangers ps named) ps args with
    | ok arguments => rfl
    | error f =>
      cases receiveAll_error hr
      exact (ite_self _).symm

end Parameter

end AccessPolicy
