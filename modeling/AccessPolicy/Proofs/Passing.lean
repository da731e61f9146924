import Mathlib.Data.List.Nodup
import AccessPolicy.Proofs.Receiving

/-!
Arguments that are passed on. What a function has received from a call can be taken apart, into arguments by position
and arguments by name, so that a call with these gives it the same again.
-/

namespace AccessPolicy

namespace Parameter

variable {p : Parameter} {ps : List Parameter} {args : List Value} {named extra : Bindings} {n : String}
  {values : Parameter → Value} {arguments : Arguments}

theorem WellFormed.eq_of_name (hw : WellFormed ps) {q : Parameter} (hp : p ∈ ps) (hq : q ∈ ps)
    (hname : p.name = q.name) : p = q :=
  List.inj_on_of_nodup_map hw.apart hp hq hname

/-- What is known of the argument that a parameter has received. -/
structure Given (extra : Bindings) (p : Parameter) (v : Value) : Prop where
  rest : p.kind = .rest → ∃ items, v = .tuple items
  namedRest : p.kind = .namedRest → v = .dict (extra.map fun e => (.text e.1, e.2))

theorem take_given {v : Value} {args' : List Value} (h : p.take named extra args = .ok (v, args')) :
    Given extra p v := by
  refine ⟨fun hk => ?_, fun hk => ?_⟩
  · simp only [take, hk] at h
    cases h
    exact ⟨args, rfl⟩
  · simp only [take, hk] at h
    cases h
    rfl

theorem receiveAll_ok (hw : WellFormed ps) (h : receiveAll named extra ps args = .ok arguments) :
    ∃ values : Parameter → Value,
      arguments = ps.map (fun p => (p.name, values p)) ∧ ∀ p ∈ ps, Given extra p (values p) := by
  induction ps generalizing args arguments with
  | nil =>
    cases args with
    | nil =>
      cases h
      exact ⟨fun _ => .null, rfl, nofun⟩
    | cons v args => cases h
  | cons p ps ih =>
    cases htake : p.take named extra args with
    | error f =>
      rw [receiveAll_untaken htake] at h
      cases h
    | ok r =>
      obtain ⟨v, args'⟩ := r
      rw [receiveAll_taken htake] at h
      cases hr : receiveAll named extra ps args' with
      | error f =>
        rw [hr] at h
        cases h
      | ok others =>
        rw [hr] at h
        cases h
        obtain ⟨values, rfl, hgiven⟩ := ih hw.tail hr
        obtain ⟨all, hself, hothers⟩ : ∃ all : Parameter → Value, all p = v ∧ ∀ q ∈ ps, all q = values q :=
          ⟨fun q => if q.name = p.name then v else values q, if_pos rfl, fun q hq => if_neg (hw.head_apart q hq)⟩
        refine ⟨all, ?_, List.forall_mem_cons.mpr ⟨?_, fun q hq => ?_⟩⟩
        · rw [List.map_cons, hself]
          exact congrArg ((p.name, v) :: ·) (List.map_congr_left fun q hq => by rw [hothers q hq])
        · rw [hself]
          exact take_given htake
        · rw [hothers q hq]
          exact hgiven q hq

theorem lookup_values (hw : WellFormed ps) (hp : p ∈ ps) :
    (ps.map fun p => (p.name, values p)).lookup p.name = some (values p) := by
  refine lookup_of_mem_nodup ?_ (List.mem_map_of_mem hp)
  rw [List.map_map]
  exact hw.apart

theorem passed_eq {α : Type} (hw : WellFormed ps) (part : Parameter → Value → List α) :
    passed ps (ps.map fun p => (p.name, values p)) part = ps.flatMap fun p => part p (values p) := by
  unfold passed
  refine List.flatMap_congr fun p hp => ?_
  rw [lookup_values hw hp]
  rfl

theorem byPosition_named (h : ∀ q ∈ ps, q.kind = .named ∨ q.kind = .namedRest) :
    ps.flatMap (fun q => q.byPosition (values q)) = [] := by
  refine List.flatMap_eq_nil_iff.mpr fun q hq => ?_
  rcases h q hq with hk | hk <;> simp only [byPosition, hk]

/-- Arguments that are passed on by position and by name are received as they were. -/
theorem receiveAll_passed (hw : WellFormed ps) (hgiven : ∀ q ∈ ps, Given extra q (values q))
    (hnormal : ∀ q ∈ ps, q.kind = .normal → named.lookup q.name = none)
    (hnamed : ∀ q ∈ ps, q.kind = .named → named.lookup q.name = some (values q)) :
    receiveAll named extra ps (ps.flatMap fun q => q.byPosition (values q)) =
      .ok (ps.map fun q => (q.name, values q)) := by
  induction ps with
  | nil => rfl
  | cons p ps ih =>
    obtain ⟨hp, hps⟩ := List.forall_mem_cons.mp hgiven
    have ih := ih hw.tail hps (fun q hq => hnormal q (List.mem_cons_of_mem p hq))
      fun q hq => hnamed q (List.mem_cons_of_mem p hq)
    have htake : p.take named extra ((p :: ps).flatMap fun q => q.byPosition (values q)) =
        .ok (values p, ps.flatMap fun q => q.byPosition (values q)) := by
      rw [List.flatMap_cons]
      cases hk : p.kind with
      | positional => simp only [byPosition, take, hk, List.singleton_append]
      | normal =>
        simp only [byPosition, take, hk, List.singleton_append, hnormal p List.mem_cons_self hk]
        rfl
      | rest =>
        obtain ⟨items, hitems⟩ := hp.rest hk
        rw [byPosition_named (hw.only_named (.inl hk)), List.append_nil, hitems]
        simp only [byPosition, take, hk]
        rfl
      | named =>
        simp only [byPosition, take, byName, hk, hnamed p List.mem_cons_self hk, List.nil_append]
        rfl
      | namedRest =>
        simp only [byPosition, take, hk, hp.namedRest hk, List.nil_append]
    rw [receiveAll_taken htake, ih]
    rfl

theorem underName_collected {v : Value} (hv : Given extra p v) (hk : p.kind = .namedRest) : p.underName v = extra := by
  simp only [underName, hk, hv.namedRest hk, List.filterMap_map]
  exact List.filterMap_some

/-- What is passed on by name: the arguments of named parameters, and those that were collected. -/
theorem mem_underName (hgiven : ∀ q ∈ ps, Given extra q (values q)) {e : String × Value}
    (he : e ∈ ps.flatMap fun q => q.underName (values q)) :
    (∃ q ∈ ps, q.kind = .named ∧ e = (q.name, values q)) ∨ e ∈ extra := by
  obtain ⟨q, hq, he⟩ := List.mem_flatMap.mp he
  cases hk : q.kind with
  | named =>
    simp only [underName, hk, List.mem_singleton] at he
    exact .inl ⟨q, hq, hk, he⟩
  | namedRest =>
    rw [underName_collected (hgiven q hq) hk] at he
    exact .inr he
  | _ => simp [underName, hk] at he

theorem flatMap_collected (hw : WellFormed ps) (extra : Bindings) :
    ps.flatMap (fun q => if q.kind == .namedRest then extra else []) = if collects ps then extra else [] := by
  induction ps with
  | nil => rfl
  | cons p ps ih =>
    rw [List.flatMap_cons, ih hw.tail]
    by_cases hk : p.kind = .namedRest
    · cases hw.last hk
      simp [collects, hk]
    · simp [collects, hk]

theorem strangers_passed (hw : WellFormed ps) (hgiven : ∀ q ∈ ps, Given extra q (values q))
    (hextra : strangers ps extra = extra) :
    strangers ps (ps.flatMap fun q => q.underName (values q)) = if collects ps then extra else [] := by
  rw [← flatMap_collected hw extra]
  unfold strangers at hextra ⊢
  rw [List.filter_flatMap]
  refine List.flatMap_congr fun q hq => ?_
  cases hk : q.kind with
  | named =>
    have hnameable : ps.any (fun p => p.isNameable && p.name == q.name) = true :=
      List.any_eq_true.mpr ⟨q, hq, by simp [isNameable, hk]⟩
    simp [underName, hk, hnameable]
  | namedRest =>
    rw [underName_collected (hgiven q hq) hk, hextra]
    rfl
  | _ => simp [underName, hk]

theorem strangers_idem (ps : List Parameter) (named : Bindings) :
    strangers ps (strangers ps named) = strangers ps named := by
  unfold strangers
  rw [List.filter_filter]
  simp only [Bool.and_self]

theorem stranger_apart (hq : p ∈ ps) (hk : p.isNameable = true) {e : String × Value} (he : e ∈ strangers ps named) :
    e.1 ≠ p.name := by
  rintro hname
  have hany := (List.mem_filter.mp he).2
  rw [Bool.not_eq_true', List.any_eq_false] at hany
  exact hany p hq (by simp [hk, hname])

theorem lookup_of_forall {l : Bindings} {v : Value} (hm : (n, v) ∈ l) (h : ∀ e ∈ l, e.1 = n → e.2 = v) :
    l.lookup n = some v := by
  obtain ⟨w, hw⟩ := Bindings.lookup_of_mem (List.mem_map_of_mem hm)
  obtain ⟨before, after, rfl, _⟩ := List.lookup_eq_some_iff.mp hw
  exact hw.trans (congrArg some (h (n, w) (by simp) rfl))

theorem receive_ok (hw : WellFormed ps) (h : receive ps args named = .ok arguments) :
    ((strangers ps named).isEmpty || collects ps) = true ∧ ∃ values : Parameter → Value,
      arguments = ps.map (fun p => (p.name, values p)) ∧ ∀ p ∈ ps, Given (strangers ps named) p (values p) := by
  unfold receive at h
  split at h
  case isFalse => cases h
  case isTrue hcollects => exact ⟨hcollects, receiveAll_ok hw h⟩

theorem strangers_kept (hw : WellFormed ps) (h : receive ps args named = .ok arguments) :
    strangers ps (passed ps arguments underName) = strangers ps named := by
  obtain ⟨hcollects, values, rfl, hgiven⟩ := receive_ok hw h
  rw [passed_eq hw, strangers_passed hw hgiven (strangers_idem ps named)]
  split
  next => rfl
  next hnone =>
    rw [Bool.or_eq_true, or_iff_left hnone] at hcollects
    exact (List.isEmpty_iff.mp hcollects).symm

/-- What a function receives from a call, it receives again when that is passed on to it. -/
theorem receive_passed (hw : WellFormed ps) (h : receive ps args named = .ok arguments) :
    receive ps (passed ps arguments byPosition) (passed ps arguments underName) = .ok arguments := by
  have hstrangers := strangers_kept hw h
  obtain ⟨hcollects, values, rfl, hgiven⟩ := receive_ok hw h
  rw [passed_eq hw] at hstrangers ⊢
  rw [passed_eq hw]
  have hothers {q : Parameter} (hq : q ∈ ps) (hk : q.isNameable = true) {e : String × Value}
      (he : e ∈ ps.flatMap fun q => q.underName (values q)) (hname : e.1 = q.name) :
      q.kind = .named ∧ e.2 = values q := by
    rcases mem_underName hgiven he with ⟨r, hr, hnamed, rfl⟩ | he
    · cases hw.eq_of_name hr hq hname
      exact ⟨hnamed, rfl⟩
    · exact absurd hname (stranger_apart hq hk he)
  unfold receive
  rw [hstrangers, if_pos hcollects]
  refine receiveAll_passed hw hgiven (fun q hq hk => ?_) fun q hq hk => ?_
  · refine Bindings.lookup_eq_none.mpr fun hmem => ?_
    obtain ⟨e, he, hname⟩ := List.mem_map.mp hmem
    have hnamed := (hothers hq (by simp [isNameable, hk]) he hname).1
    rw [hk] at hnamed
    cases hnamed
  · refine lookup_of_forall ?_ fun e he hname => (hothers hq (by simp [isNameable, hk]) he hname).2
    exact List.mem_flatMap.mpr ⟨q, hq, by simp [underName, hk]⟩

/-- An argument under a name that no parameter has is a stranger. -/
theorem lookup_strangers (hn : ∀ p ∈ ps, p.name ≠ n) : (strangers ps named).lookup n = named.lookup n := by
  induction named with
  | nil => rfl
  | cons e named ih =>
    obtain ⟨k, v⟩ := e
    unfold strangers at ih ⊢
    by_cases hk : n = k
    · subst hk
      have hnone : ps.any (fun p => p.isNameable && p.name == n) = false := by
        rw [List.any_eq_false]
        intro p hp
        simp [hn p hp]
      rw [List.filter_cons_of_pos (by simp [hnone]), Bindings.lookup_cons, Bindings.lookup_cons, if_pos rfl, if_pos rfl]
    · rw [Bindings.lookup_cons, if_neg hk, ← ih, List.filter_cons]
      split
      next => rw [Bindings.lookup_cons, if_neg hk]
      next => rfl

theorem lookup_passed (hw : WellFormed ps) (h : receive ps args named = .ok arguments) (hn : ∀ p ∈ ps, p.name ≠ n) :
    (passed ps arguments underName).lookup n = named.lookup n := by
  rw [← lookup_strangers hn, strangers_kept hw h, lookup_strangers hn]

end Parameter

namespace Callable

variable {c : Callable} {p : Parameter} {ds ps : List Parameter} {args : List Value} {named : Bindings}
  {arguments : Arguments}

theorem withoutReceiver?_wellFormed (hw : Parameter.WellFormed ds) (h : withoutReceiver? ds = some ps) :
    Parameter.WellFormed ps := by
  cases ds with
  | nil => cases h
  | cons p ds =>
    simp only [withoutReceiver?] at h
    split at h
    next =>
      cases h
      exact hw.tail
    next =>
      split at h
      next =>
        cases h
        exact hw
      next => cases h

theorem parameters_wellFormed (hds : c.declared = some ds) (hw : Parameter.WellFormed ds)
    (hps : c.parameters = some ps) : Parameter.WellFormed ps := by
  unfold parameters at hps
  rw [hds] at hps
  split at hps
  next => exact withoutReceiver?_wellFormed hw hps
  next =>
    cases hps
    exact hw

theorem receive_error {f : OperandFault} (h : c.receive args named = .error f) : f = .wrongType := by
  unfold receive at h
  split at h
  next =>
    cases h
    rfl
  next => exact Parameter.receive_error h

theorem function_received {σ α : Type} (body : Arguments → Run σ α) (h : c.receive args named = .ok arguments) :
    c.function body args named = body arguments := by
  unfold function
  rw [h]
  rfl

theorem function_refused {σ α : Type} (body : Arguments → Run σ α) {f : OperandFault}
    (h : c.receive args named = .error f) : c.function body args named = throw (.operand .wrongType) := by
  cases receive_error h
  unfold function
  rw [h]
  rfl

/-- A callable that is bound receives what its function receives when it is called with the receiver first. -/
theorem receive_bound (hbound : c.bound = true) (hds : c.declared = some (p :: ps)) (hp : p.isPositional = true)
    (this : Value) (args : List Value) (named : Bindings) :
    Parameter.receive (p :: ps) (this :: args) named = (c.receive args named).map ((p.name, this) :: ·) := by
  have hps : c.parameters = some ps := by simp [parameters, hbound, hds, withoutReceiver?, hp]
  have hcollects : Parameter.collects (p :: ps) = Parameter.collects ps :=
    Parameter.collects_other fun hk => by simp [Parameter.isPositional, hk] at hp
  have hnamed : c.receiverNamed named = (p.kind == .normal && (named.lookup p.name).isSome) := by
    simp [receiverNamed, hbound, hds]
  unfold receive Parameter.receive
  rw [hnamed, hps, Option.getD_some, hcollects]
  cases hr : p.kind == .normal && (named.lookup p.name).isSome with
  | true =>
    obtain ⟨hk, hl⟩ := Bool.and_eq_true_iff.mp hr
    have htake : p.take named (Parameter.strangers (p :: ps) named) (this :: args) = .error .wrongType := by
      simp only [Parameter.take, beq_iff_eq.mp hk, hl]
      rfl
    rw [Parameter.receiveAll_untaken htake, ite_self]
    rfl
  | false =>
    have htake : p.take named (Parameter.strangers (p :: ps) named) (this :: args) = .ok (this, args) := by
      rcases Bool.or_eq_true_iff.mp hp with hk | hk
      · simp only [Parameter.take, beq_iff_eq.mp hk]
      · rw [hk, Bool.true_and] at hr
        simp only [Parameter.take, beq_iff_eq.mp hk, hr]
        rfl
    have hstrangers : Parameter.strangers (p :: ps) named = Parameter.strangers ps named := by
      rcases Bool.or_eq_true_iff.mp hp with hk | hk
      · exact Parameter.strangers_unnameable (by simp [Parameter.isNameable, beq_iff_eq.mp hk])
      · rw [hk, Bool.true_and] at hr
        exact Parameter.strangers_unnamed (by simpa using hr)
    rw [Parameter.receiveAll_taken htake, hstrangers]
    split <;> rfl

/-- A receiver is named in what is passed on just if it was in the call. -/
theorem receiverNamed_passed (hds : c.declared = some ds) (hw : Parameter.WellFormed ds)
    (hps : c.parameters = some ps) (h : Parameter.receive ps args named = .ok arguments) :
    c.receiverNamed (Parameter.passed ps arguments Parameter.underName) = c.receiverNamed named := by
  unfold receiverNamed
  rw [hds, Option.getD_some]
  cases hbound : c.bound with
  | false => rfl
  | true =>
    cases ds with
    | nil => rfl
    | cons p ds =>
      by_cases hk : p.kind = .normal
      · have hrest : c.parameters = some ds := by simp [parameters, hbound, hds, withoutReceiver?, Parameter.isPositional, hk]
        cases hps.symm.trans hrest
        simp only [List.head?_cons, Option.any_some, Parameter.lookup_passed hw.tail h hw.head_apart]
      · simp only [List.head?_cons, Option.any_some, beq_false_of_ne hk, Bool.false_and]

/-- What a callable receives is what is passed on to it, and it runs with that. -/
theorem function_passed {σ α : Type} (body : Arguments → Run σ α) (hds : c.declared = some ds)
    (hw : Parameter.WellFormed ds) (hps : c.parameters = some ps) (h : Parameter.receive ps args named = .ok arguments) :
    Parameter.pass ps (c.function body) arguments =
      if c.receiverNamed named then throw (.operand .wrongType) else body arguments := by
  have hreceived := Parameter.receive_passed (parameters_wellFormed hds hw hps) h
  unfold Parameter.pass function receive
  rw [receiverNamed_passed hds hw hps h, hps, Option.getD_some, hreceived]
  cases c.receiverNamed named <;> rfl

end Callable

/-- What a body comes to that answers the arguments it has received. -/
def Arguments.echoed {σ : Type} (arguments : Arguments) : Run σ Value :=
  pure (.dict (arguments.map fun (n, v) => (.text n, v)))

end AccessPolicy
