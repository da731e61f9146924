import AccessPolicy.Proofs.GuardDecisions
import AccessPolicy.Proofs.Passing
import AccessPolicy.Proofs.Protected

/-!
Calls of secured functions against direct ones. Where guards let a call pass, its body receives what it would receive
from a direct call, and a call with the wrong arguments is refused before any guard is asked. The exceptions are
arguments by the name of a parameter that takes its argument by position alone.
-/

namespace AccessPolicy

open Protocol (Decision decision_iff)

variable {σ : Type}

/-- Whether a call gives an argument by the name of a parameter that does not take it by name: that of the receiver,
or a positional one that is left out. -/
def Callable.misnamed (c : Callable) (args : List Value) (named : Bindings) : Bool :=
  c.receiverNamed named || Parameter.shadowed (c.parameters.getD []) args named

theorem Callable.named_rightly {c : Callable} {args : List Value} {named : Bindings}
    (h : c.misnamed args named = false) :
    c.receiverNamed named = false ∧ Parameter.shadowed (c.parameters.getD []) args named = false :=
  Bool.or_eq_false_iff.mp h

theorem Callable.receive_unnamed {c : Callable} {args : List Value} {named : Bindings}
    (h : c.receiverNamed named = false) : c.receive args named = Parameter.receive (c.parameters.getD []) args named := by
  unfold receive
  rw [h, if_neg Bool.false_ne_true]

namespace Attachment

variable {h : Handler σ} {a : Attachment} {rs : List NameResolver} {c : Callable} {slots : Slots} {hasTarget : Bool}
  {ds : List Parameter} {this : Option Value} {who : Option Authentication} {args : List Value} {named : Bindings}
  {arguments : Arguments}

theorem invoke_unfiltered (hfilter : a.preFilter = none ∧ a.postFilter = none) (body : Arguments → Run σ Value) :
    a.invoke h this who body args named = (do
      let arguments ← Run.attempt (a.binder.bind args named)
      demand (a.context h this who arguments none) a.preAuthorize
      let v ← body arguments
      demand (a.context h this who arguments (some v)) a.postAuthorize
      return v) := by
  simp only [invoke, before, narrow, after, screen, hfilter, bind_assoc, pure_bind]

theorem bind_received (ha : of h rs c slots hasTarget = .ok a) (hds : c.declared = some ds)
    (hw : Parameter.WellFormed ds) (args : List Value) (named : Bindings) :
    a.binder.bind args named =
      if Parameter.shadowed (c.parameters.getD []) args named then .error .wrongType
      else Parameter.receive (c.parameters.getD []) args named := by
  have hps := Binder.of_ok (of_compiled ha).1
  rw [hps]
  exact Parameter.bind_eq (Callable.parameters_wellFormed hds hw hps) args named

/-- What guards see of a call is about its caller, where every parameter has its own name. -/
theorem context_identifies (hb : a.binder.names = a.binder.parameters.map fun p => (p.name, p.name))
    (hnames : Bindings.names arguments = a.binder.parameters.map (·.name))
    (hn : (a.binder.parameters.map (·.name)).Nodup) {returned : Option Value} :
    h.Identifies who (a.context h this who arguments returned) := by
  rw [← hnames] at hn
  unfold context
  rw [Binder.bindings_eq hb hnames hn]
  exact Handler.methodContext_identifies hn

theorem callFunction_eq_invoke (hguards : a.hasGuards = true) (f : List Value → Bindings → Run σ Value)
    (args : List Value) (named : Bindings) :
    a.callFunction h this who f args named = a.invoke h this who (Parameter.pass a.binder.parameters f) args named :=
  if_pos hguards

/-- With guards but without filters, a call binds its arguments, asks the guard before it, runs the body with what was
bound and asks the guard after it. -/
theorem callFunction_guarded (ha : of h rs c slots hasTarget = .ok a) (hds : c.declared = some ds)
    (hw : Parameter.WellFormed ds) (hfilter : a.preFilter = none ∧ a.postFilter = none) (hguards : a.hasGuards = true)
    (hshadowed : Parameter.shadowed (c.parameters.getD []) args named = false) (body : Arguments → Run σ Value) :
    a.callFunction h this who (c.function body) args named = (do
      let arguments ← Run.attempt (Parameter.receive (c.parameters.getD []) args named)
      demand (a.context h this who arguments none) a.preAuthorize
      let v ← if c.receiverNamed named then throw (.operand .wrongType) else body arguments
      demand (a.context h this who arguments (some v)) a.postAuthorize
      return v) := by
  have hps := Binder.of_ok (of_compiled ha).1
  rw [callFunction_eq_invoke hguards, invoke_unfiltered hfilter, bind_received ha hds hw, hshadowed,
    if_neg Bool.false_ne_true, hps, Option.getD_some]
  cases hr : Parameter.receive a.binder.parameters args named with
  | error f => rfl
  | ok arguments =>
    simp only [Run.attempt_ok, pure_bind, Callable.function_passed body hds hw hps hr]
    cases c.receiverNamed named <;> rfl

theorem callFunction_unguarded (hguards : a.hasGuards = false) (f : List Value → Bindings → Run σ Value) :
    a.callFunction h this who f args named = f args named := by
  unfold callFunction
  rw [hguards, if_neg Bool.false_ne_true]

theorem unguarded (hguards : a.hasGuards = false) : a.preAuthorize = none ∧ a.postAuthorize = none := by
  simp only [hasGuards, Bool.or_eq_false_iff, Option.isSome_eq_false_iff, Option.isNone_iff_eq_none] at hguards
  exact ⟨hguards.1.1.1, hguards.1.2⟩

theorem callAwaited_eq (pending : Arguments → Run σ (Run σ Value)) (args : List Value) (named : Bindings) :
    a.callAwaited h this who (c.function pending) args named =
      a.callFunction h this who (c.function fun arguments => do (← pending arguments)) args named := by
  unfold callAwaited callFunction
  split
  next =>
    simp only [invokeAwaited, invoke, Parameter.pass, Callable.function, bind_assoc]
  next => simp only [Callable.function, bind_assoc]

/-- A secured function is called as it is called directly, where guards let the call pass and nothing is filtered. If it
cannot take the arguments, it refuses them before any guard is asked; otherwise its body runs once the guard before
the call allows it, with the very arguments of a direct call, and the caller gets what it returns once the guard after
the call allows that. This does not hold of calls that give an argument by the name of a parameter that does not take
it by name. If this is a positional parameter that is left out, such a call is refused even where the function would
collect the argument; if it is the receiver's, it may be refused only after the first guard has been asked. -/
theorem called_as_directly (ha : of h rs c slots hasTarget = .ok a) (hds : c.declared = some ds)
    (hw : Parameter.WellFormed ds) (hfilter : a.preFilter = none ∧ a.postFilter = none) (this : Option Value)
    (who : Option Authentication) (body : Arguments → Run σ Value) (args : List Value) (named : Bindings) :
    (c.misnamed args named = false ∨ a.hasGuards = false →
      (∀ f, c.receive args named = .error f →
        c.function body args named = throw (.operand .wrongType) ∧
          a.callFunction h this who (c.function body) args named = throw (.operand .wrongType)) ∧
      ∀ arguments, c.receive args named = .ok arguments →
        c.function body args named = body arguments ∧
          ∀ s u, Decision (a.context h this who arguments none) a.preAuthorize s (.ok ()) u →
            (∀ f t, (body arguments).outcome u = (.error f, t) →
              (a.callFunction h this who (c.function body) args named).outcome s = (.error f, t)) ∧
            ∀ v t w, (body arguments).outcome u = (.ok v, t) →
              Decision (a.context h this who arguments (some v)) a.postAuthorize t (.ok ()) w →
              (a.callFunction h this who (c.function body) args named).outcome s = (.ok v, w)) ∧
    (a.hasGuards = true → Parameter.shadowed (c.parameters.getD []) args named = true →
      a.callFunction h this who (c.function body) args named = throw (.operand .wrongType)) ∧
    (a.hasGuards = true → c.receiverNamed named = true →
      c.function body args named = throw (.operand .wrongType) ∧
        ∀ arguments, a.binder.bind args named = .ok arguments →
          ∀ s u, Decision (a.context h this who arguments none) a.preAuthorize s (.ok ()) u →
            (a.callFunction h this who (c.function body) args named).outcome s = (.error (.operand .wrongType), u)) ∧
    ∀ pending : Arguments → Run σ (Run σ Value), a.callAwaited h this who (c.function pending) args named =
      a.callFunction h this who (c.function fun arguments => do (← pending arguments)) args named := by
  refine ⟨fun hplain => ⟨fun f hf => ?_, fun arguments hok => ?_⟩, fun hguards hshadowed => ?_, fun hguards hnamed => ?_,
    fun pending => callAwaited_eq pending args named⟩
  · refine ⟨Callable.function_refused body hf, ?_⟩
    cases hguards : a.hasGuards with
    | false => exact (callFunction_unguarded hguards _).trans (Callable.function_refused body hf)
    | true =>
      obtain ⟨hnamed, hshadowed⟩ := Callable.named_rightly (hplain.resolve_right (by simp [hguards]))
      cases Callable.receive_error hf
      rw [callFunction_guarded ha hds hw hfilter hguards hshadowed, ← Callable.receive_unnamed hnamed, hf]
      rfl
  · refine ⟨Callable.function_received body hok, fun s u hpre => ?_⟩
    cases hguards : a.hasGuards with
    | false =>
      obtain ⟨hnopre, hnopost⟩ := unguarded hguards
      rw [callFunction_unguarded hguards, Callable.function_received body hok]
      rw [hnopre] at hpre
      cases hpre
      refine ⟨fun f t hb => hb, fun v t w hb hpost => ?_⟩
      rw [hnopost] at hpost
      cases hpost
      exact hb
    | true =>
      obtain ⟨hnamed, hshadowed⟩ := Callable.named_rightly (hplain.resolve_right (by simp [hguards]))
      rw [callFunction_guarded ha hds hw hfilter hguards hshadowed, ← Callable.receive_unnamed hnamed, hok, hnamed,
        Run.attempt_ok, pure_bind, Run.outcome_bind_ok (decision_iff.mp hpre)]
      refine ⟨fun f t hb => Run.outcome_bind_error hb _, fun v t w hb hpost => ?_⟩
      exact (Run.outcome_bind_ok hb _).trans (Run.outcome_bind_ok (decision_iff.mp hpost) _)
  · rw [callFunction_eq_invoke hguards, invoke_unfiltered hfilter, bind_received ha hds hw, if_pos hshadowed]
    rfl
  · have hrefused : c.receive args named = .error .wrongType := if_pos hnamed
    refine ⟨Callable.function_refused body hrefused, fun arguments hb s u hpre => ?_⟩
    rw [bind_received ha hds hw] at hb
    split at hb
    next => cases hb
    next hshadowed =>
      rw [callFunction_guarded ha hds hw hfilter hguards (Bool.not_eq_true _ ▸ hshadowed), hb, hnamed, Run.attempt_ok,
        pure_bind, Run.outcome_bind_ok (decision_iff.mp hpre)]
      rfl

section Search

/-- A function with a parameter that is given by position alone, and with two that collect arguments. -/
def search : Callable where
  name := "search"
  declared := some [{ name := "page", kind := .positional, default := some (.int 1) }, { name := "words", kind := .rest },
    { name := "limit", kind := .named, default := some (.int 10) }, { name := "filters", kind := .namedRest }]

def permitted : Slots where
  preAuthorize := some (.plain "permitAll")

def searchBinder : Binder :=
  ⟨search, search.declared.getD [], ["page", "words", "limit", "filters"].map fun n => (n, n)⟩

theorem search_binder : Binder.of NameResolver.standard search = .ok searchBinder := rfl

theorem search_wellFormed : Parameter.WellFormed (search.declared.getD []) := by
  refine ⟨?_, ?_, ?_⟩ <;> decide +kernel

theorem search_permitted :
    ∃ a, of refusingHandler NameResolver.standard search permitted false = .ok a ∧ a.hasGuards = true ∧
      (a.preFilter = none ∧ a.postFilter = none) ∧ a.postAuthorize = none ∧
      ∀ arguments, Bindings.names arguments = searchBinder.parameters.map (·.name) →
        ∀ s, Decision (a.context refusingHandler none none arguments none) a.preAuthorize s (.ok ()) s := by
  obtain ⟨a, ha⟩ := Option.isSome_iff_exists.mp (show
    (of refusingHandler NameResolver.standard search permitted false).toOption.isSome = true by decide +kernel)
  have ha := except_ok_of_toOption ha
  refine ⟨a, ha, hasGuards_of_secured ha rfl, ⟨guard?_none .preFilter ha rfl, guard?_none .postFilter ha rfl⟩,
    guard?_none .postAuthorize ha rfl, fun arguments hnames s => ?_⟩
  have hb : a.binder = searchBinder := Except.ok.inj ((of_compiled ha).1.symm.trans search_binder)
  have hpre : a.preAuthorize = some _ := guard?_plain .preAuthorize ha (p := .read "permitAll") rfl (by decide +kernel)
  have hidentifies : refusingHandler.Identifies none (a.context refusingHandler none none arguments none) :=
    context_identifies (by rw [hb]; rfl) (by rw [hb, hnames]) (by rw [hb]; exact search_wellFormed.apart)
  rw [hpre]
  refine .allowed ?_
  rw [Guard.evaluate_eq (Plain.means_read (hidentifies.values "permitAll" (by decide))) (.pure _)]
  rfl

/-- An argument by the name of the first parameter is collected when that has one by position. -/
theorem search_called_as_directly :
    ∃ a, of refusingHandler NameResolver.standard search permitted false = .ok a ∧
      search.receive [.int 2, .text "red"] [("page", .text "old")] =
        .ok [("page", .int 2), ("words", .tuple [.text "red"]), ("limit", .int 10),
          ("filters", .dict [(.text "page", .text "old")])] ∧
      (a.callFunction refusingHandler none none (search.function Arguments.echoed) [.int 2, .text "red"]
        [("page", .text "old")]).outcome () =
          (.ok (.dict [(.text "page", .int 2), (.text "words", .tuple [.text "red"]), (.text "limit", .int 10),
            (.text "filters", .dict [(.text "page", .text "old")])]), ()) := by
  obtain ⟨a, ha, _, hfilter, hpost, hpre⟩ := search_permitted
  have hreceived : search.receive [.int 2, .text "red"] [("page", .text "old")] =
      .ok [("page", .int 2), ("words", .tuple [.text "red"]), ("limit", .int 10),
        ("filters", .dict [(.text "page", .text "old")])] := rfl
  obtain ⟨hplain, _⟩ := called_as_directly ha rfl search_wellFormed hfilter none none Arguments.echoed [.int 2, .text "red"]
    [("page", .text "old")]
  obtain ⟨_, hcall⟩ := (hplain (.inl rfl)).2 _ hreceived
  refine ⟨a, ha, hreceived, (hcall () () (hpre _ rfl ())).2 _ () () rfl ?_⟩
  rw [hpost]
  exact .absent

/-- The function collects an argument by the name of the parameter that it is called without, and is refused where it
is secured. -/
theorem left_out_refused :
    ∃ a, of refusingHandler NameResolver.standard search permitted false = .ok a ∧
      (∀ arguments, search.receive [] [("page", .int 5)] = .ok arguments →
        Decision (a.context refusingHandler none none arguments none) a.preAuthorize () (.ok ()) ()) ∧
      (search.function Arguments.echoed [] [("page", .int 5)]).outcome () =
        (.ok (.dict [(.text "page", .int 1), (.text "words", .tuple []), (.text "limit", .int 10),
          (.text "filters", .dict [(.text "page", .int 5)])]), ()) ∧
      (a.callFunction refusingHandler none none (search.function Arguments.echoed) [] [("page", .int 5)]).outcome () =
        (.error (.operand .wrongType), ()) := by
  obtain ⟨a, ha, hguards, hfilter, _, hpre⟩ := search_permitted
  refine ⟨a, ha, fun arguments hreceived => hpre arguments ?_ (), rfl, ?_⟩
  · cases hreceived
    rfl
  · rw [callFunction_eq_invoke hguards, invoke_unfiltered hfilter, bind_received ha rfl search_wellFormed]
    rfl

end Search

end Attachment

end AccessPolicy
