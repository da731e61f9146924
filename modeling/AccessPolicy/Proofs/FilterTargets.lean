import AccessPolicy.Proofs.SecuredCalls

/-!
What a filter before a call is for when no parameter is named. Declared types decide if they show one container. Only
where they show none do the arguments of a call decide, and a call with several containers is refused.
-/

namespace AccessPolicy

open Protocol (Decision Ends decision_iff)

variable {σ : Type}

/-- The parameters whose declared types are containers. -/
def Binder.containers (b : Binder) : List String :=
  (b.parameters.map (·.name)).filter fun n => (b.callable.types.lookup n).any (·.isContainer)

/-- The arguments of a call that a filter could be for. -/
def Arguments.containers (arguments : Arguments) : List String :=
  (arguments.filter fun e => e.2.isFilterable).map Prod.fst

namespace Attachment

variable {h : Handler σ} {a : Attachment} {rs : List NameResolver} {c : Callable} {slots : Slots} {hasTarget : Bool}
  {b : Binder} {this : Option Value} {who : Option Authentication} {arguments : Arguments} {s t : σ}

theorem length_containers (b : Binder) : b.containers.length ≤ b.parameters.length :=
  Nat.le_trans (List.length_filter_le _ _) (Nat.le_of_eq (List.length_map _))

/-- Among several parameters, only one with the declared type of a container may be there to be filtered. -/
theorem staticTarget_several (hseveral : 2 ≤ b.parameters.length) :
    staticTarget b none = match b.containers with
      | [p] => .ok (some p)
      | [] =>
        if !b.callable.types.isEmpty && (b.parameters.map (·.name)).all fun n => (b.callable.types.lookup n).isSome then
          .error (.filterTargetMissing b.callable.name)
        else .ok none
      | ps => .error (.filterTargetAmbiguous b.callable.name ps) := by
  have hnames : ∀ p, b.parameters.map (·.name) ≠ [p] := by
    intro p hp
    have := congrArg List.length hp
    simp only [List.length_map, List.length_singleton] at this
    omega
  unfold staticTarget
  dsimp only
  split
  next p hp => exact absurd hp (hnames p)
  next => rfl

theorem staticTarget_ambiguous (hseveral : 2 ≤ b.containers.length) :
    staticTarget b none = .error (.filterTargetAmbiguous b.callable.name b.containers) := by
  rw [staticTarget_several (Nat.le_trans hseveral (length_containers b))]
  split
  next hp => simp [hp] at hseveral
  next hp => simp [hp] at hseveral
  next => rfl

theorem staticTarget_ok (hseveral : 2 ≤ b.parameters.length) {target : Option String}
    (h : staticTarget b none = .ok target) :
    (target = none ∧ b.containers = []) ∨ ∃ p, target = some p ∧ b.containers = [p] := by
  rw [staticTarget_several hseveral] at h
  split at h
  next p hp =>
    cases h
    exact .inr ⟨p, rfl, hp⟩
  next hnone =>
    split at h
    next => cases h
    next =>
      cases h
      exact .inl ⟨rfl, hnone⟩
  next => cases h

theorem target_ambiguous (hnone : a.filterTarget = none) (hseveral : 2 ≤ (Arguments.containers arguments).length) :
    a.target arguments =
      .error (.configuration (.filterTargetAmbiguous a.operation (Arguments.containers arguments))) := by
  have hdynamic : a.dynamicTarget arguments =
      .error (.filterTargetAmbiguous a.operation (Arguments.containers arguments)) := by
    unfold dynamicTarget
    change (match Arguments.containers arguments with | [p] => _ | [] => _ | ps => _) = _
    split
    next p hp => simp [hp] at hseveral
    next hp => simp [hp] at hseveral
    next => rfl
  unfold target
  rw [hnone, hdynamic]
  rfl

theorem target_static {p : String} (hp : a.filterTarget = some p) (hnamed : p ≠ "") : a.target arguments = .ok p := by
  unfold target
  rw [hp, Option.filter_some, if_pos (by simpa using hnamed)]

theorem before_untargeted {g : Guard} {f : Failure} (hg : a.preFilter = some g) (ht : a.target arguments = .error f)
    (s : σ) :
    ∃ f' t, (a.before h this who arguments).outcome s = (.error f', t) ∧
      (f' = f ∧ Decision (a.context h this who arguments none) a.preAuthorize s (.ok ()) t ∨
        Decision (a.context h this who arguments none) a.preAuthorize s (.error f') t) := by
  rw [Protocol.before_eq]
  cases hd : (demand (a.context h this who arguments none) a.preAuthorize).outcome s with
  | mk r t =>
    cases r with
    | error f' => exact ⟨f', t, Run.outcome_bind_error hd _, .inr (decision_iff.mpr hd)⟩
    | ok _ =>
      refine ⟨f, t, (Run.outcome_bind_ok hd _).trans ?_, .inl ⟨rfl, decision_iff.mpr hd⟩⟩
      exact Protocol.narrowing_iff.mp (.untargeted hg ht)

theorem before_targeted {g : Guard} {p : String} {v w : Value} {u : σ} (hg : a.preFilter = some g)
    (ht : a.target arguments = .ok p) (hv : arguments.lookup p = some v)
    (hpre : Decision (a.context h this who arguments none) a.preAuthorize s (.ok ()) u)
    (hw : (g.filter (a.context h this who arguments none) v).outcome u = (.ok w, t)) :
    (a.before h this who arguments).outcome s = (.ok (Bindings.assign p w arguments), t) := by
  rw [Protocol.before_eq]
  exact (Run.outcome_bind_ok (decision_iff.mp hpre) _).trans (Protocol.narrowing_iff.mp (.replaced hg ht hv hw))

theorem invoke_bound (body : Arguments → Run σ Value) {args : List Value} {named : Bindings}
    (hb : a.binder.bind args named = .ok arguments) :
    a.invoke h this who body args named = Protocol.rest h a this who body (.start arguments) := by
  simp only [invoke, hb]
  rfl

theorem runs_refused {body : Arguments → Run σ Value} {f : Failure} {r : Except Failure Value} {t' : σ}
    (hbefore : (a.before h this who arguments).outcome s = (.error f, t)) {runs : List Arguments}
    (he : Ends h a this who body arguments s r t' runs) : runs = [] := by
  rcases Protocol.reaches_faithful he with ⟨hruns, _⟩ | ⟨final, u, _, hok⟩
  · exact hruns
  · rw [hbefore] at hok
    cases hok

theorem runs_narrowed {body : Arguments → Run σ Value} {final : Arguments} {r : Except Failure Value} {t' : σ}
    (hbefore : (a.before h this who arguments).outcome s = (.ok final, t)) {runs : List Arguments}
    (he : Ends h a this who body arguments s r t' runs) : runs = [final] := by
  rcases Protocol.reaches_faithful he with ⟨_, f, _, herror⟩ | ⟨final', u, hruns, hok⟩
  · rw [hbefore] at herror
    cases herror
  · rw [hbefore] at hok
    cases hok
    exact hruns

theorem exists_other {ns : List String} (hn : ns.Nodup) (hseveral : 2 ≤ ns.length) (p : String) : ∃ q ∈ ns, q ≠ p := by
  match ns, hseveral with
  | m :: n :: ns, _ =>
    have hmn : m ≠ n := fun hmn => (List.nodup_cons.mp hn).1 (hmn ▸ List.mem_cons_self)
    by_cases hm : m = p
    · exact ⟨n, List.mem_cons_of_mem m List.mem_cons_self, fun hnp => hmn (hm.trans hnp.symm)⟩
    · exact ⟨m, List.mem_cons_self, hm⟩

variable {ds : List Parameter}

/-- A filter without a named target, where at least two arguments of a call are containers. No function is secured that
declares two parameters to be containers. If it declares none, the call ends in an error about its configuration,
unless the guard before it ends it, and its body is not run. If it declares one, the filter is for this parameter, and
where it succeeds the body is run with every other container as it was. -/
theorem filtered_by_type (hfilter : slots.preFilter.isSome = true) (hfree : slots.filterTarget = none)
    (hds : c.declared = some ds) (hw : Parameter.WellFormed ds) :
    (∀ b, Binder.of rs c = .ok b → 2 ≤ b.containers.length →
      staticTarget b none = .error (.filterTargetAmbiguous b.callable.name b.containers) ∧
        ∃ f, of h rs c slots hasTarget = .error f) ∧
    ∀ a, of h rs c slots hasTarget = .ok a →
      ∀ this who (f : List Value → Bindings → Run σ Value) args named arguments s,
        a.binder.bind args named = .ok arguments → 2 ≤ (Arguments.containers arguments).length →
          (a.filterTarget = none ∧ a.binder.containers = [] ∧ ∃ fault t,
            (a.callFunction h this who f args named).outcome s = (.error fault, t) ∧
              (∀ runs, Ends h a this who (Parameter.pass a.binder.parameters f) arguments s (.error fault) t runs →
                runs = []) ∧
              (fault = .configuration (.filterTargetAmbiguous a.operation (Arguments.containers arguments)) ∧
                  Decision (a.context h this who arguments none) a.preAuthorize s (.ok ()) t ∨
                Decision (a.context h this who arguments none) a.preAuthorize s (.error fault) t)) ∨
          ∃ p, a.filterTarget = some p ∧ a.binder.containers = [p] ∧
            (∃ q ∈ Arguments.containers arguments, q ≠ p) ∧
            ∀ g v w u t, a.preFilter = some g → arguments.lookup p = some v →
              Decision (a.context h this who arguments none) a.preAuthorize s (.ok ()) u →
              (g.filter (a.context h this who arguments none) v).outcome u = (.ok w, t) →
                ∃ final, final.lookup p = some w ∧ (∀ q, q ≠ p → final.lookup q = arguments.lookup q) ∧
                  ∃ r t', (a.callFunction h this who f args named).outcome s = (r, t') ∧
                    ∀ runs, Ends h a this who (Parameter.pass a.binder.parameters f) arguments s r t' runs →
                      runs = [final] := by
  refine ⟨fun b hb hseveral => ⟨staticTarget_ambiguous hseveral, ?_⟩, ?_⟩
  · cases ha : of h rs c slots hasTarget with
    | error f => exact ⟨f, rfl⟩
    | ok a =>
      obtain ⟨hbinder, _, hstatic⟩ := of_compiled ha
      cases hb.symm.trans hbinder
      have ht := hstatic (guard?_isSome .preFilter ha hfilter)
      rw [hfree, staticTarget_ambiguous hseveral] at ht
      cases ht
  · intro a ha this who f args named arguments s hb hseveral
    obtain ⟨hbinder, _, hstatic⟩ := of_compiled ha
    have hsome : a.preFilter.isSome = true := guard?_isSome .preFilter ha hfilter
    have hguards : a.hasGuards = true := by simp [hasGuards, hsome]
    have hnames : Bindings.names arguments = a.binder.parameters.map (·.name) := Parameter.bind_names hb
    have hwell := Callable.parameters_wellFormed hds hw (Binder.of_ok hbinder)
    have hparameters : 2 ≤ a.binder.parameters.length := by
      have hlength := congrArg List.length hnames
      simp only [Bindings.names, List.length_map] at hlength
      rw [Arguments.containers, List.length_map] at hseveral
      exact hlength ▸ Nat.le_trans hseveral (List.length_filter_le _ _)
    obtain ⟨g, hg⟩ := Option.isSome_iff_exists.mp hsome
    rw [callFunction_eq_invoke hguards]
    rcases staticTarget_ok hparameters (hfree ▸ hstatic hsome) with ⟨hnone, hcontainers⟩ | ⟨p, hp, hcontainers⟩
    · obtain ⟨fault, t, hbefore, hend⟩ := before_untargeted hg (target_ambiguous hnone hseveral) s
      refine .inl ⟨hnone, hcontainers, fault, t, ?_, fun runs => runs_refused hbefore, hend⟩
      rw [invoke_bound _ hb]
      exact Run.outcome_bind_error hbefore _
    · have hmem : p ∈ a.binder.parameters.map (·.name) :=
        List.mem_of_mem_filter (hcontainers ▸ List.mem_singleton_self p : p ∈ a.binder.containers)
      obtain ⟨q, hq, hname⟩ := List.mem_map.mp hmem
      have hnodup : (Arguments.containers arguments).Nodup :=
        (hnames ▸ hwell.apart : (Bindings.names arguments).Nodup).sublist (List.filter_sublist.map _)
      refine .inr ⟨p, hp, hcontainers, exists_other hnodup hseveral p, fun g v w u t hg hv hpre hw => ?_⟩
      have hbefore := before_targeted hg (target_static hp (hname ▸ hwell.named q hq)) hv hpre hw
      refine ⟨Bindings.assign p w arguments, ?_, fun r hr => ?_, _, _, rfl, fun runs => runs_narrowed hbefore⟩
      · rw [Bindings.lookup_assign, if_pos rfl]
      · rw [Bindings.lookup_assign, if_neg hr]

section Merge

/-- A function of two lists, of which one is declared to be one. -/
def merge : Callable where
  name := "merge"
  declared := some [{ name := "left", type := .is (.named "list[int]" true) }, { name := "right" }]

/-- A filter that lets nothing pass. -/
def withheld : Slots where
  preFilter := some (.plain "denyAll")

def mergeBinder : Binder := ⟨merge, merge.declared.getD [], ["left", "right"].map fun n => (n, n)⟩

theorem merge_wellFormed : Parameter.WellFormed (merge.declared.getD []) := by
  refine ⟨?_, ?_, ?_⟩ <;> decide +kernel

theorem merge_withheld :
    ∃ a g, of refusingHandler NameResolver.standard merge withheld false = .ok a ∧ a.binder = mergeBinder ∧
      a.preFilter = some g ∧ a.filterTarget = some "left" ∧
      (a.preAuthorize = none ∧ a.postFilter = none ∧ a.postAuthorize = none) ∧
      ∀ arguments items, Bindings.names arguments = ["left", "right"] →
        g.filter (a.context refusingHandler none none arguments none) (.list items) = pure (.list []) := by
  obtain ⟨a, ha⟩ := Option.isSome_iff_exists.mp (show
    (of refusingHandler NameResolver.standard merge withheld false).toOption.isSome = true by decide +kernel)
  have ha := except_ok_of_toOption ha
  obtain ⟨hbinder, _, hstatic⟩ := of_compiled ha
  have hb : a.binder = mergeBinder := Except.ok.inj (hbinder.symm.trans rfl)
  have hg : a.preFilter = some _ := guard?_plain .preFilter ha (p := .read "denyAll") rfl (by decide +kernel)
  have ht : a.filterTarget = some "left" := by
    have ht := hstatic (by rw [hg]; rfl)
    rw [hb] at ht
    exact (Except.ok.inj ht).symm
  refine ⟨a, _, ha, hb, hg, ht, ⟨guard?_none .preAuthorize ha rfl, guard?_none .postFilter ha rfl,
    guard?_none .postAuthorize ha rfl⟩, fun arguments items hnames => ?_⟩
  have hidentifies : refusingHandler.Identifies none (a.context refusingHandler none none arguments none) :=
    context_identifies (by rw [hb]; rfl) (by rw [hb]; exact hnames) (by rw [hb]; exact merge_wellFormed.apart)
  rw [← List.map_id' items]
  refine (Guard.filter_list (f := fun _ => false) fun item => .of_means_pure
    (Plain.means_read ((hidentifies.withElement item).values "denyAll" (by decide)))).trans ?_
  rw [List.filter_false]
  rfl

/-- The arguments of a call with two lists. -/
def mergeArguments : Arguments := [("left", .list [.int 1]), ("right", .list [.int 2])]

theorem merge_bound : mergeBinder.bind [.list [.int 1], .list [.int 2]] [] = .ok mergeArguments := rfl

/-- The list that is not declared to be one passes a filter that lets nothing pass. -/
theorem undeclared_list_unfiltered :
    ∃ a, of refusingHandler NameResolver.standard merge withheld false = .ok a ∧
      a.binder.bind [.list [.int 1], .list [.int 2]] [] = .ok mergeArguments ∧
      Arguments.containers mergeArguments = ["left", "right"] ∧
      (a.callFunction refusingHandler none none (merge.function Arguments.echoed) [.list [.int 1], .list [.int 2]]
        []).outcome () = (.ok (.dict [(.text "left", .list []), (.text "right", .list [.int 2])]), ()) := by
  obtain ⟨a, g, ha, hb, hg, ht, ⟨hpre, hscreen, hpost⟩, hfilter⟩ := merge_withheld
  have hbound : a.binder.bind [.list [.int 1], .list [.int 2]] [] = .ok mergeArguments := hb ▸ merge_bound
  refine ⟨a, ha, hbound, rfl, ?_⟩
  have hguards : a.hasGuards = true := by simp [hasGuards, hg]
  have hbefore : (a.before refusingHandler none none mergeArguments).outcome () =
      (.ok [("left", .list []), ("right", .list [.int 2])], ()) :=
    before_targeted hg (target_static ht (by decide)) rfl (hpre ▸ .absent)
      (congrArg (Run.outcome · ()) (hfilter mergeArguments [.int 1] rfl))
  rw [callFunction_eq_invoke hguards, invoke_bound _ hbound]
  refine (Run.outcome_bind_ok hbefore _).trans ?_
  rw [hb]
  refine (Run.outcome_bind_ok rfl _).trans ?_
  unfold after
  rw [hscreen, hpost]
  rfl

/-- Such a call runs the body with that list as it was. -/
theorem merge_filtered_by_type :
    ∃ a, of refusingHandler NameResolver.standard merge withheld false = .ok a ∧ a.binder.containers = ["left"] ∧
      ∃ final : Arguments, final.lookup "left" = some (.list []) ∧ final.lookup "right" = some (.list [.int 2]) ∧
        ∃ r t, (a.callFunction refusingHandler none none (merge.function Arguments.echoed)
            [.list [.int 1], .list [.int 2]] []).outcome () = (r, t) ∧
          ∀ runs, Ends refusingHandler a none none
            (Parameter.pass a.binder.parameters (merge.function Arguments.echoed)) mergeArguments () r t runs →
              runs = [final] := by
  obtain ⟨a, g, ha, hb, hg, ht, ⟨hpre, _, _⟩, hfilter⟩ := merge_withheld
  have hbound : a.binder.bind [.list [.int 1], .list [.int 2]] [] = .ok mergeArguments := hb ▸ merge_bound
  have hcalls := @filtered_by_type Unit refusingHandler NameResolver.standard merge withheld false _ rfl rfl rfl
    merge_wellFormed
  rcases hcalls.2 a ha none none (merge.function Arguments.echoed) _ [] mergeArguments () hbound (by decide) with
    ⟨hnone, _⟩ | ⟨p, hp, hcontainers, _, hrun⟩
  · rw [ht] at hnone
    cases hnone
  · cases ht.symm.trans hp
    obtain ⟨final, hleft, hothers, hcall⟩ := hrun g (.list [.int 1]) (.list []) () () hg rfl (hpre ▸ .absent)
      (congrArg (Run.outcome · ()) (hfilter mergeArguments [.int 1] rfl))
    exact ⟨a, ha, hcontainers, final, hleft, hothers "right" (by decide), hcall⟩

end Merge

end Attachment

end AccessPolicy
