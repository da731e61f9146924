import AccessPolicy.Handler
import AccessPolicy.Proofs.Demands
import AccessPolicy.Proofs.Outcome

/-!
The names that a handler lets guards use, and the contexts that it makes. A name is checked against a list
before a guard is used, and looked up among variables and functions when it is evaluated; every name on the
list has a value then.
-/

namespace AccessPolicy

variable {σ : Type}

def Context.Resolves (ctx : Context σ) (n : String) : Prop := ∃ v, ctx.value? n = some v

namespace Context

theorem resolves_iff {ctx : Context σ} {n : String} :
    ctx.Resolves n ↔ n ∈ Bindings.names ctx.bindings ∨ (ctx.function? n).isSome := by
  unfold Resolves value?
  cases hl : ctx.bindings.lookup n with
  | some v =>
    constructor
    · intro _
      exact .inl (Bindings.mem_of_lookup hl)
    · intro _
      exact ⟨v, rfl⟩
  | none =>
    have hn := Bindings.lookup_eq_none.mp hl
    cases hf : ctx.function? n with
    | some f => simp
    | none => simp [hn]

theorem resolves_of_predicate {ctx : Context σ} {p : Predicate} (h : p ∈ ctx.predicates) :
    ctx.Resolves p.name := by
  refine resolves_iff.mpr (.inr ?_)
  unfold function?
  cases hf : ctx.predicates.find? fun q => q.name == p.name with
  | some q => rfl
  | none =>
    have hp := List.find?_eq_none.mp hf p h
    simp at hp

theorem resolves_withVariables {ctx : Context σ} {extra : Bindings} {n : String}
    (h : ctx.Resolves n ∨ n ∈ Bindings.names extra) : (ctx.withVariables extra).Resolves n := by
  refine resolves_iff.mpr ?_
  rcases h with h | h
  · rcases resolves_iff.mp h with h | h
    · exact .inl (Bindings.mem_names_updated.mpr (.inl h))
    · exact .inr h
  · exact .inl (Bindings.mem_names_updated.mpr (.inr h))

end Context

namespace Handler

variable {h : Handler σ}

/-- A guard that passes the check uses known names, and asks for permissions only if there is an evaluator. -/
theorem validate_ok {g : Guard} {extra : List String} {web : Bool} (hv : h.validate g extra web = .ok ()) :
    (∀ n ∈ g.names, n ∈ h.knownNames extra web) ∧ ("hasPermission" ∈ g.names → h.evaluator ≠ none) := by
  unfold validate at hv
  dsimp only at hv
  split at hv
  next => cases hv
  next hknown =>
    split at hv
    next => cases hv
    next hpermission =>
      constructor
      · intro n hn
        apply Decidable.byContradiction
        intro hnot
        apply hknown
        have hmem : n ∈ g.names.filter fun n => !(h.knownNames extra web).contains n :=
          List.mem_filter.mpr ⟨hn, by simpa using hnot⟩
        rw [Bool.not_eq_true', List.isEmpty_eq_false_iff]
        exact List.ne_nil_of_mem hmem
      · intro hn hnone
        apply hpermission
        simp [hn, hnone]

theorem mem_knownNames_append {extra more : List String} {web : Bool} {n : String} :
    n ∈ h.knownNames (extra ++ more) web ↔ n ∈ h.knownNames extra web ∨ n ∈ more := by
  simp only [knownNames, List.mem_append]
  rw [← or_assoc, or_right_comm]

theorem contextOver_resolves (who : Option Authentication) {predicates : List Predicate} (request : Value)
    {bindings : Bindings} {n : String}
    (hn : n ∈ predicates.map Predicate.name ∨ n ∈ h.beans.names ∨ n ∈ Bindings.names bindings) :
    (h.contextOver who predicates request bindings).Resolves n := by
  rcases hn with hn | hn
  · obtain ⟨p, hp, rfl⟩ := List.mem_map.mp hn
    exact Context.resolves_of_predicate hp
  · exact Context.resolves_iff.mpr (.inl (Bindings.mem_names_updated.mpr hn))

/-- The names that a guard for requests may use have values in the context of a request. -/
theorem webContext_resolves (who : Option Authentication) (request : Value) {pathVariables : Bindings}
    {n : String} (hn : n ∈ h.knownNames (Bindings.names pathVariables) true) :
    (h.webContext who request pathVariables).Resolves n := by
  refine contextOver_resolves who request ?_
  simp only [knownNames, List.mem_append, ↓reduceIte, List.map_append, List.map_cons, List.map_nil,
    Bindings.mem_names_updated, List.mem_cons, List.not_mem_nil, or_false] at hn ⊢
  rcases hn with (((hn | hn) | hn) | hn) | hn
  · exact .inl (.inl hn)
  · exact .inr (.inr (.inl (.inr hn)))
  · exact .inr (.inl hn)
  · exact .inr (.inr (.inl (.inl hn)))
  · rcases hn with rfl | rfl
    · exact .inr (.inr (.inr (List.mem_singleton_self _)))
    · exact .inl (.inr rfl)

/-- The names that a guard of a call may use have values in the context of the call: those of arguments, of
the object that the call is made on if there is one, and of what it returned once it has. -/
theorem methodContext_resolves (who : Option Authentication) {arguments : Bindings}
    {this returned : Option Value} {extra : List String} {n : String}
    (hextra : ∀ m ∈ extra, m ∈ Bindings.names arguments ∨
      (m = "this" ∧ ∃ v, this = some v ∧ v ≠ .null) ∨ (m = "returnValue" ∧ ∃ v, returned = some v))
    (hn : n ∈ h.knownNames extra false) : (h.methodContext who arguments this returned).Resolves n := by
  refine contextOver_resolves who .null ?_
  simp only [knownNames, List.mem_append, Bool.false_eq_true, ↓reduceIte, List.not_mem_nil, or_false]
    at hn
  rcases hn with ((hn | hn) | hn) | hn
  · exact .inl hn
  · refine .inr (.inr ?_)
    simp only [Bindings.mem_names_updated]
    exact .inl (.inl (.inr hn))
  · exact .inr (.inl hn)
  · refine .inr (.inr ?_)
    simp only [Bindings.mem_names_updated]
    rcases hextra n hn with hn | ⟨rfl, v, rfl, hv⟩ | ⟨rfl, v, rfl⟩
    · exact .inl (.inl (.inl hn))
    · refine .inl (.inr ?_)
      split
      next heq => exact absurd (Option.some.inj heq) hv
      next heq => cases heq
      next => exact List.mem_singleton_self _
    · exact .inr (List.mem_singleton_self _)

end Handler

end AccessPolicy
