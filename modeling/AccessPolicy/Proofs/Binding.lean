import AccessPolicy.Callable.Binder
import AccessPolicy.Proofs.Bindings
import AccessPolicy.Proofs.Outcome

/-!
What a call that binds gives to expressions: a value for every parameter, and with that a value for every
name that the binder found for a parameter.
-/

namespace AccessPolicy

namespace Parameter

theorem names_of_step {x : Attempt (Arguments × Bindings)} {n : String} {names : List String}
    {bound left : Bindings} (value : Bindings → Value) (rest : Bindings → Bindings)
    (hx : ∀ p, x = .ok p → p.1.names = names)
    (h : (do
      let p ← x
      return ((n, value p.2) :: p.1, rest p.2) : Attempt (Arguments × Bindings)) = .ok (bound, left)) :
    bound.names = n :: names := by
  obtain ⟨p, hp, h⟩ := except_bind_ok h
  cases h
  exact congrArg (n :: ·) (hx p hp)

theorem names_of_valued_step {x : Attempt (Arguments × Bindings)} {y : Attempt Value} {n : String}
    {names : List String} {bound left : Bindings} (hx : ∀ p, x = .ok p → p.1.names = names)
    (h : (do
      let v ← y
      let p ← x
      return ((n, v) :: p.1, p.2) : Attempt (Arguments × Bindings)) = .ok (bound, left)) :
    bound.names = n :: names := by
  obtain ⟨v, _, h⟩ := except_bind_ok h
  exact names_of_step (fun _ => v) id hx h

theorem bindAll_names {ps : List Parameter} {args : List Value} {named bound left : Bindings}
    (h : bindAll ps args named = .ok (bound, left)) : bound.names = ps.map (·.name) := by
  induction ps generalizing args named bound left with
  | nil =>
    cases args with
    | nil => cases h; rfl
    | cons v args => cases h
  | cons p ps ih =>
    have hrest (args : List Value) (named : Bindings) :
        ∀ q, bindAll ps args named = .ok q → q.1.names = ps.map (·.name) := fun _ hq => ih hq
    simp only [bindAll] at h
    split at h
    next => exact names_of_step (fun _ => _) id (hrest _ _) h
    next => exact names_of_step (fun left => .dict (left.map fun e => (.text e.1, e.2))) (fun _ => []) (hrest _ _) h
    next => split at h <;> exact names_of_valued_step (hrest _ _) h
    next => cases h
    next => cases h
    next =>
      split at h
      next => cases h
      next => exact names_of_step (fun _ => _) id (hrest _ _) h
    next =>
      split at h
      next => split at h <;> exact names_of_valued_step (hrest _ _) h
      next => exact names_of_valued_step (hrest _ _) h

theorem bind_names {ps : List Parameter} {args : List Value} {named : Bindings} {arguments : Arguments}
    (h : bind ps args named = .ok arguments) : arguments.names = ps.map (·.name) := by
  obtain ⟨⟨bound, left⟩, hb, h⟩ := except_bind_ok h
  dsimp only at h
  split at h
  next => cases h; exact bindAll_names hb
  next => cases h

end Parameter

namespace Binder

theorem pair_parameters {c : Callable} {names more : List (String × String)}
    {found : List (Parameter × Option String)} (h : pair c names found = .ok more) :
    ∀ e ∈ more, e ∈ names ∨ e.2 ∈ found.map (·.1.name) := by
  induction found generalizing names with
  | nil =>
    cases h
    exact fun e he => .inl he
  | cons f found ih =>
    obtain ⟨p, n⟩ := f
    cases n with
    | none => exact fun e he => (ih h e he).imp_right (List.mem_cons_of_mem _)
    | some n =>
      simp only [pair] at h
      split at h
      next => cases h
      next =>
        intro e he
        rcases ih h e he with he | he
        · rcases List.mem_append.mp he with he | he
          · exact .inl he
          · cases List.mem_singleton.mp he
            exact .inr List.mem_cons_self
        · exact .inr (List.mem_cons_of_mem _ he)

theorem of_parameters {rs : List NameResolver} {c : Callable} {b : Binder} (h : Binder.of rs c = .ok b) :
    ∀ e ∈ b.names, e.2 ∈ b.parameters.map (·.name) := by
  unfold Binder.of at h
  split at h
  next => cases h
  next ps _ =>
    obtain ⟨found, _, h⟩ := except_bind_ok h
    obtain ⟨names, hp, h⟩ := except_bind_ok h
    cases h
    intro e he
    rcases pair_parameters hp e he with he | he
    · cases he
    · obtain ⟨⟨p, n⟩, hz, hp⟩ := List.mem_map.mp he
      exact hp ▸ List.mem_map.mpr ⟨p, (List.of_mem_zip hz).1, rfl⟩

/-- Every name of a binder has a value where every parameter has one. -/
theorem mem_names_bindings {rs : List NameResolver} {c : Callable} {b : Binder}
    (hb : Binder.of rs c = .ok b) {arguments : Arguments}
    (ha : arguments.names = b.parameters.map (·.name)) {n : String} (hn : n ∈ b.names.map Prod.fst) :
    n ∈ (b.bindings arguments).names := by
  obtain ⟨⟨m, p⟩, he, rfl⟩ := List.mem_map.mp hn
  obtain ⟨v, hv⟩ := Bindings.lookup_of_mem (ha ▸ of_parameters hb _ he)
  refine List.mem_map.mpr ⟨(m, v), List.mem_filterMap.mpr ⟨(m, p), he, ?_⟩, rfl⟩
  dsimp only at hv ⊢
  rw [hv]
  rfl

end Binder

end AccessPolicy
