import AccessPolicy.Proofs.Choice

/-!
Which rules a path can find at all. A path begins with the characters that a template begins with before its
first variable, so templates that begin differently fit no path together.
-/

namespace AccessPolicy

namespace PathTemplate

/-- The characters that a template begins with, up to its first variable. -/
def lead : PathTemplate → List Char
  | .char c :: t => c :: lead t
  | _ => []

theorem lead_of_fit? {t : PathTemplate} {cs : List Char} {vs : List (String × String)} (h : fit? t cs = some vs) :
    lead t <+: cs := by
  induction t generalizing cs vs with
  | nil => exact List.nil_prefix
  | cons part t ih =>
    cases part with
    | «variable» n => exact List.nil_prefix
    | char c =>
      cases cs with
      | nil => cases h
      | cons d cs =>
        rw [fit?] at h
        split at h
        next hcd =>
          rw [beq_iff_eq.mp hcd]
          exact (List.prefix_cons_inj d).mpr (ih h)
        next => cases h

/-- Whether two templates begin so that a path could begin as both. -/
def begins (t u : PathTemplate) : Bool := (lead t).isPrefixOf (lead u) || (lead u).isPrefixOf (lead t)

theorem begins_of_fit? {t u : PathTemplate} {cs : List Char} {vs ws : List (String × String)}
    (ht : fit? t cs = some vs) (hu : fit? u cs = some ws) : begins t u = true := by
  unfold begins
  rw [Bool.or_eq_true, List.isPrefixOf_iff_prefix, List.isPrefixOf_iff_prefix]
  rcases Nat.le_total (lead t).length (lead u).length with hle | hle
  · exact .inl (List.prefix_of_prefix_length_le (lead_of_fit? ht) (lead_of_fit? hu) hle)
  · exact .inr (List.prefix_of_prefix_length_le (lead_of_fit? hu) (lead_of_fit? ht) hle)

/-- A template without variables fits its own text and gives nothing. -/
theorem fit?_plain (cs : List Char) : fit? (cs.map .char) cs = some [] := by
  induction cs with
  | nil => rfl
  | cons c cs ih =>
    rw [List.map_cons, fit?, beq_self_eq_true, if_pos rfl]
    exact ih

/-- And it fits nothing else, but for a line break at the end. -/
theorem plain_of_fit? {cs ds : List Char} {vs : List (String × String)} (h : fit? (cs.map .char) ds = some vs) :
    ds = cs ∨ ds = cs ++ ['\n'] := by
  induction cs generalizing ds with
  | nil =>
    rw [List.map_nil, fit?] at h
    split at h
    next hend =>
      unfold Text.Regex.isEnd at hend
      split at hend
      · exact .inl rfl
      · exact .inr rfl
      · cases hend
    next => cases h
  | cons c cs ih =>
    cases ds with
    | nil => cases h
    | cons d ds =>
      rw [List.map_cons, fit?] at h
      split at h
      next hcd =>
        rw [beq_iff_eq.mp hcd]
        exact (ih h).imp (congrArg (d :: ·)) (congrArg (d :: ·))
      next => cases h

/-- The path that a template describes with texts for its variables. -/
def fill : PathTemplate → List (String × String) → List Char
  | .char c :: t, vs => c :: fill t vs
  | .variable _ :: t, (_, s) :: vs => s.toList ++ fill t vs
  | _, _ => []

theorem Fits.eq_fill {t : PathTemplate} {cs : List Char} {vs : List (String × String)} (h : Fits t cs vs) :
    cs = fill t vs := by
  induction h with
  | done => rfl
  | char _ ih => exact congrArg _ ih
  | «variable» _ _ _ ih => rw [fill, String.toList_ofList, ← ih]

end PathTemplate

namespace Rules

variable {σ : Type} {h : Handler σ}

/-- Whether a rule is for a method, and a path fits its template with these texts for its variables. -/
def Takes (rule : RouteRule) (path method : String) (vs : List (String × String)) : Prop :=
  rule.Covers method ∧ rule.template.fit? path.toList = some vs

theorem takes_of_match {index : Nat} {rule : RouteRule} {r : Route} (hr : Compiled h index rule r) {path method : String}
    {vs : List (String × String)} (hadmits : Routes.admits (Text.upper method) r = true)
    (hm : Text.Regex.match? r.pattern path = some vs) : Takes rule path method vs := by
  rw [hr.match?_eq] at hm
  exact ⟨(admits_iff hr method).mp hadmits, hm⟩

/-- A request finds a rule that takes it, if there is one, and else the default. -/
theorem find_takes {p : Policy} {rs : Routes} (hrs : routesOf h p = .ok rs) (path method : String) :
    (rs.find path method = ⟨rs.default, []⟩ ∧ ∀ rule ∈ p.routes, ∀ vs, ¬Takes rule path method vs) ∨
      ∃ i rule, p.routes[i]? = some rule ∧ Takes rule path method (rs.find path method).pathVariables ∧
        h.guard rule.guard (routeLabel i rule) = .ok (rs.find path method).guard := by
  unfold Routes.find
  dsimp only
  split
  next r hr =>
    obtain ⟨i, rule, hrule, hcompiled⟩ := routesOf_mem hrs (List.mem_of_find?_eq_some hr)
    have hfound := List.find?_some hr
    obtain ⟨hplain, hsame, hcovers⟩ := (names_iff hcompiled path method).mp hfound
    have hfit : rule.template.fit? path.toList = some [] := by
      unfold RouteRule.template at hplain ⊢
      rw [PathTemplate.parts_plain hplain, hsame]
      exact PathTemplate.fit?_plain _
    exact .inr ⟨i, rule, hrule, ⟨hcovers, hfit⟩, hcompiled.guard⟩
  next =>
    cases hf : rs.routes.findSome? fun r =>
        if Routes.admits (Text.upper method) r then
          (Text.Regex.match? r.pattern path).map fun vs => RouteMatch.mk r.guard vs
        else none with
    | some m =>
      obtain ⟨r, hr, hm⟩ := List.exists_of_findSome?_eq_some hf
      obtain ⟨i, rule, hrule, hcompiled⟩ := routesOf_mem hrs hr
      split at hm
      next hadmits =>
        obtain ⟨vs, hvs, rfl⟩ := Option.map_eq_some_iff.mp hm
        exact .inr ⟨i, rule, hrule, takes_of_match hcompiled hadmits hvs, hcompiled.guard⟩
      next => cases hm
    | none =>
      refine .inl ⟨rfl, ?_⟩
      rintro rule hrule vs ⟨hcovers, hfit⟩
      obtain ⟨i, hi⟩ := List.mem_iff_getElem?.mp hrule
      obtain ⟨r, hr, hcompiled⟩ := (routesOf_ok hrs).2.2.2 i rule hi
      have hnone := List.findSome?_eq_none_iff.mp hf r (List.mem_of_getElem? hr)
      rw [if_pos ((admits_iff hcompiled method).mpr hcovers), hcompiled.match?_eq] at hnone
      rw [show (PathTemplate.parts rule.path).fit? path.toList = some vs from hfit] at hnone
      cases hnone

end Rules

end AccessPolicy
