import AccessPolicy.Policy.Rules
import AccessPolicy.Proofs.Outcome
import AccessPolicy.Proofs.Bindings
import AccessPolicy.Proofs.Pattern

/-!
How a request finds its rule: one of the routes that were read and checked, with a value for each of its
variables, or else the default.
-/

namespace AccessPolicy

theorem except_mapM_getElem? {ε α β : Type} {f : α → Except ε β} {as : List α} {bs : List β}
    (h : as.mapM f = .ok bs) :
    bs.length = as.length ∧ ∀ (i : Nat) (a : α), as[i]? = some a → ∃ b, bs[i]? = some b ∧ f a = .ok b := by
  induction as generalizing bs with
  | nil =>
    cases h
    simp
  | cons a as ih =>
    rw [List.mapM_cons] at h
    obtain ⟨c, hc, h⟩ := except_bind_ok h
    obtain ⟨cs, hcs, h⟩ := except_bind_ok h
    cases h
    obtain ⟨hlength, hget⟩ := ih hcs
    refine ⟨by simp [hlength], ?_⟩
    intro i x hx
    cases i with
    | zero =>
      cases hx
      exact ⟨c, rfl, hc⟩
    | succ i => exact hget i x hx

theorem PathTemplate.checkNames_ok {s : String} {seen ns : List String} (h : checkNames s seen ns = .ok ()) :
    (∀ n ∈ ns, Text.isIdentifier n = true) ∧ ns.Nodup ∧ ∀ n ∈ ns, n ∉ seen := by
  induction ns generalizing seen with
  | nil => simp
  | cons n ns ih =>
    unfold checkNames at h
    split at h
    next => cases h
    next hn =>
      split at h
      next => cases h
      next =>
        split at h
        next => cases h
        next hseen =>
          obtain ⟨hidentifiers, hnodup, hnew⟩ := ih h
          refine ⟨?_, List.nodup_cons.mpr ⟨fun hm => hnew n hm List.mem_cons_self, hnodup⟩, ?_⟩
          · intro m hm
            rcases List.mem_cons.mp hm with rfl | hm
            · simpa using hn
            · exact hidentifiers m hm
          · intro m hm
            rcases List.mem_cons.mp hm with rfl | hm
            · simpa using hseen
            · exact fun hs => hnew m hm (List.mem_cons_of_mem n hs)

theorem PathTemplate.read_ok {s : String} {t : PathTemplate} (h : read s = .ok t) :
    t = parts s ∧ (∀ n ∈ t.variableNames, Text.isIdentifier n = true) ∧ t.variableNames.Nodup := by
  unfold read at h
  obtain ⟨_, hcheck, h⟩ := except_bind_ok h
  cases h
  obtain ⟨hidentifiers, hnodup, _⟩ := checkNames_ok hcheck
  exact ⟨rfl, hidentifiers, hnodup⟩

/-- A path that fits a template gives every variable of the template a value, and no other name. -/
theorem PathTemplate.fit?_names {t : PathTemplate} {cs : List Char} {vs : List (String × String)}
    (h : fit? t cs = some vs) : vs.map Prod.fst = t.variableNames := by
  induction t generalizing cs vs with
  | nil =>
    rw [fit?] at h
    split at h
    · cases h
      rfl
    · cases h
  | cons part ps ih =>
    cases part with
    | char c =>
      cases cs with
      | nil => cases h
      | cons d cs =>
        rw [fit?] at h
        split at h
        · exact ih h
        · cases h
    | «variable» n =>
      rw [fit?] at h
      obtain ⟨i, _, hi⟩ := List.exists_of_findSome?_eq_some h
      obtain ⟨ws, hws, rfl⟩ := Option.map_eq_some_iff.mp hi
      exact congrArg (n :: ·) (ih hws)

theorem Routes.find_cases (rs : Routes) (path method : String) :
    rs.find path method = ⟨rs.default, []⟩ ∨
      ∃ r ∈ rs.routes, (rs.find path method).guard = r.guard ∧
        ((rs.find path method).pathVariables = [] ∧ r.variableNames = [] ∨
          Text.Regex.match? r.pattern path = some (rs.find path method).pathVariables) := by
  unfold find
  dsimp only
  split
  next r hr =>
    have hempty := List.find?_some hr
    simp only [Bool.and_eq_true, List.isEmpty_iff] at hempty
    exact .inr ⟨r, List.mem_of_find?_eq_some hr, rfl, .inl ⟨rfl, hempty.1.1⟩⟩
  next =>
    cases hf : rs.routes.findSome? fun r =>
        if admits (Text.upper method) r then
          (Text.Regex.match? r.pattern path).map fun vs => RouteMatch.mk r.guard vs
        else none with
    | none => exact .inl rfl
    | some m =>
      obtain ⟨r, hr, hm⟩ := List.exists_of_findSome?_eq_some hf
      split at hm
      next =>
        obtain ⟨vs, hvs, rfl⟩ := Option.map_eq_some_iff.mp hm
        exact .inr ⟨r, hr, rfl, .inr hvs⟩
      next => cases hm

namespace Rules

variable {σ : Type} {h : Handler σ}

def routeLabel (index : Nat) (rule : RouteRule) : String :=
  "routes[" ++ toString index ++ "] " ++ rule.path

/-- A route that came of a rule. -/
structure Compiled (h : Handler σ) (index : Nat) (rule : RouteRule) (r : Route) : Prop where
  path : r.path = rule.path
  identifiers : ∀ n ∈ (PathTemplate.parts rule.path).variableNames, Text.isIdentifier n = true
  distinct : (PathTemplate.parts rule.path).variableNames.Nodup
  pattern : r.pattern = (PathTemplate.parts rule.path).pattern
  variableNames : r.variableNames = (PathTemplate.parts rule.path).variableNames
  methods : r.methods = rule.methods.map Text.upper
  guard : h.guard rule.guard (routeLabel index rule) = .ok r.guard
  validated : h.validate r.guard r.variableNames true = .ok ()

theorem route_ok {index : Nat} {rule : RouteRule} {r : Route} (hr : route h index rule = .ok r) :
    Compiled h index rule r := by
  unfold route at hr
  dsimp only at hr
  split at hr
  next t ht =>
    obtain ⟨rfl, hidentifiers, hdistinct⟩ := PathTemplate.read_ok ht
    obtain ⟨_, ht', hr⟩ := except_bind_ok hr
    cases ht'
    obtain ⟨g, hg, hr⟩ := except_bind_ok hr
    obtain ⟨_, hv, hr⟩ := except_bind_ok hr
    cases hr
    exact ⟨rfl, hidentifiers, hdistinct, rfl, rfl, rfl, hg, hv⟩
  next => cases hr

/-- The expression of a route matches the paths that fit the template of its rule. -/
theorem Compiled.match?_eq {index : Nat} {rule : RouteRule} {r : Route} (hr : Compiled h index rule r)
    (path : String) :
    Text.Regex.match? r.pattern path = (PathTemplate.parts rule.path).fit? path.toList := by
  rw [hr.pattern]
  exact PathTemplate.match?_pattern hr.identifiers hr.distinct path

/-- The routes of a policy are its rules in their order, and its default is checked too. -/
theorem routesOf_ok {p : Policy} {rs : Routes} (hrs : routesOf h p = .ok rs) :
    h.guard p.default "default" = .ok rs.default ∧ h.validate rs.default [] true = .ok () ∧
      rs.routes.length = p.routes.length ∧
      ∀ (i : Nat) (rule : RouteRule), p.routes[i]? = some rule → ∃ r, rs.routes[i]? = some r ∧ Compiled h i rule r := by
  unfold routesOf at hrs
  obtain ⟨routes, hroutes, hrs⟩ := except_bind_ok hrs
  obtain ⟨g, hg, hrs⟩ := except_bind_ok hrs
  obtain ⟨_, hv, hrs⟩ := except_bind_ok hrs
  cases hrs
  obtain ⟨hlength, hget⟩ := except_mapM_getElem? hroutes
  refine ⟨hg, hv, by simpa using hlength, ?_⟩
  intro i rule hrule
  obtain ⟨r, hr, hcompiled⟩ := hget i (i, rule) (by simp [hrule])
  exact ⟨r, hr, route_ok hcompiled⟩

/-- Every route of a policy came of one of its rules. -/
theorem routesOf_mem {p : Policy} {rs : Routes} (hrs : routesOf h p = .ok rs) {r : Route}
    (hr : r ∈ rs.routes) : ∃ i rule, p.routes[i]? = some rule ∧ Compiled h i rule r := by
  obtain ⟨_, _, hlength, hget⟩ := routesOf_ok hrs
  obtain ⟨i, hi, rfl⟩ := List.mem_iff_getElem.mp hr
  have hrule := List.getElem?_eq_getElem (hlength ▸ hi)
  obtain ⟨r, hr, hcompiled⟩ := hget i _ hrule
  rw [List.getElem?_eq_getElem hi] at hr
  cases hr
  exact ⟨i, _, hrule, hcompiled⟩

/-- Every request finds a rule that was checked with the names of its variables. -/
theorem find_validated {p : Policy} {rs : Routes} (hrs : routesOf h p = .ok rs) (path method : String) :
    h.validate (rs.find path method).guard ((rs.find path method).pathVariables.map Prod.fst) true = .ok () := by
  obtain ⟨_, hdefault, _⟩ := routesOf_ok hrs
  rcases rs.find_cases path method with hf | ⟨r, hr, hguard, hvariables⟩
  · rw [hf]
    exact hdefault
  · obtain ⟨i, rule, _, hcompiled⟩ := routesOf_mem hrs hr
    have hnames : (rs.find path method).pathVariables.map Prod.fst = r.variableNames := by
      rcases hvariables with ⟨hnone, hempty⟩ | hmatch
      · rw [hnone, hempty]
        rfl
      · rw [hcompiled.match?_eq] at hmatch
        rw [hcompiled.variableNames]
        exact PathTemplate.fit?_names hmatch
    rw [hguard, hnames]
    exact hcompiled.validated

end Rules

end AccessPolicy
