import AccessPolicy.Http.Enforcement
import AccessPolicy.Proofs.Identification
import AccessPolicy.Proofs.Protocol

/-!
How a request ends. Its endpoint runs exactly if the rule that the request finds comes to truth itself; every
other value is a refusal, and every fault is answered as what it is. However a request ends, the identity that
was bound before it is bound after it.
-/

namespace AccessPolicy

variable {σ α : Type}

theorem Run.outcome_tryFinally' (x : Run σ α) (k : σ → σ) (s : σ) :
    (tryFinally' x fun _ => (modify k : Run σ Unit)).outcome s =
      ((x.outcome s).1.map fun a => (a, ()), k (x.outcome s).2) := by
  simp only [outcome, ExceptT.run, StateT.run, tryFinally', ExceptT.mk, bind, StateT.bind]
  rcases x s with ⟨_ | _, t⟩ <;> rfl

theorem Run.outcome_tryFinally (x : Run σ α) (k : σ → σ) (s : σ) :
    (tryFinally x (modify k)).outcome s = ((x.outcome s).1, k (x.outcome s).2) := by
  change Run.outcome (Prod.fst <$> tryFinally' x fun _ => modify k) s = _
  rw [Run.outcome_map, outcome_tryFinally']
  rcases (x.outcome s).1 <;> rfl

namespace Bound

theorem outcome_apart (x : Run (Bound σ) α) (b : Bound σ) :
    (apart x).outcome b = ((x.outcome b).1, { (x.outcome b).2 with identity := b.identity }) :=
  Run.outcome_tryFinally x (fun c => { c with identity := b.identity }) b

theorem outcome_during (who : Option Authentication) (x : Run (Bound σ) α) (b : Bound σ) :
    (during who x).outcome b =
      ((x.outcome (b.bind who)).1, (x.outcome (b.bind who)).2.bind b.identity.current) :=
  Run.outcome_tryFinally x (fun c => c.bind b.identity.current) (b.bind who)

end Bound

/-- An evaluation fails only in the engine's own ways. -/
theorem Guard.evaluate_isOwn (g : Guard) (ctx : Context σ) :
    (g.evaluate ctx).FailsOnly fun f => f.isOwn = true := by
  intro s f t h
  rw [outcome_evaluate] at h
  have hf := congrArg Prod.fst h
  cases hr : ((g.expr.eval ctx g.source).outcome s).1 with
  | ok v =>
    rw [hr] at hf
    cases hf
  | error e =>
    rw [hr] at hf
    change Except.error (if e.isOwn then e else .evaluation g.label g.source e) = Except.error f at hf
    obtain rfl := Except.error.inj hf
    split
    · assumption
    · rfl

namespace Rules

/-- What the rule that a request finds at a location comes to for an identity. -/
def ruling (rs : Rules σ) (who : Authentication) (r : Request) (location : Location) : Run σ Value :=
  let m := rs.routes.find location.path r.method
  m.guard.evaluate (rs.context (some who) (.request r) m)

/-- That a request has an identity and finds a rule, and what the rule comes to while that identity is bound. -/
def Ruled (rs : Rules (Bound σ)) (accounts : List Account) (r : Request) (b : Bound σ) (who : Authentication)
    (x : Except Failure Value) : Prop :=
  Credentials.resolve rs.credentials accounts r = .ok who ∧
    ∃ location, r.location? = some location ∧
      ((rs.ruling who r location).outcome (b.bind (some who))).1 = x

/-- The endings of a request, as far as the rules have a say in them. -/
inductive Ending where
  /-- The endpoint runs for an identity, and ends as it does. -/
  | served (who : Authentication)
  /-- The endpoint does not run. -/
  | stopped (f : Failure)

/-- That a request ends in a way, for every endpoint. -/
def Ends (rs : Rules (Bound σ)) (accounts : List Account) (r : Request) (b : Bound σ) : Ending → Prop
  | .served who => ∃ c : Bound σ, c.identity.current = some who ∧
      ∀ {α : Type} (endpoint : Authentication → Run (Bound σ) α),
        (rs.serve accounts r endpoint).outcome b =
          (((endpoint who).outcome c).1, ((endpoint who).outcome c).2.bind b.identity.current)
  | .stopped f => ∃ c : Bound σ,
      ∀ {α : Type} (endpoint : Authentication → Run (Bound σ) α),
        (rs.serve accounts r endpoint).outcome b = (.error f, c)

/-- How a request of an identity is to end, by what its rule comes to. -/
inductive Decided (who : Authentication) : Except Failure Value → Ending → Prop
  | admitted : Decided who (.ok (.bool true)) (.served who)
  | unproved {v : Value} : v ≠ .bool true → who.anonymous = true →
      Decided who (.ok v) (.stopped (.refused 401 "Authentication required"))
  | denied {v : Value} : v ≠ .bool true → who.anonymous = false →
      Decided who (.ok v) (.stopped (.refused 403 "Access is denied"))
  | unevaluated (label source : String) (cause : Failure) :
      Decided who (.error (.evaluation label source cause))
        (.stopped (.refused 500 "Authorization evaluation failed"))
  | unavailable (problem : PermissionFault) :
      Decided who (.error (.permission problem))
        (.stopped (.refused 503 "Authorization service unavailable"))
  | misconfigured (problem : Misconfiguration) :
      Decided who (.error (.configuration problem)) (.stopped (.configuration problem))
  | accessDenied : Decided who (.error .accessDenied) (.stopped .accessDenied)

theorem Decided.exists (who : Authentication) {x : Except Failure Value}
    (h : ∀ f, x = .error f → f.isOwn = true) : ∃ e, Decided who x e := by
  cases x with
  | ok v =>
    by_cases hv : v = .bool true
    · subst hv
      exact ⟨_, .admitted⟩
    · cases ha : who.anonymous with
      | true => exact ⟨_, .unproved hv ha⟩
      | false => exact ⟨_, .denied hv ha⟩
  | error f =>
    have hf := h f rfl
    cases f with
    | configuration problem => exact ⟨_, .misconfigured problem⟩
    | accessDenied => exact ⟨_, .accessDenied⟩
    | evaluation label source cause => exact ⟨_, .unevaluated label source cause⟩
    | permission problem => exact ⟨_, .unavailable problem⟩
    | _ => cases hf

theorem Decided.served {who w : Authentication} {x : Except Failure Value} (h : Decided who x (.served w)) :
    who = w := by
  cases h
  rfl

/-- Whether an ending lets the endpoint run. -/
def Ending.permission : Ending → Except Failure Unit
  | .served _ => .ok ()
  | .stopped f => .error f

theorem outcome_admits {rs : Rules σ} {r : Request} {location : Location} (who : Authentication)
    (hl : r.location? = some location) (s : σ) :
    (rs.admits who r).outcome s =
      (((rs.ruling who r location).outcome s).1.map Guard.passes, ((rs.ruling who r location).outcome s).2) := by
  unfold admits
  rw [hl]
  dsimp only
  unfold Guard.allows
  rw [← map_eq_pure_bind, Run.outcome_map]
  rfl

/-- The permission that a request gets is that of the ending that its rule decides. -/
theorem outcome_permit {rs : Rules σ} {who : Authentication} {r : Request} {location : Location} {s : σ}
    {e : Ending} (hl : r.location? = some location)
    (hd : Decided who ((rs.ruling who r location).outcome s).1 e) :
    (rs.permit who r).outcome s = (e.permission, ((rs.ruling who r location).outcome s).2) := by
  unfold permit
  rw [Run.outcome_bind, Run.outcome_tryCatch, outcome_admits who hl]
  generalize (rs.ruling who r location).outcome s = x at hd
  obtain ⟨x, t⟩ := x
  cases hd with
  | unproved hv ha => simp [Except.map, Protocol.passes_iff, hv, ha, Ending.permission]
  | denied hv ha => simp [Except.map, Protocol.passes_iff, hv, ha, Ending.permission]
  | _ => rfl

theorem outcome_serve {rs : Rules (Bound σ)} {accounts : List Account} {r : Request} {who : Authentication}
    (hwho : Credentials.resolve rs.credentials accounts r = .ok who)
    (endpoint : Authentication → Run (Bound σ) α) (b : Bound σ) :
    (rs.serve accounts r endpoint).outcome b =
      (Bound.during (some who) (do Bound.apart (rs.permit who r); endpoint who)).outcome b := by
  unfold serve
  rw [hwho]
  rfl

theorem ends_of_decided {rs : Rules (Bound σ)} {accounts : List Account} {r : Request} {b : Bound σ}
    {who : Authentication} {location : Location} {e : Ending}
    (hwho : Credentials.resolve rs.credentials accounts r = .ok who) (hl : r.location? = some location)
    (hd : Decided who ((rs.ruling who r location).outcome (b.bind (some who))).1 e) :
    rs.Ends accounts r b e := by
  have hp := outcome_permit hl hd
  generalize ((rs.ruling who r location).outcome (b.bind (some who))).2 = c at hp
  cases e with
  | served w =>
    obtain rfl := hd.served
    refine ⟨{ c with identity := b.identity.bind (some who) }, rfl, ?_⟩
    intro α endpoint
    rw [outcome_serve hwho, Bound.outcome_during, Run.outcome_bind, Bound.outcome_apart, hp]
    rfl
  | stopped f =>
    refine ⟨({ c with identity := b.identity.bind (some who) } : Bound σ).bind b.identity.current, ?_⟩
    intro α endpoint
    rw [outcome_serve hwho, Bound.outcome_during, Run.outcome_bind, Bound.outcome_apart, hp]
    rfl

theorem outcome_unresolved {rs : Rules (Bound σ)} {accounts : List Account} {r : Request} {f : Failure}
    (hf : Credentials.resolve rs.credentials accounts r = .error f)
    (endpoint : Authentication → Run (Bound σ) α) (b : Bound σ) :
    (rs.serve accounts r endpoint).outcome b = (.error f, b) := by
  unfold serve
  rw [hf]
  rfl

/-- A request without a location finds no rule. -/
theorem ends_of_unlocated {rs : Rules (Bound σ)} {accounts : List Account} {r : Request}
    {who : Authentication} (hwho : Credentials.resolve rs.credentials accounts r = .ok who)
    (hl : r.location? = none) (b : Bound σ) : rs.Ends accounts r b (.stopped (.operand .badValue)) := by
  have hp : (rs.permit who r).outcome (b.bind (some who)) = (.error (.operand .badValue), b.bind (some who)) := by
    unfold permit admits
    rw [hl]
    rfl
  refine ⟨(b.bind (some who)).bind b.identity.current, ?_⟩
  intro α endpoint
  rw [outcome_serve hwho, Bound.outcome_during, Run.outcome_bind, Bound.outcome_apart, hp]

/-- What an endpoint comes to that answers whom it runs for, which tells the endings apart. -/
def Ending.told : Ending → Except Failure Authentication
  | .served who => .ok who
  | .stopped f => .error f

theorem Ends.outcome_told {rs : Rules (Bound σ)} {accounts : List Account} {r : Request} {b : Bound σ} {e : Ending}
    (h : rs.Ends accounts r b e) : ((rs.serve accounts r pure).outcome b).1 = e.told := by
  cases e with
  | served who =>
    obtain ⟨c, _, h⟩ := h
    rw [h pure]
    rfl
  | stopped f =>
    obtain ⟨c, h⟩ := h
    rw [h pure]
    rfl

/-- No request ends in two ways. -/
theorem Ends.unique {rs : Rules (Bound σ)} {accounts : List Account} {r : Request} {b : Bound σ}
    {e₁ e₂ : Ending} (h₁ : rs.Ends accounts r b e₁) (h₂ : rs.Ends accounts r b e₂) : e₁ = e₂ := by
  have htold : e₁.told = e₂.told := h₁.outcome_told.symm.trans h₂.outcome_told
  cases e₁ <;> cases e₂ <;> cases htold <;> rfl

theorem Ruled.isOwn {rs : Rules (Bound σ)} {accounts : List Account} {r : Request} {b : Bound σ}
    {who : Authentication} {x : Except Failure Value} (h : rs.Ruled accounts r b who x) {f : Failure}
    (hf : x = .error f) : f.isOwn = true := by
  obtain ⟨_, location, _, rfl⟩ := h
  exact Guard.evaluate_isOwn _ _ _ f _ (Prod.ext hf rfl)

theorem Ruled.ends_iff {rs : Rules (Bound σ)} {accounts : List Account} {r : Request} {b : Bound σ}
    {who : Authentication} {x : Except Failure Value} (h : rs.Ruled accounts r b who x) (e : Ending) :
    rs.Ends accounts r b e ↔ Decided who x e := by
  have hends : ∀ e, Decided who x e → rs.Ends accounts r b e := by
    obtain ⟨hwho, location, hl, rfl⟩ := h
    exact fun _ => ends_of_decided hwho hl
  constructor
  · intro he
    obtain ⟨e', hd⟩ := Decided.exists who fun f => h.isOwn (f := f)
    rw [he.unique (hends e' hd)]
    exact hd
  · exact hends e

/-- Without a ruling a request ends for want of an identity or of a location. -/
theorem ends_of_not_ruled {rs : Rules (Bound σ)} {accounts : List Account} {r : Request} {b : Bound σ}
    (h : ∀ who x, ¬rs.Ruled accounts r b who x) :
    (∃ f, Credentials.resolve rs.credentials accounts r = .error f ∧ rs.Ends accounts r b (.stopped f)) ∨
      rs.Ends accounts r b (.stopped (.operand .badValue)) := by
  cases hwho : Credentials.resolve rs.credentials accounts r with
  | error f => exact .inl ⟨f, rfl, b, fun endpoint => outcome_unresolved hwho endpoint b⟩
  | ok who =>
    cases hl : r.location? with
    | none => exact .inr (ends_of_unlocated hwho hl b)
    | some location => exact absurd ⟨hwho, location, hl, rfl⟩ (h who _)

theorem ends_exists (rs : Rules (Bound σ)) (accounts : List Account) (r : Request) (b : Bound σ) :
    ∃ e, rs.Ends accounts r b e := by
  by_cases h : ∃ who x, rs.Ruled accounts r b who x
  · obtain ⟨who, x, h⟩ := h
    obtain ⟨e, hd⟩ := Decided.exists who fun f => h.isOwn (f := f)
    exact ⟨e, (h.ends_iff e).mpr hd⟩
  · rcases ends_of_not_ruled (by simpa using h) with ⟨f, _, hf⟩ | hf
    · exact ⟨_, hf⟩
    · exact ⟨_, hf⟩

/-- A request that ends in a refusal other than one for credentials was ruled to end so. -/
theorem decided_of_refused {rs : Rules (Bound σ)} {accounts : List Account} {r : Request} {b : Bound σ}
    {status : Nat} {detail : String} (h : rs.Ends accounts r b (.stopped (.refused status detail)))
    (h400 : status ≠ 400) (h401 : status ≠ 401) :
    ∃ who x, rs.Ruled accounts r b who x ∧ Decided who x (.stopped (.refused status detail)) := by
  apply Classical.byContradiction
  intro hnot
  have hruled : ∀ who x, ¬rs.Ruled accounts r b who x := by
    intro who x hx
    exact hnot ⟨who, x, hx, (hx.ends_iff _).mp h⟩
  rcases ends_of_not_ruled hruled with ⟨f, hf, he⟩ | he
  · cases h.unique he
    rcases Credentials.resolve_refused hf with h | h
    · exact h400 h
    · exact h401 h
  · cases h.unique he

theorem identity_restored (rs : Rules (Bound σ)) (accounts : List Account) (r : Request)
    (endpoint : Authentication → Run (Bound σ) α) (b : Bound σ) :
    ((rs.serve accounts r endpoint).outcome b).2.identity.current = b.identity.current := by
  cases hwho : Credentials.resolve rs.credentials accounts r with
  | error f => rw [outcome_unresolved hwho]
  | ok who =>
    rw [outcome_serve hwho, Bound.outcome_during]
    rfl

/-- Every request ends in one way. Once it has an identity and a rule, what the rule comes to decides it: the
endpoint runs exactly for truth itself. A fault of an expression or of a permission store is the only cause
of the status that tells of it. Whatever the endpoint does, the identity that was bound is bound again. -/
theorem serve_as_decided (rs : Rules (Bound σ)) (accounts : List Account) (r : Request) (b : Bound σ) :
    (∃ e, rs.Ends accounts r b e ∧ ∀ e', rs.Ends accounts r b e' → e' = e) ∧
      (∀ who x, rs.Ruled accounts r b who x → ∀ e, rs.Ends accounts r b e ↔ Decided who x e) ∧
      (∀ detail, rs.Ends accounts r b (.stopped (.refused 500 detail)) →
        ∃ who label source cause, rs.Ruled accounts r b who (.error (.evaluation label source cause))) ∧
      (∀ detail, rs.Ends accounts r b (.stopped (.refused 503 detail)) →
        ∃ who problem, rs.Ruled accounts r b who (.error (.permission problem))) ∧
      ∀ {α : Type} (endpoint : Authentication → Run (Bound σ) α),
        ((rs.serve accounts r endpoint).outcome b).2.identity.current = b.identity.current := by
  refine ⟨?_, fun who x => Ruled.ends_iff, ?_, ?_, fun endpoint => rs.identity_restored accounts r endpoint b⟩
  · obtain ⟨e, he⟩ := rs.ends_exists accounts r b
    exact ⟨e, he, fun e' he' => he'.unique he⟩
  · intro detail h
    obtain ⟨who, x, hx, hd⟩ := decided_of_refused h (by decide) (by decide)
    cases hd with
    | unevaluated label source cause => exact ⟨who, label, source, cause, hx⟩
  · intro detail h
    obtain ⟨who, x, hx, hd⟩ := decided_of_refused h (by decide) (by decide)
    cases hd with
    | unavailable problem => exact ⟨who, problem, hx⟩

/-- Rules with one guard, which all requests find. -/
def uniform (guard : Expr) : Rules (Bound Unit) where
  credentials := {}
  handler := { send _ _ _ _ := throw (.operand .wrongType) }
  routes := ⟨[], ⟨"", "default", guard⟩⟩

/-- An endpoint that leaves its own identity bound, and fails. -/
def careless (who : Authentication) : Run (Bound Unit) Unit := do
  modify (·.bind (some { who with name := some "endpoint" }))
  throw (.documentNotFound .null)

theorem careless_endpoint_served :
    (uniform (.name "permitAll")).Ends [] {} ⟨(), {}⟩ (.served .anonymousUser) ∧
      (((uniform (.name "permitAll")).serve [] {} careless).outcome ⟨(), {}⟩).2.identity.current = none := by
  have hr : (uniform (.name "permitAll")).Ruled [] {} ⟨(), {}⟩ .anonymousUser (.ok (.bool true)) :=
    ⟨rfl, _, rfl, rfl⟩
  obtain ⟨_, hdecided, _, _, hrestored⟩ := serve_as_decided (uniform (.name "permitAll")) [] {} ⟨(), {}⟩
  exact ⟨(hdecided _ _ hr _).mpr .admitted, hrestored careless⟩

end Rules

end AccessPolicy
