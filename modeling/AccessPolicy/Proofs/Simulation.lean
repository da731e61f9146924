import AccessPolicy.Proofs.Outcome

/-!
Relations between evaluations that the steps of evaluation respect. Two evaluators that are built by the same
steps are related as soon as the few things that they ask their contexts for are.
-/

namespace AccessPolicy

/-- A value that an evaluation can end with. -/
def Evaluation.Yields {σ α : Type} (x : Evaluation σ α) (a : α) : Prop :=
  ∃ n s m t, x.outcome n s = (.ok (a, m), t)

namespace Evaluation

theorem yields_pure {σ α : Type} {a b : α} (h : (pure a : Evaluation σ α).Yields b) : a = b := by
  obtain ⟨n, s, m, t, h⟩ := h
  cases h
  rfl

theorem yields_throw {σ α : Type} {f : Failure} {b : α} (h : (throw f : Evaluation σ α).Yields b) :
    False := by
  obtain ⟨n, s, m, t, h⟩ := h
  cases h

theorem yields_bind {σ α β : Type} {x : Evaluation σ α} {k : α → Evaluation σ β} {b : β}
    (h : (x >>= k).Yields b) : ∃ a, x.Yields a ∧ (k a).Yields b := by
  obtain ⟨n, s, m, t, h⟩ := h
  rw [outcome_bind] at h
  cases hx : x.outcome n s with
  | mk r u =>
    rw [hx] at h
    cases r with
    | error f => cases h
    | ok p => exact ⟨p.1, ⟨n, s, p.2, u, hx⟩, ⟨p.2, u, m, t, h⟩⟩

theorem yields_attempt {σ α : Type} {x : Attempt α} {a : α} (h : (attempt x : Evaluation σ α).Yields a) :
    x = .ok a := by
  cases x with
  | ok b => exact congrArg _ (yields_pure h)
  | error f => exact absurd h yields_throw

theorem yields_foldlM {σ α β : Type} {P : β → Prop} {f : β → α → Evaluation σ β} {as : List α} {b c : β}
    (hf : ∀ b a c, P b → (f b a).Yields c → P c) (hb : P b) (h : (as.foldlM f b).Yields c) : P c := by
  induction as generalizing b with
  | nil => exact yields_pure h ▸ hb
  | cons a as ih =>
    rw [List.foldlM_cons] at h
    obtain ⟨d, hd, h⟩ := yields_bind h
    exact ih (hf b a d hb hd) h

end Evaluation

/-- The failures that evaluation raises by itself wherever it is, whatever the names of its context mean. -/
def Failure.isPlain : Failure → Bool
  | .operand _ => true
  | .expression (.nameNotDefined ..) => false
  | .expression _ => true
  | _ => false

/-- A relation between evaluations in two worlds that the steps of evaluation respect. -/
structure Simulation (σ τ : Type) where
  related : {α : Type} → Evaluation σ α → Evaluation τ α → Prop
  value : ∀ {α : Type} (a : α), related (pure a) (pure a)
  failure : ∀ {α : Type} {f : Failure}, f.isPlain → related (α := α) (throw f) (throw f)
  next : ∀ {α β : Type} {x : Evaluation σ α} {y : Evaluation τ α} {k : α → Evaluation σ β}
    {l : α → Evaluation τ β}, related x y → (∀ a, x.Yields a → related (k a) (l a)) →
    related (x >>= k) (y >>= l)
  count : related (modify (· + 1)) (modify (· + 1))
  counted : related get get

namespace Simulation

variable {σ τ : Type} (R : Simulation σ τ)

theorem choice {α : Type} {x x' : Evaluation σ α} {y y' : Evaluation τ α} (c : Prop) [Decidable c]
    (h : R.related x y) (h' : R.related x' y') : R.related (if c then x else x') (if c then y else y') := by
  split
  · exact h
  · exact h'

theorem check {α β : Type} {x : Evaluation σ β} {y : Evaluation τ β} {k : Evaluation σ α}
    {l : Evaluation τ α} (c : Prop) [Decidable c] (h : R.related x y) (hk : R.related k l) :
    R.related (if c then x >>= fun _ => k else k) (if c then y >>= fun _ => l else l) :=
  R.choice c (R.next h fun _ _ => hk) hk

theorem fault {α : Type} {f : ExpressionFault} (h : (Failure.expression f).isPlain) :
    R.related (α := α) (Evaluation.fault f) (Evaluation.fault f) :=
  R.failure h

theorem attempt {α : Type} (x : Attempt α) : R.related (Evaluation.attempt x) (Evaluation.attempt x) := by
  cases x with
  | ok a => exact R.value a
  | error f => exact R.failure rfl

theorem foldlM {α β : Type} {P : β → Prop} {f : β → α → Evaluation σ β} {g : β → α → Evaluation τ β}
    {as : List α} {b : β} (hf : ∀ b a, P b → R.related (f b a) (g b a))
    (hP : ∀ b a c, P b → (f b a).Yields c → P c) (hb : P b) :
    R.related (as.foldlM f b) (as.foldlM g b) := by
  induction as generalizing b with
  | nil => exact R.value b
  | cons a as ih =>
    rw [List.foldlM_cons, List.foldlM_cons]
    exact R.next (hf b a hb) fun c hc => ih (hP b a c hb hc)

theorem literal (c : Literal) : R.related (Evaluation.literal c) (Evaluation.literal c) := by
  unfold Evaluation.literal
  split
  · exact R.choice _ (R.fault rfl) (R.value _)
  · exact R.value _

theorem exceeds (v : Value) (bound : Nat) :
    R.related (Evaluation.exceeds v bound) (Evaluation.exceeds v bound) := by
  unfold Evaluation.exceeds
  split
  · exact R.value _
  · exact R.value _
  · exact R.value _
  · exact R.failure rfl

theorem tooHigh (v : Value) (sign : String) (w : Value) :
    R.related (Evaluation.tooHigh v sign w) (Evaluation.tooHigh v sign w) :=
  R.choice _ (R.failure rfl) (R.fault rfl)

theorem guardSize (op : BinaryOp) (v w : Value) :
    R.related (Evaluation.guardSize op v w) (Evaluation.guardSize op v w) := by
  have either (x y : Value) (m n : Nat) (sign : String) : R.related
      (do if (← Evaluation.exceeds x m) || (← Evaluation.exceeds y n) then Evaluation.tooHigh v sign w)
      (do if (← Evaluation.exceeds x m) || (← Evaluation.exceeds y n) then Evaluation.tooHigh v sign w) :=
    R.next (R.exceeds x m) fun a _ => R.next (R.exceeds y n) fun b _ =>
      R.choice _ (R.tooHigh v sign w) (R.value ())
  unfold Evaluation.guardSize
  cases op with
  | power => exact either v w _ _ _
  | shiftLeft => exact either w v _ _ _
  | shiftRight => exact either w v _ _ _
  | multiply => exact R.choice _ (R.fault rfl) (R.value ())
  | add =>
    dsimp only
    split
    · exact R.choice _ (R.fault rfl) (R.value ())
    · exact R.value ()
  | _ => exact R.value ()

theorem attributeOf (source : String) (v : Value) (attr : String) :
    R.related (Evaluation.attributeOf source v attr) (Evaluation.attributeOf source v attr) := by
  unfold Evaluation.attributeOf
  split
  · exact R.value _
  · split
    · exact R.value _
    · exact R.fault rfl
    · exact R.fault rfl
    · exact R.failure rfl

theorem guardAttribute (attr : String) :
    R.related (Evaluation.guardAttribute attr) (Evaluation.guardAttribute attr) :=
  R.choice _ (R.fault rfl) (R.choice _ (R.fault rfl) (R.value ()))

theorem countElement : R.related (Evaluation.countElement (σ := σ)) Evaluation.countElement :=
  R.next R.count fun _ _ => R.next R.counted fun _ _ => R.choice _ (R.fault rfl) (R.value ())

theorem laidOut (v : Value) (layout : String) :
    R.related (Evaluation.laidOut v layout) (Evaluation.laidOut v layout) :=
  R.choice _ (R.failure rfl) (R.next (R.attempt _) fun _ _ => R.value _)

theorem addPart (sofar : String) (v : Value) :
    R.related (Evaluation.addPart sofar v) (Evaluation.addPart sofar v) :=
  R.check _ (R.failure rfl) (R.check _ (R.fault rfl) (R.value _))

end Simulation

end AccessPolicy
