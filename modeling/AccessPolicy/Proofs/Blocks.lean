import AccessPolicy.Proofs.Serving

/-!
Work on the bound identity. A block binds an identity for the steps in it, and when it is left the identity is
the one that was bound when it was entered: the steps may leave identities set, restore them out of order, use a
token twice, and fail at any point.
-/

namespace AccessPolicy

/-- A step of work on the bound identity. -/
inductive IdentityStep where
  | read
  | set (token : String) (who : Option Authentication)
  | clear (token : String)
  | fail
  /-- Steps whose failure is caught. -/
  | attempt (steps : List IdentityStep)
  | block (who : Option Authentication) (steps : List IdentityStep)

inductive StepFault where
  | raised
  | restore (f : RestoreFault)
  deriving DecidableEq

/-- What steps come to: the state that they leave, what they read, what was bound before and after each block
that they left, and the fault that ended them. -/
structure Stretch where
  state : BoundIdentity
  reads : List (Option Authentication) := []
  left : List (Option Authentication × Option Authentication) := []
  fault : Option StepFault := none

/-- Goes on where a stretch ended, unless a fault ended it. -/
def Stretch.andThen (x : Stretch) (next : BoundIdentity → Stretch) : Stretch :=
  match x.fault with
  | some _ => x
  | none =>
    let y := next x.state
    { y with reads := x.reads ++ y.reads, left := x.left ++ y.left }

mutual

def IdentityStep.perform : IdentityStep → BoundIdentity → Stretch
  | .read, b => { state := b, reads := [b.current] }
  | .set token who, b => { state := b.set token who }
  | .clear token, b =>
    match b.clear token with
    | .ok c => { state := c }
    | .error f => { state := b, fault := some (.restore f) }
  | .fail, b => { state := b, fault := some .raised }
  | .attempt steps, b => { performAll steps b with fault := none }
  | .block who steps, b =>
    let inside := performAll steps (b.enter who)
    match inside.state.exit with
    | .ok c => { inside with state := c, left := inside.left ++ [(b.current, c.current)] }
    | .error f => { inside with fault := some (.restore f) }
termination_by structural step => step

def performAll : List IdentityStep → BoundIdentity → Stretch
  | [], b => { state := b }
  | step :: steps, b => (step.perform b).andThen (performAll steps)
termination_by structural steps => steps

end

/-- A block with a token of its own, which is set before the steps and cleared when they end, in whatever way. -/
def tokenBlock (token : String) (who : Option Authentication) (steps : List IdentityStep) (b : BoundIdentity) :
    Stretch :=
  let inside := performAll steps (b.set token who)
  match inside.state.clear token with
  | .ok c => { inside with state := c, left := inside.left ++ [(b.current, c.current)] }
  | .error f => { inside with fault := some (.restore f) }

mutual

/-- The tokens that a step sets or clears. -/
def IdentityStep.tokens : IdentityStep → List String
  | .read | .fail => []
  | .set token _ | .clear token => [token]
  | .attempt steps | .block _ steps => tokensAll steps
termination_by structural step => step

def tokensAll : List IdentityStep → List String
  | [] => []
  | step :: steps => step.tokens ++ tokensAll steps
termination_by structural steps => steps

end

mutual

/-- Whether a step sets or restores an identity itself, and not in a block of its own. -/
def IdentityStep.changes : IdentityStep → Bool
  | .set .. | .clear _ => true
  | .attempt steps => changesAny steps
  | .read | .fail | .block .. => false
termination_by structural step => step

def changesAny : List IdentityStep → Bool
  | [] => false
  | step :: steps => step.changes || changesAny steps
termination_by structural steps => steps

end

namespace BoundIdentity

variable {b c : BoundIdentity} {token : String} {who : Option Authentication}

/-- A token that is entered anew takes the place of the old one; other tokens keep theirs. -/
theorem lookup_entered {β : Type} (ts : List (String × β)) (t u : String) (v : β) :
    ((t, v) :: ts.filter fun e => e.1 != t).lookup u = if u = t then some v else ts.lookup u := by
  by_cases hu : u = t
  · simp [hu]
  · rw [List.lookup_cons, beq_false_of_ne hu, if_neg hu]
    induction ts with
    | nil => rfl
    | cons e ts ih =>
      obtain ⟨k, w⟩ := e
      by_cases hk : k = t
      · subst hk
        rw [List.filter_cons_of_neg (by simp), List.lookup_cons, beq_false_of_ne hu]
        exact ih
      · rw [List.filter_cons_of_pos (by simpa using hk), List.lookup_cons, List.lookup_cons]
        dsimp only at ih
        rw [ih]

theorem clear_of_lookup {before : Option Authentication} (h : b.tokens.lookup token = some (before, false)) :
    b.clear token =
      .ok { b.bind before with
        tokens := (token, before, true) :: b.tokens.filter fun t => t.1 != token } := by
  simp only [clear, h]

theorem exit_of_blocks {before : Option Authentication} {blocks : List (Option Authentication)}
    (h : b.blocks = before :: blocks) : b.exit = .ok { b.bind before with blocks } := by
  simp only [exit, h]

theorem clear_blocks (h : b.clear token = .ok c) : c.blocks = b.blocks := by
  unfold clear at h
  split at h
  next => cases h
  next => cases h
  next =>
    cases h
    rfl

end BoundIdentity

theorem Stretch.andThen_fault {x : Stretch} {f : StepFault} (h : x.fault = some f)
    (next : BoundIdentity → Stretch) : x.andThen next = x := by
  simp only [andThen, h]

theorem Stretch.andThen_none {x : Stretch} (h : x.fault = none) (next : BoundIdentity → Stretch) :
    x.andThen next =
      { next x.state with reads := x.reads ++ (next x.state).reads, left := x.left ++ (next x.state).left } := by
  simp only [andThen, h]

theorem Stretch.andThen_state {P : BoundIdentity → Prop} {x : Stretch} {next : BoundIdentity → Stretch}
    (h : P x.state) (hnext : P x.state → P (next x.state).state) : P (x.andThen next).state := by
  cases hf : x.fault with
  | some f => rwa [andThen_fault hf]
  | none =>
    rw [andThen_none hf]
    exact hnext h

theorem perform_block {who : Option Authentication} {steps : List IdentityStep} {b : BoundIdentity}
    (h : (performAll steps (b.enter who)).state.blocks = (b.enter who).blocks) :
    (IdentityStep.block who steps).perform b =
      { performAll steps (b.enter who) with
        state := { (performAll steps (b.enter who)).state.bind b.current with blocks := b.blocks }
        left := (performAll steps (b.enter who)).left ++ [(b.current, b.current)] } := by
  simp only [IdentityStep.perform, BoundIdentity.exit_of_blocks h]
  rfl

-- Induction on the steps: a block opens one more and closes it again, and no other step touches open blocks.
mutual

theorem IdentityStep.perform_blocks : ∀ (step : IdentityStep) (b : BoundIdentity),
    (step.perform b).state.blocks = b.blocks
  | .read, _ | .set .., _ | .fail, _ => rfl
  | .clear token, b => by
    cases hc : b.clear token with
    | error f => simp only [IdentityStep.perform, hc]
    | ok c =>
      simp only [IdentityStep.perform, hc]
      exact BoundIdentity.clear_blocks hc
  | .attempt steps, b => performAll_blocks steps b
  | .block who steps, b => by rw [perform_block (performAll_blocks steps (b.enter who))]
termination_by structural step => step

theorem performAll_blocks : ∀ (steps : List IdentityStep) (b : BoundIdentity),
    (performAll steps b).state.blocks = b.blocks
  | [], _ => rfl
  | step :: steps, b =>
    Stretch.andThen_state (P := fun c => c.blocks = b.blocks) (step.perform_blocks b)
      fun h => (performAll_blocks steps _).trans h
termination_by structural steps => steps

end

/-- A block ends as its steps do, with the identity and the open blocks that it found. -/
theorem perform_block_eq (who : Option Authentication) (steps : List IdentityStep) (b : BoundIdentity) :
    (IdentityStep.block who steps).perform b =
      { performAll steps (b.enter who) with
        state := { (performAll steps (b.enter who)).state.bind b.current with blocks := b.blocks }
        left := (performAll steps (b.enter who)).left ++ [(b.current, b.current)] } :=
  perform_block (performAll_blocks steps (b.enter who))

mutual

theorem IdentityStep.perform_quiet : ∀ (step : IdentityStep) (b : BoundIdentity), step.changes = false →
    (step.perform b).state.current = b.current
  | .read, _, _ | .fail, _, _ => rfl
  | .set .., _, h | .clear _, _, h => by cases h
  | .attempt steps, b, h => performAll_quiet steps b h
  | .block who steps, b, _ => by
    rw [perform_block_eq]
    rfl
termination_by structural step => step

theorem performAll_quiet : ∀ (steps : List IdentityStep) (b : BoundIdentity), changesAny steps = false →
    (performAll steps b).state.current = b.current
  | [], _, _ => rfl
  | step :: steps, b, h => by
    obtain ⟨hstep, hsteps⟩ := Bool.or_eq_false_iff.mp h
    exact Stretch.andThen_state (P := fun c => c.current = b.current) (step.perform_quiet b hstep)
      fun hc => (performAll_quiet steps _ hsteps).trans hc
termination_by structural steps => steps

end

/-- Whether the identity after every block is the one that was bound before it. -/
def Stretch.Kept (x : Stretch) : Prop := ∀ e ∈ x.left, e.1 = e.2

theorem Stretch.Kept.andThen {x : Stretch} {next : BoundIdentity → Stretch} (h : x.Kept)
    (hnext : (next x.state).Kept) : (x.andThen next).Kept := by
  cases hf : x.fault with
  | some f => rwa [andThen_fault hf]
  | none =>
    rw [andThen_none hf]
    intro e he
    rcases List.mem_append.mp he with he | he
    · exact h e he
    · exact hnext e he

mutual

theorem IdentityStep.perform_kept : ∀ (step : IdentityStep) (b : BoundIdentity), (step.perform b).Kept
  | .read, _ | .set .., _ | .fail, _ => List.forall_mem_nil _
  | .clear token, b => by
    unfold IdentityStep.perform
    split <;> exact List.forall_mem_nil _
  | .attempt steps, b => performAll_kept steps b
  | .block who steps, b => by
    rw [perform_block_eq]
    intro e he
    rcases List.mem_append.mp he with he | he
    · exact performAll_kept steps (b.enter who) e he
    · rw [List.mem_singleton.mp he]
termination_by structural step => step

theorem performAll_kept : ∀ (steps : List IdentityStep) (b : BoundIdentity), (performAll steps b).Kept
  | [], _ => List.forall_mem_nil _
  | step :: steps, b => (step.perform_kept b).andThen (performAll_kept steps _)
termination_by structural steps => steps

end

/-- Whether two states differ at most in open blocks and in what they know of one token. -/
structure BoundIdentity.Agree (token : String) (b c : BoundIdentity) : Prop where
  current : b.current = c.current
  tokens : ∀ t, t ≠ token → b.tokens.lookup t = c.tokens.lookup t

/-- Whether two stretches differ at most so in the states that they leave. -/
structure Stretch.Agree (token : String) (x y : Stretch) : Prop where
  state : x.state.Agree token y.state
  reads : x.reads = y.reads
  left : x.left = y.left
  fault : x.fault = y.fault

namespace BoundIdentity.Agree

variable {token : String} {b c : BoundIdentity}

theorem set (h : b.Agree token c) (t : String) (who : Option Authentication) :
    (b.set t who).Agree token (c.set t who) := by
  refine ⟨rfl, fun u hu => ?_⟩
  simp only [BoundIdentity.set, lookup_entered, h.current, h.tokens u hu]

theorem restored (h : b.Agree token c) (t : String) (before : Option Authentication) :
    { b.bind before with tokens := (t, before, true) :: b.tokens.filter fun e => e.1 != t }.Agree token
      { c.bind before with tokens := (t, before, true) :: c.tokens.filter fun e => e.1 != t } := by
  refine ⟨rfl, fun u hu => ?_⟩
  simp only [lookup_entered, h.tokens u hu]

end BoundIdentity.Agree

theorem Stretch.Agree.andThen {token : String} {x y : Stretch} {k l : BoundIdentity → Stretch}
    (h : x.Agree token y) (hk : x.state.Agree token y.state → (k x.state).Agree token (l y.state)) :
    (x.andThen k).Agree token (y.andThen l) := by
  cases hf : x.fault with
  | some f => rwa [andThen_fault hf, andThen_fault (h.fault ▸ hf)]
  | none =>
    rw [andThen_none hf, andThen_none (h.fault ▸ hf)]
    have hrest := hk h.state
    exact ⟨hrest.state, congrArg₂ _ h.reads hrest.reads, congrArg₂ _ h.left hrest.left, hrest.fault⟩

-- Steps that never name a token cannot tell states apart that differ in it.
mutual

theorem IdentityStep.perform_agree {token : String} : ∀ (step : IdentityStep) {b c : BoundIdentity},
    token ∉ step.tokens → b.Agree token c → (step.perform b).Agree token (step.perform c)
  | .read, _, _, _, h => ⟨h, congrArg (fun who => [who]) h.current, rfl, rfl⟩
  | .set t who, _, _, _, h => ⟨h.set t who, rfl, rfl, rfl⟩
  | .fail, _, _, _, h => ⟨h, rfl, rfl, rfl⟩
  | .clear t, b, c, ht, h => by
    have hlookup := h.tokens t fun heq => ht (List.mem_singleton.mpr heq.symm)
    simp only [IdentityStep.perform, BoundIdentity.clear, ← hlookup]
    rcases b.tokens.lookup t with _ | ⟨before, _ | _⟩
    · exact ⟨h, rfl, rfl, rfl⟩
    · exact ⟨h.restored t before, rfl, rfl, rfl⟩
    · exact ⟨h, rfl, rfl, rfl⟩
  | .attempt steps, _, _, ht, h =>
    have hall := performAll_agree steps ht h
    ⟨hall.state, hall.reads, hall.left, rfl⟩
  | .block who steps, b, c, ht, h => by
    have hall := performAll_agree (b := b.enter who) (c := c.enter who) steps ht ⟨rfl, h.tokens⟩
    rw [perform_block_eq, perform_block_eq]
    refine ⟨⟨h.current, hall.state.tokens⟩, hall.reads, ?_, hall.fault⟩
    rw [h.current]
    exact congrArg (· ++ _) hall.left
termination_by structural step => step

theorem performAll_agree {token : String} : ∀ (steps : List IdentityStep) {b c : BoundIdentity},
    token ∉ tokensAll steps → b.Agree token c → (performAll steps b).Agree token (performAll steps c)
  | [], _, _, _, h => ⟨h, rfl, rfl, rfl⟩
  | step :: steps, _, _, ht, h => by
    obtain ⟨hstep, hsteps⟩ := not_or.mp (mt List.mem_append.mpr ht)
    exact (step.perform_agree hstep h).andThen (performAll_agree steps hsteps)
termination_by structural steps => steps

end

mutual

/-- Steps keep what a token that they do not name can restore. -/
theorem IdentityStep.perform_token {token : String} : ∀ (step : IdentityStep) (b : BoundIdentity),
    token ∉ step.tokens → (step.perform b).state.tokens.lookup token = b.tokens.lookup token
  | .read, _, _ | .fail, _, _ => rfl
  | .set t who, b, ht => by
    have hne : token ≠ t := fun heq => ht (List.mem_singleton.mpr heq)
    simp only [IdentityStep.perform, BoundIdentity.set, BoundIdentity.lookup_entered, if_neg hne]
  | .clear t, b, ht => by
    have hne : token ≠ t := fun heq => ht (List.mem_singleton.mpr heq)
    simp only [IdentityStep.perform, BoundIdentity.clear]
    rcases b.tokens.lookup t with _ | ⟨before, _ | _⟩
    · rfl
    · simp only [BoundIdentity.lookup_entered, if_neg hne]
    · rfl
  | .attempt steps, b, ht => performAll_token steps b ht
  | .block who steps, b, ht => by
    rw [perform_block_eq]
    exact performAll_token steps (b.enter who) ht
termination_by structural step => step

theorem performAll_token {token : String} : ∀ (steps : List IdentityStep) (b : BoundIdentity),
    token ∉ tokensAll steps → (performAll steps b).state.tokens.lookup token = b.tokens.lookup token
  | [], _, _ => rfl
  | step :: steps, b, ht => by
    obtain ⟨hstep, hsteps⟩ := not_or.mp (mt List.mem_append.mpr ht)
    exact Stretch.andThen_state (P := fun c => c.tokens.lookup token = b.tokens.lookup token)
      (step.perform_token b hstep) fun hc => (performAll_token steps _ hsteps).trans hc
termination_by structural steps => steps

end

theorem tokenBlock_agree {token : String} {steps : List IdentityStep} (ht : token ∉ tokensAll steps)
    (who : Option Authentication) (b : BoundIdentity) :
    (tokenBlock token who steps b).Agree token ((IdentityStep.block who steps).perform b) := by
  have hentered : (b.set token who).Agree token (b.enter who) := by
    refine ⟨rfl, fun t hne => ?_⟩
    simp only [BoundIdentity.set, BoundIdentity.lookup_entered, if_neg hne]
    rfl
  have hinside := performAll_agree steps ht hentered
  have htoken : (performAll steps (b.set token who)).state.tokens.lookup token = some (b.current, false) :=
    (performAll_token steps _ ht).trans List.lookup_cons_self
  rw [perform_block_eq]
  simp only [tokenBlock, BoundIdentity.clear_of_lookup htoken]
  refine ⟨⟨rfl, fun t hne => ?_⟩, hinside.reads, congrArg (· ++ _) hinside.left, hinside.fault⟩
  simp only [BoundIdentity.lookup_entered, if_neg hne]
  exact hinside.state.tokens t hne

/-- In a block the given identity is bound until a step of the block itself sets or restores one, and after it
the identity that was bound before, however the steps end; the block adds no fault of its own. So it is for
every block in it, at any depth, for blocks that are made of a token that the steps do not name, and for
computations that do other things besides. -/
theorem block_left_as_entered (who : Option Authentication) (steps : List IdentityStep) (b : BoundIdentity) :
    (∀ first rest, steps = first ++ rest → changesAny first = false →
      (performAll first (b.enter who)).state.current = who) ∧
    ((IdentityStep.block who steps).perform b).state.current = b.current ∧
    ((IdentityStep.block who steps).perform b).state.blocks = b.blocks ∧
    ((IdentityStep.block who steps).perform b).fault = (performAll steps (b.enter who)).fault ∧
    ((IdentityStep.block who steps).perform b).Kept ∧
    (∀ token, token ∉ tokensAll steps →
      (tokenBlock token who steps b).Agree token ((IdentityStep.block who steps).perform b)) ∧
    ∀ {σ α : Type} (x : Run (Bound σ) α) (s : σ),
      ∃ inside : Bound σ, inside.identity.current = who ∧
        (Bound.during who x).outcome ⟨s, b⟩ =
          ((x.outcome inside).1, (x.outcome inside).2.bind b.current) := by
  refine ⟨?_, ?_, IdentityStep.perform_blocks _ b, ?_, IdentityStep.perform_kept _ b, ?_, ?_⟩
  · intro first rest _ hquiet
    exact performAll_quiet first (b.enter who) hquiet
  · rw [perform_block_eq]
    rfl
  · rw [perform_block_eq]
  · intro token ht
    exact tokenBlock_agree ht who b
  · intro σ α x s
    exact ⟨(⟨s, b⟩ : Bound σ).bind who, rfl, Bound.outcome_during who x ⟨s, b⟩⟩

def clerk : Authentication := { Authentication.anonymousUser with name := some "clerk", anonymous := false }

/-- Steps that fail in a block, go on, and end with a token that was used. -/
def carelessSteps : List IdentityStep :=
  [.read, .attempt [.block none [.set "inner" (some .anonymousUser), .fail]], .read,
   .set "mine" none, .clear "mine", .set "kept" none, .clear "mine"]

theorem careless_block_left_as_entered :
    (performAll (carelessSteps.take 3) (BoundIdentity.enter {} (some clerk))).state.current = some clerk ∧
      ((IdentityStep.block (some clerk) carelessSteps).perform {}).state.current = none ∧
      ((IdentityStep.block (some clerk) carelessSteps).perform {}).fault = some (.restore .tokenUsed) ∧
      (tokenBlock "own" (some clerk) carelessSteps {}).Agree "own"
        ((IdentityStep.block (some clerk) carelessSteps).perform {}) := by
  obtain ⟨hfirst, hcurrent, _, hfault, _, htoken, _⟩ := block_left_as_entered (some clerk) carelessSteps {}
  refine ⟨hfirst _ (carelessSteps.drop 3) (List.take_append_drop 3 carelessSteps).symm rfl, hcurrent, ?_, ?_⟩
  · rw [hfault]
    rfl
  · exact htoken "own" (by decide)

end AccessPolicy
