import Mathlib.Algebra.GroupWithZero.Nat
import AccessPolicy.Expr.Grammar

/-!
Readers that find at least what others find. Every reader takes tokens off the front only. How much they weigh tells
how deep the brackets, words and signs among them can nest.
-/

namespace AccessPolicy

namespace Token

/-- The characters that a token has at least. Only those are counted that what follows may nest in. -/
def weight : Token → Nat
  | .name s | .op s => s.length
  | .text t => t.body.length + 2
  | .literal _ | .newline | .indent | .dedent => 0

def weights (ts : List Token) : Nat := (ts.map weight).sum

@[simp] theorem weights_nil : weights [] = 0 := rfl

@[simp] theorem weights_cons (t : Token) (ts : List Token) : weights (t :: ts) = t.weight + weights ts := by
  simp [weights]

theorem weights_append (ts us : List Token) : weights (ts ++ us) = weights ts + weights us := by
  simp [weights]

theorem weights_suffix {ts us : List Token} (h : ts <:+ us) : weights ts ≤ weights us := by
  obtain ⟨before, rfl⟩ := h
  rw [weights_append]
  omega

theorem weight_le_of_mem {t : Token} {ts : List Token} (h : t ∈ ts) : t.weight ≤ weights ts := by
  obtain ⟨before, after, rfl⟩ := List.mem_iff_append.mp h
  rw [weights_append, weights_cons]
  omega

end Token

namespace Reader

variable {α β : Type} {k : Nat} {ts : List Token} {s : String}

/-- A reader takes tokens off the front only, and of those at least the weight that goes with its answer. -/
def Takes (r : Reader α) (cost : α → Nat) : Prop :=
  ∀ ts a rest, r.run ts = some (a, rest) → rest <:+ ts ∧ Token.weights rest + cost a ≤ Token.weights ts

/-- What a reader finds in some tokens, another finds there too, and both take tokens off the front only. -/
def CoversAt (ts : List Token) (r r' : Reader α) : Prop :=
  ∀ a rest, r.run ts = some (a, rest) → r'.run ts = some (a, rest) ∧ rest <:+ ts

/-- What a reader finds in tokens of less than some weight, another finds there too. -/
def Covers (k : Nat) (r r' : Reader α) : Prop := ∀ ts, Token.weights ts < k → CoversAt ts r r'

theorem run_bind (r : Reader α) (f : α → Reader β) (ts : List Token) :
    (r >>= f).run ts = (r.run ts).bind fun x => (f x.1).run x.2 := rfl

theorem run_bind_eq_some {r : Reader α} {f : α → Reader β} {b : β} {rest : List Token} :
    (r >>= f).run ts = some (b, rest) ↔
      ∃ a between, r.run ts = some (a, between) ∧ (f a).run between = some (b, rest) := by
  rw [run_bind, Option.bind_eq_some_iff]
  exact Prod.exists

theorem run_bind_none {r : Reader α} {f : α → Reader β} (h : r.run ts = none) : (r >>= f).run ts = none := by
  rw [run_bind, h]
  rfl

theorem run_bind_some {r : Reader α} {f : α → Reader β} {a : α} {us : List Token} (h : r.run ts = some (a, us)) :
    (r >>= f).run ts = (f a).run us := by
  rw [run_bind, h]
  rfl

@[simp] theorem run_get : (get : Reader (List Token)).run ts = some (ts, ts) := rfl

@[simp] theorem run_peek : peek.run ts = some (ts.head?, ts) := rfl

/-! What readers that look at the next token only find -/

/-- Whether a token is the operator `s`. -/
def isOp (s : String) : Token → Bool
  | .op o => o == s
  | _ => false

/-- Whether a token is the word `s`. -/
def isWord (s : String) : Token → Bool
  | .name w => w == s
  | _ => false

theorem run_atOp (s : String) (ts : List Token) : (atOp s).run ts = some (ts.head?.any (isOp s), ts) := by
  unfold atOp
  rw [run_bind, run_peek]
  rcases ts with - | ⟨t, ts⟩
  · rfl
  · cases t <;> rfl

theorem run_atWord (s : String) (ts : List Token) : (atWord s).run ts = some (ts.head?.any (isWord s), ts) := by
  unfold atWord
  rw [run_bind, run_peek]
  rcases ts with - | ⟨t, ts⟩
  · rfl
  · cases t <;> rfl

theorem run_tryOp (s : String) (ts : List Token) :
    (tryOp s).run ts = some (ts.head?.any (isOp s), if ts.head?.any (isOp s) then ts.tail else ts) := by
  unfold tryOp
  rw [run_bind, run_atOp]
  cases h : ts.head?.any (isOp s) <;> rfl

theorem run_tryWord (s : String) (ts : List Token) :
    (tryWord s).run ts = some (ts.head?.any (isWord s), if ts.head?.any (isWord s) then ts.tail else ts) := by
  unfold tryWord
  rw [run_bind, run_atWord]
  cases h : ts.head?.any (isWord s) <;> rfl

/-! Repetitions -/

section Repetition

variable {step : α → Reader (Option α)} {a b : α} {us : List Token}

theorem repeatWhile_keeps {P : α → Prop}
    (hstep : ∀ a b ts us, P a → (step a).run ts = some (some b, us) → P b) (n : Nat) (ha : P a)
    (h : (repeatWhile.go step n a).run ts = some (b, us)) : P b := by
  induction n generalizing a ts with
  | zero =>
    cases h
    exact ha
  | succ n ih =>
    obtain ⟨next, between, hnext, h⟩ := run_bind_eq_some.mp h
    cases next with
    | none =>
      cases h
      exact ha
    | some c => exact ih (hstep a c ts between ha hnext) h

theorem repeatWhile_stops (n : Nat) (h : (step a).run ts = some (none, ts)) :
    (repeatWhile.go step n a).run ts = some (a, ts) := by
  cases n with
  | zero => rfl
  | succ n =>
    rw [repeatWhile.go, run_bind_some h]
    rfl

end Repetition

/-! Readers that call no others -/

namespace Takes

theorem weaken {r : Reader α} {cost cheaper : α → Nat} (h : Takes r cost) (hle : ∀ a, cheaper a ≤ cost a) :
    Takes r cheaper := by
  intro ts a rest hr
  obtain ⟨hsuffix, hweights⟩ := h ts a rest hr
  have hle := hle a
  exact ⟨hsuffix, by omega⟩

theorem pure (a : α) : Takes (Pure.pure a : Reader α) fun _ => 0 := by
  intro ts b rest h
  cases h
  exact ⟨List.suffix_refl _, Nat.le_refl _⟩

theorem failure (cost : α → Nat) : Takes (Alternative.failure : Reader α) cost := by
  intro ts a rest h
  cases h

theorem bind {r : Reader α} {f : α → Reader β} {cost : α → Nat} {later : β → Nat} (hr : Takes r cost)
    (hf : ∀ a, Takes (f a) fun b => later b - cost a) : Takes (r >>= f) later := by
  intro ts b rest h
  obtain ⟨a, between, ha, hb⟩ := run_bind_eq_some.mp h
  obtain ⟨hsuffix, hweights⟩ := hr ts a between ha
  obtain ⟨hsuffix', hweights'⟩ := hf a between b rest hb
  dsimp only at hweights'
  exact ⟨hsuffix'.trans hsuffix, by omega⟩

theorem peek : Takes peek fun _ => 0 := by
  intro ts a rest h
  cases h
  exact ⟨List.suffix_refl _, Nat.le_refl _⟩

theorem skip : Takes skip fun _ => 0 := by
  intro ts a rest h
  cases h
  have hsuffix : ts.tail <:+ ts := List.tail_suffix ts
  exact ⟨hsuffix, Token.weights_suffix hsuffix⟩

theorem atOp (s : String) : Takes (atOp s) fun _ => 0 := by
  intro ts a rest h
  rw [run_atOp] at h
  cases h
  exact ⟨List.suffix_refl _, Nat.le_refl _⟩

theorem atWord (s : String) : Takes (atWord s) fun _ => 0 := by
  intro ts a rest h
  rw [run_atWord] at h
  cases h
  exact ⟨List.suffix_refl _, Nat.le_refl _⟩

theorem tried {found : Bool} (is : Token → Bool) (hweight : ∀ t, is t = true → t.weight = s.length)
    (hfound : found = ts.head?.any is) : (if found then ts.tail else ts) <:+ ts ∧
      Token.weights (if found then ts.tail else ts) + (if found then s.length else 0) ≤ Token.weights ts := by
  subst hfound
  rcases ts with - | ⟨t, ts⟩
  · exact ⟨List.suffix_refl _, Nat.le_refl _⟩
  · cases h : is t with
    | false => simp [h]
    | true => simp [h, hweight t h, Nat.add_comm]

theorem tryOp (s : String) : Takes (tryOp s) fun found => if found then s.length else 0 := by
  intro ts a rest h
  rw [run_tryOp] at h
  cases h
  refine tried (isOp s) (fun t ht => ?_) rfl
  cases t <;> simp_all [isOp, Token.weight]

theorem tryWord (s : String) : Takes (tryWord s) fun found => if found then s.length else 0 := by
  intro ts a rest h
  rw [run_tryWord] at h
  cases h
  refine tried (isWord s) (fun t ht => ?_) rfl
  cases t <;> simp_all [isWord, Token.weight]

theorem op (s : String) : Takes (op s) fun _ => s.length := by
  refine bind (tryOp s) fun found => ?_
  cases found with
  | false => exact failure _
  | true => exact weaken (pure ()) fun _ => by simp

theorem word (s : String) : Takes (word s) fun _ => s.length := by
  refine bind (tryWord s) fun found => ?_
  cases found with
  | false => exact failure _
  | true => exact weaken (pure ()) fun _ => by simp

theorem name : Takes name fun _ => 0 := by
  unfold Reader.name
  refine bind peek fun t => ?_
  rcases t with - | t
  · exact failure _
  · cases t with
    | name w =>
      dsimp only
      split
      · exact failure _
      · exact bind skip fun _ => pure w
    | literal | text | op | newline | indent | dedent => exact failure _

end Takes

/-! Readers that call others -/

namespace CoversAt

variable {r r' : Reader α}

theorem failure : CoversAt ts (Alternative.failure : Reader α) r' := by
  intro a rest h
  cases h

theorem pure (a : α) : CoversAt ts (Pure.pure a : Reader α) (Pure.pure a) := by
  intro b rest h
  cases h
  exact ⟨rfl, List.suffix_refl _⟩

/-- What is read after the tokens were replaced by others from their end. -/
theorem set {us : List Token} (hsuffix : us <:+ ts) (h : CoversAt us r r') :
    CoversAt ts (MonadStateOf.set us >>= fun _ => r) (MonadStateOf.set us >>= fun _ => r') := by
  intro a rest ha
  obtain ⟨ha', hsuffix'⟩ := h a rest ha
  exact ⟨ha', hsuffix'.trans hsuffix⟩

theorem get {f f' : List Token → Reader α} (h : CoversAt ts (f ts) (f' ts)) :
    CoversAt ts (MonadState.get >>= f) (MonadState.get >>= f') := fun a rest ha => h a rest ha

theorem of_takes {cost : α → Nat} (h : Takes r cost) : CoversAt ts r r := fun a rest hr =>
  ⟨hr, (h ts a rest hr).1⟩

theorem bind {f f' : α → Reader β} (hr : CoversAt ts r r')
    (hf : ∀ a rest, rest <:+ ts → CoversAt rest (f a) (f' a)) : CoversAt ts (r >>= f) (r' >>= f') := by
  intro b rest h
  obtain ⟨a, between, ha, hb⟩ := run_bind_eq_some.mp h
  obtain ⟨ha', hsuffix⟩ := hr a between ha
  obtain ⟨hb', hsuffix'⟩ := hf a between hsuffix b rest hb
  exact ⟨run_bind_eq_some.mpr ⟨a, between, ha', hb'⟩, hsuffix'.trans hsuffix⟩

theorem guard {c : Prop} [Decidable c] (h : CoversAt ts r r') :
    CoversAt ts (if c then Alternative.failure >>= fun _ : Unit => r else r)
      (if c then Alternative.failure >>= fun _ : Unit => r' else r') := by
  split
  · exact failure
  · exact h

end CoversAt

namespace Covers

variable {r r' : Reader α} {f f' : α → Reader β}

theorem mono {j : Nat} (h : Covers k r r') (hle : j ≤ k) : Covers j r r' := fun ts hweights =>
  h ts (Nat.lt_of_lt_of_le hweights hle)

theorem failure : Covers k (Alternative.failure : Reader α) r' := by
  intro ts _ a rest h
  cases h

theorem pure (a : α) : Covers k (Pure.pure a : Reader α) (Pure.pure a) := by
  intro ts _ b rest h
  exact ⟨h, by cases h; exact List.suffix_refl _⟩

theorem of_takes {cost : α → Nat} (h : Takes r cost) : Covers k r r := fun _ _ => CoversAt.of_takes h

theorem bind (hr : Covers k r r') (hf : ∀ a, Covers k (f a) (f' a)) : Covers k (r >>= f) (r' >>= f') := by
  intro ts hweights
  refine CoversAt.bind (hr ts hweights) fun a rest hsuffix => hf a rest ?_
  have hless := Token.weights_suffix hsuffix
  omega

theorem get {f f' : List Token → Reader α} (h : ∀ ts, Token.weights ts < k → CoversAt ts (f ts) (f' ts)) :
    Covers k (MonadState.get >>= f) (MonadState.get >>= f') := fun ts hweights => CoversAt.get (h ts hweights)

/-- What is read after something was taken has less weight left. -/
theorem after {cost : α → Nat} (hr : Takes r cost) (hf : ∀ a, Covers (k - cost a) (f a) (f' a)) :
    Covers k (r >>= f) (r >>= f') := by
  intro ts hweights b rest h
  obtain ⟨a, between, ha, hb⟩ := run_bind_eq_some.mp h
  obtain ⟨hsuffix, hless⟩ := hr ts a between ha
  obtain ⟨hb', hsuffix'⟩ := hf a between (by omega) b rest hb
  exact ⟨run_bind_eq_some.mpr ⟨a, between, ha, hb'⟩, hsuffix'.trans hsuffix⟩

theorem ite {c : Prop} [Decidable c] {t t' : Reader α} (h : Covers k r r') (ht : Covers k t t') :
    Covers k (if c then r else t) (if c then r' else t') := by
  split
  · exact h
  · exact ht

theorem guard {c : Prop} [Decidable c] {t t' : Reader α} (ht : Covers k t t') :
    Covers k (if c then Alternative.failure >>= fun _ : Unit => t else t)
      (if c then Alternative.failure >>= fun _ : Unit => t' else t') := by
  refine ite (bind failure fun _ => ht) ht

theorem ifOp {t t' : Reader α} (hs : 0 < s.length) (h : Covers (k - 1) r r') (ht : Covers k t t') :
    Covers k (tryOp s >>= fun found => if found = true then r else t)
      (tryOp s >>= fun found => if found = true then r' else t') := by
  refine after (Takes.tryOp s) fun found => ?_
  cases found with
  | false => exact ht
  | true => exact h.mono (by simp; omega)

theorem ifWord {t t' : Reader α} (hs : 0 < s.length) (h : Covers (k - 1) r r') (ht : Covers k t t') :
    Covers k (tryWord s >>= fun found => if found = true then r else t)
      (tryWord s >>= fun found => if found = true then r' else t') := by
  refine after (Takes.tryWord s) fun found => ?_
  cases found with
  | false => exact ht
  | true => exact h.mono (by simp; omega)

theorem repeatWhile {step step' : α → Reader (Option α)} (h : ∀ a, Covers k (step a) (step' a)) (a : α) :
    Covers k (Reader.repeatWhile step a) (Reader.repeatWhile step' a) := by
  have hgo : ∀ n a, Covers k (Reader.repeatWhile.go step n a) (Reader.repeatWhile.go step' n a) := by
    intro n
    induction n with
    | zero => exact fun a => pure a
    | succ n ih =>
      intro a
      refine bind (h a) fun next => ?_
      cases next with
      | none => exact pure a
      | some b => exact ih b
  intro ts hweights b rest hb
  exact hgo ts.length a ts hweights b rest hb

theorem commaTail {atEnd : Reader Bool} {cost : Bool → Nat} (hend : Takes atEnd cost) (h : Covers k r r')
    (first : α) : Covers k (Reader.commaTail atEnd r first) (Reader.commaTail atEnd r' first) := by
  refine bind (repeatWhile (fun sofar => ?_) _) fun _ => pure _
  obtain ⟨items, comma, more⟩ := sofar
  refine ite (pure none) ?_
  refine ifOp (by decide) (bind (of_takes hend) fun _ => ite (pure _) ?_) (pure none)
  exact bind (h.mono (Nat.sub_le k 1)) fun _ => pure _

theorem leftAssoc {operand operand' : Reader Expr} (ops : List (String × BinaryOp)) (h : Covers k operand operand') :
    Covers k (Reader.leftAssoc ops operand) (Reader.leftAssoc ops operand') := by
  refine bind h fun first => repeatWhile (fun left => after Takes.peek fun t => ?_) first
  split
  · split
    · exact after Takes.skip fun _ => bind h fun _ => pure _
    · exact pure none
  · exact pure none

theorem connectedBy {operand operand' : Reader Expr} (w : String) (c : Connective) (h : Covers k operand operand') :
    Covers k (Reader.connectedBy w c operand) (Reader.connectedBy w c operand') := by
  refine bind h fun first => bind (repeatWhile (fun acc => ?_) _) fun operands => ?_
  · refine after (Takes.tryWord w) fun found => ?_
    refine ite (bind (h.mono (Nat.sub_le _ _)) fun _ => pure _) (pure none)
  · split <;> exact pure _

end Covers

end Reader

end AccessPolicy
