import AccessPolicy.Guard
import AccessPolicy.Proofs.Subexpressions

/-!
The scopes of names. A comprehension has a scope of its own for its targets, in which everything but its
first iterable stands; a function has one for its parameters and for what its body assigns. What an
expression mentions in other scopes than its own does not reach the scope around it.
-/

namespace AccessPolicy

/-- Whether a mention is a read of one of some names. -/
def Mention.reads (names : List String) : Mention → Bool
  | .read n => names.contains n
  | .bound _ => false

mutual

def Expr.targetNames : Expr → List String
  | .name n => [n]
  | .tuple es => targetNamesAll es
  | .list es => targetNamesAll es
  | .starred e => e.targetNames
  | _ => []
termination_by structural e => e

def targetNamesAll : List Expr → List String
  | [] => []
  | e :: es => e.targetNames ++ targetNamesAll es
termination_by structural es => es

end

def clauseNames : List Generator → List String
  | [] => []
  | .mk target _ _ :: gs => target.targetNames ++ clauseNames gs

mutual

/-- The mentions of an expression that reach the scope around it. -/
def Expr.outward : Expr → List Mention
  | .literal _ => []
  | .name n => [.read n]
  | .attribute base _ => base.outward
  | .subscript base index => base.outward ++ index.outward
  | .slice lower upper step => outwardMaybe lower ++ outwardMaybe upper ++ outwardMaybe step
  | .call callee args keywords => callee.outward ++ outwardAll args ++ outwardKeywords keywords
  | .unary _ e => e.outward
  | .binary _ a b => a.outward ++ b.outward
  | .connected _ es => outwardAll es
  | .compared e rest => e.outward ++ outwardCompared rest
  | .conditional test body orelse => test.outward ++ body.outward ++ orelse.outward
  | .list es => outwardAll es
  | .tuple es => outwardAll es
  | .set es => outwardAll es
  | .dict items => outwardItems items
  | .starred e => e.outward
  | .comprehension _ e clauses =>
    outwardFirst clauses ++ (e.outward ++ outwardInner clauses).filter fun m => !m.reads (clauseNames clauses)
  | .dictComprehension k v clauses =>
    outwardFirst clauses ++
      (k.outward ++ v.outward ++ outwardInner clauses).filter fun m => !m.reads (clauseNames clauses)
  | .interpolated pieces => outwardPieces pieces
  | .lambda parameters defaults body =>
    outwardAll defaults ++ body.outward.filter fun
      | .read n => !parameters.contains n && !body.outward.contains (.bound n)
      | .bound _ => false
  | .await e => e.outward
  | .yield e => outwardMaybe e
  | .yieldFrom e => e.outward
  | .assignment n e => .bound n :: e.outward
termination_by structural e => e

/-- What the target of a `for` clause mentions besides the names that it binds. -/
def Expr.outwardTarget : Expr → List Mention
  | .tuple es => outwardTargets es
  | .list es => outwardTargets es
  | .starred e => e.outwardTarget
  | .attribute base _ => base.outward
  | .subscript base index => base.outward ++ index.outward
  | _ => []
termination_by structural e => e

def outwardTargets : List Expr → List Mention
  | [] => []
  | e :: es => e.outwardTarget ++ outwardTargets es
termination_by structural es => es

def outwardAll : List Expr → List Mention
  | [] => []
  | e :: es => e.outward ++ outwardAll es
termination_by structural es => es

def outwardMaybe : Option Expr → List Mention
  | none => []
  | some e => e.outward
termination_by structural e => e

def outwardKeywords : List Keyword → List Mention
  | [] => []
  | .mk _ e :: ks => e.outward ++ outwardKeywords ks
termination_by structural ks => ks

def outwardCompared : List Comparison → List Mention
  | [] => []
  | .mk _ e :: cs => e.outward ++ outwardCompared cs
termination_by structural cs => cs

def outwardItems : List DictItem → List Mention
  | [] => []
  | .entry k v :: items => k.outward ++ v.outward ++ outwardItems items
  | .spread e :: items => e.outward ++ outwardItems items
termination_by structural items => items

/-- The first iterable of a comprehension stands in the scope around it. -/
def outwardFirst : List Generator → List Mention
  | [] => []
  | .mk _ iterable _ :: _ => iterable.outward
termination_by structural gs => gs

/-- What the clauses of a comprehension mention in its own scope. -/
def outwardInner : List Generator → List Mention
  | [] => []
  | .mk target _ conditions :: gs => target.outwardTarget ++ outwardAll conditions ++ outwardClauses gs
termination_by structural gs => gs

def outwardClauses : List Generator → List Mention
  | [] => []
  | .mk target iterable conditions :: gs =>
    target.outwardTarget ++ iterable.outward ++ outwardAll conditions ++ outwardClauses gs
termination_by structural gs => gs

def outwardPieces : List Piece → List Mention
  | [] => []
  | .text _ :: ps => outwardPieces ps
  | .field e layout :: ps => e.outward ++ outwardLayout layout ++ outwardPieces ps
termination_by structural ps => ps

def outwardLayout : Option (List Piece) → List Mention
  | none => []
  | some ps => outwardPieces ps
termination_by structural ps => ps

end

/-- Whether a name occurs free: it is read in the scope around the expression, and not assigned there. -/
def Expr.Free (e : Expr) (n : String) : Prop := .read n ∈ e.outward ∧ .bound n ∉ e.outward

instance (e : Expr) (n : String) : Decidable (e.Free n) := inferInstanceAs (Decidable (_ ∧ _))

def parametersAmong (es : List Expr) : List String := es.flatMap Expr.parameters

/-- How the mentions that reach a scope and all mentions of something with the subexpressions `subs` agree:
the former are among the latter, and a read that does not reach the scope is of a name that is bound
somewhere or a parameter. -/
structure Scoped (outward mentions : List Mention) (subs : List Expr) : Prop where
  sound : ∀ m ∈ outward, m ∈ mentions
  complete : ∀ n, .read n ∈ mentions → .read n ∈ outward ∨ .bound n ∈ mentions ∨ n ∈ parametersAmong subs

namespace Scoped

variable {o o' m m' : List Mention} {s s' : List Expr}

theorem none : Scoped [] [] s := ⟨by simp, by simp⟩

theorem under (h : Scoped o m s) (hs : ∀ e ∈ s, e ∈ s') : Scoped o m s' := by
  refine ⟨h.sound, ?_⟩
  intro n hn
  rcases h.complete n hn with hn | hn | hn
  · exact .inl hn
  · exact .inr (.inl hn)
  · obtain ⟨e, he, hn⟩ := List.mem_flatMap.mp hn
    exact .inr (.inr (List.mem_flatMap.mpr ⟨e, hs e he, hn⟩))

theorem inside (h : Scoped o m s) (e : Expr) : Scoped o m (e :: s) :=
  h.under fun _ => List.mem_cons_of_mem e

theorem append (h : Scoped o m s) (h' : Scoped o' m' s') : Scoped (o ++ o') (m ++ m') (s ++ s') := by
  have hleft : Scoped o m (s ++ s') := h.under fun _ => List.mem_append_left s'
  have hright : Scoped o' m' (s ++ s') := h'.under fun _ => List.mem_append_right s
  constructor
  · intro x hx
    rcases List.mem_append.mp hx with hx | hx
    · exact List.mem_append_left m' (h.sound x hx)
    · exact List.mem_append_right m (h'.sound x hx)
  · intro n hn
    rcases List.mem_append.mp hn with hn | hn
    · rcases hleft.complete n hn with hn | hn | hn
      · exact .inl (List.mem_append_left o' hn)
      · exact .inr (.inl (List.mem_append_left m' hn))
      · exact .inr (.inr hn)
    · rcases hright.complete n hn with hn | hn | hn
      · exact .inl (List.mem_append_right o hn)
      · exact .inr (.inl (List.mem_append_right m hn))
      · exact .inr (.inr hn)

/-- A scope of its own hides reads of names that it binds. -/
theorem narrow (h : Scoped o m s) (hsub : ∀ x ∈ o', x ∈ o)
    (hkept : ∀ n, .read n ∈ o → .read n ∈ o' ∨ .bound n ∈ m ∨ n ∈ parametersAmong s) : Scoped o' m s := by
  refine ⟨fun x hx => h.sound x (hsub x hx), ?_⟩
  intro n hn
  rcases h.complete n hn with hn | hn
  · exact hkept n hn
  · exact .inr hn

theorem bind (h : Scoped o m s) (n : String) : Scoped (.bound n :: o) (.bound n :: m) s := by
  constructor
  · intro x hx
    rcases List.mem_cons.mp hx with rfl | hx
    · exact List.mem_cons_self
    · exact List.mem_cons_of_mem _ (h.sound x hx)
  · intro k hk
    rcases h.complete k (by simpa using hk) with hk | hk | hk
    · exact .inl (List.mem_cons_of_mem _ hk)
    · exact .inr (.inl (List.mem_cons_of_mem _ hk))
    · exact .inr (.inr hk)

end Scoped

mutual

theorem targetNames_bound : ∀ e : Expr, ∀ n ∈ e.targetNames, .bound n ∈ e.targetMentions
  | .name m, n, h => by
    simp only [Expr.targetNames, List.mem_singleton] at h
    subst h
    exact List.mem_singleton_self _
  | .tuple es, n, h => targetNamesAll_bound es n h
  | .list es, n, h => targetNamesAll_bound es n h
  | .starred e, n, h => targetNames_bound e n h
termination_by structural e => e

theorem targetNamesAll_bound : ∀ es : List Expr, ∀ n ∈ targetNamesAll es, .bound n ∈ targetMentionsAll es
  | e :: es, n, h => by
    simp only [targetNamesAll, targetMentionsAll, List.mem_append] at h ⊢
    exact h.imp (targetNames_bound e n) (targetNamesAll_bound es n)
termination_by structural es => es

end

theorem clauseNames_bound : ∀ gs : List Generator, ∀ n ∈ clauseNames gs, .bound n ∈ mentionsClauses gs
  | .mk target iterable conditions :: gs, n, h => by
    simp only [clauseNames, mentionsClauses, List.mem_append] at h ⊢
    rcases h with h | h
    · exact .inl (.inl (.inl (targetNames_bound target n h)))
    · exact .inr (clauseNames_bound gs n h)

theorem mem_outwardClauses {gs : List Generator} {m : Mention} :
    m ∈ outwardClauses gs ↔ m ∈ outwardFirst gs ∨ m ∈ outwardInner gs := by
  cases gs with
  | nil => simp [outwardClauses, outwardFirst, outwardInner]
  | cons g gs =>
    obtain ⟨target, iterable, conditions⟩ := g
    simp only [outwardClauses, outwardFirst, outwardInner, List.mem_append]
    grind

theorem Scoped.comprehension {o m : List Mention} {s s' : List Expr} {gs : List Generator}
    (h : Scoped o m s) (hg : Scoped (outwardClauses gs) (mentionsClauses gs) s') :
    Scoped (outwardFirst gs ++ (o ++ outwardInner gs).filter fun m => !m.reads (clauseNames gs))
      (m ++ mentionsClauses gs) (s ++ s') := by
  apply (h.append hg).narrow
  · intro x hx
    rw [List.mem_append, mem_outwardClauses]
    rcases List.mem_append.mp hx with hx | hx
    · exact .inr (.inl hx)
    · rcases List.mem_append.mp (List.mem_filter.mp hx).1 with hx | hx
      · exact .inl hx
      · exact .inr (.inr hx)
  · intro n hn
    by_cases hb : n ∈ clauseNames gs
    · exact .inr (.inl (List.mem_append_right m (clauseNames_bound gs n hb)))
    · rw [List.mem_append, mem_outwardClauses] at hn
      have hvisible : (!(Mention.read n).reads (clauseNames gs)) = true := by simp [Mention.reads, hb]
      rw [List.mem_append, List.mem_filter, List.mem_append]
      rcases hn with hn | hn | hn
      · exact .inl (.inr ⟨.inl hn, hvisible⟩)
      · exact .inl (.inl hn)
      · exact .inl (.inr ⟨.inr hn, hvisible⟩)

theorem Scoped.lambda {o o' m m' : List Mention} {s s' : List Expr} {parameters : List String}
    {defaults : List Expr} {body : Expr} (h : Scoped o m s) (hb : Scoped o' m' s') :
    Scoped
      (o ++ o'.filter fun
        | .read n => !parameters.contains n && !o'.contains (.bound n)
        | .bound _ => false)
      (m ++ m') (.lambda parameters defaults body :: (s ++ s')) := by
  apply ((h.append hb).inside _).narrow
  · intro x hx
    rw [List.mem_append]
    rcases List.mem_append.mp hx with hx | hx
    · exact .inl hx
    · exact .inr (List.mem_filter.mp hx).1
  · intro n hn
    rw [List.mem_append] at hn ⊢
    rcases hn with hn | hn
    · exact .inl (.inl hn)
    by_cases hp : n ∈ parameters
    · exact .inr (.inr (List.mem_flatMap.mpr ⟨_, List.mem_cons_self, hp⟩))
    by_cases ha : .bound n ∈ o'
    · exact .inr (.inl (List.mem_append_right m (hb.sound _ ha)))
    · exact .inl (.inr (List.mem_filter.mpr ⟨hn, by simp [hp, ha]⟩))

mutual

theorem Expr.scoped : ∀ e : Expr, Scoped e.outward e.mentions e.subexpressions
  | .literal _ => .none
  | .name _ => ⟨fun _ h => h, fun _ h => .inl h⟩
  | .attribute base _ => base.scoped.inside _
  | .subscript base index => (base.scoped.append index.scoped).inside _
  | .slice lower upper step =>
    (((scopedMaybe lower).append (scopedMaybe upper)).append (scopedMaybe step)).inside _
  | .call callee args keywords =>
    ((callee.scoped.append (scopedAll args)).append (scopedKeywords keywords)).inside _
  | .unary _ e => e.scoped.inside _
  | .binary _ a b => (a.scoped.append b.scoped).inside _
  | .connected _ es => (scopedAll es).inside _
  | .compared e rest => (e.scoped.append (scopedCompared rest)).inside _
  | .conditional test body orelse => ((test.scoped.append body.scoped).append orelse.scoped).inside _
  | .list es => (scopedAll es).inside _
  | .tuple es => (scopedAll es).inside _
  | .set es => (scopedAll es).inside _
  | .dict items => (scopedItems items).inside _
  | .starred e => e.scoped.inside _
  | .comprehension _ e clauses => (e.scoped.comprehension (scopedClauses clauses)).inside _
  | .dictComprehension k v clauses =>
    ((k.scoped.append v.scoped).comprehension (scopedClauses clauses)).inside _
  | .interpolated pieces => (scopedPieces pieces).inside _
  | .lambda _ defaults body => (scopedAll defaults).lambda body.scoped
  | .await e => e.scoped.inside _
  | .yield e => (scopedMaybe e).inside _
  | .yieldFrom e => e.scoped.inside _
  | .assignment n e => (e.scoped.bind n).inside _
termination_by structural e => e

theorem Expr.scopedTarget : ∀ e : Expr, Scoped e.outwardTarget e.targetMentions e.subexpressions
  | .name _ => ⟨by simp [Expr.outwardTarget], by simp [Expr.targetMentions]⟩
  | .tuple es => (scopedTargets es).inside _
  | .list es => (scopedTargets es).inside _
  | .starred e => e.scopedTarget.inside _
  | .attribute base _ => base.scoped.inside _
  | .subscript base index => (base.scoped.append index.scoped).inside _
  | .literal _ | .slice .. | .call .. | .unary .. | .binary .. | .connected .. | .compared ..
  | .conditional .. | .set _ | .dict _ | .comprehension .. | .dictComprehension .. | .interpolated _
  | .lambda .. | .await _ | .yield _ | .yieldFrom _ | .assignment .. => .none
termination_by structural e => e

theorem scopedTargets : ∀ es : List Expr,
    Scoped (outwardTargets es) (targetMentionsAll es) (subexpressionsAll es)
  | [] => .none
  | e :: es => e.scopedTarget.append (scopedTargets es)
termination_by structural es => es

theorem scopedAll : ∀ es : List Expr, Scoped (outwardAll es) (mentionsAll es) (subexpressionsAll es)
  | [] => .none
  | e :: es => e.scoped.append (scopedAll es)
termination_by structural es => es

theorem scopedMaybe : ∀ e : Option Expr,
    Scoped (outwardMaybe e) (mentionsMaybe e) (subexpressionsMaybe e)
  | none => .none
  | some e => e.scoped
termination_by structural e => e

theorem scopedKeywords : ∀ ks : List Keyword,
    Scoped (outwardKeywords ks) (mentionsKeywords ks) (subexpressionsKeywords ks)
  | [] => .none
  | .mk _ e :: ks => e.scoped.append (scopedKeywords ks)
termination_by structural ks => ks

theorem scopedCompared : ∀ cs : List Comparison,
    Scoped (outwardCompared cs) (mentionsCompared cs) (subexpressionsCompared cs)
  | [] => .none
  | .mk _ e :: cs => e.scoped.append (scopedCompared cs)
termination_by structural cs => cs

theorem scopedItems : ∀ items : List DictItem,
    Scoped (outwardItems items) (mentionsItems items) (subexpressionsItems items)
  | [] => .none
  | .entry k v :: items => (k.scoped.append v.scoped).append (scopedItems items)
  | .spread e :: items => e.scoped.append (scopedItems items)
termination_by structural items => items

theorem scopedClauses : ∀ gs : List Generator,
    Scoped (outwardClauses gs) (mentionsClauses gs) (subexpressionsClauses gs)
  | [] => .none
  | .mk target iterable conditions :: gs =>
    ((target.scopedTarget.append iterable.scoped).append (scopedAll conditions)).append (scopedClauses gs)
termination_by structural gs => gs

theorem scopedPieces : ∀ ps : List Piece,
    Scoped (outwardPieces ps) (mentionsPieces ps) (subexpressionsPieces ps)
  | [] => .none
  | .text _ :: ps => scopedPieces ps
  | .field e layout :: ps => (e.scoped.append (scopedLayout layout)).append (scopedPieces ps)
termination_by structural ps => ps

theorem scopedLayout : ∀ layout : Option (List Piece),
    Scoped (outwardLayout layout) (mentionsLayout layout) (subexpressionsLayout layout)
  | none => .none
  | some ps => scopedPieces ps
termination_by structural layout => layout

end

end AccessPolicy
