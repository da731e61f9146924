import AccessPolicy.Expr.Statement
import AccessPolicy.Proofs.Nesting

/-!
The first statement of a text. It is an expression just if the tokens up to its end are those of an expression, read
at any depth.
-/

namespace AccessPolicy

open Reader

/-! Tokens that no expression begins with -/

/-- The words that are no names, but begin expressions. -/
def openingWords : List String := ["None", "True", "False", "await", "lambda", "not", "yield"]

/-- Words of statements, and the sign of decorators. -/
def Token.beginsNone : Token → Bool
  | .op o => o == "@"
  | .name w => reserved.contains w && !openingWords.contains w
  | _ => false

/-- What ends a statement: the end of a line, and the sign between the statements of one. -/
def Token.endsStatement : Token → Bool
  | .newline => true
  | .op o => o == ";"
  | _ => false

namespace Grammar

variable {t : Token} {ts : List Token}

theorem not_isOp (ht : t.beginsNone = true) {s : String} (hs : s ≠ "@") : isOp s t = false := by
  cases t with
  | op o =>
    rw [Token.beginsNone, beq_iff_eq] at ht
    rw [ht]
    exact beq_false_of_ne hs.symm
  | name | literal | text | newline | indent | dedent => rfl

theorem not_isWord (ht : t.beginsNone = true) {w : String} (hw : w ∈ openingWords) :
    isWord w t = false := by
  cases t with
  | name v =>
    rw [isWord, beq_eq_false_iff_ne]
    rintro rfl
    rw [Token.beginsNone, List.contains_iff_mem.mpr hw] at ht
    simp at ht
  | op | literal | text | newline | indent | dedent => rfl

theorem run_tryOp_none (ht : t.beginsNone = true) {s : String} (hs : s ≠ "@") :
    (tryOp s).run (t :: ts) = some (false, t :: ts) := by
  rw [run_tryOp, List.head?_cons, Option.any_some, not_isOp ht hs]
  rfl

theorem run_tryWord_none (ht : t.beginsNone = true) {w : String}
    (hw : w ∈ openingWords) :
    (tryWord w).run (t :: ts) = some (false, t :: ts) := by
  rw [run_tryWord, List.head?_cons, Option.any_some, not_isWord ht hw]
  rfl

theorem run_atWord_none (ht : t.beginsNone = true) {w : String}
    (hw : w ∈ openingWords) :
    (atWord w).run (t :: ts) = some (false, t :: ts) := by
  rw [run_atWord, List.head?_cons, Option.any_some, not_isWord ht hw]

theorem atom_none (g : Grammar) (ht : t.beginsNone = true) : g.atom.run (t :: ts) = none := by
  unfold atom
  rw [run_bind, run_get]
  cases t with
  | op o =>
    rw [Token.beginsNone, beq_iff_eq] at ht
    rw [ht]
    rfl
  | name w =>
    have hnot : ∀ v ∈ openingWords, w ≠ v := fun v hv =>
      beq_eq_false_iff_ne.mp (not_isWord ht hv)
    have hreserved : reserved.contains w = true := (Bool.and_eq_true_iff.mp ht).1
    dsimp only [Option.bind]
    split
    · exact absurd rfl (hnot "None" (by decide))
    · exact absurd rfl (hnot "True" (by decide))
    · exact absurd rfl (hnot "False" (by decide))
    · refine run_bind_none ?_
      unfold name
      rw [run_bind, run_peek]
      dsimp only [Option.bind, List.head?]
      rw [if_pos hreserved]
      rfl
  | literal | text | newline | indent | dedent => cases ht

theorem primary_none (g : Grammar) (ht : t.beginsNone = true) : g.primary.run (t :: ts) = none :=
  run_bind_none (atom_none g ht)

theorem step_factor_none (g : Grammar) (ht : t.beginsNone = true) : g.step.factor.run (t :: ts) = none := by
  have hsign : trySign.run (t :: ts) = some (none, t :: ts) := by
    unfold trySign
    rw [run_bind, run_peek]
    dsimp only [Option.bind, List.head?]
    split
    next heq => cases heq; cases ht
    next heq => cases heq; cases ht
    next heq => cases heq; cases ht
    next => rfl
  have hawait : (tryWord "await").run (t :: ts) = some (false, t :: ts) := run_tryWord_none ht (by decide)
  change (trySign >>= _).run (t :: ts) = none
  rw [run_bind_some hsign]
  refine run_bind_none ?_
  unfold awaited
  rw [run_bind_some hawait]
  exact primary_none g ht

theorem disjoint_none {g : Grammar} (hf : g.factor.run ts = none) : g.disjoint.run ts = none :=
  run_bind_none (run_bind_none (run_bind_none (run_bind_none (run_bind_none (run_bind_none hf)))))

theorem factor_none (n : Nat) (ht : t.beginsNone = true) : (ofDepth n).factor.run (t :: ts) = none := by
  cases n with
  | zero => rfl
  | succ n => exact step_factor_none (ofDepth n) ht

theorem inversion_none (n : Nat) (ht : t.beginsNone = true) : (ofDepth n).inversion.run (t :: ts) = none := by
  cases n with
  | zero => rfl
  | succ n =>
    have hnot : (tryWord "not").run (t :: ts) = some (false, t :: ts) := run_tryWord_none ht (by decide)
    change (tryWord "not" >>= _).run (t :: ts) = none
    rw [run_bind_some hnot]
    exact run_bind_none (disjoint_none (factor_none n ht))

theorem expression_none (n : Nat) (ht : t.beginsNone = true) : (ofDepth n).expression.run (t :: ts) = none := by
  cases n with
  | zero => rfl
  | succ n =>
    have hlambda : (atWord "lambda").run (t :: ts) = some (false, t :: ts) := run_atWord_none ht (by decide)
    change (atWord "lambda" >>= _).run (t :: ts) = none
    rw [run_bind_some hlambda]
    exact run_bind_none (run_bind_none (run_bind_none (inversion_none n ht)))

theorem expressions_none (n : Nat) (ht : t.beginsNone = true) : (ofDepth n).expressions.run (t :: ts) = none := by
  refine run_bind_none ?_
  unfold statementElement
  rw [run_bind_some (run_tryOp_none ht (by decide))]
  exact expression_none n ht

end Grammar

namespace Statement

/-- No expression begins with a word of statements or the sign of decorators. -/
theorem assigned_none (n : Nat) {t : Token} {ts : List Token} (ht : t.beginsNone = true) :
    (assigned (Grammar.ofDepth n)).run (t :: ts) = none := by
  unfold assigned
  rw [run_bind_some (Grammar.run_atWord_none ht (by decide))]
  exact Grammar.expressions_none n ht

/-! Statements that are expressions -/

variable {k : Nat} {g g' : Grammar} {ts rest : List Token} {e : Expr}

theorem covers_assigned (hg : g.Covers k g') : Reader.Covers k (assigned g) (assigned g') :=
  .bind (.of_takes (.atWord "yield")) fun _ => .ite (Grammar.covers_yielded hg) (Grammar.covers_expressions hg)

/-- That a reader of statements finds no expressions. -/
def AnswersOther (r : Reader Statement) : Prop := ∀ ts e rest, r.run ts ≠ some (.expression e, rest)

namespace AnswersOther

theorem other : AnswersOther (pure .other) := by
  intro ts e rest h
  cases h

theorem failure : AnswersOther Alternative.failure := by
  intro ts e rest h
  cases h

theorem bind {α : Type} {r : Reader α} {f : α → Reader Statement} (hf : ∀ a, AnswersOther (f a)) :
    AnswersOther (r >>= f) := by
  intro ts e rest h
  obtain ⟨a, between, _, h⟩ := run_bind_eq_some.mp h
  exact hf a between e rest h

theorem ite {c : Prop} [Decidable c] {r r' : Reader Statement} (h : AnswersOther r) (h' : AnswersOther r') :
    AnswersOther (if c then r else r') := by
  split
  · exact h
  · exact h'

theorem guard {c : Prop} [Decidable c] {r : Reader Statement} (h : AnswersOther r) :
    AnswersOther (if c then Alternative.failure >>= fun _ : Unit => r else r) := .ite (.bind fun _ => h) h

end AnswersOther

theorem fromExpression_expression (h : (fromExpression g).run ts = some (.expression e, rest)) :
    g.expressions.run ts = some (e, rest) := by
  obtain ⟨found, between, hfound, h⟩ := run_bind_eq_some.mp h
  dsimp only at h
  rw [run_bind, run_peek] at h
  dsimp only [Option.bind] at h
  split at h
  next =>
    refine absurd h (AnswersOther.guard (.bind fun _ => .bind fun _ => .bind fun found => ?_) _ _ _)
    exact .ite (.bind fun _ => .other) .other
  next => exact absurd h (AnswersOther.guard (.bind fun _ => .other) _ _ _)
  next =>
    split at h
    next => exact absurd h (AnswersOther.guard (.bind fun _ => .bind fun _ => .other) _ _ _)
    next =>
      cases h
      exact hfound
  next =>
    cases h
    exact hfound

theorem run_assigned (hyield : ts.head?.any (isWord "yield") = false) : (assigned g).run ts = g.expressions.run ts := by
  unfold assigned
  rw [run_bind, run_atWord, hyield]
  rfl

theorem run_assigned_yield (hyield : ts.head?.any (isWord "yield") = true) :
    (assigned g).run ts = g.yielded.run ts := by
  unfold assigned
  rw [run_bind, run_atWord, hyield]
  rfl

/-- An expression that a line begins with is read as one that can be assigned. -/
theorem simple_expression (h : (simple g).run ts = some (.expression e, rest)) :
    (assigned g).run ts = some (e, rest) := by
  unfold simple at h
  rw [run_bind, run_peek] at h
  dsimp only [Option.bind] at h
  split at h
  next w heq =>
    -- Of the words that begin statements, `yield` alone leads to an expression.
    split at h
    next =>
      rw [run_assigned_yield (by rw [heq]; rfl)]
      obtain ⟨found, between, hfound, h⟩ := run_bind_eq_some.mp h
      cases h
      exact hfound
    next => exact absurd h (AnswersOther.bind (fun _ => .other) _ _ _)
    next => exact absurd h (AnswersOther.bind (fun _ => .other) _ _ _)
    next => exact absurd h (AnswersOther.bind (fun _ => .other) _ _ _)
    next =>
      refine absurd h (AnswersOther.bind (fun _ => .bind fun _ => ?_) _ _ _)
      exact .ite (.bind fun _ => .other) .other
    next =>
      refine absurd h (AnswersOther.bind (fun _ => .bind fun _ => .ite (.bind fun _ => .bind fun _ => ?_) .other) _ _ _)
      exact .ite (.bind fun _ => .other) .other
    next => exact absurd h (AnswersOther.bind (fun _ => .bind fun _ => .other) _ _ _)
    next => exact absurd h (AnswersOther.bind (fun _ => .bind fun _ => .other) _ _ _)
    next => exact absurd h (AnswersOther.bind (fun _ => .bind fun _ => .ite .other .failure) _ _ _)
    next =>
      refine absurd h (AnswersOther.bind (fun _ => .bind fun _ => .bind fun _ => ?_) _ _ _)
      exact .ite (.bind fun _ => .other) .other
    next => exact absurd h (AnswersOther.bind (fun _ => .bind fun _ => .other) _ _ _)
    next => exact absurd h (AnswersOther.bind (fun _ => .bind fun _ => .other) _ _ _)
    next hyield _ _ _ _ _ _ _ _ _ _ _ =>
      rw [run_assigned (by rw [heq]; exact beq_false_of_ne hyield)]
      exact fromExpression_expression h
  next hname =>
    rw [run_assigned ?_]
    · exact fromExpression_expression h
    · rcases ts with - | ⟨t, ts⟩
      · rfl
      · cases t with
        | name w => exact absurd rfl (hname w)
        | literal | text | op | newline | indent | dedent => rfl

theorem fromExpression_of_expressions (h : g.expressions.run ts = some (e, rest))
    (hend : rest.head?.any Token.endsStatement = true) : (fromExpression g).run ts = some (.expression e, rest) := by
  unfold fromExpression
  rw [run_bind_some h]
  rcases rest with - | ⟨t, rest⟩
  · cases hend
  · cases t with
    | newline => rfl
    | op o =>
      obtain rfl := beq_iff_eq.mp (show (o == ";") = true from hend)
      rfl
    | name | literal | text | indent | dedent => cases hend

/-- An expression up to the end of a statement is a statement. -/
theorem simple_of_assigned {t : Token} (ht : t.beginsNone = false) (h : (assigned g).run (t :: ts) = some (e, rest))
    (hend : rest.head?.any Token.endsStatement = true) :
    (simple g).run (t :: ts) = some (.expression e, rest) := by
  unfold simple
  rw [run_bind, run_peek]
  dsimp only [Option.bind, List.head?]
  split
  next w heq =>
    cases heq
    split
    next =>
      rw [run_assigned_yield rfl] at h
      rw [run_bind_some h]
      rfl
    iterate 11 next => exact absurd ht (by decide)
    next hyield _ _ _ _ _ _ _ _ _ _ _ =>
      have hhead : (Token.name w :: ts).head?.any (isWord "yield") = false := beq_false_of_ne hyield
      rw [run_assigned hhead] at h
      exact fromExpression_of_expressions h hend
  next hname =>
    rw [run_assigned ?_] at h
    · exact fromExpression_of_expressions h hend
    · cases t with
      | name w => exact absurd rfl (hname w)
      | literal | text | op | newline | indent | dedent => rfl

/-- What is taken onto the statements of a line keeps the first of them, which ends at a sign or at the line's end. -/
theorem nextInLine_keeps {first : Statement} {sofar sofar' : List Statement × Bool} {us : List Token}
    (hfirst : sofar.1.getLast? = some first) (h : (nextInLine g sofar).run ts = some (some sofar', us)) :
    sofar'.1.getLast? = some first := by
  obtain ⟨acc, more⟩ := sofar
  unfold nextInLine at h
  cases more with
  | false => cases h
  | true =>
    obtain ⟨found, between, _, h⟩ := run_bind_eq_some.mp h
    cases found with
    | false => cases h
    | true =>
      obtain ⟨t, between, _, h⟩ := run_bind_eq_some.mp h
      dsimp only at h
      split at h
      next =>
        cases h
        exact hfirst
      next =>
        obtain ⟨s, between, _, h⟩ := run_bind_eq_some.mp h
        cases h
        rw [List.getLast?_cons, hfirst]
        rfl

theorem nextInLine_none (sofar : List Statement × Bool) (h : ts.head?.any (isOp ";") = false) :
    (nextInLine g sofar).run ts = some (none, ts) := by
  unfold nextInLine
  obtain ⟨acc, more⟩ := sofar
  cases more with
  | false => rfl
  | true =>
    have htry : (tryOp ";").run ts = some (false, ts) := by
      rw [run_tryOp, h]
      rfl
    change (tryOp ";" >>= _).run ts = _
    rw [run_bind_some htry]
    rfl

/-- A line has a statement, which ends at a sign between statements or at the end of the line. -/
theorem line_first {statements : List Statement} (h : (line g).run ts = some (statements, rest)) :
    ∃ s more after, statements = s :: more ∧ (simple g).run ts = some (s, after) ∧
      after.head?.any Token.endsStatement = true := by
  obtain ⟨first, after, hfirst, h⟩ := run_bind_eq_some.mp h
  obtain ⟨found, between, hfound, h⟩ := run_bind_eq_some.mp h
  have hlast : found.1.getLast? = some first :=
    repeatWhile_keeps (P := fun x : List Statement × Bool => x.1.getLast? = some first)
      (fun _ _ _ _ => nextInLine_keeps) after.length rfl hfound
  have hnewline : between.head? = some .newline ∧ statements = found.1.reverse := by
    obtain ⟨t, between', ht, h⟩ := run_bind_eq_some.mp h
    rw [run_peek] at ht
    rcases t with - | t
    · cases h
    · cases t with
      | newline =>
        cases h
        exact ⟨(Prod.mk.inj (Option.some.inj ht)).1, rfl⟩
      | name | literal | text | op | indent | dedent => cases h
  obtain ⟨init, hinit⟩ := List.getLast?_eq_some_iff.mp hlast
  refine ⟨first, init.reverse, after, by rw [hnewline.2, hinit, List.reverse_append]; rfl, hfirst, ?_⟩
  cases hop : after.head?.any (isOp ";") with
  | true =>
    rcases after with - | ⟨t, after⟩
    · cases hop
    · cases t with
      | op o => exact hop
      | name | literal | text | newline | indent | dedent => cases hop
  | false =>
    have hstop : (repeatWhile (nextInLine g) ([first], true)).run after = some (([first], true), after) :=
      repeatWhile_stops after.length (nextInLine_none _ hop)
    cases hfound.symm.trans hstop
    rw [hnewline.1]
    rfl

theorem line_of_assigned {t : Token} (ht : t.beginsNone = false)
    (h : (assigned g).run (t :: ts) = some (e, .newline :: rest)) :
    (line g).run (t :: ts) = some ([.expression e], rest) := by
  have hstop : (repeatWhile (nextInLine g) ([.expression e], true)).run (.newline :: rest) = some _ :=
    repeatWhile_stops _ (nextInLine_none _ rfl)
  unfold line
  rw [run_bind_some (simple_of_assigned ht h rfl), run_bind_some hstop]
  rfl

/-! Texts -/

theorem run_atCompound {found : Bool} (h : atCompound.run ts = some (found, rest)) : rest = ts := by
  unfold atCompound at h
  rw [run_bind, run_peek] at h
  dsimp only [Option.bind] at h
  split at h <;> cases h <;> rfl

theorem atCompound_false {t : Token} (ht : t.beginsNone = false) :
    atCompound.run (t :: ts) = some (false, t :: ts) := by
  cases t with
  | name w =>
    have hwords : ∀ w ∈ ["if", "while", "for", "with", "try", "def", "class", "async"],
        (Token.name w).beginsNone = true := by
      decide
    have hnone : ["if", "while", "for", "with", "try", "def", "class", "async"].contains w = false := by
      rw [← Bool.not_eq_true, List.contains_iff_mem]
      intro hw
      rw [hwords w hw] at ht
      cases ht
    unfold atCompound
    rw [run_bind, run_peek]
    dsimp only [Option.bind, List.head?]
    rw [hnone]
    rfl
  | op o =>
    have hop : (o == "@") = false := ht
    unfold atCompound
    rw [run_bind, run_peek]
    dsimp only [Option.bind, List.head?]
    rw [hop]
    rfl
  | literal | text | newline | indent | dedent => rfl

/-- The next statements are at least one; if that is an expression, it ends at a sign between statements or at the
end of a line. -/
theorem next_first {n : Nat} {statements : List Statement} (h : (next g n).run ts = some (statements, rest)) :
    ∃ s more, statements = s :: more ∧ ∀ e, s = .expression e →
      ∃ after, (assigned g).run ts = some (e, after) ∧ after.head?.any Token.endsStatement = true := by
  cases n with
  | zero => cases h
  | succ n =>
    obtain ⟨atCompound, between, hat, h⟩ := run_bind_eq_some.mp h
    obtain rfl := run_atCompound hat
    cases atCompound with
    | true =>
      obtain ⟨_, between', _, h⟩ := run_bind_eq_some.mp h
      cases h
      exact ⟨.other, [], rfl, fun e he => by cases he⟩
    | false =>
      obtain ⟨s, more, after, hstatements, hsimple, hend⟩ := line_first h
      refine ⟨s, more, hstatements, fun e he => ⟨after, ?_, hend⟩⟩
      rw [he] at hsimple
      exact simple_expression hsimple

theorem nextOnward_some {depth : Nat} {sofar : List Statement} {found : Option (List Statement)}
    (h : (nextOnward depth sofar).run ts = some (found, rest)) :
    (ts = [] ∧ found = none) ∨
      ∃ statements, (next (Grammar.ofDepth depth) depth).run ts = some (statements, rest) ∧
        found = some (sofar ++ statements) := by
  cases ts with
  | nil =>
    cases h
    exact .inl ⟨rfl, rfl⟩
  | cons t ts =>
    change (next (Grammar.ofDepth depth) depth >>= fun s => pure (some (sofar ++ s))).run (t :: ts) = _ at h
    obtain ⟨statements, between, hnext, h⟩ := run_bind_eq_some.mp h
    cases h
    exact .inr ⟨statements, hnext, rfl⟩

theorem ofSource?_first {source : List Char} {statements : List Statement} {t : Token}
    (htokens : Token.scan? source = some (t :: ts)) (h : ofSource? source = some statements) :
    ∃ s more, statements = s :: more ∧ ∀ e, s = .expression e → ∃ after,
      (assigned (Grammar.ofDepth (depthOf source))).run (t :: ts) = some (e, after) ∧
        after.head?.any Token.endsStatement = true := by
  obtain ⟨tokens, htokens', h⟩ := Option.bind_eq_some_iff.mp h
  obtain ⟨⟨found, rest⟩, hfound, h⟩ := Option.bind_eq_some_iff.mp h
  have hstatements : found = statements := by
    dsimp only at h
    split at h
    next => exact Option.some.inj h
    next => cases h
  cases htokens.symm.trans htokens'
  change (repeatWhile.go (nextOnward (depthOf source)) (ts.length + 1) []).run (t :: ts) = _ at hfound
  obtain ⟨answer, between, hanswer, hgo⟩ := run_bind_eq_some.mp hfound
  rcases nextOnward_some hanswer with ⟨hnil, _⟩ | ⟨first, hfirst, rfl⟩
  · cases hnil
  · obtain ⟨s, more, rfl, hs⟩ := next_first hfirst
    have hprefix : ∃ later, found = s :: later := by
      refine repeatWhile_keeps (P := fun l : List Statement => ∃ later, l = s :: later) ?_ ts.length ⟨more, rfl⟩ hgo
      rintro _ sofar ts us ⟨later, rfl⟩ hnext
      rcases nextOnward_some hnext with ⟨_, hnone⟩ | ⟨statements, _, hsome⟩
      · cases hnone
      · exact ⟨later ++ statements, Option.some.inj hsome⟩
    obtain ⟨later, hlater⟩ := hprefix
    exact ⟨s, later, hstatements.symm.trans hlater, hs⟩

/-- Readers of expressions take tokens off the front only, and find at a depth of three times the weight of the tokens
what they find at any. -/
theorem assigned_ofDepth {n m : Nat} (h : (assigned (Grammar.ofDepth n)).run ts = some (e, rest))
    (hm : 3 * (Token.weights ts + 1) ≤ m) :
    (assigned (Grammar.ofDepth m)).run ts = some (e, rest) ∧ rest <:+ ts :=
  covers_assigned (Grammar.ofDepth_covers _ n m hm) ts (Nat.lt_succ_self _) e rest h

theorem weights_le_depthOf {source : List Char} {tokens : List Token} (htokens : Token.scan? source = some tokens) :
    3 * (Token.weights tokens + 1) ≤ depthOf source := by
  have hweights := Token.scan?_weights htokens
  unfold depthOf
  omega

/-- A text whose tokens are those of an expression and the end of a line has this expression as its only statement. -/
theorem ofSource?_of_assigned {source : List Char} {tokens : List Token} (htokens : Token.scan? source = some tokens)
    (h : (assigned (Grammar.ofDepth (depthOf source))).run tokens = some (e, [.newline])) :
    ofSource? source = some [.expression e] := by
  obtain ⟨_, hsuffix⟩ := assigned_ofDepth h (weights_le_depthOf htokens)
  obtain ⟨t, ts, rfl⟩ := List.exists_cons_of_ne_nil (show tokens ≠ [] by rintro rfl; simp at hsuffix)
  have ht : t.beginsNone = false := by
    rw [← Bool.not_eq_true]
    intro ht
    rw [assigned_none _ ht] at h
    cases h
  have hnext : (next (Grammar.ofDepth (depthOf source)) (depthOf source)).run (t :: ts) =
      some ([.expression e], []) := by
    obtain ⟨depth, hdepth⟩ : ∃ depth, depthOf source = depth + 1 := ⟨4 * source.length + 3, rfl⟩
    rw [hdepth] at h ⊢
    change (atCompound >>= _).run (t :: ts) = _
    rw [run_bind_some (atCompound_false ht)]
    exact line_of_assigned ht h
  have hfirst : (nextOnward (depthOf source) []).run (t :: ts) = some (some [.expression e], []) := by
    change (next (Grammar.ofDepth (depthOf source)) (depthOf source) >>=
      fun s => pure (some ([] ++ s))).run (t :: ts) = _
    rw [run_bind_some hnext]
    rfl
  have hall : (repeatWhile (nextOnward (depthOf source)) []).run (t :: ts) = some ([.expression e], []) := by
    change (repeatWhile.go (nextOnward (depthOf source)) (ts.length + 1) []).run (t :: ts) = _
    rw [repeatWhile.go, run_bind_some hfirst]
    exact repeatWhile_stops ts.length rfl
  unfold ofSource?
  rw [htokens]
  change ((repeatWhile (nextOnward (depthOf source)) []).run (t :: ts) >>= _) = _
  rw [hall]
  rfl

end Statement

end AccessPolicy
