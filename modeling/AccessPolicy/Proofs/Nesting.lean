import AccessPolicy.Proofs.Fields
import AccessPolicy.Proofs.Weights

/-!
The depth of expressions. Whatever is read at some depth is read at three times the weight of the tokens, so a bound
in the length of the source hides nothing: each nesting takes a character, and passes an expression, a comparison and
a factor.
-/

namespace AccessPolicy

open Reader

/-- What the readers of a grammar find in tokens of less than some weight, those of another find there too. -/
structure Grammar.Covers (k : Nat) (g g' : Grammar) : Prop where
  expression : Reader.Covers k g.expression g'.expression
  factor : Reader.Covers k g.factor g'.factor
  inversion : Reader.Covers k g.inversion g'.inversion
  field : ∀ source e, source.length + 3 < k → g.field source = some e → g'.field source = some e

namespace Grammar

variable {k : Nat} {g g' : Grammar}

theorem Covers.mono {j : Nat} (hg : g.Covers k g') (hle : j ≤ k) : g.Covers j g' where
  expression := hg.expression.mono hle
  factor := hg.factor.mono hle
  inversion := hg.inversion.mono hle
  field source e hlength := hg.field source e (by omega)

theorem takes_tryComparison : Takes tryComparison fun _ => 0 := by
  unfold tryComparison
  refine .bind .peek fun t => ?_
  split
  · split
    · exact .bind .skip fun _ => .pure _
    · exact .pure _
  · exact .bind .skip fun _ => .pure _
  · exact .bind .skip fun _ => .bind (.word "in") fun _ => .pure _
  · refine .bind .skip fun _ => .bind (.tryWord "not") fun found => ?_
    cases found with
    | false => exact .pure _
    | true => exact .pure _
  · exact .pure _

theorem takes_atListEnd : Takes atListEnd fun _ => 0 := by
  unfold atListEnd
  refine .bind .peek fun t => ?_
  split <;> exact .pure _

theorem takes_atFor : Takes atFor fun _ => 0 := by
  intro ts found rest h
  unfold atFor at h
  rw [run_bind, run_get] at h
  dsimp only [Option.bind] at h
  split at h <;> cases h <;> exact ⟨List.suffix_refl _, Nat.le_refl _⟩

theorem takes_trySign : Takes trySign fun sign => if sign.isSome then 1 else 0 := by
  intro ts sign rest h
  rcases ts with - | ⟨t, ts⟩
  · cases h
    exact ⟨List.suffix_refl _, Nat.le_refl _⟩
  · unfold trySign at h
    rw [run_bind, run_peek] at h
    dsimp only [Option.bind, List.head?] at h
    split at h
    next heq =>
      cases heq
      cases h
      exact ⟨List.suffix_cons _ _, by rw [Token.weights_cons]; exact Nat.le_of_eq (Nat.add_comm _ _)⟩
    next heq =>
      cases heq
      cases h
      exact ⟨List.suffix_cons _ _, by rw [Token.weights_cons]; exact Nat.le_of_eq (Nat.add_comm _ _)⟩
    next heq =>
      cases heq
      cases h
      exact ⟨List.suffix_cons _ _, by rw [Token.weights_cons]; exact Nat.le_of_eq (Nat.add_comm _ _)⟩
    next =>
      cases h
      exact ⟨List.suffix_refl _, Nat.le_refl _⟩

/-! Operators -/

theorem covers_product (hf : Reader.Covers k g.factor g'.factor) : Reader.Covers k g.product g'.product :=
  .leftAssoc _ hf

theorem covers_sum (hf : Reader.Covers k g.factor g'.factor) : Reader.Covers k g.sum g'.sum :=
  .leftAssoc _ (covers_product hf)

theorem covers_shift (hf : Reader.Covers k g.factor g'.factor) : Reader.Covers k g.shift g'.shift :=
  .leftAssoc _ (covers_sum hf)

theorem covers_disjoint (hf : Reader.Covers k g.factor g'.factor) : Reader.Covers k g.disjoint g'.disjoint :=
  .leftAssoc _ (.leftAssoc _ (.leftAssoc _ (covers_shift hf)))

theorem covers_comparison (hf : Reader.Covers k g.factor g'.factor) : Reader.Covers k g.comparison g'.comparison := by
  unfold comparison
  refine .bind (covers_disjoint hf) fun first => ?_
  refine .bind (.repeatWhile (fun acc => ?_) _) fun rest => .ite (.pure _) (.pure _)
  refine .after takes_tryComparison fun c => ?_
  cases c with
  | none => exact .pure _
  | some c => exact .bind (covers_disjoint hf) fun _ => .pure _

theorem covers_disjunction (hi : Reader.Covers k g.inversion g'.inversion) :
    Reader.Covers k g.disjunction g'.disjunction := .connectedBy _ _ (.connectedBy _ _ hi)

/-! Elements of displays and statements -/

theorem covers_named (he : Reader.Covers k g.expression g'.expression) : Reader.Covers k g.named g'.named := by
  unfold named
  refine .get fun ts hweights => ?_
  split
  next w rest =>
    have hsuffix : rest <:+ .name w :: .op ":=" :: rest := ⟨[.name w, .op ":="], rfl⟩
    refine .guard (.set hsuffix ?_)
    have hrest := Token.weights_suffix hsuffix
    exact .bind (he rest (by omega)) fun _ _ _ => .pure _
  next => exact he ts hweights

theorem covers_element (hg : g.Covers k g') : Reader.Covers k g.element g'.element := by
  unfold element
  refine .ifOp (by decide) ?_ (covers_named hg.expression)
  exact .bind (covers_disjoint (hg.factor.mono (Nat.sub_le k 1))) fun _ => .pure _

theorem covers_statementElement (hg : g.Covers k g') :
    Reader.Covers k g.statementElement g'.statementElement := by
  unfold statementElement
  refine .ifOp (by decide) ?_ hg.expression
  exact .bind (covers_disjoint (hg.factor.mono (Nat.sub_le k 1))) fun _ => .pure _

theorem covers_expressions (hg : g.Covers k g') : Reader.Covers k g.expressions g'.expressions := by
  unfold expressions
  refine .bind (covers_statementElement hg) fun first =>
    .bind (.commaTail takes_atListEnd (covers_statementElement hg) first) fun items => ?_
  split
  split <;> exact .pure _

theorem covers_yielded (hg : g.Covers k g') : Reader.Covers k g.yielded g'.yielded := by
  unfold yielded
  refine .bind (.of_takes (.word "yield")) fun _ => .ifWord (by decide) ?_ ?_
  · exact .bind (hg.expression.mono (Nat.sub_le k 1)) fun _ => .pure _
  · refine .bind (.of_takes takes_atListEnd) fun _ => .ite (.pure _) ?_
    exact .bind (covers_expressions hg) fun _ => .pure _

/-! Comprehensions -/

theorem covers_target (hf : Reader.Covers k g.factor g'.factor) : Reader.Covers k g.target g'.target := by
  have hitem : Reader.Covers k
      (tryOp "*" >>= fun found => if found = true then g.disjoint >>= fun e => pure (.starred e) else g.disjoint)
      (tryOp "*" >>= fun found => if found = true then g'.disjoint >>= fun e => pure (.starred e) else g'.disjoint) := by
    refine .ifOp (by decide) ?_ (covers_disjoint hf)
    exact .bind (covers_disjoint (hf.mono (Nat.sub_le k 1))) fun _ => .pure _
  unfold target
  refine .bind hitem fun first => .bind (.commaTail (.atWord "in") hitem first) fun items => ?_
  exact .ite (.pure _) .failure

theorem covers_generators (hg : g.Covers k g') : Reader.Covers k g.generators g'.generators := by
  unfold generators
  refine .bind (.repeatWhile (fun acc => ?_) _) fun _ => .pure _
  refine .bind (.of_takes takes_atFor) fun _ => .ite (.pure _) ?_
  refine .bind (.of_takes (.tryWord "async")) fun _ => .bind (.of_takes (.word "for")) fun _ => ?_
  refine .bind (covers_target hg.factor) fun _ => .bind (.of_takes (.word "in")) fun _ => ?_
  refine .bind (covers_disjunction hg.inversion) fun _ => .bind (.repeatWhile (fun acc => ?_) _) fun _ => .pure _
  refine .ifWord (by decide) ?_ (.pure _)
  exact .bind (covers_disjunction (hg.inversion.mono (Nat.sub_le k 1))) fun _ => .pure _

theorem covers_displayTail (hg : g.Covers k g') (kind : Collecting) (first : Expr) (close : String)
    (ofItems : List Expr → Bool → Expr) :
    Reader.Covers k (g.displayTail kind first close ofItems) (g'.displayTail kind first close ofItems) := by
  unfold displayTail
  refine .bind (.of_takes takes_atFor) fun _ => .ite (.guard ?_) ?_
  · exact .bind (covers_generators hg) fun _ => .bind (.of_takes (.op close)) fun _ => .pure _
  · refine .bind (.commaTail (.atOp close) (covers_element hg) first) fun _ => ?_
    exact .bind (.of_takes (.op close)) fun _ => .pure _

/-! Atoms -/

theorem covers_parenthesized (hg : g.Covers k g') : Reader.Covers k g.parenthesized g'.parenthesized := by
  unfold parenthesized
  refine .ifOp (by decide) (.pure _) (.bind (.of_takes (.atWord "yield")) fun _ => .ite ?_ ?_)
  · exact .bind (covers_yielded hg) fun _ => .bind (.of_takes (.op ")")) fun _ => .pure _
  · refine .bind (covers_element hg) fun first => .bind (covers_displayTail hg _ first _ _) fun e => ?_
    exact .guard (.pure e)

theorem covers_listDisplay (hg : g.Covers k g') : Reader.Covers k g.listDisplay g'.listDisplay := by
  unfold listDisplay
  refine .ifOp (by decide) (.pure _) ?_
  exact .bind (covers_element hg) fun first => covers_displayTail hg _ first _ _

theorem covers_dictItem (hg : g.Covers k g') : Reader.Covers k g.dictItem g'.dictItem := by
  unfold dictItem
  refine .ifOp (by decide) ?_ ?_
  · exact .bind (covers_disjoint (hg.factor.mono (Nat.sub_le k 1))) fun _ => .pure _
  · refine .bind hg.expression fun key => .bind (.of_takes (.op ":")) fun _ => ?_
    exact .bind hg.expression fun _ => .pure _

theorem covers_braces (hg : g.Covers k g') : Reader.Covers k g.braces g'.braces := by
  unfold braces
  refine .ifOp (by decide) (.pure _) (.bind (.of_takes (.atOp "**")) fun _ => .ite ?_ ?_)
  · refine .bind (covers_dictItem hg) fun first => ?_
    refine .bind (.commaTail (.atOp _) (covers_dictItem hg) first) fun items => ?_
    exact .bind (.of_takes (.op _)) fun _ => .pure _
  · refine .bind (covers_element hg) fun first => .bind (.of_takes (.atOp ":")) fun _ => .ite ?_ (.guard ?_)
    · exact covers_displayTail hg _ first _ _
    · refine .bind (.of_takes (.op ":")) fun _ => .bind hg.expression fun value => ?_
      refine .bind (.of_takes takes_atFor) fun _ => .ite ?_ ?_
      · exact .bind (covers_generators hg) fun _ => .bind (.of_takes (.op _)) fun _ => .pure _
      · refine .bind (.commaTail (.atOp _) (covers_dictItem hg) _) fun items => ?_
        exact .bind (.of_takes (.op _)) fun _ => .pure _

theorem covers_atom (hg : g.Covers (k - 1) g') : Reader.Covers k g.atom g'.atom := by
  unfold atom
  refine .get fun ts hweights => ?_
  split
  next c rest => exact .set (List.suffix_cons _ _) (.pure _)
  next t rest =>
    refine .get (.get (.set (List.drop_suffix _ _) ?_))
    cases h : TextToken.expression? g.field _ with
    | none => exact .failure
    | some e =>
      rw [TextToken.expression?_covers (fun t ht source e hlength => ?_) h]
      · exact .pure e
      · obtain ⟨token, htoken, heq⟩ := List.mem_filterMap.mp ht
        have hmem := (List.takeWhile_prefix _).subset htoken
        have hweight := Token.weight_le_of_mem hmem
        split at heq
        next =>
          cases heq
          rw [Token.weight] at hweight
          exact hg.field source e (by omega)
        next => cases heq
  next w rest =>
    split
    · exact .set (List.suffix_cons _ _) (.pure _)
    · exact .set (List.suffix_cons _ _) (.pure _)
    · exact .set (List.suffix_cons _ _) (.pure _)
    · exact .bind (.of_takes .name) fun _ _ _ => .pure _
  next o rest =>
    have hinner : ∀ o : String, o.length = 1 → Token.weights (.op o :: rest) < k →
        Token.weights rest < k - 1 := by
      intro o ho hweights
      rw [Token.weights_cons, Token.weight] at hweights
      omega
    split
    · exact .set (List.suffix_cons _ _) (covers_parenthesized hg rest (hinner _ rfl hweights))
    · exact .set (List.suffix_cons _ _) (covers_listDisplay hg rest (hinner _ rfl hweights))
    · exact .set (List.suffix_cons _ _) (covers_braces hg rest (hinner _ rfl hweights))
    · exact .set (List.suffix_cons _ _) (.pure _)
    · exact .failure
  next => exact .failure

/-! Arguments and indices -/

theorem covers_argument (hg : g.Covers k g') (sofar : List Expr × List Keyword × Bool) :
    Reader.Covers k (g.argument sofar) (g'.argument sofar) := by
  obtain ⟨args, keywords, spread⟩ := sofar
  unfold argument
  refine .ifOp (by decide) ?_ (.ifOp (by decide) (.guard ?_) (.get fun ts hweights => ?_))
  · exact .bind (hg.expression.mono (Nat.sub_le k 1)) fun _ => .pure _
  · exact .bind (hg.expression.mono (Nat.sub_le k 1)) fun _ => .pure _
  · split
    next w rest =>
      have hsuffix : rest <:+ .name w :: .op "=" :: rest := ⟨[.name w, .op "="], rfl⟩
      refine .guard (.set hsuffix ?_)
      have hrest := Token.weights_suffix hsuffix
      exact .bind (hg.expression rest (by omega)) fun _ _ _ => .pure _
    next => exact .guard (.bind (covers_named hg.expression ts hweights) fun _ _ _ => .pure _)

theorem covers_arguments (hg : g.Covers k g') : Reader.Covers k g.arguments g'.arguments := by
  unfold arguments
  refine .ifOp (by decide) (.pure _) (.bind (covers_argument hg _) fun first => ?_)
  refine .bind (.of_takes takes_atFor) fun _ => .ite ?_ ?_
  · split
    · refine .guard (.bind (covers_generators hg) fun _ => .bind (.of_takes (.op _)) fun _ => .pure _)
    · exact .failure
  · refine .bind (.repeatWhile (fun sofar => ?_) _) fun _ => .bind (.of_takes (.op _)) fun _ => .pure _
    refine .ifOp (by decide) (.bind (.of_takes (.atOp _)) fun _ => .ite (.pure _) ?_) (.pure _)
    exact .bind (covers_argument (hg.mono (Nat.sub_le k 1)) _) fun _ => .pure _

theorem covers_bound (he : Reader.Covers k g.expression g'.expression) : Reader.Covers k g.bound g'.bound := by
  unfold bound
  refine .bind (.of_takes .peek) fun t => ?_
  split
  · exact .pure _
  · exact .pure _
  · exact .pure _
  · exact .bind he fun _ => .pure _

theorem covers_sliceFrom (he : Reader.Covers k g.expression g'.expression) (lower : Option Expr) :
    Reader.Covers k (g.sliceFrom lower) (g'.sliceFrom lower) := by
  unfold sliceFrom
  refine .bind (.of_takes (.op ":")) fun _ => .bind (covers_bound he) fun upper => .ifOp (by decide) ?_ (.pure _)
  exact .bind (covers_bound (he.mono (Nat.sub_le k 1))) fun _ => .pure _

theorem covers_indexItem (he : Reader.Covers k g.expression g'.expression) :
    Reader.Covers k g.indexItem g'.indexItem := by
  unfold indexItem
  refine .ifOp (by decide) (.bind (he.mono (Nat.sub_le k 1)) fun _ => .pure _) ?_
  refine .bind (.of_takes (.atOp ":")) fun _ => .ite (covers_sliceFrom he none) (.bind (covers_named he) fun e => ?_)
  exact .bind (.of_takes (.atOp ":")) fun _ => .ite (.guard (covers_sliceFrom he (some e))) (.pure e)

theorem covers_index (he : Reader.Covers k g.expression g'.expression) : Reader.Covers k g.index g'.index := by
  unfold index
  refine .bind (covers_indexItem he) fun first => ?_
  refine .bind (.commaTail (.atOp _) (covers_indexItem he) first) fun items => ?_
  refine .bind (.of_takes (.op _)) fun _ => ?_
  split <;> exact .pure _

theorem covers_primary (hg : g.Covers (k - 1) g') : Reader.Covers k g.primary g'.primary := by
  unfold primary
  refine .bind (covers_atom hg) fun first => .repeatWhile (fun e => ?_) first
  refine .ifOp (by decide) (.bind (.of_takes .name) fun _ => .pure _) ?_
  refine .ifOp (by decide) ?_ (.ifOp (by decide) ?_ (.pure _))
  · exact .bind (covers_arguments hg) fun _ => .pure _
  · exact .bind (covers_index hg.expression) fun _ => .pure _

theorem covers_awaited (hg : g.Covers (k - 1) g') : Reader.Covers k g.awaited g'.awaited := by
  unfold awaited
  refine .ifWord (by decide) ?_ (covers_primary hg)
  exact .bind ((covers_primary hg).mono (Nat.sub_le k 1)) fun _ => .pure _

theorem covers_power (hg : g.Covers (k - 1) g') : Reader.Covers k g.power g'.power := by
  unfold power
  refine .bind (covers_awaited hg) fun base => .ifOp (by decide) ?_ (.pure base)
  exact .bind hg.factor fun _ => .pure _

/-! Functions -/

theorem covers_parameter (he : Reader.Covers k g.expression g'.expression) {hint : Bool → Reader Unit}
    {cost : Unit → Nat} (hhint : ∀ collecting, Takes (hint collecting) cost) (p : Parameters) :
    Reader.Covers k (g.parameter hint p) (g'.parameter hint p) := by
  have hnamed : ∀ collecting (f : String → Parameters),
      Takes (name >>= fun n => hint collecting >>= fun _ => pure (f n)) fun _ => 0 := by
    intro collecting f
    exact .bind .name fun n => .bind (hhint collecting) fun _ => .weaken (.pure _) fun _ => by omega
  unfold parameter
  refine .guard (.ifOp (by decide) (.guard ?_) (.ifOp (by decide) (.guard ?_) ?_))
  · exact .of_takes (hnamed false _)
  · exact .bind (.of_takes (.atOp ",")) fun _ => .ite (.pure _) (.of_takes (hnamed true _))
  · refine .ifOp (by decide) (.guard (.pure _)) (.bind (.of_takes .name) fun n => ?_)
    refine .bind (.of_takes (hhint false)) fun _ => .ifOp (by decide) ?_ (.guard (.pure _))
    exact .bind (he.mono (Nat.sub_le k 1)) fun _ => .pure _

theorem covers_parameters (he : Reader.Covers k g.expression g'.expression) {hint : Bool → Reader Unit}
    {cost : Unit → Nat} (hhint : ∀ collecting, Takes (hint collecting) cost) (close : String) :
    Reader.Covers k (g.parameters hint close) (g'.parameters hint close) := by
  unfold parameters
  refine .bind (.of_takes (.atOp close)) fun _ => .ite (.pure _) (.bind (covers_parameter he hhint _) fun first => ?_)
  refine .bind (.repeatWhile (fun p => ?_) first) fun p => .guard (.pure _)
  refine .ifOp (by decide) (.bind (.of_takes (.atOp close)) fun _ => .ite (.pure _) ?_) (.pure _)
  exact .bind (covers_parameter (he.mono (Nat.sub_le k 1)) hhint p) fun _ => .pure _

theorem covers_lambda (he : Reader.Covers (k - 1) g.expression g'.expression) :
    Reader.Covers k g.lambda g'.lambda := by
  unfold lambda
  refine .after (.word "lambda") fun _ => ?_
  have he' : Reader.Covers (k - "lambda".length) g.expression g'.expression :=
    he.mono (Nat.sub_le_sub_left (by decide) k)
  refine .bind (covers_parameters he' (fun _ => .pure ()) ":") fun p => .bind (.of_takes (.op ":")) fun _ => ?_
  exact .bind he' fun _ => .pure _

theorem covers_conditional (hi : Reader.Covers k g.inversion g'.inversion)
    (he : Reader.Covers (k - 1) g.expression g'.expression) : Reader.Covers k g.conditional g'.conditional := by
  unfold conditional
  refine .bind (.of_takes (.atWord "lambda")) fun _ => .ite (covers_lambda he) ?_
  refine .bind (covers_disjunction hi) fun body => .ifWord (by decide) ?_ (.pure body)
  refine .bind (covers_disjunction (hi.mono (Nat.sub_le k 1))) fun test => ?_
  exact .bind (.of_takes (.word "else")) fun _ => .bind he fun _ => .pure _

/-! Readers one level deeper -/

theorem covers_stepFactor (hg : g.Covers (k - 1) g') : Reader.Covers k g.step.factor g'.step.factor := by
  refine .after takes_trySign fun sign => ?_
  cases sign with
  | none => exact covers_power hg
  | some s => exact .bind hg.factor fun _ => .pure _

theorem covers_stepInversion (hf : Reader.Covers k g.factor g'.factor)
    (hi : Reader.Covers (k - 1) g.inversion g'.inversion) :
    Reader.Covers k g.step.inversion g'.step.inversion :=
  .ifWord (by decide) (.bind hi fun _ => .pure _) (covers_comparison hf)

theorem covers_fieldOf (hg : g.Covers (k - 1) g') {source : List Char} {e : Expr} (hsource : source.length + 3 < k)
    (h : g.fieldOf source = some e) : g'.fieldOf source = some e := by
  obtain ⟨tokens, htokens, h⟩ := Option.bind_eq_some_iff.mp h
  obtain ⟨⟨found, rest⟩, hfound, h⟩ := Option.bind_eq_some_iff.mp h
  have hweights := Token.scan?_weights htokens
  rw [List.length_append, List.length_cons, List.length_singleton] at hweights
  have hfound' := (covers_expressions hg tokens (by omega) found rest hfound).1
  exact Option.bind_eq_some_iff.mpr ⟨tokens, htokens, Option.bind_eq_some_iff.mpr ⟨(found, rest), hfound', h⟩⟩

/-- Whatever is read at any depth is read at three times the weight of the tokens. -/
theorem ofDepth_covers (k : Nat) : ∀ n m, 3 * k ≤ m → (ofDepth n).Covers k (ofDepth m) := by
  -- An expression may call for an inversion, and this for a factor, before any token is taken. Whatever a factor
  -- calls for comes behind a token, so three levels go with one unit of weight.
  induction k with
  | zero =>
    intro n m _
    refine ⟨?_, ?_, ?_, fun _ _ h => absurd h (Nat.not_lt_zero _)⟩ <;> exact fun _ h => absurd h (Nat.not_lt_zero _)
  | succ k ih =>
    have hfactor : ∀ n m, 3 * k + 1 ≤ m → Reader.Covers (k + 1) (ofDepth n).factor (ofDepth m).factor := by
      intro n m hm
      obtain ⟨m, rfl⟩ := Nat.exists_eq_add_one_of_ne_zero (show m ≠ 0 by omega)
      cases n with
      | zero => exact .failure
      | succ n => exact covers_stepFactor (ih n m (by omega))
    have hinversion : ∀ n m, 3 * k + 2 ≤ m →
        Reader.Covers (k + 1) (ofDepth n).inversion (ofDepth m).inversion := by
      intro n m hm
      obtain ⟨m, rfl⟩ := Nat.exists_eq_add_one_of_ne_zero (show m ≠ 0 by omega)
      cases n with
      | zero => exact .failure
      | succ n => exact covers_stepInversion (hfactor n m (by omega)) (ih n m (by omega)).inversion
    intro n m hm
    refine ⟨?_, hfactor n m (by omega), hinversion n m (by omega), ?_⟩
    · obtain ⟨m, rfl⟩ := Nat.exists_eq_add_one_of_ne_zero (show m ≠ 0 by omega)
      cases n with
      | zero => exact .failure
      | succ n => exact covers_conditional (hinversion n m (by omega)) (ih n m (by omega)).expression
    · obtain ⟨m, rfl⟩ := Nat.exists_eq_add_one_of_ne_zero (show m ≠ 0 by omega)
      intro source e hsource h
      cases n with
      | zero => cases h
      | succ n => exact covers_fieldOf (k := k + 1) (ih n m (by omega)) hsource h

end Grammar

end AccessPolicy
