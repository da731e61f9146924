import AccessPolicy.Proofs.Covering

/-!
The weight of scanned tokens. A text of characters has tokens that weigh no more than it has characters.
-/

namespace AccessPolicy

namespace Token

@[simp] theorem weights_reverse (ts : List Token) : weights ts.reverse = weights ts := by
  unfold weights
  rw [List.map_reverse, List.sum_reverse]

@[simp] theorem weights_replicate_dedent (n : Nat) : weights (List.replicate n .dedent) = 0 := by
  induction n with
  | zero => rfl
  | succ n ih => rw [List.replicate_succ, weights_cons, ih, weight]

/-! What the parts of a scan leave -/

theorem takeDigits_length (digit? : Char → Option Nat) (cs : List Char) :
    (takeDigits digit? cs).2.length ≤ cs.length := by
  fun_induction takeDigits digit? cs with
  | case1 => exact Nat.le_refl _
  | case2 c cs d hd ds rest heq ih =>
    rw [heq] at ih
    rw [List.length_cons]
    exact Nat.le_succ_of_le ih
  | case3 c hc _ next cs hnext ih =>
    rw [List.length_cons]
    exact Nat.le_succ_of_le ih
  | case4 => exact Nat.le_refl _
  | case5 => exact Nat.le_refl _
  | case6 => exact Nat.le_refl _

theorem digitRun_length (digit? : Char → Option Nat) (cs : List Char) :
    (digitRun digit? cs).2.length ≤ cs.length := by
  unfold digitRun
  split
  · exact Nat.le_refl _
  · exact takeDigits_length digit? _

theorem takeExponent?_length {cs rest : List Char} {e : Int} (h : takeExponent? cs = some (e, rest)) :
    rest.length ≤ cs.length := by
  unfold takeExponent? at h
  split at h
  next c cs =>
    split at h
    next =>
      dsimp only at h
      split at h <;> split at h <;> cases h
      · exact Nat.le_trans (digitRun_length _ _) (by simp only [List.length_cons]; omega)
      · exact Nat.le_trans (digitRun_length _ _) (by simp only [List.length_cons]; omega)
      · exact Nat.le_trans (digitRun_length _ _) (by simp only [List.length_cons]; omega)
    next => cases h
  next => cases h

theorem takeScale_length (cs : List Char) : (takeScale cs).2.1.length ≤ cs.length := by
  unfold takeScale
  split
  next h => exact takeExponent?_length h
  next => exact Nat.le_refl _

theorem takeFraction_length (cs : List Char) : (takeFraction cs).2.1.length ≤ cs.length := by
  unfold takeFraction
  split
  next r => exact Nat.le_succ_of_le (digitRun_length _ r)
  next => exact Nat.le_refl _

theorem inBase?_length {base : Nat} {cs rest : List Char} {c : Literal} (h : inBase? base cs = some (c, rest)) :
    rest.length ≤ cs.length := by
  unfold inBase? at h
  dsimp only at h
  split at h
  next => cases h
  next =>
    cases h
    exact takeDigits_length _ _

theorem decimal?_length {cs rest : List Char} {c : Literal} (h : decimal? cs = some (c, rest)) :
    rest.length ≤ cs.length := by
  unfold decimal? at h
  dsimp only at h
  have hlength : (takeScale (takeFraction (digitRun (Number.digitBelow? 10) cs).2).2.1).2.1.length ≤ cs.length :=
    Nat.le_trans (takeScale_length _) (Nat.le_trans (takeFraction_length _) (digitRun_length _ cs))
  generalize (takeScale (takeFraction (digitRun (Number.digitBelow? 10) cs).2).2.1).2.1 = left at h hlength
  have htail : left.tail.length ≤ cs.length := by
    rw [List.length_tail]
    omega
  split at h
  next =>
    split at h
    next =>
      cases h
      exact htail
    next => cases h
  next =>
    split at h
    next => cases h
    next =>
      split at h
      next =>
        cases h
        exact hlength
      next =>
        split at h
        next => cases h
        next =>
          split at h
          next => cases h
          next =>
            cases h
            exact hlength

theorem number?_length {cs rest : List Char} {c : Literal} (h : number? cs = some (c, rest)) :
    rest.length ≤ cs.length := by
  unfold number? at h
  split at h
  next x cs =>
    have hbase : ∀ base, inBase? base cs = some (c, rest) → rest.length ≤ ('0' :: x :: cs).length := by
      intro base hbase
      have hlength := inBase?_length hbase
      simp only [List.length_cons]
      omega
    split at h
    next => exact hbase 16 h
    next =>
      split at h
      next => exact hbase 8 h
      next =>
        split at h
        next => exact hbase 2 h
        next => exact decimal?_length h
  next => exact decimal?_length h

theorem takeBody_length {quotes : List Char} {multiline : Bool} {cs body rest : List Char} (hquotes : quotes ≠ [])
    (h : takeBody quotes multiline cs = some (body, rest)) : body.length + rest.length + 1 ≤ cs.length := by
  have hpos := List.length_pos_iff.mpr hquotes
  fun_induction takeBody quotes multiline cs generalizing body rest with
  | case1 => cases h
  | case2 c cs ih =>
    obtain ⟨⟨found, after⟩, hfound, heq⟩ := Option.map_eq_some_iff.mp h
    cases heq
    have hlength := ih hfound
    simp only [List.length_cons]
    omega
  | case3 c cs _ hprefix =>
    cases h
    have hlength := (List.isPrefixOf_iff_prefix.mp hprefix).length_le
    rw [List.length_drop, List.length_nil]
    omega
  | case4 => cases h
  | case5 c cs _ _ _ ih =>
    obtain ⟨⟨found, after⟩, hfound, heq⟩ := Option.map_eq_some_iff.mp h
    cases heq
    have hlength := ih hfound
    simp only [List.length_cons]
    omega

theorem text?_length {letters cs rest : List Char} {t : Token} (h : text? letters cs = some (t, rest)) :
    t.weight + rest.length ≤ cs.length := by
  unfold text? at h
  obtain ⟨_, _, h⟩ := Option.bind_eq_some_iff.mp h
  obtain ⟨quote, _, h⟩ := Option.bind_eq_some_iff.mp h
  obtain ⟨_, _, h⟩ := Option.bind_eq_some_iff.mp h
  dsimp only at h
  split at h
  next =>
    obtain ⟨⟨body, after⟩, hbody, h⟩ := Option.bind_eq_some_iff.mp h
    have hlength := takeBody_length (by simp) hbody
    rw [List.length_drop] at hlength
    cases h
    dsimp only [weight]
    omega
  next =>
    obtain ⟨⟨body, after⟩, hbody, h⟩ := Option.bind_eq_some_iff.mp h
    have hlength := takeBody_length (by simp) hbody
    rw [List.length_drop] at hlength
    cases h
    dsimp only [weight]
    omega

/-! The weight of a scan -/

theorem finish?_weights {s : State} {ts : List Token} (h : s.finish? = some ts) : weights ts ≤ weights s.tokens := by
  unfold State.finish? at h
  split at h
  next =>
    cases h
    rw [weights_reverse, weights_append, weights_replicate_dedent]
    split
    next => omega
    next =>
      rw [weights_cons, weight]
      omega
  next => cases h

theorem enterLine?_weights {s s' : State} {column : Nat} (h : s.enterLine? column = some s') :
    weights s'.tokens = weights s.tokens := by
  unfold State.enterLine? at h
  dsimp only at h
  split at h
  next =>
    cases h
    rw [weights_cons, weight]
    omega
  next =>
    split at h
    next =>
      cases h
      rw [weights_append, weights_replicate_dedent]
      omega
    next => cases h

@[simp] theorem push_weights (s : State) (t : Token) : weights (s.push t).tokens = t.weight + weights s.tokens :=
  weights_cons t s.tokens

/-- That what a scan adds to the tokens so far weighs no more than what is left to scan. -/
def Bounded (next : State → List Char → Option (List Token)) : Prop :=
  ∀ s cs ts, next s cs = some ts → weights ts ≤ weights s.tokens + cs.length

section Bounded

variable {next : State → List Char → Option (List Token)} {s s' : State} {cs rest : List Char} {ts : List Token}

theorem Bounded.onward (hnext : Bounded next) (h : next s' rest = some ts)
    (hle : weights s'.tokens + rest.length ≤ weights s.tokens + cs.length) :
    weights ts ≤ weights s.tokens + cs.length :=
  Nat.le_trans (hnext _ _ _ h) hle

/-- A scan that goes on behind a token, whatever else of the state the token has changed. -/
theorem Bounded.pushed (hnext : Bounded next) {t : Token} (h : next s' rest = some ts)
    (hs' : s'.tokens = (s.push t).tokens) (hlength : t.weight + rest.length ≤ cs.length) :
    weights ts ≤ weights s.tokens + cs.length := by
  refine hnext.onward h ?_
  rw [hs', push_weights]
  omega

theorem word_length (p : Char → Bool) (cs : List Char) :
    (name (String.ofList (cs.takeWhile p))).weight + (cs.dropWhile p).length ≤ cs.length := by
  have hlength : (cs.takeWhile p).length + (cs.dropWhile p).length = cs.length := by
    rw [← List.length_append, List.takeWhile_append_dropWhile]
  rw [weight, String.length_ofList]
  omega

theorem operator_length {o : String} (ho : (operators.find? fun o => o.toList.isPrefixOf cs) = some o) :
    (op o).weight + (cs.drop o.length).length ≤ cs.length := by
  have hprefix : o.toList.isPrefixOf cs = true :=
    List.find?_some (p := fun o : String => o.toList.isPrefixOf cs) ho
  have hlength := (List.isPrefixOf_iff_prefix.mp hprefix).length_le
  rw [String.length_toList] at hlength
  rw [weight, List.length_drop]
  omega

theorem Bounded.scanToken (hnext : Bounded next) : Bounded (scanToken next) := by
  intro s cs ts h
  unfold Token.scanToken at h
  split at h
  next => exact Nat.le_add_right_of_le (finish?_weights h)
  next c rest =>
    dsimp only at h
    split at h
    next =>
      have hword := word_length Text.isIdentifierPart (c :: rest)
      split at h
      next t after htext =>
        have htext := text?_length htext
        exact hnext.pushed h rfl (by omega)
      next => exact hnext.pushed h rfl hword
    next =>
      split at h
      next =>
        obtain ⟨⟨t, after⟩, htext, h⟩ := Option.bind_eq_some_iff.mp h
        exact hnext.pushed h rfl (text?_length htext)
      next =>
        split at h
        next =>
          obtain ⟨⟨c, after⟩, hnumber, h⟩ := Option.bind_eq_some_iff.mp h
          have hnumber := number?_length hnumber
          exact hnext.pushed h rfl (by rwa [weight, Nat.zero_add])
        next =>
          obtain ⟨o, ho, h⟩ := Option.bind_eq_some_iff.mp h
          have hlength := operator_length ho
          -- Operators differ in what they do to the open brackets, which is no part of the tokens.
          split at h
          next =>
            split at h
            next => cases h
            next => exact hnext.pushed h rfl hlength
          next =>
            split at h
            next =>
              split at h
              next =>
                split at h
                next => exact hnext.pushed h rfl hlength
                next => cases h
              next => cases h
            next => exact hnext.pushed h rfl hlength

theorem Bounded.enterLine (hnext : Bounded next) {column : Nat} (hlength : rest.length ≤ cs.length)
    (h : (s.enterLine? column >>= fun s' => Token.scanToken next s' rest) = some ts) :
    weights ts ≤ weights s.tokens + cs.length := by
  obtain ⟨s', hs', h⟩ := Option.bind_eq_some_iff.mp h
  refine hnext.scanToken.onward h ?_
  rw [enterLine?_weights hs']
  omega

end Bounded

theorem scanFrom_bounded (fuel : Nat) : Bounded (scanFrom fuel) := by
  induction fuel with
  | zero => exact fun s cs ts h => Nat.le_add_right_of_le (finish?_weights h)
  | succ fuel ih =>
    intro s cs ts h
    unfold scanFrom at h
    split at h
    next => exact Nat.le_add_right_of_le (finish?_weights h)
    next rest =>
      have hlength := (List.dropWhile_suffix (l := rest) (· != '\n')).length_le
      exact ih.onward h (by rw [List.length_cons]; omega)
    next rest =>
      split at h
      next => cases h
      next => exact ih.onward h (by simp only [List.length_cons]; omega)
    next rest =>
      split at h
      next => exact ih.onward h (by rw [List.length_cons]; omega)
      next =>
        refine ih.pushed (t := .newline) h rfl ?_
        rw [weight, List.length_cons]
        omega
    next c rest _ _ _ =>
      split at h
      next => exact ih.onward h (by rw [List.length_cons]; omega)
      next =>
        split at h
        next =>
          dsimp only at h
          have hlength := (List.dropWhile_suffix (l := c :: rest) isBlank).length_le
          generalize (c :: rest).dropWhile isBlank = body at h hlength
          split at h
          next => exact Nat.le_add_right_of_le (finish?_weights h)
          next => exact ih.onward h (Nat.add_le_add_left hlength _)
          next => exact ih.onward h (Nat.add_le_add_left hlength _)
          next => exact ih.enterLine hlength h
        next =>
          split at h
          next => exact ih.enterLine (Nat.le_refl _) h
          next => exact ih.scanToken _ _ _ h

theorem unifyBreaks_length (cs : List Char) : (unifyBreaks cs).length ≤ cs.length := by
  fun_induction unifyBreaks cs <;> simp only [List.length_cons, List.length_nil] <;> omega

theorem scan?_weights {cs : List Char} {ts : List Token} (h : scan? cs = some ts) : weights ts ≤ cs.length := by
  have hts := scanFrom_bounded _ _ _ _ h
  have hlength := unifyBreaks_length cs
  dsimp only at hts
  rw [weights_nil] at hts
  omega

end Token

end AccessPolicy
