import AccessPolicy.Proofs.PlainGuards
import AccessPolicy.Proofs.Statements

/-!
Texts that are one expression. A text whose tokens are those of one expression and the end of its line is read as
that expression; of any other text at most the first statement counts.
-/

namespace AccessPolicy

open Reader

namespace Guard

/-- That a text, as a whole, is one expression: its tokens are those of the expression, nested to any depth, and the
end of its line. -/
def IsExpression (source : String) (e : Expr) : Prop :=
  ∃ n tokens, Token.scan? source.toList = some tokens ∧
    (Statement.assigned (Grammar.ofDepth n)).run tokens = some (e, [.newline])

/-- That a text begins with an expression as a statement: its tokens are those of the expression, nested to any
depth, and from there on those of the end of a statement and of what may follow. -/
def Begins (source : String) (e : Expr) : Prop :=
  ∃ n tokens after, Token.scan? source.toList = some tokens ∧
    (Statement.assigned (Grammar.ofDepth n)).run tokens = some (e, after) ∧
    after.head?.any Token.endsStatement = true

/-- That no token of a text separates statements, and none but the last ends a line. -/
def OneStatement (source : String) : Prop :=
  ∀ tokens, Token.scan? source.toList = some tokens →
    (∀ t ∈ tokens, isOp ";" t = false) ∧ ∀ t ∈ tokens.dropLast, t.endsStatement = false

variable {text label source : String} {e : Expr} {g : Guard}

theorem oneStatement_iff : ((Token.scan? source.toList).all fun ts =>
    ts.all (!isOp ";" ·) && ts.dropLast.all (!·.endsStatement)) = true ↔ OneStatement source := by
  unfold OneStatement
  cases Token.scan? source.toList with
  | none => simp
  | some ts => simp [List.all_eq_true]

instance : Decidable (OneStatement source) := decidable_of_iff _ oneStatement_iff

theorem IsExpression.unique {e' : Expr} (h : IsExpression source e) (h' : IsExpression source e') : e = e' := by
  obtain ⟨n, tokens, htokens, hn⟩ := h
  obtain ⟨m, tokens', htokens', hm⟩ := h'
  cases htokens.symm.trans htokens'
  have hn := (Statement.assigned_ofDepth hn (Statement.weights_le_depthOf htokens)).1
  have hm := (Statement.assigned_ofDepth hm (Statement.weights_le_depthOf htokens)).1
  exact (Prod.mk.inj (Option.some.inj (hn.symm.trans hm))).1

/-- A text of one statement that begins with an expression is this expression. -/
theorem Begins.isExpression (h : Begins source e) (hone : OneStatement source) : IsExpression source e := by
  obtain ⟨n, tokens, after, htokens, hn, hend⟩ := h
  obtain ⟨hsign, hlast⟩ := hone tokens htokens
  obtain ⟨before, rfl⟩ := (Statement.assigned_ofDepth hn (Nat.le_refl _)).2
  rcases after with - | ⟨t, after⟩
  · cases hend
  · have hnewline : t = .newline := by
      have hsign := hsign t (List.mem_append_right before List.mem_cons_self)
      cases t with
      | newline => rfl
      | op o => exact absurd (show isOp ";" (.op o) = true from hend) (by rw [hsign]; exact Bool.false_ne_true)
      | name | literal | text | indent | dedent => cases hend
    subst hnewline
    rcases after with - | ⟨u, after⟩
    · exact ⟨n, _, htokens, hn⟩
    · have hmem : Token.newline ∈ (before ++ .newline :: u :: after).dropLast := by
        rw [List.dropLast_append_of_ne_nil (List.cons_ne_nil _ _), List.dropLast_cons_of_ne_nil (List.cons_ne_nil _ _)]
        exact List.mem_append_right before List.mem_cons_self
      cases hlast .newline hmem

theorem IsExpression.ofSource? (h : IsExpression source e) :
    Statement.ofSource? source.toList = some [.expression e] := by
  obtain ⟨n, tokens, htokens, hn⟩ := h
  exact Statement.ofSource?_of_assigned htokens (Statement.assigned_ofDepth hn (Statement.weights_le_depthOf htokens)).1

theorem IsExpression.ne_empty (h : IsExpression source e) : source ≠ "" := by
  rintro rfl
  obtain ⟨n, tokens, htokens, hn⟩ := h
  cases htokens
  have hsuffix := (Statement.assigned_ofDepth hn (Nat.le_refl _)).2
  simp at hsuffix

theorem begins_of_ofSource? {more : List Statement}
    (h : Statement.ofSource? source.toList = some (.expression e :: more)) : Begins source e := by
  obtain ⟨tokens, htokens, _⟩ := Option.bind_eq_some_iff.mp h
  rcases tokens with - | ⟨t, ts⟩
  · unfold Statement.ofSource? at h
    rw [htokens] at h
    cases h
  · obtain ⟨s, more', hstatements, hs⟩ := Statement.ofSource?_first htokens h
    obtain ⟨after, hafter, hend⟩ := hs e (List.cons.inj hstatements).1.symm
    exact ⟨_, _, after, htokens, hafter, hend⟩

theorem scan?_of_ofSource?_nil (h : Statement.ofSource? source.toList = some []) :
    Token.scan? source.toList = some [] := by
  obtain ⟨tokens, htokens, _⟩ := Option.bind_eq_some_iff.mp h
  rcases tokens with - | ⟨t, ts⟩
  · exact htokens
  · obtain ⟨s, more, hstatements, _⟩ := Statement.ofSource?_first htokens h
    cases hstatements

/-- A text that is one expression is accepted as this expression. An accepted text begins with its expression as a
statement, and is that expression as a whole if it has no other statement. Any other text is a misconfiguration, but
for one with a null character and one of comments only. -/
theorem ofText_reads (text label : String) :
    (∀ e, IsExpression (Text.strip text) e → '\x00' ∉ (Text.strip text).toList →
        ofText text label = .ok ⟨Text.strip text, label, e⟩) ∧
      (∀ g, ofText text label = .ok g → g.source = Text.strip text ∧ g.label = label ∧
        '\x00' ∉ (Text.strip text).toList ∧ Begins (Text.strip text) g.expr ∧
          (OneStatement (Text.strip text) → IsExpression (Text.strip text) g.expr)) ∧
      ∀ f, ofText text label = .error f → (∃ m, f = .configuration m) ∨ '\x00' ∈ (Text.strip text).toList ∨
        (Text.strip text ≠ "" ∧ Token.scan? (Text.strip text).toList = some []) := by
  refine ⟨fun e he hnul => ?_, fun g hg => ?_, fun f hf => ?_⟩
  · have hne : (Text.strip text).isEmpty = false := by
      rw [Bool.eq_false_iff, Ne, String.isEmpty_iff]
      exact he.ne_empty
    have hfalse : (Text.strip text).toList.contains '\x00' = false := by
      rwa [← Bool.not_eq_true, List.contains_iff_mem]
    unfold ofText
    dsimp only
    rw [hne, hfalse, he.ofSource?]
    rfl
  · unfold ofText at hg
    dsimp only at hg
    split at hg
    next => cases hg
    next hne =>
      split at hg
      next => cases hg
      next hnul =>
        split at hg
        next => cases hg
        next => cases hg
        next e more hstatements =>
          cases hg
          have hbegins := begins_of_ofSource? hstatements
          refine ⟨rfl, rfl, ?_, hbegins, hbegins.isExpression⟩
          simpa using hnul
        next => cases hg
  · unfold ofText at hf
    dsimp only at hf
    split at hf
    next =>
      cases hf
      exact .inl ⟨_, rfl⟩
    next hne =>
      split at hf
      next hnul => exact .inr (.inl (List.contains_iff_mem.mp hnul))
      next =>
        split at hf
        next =>
          cases hf
          exact .inl ⟨_, rfl⟩
        next hnone =>
          refine .inr (.inr ⟨?_, scan?_of_ofSource?_nil hnone⟩)
          rintro heq
          rw [heq] at hne
          exact hne rfl
        next => cases hf
        next =>
          cases hf
          exact .inl ⟨_, rfl⟩

theorem ofText_reads_role :
    IsExpression (Text.strip "hasRole('ADMIN') # staff") (Plain.ask "hasRole" [.text "ADMIN"]).expr ∧
      ∃ m, ofText "role = 'ADMIN'" "here" = .error (.configuration m) := by
  have hread : readsAs "hasRole('ADMIN') # staff" (.ask "hasRole" [.text "ADMIN"]) = true := by decide +kernel
  obtain ⟨_, _, _, _, hwhole⟩ := (ofText_reads "hasRole('ADMIN') # staff" "here").2.1 _ (ofText_plain hread "here")
  have hrefused : (ofText "role = 'ADMIN'" "here").toOption.isNone = true := by decide +kernel
  refine ⟨hwhole (by decide +kernel), ?_⟩
  cases hf : ofText "role = 'ADMIN'" "here" with
  | ok g =>
    rw [hf] at hrefused
    cases hrefused
  | error f =>
    rcases (ofText_reads "role = 'ADMIN'" "here").2.2 f hf with ⟨m, rfl⟩ | hnul | ⟨_, hcomment⟩
    · exact ⟨m, rfl⟩
    · exact absurd hnul (by decide +kernel)
    · have htokens : (Token.scan? (Text.strip "role = 'ADMIN'").toList).any List.isEmpty = false := by decide +kernel
      rw [hcomment] at htokens
      cases htokens

/-- The second line of a text is never looked at, nor is a text of comments only a misconfiguration. -/
theorem second_line_unread :
    ofText "permitAll\ndenyAll" "here" = .ok ⟨"permitAll\ndenyAll", "here", .name "permitAll"⟩ ∧
      (¬∃ e, IsExpression (Text.strip "permitAll\ndenyAll") e) ∧
      ofText "# denyAll" "here" = .error (.expression .nothingToEvaluate) := by
  have hread : readsAs "permitAll\ndenyAll" (.read "permitAll") = true := by decide +kernel
  refine ⟨ofText_plain hread "here", ?_, ?_⟩
  · rintro ⟨e, he⟩
    have htwo : (Statement.ofSource? (Text.strip "permitAll\ndenyAll").toList).map List.length = some 2 := by
      decide +kernel
    rw [he.ofSource?] at htwo
    cases htwo
  · rfl

end Guard

end AccessPolicy
