import AccessPolicy.Proofs.Petitions

/-!
What permission evaluators are asked. Inquiries are policies of constants and permission questions; evaluating one
asks the evaluator exactly what is come to from left to right, where what it has answered before decides how it
goes on, and nothing after a question that it gave no truth value for.
-/

namespace AccessPolicy

open Handler (caller)

variable {σ : Type}

/-- A policy whose leaves are constants and permission questions. -/
inductive Inquiry where
  | constant (b : Bool)
  | permission (p : Petition Literal)
  | not (i : Inquiry)
  | connected (op : Connective) (first : Inquiry) (rest : List Inquiry)
  | conditional (test body orelse : Inquiry)

namespace Inquiry

mutual

def expr : Inquiry → Expr
  | .constant b => (Formula.constant b).expr
  | .permission p => p.expr
  | .not i => .unary .not i.expr
  | .connected op i is => .connected op (i.expr :: exprs is)
  | .conditional test body orelse => .conditional test.expr body.expr orelse.expr

def exprs : List Inquiry → List Expr
  | [] => []
  | i :: is => i.expr :: exprs is

end

end Inquiry

/-- A question to a permission evaluator, whom it is about, and the world that it is asked in. -/
structure Consultation (σ : Type) where
  who : Option Authentication
  question : PermissionQuestion
  world : σ

/-- Whether an evaluator gives a truth value for an answer. -/
def Consultation.Answered (e : PermissionEvaluator σ) (c : Consultation σ) : Prop :=
  ∃ b t, (e.answer c.who c.question).outcome c.world = (.ok (.bool b), t)

/-- The evaluator that answers as another one does and puts on record what it is asked. -/
def PermissionEvaluator.recording (e : PermissionEvaluator σ) :
    PermissionEvaluator (σ × List (Consultation σ)) :=
  .lent e.name fun who q (s, made) =>
    let (r, t) := (e.answer who q).outcome s
    (r, (t, made ++ [⟨who, q, s⟩]))

theorem PermissionEvaluator.outcome_recording (e : PermissionEvaluator σ) (who : Option Authentication)
    (q : PermissionQuestion) (s : σ) (made : List (Consultation σ)) :
    (e.recording.answer who q).outcome (s, made) =
      (((e.answer who q).outcome s).1, (((e.answer who q).outcome s).2, made ++ [⟨who, q, s⟩])) := rfl

/-- The handler whose evaluator keeps a record. -/
def Handler.recording (h : Handler σ) : Handler (σ × List (Consultation σ)) where
  rolePrefix := h.rolePrefix
  evaluator := h.evaluator.map PermissionEvaluator.recording
  hierarchy := h.hierarchy
  beans := h.beans
  templates := h.templates
  send o name args named := fun (s, made) =>
    let (r, t) := (h.send o name args named).outcome s
    (r, (t, made))

theorem outcome_asked (e : PermissionEvaluator σ) (who : Option Authentication) (p : Petition Literal) (n : Nat)
    (s : σ) :
    (liftM (Value.bool <$> e.ask who (p.args.map Literal.value)) : Evaluation σ Value).outcome n s =
      ((PermissionEvaluator.judged e.name ((e.answer who p.question).outcome s).1).map fun b => (.bool b, n),
        ((e.answer who p.question).outcome s).2) := by
  rw [Evaluation.outcome_liftM, Run.outcome_map, e.outcome_ask who p.ofArgs?_args]
  cases PermissionEvaluator.judged e.name ((e.answer who p.question).outcome s).1 <;> rfl

/-- The truth value that leaves the rest of a chain unread. -/
def Connective.settling : Connective → Bool
  | .and => false
  | .or => true

namespace Inquiry

variable (e : PermissionEvaluator σ) (who : Option Authentication)

mutual

/-- How an inquiry proceeds from a world: what the evaluator is asked, the truth value that this comes to, if to
any, and the world that is left. -/
inductive Proceeds : Inquiry → σ → List (Consultation σ) → Option Bool → σ → Prop
  | constant {b s} : Proceeds (.constant b) s [] (some b) s
  | answered {p b s t} (brief : ¬p.Overlong) (answer : (e.answer who p.question).outcome s = (.ok (.bool b), t)) :
    Proceeds (.permission p) s [⟨who, p.question, s⟩] (some b) t
  | unanswered {p r s t} (brief : ¬p.Overlong) (answer : (e.answer who p.question).outcome s = (r, t))
    (undecided : ∀ b, r ≠ .ok (.bool b)) : Proceeds (.permission p) s [⟨who, p.question, s⟩] none t
  | overlong {p s} (overlong : p.Overlong) : Proceeds (.permission p) s [] none s
  | not {i r s t made} (operand : Proceeds i s made r t) : Proceeds (.not i) s made (r.map (!·)) t
  | connected {op i is r s t made} (chain : ProceedsAlong op i is s made r t) :
    Proceeds (.connected op i is) s made r t
  | chosen {test body orelse b r s t u made more} (chooses : Proceeds test s made (some b) t)
    (chosen : Proceeds (if b then body else orelse) t more r u) :
    Proceeds (.conditional test body orelse) s (made ++ more) r u
  | undecided {test body orelse s t made} (chooses : Proceeds test s made none t) :
    Proceeds (.conditional test body orelse) s made none t

/-- The same for a chain of inquiries, which ends with the first one that settles it. -/
inductive ProceedsAlong : Connective → Inquiry → List Inquiry → σ → List (Consultation σ) → Option Bool → σ → Prop
  | last {op i r s t made} (operand : Proceeds i s made r t) : ProceedsAlong op i [] s made r t
  | settled {op i j is s t made} (operand : Proceeds i s made (some op.settling) t) :
    ProceedsAlong op i (j :: is) s made (some op.settling) t
  | onward {op i j is r s t u made more} (operand : Proceeds i s made (some !op.settling) t)
    (rest : ProceedsAlong op j is t more r u) : ProceedsAlong op i (j :: is) s (made ++ more) r u
  | stopped {op i j is s t made} (operand : Proceeds i s made none t) : ProceedsAlong op i (j :: is) s made none t

end

/-- Whether nothing is asked after a question without a truth value for an answer, and nothing comes of it. -/
def Stops (made : List (Consultation σ)) (r : Option Bool) : Prop :=
  ∀ c ∈ made, ¬c.Answered e → r = none ∧ ∃ earlier, made = earlier ++ [c] ∧ ∀ d ∈ earlier, d.Answered e

variable {e who}

theorem Stops.nil (r : Option Bool) : Stops e [] r := nofun

theorem Stops.answered {made : List (Consultation σ)} {b : Bool} (h : Stops e made (some b)) :
    ∀ c ∈ made, c.Answered e := by
  intro c hc
  by_contra hunanswered
  obtain ⟨hnone, _⟩ := h c hc hunanswered
  cases hnone

theorem Stops.append {made more : List (Consultation σ)} {b : Bool} {r : Option Bool} (h : Stops e made (some b))
    (h' : Stops e more r) : Stops e (made ++ more) r := by
  intro c hc hunanswered
  rcases List.mem_append.mp hc with hc | hc
  · exact absurd (h.answered c hc) hunanswered
  · obtain ⟨hnone, earlier, rfl, hearlier⟩ := h' c hc hunanswered
    refine ⟨hnone, made ++ earlier, (List.append_assoc ..).symm, fun d hd => ?_⟩
    rcases List.mem_append.mp hd with hd | hd
    · exact h.answered d hd
    · exact hearlier d hd

mutual

theorem exists_proceeds (e : PermissionEvaluator σ) (who : Option Authentication) (i : Inquiry) (s : σ) :
    ∃ made r t, Proceeds e who i s made r t :=
  match i with
  | .constant b => ⟨[], some b, s, .constant⟩
  | .permission p => by
    by_cases hp : p.Overlong
    · exact ⟨[], none, s, .overlong hp⟩
    · cases ha : (e.answer who p.question).outcome s with
      | mk r t =>
        by_cases hr : ∃ b, r = .ok (.bool b)
        · obtain ⟨b, rfl⟩ := hr
          exact ⟨_, some b, t, .answered hp ha⟩
        · exact ⟨_, none, t, .unanswered hp ha fun b hb => hr ⟨b, hb⟩⟩
  | .not i =>
    let ⟨made, r, t, hi⟩ := exists_proceeds e who i s
    ⟨made, r.map (!·), t, .not hi⟩
  | .connected op i is =>
    let ⟨made, r, t, hi⟩ := exists_along e who op i (exists_proceeds e who i) is s
    ⟨made, r, t, .connected hi⟩
  | .conditional test body orelse => by
    obtain ⟨made, r, t, htest⟩ := exists_proceeds e who test s
    cases r with
    | none => exact ⟨made, none, t, .undecided htest⟩
    | some b =>
      obtain ⟨more, r, u, hchosen⟩ : ∃ more r u, Proceeds e who (if b then body else orelse) t more r u := by
        cases b with
        | true => exact exists_proceeds e who body t
        | false => exact exists_proceeds e who orelse t
      exact ⟨made ++ more, r, u, .chosen htest hchosen⟩
termination_by structural i

theorem exists_along (e : PermissionEvaluator σ) (who : Option Authentication) (op : Connective) (i : Inquiry)
    (hi : ∀ s, ∃ made r t, Proceeds e who i s made r t) (is : List Inquiry) (s : σ) :
    ∃ made r t, ProceedsAlong e who op i is s made r t := by
  obtain ⟨made, r, t, hproceeds⟩ := hi s
  match is with
  | [] => exact ⟨made, r, t, .last hproceeds⟩
  | j :: js =>
    cases r with
    | none => exact ⟨made, none, t, .stopped hproceeds⟩
    | some b =>
      by_cases hb : b = op.settling
      · subst hb
        exact ⟨made, _, t, .settled hproceeds⟩
      · obtain rfl : b = !op.settling := Bool.eq_not_of_ne hb
        obtain ⟨more, r, u, hrest⟩ := exists_along e who op j (exists_proceeds e who j) js t
        exact ⟨made ++ more, r, u, .onward hproceeds hrest⟩
termination_by structural is

end

/-- How an evaluation ends that comes to a truth value, or to none. -/
def Ends (r : Option Bool) (n : Nat) (result : Except Failure (Value × Nat)) : Prop :=
  match r with
  | some b => result = .ok (.bool b, n)
  | none => ∃ f, result = .error f

/-- Whether an evaluation asks an evaluator some questions and ends as they make it end, also on record. -/
structure Traced (e : PermissionEvaluator σ) (x : Evaluation σ Value)
    (y : Evaluation (σ × List (Consultation σ)) Value) (s : σ) (made : List (Consultation σ)) (r : Option Bool)
    (t : σ) : Prop where
  outcome : ∀ n earlier, ∃ result, Ends r n result ∧ x.outcome n s = (result, t) ∧
    y.outcome n (s, earlier) = (result, (t, earlier ++ made))
  stops : Stops e made r

namespace Traced

variable {x : Evaluation σ Value} {y : Evaluation (σ × List (Consultation σ)) Value} {k : Value → Evaluation σ Value}
  {l : Value → Evaluation (σ × List (Consultation σ)) Value} {s t u : σ} {made more : List (Consultation σ)}
  {b : Bool} {r : Option Bool}

theorem pure (b : Bool) (s : σ) : Traced e (Pure.pure (.bool b)) (Pure.pure (.bool b)) s [] (some b) s := by
  refine ⟨fun n earlier => ⟨_, rfl, rfl, ?_⟩, .nil _⟩
  rw [List.append_nil]
  rfl

theorem bind (h : Traced e x y s made (some b) t) (hk : Traced e (k (.bool b)) (l (.bool b)) t more r u) :
    Traced e (x >>= k) (y >>= l) s (made ++ more) r u := by
  refine ⟨fun n earlier => ?_, h.stops.append hk.stops⟩
  obtain ⟨_, rfl, hx, hy⟩ := h.outcome n earlier
  obtain ⟨result, hends, hk, hl⟩ := hk.outcome n (earlier ++ made)
  refine ⟨result, hends, ?_, ?_⟩
  · rw [Evaluation.outcome_bind, hx]
    exact hk
  · rw [Evaluation.outcome_bind, hy, ← List.append_assoc]
    exact hl

theorem bind_pure (h : Traced e x y s made (some b) t) {b' : Bool} (hk : k (.bool b) = Pure.pure (.bool b'))
    (hl : l (.bool b) = Pure.pure (.bool b')) : Traced e (x >>= k) (y >>= l) s made (some b') t := by
  have hbind := h.bind (k := k) (l := l) (by rw [hk, hl]; exact .pure b' t)
  rwa [List.append_nil] at hbind

theorem bind_none (h : Traced e x y s made none t) : Traced e (x >>= k) (y >>= l) s made none t := by
  refine ⟨fun n earlier => ?_, h.stops⟩
  obtain ⟨_, ⟨f, rfl⟩, hx, hy⟩ := h.outcome n earlier
  refine ⟨.error f, ⟨f, rfl⟩, ?_, ?_⟩
  · rw [Evaluation.outcome_bind, hx]
  · rw [Evaluation.outcome_bind, hy]

end Traced

section Evaluating

variable {h : Handler σ} {who : Option Authentication} {ctx : Context σ}
  {ctx' : Context (σ × List (Consultation σ))} {s t : σ} {made : List (Consultation σ)} {r : Option Bool}

theorem traced_constant (hc : h.Identifies who ctx) (hc' : h.recording.Identifies who ctx') (source : String) (b : Bool)
    (s : σ) :
    Traced e (Evaluation.eval ctx source [] (Inquiry.constant b).expr)
      (Evaluation.eval ctx' source [] (Inquiry.constant b).expr) s [] (some b) s := by
  have hx : Evaluation.eval ctx source [] (Inquiry.constant b).expr = pure (.bool b) := eval_constant hc source b
  have hy : Evaluation.eval ctx' source [] (Inquiry.constant b).expr = pure (.bool b) := eval_constant hc' source b
  rw [hx, hy]
  exact .pure b s

theorem traced_permission (hc : h.Identifies who ctx) (hc' : h.recording.Identifies who ctx')
    (he : h.evaluator = some e) (source : String) {p : Petition Literal}
    (hp : Proceeds e (some (caller who)) (.permission p) s made r t) :
    Traced e (Evaluation.eval ctx source [] p.expr) (Evaluation.eval ctx' source [] p.expr) s made r t := by
  have he' : h.recording.evaluator = some e.recording := congrArg (Option.map PermissionEvaluator.recording) he
  cases hp with
  | answered brief answer =>
    refine ⟨fun n earlier => ⟨_, rfl, ?_, ?_⟩, ?_⟩
    · rw [Petition.eval_brief hc he brief, outcome_asked, answer]
      rfl
    · rw [Petition.eval_brief hc' he' brief, outcome_asked, PermissionEvaluator.outcome_recording, answer]
      rfl
    · intro c hc hunanswered
      cases List.mem_singleton.mp hc
      exact absurd ⟨_, _, answer⟩ hunanswered
  | unanswered brief answer undecided =>
    obtain ⟨f, hf⟩ := PermissionEvaluator.judged_error e.name undecided
    refine ⟨fun n earlier => ⟨.error (.permission f), ⟨_, rfl⟩, ?_, ?_⟩, ?_⟩
    · rw [Petition.eval_brief hc he brief, outcome_asked, answer]
      simp only [hf]
      rfl
    · rw [Petition.eval_brief hc' he' brief, outcome_asked, PermissionEvaluator.outcome_recording, answer]
      simp only [show e.recording.name = e.name from rfl, hf]
      rfl
    · intro c hc hunanswered
      cases List.mem_singleton.mp hc
      exact ⟨rfl, [], rfl, List.forall_mem_nil _⟩
  | overlong hlong =>
    obtain ⟨n, _, hfault⟩ := Petition.eval_overlong hlong
    rw [hfault hc source, hfault hc' source]
    refine ⟨fun n earlier => ⟨_, ⟨_, rfl⟩, rfl, ?_⟩, .nil _⟩
    rw [List.append_nil]
    rfl

mutual

/-- The step for each way in which an inquiry is built. -/
theorem traced_eval (hc : h.Identifies who ctx) (hc' : h.recording.Identifies who ctx') (he : h.evaluator = some e)
    (source : String) (i : Inquiry) {s t : σ} {made : List (Consultation σ)} {r : Option Bool}
    (hi : Proceeds e (some (caller who)) i s made r t) :
    Traced e (Evaluation.eval ctx source [] i.expr) (Evaluation.eval ctx' source [] i.expr) s made r t :=
  match i with
  | .constant b => by
    cases hi with
    | constant => exact traced_constant hc hc' source b s
  | .permission p => traced_permission hc hc' he source hi
  | .not i => by
    cases hi with
    | @not _ r _ _ _ operand =>
      have htraced := traced_eval hc hc' he source i operand
      cases r with
      | none => exact htraced.bind_none
      | some b => exact htraced.bind_pure rfl rfl
  | .connected op i is => by
    cases hi with
    | connected chain =>
      exact traced_along hc hc' he source op i (fun hi => traced_eval hc hc' he source i hi) is chain
  | .conditional test body orelse => by
    cases hi with
    | @chosen _ _ _ b _ _ _ _ _ _ chooses chosen =>
      refine (traced_eval hc hc' he source test chooses).bind ?_
      cases b with
      | true => exact traced_eval hc hc' he source body chosen
      | false => exact traced_eval hc hc' he source orelse chosen
    | undecided chooses => exact (traced_eval hc hc' he source test chooses).bind_none
termination_by structural i

theorem traced_along (hc : h.Identifies who ctx) (hc' : h.recording.Identifies who ctx') (he : h.evaluator = some e)
    (source : String) (op : Connective) (i : Inquiry)
    (hi : ∀ {s t made r}, Proceeds e (some (caller who)) i s made r t →
      Traced e (Evaluation.eval ctx source [] i.expr) (Evaluation.eval ctx' source [] i.expr) s made r t)
    (is : List Inquiry) {s t : σ} {made : List (Consultation σ)} {r : Option Bool}
    (hchain : ProceedsAlong e (some (caller who)) op i is s made r t) :
    Traced e (Evaluation.evalConnected ctx source [] op (i.expr :: exprs is))
      (Evaluation.evalConnected ctx' source [] op (i.expr :: exprs is)) s made r t :=
  match is with
  | [] => by
    cases hchain with
    | last operand => exact hi operand
  | j :: js => by
    cases hchain with
    | settled operand => exact (hi operand).bind_pure (by cases op <;> rfl) (by cases op <;> rfl)
    | onward operand rest =>
      have htraced := traced_along hc hc' he source op j (fun hj => traced_eval hc hc' he source j hj) js rest
      refine (hi operand).bind ?_
      cases op <;> exact htraced
    | stopped operand => exact (hi operand).bind_none
termination_by structural is

end

end Evaluating

end Inquiry

namespace Guard

variable {e : PermissionEvaluator σ} {h : Handler σ} {who : Option Authentication} {ctx : Context σ}
  {ctx' : Context (σ × List (Consultation σ))}

theorem outcome_inquiry (hc : h.Identifies who ctx) (hc' : h.recording.Identifies who ctx') (he : h.evaluator = some e)
    (source label : String) {i : Inquiry} {s t : σ} {made : List (Consultation σ)} {r : Option Bool}
    (hi : Inquiry.Proceeds e (some (caller who)) i s made r t) (earlier : List (Consultation σ)) :
    ∃ result, ((Guard.mk source label i.expr).evaluate ctx).outcome s = (result, t) ∧
      ((Guard.mk source label i.expr).evaluate ctx').outcome (s, earlier) = (result, (t, earlier ++ made)) ∧
      (∀ b, r = some b → result = .ok (.bool b)) ∧ (r = none → ∃ f, result = .error f) := by
  obtain ⟨result, hends, hx, hy⟩ := (Inquiry.traced_eval hc hc' he source i hi).outcome 0 earlier
  refine ⟨(result.map Prod.fst).mapError (wrap ⟨source, label, i.expr⟩), ?_, ?_, ?_, ?_⟩
  · rw [outcome_evaluate, Expr.outcome_eval, hx]
    rfl
  · rw [outcome_evaluate, Expr.outcome_eval, hy]
    rfl
  · rintro b rfl
    cases hends
    rfl
  · rintro rfl
    obtain ⟨f, rfl⟩ := hends
    exact ⟨_, rfl⟩

/-- A guard of permission questions asks the evaluator exactly what its inquiry comes to, for every evaluator and
every identity, also a missing one: each question once, in the order in which evaluation comes to it and with the
identity of whoever calls, and none after one that has no truth value for an answer. The guard comes to the truth
value that the answers make, if there is one, and keeping a record changes nothing. -/
theorem asks_as_inquired (h : Handler σ) {e : PermissionEvaluator σ} (he : h.evaluator = some e)
    (who : Option Authentication) {ctx : Context σ} {ctx' : Context (σ × List (Consultation σ))} (hm : h.Makes who ctx)
    (hm' : h.recording.Makes who ctx') (source label : String) (i : Inquiry) (s : σ) :
    (∃ made r t, Inquiry.Proceeds e (some (caller who)) i s made r t) ∧
    ∀ made r t, Inquiry.Proceeds e (some (caller who)) i s made r t →
      (∀ earlier, ∃ result, ((Guard.mk source label i.expr).evaluate ctx).outcome s = (result, t) ∧
        ((Guard.mk source label i.expr).evaluate ctx').outcome (s, earlier) = (result, (t, earlier ++ made)) ∧
        (∀ b, r = some b → result = .ok (.bool b)) ∧ (r = none → ∃ f, result = .error f)) ∧
      Inquiry.Stops e made r := by
  refine ⟨Inquiry.exists_proceeds e (some (caller who)) i s, fun made r t hi => ⟨fun earlier => ?_, ?_⟩⟩
  · exact outcome_inquiry hm.identifies hm'.identifies he source label hi earlier
  · exact (Inquiry.traced_eval hm.identifies hm'.identifies he source i hi).stops

end Guard

namespace Inquiry

/-- An evaluator that grants what it is asked first, and then every other thing. -/
def alternating : PermissionEvaluator Nat := .lent "alternating" fun _ _ n => (.ok (.bool (n % 2 == 0)), n + 1)

def wavering : Handler Nat where
  evaluator := some alternating
  send _ _ _ _ := throw (.operand .wrongType)

def writer : Petition Literal := .byId (.int 7) (.text "Document") (.text "write")

def reader : Petition Literal := .object (.int 7) (.text "read")

/-- Whoever may write but not read comes in. -/
def blindWriter : Inquiry :=
  .conditional (.connected .and (.permission writer) [.not (.permission reader)]) (.constant true) (.constant false)

def blindWriterGuard : Guard where
  source := "permitAll if hasPermission(7, 'Document', 'write') and not hasPermission(7, 'read') else denyAll"
  label := "rule"
  expr := blindWriter.expr

/-- The evaluator is asked for the anonymous user: about the document by its id, and then about the number. -/
theorem blindWriter_asks :
    (blindWriterGuard.evaluate (wavering.recording.commonContext none)).outcome (0, []) =
      (.ok (.bool true), 2,
        [⟨some Authentication.anonymousUser, .byId (.int 7) (.text "Document") (.text "write"), 0⟩,
          ⟨some Authentication.anonymousUser, .object (.int 7) (.text "read"), 1⟩]) := by
  have hwriter : ¬writer.Overlong := by decide
  have hreader : ¬reader.Overlong := by decide
  have hproceeds : Proceeds alternating (some (caller none)) blindWriter 0
      ([⟨some (caller none), writer.question, 0⟩] ++ [⟨some (caller none), reader.question, 1⟩] ++ []) (some true) 2 :=
    .chosen (.connected (.onward (.answered hwriter rfl) (.last (.not (.answered hreader rfl))))) .constant
  obtain ⟨_, hruns⟩ := Guard.asks_as_inquired wavering rfl none .common .common blindWriterGuard.source "rule"
    blindWriter 0
  obtain ⟨houtcome, _⟩ := hruns _ _ _ hproceeds
  obtain ⟨result, _, hrecorded, hdecided, _⟩ := houtcome []
  rw [hdecided true rfl] at hrecorded
  exact hrecorded

/-- A question about a text that is just too long. -/
def longPetition : Petition Literal := .object (.text (Formula.repeated (maxLength + 1))) (.text "read")

def longGuard : Guard where
  source := "hasPermission('" ++ Formula.repeated (maxLength + 1) ++ "', 'read')"
  label := "rule"
  expr := (Inquiry.permission longPetition).expr

/-- Evaluation comes to the question at once and yet does not ask it. -/
theorem longPetition_unasked :
    ((longGuard.evaluate (wavering.recording.commonContext none)).outcome (0, [])).2 = (0, []) ∧
    ((longGuard.evaluate (wavering.recording.commonContext none)).outcome (0, [])).2.2 ≠
      [⟨some Authentication.anonymousUser, longPetition.question, 0⟩] := by
  have hc : wavering.Identifies none (wavering.commonContext none) := Handler.commonContext_identifies
  have hproceeds : Proceeds alternating (some (caller none)) (.permission longPetition) 0 [] none 0 :=
    .overlong ⟨_, List.mem_cons_self, Formula.repeated_overlong⟩
  obtain ⟨result, _, hrecorded, _⟩ := Guard.outcome_inquiry hc Handler.commonContext_identifies rfl longGuard.source
    "rule" hproceeds []
  have hunasked : ((longGuard.evaluate (wavering.recording.commonContext none)).outcome (0, [])).2 = (0, []) :=
    congrArg Prod.snd hrecorded
  refine ⟨hunasked, ?_⟩
  rw [hunasked]
  exact (List.cons_ne_nil _ _).symm

end Inquiry

end AccessPolicy
