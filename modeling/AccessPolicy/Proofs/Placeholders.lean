import AccessPolicy.Template

/-!
Templates that are written in pieces: texts without braces, placeholders and doubled names. However the pieces follow
each other, the template is read as it was written. It expands to its texts as they are, to the values of its
placeholders and to its doubled names in single braces, and what has been inserted is not looked at again.
-/

namespace AccessPolicy

/-- A name that stands in braces. -/
structure BracedName where
  first : Char
  rest : List Char
  starts : TemplatePart.isNameStart first = true
  continues : ∀ c ∈ rest, TemplatePart.isNamePart c = true

namespace BracedName

def chars (n : BracedName) : List Char := n.first :: n.rest

def text (n : BracedName) : String := String.ofList n.chars

end BracedName

/-- A piece that a template is written in. -/
inductive TemplatePiece where
  | literal (cs : List Char) (plain : ∀ c ∈ cs, c ≠ '\x7b' ∧ c ≠ '\x7d')
  | placeholder (n : BracedName)
  | doubled (n : BracedName)

namespace TemplatePiece

/-- How a piece is written. -/
def source : TemplatePiece → List Char
  | literal cs _ => cs
  | placeholder n => '\x7b' :: (n.chars ++ ['\x7d'])
  | doubled n => '\x7b' :: '\x7b' :: (n.chars ++ ['\x7d', '\x7d'])

/-- The parts that a piece is to be read as. -/
def parts : TemplatePiece → List TemplatePart
  | literal cs _ => cs.map .text
  | placeholder n => [.placeholder n.text]
  | doubled n => [.braced n.text]

/-- What a piece is replaced by; nothing, if there is no value for it. -/
def replacement (params : List (String × Value)) : TemplatePiece → List Char
  | literal cs _ => cs
  | placeholder n => (params.lookup n.text).elim [] fun v => v.shown.toList
  | doubled n => '\x7b' :: (n.chars ++ ['\x7d'])

/-- That a piece is a placeholder without a value. -/
def Missing (params : List (String × Value)) : TemplatePiece → Prop
  | placeholder n => params.lookup n.text = none
  | _ => False

/-- That a piece is a placeholder for a value that has no text, since it has too many digits. -/
def Unwritable (params : List (String × Value)) : TemplatePiece → Prop
  | placeholder n => ∃ v, params.lookup n.text = some v ∧ v.tooLongToWrite = true
  | _ => False

/-- That a piece of one kind comes before all those of another. -/
inductive Comes (P Q : TemplatePiece → Prop) : List TemplatePiece → Prop where
  | here {p : TemplatePiece} {ps : List TemplatePiece} (h : P p) : Comes P Q (p :: ps)
  | later {p : TemplatePiece} {ps : List TemplatePiece} (h : ¬Q p) (hs : Comes P Q ps) : Comes P Q (p :: ps)

theorem Comes.congr {P P' Q Q' : TemplatePiece → Prop} (hP : ∀ p, P p ↔ P' p) (hQ : ∀ p, Q p ↔ Q' p)
    {ps : List TemplatePiece} : Comes P Q ps ↔ Comes P' Q' ps := by
  have hfirst : P = P' := funext fun p => propext (hP p)
  have hothers : Q = Q' := funext fun p => propext (hQ p)
  rw [hfirst, hothers]

theorem Comes.exists_mem {P Q : TemplatePiece → Prop} {ps : List TemplatePiece} (h : Comes P Q ps) :
    ∃ p ∈ ps, P p := by
  induction h with
  | here h => exact ⟨_, List.mem_cons_self, h⟩
  | later _ _ ih =>
    obtain ⟨p, hp, h⟩ := ih
    exact ⟨p, List.mem_cons_of_mem _ hp, h⟩

theorem Comes.cons_iff {P Q : TemplatePiece → Prop} {p : TemplatePiece} {ps : List TemplatePiece} :
    Comes P Q (p :: ps) ↔ P p ∨ ¬Q p ∧ Comes P Q ps := by
  constructor
  · intro h
    cases h with
    | here h => exact .inl h
    | later h hs => exact .inr ⟨h, hs⟩
  · rintro (h | ⟨h, hs⟩)
    · exact .here h
    · exact .later h hs

end TemplatePiece

namespace TemplatePart

theorem isNamePart_of_start {c : Char} (h : isNameStart c = true) : isNamePart c = true := by
  rcases Bool.or_eq_true_iff.mp h with halpha | hline
  · unfold isNamePart Char.isAlphanum
    rw [halpha]
    rfl
  · unfold isNamePart
    rw [hline, Bool.or_true]

theorem takeName?_chars (n : BracedName) {c : Char} (hc : isNamePart c = false) (cs : List Char) :
    takeName? (n.chars ++ c :: cs) = some (n.chars, c :: cs) := by
  have hchars : ∀ d ∈ n.chars, isNamePart d = true :=
    List.forall_mem_cons.mpr ⟨isNamePart_of_start n.starts, n.continues⟩
  have htake : (n.chars ++ c :: cs).takeWhile isNamePart = n.chars := by
    rw [List.takeWhile_append_of_pos hchars, List.takeWhile_cons_of_neg (by simp [hc]), List.append_nil]
  have hdrop : (n.chars ++ c :: cs).dropWhile isNamePart = c :: cs := by
    rw [List.dropWhile_append_of_pos hchars, List.dropWhile_cons_of_neg (by simp [hc])]
  have hname : takeName? (n.chars ++ c :: cs) =
      if isNameStart n.first then
        some ((n.chars ++ c :: cs).takeWhile isNamePart, (n.chars ++ c :: cs).dropWhile isNamePart)
      else none := rfl
  rw [hname, if_pos n.starts, htake, hdrop]

theorem take?_plain {c : Char} (hc : c ≠ '\x7b') (cs : List Char) : take? (c :: cs) = none := by
  unfold take?
  split
  next heq => exact absurd (List.cons.inj heq).1 hc
  next heq => exact absurd (List.cons.inj heq).1 hc
  next => rfl

theorem take?_placeholder (n : BracedName) (cs : List Char) :
    take? ('\x7b' :: (n.chars ++ '\x7d' :: cs)) = some (.placeholder n.text, cs) := by
  have hbrace : n.first ≠ '\x7b' := by
    intro heq
    have hstart := n.starts
    rw [heq] at hstart
    cases hstart
  unfold take?
  split
  next heq =>
    obtain ⟨_, heq⟩ := List.cons.inj heq
    exact absurd (List.cons.inj heq).1 hbrace
  next heq =>
    obtain ⟨_, rfl⟩ := List.cons.inj heq
    rw [takeName?_chars n (by decide)]
    rfl
  next hother => exact absurd rfl (hother _)

theorem take?_doubled (n : BracedName) (cs : List Char) :
    take? ('\x7b' :: '\x7b' :: (n.chars ++ '\x7d' :: '\x7d' :: cs)) = some (.braced n.text, cs) := by
  have hname := takeName?_chars n (c := '\x7d') (by decide) ('\x7d' :: cs)
  rw [take?, hname]
  rfl

/-- That a text is read as parts, whatever the bound on their number, if it is not below the length. -/
def Reads (cs : List Char) (ps : List TemplatePart) : Prop :=
  ∀ bound, cs.length ≤ bound → ofText.go bound cs = ps

namespace Reads

theorem nil : Reads [] [] := by
  intro bound _
  cases bound <;> rfl

theorem plain {c : Char} (hc : c ≠ '\x7b') {cs : List Char} {ps : List TemplatePart} (h : Reads cs ps) :
    Reads (c :: cs) (.text c :: ps) := by
  intro bound hbound
  cases bound with
  | zero => cases hbound
  | succ bound =>
    have hcs := h bound (Nat.le_of_succ_le_succ hbound)
    unfold ofText.go
    rw [take?_plain hc, hcs]

theorem literal {literal : List Char} (hplain : ∀ c ∈ literal, c ≠ '\x7b' ∧ c ≠ '\x7d') {cs : List Char}
    {ps : List TemplatePart} (h : Reads cs ps) : Reads (literal ++ cs) (literal.map .text ++ ps) := by
  induction literal with
  | nil => exact h
  | cons c literal ih =>
    obtain ⟨⟨hc, _⟩, hplain⟩ := List.forall_mem_cons.mp hplain
    exact plain hc (ih hplain)

theorem taken {c : Char} {cs rest : List Char} {part : TemplatePart} {ps : List TemplatePart}
    (htake : take? (c :: cs) = some (part, rest)) (hrest : rest.length ≤ cs.length) (h : Reads rest ps) :
    Reads (c :: cs) (part :: ps) := by
  intro bound hbound
  cases bound with
  | zero => cases hbound
  | succ bound =>
    have hps := h bound (Nat.le_trans hrest (Nat.le_of_succ_le_succ hbound))
    unfold ofText.go
    rw [htake]
    dsimp only
    rw [hps]

theorem pieces (pieces : List TemplatePiece) :
    Reads (pieces.flatMap TemplatePiece.source) (pieces.flatMap TemplatePiece.parts) := by
  induction pieces with
  | nil => exact nil
  | cons p pieces ih =>
    rw [List.flatMap_cons, List.flatMap_cons]
    cases p with
    | literal cs plain => exact literal plain ih
    | placeholder n =>
      have htake := take?_placeholder n (pieces.flatMap TemplatePiece.source)
      have hsource : (TemplatePiece.placeholder n).source ++ pieces.flatMap TemplatePiece.source =
          '\x7b' :: (n.chars ++ '\x7d' :: pieces.flatMap TemplatePiece.source) := by
        simp only [TemplatePiece.source, List.cons_append, List.append_assoc, List.nil_append]
      rw [hsource]
      exact taken htake (by simp; omega) ih
    | doubled n =>
      have htake := take?_doubled n (pieces.flatMap TemplatePiece.source)
      have hsource : (TemplatePiece.doubled n).source ++ pieces.flatMap TemplatePiece.source =
          '\x7b' :: '\x7b' :: (n.chars ++ '\x7d' :: '\x7d' :: pieces.flatMap TemplatePiece.source) := by
        simp only [TemplatePiece.source, List.cons_append, List.append_assoc, List.nil_append]
      rw [hsource]
      exact taken htake (by simp; omega) ih

end Reads

theorem ofText_pieces (pieces : List TemplatePiece) :
    ofText (String.ofList (pieces.flatMap TemplatePiece.source)) = pieces.flatMap TemplatePiece.parts := by
  unfold ofText
  rw [String.toList_ofList]
  have hlength : (String.ofList (pieces.flatMap TemplatePiece.source)).length =
      (pieces.flatMap TemplatePiece.source).length := String.length_ofList
  exact Reads.pieces pieces _ (Nat.le_of_eq hlength.symm)

end TemplatePart

namespace Templates

variable {name : String} {params : List (String × Value)}

/-- What a piece is filled with, which fails for a placeholder without a value or with one that has no text. -/
def filled (name : String) (params : List (String × Value)) : TemplatePiece → Except Failure (List Char)
  | .literal cs _ => .ok cs
  | .placeholder n =>
    (params.lookup n.text).elim (.error (.configuration (.missingParameter name n.text))) fun v =>
      (inserted v).map String.toList
  | .doubled n => .ok ('\x7b' :: (n.chars ++ ['\x7d']))

theorem filled_placeholder {n : BracedName} {v : Option Value} (h : params.lookup n.text = v) :
    filled name params (.placeholder n) =
      v.elim (.error (.configuration (.missingParameter name n.text))) fun v => (inserted v).map String.toList := by
  rw [← h]
  rfl

theorem fill_texts (cs : List Char) (ps : List TemplatePart) :
    fill name params (cs.map .text ++ ps) = (fill name params ps).map (cs ++ ·) := by
  induction cs with
  | nil => cases hps : fill name params ps <;> simp [hps, Except.map]
  | cons c cs ih =>
    have hstep : fill name params (.text c :: (cs.map .text ++ ps)) =
        (fill name params (cs.map .text ++ ps)).map (c :: ·) := rfl
    rw [List.map_cons, List.cons_append, hstep, ih]
    cases fill name params ps <;> rfl

theorem fill_piece (p : TemplatePiece) (ps : List TemplatePart) :
    fill name params (p.parts ++ ps) =
      filled name params p >>= fun text => (fill name params ps).map (text ++ ·) := by
  cases p with
  | literal cs _ => exact fill_texts cs ps
  | placeholder n =>
    change fill name params (.placeholder n.text :: ps) = _
    rw [fill]
    cases hv : params.lookup n.text with
    | none =>
      rw [filled_placeholder hv]
      rfl
    | some v =>
      rw [filled_placeholder hv]
      dsimp only [Option.elim_some]
      cases inserted v with
      | error f => rfl
      | ok text => cases fill name params ps <;> rfl
  | doubled n =>
    have hstep : fill name params (.braced n.text :: ps) =
        (fill name params ps).map fun rest => '\x7b' :: n.text.toList ++ '\x7d' :: rest := rfl
    have hchars : n.text.toList = n.chars := String.toList_ofList
    have hfilled : ∀ rest, '\x7b' :: n.chars ++ '\x7d' :: rest = '\x7b' :: (n.chars ++ ['\x7d']) ++ rest := by
      intro rest
      rw [List.cons_append, List.cons_append, List.append_assoc]
      rfl
    change fill name params (.braced n.text :: ps) = (fill name params ps).map _
    rw [hstep, hchars]
    simp only [hfilled]

/-- The ways in which a piece is filled. -/
inductive Fills (name : String) (params : List (String × Value)) (p : TemplatePiece) :
    Except Failure (List Char) → Prop where
  | missing {n : BracedName} (hpiece : p = .placeholder n) (hmissing : p.Missing params)
      (hwritten : ¬p.Unwritable params) : Fills name params p (.error (.configuration (.missingParameter name n.text)))
  | unwritable (hlong : p.Unwritable params) (hgiven : ¬p.Missing params) :
      Fills name params p (.error (.operand .badValue))
  | replaced (hgiven : ¬p.Missing params) (hwritten : ¬p.Unwritable params) :
      Fills name params p (.ok (p.replacement params))

theorem fills (name : String) (params : List (String × Value)) (p : TemplatePiece) :
    Fills name params p (filled name params p) := by
  cases p with
  | literal cs _ => exact .replaced id id
  | doubled n => exact .replaced id id
  | placeholder n =>
    cases hv : params.lookup n.text with
    | none =>
      have hwritten : ¬(TemplatePiece.placeholder n).Unwritable params := by
        rintro ⟨v, hsome, _⟩
        cases hv.symm.trans hsome
      rw [filled_placeholder hv]
      exact .missing rfl hv hwritten
    | some v =>
      have hgiven : ¬(TemplatePiece.placeholder n).Missing params := fun hnone => by cases hv.symm.trans hnone
      rw [filled_placeholder hv, Option.elim_some]
      unfold inserted
      split
      next hlong => exact .unwritable ⟨v, hv, hlong⟩ hgiven
      next hshort =>
        have hwritten : ¬(TemplatePiece.placeholder n).Unwritable params := by
          rintro ⟨w, hsome, hlong⟩
          cases hv.symm.trans hsome
          exact hshort hlong
        have hreplacement : (TemplatePiece.placeholder n).replacement params = v.shown.toList := by
          change (params.lookup n.text).elim [] _ = _
          rw [hv]
          rfl
        have hreplaced : Fills name params (.placeholder n) _ := .replaced hgiven hwritten
        rw [hreplacement] at hreplaced
        exact hreplaced

/-- That a piece cannot be filled, for a reason of some kind. -/
def Fails (name : String) (params : List (String × Value)) (E : Failure → Prop) (p : TemplatePiece) : Prop :=
  ∃ f, filled name params p = .error f ∧ E f

/-- A piece fails for a missing value or for one without a text, as far as these are of the kind. -/
theorem fails_iff {E : Failure → Prop} {A B : Prop} (hname : ∀ problem, E (.configuration problem) ↔ A)
    (hvalue : E (.operand .badValue) ↔ B) (p : TemplatePiece) :
    Fails name params E p ↔ A ∧ p.Missing params ∨ B ∧ p.Unwritable params := by
  have hfills := fills name params p
  unfold Fails
  generalize filled name params p = text at hfills ⊢
  cases hfills with
  | missing _ hmissing hwritten =>
    constructor
    · rintro ⟨f, hf, he⟩
      cases hf
      exact .inl ⟨(hname _).mp he, hmissing⟩
    · rintro (⟨ha, _⟩ | ⟨_, hlong⟩)
      · exact ⟨_, rfl, (hname _).mpr ha⟩
      · exact absurd hlong hwritten
  | unwritable hlong hgiven =>
    constructor
    · rintro ⟨f, hf, he⟩
      cases hf
      exact .inr ⟨hvalue.mp he, hlong⟩
    · rintro (⟨_, hmissing⟩ | ⟨hb, _⟩)
      · exact absurd hmissing hgiven
      · exact ⟨_, rfl, hvalue.mpr hb⟩
  | replaced hgiven hwritten =>
    constructor
    · rintro ⟨f, hf, _⟩
      cases hf
    · rintro (⟨_, hmissing⟩ | ⟨_, hlong⟩)
      · exact absurd hmissing hgiven
      · exact absurd hlong hwritten

/-- A template fails for a reason of some kind if a piece does before any that fails for another reason. -/
theorem fill_fails_iff (E : Failure → Prop) (pieces : List TemplatePiece) :
    (∃ f, fill name params (pieces.flatMap TemplatePiece.parts) = .error f ∧ E f) ↔
      TemplatePiece.Comes (Fails name params E) (Fails name params fun f => ¬E f) pieces := by
  induction pieces with
  | nil =>
    constructor
    · rintro ⟨f, h, _⟩
      cases h
    · intro h
      cases h
  | cons p pieces ih =>
    rw [List.flatMap_cons, fill_piece, TemplatePiece.Comes.cons_iff, ← ih]
    unfold Fails
    cases filled name params p with
    | error f =>
      change (∃ g, Except.error f = Except.error g ∧ E g) ↔ _
      by_cases he : E f
      · exact ⟨fun _ => .inl ⟨f, rfl, he⟩, fun _ => ⟨f, rfl, he⟩⟩
      · refine ⟨?_, ?_⟩
        · rintro ⟨g, hg, heg⟩
          cases hg
          exact absurd heg he
        · rintro (⟨g, hg, heg⟩ | ⟨hother, _⟩)
          · cases hg
            exact absurd heg he
          · exact absurd ⟨f, rfl, he⟩ hother
    | ok text =>
      change (∃ g, Except.map _ (fill name params _) = Except.error g ∧ E g) ↔ _
      cases fill name params (pieces.flatMap TemplatePiece.parts) with
      | error f => simp [Except.map]
      | ok rest => simp [Except.map]

theorem fill_replaced {pieces : List TemplatePiece}
    (h : ∀ p ∈ pieces, ¬p.Missing params ∧ ¬p.Unwritable params) :
    fill name params (pieces.flatMap TemplatePiece.parts) =
      .ok (pieces.flatMap fun p => p.replacement params) := by
  induction pieces with
  | nil => rfl
  | cons p pieces ih =>
    obtain ⟨⟨hgiven, hwritten⟩, hpieces⟩ := List.forall_mem_cons.mp h
    have hfills := fills name params p
    rw [List.flatMap_cons, fill_piece, ih hpieces]
    generalize filled name params p = text at hfills ⊢
    cases hfills with
    | missing _ hmissing _ => exact absurd hmissing hgiven
    | unwritable hlong _ => exact absurd hlong hwritten
    | replaced _ _ => rfl

section Expand

variable {ts : Templates} {pieces : List TemplatePiece}

theorem expand_eq (h : ts.texts.lookup name = some (String.ofList (pieces.flatMap TemplatePiece.source)))
    (params : List (String × Value)) :
    ts.expand (.template name params) =
      (fill name params (pieces.flatMap TemplatePiece.parts)).map String.ofList := by
  unfold expand
  dsimp only
  rw [h]
  dsimp only
  rw [TemplatePart.ofText_pieces]
  cases fill name params (pieces.flatMap TemplatePiece.parts) <;> rfl

theorem expand_fails_iff (h : ts.texts.lookup name = some (String.ofList (pieces.flatMap TemplatePiece.source)))
    (params : List (String × Value)) (E : Failure → Prop) :
    (∃ f, ts.expand (.template name params) = .error f ∧ E f) ↔
      TemplatePiece.Comes (Fails name params E) (Fails name params fun f => ¬E f) pieces := by
  rw [← fill_fails_iff, expand_eq h]
  cases fill name params (pieces.flatMap TemplatePiece.parts) <;> simp [Except.map]

/-- A template fails for a kind of its two reasons if the first of its pieces that fails does. -/
theorem expand_comes_iff (h : ts.texts.lookup name = some (String.ofList (pieces.flatMap TemplatePiece.source)))
    (params : List (String × Value)) {E : Failure → Prop} {A B : Prop}
    (hname : ∀ problem, E (.configuration problem) ↔ A) (hvalue : E (.operand .badValue) ↔ B) :
    (∃ f, ts.expand (.template name params) = .error f ∧ E f) ↔
      TemplatePiece.Comes (fun p => A ∧ p.Missing params ∨ B ∧ p.Unwritable params)
        (fun p => ¬A ∧ p.Missing params ∨ ¬B ∧ p.Unwritable params) pieces := by
  have hother : ∀ problem, ¬E (.configuration problem) ↔ ¬A := fun problem => not_congr (hname problem)
  rw [expand_fails_iff h]
  exact TemplatePiece.Comes.congr (fails_iff hname hvalue) (fails_iff hother (not_congr hvalue))

/-- A template in pieces expands to what these are replaced by. It does not if a placeholder has no value, which is
reported, or one that has no text; whichever comes first is what it fails for. -/
theorem expand_pieces (h : ts.texts.lookup name = some (String.ofList (pieces.flatMap TemplatePiece.source)))
    (params : List (String × Value)) :
    ((∃ problem, ts.expand (.template name params) = .error (.configuration problem)) ↔
        TemplatePiece.Comes (TemplatePiece.Missing params) (TemplatePiece.Unwritable params) pieces) ∧
      (∀ problem, ts.expand (.template name params) = .error (.configuration problem) →
        ∃ n, .placeholder n ∈ pieces ∧ params.lookup n.text = none ∧ problem = .missingParameter name n.text) ∧
      (ts.expand (.template name params) = .error (.operand .badValue) ↔
        TemplatePiece.Comes (TemplatePiece.Unwritable params) (TemplatePiece.Missing params) pieces) ∧
      ((∀ p ∈ pieces, ¬p.Missing params ∧ ¬p.Unwritable params) →
        ts.expand (.template name params) =
          .ok (String.ofList (pieces.flatMap fun p => p.replacement params))) := by
  refine ⟨?_, ?_, ?_, ?_⟩
  · have hfails := expand_comes_iff h params (E := fun f => ∃ problem, f = .configuration problem) (A := True)
      (B := False) (by simp) (by simp)
    simp only [true_and, false_and, or_false, not_true, not_false_eq_true, false_or] at hfails
    rw [← hfails]
    constructor
    · rintro ⟨problem, hproblem⟩
      exact ⟨_, hproblem, problem, rfl⟩
    · rintro ⟨_, hproblem, problem, rfl⟩
      exact ⟨problem, hproblem⟩
  · intro problem hproblem
    have hcomes := (expand_fails_iff h params (· = .configuration problem)).mp ⟨_, hproblem, rfl⟩
    obtain ⟨p, hp, f, hf, rfl⟩ := hcomes.exists_mem
    have hfills := fills name params p
    rw [hf] at hfills
    cases hfills with
    | missing hpiece hmissing _ =>
      subst hpiece
      exact ⟨_, hp, hmissing, rfl⟩
  · have hfails := expand_comes_iff h params (E := (· = .operand .badValue)) (A := False) (B := True)
      (by simp) (by simp)
    simp only [true_and, false_and, or_false, not_true, not_false_eq_true, false_or] at hfails
    rw [← hfails]
    constructor
    · intro hvalue
      exact ⟨_, hvalue, rfl⟩
    · rintro ⟨_, hvalue, rfl⟩
      exact hvalue
  · intro hpieces
    rw [expand_eq h, fill_replaced hpieces]
    rfl

end Expand

/-- A template for a membership, with a placeholder and a doubled name. -/
def membershipPieces : List TemplatePiece :=
  [.placeholder ⟨'v', ['a', 'l', 'u', 'e'], by decide, List.all_eq_true.mp (by decide)⟩,
   .literal [' ', 'i', 'n', ' '] (by simp),
   .doubled ⟨'a', ['l', 'l', 'o', 'w', 'e', 'd'], by decide, List.all_eq_true.mp (by decide)⟩]

/-- A value that looks like its placeholder is inserted once. -/
theorem membership_expanded :
    (Templates.mk [("inSet", "\x7bvalue\x7d in \x7b\x7ballowed\x7d\x7d")]).expand
        (.template "inSet" [("value", .text "\x7bvalue\x7d")]) = .ok "\x7bvalue\x7d in \x7ballowed\x7d" := by
  have htext : (Templates.mk [("inSet", "\x7bvalue\x7d in \x7b\x7ballowed\x7d\x7d")]).texts.lookup "inSet" =
      some (String.ofList (membershipPieces.flatMap TemplatePiece.source)) := by decide
  obtain ⟨_, _, _, hexpanded⟩ := expand_pieces htext [("value", .text "\x7bvalue\x7d")]
  refine hexpanded ?_
  unfold membershipPieces
  refine List.forall_mem_cons.mpr ⟨⟨nofun, ?_⟩, ?_⟩
  · rintro ⟨v, hv, hlong⟩
    cases hv
    cases hlong
  · exact List.forall_mem_cons.mpr ⟨⟨id, id⟩, List.forall_mem_singleton.mpr ⟨id, id⟩⟩

/-- An integer with too many digits has no text, and its template does not expand although no name is missing. -/
theorem long_value_unexpanded :
    [("n", Value.int writtenBound)].lookup "n" = some (.int writtenBound) ∧
      (Templates.mk [("t", "\x7bn\x7d")]).expand (.template "t" [("n", .int writtenBound)]) =
        .error (.operand .badValue) := by
  have hlong : (Value.int writtenBound).tooLongToWrite = true := by
    rw [Value.tooLongToWrite, Int.natAbs_natCast]
    exact decide_eq_true (Nat.le_refl _)
  have hinserted : inserted (.int writtenBound) = .error (.operand .badValue) := if_pos hlong
  have hgiven : [("n", Value.int writtenBound)].lookup "n" = some (.int writtenBound) := rfl
  have hparts : TemplatePart.ofText "\x7bn\x7d" = [.placeholder "n"] := by decide
  have htext : (Templates.mk [("t", "\x7bn\x7d")]).texts.lookup "t" = some "\x7bn\x7d" := rfl
  refine ⟨hgiven, ?_⟩
  unfold expand
  dsimp only
  rw [htext]
  dsimp only
  rw [hparts, fill, hgiven]
  dsimp only
  rw [hinserted]
  rfl

end Templates

end AccessPolicy
