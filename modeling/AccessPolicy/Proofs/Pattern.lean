import AccessPolicy.Policy.Path

/-!
The regular expression of a path template says what the template says. Its text is read back as one item for
each part: a character of the template stands for itself, whatever it would mean in an expression, and a
variable is a group of its name.
-/

namespace AccessPolicy

namespace Text

variable {p : Char → Bool} {before after : List Char} {c : Char}

theorem takeWhile_cut (hb : ∀ d ∈ before, p d = true) (hc : p c = false) :
    (before ++ c :: after).takeWhile p = before := by
  rw [List.takeWhile_append_of_pos hb, List.takeWhile_cons_of_neg (by simp [hc]), List.append_nil]

theorem dropWhile_cut (hb : ∀ d ∈ before, p d = true) (hc : p c = false) :
    (before ++ c :: after).dropWhile p = c :: after := by
  rw [List.dropWhile_append_of_pos hb, List.dropWhile_cons_of_neg (by simp [hc])]

end Text

namespace Text.Regex

theorem contains_escapedChars_of_isSpecial {c : Char} (h : isSpecial c = true) :
    escapedChars.contains c = true := by
  have hall : ['.', '^', '$', '*', '+', '?', '\x7b', '\x7d', '[', ']', '\\', '|', '(', ')'].all
      escapedChars.contains = true := by decide
  exact List.all_eq_true.mp hall c (of_decide_eq_true h)

theorem not_isAlphanum_of_escaped {c : Char} (h : escapedChars.contains c = true) :
    c.isAlphanum = false := by
  have hall : escapedChars.all (fun c => !c.isAlphanum) = true := by decide
  simpa using List.all_eq_true.mp hall c (List.contains_iff_mem.mp h)

/-- A character that is escaped means something else where it is not. -/
theorem ne_of_not_escaped {c d : Char} (hc : escapedChars.contains c = false)
    (hd : escapedChars.contains d = true) : c ≠ d := by
  rintro rfl
  rw [hc] at hd
  cases hd

theorem charSet?_escapeChar (c : Char) (rest : List Char) :
    charSet? (escapeChar c ++ rest) = some (.only c, rest) := by
  unfold escapeChar
  cases hc : escapedChars.contains c with
  | true => simp [charSet?, not_isAlphanum_of_escaped hc]
  | false =>
    have hspecial : isSpecial c = false := by
      cases hs : isSpecial c with
      | false => rfl
      | true => exact absurd rfl (ne_of_not_escaped hc (contains_escapedChars_of_isSpecial hs))
    simp only [Bool.false_eq_true, ↓reduceIte, List.cons_append, List.nil_append, charSet?]
    split
    next heq => cases heq; exact absurd hc (by decide)
    next heq => cases heq; exact absurd hc (by decide)
    next heq => cases heq; exact absurd hc (by decide)
    next heq => cases heq; exact absurd hc (by decide)
    next heq => cases heq; simp [hspecial]
    next heq => cases heq

/-- What stands before a text is not repeated. -/
def NotRepeating (cs : List Char) : Prop := ∀ c ∈ cs.head?, c ≠ '*' ∧ c ≠ '+' ∧ c ≠ '?'

theorem repetition_of_notRepeating {cs : List Char} (h : NotRepeating cs) :
    repetition cs = ((1, some 1), cs) := by
  cases cs with
  | nil => rfl
  | cons c cs =>
    obtain ⟨h₁, h₂, h₃⟩ := h c rfl
    simp [repetition, h₁, h₂, h₃]

theorem notRepeating_escapeChar (c : Char) (rest : List Char) : NotRepeating (escapeChar c ++ rest) := by
  unfold escapeChar
  cases hc : escapedChars.contains c with
  | true => simp [NotRepeating]
  | false =>
    simp only [Bool.false_eq_true, ↓reduceIte, List.cons_append, List.nil_append, NotRepeating,
      List.head?_cons, Option.mem_def, Option.some.injEq]
    rintro _ rfl
    exact ⟨ne_of_not_escaped hc (by decide), ne_of_not_escaped hc (by decide),
      ne_of_not_escaped hc (by decide)⟩

theorem item?_escapeChar (c : Char) {rest : List Char} (h : NotRepeating rest) :
    item? (escapeChar c ++ rest) = some (.run none (.only c) 1 (some 1), rest) := by
  have hrun : run? none (escapeChar c ++ rest) = some (.run none (.only c) 1 (some 1), rest) := by
    simp [run?, charSet?_escapeChar, repetition_of_notRepeating h]
  rw [← hrun]
  unfold escapeChar
  cases hc : escapedChars.contains c with
  | true => simp [item?]
  | false =>
    have hstart : c ≠ '^' := ne_of_not_escaped hc (by decide)
    have hfinish : c ≠ '$' := ne_of_not_escaped hc (by decide)
    have hgroup : c ≠ '(' := ne_of_not_escaped hc (by decide)
    simp [item?, hstart, hfinish, hgroup]

theorem go_succ {fuel : Nat} {cs rest : List Char} {item : Item} (h : item? cs = some (item, rest)) :
    items?.go (fuel + 1) cs = (items?.go fuel rest).map (item :: ·) := by
  cases cs with
  | nil => cases h
  | cons c cs =>
    rw [items?.go, h]
    · change ((items?.go fuel rest).bind fun items => some (item :: items)) = _
      cases items?.go fuel rest <;> rfl
    · exact List.cons_ne_nil c cs

theorem isIdentifier_ne {name : String} (h : isIdentifier name = true) : ∀ c ∈ name.toList, c ≠ '>' := by
  unfold isIdentifier at h
  split at h
  next => cases h
  next c cs hs =>
    rw [Bool.and_eq_true, List.all_eq_true] at h
    rintro d hd rfl
    rw [hs] at hd
    rcases List.mem_cons.mp hd with rfl | hd
    · exact absurd h.1 (by decide)
    · exact absurd (h.2 _ hd) (by decide)

end Text.Regex

namespace PathTemplate

open Text Text.Regex

/-- The item of an expression that stands for a part of a path. -/
def itemOf : PathPart → Item
  | .char c => .run none (.only c) 1 (some 1)
  | .variable n => .run (some n) (.noneOf ['/']) 1 none

theorem notRepeating_patternOf (part : PathPart) (rest : List Char) :
    NotRepeating (patternOf part ++ rest) := by
  cases part with
  | char c => exact notRepeating_escapeChar c rest
  | «variable» n => simp [NotRepeating, patternOf]

theorem item?_patternOf {part : PathPart} {rest : List Char}
    (hn : ∀ n, part = .variable n → isIdentifier n = true) (h : NotRepeating rest) :
    item? (patternOf part ++ rest) = some (itemOf part, rest) := by
  cases part with
  | char c => exact item?_escapeChar c h
  | «variable» n =>
    have hne := isIdentifier_ne (hn n rfl)
    have htake : (n.toList ++ '>' :: '[' :: '^' :: '/' :: ']' :: '+' :: ')' :: rest).takeWhile (· != '>') =
        n.toList := takeWhile_cut (by simpa using hne) (by decide)
    have hdrop : (n.toList ++ '>' :: '[' :: '^' :: '/' :: ']' :: '+' :: ')' :: rest).dropWhile (· != '>') =
        '>' :: '[' :: '^' :: '/' :: ']' :: '+' :: ')' :: rest := dropWhile_cut (by simpa using hne) (by decide)
    have hrun : run? (some n) ('[' :: '^' :: '/' :: ']' :: '+' :: ')' :: rest) =
        some (itemOf (.variable n), ')' :: rest) := by
      simp [run?, charSet?, members?, isSpecialMember, repetition, itemOf]
    simp only [patternOf, List.cons_append, List.nil_append, List.append_assoc, item?, group?, htake, hdrop,
      String.ofList_toList, hrun, hn n rfl, if_true]

theorem length_patternOf_pos (part : PathPart) : 0 < (patternOf part).length := by
  cases part with
  | char c =>
    simp only [patternOf, escapeChar]
    split <;> simp
  | «variable» n => simp [patternOf]

theorem notRepeating_patterns (t : PathTemplate) : NotRepeating (t.flatMap patternOf ++ ['$']) := by
  cases t with
  | nil => simp [NotRepeating]
  | cons part t =>
    rw [List.flatMap_cons, List.append_assoc]
    exact notRepeating_patternOf part _

/-- The text of a template's expression is read back part by part. -/
theorem go_patterns {t : PathTemplate} (ht : ∀ n ∈ t.variableNames, isIdentifier n = true) {fuel : Nat}
    (hfuel : (t.flatMap patternOf).length < fuel) :
    items?.go fuel (t.flatMap patternOf ++ ['$']) = some (t.map itemOf ++ [.finish]) := by
  induction t generalizing fuel with
  | nil =>
    cases fuel with
    | zero => simp at hfuel
    | succ fuel => simp [items?.go, item?]
  | cons part t ih =>
    rw [List.flatMap_cons, List.length_append] at hfuel
    have hpos := length_patternOf_pos part
    cases fuel with
    | zero => omega
    | succ fuel =>
      have hpart : ∀ n, part = .variable n → isIdentifier n = true := by
        rintro n rfl
        exact ht n (by simp [variableNames])
      have hrest : ∀ n ∈ variableNames t, isIdentifier n = true := by
        intro n hn
        cases part with
        | char c => exact ht n hn
        | «variable» m => exact ht n (List.mem_cons_of_mem m hn)
      have hitem := item?_patternOf hpart (notRepeating_patterns t)
      have hfuel' : (t.flatMap patternOf).length < fuel := by omega
      rw [List.flatMap_cons, List.append_assoc, go_succ hitem, ih hrest hfuel']
      rfl

theorem names_items (t : PathTemplate) : (t.map itemOf).filterMap Item.name? = t.variableNames := by
  induction t with
  | nil => rfl
  | cons part t ih =>
    cases part with
    | char c => exact ih
    | «variable» n => exact congrArg (n :: ·) ih

theorem read_pattern {t : PathTemplate} (ht : ∀ n ∈ t.variableNames, isIdentifier n = true)
    (hnodup : t.variableNames.Nodup) :
    Text.Regex.read t.pattern = some (.start :: t.map itemOf ++ [.finish]) := by
  have hitems : items? ('^' :: t.flatMap patternOf ++ ['$']) = some (.start :: t.map itemOf ++ [.finish]) := by
    have hfuel : (t.flatMap patternOf).length < (t.flatMap patternOf ++ ['$']).length := by simp
    unfold items?
    rw [List.cons_append, List.length_cons, go_succ (by rfl : item? ('^' :: _) = some (.start, _)),
      go_patterns ht hfuel]
    rfl
  have hnames : (Item.start :: t.map itemOf ++ [Item.finish]).filterMap Item.name? = t.variableNames := by
    rw [List.cons_append, List.filterMap_cons_none rfl, List.filterMap_append, names_items]
    exact List.append_nil _
  unfold Text.Regex.read pattern
  rw [String.toList_ofList, hitems, Option.bind_eq_bind, Option.bind_some, hnames, if_pos hnodup]

theorem groups?_items (t : PathTemplate) (atStart : Bool) (cs : List Char) :
    groups? atStart (t.map itemOf ++ [.finish]) cs = t.fit? cs := by
  induction t generalizing atStart cs with
  | nil => rfl
  | cons part t ih =>
    simp only [List.map_cons, List.cons_append]
    cases part with
    | char c =>
      cases cs with
      | nil => rfl
      | cons d cs =>
        cases hcd : c == d with
        | true => simp [itemOf, groups?, CharSet.has, fit?, hcd, ih]
        | false => simp [itemOf, groups?, CharSet.has, fit?, hcd]
    | «variable» n =>
      have hset : (CharSet.noneOf ['/']).has = (· != '/') := by
        funext c
        simp only [CharSet.has, List.contains_cons, List.contains_nil, Bool.or_false, bne]
      simp only [itemOf, groups?, ih, fit?, hset]
      rfl

/-- What the expression of a template matches is what fits the template. -/
theorem match?_pattern {t : PathTemplate} (ht : ∀ n ∈ t.variableNames, isIdentifier n = true)
    (hnodup : t.variableNames.Nodup) (path : String) :
    Text.Regex.match? t.pattern path = t.fit? path.toList := by
  unfold Text.Regex.match?
  rw [read_pattern ht hnodup]
  exact groups?_items t true path.toList

end PathTemplate

end AccessPolicy
