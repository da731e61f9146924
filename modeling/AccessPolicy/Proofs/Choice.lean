import AccessPolicy.Proofs.Routing

/-!
Which rule decides about a request. A rule without variables for the very path goes first, then a rule whose
template the path fits, and of several the one that was declared first; the default is for all other requests.
-/

namespace AccessPolicy

namespace PathTemplate

/-- A path that a template describes: its own characters as they are, and for each variable one or more
characters without a slash. -/
inductive Fits : PathTemplate → List Char → List (String × String) → Prop
  | done : Fits [] [] []
  | char {c : Char} {t : PathTemplate} {cs : List Char} {vs : List (String × String)} :
      Fits t cs vs → Fits (.char c :: t) (c :: cs) vs
  | variable {n : String} {segment : List Char} {t : PathTemplate} {cs : List Char}
      {vs : List (String × String)} :
      segment ≠ [] → '/' ∉ segment → Fits t cs vs →
      Fits (.variable n :: t) (segment ++ cs) ((n, String.ofList segment) :: vs)

def lengths (vs : List (String × String)) : List Nat := vs.map (·.2.length)

/-- Whether lengths are at most others, of which the first difference decides. -/
def AtMost : List Nat → List Nat → Prop
  | [], _ => True
  | _ :: _, [] => False
  | m :: ms, n :: ns => m < n ∨ m = n ∧ AtMost ms ns

theorem AtMost.antisymm {ms ns : List Nat} (h : AtMost ms ns) (h' : AtMost ns ms) : ms = ns := by
  induction ms generalizing ns with
  | nil =>
    cases ns with
    | nil => rfl
    | cons n ns => exact h'.elim
  | cons m ms ih =>
    cases ns with
    | nil => exact h.elim
    | cons n ns =>
      rcases h with h | ⟨rfl, h⟩
      · rcases h' with h' | ⟨rfl, _⟩ <;> omega
      · rcases h' with h' | ⟨_, h'⟩
        · omega
        · rw [ih h h']

/-- The texts that a path gives to the variables of a template. Of all that fit, the first variable has the
longest, then the second, and so on. -/
def Captures (t : PathTemplate) (cs : List Char) (vs : List (String × String)) : Prop :=
  Fits t cs vs ∧ ∀ ws, Fits t cs ws → AtMost (lengths ws) (lengths vs)

theorem Fits.eq_of_lengths {t : PathTemplate} {cs : List Char} {vs ws : List (String × String)}
    (hv : Fits t cs vs) (hw : Fits t cs ws) (h : lengths vs = lengths ws) : vs = ws := by
  induction hv generalizing ws with
  | done =>
    cases hw
    rfl
  | char _ ih =>
    cases hw with
    | char hw => exact ih hw h
  | @«variable» n segment t cs vs _ _ _ ih =>
    generalize hcs : segment ++ cs = whole at hw
    cases hw with
    | @«variable» _ segment' _ cs' ws _ _ hw =>
      simp only [lengths, List.map_cons, String.length_ofList, List.cons.injEq] at h
      obtain ⟨rfl, rfl⟩ := List.append_inj hcs h.1
      rw [ih hw h.2]

theorem Captures.unique {t : PathTemplate} {cs : List Char} {vs ws : List (String × String)}
    (hv : Captures t cs vs) (hw : Captures t cs ws) : vs = ws :=
  hv.1.eq_of_lengths hw.1 ((hw.2 vs hv.1).antisymm (hv.2 ws hw.1))

theorem findSome?_range_reverse {β : Type} {f : Nat → Option β} {n : Nat} {b : β}
    (h : (List.range n).reverse.findSome? f = some b) :
    ∃ i < n, f i = some b ∧ ∀ j < n, i < j → f j = none := by
  induction n with
  | zero => cases h
  | succ n ih =>
    rw [List.range_succ, List.reverse_append, List.reverse_singleton, List.singleton_append,
      List.findSome?_cons] at h
    cases hn : f n with
    | some c =>
      rw [hn] at h
      cases h
      exact ⟨n, by omega, hn, fun j hj hij => by omega⟩
    | none =>
      rw [hn] at h
      obtain ⟨i, hi, hb, hnone⟩ := ih h
      refine ⟨i, by omega, hb, ?_⟩
      intro j hj hij
      rcases Nat.lt_or_eq_of_le (Nat.le_of_lt_succ hj) with hj | rfl
      · exact hnone j hj hij
      · exact hn

theorem takeWhile_segment {segment cs : List Char} (h : '/' ∉ segment) :
    (segment ++ cs).takeWhile (· != '/') = segment ++ cs.takeWhile (· != '/') := by
  refine List.takeWhile_append_of_pos ?_
  intro c hc
  simpa using fun heq : c = '/' => h (heq ▸ hc)

theorem Fits.fit?_isSome {t : PathTemplate} {cs : List Char} {vs : List (String × String)}
    (h : Fits t cs vs) : (fit? t cs).isSome = true := by
  induction h with
  | done => rfl
  | char _ ih => simpa [fit?] using ih
  | @«variable» n segment t cs vs hsegment hslash _ ih =>
    have hlength : 0 < segment.length := List.length_pos_iff.mpr hsegment
    rw [fit?, List.findSome?_isSome_iff]
    refine ⟨segment.length - 1, ?_, ?_⟩
    · simp only [takeWhile_segment hslash, List.mem_reverse, List.mem_range, List.length_append]
      omega
    · rw [Nat.sub_add_cancel hlength, List.drop_left, Option.isSome_map]
      exact ih

theorem take_append_drop_takeWhile {p : Char → Bool} {cs : List Char} {n : Nat}
    (h : n ≤ (cs.takeWhile p).length) : (cs.takeWhile p).take n ++ cs.drop n = cs := by
  have hcs : cs.takeWhile p ++ cs.dropWhile p = cs := List.takeWhile_append_dropWhile
  have hdrop : cs.drop n = (cs.takeWhile p).drop n ++ cs.dropWhile p := by
    rw [← List.drop_append_of_le_length h, hcs]
  rw [hdrop, ← List.append_assoc, List.take_append_drop, hcs]

/-- Whether a template ends with a variable. -/
def EndsInVariable (t : PathTemplate) : Prop := ∃ n, t.getLast? = some (.variable n)

theorem not_endsInVariable_cons {part : PathPart} {t : PathTemplate} (hpart : t = [] → ∀ n, part ≠ .variable n)
    (h : ¬EndsInVariable t) : ¬EndsInVariable (part :: t) := by
  rintro ⟨n, hn⟩
  cases t with
  | nil => exact hpart rfl n (Option.some.inj hn)
  | cons q t => exact h ⟨n, by rwa [List.getLast?_cons_cons] at hn⟩

/-- A path that is found to fit a template fits it, or does so without a line break at its end. The line break is
left over only behind a character of the template, as a variable would have taken it. -/
theorem fits_or_break {t : PathTemplate} {cs : List Char} {vs : List (String × String)} (h : fit? t cs = some vs) :
    Fits t cs vs ∨ ¬EndsInVariable t ∧ ∃ ds, cs = ds ++ ['\n'] ∧ Fits t ds vs := by
  induction t generalizing cs vs with
  | nil =>
    rw [fit?] at h
    split at h
    next hend =>
      cases h
      unfold Text.Regex.isEnd at hend
      split at hend
      next => exact .inl .done
      next => exact .inr ⟨by simp [EndsInVariable], [], rfl, .done⟩
      next => cases hend
    next => cases h
  | cons part t ih =>
    cases part with
    | char c =>
      cases cs with
      | nil => cases h
      | cons d cs =>
        rw [fit?] at h
        split at h
        next hcd =>
          obtain rfl : c = d := beq_iff_eq.mp hcd
          rcases ih h with hfits | ⟨hlast, ds, rfl, hfits⟩
          · exact .inl (.char hfits)
          · exact .inr ⟨not_endsInVariable_cons (by simp) hlast, c :: ds, rfl, .char hfits⟩
        next => cases h
    | «variable» n =>
      rw [fit?] at h
      obtain ⟨i, hi, hfit, hlonger⟩ := findSome?_range_reverse h
      obtain ⟨ws, hws, rfl⟩ := Option.map_eq_some_iff.mp hfit
      have hlength : ((cs.takeWhile (· != '/')).take (i + 1)).length = i + 1 :=
        List.length_take_of_le hi
      have hnonempty : (cs.takeWhile (· != '/')).take (i + 1) ≠ [] := by
        rw [← List.length_pos_iff, hlength]
        exact Nat.succ_pos i
      have hslash : '/' ∉ (cs.takeWhile (· != '/')).take (i + 1) := by
        intro hm
        have hall := List.all_eq_true.mp List.all_takeWhile _ (List.mem_of_mem_take hm)
        simp at hall
      have hcs := take_append_drop_takeWhile hi
      rcases ih hws with hfits | ⟨hlast, ds, hds, hfits⟩
      · have hfits := Fits.variable (n := n) hnonempty hslash hfits
        rw [hcs] at hfits
        exact .inl hfits
      · have ht : t ≠ [] := by
          rintro rfl
          cases hfits
          have hwhole : cs.takeWhile (· != '/') = cs := by
            rw [← hcs, hds, takeWhile_segment hslash]
            rfl
          have hmore : i + 1 < (cs.takeWhile (· != '/')).length := by
            rw [hwhole, ← hcs, List.length_append, hlength, hds]
            exact Nat.lt_succ_self _
          have hnone := hlonger (i + 1) hmore (Nat.lt_succ_self i)
          rw [← List.drop_drop, hds, Option.map_eq_none_iff] at hnone
          cases hnone
        refine .inr ⟨not_endsInVariable_cons (absurd · ht) hlast, (cs.takeWhile (· != '/')).take (i + 1) ++ ds, ?_, ?_⟩
        · rw [List.append_assoc, ← hds, hcs]
        · exact .variable hnonempty hslash hfits

theorem fits_of_fit? {t : PathTemplate} {cs : List Char} {vs : List (String × String)} (hcs : '\n' ∉ cs)
    (h : fit? t cs = some vs) : Fits t cs vs := by
  rcases fits_or_break h with hfits | ⟨_, ds, rfl, _⟩
  · exact hfits
  · exact absurd (List.mem_append_right ds List.mem_cons_self) hcs

/-- A variable's text is the longest that leaves a rest which fits. -/
theorem captures_of_fit? {t : PathTemplate} {cs : List Char} {vs : List (String × String)} (hcs : '\n' ∉ cs)
    (h : fit? t cs = some vs) : Captures t cs vs := by
  refine ⟨fits_of_fit? hcs h, ?_⟩
  intro ws hw
  induction hw generalizing vs with
  | done =>
    cases h
    trivial
  | @char c t cs ws _ ih =>
    simp only [fit?, beq_self_eq_true, ↓reduceIte] at h
    exact ih (fun hd => hcs (List.mem_cons_of_mem c hd)) h
  | @«variable» n segment t cs ws hsegment hslash hw ih =>
    rw [fit?] at h
    obtain ⟨i, hi, hfit, hlonger⟩ := findSome?_range_reverse h
    obtain ⟨vs, hvs, rfl⟩ := Option.map_eq_some_iff.mp hfit
    have hlength : 0 < segment.length := List.length_pos_iff.mpr hsegment
    have hsegment : segment.length - 1 < ((segment ++ cs).takeWhile (· != '/')).length := by
      rw [takeWhile_segment hslash, List.length_append]
      omega
    have hle : segment.length - 1 ≤ i := by
      apply Nat.le_of_not_lt
      intro hlt
      have hnone := hlonger _ hsegment hlt
      rw [Nat.sub_add_cancel hlength, List.drop_left, Option.map_eq_none_iff] at hnone
      have hsome := hw.fit?_isSome
      rw [hnone] at hsome
      cases hsome
    simp only [lengths, List.map_cons, String.length_ofList, List.length_take, AtMost]
    rw [Nat.min_eq_left hi]
    rcases Nat.lt_or_eq_of_le hle with hlt | rfl
    · exact .inl (by omega)
    · rw [Nat.sub_add_cancel hlength, List.drop_left] at hvs
      refine .inr ⟨by omega, ih (fun hd => hcs (List.mem_append_right segment hd)) hvs⟩

/-- What is found to fit a template is what the path gives to its variables. -/
theorem fit?_eq_some_iff {t : PathTemplate} {cs : List Char} {vs : List (String × String)}
    (hcs : '\n' ∉ cs) : fit? t cs = some vs ↔ Captures t cs vs := by
  constructor
  · exact captures_of_fit? hcs
  · intro hv
    obtain ⟨ws, hws⟩ := Option.isSome_iff_exists.mp hv.1.fit?_isSome
    rw [hv.unique (captures_of_fit? hcs hws)]
    exact hws

theorem go_plain {fuel : Nat} {cs : List Char} (hfuel : cs.length ≤ fuel)
    (h : variableNames (parts.go fuel cs) = []) : parts.go fuel cs = cs.map .char := by
  induction fuel generalizing cs with
  | zero =>
    cases cs with
    | nil => rfl
    | cons c cs => cases hfuel
  | succ fuel ih =>
    cases cs with
    | nil => rfl
    | cons c cs =>
      rw [parts.go] at h ⊢
      cases hc : takeVariable? (c :: cs) with
      | some found =>
        rw [hc] at h
        cases h
      | none =>
        rw [hc] at h
        exact congrArg (.char c :: ·) (ih (Nat.le_of_succ_le_succ hfuel) h)

/-- A template without variables is the text that it was read from. -/
theorem parts_plain {s : String} (h : variableNames (parts s) = []) : parts s = s.toList.map .char :=
  go_plain (Nat.le_of_eq String.length_toList) h

theorem fits_plain {cs ds : List Char} {vs : List (String × String)} (h : Fits (cs.map .char) ds vs) :
    ds = cs ∧ vs = [] := by
  induction cs generalizing ds with
  | nil =>
    cases h
    exact ⟨rfl, rfl⟩
  | cons c cs ih =>
    cases h with
    | char h =>
      obtain ⟨rfl, rfl⟩ := ih h
      exact ⟨rfl, rfl⟩

end PathTemplate

namespace RouteRule

def template (r : RouteRule) : PathTemplate := PathTemplate.parts r.path

/-- A rule is for a method, in whatever case the two are written. -/
def Covers (r : RouteRule) (method : String) : Prop := ∃ m ∈ r.methods, Text.upper m = Text.upper method

/-- A rule without variables, for this very path. -/
def Names (r : RouteRule) (path method : String) : Prop :=
  r.template.variableNames = [] ∧ r.path = path ∧ r.Covers method

/-- A rule with variables, for a path that fits its template. -/
def Describes (r : RouteRule) (path method : String) : Prop :=
  r.template.variableNames ≠ [] ∧ (∃ vs, r.template.Fits path.toList vs) ∧ r.Covers method

end RouteRule

/-- The first of some rules with a property, and its place. -/
def FirstRule (Q : RouteRule → Prop) (rules : List RouteRule) (i : Nat) (rule : RouteRule) : Prop :=
  rules[i]? = some rule ∧ Q rule ∧ ∀ j < i, ∀ r, rules[j]? = some r → ¬Q r

theorem FirstRule.unique {Q : RouteRule → Prop} {rules : List RouteRule} {i j : Nat} {rule other : RouteRule}
    (hi : FirstRule Q rules i rule) (hj : FirstRule Q rules j other) : i = j ∧ rule = other := by
  have hij : i = j := by
    rcases Nat.lt_trichotomy i j with hlt | heq | hlt
    · exact absurd hi.2.1 (hj.2.2 i hlt rule hi.1)
    · exact heq
    · exact absurd hj.2.1 (hi.2.2 j hlt other hj.1)
  subst hij
  exact ⟨rfl, Option.some.inj (hi.1.symm.trans hj.1)⟩

theorem FirstRule.mem {Q : RouteRule → Prop} {rules : List RouteRule} {i : Nat} {rule : RouteRule}
    (h : FirstRule Q rules i rule) : rule ∈ rules ∧ Q rule :=
  ⟨List.mem_of_getElem? h.1, h.2.1⟩

namespace Rules

variable {σ : Type} {h : Handler σ}

/-- The guard that is to decide about a path and a method, and the texts of the path's variables. -/
inductive Choice (h : Handler σ) (p : Policy) (path method : String) : RouteMatch → Prop
  | named {i : Nat} {rule : RouteRule} {g : Guard} :
      FirstRule (·.Names path method) p.routes i rule →
      h.guard rule.guard (routeLabel i rule) = .ok g → Choice h p path method ⟨g, []⟩
  | described {i : Nat} {rule : RouteRule} {g : Guard} {vs : List (String × String)} :
      (∀ r ∈ p.routes, ¬r.Names path method) →
      FirstRule (·.Describes path method) p.routes i rule →
      rule.template.Captures path.toList vs →
      h.guard rule.guard (routeLabel i rule) = .ok g → Choice h p path method ⟨g, vs⟩
  | default {g : Guard} :
      (∀ r ∈ p.routes, ¬r.Names path method) → (∀ r ∈ p.routes, ¬r.Describes path method) →
      h.guard p.default "default" = .ok g → Choice h p path method ⟨g, []⟩

theorem Choice.unique {p : Policy} {path method : String} {m₁ m₂ : RouteMatch}
    (h₁ : Choice h p path method m₁) (h₂ : Choice h p path method m₂) : m₁ = m₂ := by
  cases h₁ with
  | named hf₁ hg₁ =>
    cases h₂ with
    | named hf₂ hg₂ =>
      obtain ⟨rfl, rfl⟩ := hf₁.unique hf₂
      cases hg₁.symm.trans hg₂
      rfl
    | described hnone _ _ _ => exact absurd hf₁.mem.2 (hnone _ hf₁.mem.1)
    | default hnone _ _ => exact absurd hf₁.mem.2 (hnone _ hf₁.mem.1)
  | described hnone₁ hf₁ hc₁ hg₁ =>
    cases h₂ with
    | named hf₂ _ => exact absurd hf₂.mem.2 (hnone₁ _ hf₂.mem.1)
    | described _ hf₂ hc₂ hg₂ =>
      obtain ⟨rfl, rfl⟩ := hf₁.unique hf₂
      cases hg₁.symm.trans hg₂
      rw [hc₁.unique hc₂]
    | default _ hnone _ => exact absurd hf₁.mem.2 (hnone _ hf₁.mem.1)
  | default hnone₁ hnone₂ hg₁ =>
    cases h₂ with
    | named hf₂ _ => exact absurd hf₂.mem.2 (hnone₁ _ hf₂.mem.1)
    | described _ hf₂ _ _ => exact absurd hf₂.mem.2 (hnone₂ _ hf₂.mem.1)
    | default _ _ hg₂ =>
      cases hg₁.symm.trans hg₂
      rfl

/-- A search through the routes of a policy finds what it finds at the first rule with a property, if the
routes at which it finds something are those of the rules with the property. -/
theorem findSome?_routes {β : Type} {p : Policy} {rs : Routes} (hrs : routesOf h p = .ok rs)
    {f : Route → Option β} {Q : RouteRule → Prop}
    (hf : ∀ i rule r, p.routes[i]? = some rule → Compiled h i rule r → ((f r).isSome = true ↔ Q rule)) :
    (∀ b, rs.routes.findSome? f = some b →
      ∃ i rule r, FirstRule Q p.routes i rule ∧ Compiled h i rule r ∧ f r = some b) ∧
      (rs.routes.findSome? f = none → ∀ rule ∈ p.routes, ¬Q rule) := by
  obtain ⟨_, _, hlength, hget⟩ := routesOf_ok hrs
  constructor
  · intro b hb
    obtain ⟨before, a, after, hroutes, ha, hnone⟩ := List.findSome?_eq_some_iff.mp hb
    have hi : before.length < p.routes.length := by
      rw [← hlength, hroutes]
      simp
    have hrule := List.getElem?_eq_getElem hi
    obtain ⟨r, hr, hcompiled⟩ := hget _ _ hrule
    obtain rfl : a = r := by simpa [hroutes] using hr
    refine ⟨_, _, a, ⟨hrule, ?_, ?_⟩, hcompiled, ha⟩
    · exact (hf _ _ a hrule hcompiled).mp (by simp [ha])
    · intro j hj other hother hQ
      obtain ⟨s, hs, hcompiled⟩ := hget j other hother
      rw [hroutes, List.getElem?_append_left hj] at hs
      have hsome := (hf j other s hother hcompiled).mpr hQ
      rw [hnone s (List.mem_of_getElem? hs)] at hsome
      cases hsome
  · intro hnone rule hmem hQ
    obtain ⟨i, hrule⟩ := List.mem_iff_getElem?.mp hmem
    obtain ⟨r, hr, hcompiled⟩ := hget i rule hrule
    have hsome := (hf i rule r hrule hcompiled).mpr hQ
    rw [List.findSome?_eq_none_iff.mp hnone r (List.mem_of_getElem? hr)] at hsome
    cases hsome

theorem admits_iff {index : Nat} {rule : RouteRule} {r : Route} (hr : Compiled h index rule r)
    (method : String) : Routes.admits (Text.upper method) r = true ↔ rule.Covers method := by
  unfold Routes.admits RouteRule.Covers
  rw [hr.methods]
  simp [eq_comm]

theorem names_iff {index : Nat} {rule : RouteRule} {r : Route} (hr : Compiled h index rule r)
    (path method : String) :
    (r.variableNames.isEmpty && r.path == path && Routes.admits (Text.upper method) r) = true ↔
      rule.Names path method := by
  rw [Bool.and_eq_true, Bool.and_eq_true, List.isEmpty_iff, beq_iff_eq, admits_iff hr, hr.variableNames, hr.path,
    and_assoc]
  rfl

/-- A route matches a path as the template of its rule describes it. A rule without variables matches no
other path than its own. -/
theorem describes_iff {index : Nat} {rule : RouteRule} {r : Route} (hr : Compiled h index rule r)
    {path : String} (hpath : '\n' ∉ path.toList) {method : String} (hnot : ¬rule.Names path method) :
    (if Routes.admits (Text.upper method) r then
        (Text.Regex.match? r.pattern path).map fun vs => RouteMatch.mk r.guard vs
      else none).isSome = true ↔ rule.Describes path method := by
  rw [hr.match?_eq]
  constructor
  · intro hsome
    obtain ⟨m, hm⟩ := Option.isSome_iff_exists.mp hsome
    split at hm
    next hadmits =>
      obtain ⟨vs, hvs, _⟩ := Option.map_eq_some_iff.mp hm
      have hfits := PathTemplate.fits_of_fit? hpath hvs
      have hcovers := (admits_iff hr method).mp hadmits
      refine ⟨?_, ⟨vs, hfits⟩, hcovers⟩
      intro hplain
      rw [PathTemplate.parts_plain hplain] at hfits
      have hsame : path = rule.path := String.toList_inj.mp (PathTemplate.fits_plain hfits).1
      exact hnot ⟨hplain, hsame.symm, hcovers⟩
    next => cases hm
  · rintro ⟨_, ⟨vs, hfits⟩, hcovers⟩
    rw [if_pos ((admits_iff hr method).mpr hcovers), Option.isSome_map]
    exact hfits.fit?_isSome

theorem find_choice {p : Policy} {rs : Routes} (hrs : routesOf h p = .ok rs) {path : String}
    (hpath : '\n' ∉ path.toList) (method : String) : Choice h p path method (rs.find path method) := by
  have hnames := findSome?_routes hrs (Q := (·.Names path method))
    (f := Option.guard fun r => r.variableNames.isEmpty && r.path == path && Routes.admits (Text.upper method) r)
    fun i rule r _ hr => by
      rw [← names_iff hr]
      simp
  rw [List.findSome?_guard] at hnames
  unfold Routes.find
  dsimp only
  split
  next r hr =>
    obtain ⟨i, rule, s, hfirst, hs, hguard⟩ := hnames.1 r hr
    obtain rfl : s = r := (Option.guard_eq_some_iff.mp hguard).1
    exact .named hfirst hs.guard
  next hr =>
    have hnone := hnames.2 hr
    have hdescribes := findSome?_routes hrs (Q := (·.Describes path method))
      (f := fun r => if Routes.admits (Text.upper method) r then
          (Text.Regex.match? r.pattern path).map fun vs => RouteMatch.mk r.guard vs else none)
      fun i rule r hrule hr => describes_iff hr hpath (hnone rule (List.mem_of_getElem? hrule))
    cases hfitting : rs.routes.findSome? fun r =>
        if Routes.admits (Text.upper method) r then
          (Text.Regex.match? r.pattern path).map fun vs => RouteMatch.mk r.guard vs
        else none with
    | some m =>
      obtain ⟨i, rule, r, hfirst, hr, hm⟩ := hdescribes.1 m hfitting
      split at hm
      next =>
        rw [hr.match?_eq] at hm
        obtain ⟨vs, hvs, rfl⟩ := Option.map_eq_some_iff.mp hm
        exact .described hnone hfirst ((PathTemplate.fit?_eq_some_iff hpath).mp hvs) hr.guard
      next => cases hm
    | none => exact .default hnone (hdescribes.2 hfitting) (routesOf_ok hrs).1

/-- A policy at work finds for every request what its rules choose. -/
theorem find_eq_iff {p : Policy} {rs : Routes} (hrs : routesOf h p = .ok rs) (path : String)
    (hpath : '\n' ∉ path.toList) (method : String) (m : RouteMatch) :
    rs.find path method = m ↔ Choice h p path method m := by
  constructor
  · rintro rfl
    exact find_choice hrs hpath method
  · exact (find_choice hrs hpath method).unique

def bareHandler : Handler Unit where
  send _ _ _ _ := throw (.operand .wrongType)

/-- A rule with a variable, and after it one for a path with a dot. -/
def dottedPolicy : Policy where
  routes := [⟨"/\x7bname\x7d", ["get"], .plain "denyAll"⟩, ⟨"/a.c", ["get"], .plain "permitAll"⟩]

theorem dotted_rule_chosen :
    ∃ g b : Guard, Choice bareHandler dottedPolicy "/a.c" "GET" ⟨g, []⟩ ∧ g.source = "permitAll" ∧
      Choice bareHandler dottedPolicy "/abc" "GET" ⟨b, [("name", "abc")]⟩ ∧ b.source = "denyAll" := by
  have hfind : ((routesOf bareHandler dottedPolicy).toOption.map fun rs =>
      (((rs.find "/a.c" "GET").guard.source, (rs.find "/a.c" "GET").pathVariables),
        ((rs.find "/abc" "GET").guard.source, (rs.find "/abc" "GET").pathVariables))) =
      some (("permitAll", []), ("denyAll", [("name", "abc")])) := by
    decide +kernel
  obtain ⟨rs, hrs, hfind⟩ := Option.map_eq_some_iff.mp hfind
  have hrs := except_ok_of_toOption hrs
  simp only [Prod.mk.injEq] at hfind
  obtain ⟨⟨hsource, hnone⟩, hsource', hname⟩ := hfind
  have hdot := (find_eq_iff hrs "/a.c" (by decide) "GET" _).mp rfl
  have hany := (find_eq_iff hrs "/abc" (by decide) "GET" _).mp rfl
  refine ⟨(rs.find "/a.c" "GET").guard, (rs.find "/abc" "GET").guard, ?_, hsource, ?_, hsource'⟩
  · rw [← hnone]
    exact hdot
  · rw [← hname]
    exact hany

end Rules

end AccessPolicy
