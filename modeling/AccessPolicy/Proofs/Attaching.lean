import AccessPolicy.Callable.Slots

/-!
Guards put on a callable one after another. A slot keeps the first guard that is put into it, and whatever comes for
it later fails and changes nothing. So applications for different slots can change places.
-/

namespace AccessPolicy

namespace Slots

variable {f : String} {s t : Slots} {slot : Slot} {a b : Application} {as later : List Application}

/-- The slots that applications leave. -/
def after (f : String) (s : Slots) (as : List Application) : Slots :=
  as.foldl (fun s a => (s.applied f a).2) s

/-- Why applications fail, for each of them. -/
def faults (f : String) (s : Slots) (as : List Application) : List (Option Misconfiguration) :=
  (applyAll f s as).map Prod.fst

/-- The applications that succeed. -/
def successes (f : String) (s : Slots) (as : List Application) : List Application :=
  ((as.zip (faults f s as)).filter fun e => e.2.isNone).map Prod.fst

theorem ext_get (hget : ∀ slot, s.get slot = t.get slot) (htarget : s.filterTarget = t.filterTarget) : s = t := by
  have hpreAuthorize : s.preAuthorize = t.preAuthorize := hget .preAuthorize
  have hpreFilter : s.preFilter = t.preFilter := hget .preFilter
  have hpostAuthorize : s.postAuthorize = t.postAuthorize := hget .postAuthorize
  have hpostFilter : s.postFilter = t.postFilter := hget .postFilter
  cases s
  cases t
  simp_all only

theorem isSecured_iff : s.isSecured = true ↔ ∃ slot, (s.get slot).isSome = true := by
  simp only [isSecured, Bool.or_eq_true]
  constructor
  · rintro (((h | h) | h) | h)
    · exact ⟨.preAuthorize, h⟩
    · exact ⟨.preFilter, h⟩
    · exact ⟨.postAuthorize, h⟩
    · exact ⟨.postFilter, h⟩
  · rintro ⟨slot, h⟩
    cases slot with
    | preAuthorize => exact .inl (.inl (.inl h))
    | preFilter => exact .inl (.inl (.inr h))
    | postAuthorize => exact .inl (.inr h)
    | postFilter => exact .inr h

section Step

theorem applied_taken (f : String) (h : (s.get a.slot).isSome = true) :
    s.applied f a = (some (.slotTaken f ("security_" ++ a.slot.name)), s) := by
  unfold applied attach
  rw [if_pos h]

theorem applied_free (f : String) (h : s.get a.slot = none) :
    s.applied f a = (none, if a.slot = .preFilter then { s.set a.slot a.text with filterTarget := a.target }
      else s.set a.slot a.text) := by
  unfold applied attach
  rw [h]
  simp only [Option.isSome_none, Bool.false_eq_true, ↓reduceIte, beq_iff_eq]

theorem fault_applied (f : String) (s : Slots) (a : Application) :
    (s.applied f a).1 = (s.get a.slot).map fun _ => .slotTaken f ("security_" ++ a.slot.name) := by
  cases h : s.get a.slot with
  | none => rw [applied_free f h]; rfl
  | some g => rw [applied_taken f (by rw [h]; rfl)]; rfl

theorem get_set (s : Slots) (slot slot' : Slot) (g : Option GuardText) :
    (s.set slot g).get slot' = if slot = slot' then g else s.get slot' := by
  cases slot <;> cases slot' <;> rfl

theorem filterTarget_set (s : Slots) (slot : Slot) (g : Option GuardText) :
    (s.set slot g).filterTarget = s.filterTarget := by
  cases slot <;> rfl

/-- A slot takes a guard that is meant for it, unless it holds one. -/
theorem get_applied (f : String) (s : Slots) (a : Application) (slot : Slot) :
    (s.applied f a).2.get slot = (s.get slot).or (if a.slot = slot then a.text else none) := by
  cases h : s.get a.slot with
  | some g =>
    rw [applied_taken f (by rw [h]; rfl)]
    split
    next hslot => rw [← hslot, h]; rfl
    next => rw [Option.or_none]
  | none =>
    have hset : (s.applied f a).2.get slot = (s.set a.slot a.text).get slot := by
      rw [applied_free f h]
      dsimp only
      split
      · cases slot <;> rfl
      · rfl
    rw [hset, get_set]
    split
    next hslot => rw [← hslot, h, Option.none_or]
    next => rw [Option.or_none]

theorem filterTarget_applied (f : String) (s : Slots) (a : Application) :
    (s.applied f a).2.filterTarget =
      if a.slot = .preFilter ∧ s.get .preFilter = none then a.target else s.filterTarget := by
  cases h : s.get a.slot with
  | some g =>
    rw [applied_taken f (by rw [h]; rfl), if_neg]
    rintro ⟨hslot, hnone⟩
    rw [hslot, hnone] at h
    cases h
  | none =>
    rw [applied_free f h]
    by_cases hslot : a.slot = .preFilter
    · rw [if_pos hslot, if_pos ⟨hslot, hslot ▸ h⟩]
    · rw [if_neg hslot, if_neg fun hboth => hslot hboth.1]
      exact filterTarget_set s a.slot a.text

theorem fault_applied_of_ne (hne : a.slot ≠ b.slot) : ((s.applied f a).2.applied f b).1 = (s.applied f b).1 := by
  rw [fault_applied, fault_applied, get_applied, if_neg hne, Option.or_none]

theorem applied_comm (hne : a.slot ≠ b.slot) :
    ((s.applied f a).2.applied f b).2 = ((s.applied f b).2.applied f a).2 := by
  refine ext_get (fun slot => ?_) ?_
  · simp only [get_applied, Option.or_assoc]
    congr 1
    by_cases ha : a.slot = slot
    · rw [if_pos ha, if_neg fun hb => hne (ha.trans hb.symm), Option.or_none, Option.none_or]
    · rw [if_neg ha, Option.or_none, Option.none_or]
  · simp only [filterTarget_applied, get_applied]
    by_cases ha : a.slot = .preFilter
    · have hb : b.slot ≠ .preFilter := fun hb => hne (ha.trans hb.symm)
      simp only [ha, hb, true_and, false_and, if_false, Option.or_none]
    · simp only [ha, false_and, if_false, Option.or_none]

end Step

section Run

theorem after_append (f : String) (s : Slots) (as later : List Application) :
    after f s (as ++ later) = after f (after f s as) later := List.foldl_append

theorem applyAll_append (f : String) (s : Slots) (as later : List Application) :
    applyAll f s (as ++ later) = applyAll f s as ++ applyAll f (after f s as) later := by
  induction as generalizing s with
  | nil => rfl
  | cons a as ih => exact congrArg (s.applied f a :: ·) (ih (s.applied f a).2)

theorem length_applyAll (f : String) (s : Slots) (as : List Application) : (applyAll f s as).length = as.length := by
  induction as generalizing s with
  | nil => rfl
  | cons a as ih => exact congrArg (· + 1) (ih _)

theorem faults_append (f : String) (s : Slots) (as later : List Application) :
    faults f s (as ++ later) = faults f s as ++ faults f (after f s as) later := by
  unfold faults
  rw [applyAll_append, List.map_append]

/-- Of the guards for a slot it holds the first. -/
theorem get_after (f : String) (s : Slots) (as : List Application) (slot : Slot) :
    (after f s as).get slot = (s.get slot).or ((as.filter fun a => a.slot = slot).findSome? (·.text)) := by
  induction as generalizing s with
  | nil => exact (Option.or_none).symm
  | cons a as ih =>
    change (after f (s.applied f a).2 as).get slot = _
    rw [ih, get_applied, Option.or_assoc]
    congr 1
    by_cases ha : a.slot = slot
    · rw [List.filter_cons_of_pos (by simpa using ha), List.findSome?_cons, if_pos ha]
      cases a.text <;> rfl
    · rw [List.filter_cons_of_neg (by simpa using ha), if_neg ha, Option.none_or]

theorem successes_cons (f : String) (s : Slots) (a : Application) (as : List Application) :
    successes f s (a :: as) =
      if s.get a.slot = none then a :: successes f (s.applied f a).2 as else successes f (s.applied f a).2 as := by
  change (((a, (s.applied f a).1) :: as.zip (faults f (s.applied f a).2 as)).filter fun e => e.2.isNone).map Prod.fst = _
  rw [fault_applied]
  cases s.get a.slot <;> rfl

/-- Only an application that succeeds sets a target, and the last one counts. -/
theorem filterTarget_after (f : String) (s : Slots) (as : List Application) :
    (after f s as).filterTarget =
      ((successes f s as).filter fun a => a.slot = .preFilter).getLast?.elim s.filterTarget (·.target) := by
  induction as generalizing s with
  | nil => rfl
  | cons a as ih =>
    change (after f (s.applied f a).2 as).filterTarget = _
    rw [ih, filterTarget_applied, successes_cons]
    -- Only a filter before a call that finds its slot free is among the successes that set a target.
    by_cases hslot : a.slot = .preFilter
    · by_cases hfree : s.get .preFilter = none
      · rw [if_pos ⟨hslot, hfree⟩, hslot, if_pos hfree, List.filter_cons_of_pos (by simpa using hslot),
          List.getLast?_cons]
        cases (((successes f (s.applied f a).2 as).filter fun a => a.slot = .preFilter).getLast?) <;> rfl
      · rw [if_neg fun hboth => hfree hboth.2, hslot, if_neg hfree]
    · have hfilter : ((if s.get a.slot = none then a :: successes f (s.applied f a).2 as
          else successes f (s.applied f a).2 as).filter fun a => a.slot = .preFilter) =
          (successes f (s.applied f a).2 as).filter fun a => a.slot = .preFilter := by
        split
        · exact List.filter_cons_of_neg (by simpa using hslot)
        · rfl
      rw [if_neg fun hboth => hslot hboth.1, hfilter]

theorem applyAll_at (f : String) (s : Slots) (as : List Application) (a : Application) (later : List Application) :
    (applyAll f s (as ++ a :: later))[as.length]? = some ((after f s as).applied f a) := by
  rw [applyAll_append, List.getElem?_append_right (Nat.le_of_eq (length_applyAll f s as)), length_applyAll,
    Nat.sub_self]
  rfl

/-- Two neighbours for different slots can change places: each fails if it did before, and so do all the others. -/
theorem exchanged (f : String) (s : Slots) (as later : List Application) (hne : a.slot ≠ b.slot) :
    after f s (as ++ b :: a :: later) = after f s (as ++ a :: b :: later) ∧
      ∃ u x y v, u.length = as.length ∧ faults f s (as ++ a :: b :: later) = u ++ x :: y :: v ∧
        faults f s (as ++ b :: a :: later) = u ++ y :: x :: v := by
  have hcomm := applied_comm (f := f) (s := after f s as) hne
  refine ⟨?_, faults f s as, ((after f s as).applied f a).1, ((after f s as).applied f b).1,
    faults f (((after f s as).applied f a).2.applied f b).2 later, ?_, ?_, ?_⟩
  · rw [after_append, after_append]
    exact congrArg (after f · later) hcomm.symm
  · rw [faults, List.length_map, length_applyAll]
  · rw [faults_append, ← fault_applied_of_ne (a := a) (b := b) hne]
    rfl
  · rw [faults_append, ← fault_applied_of_ne (a := b) (b := a) hne.symm, hcomm]
    rfl

end Run

/-- Guards put on a function one after another, of which any may be missing. A slot holds the first guard that was
meant for it, and the target of the filter before a call is that of the last such filter that succeeded. An
application fails exactly if its slot holds a guard already, and then the slots are left as they were. The function
counts as secured exactly if some slot holds a guard. Neighbours for different slots can change places. -/
theorem first_guards_kept (f : String) (as : List Application) :
    (∀ slot, (after f {} as).get slot = (as.filter fun a => a.slot = slot).findSome? (·.text)) ∧
    (after f {} as).filterTarget =
      ((successes f {} as).filter fun a => a.slot = .preFilter).getLast?.bind (·.target) ∧
    (∀ before a later, as = before ++ a :: later →
      (((after f {} before).get a.slot).isSome = true →
        (applyAll f {} as)[before.length]? =
          some (some (.slotTaken f ("security_" ++ a.slot.name)), after f {} before)) ∧
      ((after f {} before).get a.slot = none →
        (applyAll f {} as)[before.length]? = some (none, after f {} (before ++ [a])))) ∧
    ((after f {} as).isSecured = true ↔ ∃ slot, ((after f {} as).get slot).isSome = true) ∧
    ∀ before a b later, as = before ++ a :: b :: later → a.slot ≠ b.slot →
      after f {} (before ++ b :: a :: later) = after f {} as ∧
        ∃ u x y v, u.length = before.length ∧ faults f {} as = u ++ x :: y :: v ∧
          faults f {} (before ++ b :: a :: later) = u ++ y :: x :: v := by
  refine ⟨fun slot => ?_, ?_, ?_, isSecured_iff, ?_⟩
  · rw [get_after]
    cases slot <;> exact Option.none_or
  · rw [filterTarget_after]
    cases ((successes f {} as).filter fun a => a.slot = .preFilter).getLast? <;> rfl
  · rintro before a later rfl
    rw [applyAll_at, after_append]
    refine ⟨fun htaken => congrArg some (applied_taken f htaken), fun hfree => congrArg some ?_⟩
    have hfault : ((after f {} before).applied f a).1 = none := by rw [applied_free f hfree]
    exact Prod.ext hfault rfl
  · rintro before a b later rfl hne
    exact exchanged f {} before later hne

/-- Filters before a call, the first of them missing and the last one too late, with a demand in between. -/
def filtersAndDemand : List Application :=
  [⟨.preFilter, none, some "left"⟩, ⟨.preFilter, some (.plain "permitAll"), none⟩,
    ⟨.postAuthorize, some (.plain "denyAll"), none⟩, ⟨.preFilter, some (.plain "denyAll"), some "right"⟩]

theorem filtersAndDemand_kept :
    (after "merge" {} filtersAndDemand).get .preFilter = some (.plain "permitAll") ∧
      (after "merge" {} filtersAndDemand).filterTarget = none ∧
      (applyAll "merge" {} filtersAndDemand)[3]? =
        some (some (.slotTaken "merge" "security_pre_filter"), after "merge" {} (filtersAndDemand.take 3)) ∧
      (after "merge" {} filtersAndDemand).isSecured = true ∧
      after "merge" {} [filtersAndDemand[0], filtersAndDemand[2], filtersAndDemand[1], filtersAndDemand[3]] =
        after "merge" {} filtersAndDemand := by
  obtain ⟨hslots, htarget, hat, hsecured, hexchanged⟩ := first_guards_kept "merge" filtersAndDemand
  refine ⟨(hslots .preFilter).trans rfl, htarget.trans (by decide +kernel), ?_, ?_, ?_⟩
  · exact (hat (filtersAndDemand.take 3) filtersAndDemand[3] [] rfl).1 rfl
  · exact hsecured.mpr ⟨.postAuthorize, by rw [hslots]; rfl⟩
  · exact (hexchanged (filtersAndDemand.take 1) filtersAndDemand[1] filtersAndDemand[2] _ rfl (by decide)).1

end Slots

end AccessPolicy
