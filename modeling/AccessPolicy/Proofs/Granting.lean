import Mathlib.Data.Finset.Card
import Mathlib.Logic.Relation
import AccessPolicy.RoleHierarchy

/-!
What authorities grant. The closure of a list of roles, which is computed in rounds, is everything that one of
them reaches along the implications, in any number of steps.
-/

namespace AccessPolicy

namespace Implications

variable {imp : Implications} {seen newest roles : List String} {a b r : String} {n : Nat}

/-- Whether a role implies another one directly. -/
def Implies (imp : Implications) (a b : String) : Prop := b ∈ imp.children a

/-- Whether a role is another one or implies it over any number of steps. -/
def Reaches (imp : Implications) : String → String → Prop := Relation.ReflTransGen imp.Implies

theorem mem_keys_of_implies (h : imp.Implies a b) : a ∈ imp.map Prod.fst := by
  unfold Implies children at h
  cases hl : imp.lookup a with
  | none =>
    rw [hl] at h
    cases h
  | some cs =>
    obtain ⟨l₁, l₂, rfl, _⟩ := List.lookup_eq_some_iff.mp hl
    simp

theorem mem_fresh : b ∈ imp.fresh seen newest ↔ b ∉ seen ∧ ∃ a ∈ newest, imp.Implies a b := by
  simp [fresh, Implies, List.mem_eraseDups, and_comm]

theorem within_sound {P : String → Prop} (hseen : ∀ r ∈ seen, P r) (hnewest : newest ⊆ seen)
    (hstep : ∀ a b, P a → imp.Implies a b → P b) : ∀ r ∈ imp.within n seen newest, P r := by
  induction n generalizing seen newest with
  | zero => exact hseen
  | succ n ih =>
    unfold within
    split
    next => exact hseen
    next c cs hfresh =>
      refine ih (fun r hr => ?_) (List.subset_append_right _ _)
      rcases List.mem_append.mp hr with hr | hr
      · exact hseen r hr
      · rw [← hfresh] at hr
        obtain ⟨_, a, ha, himplies⟩ := mem_fresh.mp hr
        exact hstep a r (hseen a (hnewest ha)) himplies

theorem subset_within : seen ⊆ imp.within n seen newest := by
  induction n generalizing seen newest with
  | zero => exact List.Subset.refl _
  | succ n ih =>
    unfold within
    split
    next => exact List.Subset.refl _
    next => exact List.Subset.trans (List.subset_append_left _ _) ih

/-- What holds between the rounds: only the newest roles may imply something that was not seen. -/
structure Frontier (imp : Implications) (seen newest : List String) : Prop where
  recent : newest ⊆ seen
  followed : ∀ a ∈ seen, a ∉ newest → ∀ b, imp.Implies a b → b ∈ seen

/-- The implying roles that are still to be followed. -/
def pending (imp : Implications) (seen newest : List String) : Finset String :=
  (imp.map Prod.fst).toFinset.filter fun r => r ∉ seen ∨ r ∈ newest

theorem Frontier.advanced (h : imp.Frontier seen newest) :
    imp.Frontier (seen ++ imp.fresh seen newest) (imp.fresh seen newest) := by
  refine ⟨List.subset_append_right _ _, fun a ha hold b himplies => ?_⟩
  have hseen : a ∈ seen := (List.mem_append.mp ha).resolve_right hold
  by_cases hb : b ∈ seen
  · exact List.mem_append_left _ hb
  · by_cases hnewest : a ∈ newest
    · exact List.mem_append_right _ (mem_fresh.mpr ⟨hb, a, hnewest, himplies⟩)
    · exact absurd (h.followed a hseen hnewest b himplies) hb

/-- A round that finds something leaves less to be followed. -/
theorem Frontier.pending_lt (h : imp.Frontier seen newest) (hfound : imp.fresh seen newest ≠ []) :
    (imp.pending (seen ++ imp.fresh seen newest) (imp.fresh seen newest)).card <
      (imp.pending seen newest).card := by
  obtain ⟨b, hb⟩ := List.exists_mem_of_ne_nil _ hfound
  obtain ⟨_, a, ha, himplies⟩ := mem_fresh.mp hb
  refine Finset.card_lt_card (Finset.ssubset_iff_of_subset ?_ |>.mpr ⟨a, ?_, ?_⟩)
  · intro r hr
    obtain ⟨hkey, hopen⟩ := Finset.mem_filter.mp hr
    refine Finset.mem_filter.mpr ⟨hkey, .inl ?_⟩
    rcases hopen with hunseen | hfresh
    · exact fun hseen => hunseen (List.mem_append_left _ hseen)
    · exact (mem_fresh.mp hfresh).1
  · exact Finset.mem_filter.mpr ⟨List.mem_toFinset.mpr (mem_keys_of_implies himplies), .inr ha⟩
  · intro hopen
    rcases (Finset.mem_filter.mp hopen).2 with hunseen | hfresh
    · exact hunseen (List.mem_append_left _ (h.recent ha))
    · exact (mem_fresh.mp hfresh).1 (h.recent ha)

/-- With as many rounds as there are roles to follow, nothing that is implied is left out. -/
theorem Frontier.within_closed (h : imp.Frontier seen newest) (hn : (imp.pending seen newest).card ≤ n) :
    ∀ a ∈ imp.within n seen newest, ∀ b, imp.Implies a b → b ∈ imp.within n seen newest := by
  induction n generalizing seen newest with
  | zero =>
    intro a ha b himplies
    refine h.followed a ha (fun hnewest => ?_) b himplies
    have hmem : a ∈ imp.pending seen newest :=
      Finset.mem_filter.mpr ⟨List.mem_toFinset.mpr (mem_keys_of_implies himplies), .inr hnewest⟩
    rw [Finset.card_eq_zero.mp (Nat.le_zero.mp hn)] at hmem
    exact absurd hmem (Finset.notMem_empty a)
  | succ n ih =>
    unfold within
    split
    next hfresh =>
      intro a ha b himplies
      by_contra hb
      by_cases hnewest : a ∈ newest
      · have hmem : b ∈ imp.fresh seen newest := mem_fresh.mpr ⟨hb, a, hnewest, himplies⟩
        rw [hfresh] at hmem
        cases hmem
      · exact hb (h.followed a ha hnewest b himplies)
    next c cs hfresh =>
      have hlt := h.pending_lt (by simp [hfresh])
      have hadvanced := h.advanced
      rw [hfresh] at hlt hadvanced
      exact ih hadvanced (by omega)

/-- The closure of roles is what one of them reaches. -/
theorem mem_closure : r ∈ imp.closure roles ↔ ∃ a ∈ roles, imp.Reaches a r := by
  unfold closure
  constructor
  · refine within_sound (P := fun r => ∃ a ∈ roles, imp.Reaches a r) ?_ (List.Subset.refl _) ?_ r
    · intro a ha
      exact ⟨a, List.mem_eraseDups.mp ha, .refl⟩
    · rintro a b ⟨c, hc, hreaches⟩ himplies
      exact ⟨c, hc, hreaches.tail himplies⟩
  · rintro ⟨a, ha, hreaches⟩
    have hfrontier : imp.Frontier roles.eraseDups roles.eraseDups :=
      ⟨List.Subset.refl _, fun _ hold hnew => absurd hold hnew⟩
    have hbound : (imp.pending roles.eraseDups roles.eraseDups).card ≤ imp.length :=
      calc (imp.pending roles.eraseDups roles.eraseDups).card
        _ ≤ (imp.map Prod.fst).toFinset.card := Finset.card_filter_le _ _
        _ ≤ (imp.map Prod.fst).length := List.toFinset_card_le _
        _ = imp.length := List.length_map _
    induction hreaches with
    | refl => exact subset_within (List.mem_eraseDups.mpr ha)
    | tail _ himplies ih => exact hfrontier.within_closed hbound _ ih _ himplies

theorem reaches_unimplied (h : ∀ a, ¬imp.Implies a r) : imp.Reaches a r ↔ a = r := by
  constructor
  · intro hreaches
    rcases hreaches.cases_tail with heq | ⟨b, _, himplies⟩
    · exact heq.symm
    · exact absurd himplies (h b)
  · rintro rfl
    exact .refl

end Implications

/-- Whether an authority confers another one under a hierarchy; without any, it confers itself only. -/
def Confers (h : Option RoleHierarchy) (a r : String) : Prop :=
  match h with
  | none => a = r
  | some h => h.implications.Reaches a r

theorem mem_grantedUnder {h : Option RoleHierarchy} {authorities : List String} {r : String} :
    r ∈ grantedUnder h authorities ↔ ∃ a ∈ authorities, Confers h a r := by
  cases h with
  | none => simp [grantedUnder, Confers]
  | some h => exact Implications.mem_closure

theorem RoleHierarchy.ofImplications_ok {imp : Implications} {h : RoleHierarchy}
    (hh : ofImplications imp = .ok h) : h.implications = imp := by
  unfold ofImplications at hh
  split at hh
  next =>
    cases hh
    rfl
  next => cases hh

end AccessPolicy
