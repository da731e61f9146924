import AccessPolicy.Expr.Eval

/-!
Names and values: what a name stands for once bindings are changed, joined or overridden.
-/

namespace AccessPolicy

theorem lookup_of_mem_nodup {β : Type} {l : List (String × β)} {k : String} {b : β} (hn : (l.map Prod.fst).Nodup)
    (hm : (k, b) ∈ l) : l.lookup k = some b := by
  induction l with
  | nil => cases hm
  | cons e l ih =>
    obtain ⟨hhead, htail⟩ := List.nodup_cons.mp hn
    rcases List.mem_cons.mp hm with rfl | hm
    · exact List.lookup_cons_self
    · have hk : k ≠ e.1 := fun hk => hhead (hk ▸ List.mem_map_of_mem hm)
      rw [List.lookup_cons, beq_false_of_ne hk]
      exact ih htail hm

theorem find?_of_mem_nodup {α : Type} {f : α → String} {as : List α} {a : α} (hn : (as.map f).Nodup)
    (hm : a ∈ as) : as.find? (fun b => f b == f a) = some a := by
  induction as with
  | nil => cases hm
  | cons b as ih =>
    obtain ⟨hhead, htail⟩ := List.nodup_cons.mp hn
    rcases List.mem_cons.mp hm with rfl | hm
    · simp
    · have hne : f b ≠ f a := fun heq => hhead (heq.symm ▸ List.mem_map_of_mem hm)
      rw [List.find?_cons, beq_false_of_ne hne]
      exact ih htail hm

/-- The names that have values. -/
def Bindings.names (bs : Bindings) : List String := bs.map Prod.fst

@[simp] theorem Bindings.names_nil : Bindings.names [] = [] := rfl

@[simp] theorem Bindings.names_cons (e : String × Value) (bs : Bindings) :
    Bindings.names (e :: bs) = e.1 :: Bindings.names bs := rfl

@[simp] theorem Bindings.names_append (bs cs : Bindings) :
    Bindings.names (bs ++ cs) = Bindings.names bs ++ Bindings.names cs := List.map_append

theorem Bindings.lookup_eq_none {bs : Bindings} {n : String} :
    bs.lookup n = none ↔ n ∉ Bindings.names bs := by
  rw [List.lookup_eq_none_iff]
  constructor
  · intro h hn
    obtain ⟨e, he, rfl⟩ := List.mem_map.mp hn
    simpa using h e he
  · intro h e he
    by_cases hn : n = e.1
    · exact absurd (List.mem_map.mpr ⟨e, he, hn.symm⟩) h
    · simpa using hn

theorem Bindings.lookup_of_mem {bs : Bindings} {n : String} (h : n ∈ Bindings.names bs) :
    ∃ v, bs.lookup n = some v := by
  cases hv : bs.lookup n with
  | none => exact absurd h (lookup_eq_none.mp hv)
  | some v => exact ⟨v, rfl⟩

theorem Bindings.mem_of_lookup {bs : Bindings} {n : String} {v : Value} (h : bs.lookup n = some v) :
    n ∈ Bindings.names bs := by
  apply Decidable.byContradiction
  intro hn
  rw [lookup_eq_none.mpr hn] at h
  cases h

theorem Bindings.lookup_cons (k n : String) (w : Value) (bs : Bindings) :
    List.lookup n ((k, w) :: bs) = if n = k then some w else bs.lookup n := by
  by_cases h : n = k
  · simp [h]
  · rw [List.lookup_cons, beq_false_of_ne h, if_neg h]

theorem Bindings.lookup_assign (n m : String) (v : Value) (bs : Bindings) :
    (Bindings.assign n v bs).lookup m = if m = n then some v else bs.lookup m := by
  induction bs with
  | nil => exact lookup_cons n m v []
  | cons e bs ih =>
    obtain ⟨k, w⟩ := e
    by_cases hk : k = n
    · subst hk
      simp only [assign, beq_self_eq_true, ↓reduceIte, lookup_cons]
      split <;> rfl
    · simp only [assign, beq_iff_eq, hk, ↓reduceIte, lookup_cons, ih]
      by_cases h : m = k
      · rw [if_pos h, if_neg (h ▸ hk), if_pos h]
      · rw [if_neg h, if_neg h]

theorem Bindings.mem_names_assign {n m : String} {v : Value} {bs : Bindings} :
    m ∈ Bindings.names (Bindings.assign n v bs) ↔ m = n ∨ m ∈ Bindings.names bs := by
  induction bs with
  | nil => simp [assign]
  | cons e bs ih =>
    obtain ⟨k, w⟩ := e
    by_cases hk : k = n
    · subst hk
      simp [assign]
    · simp only [assign, beq_iff_eq, hk, ↓reduceIte, names_cons, List.mem_cons, ih]
      exact or_left_comm

theorem Bindings.names_assign_of_mem {n : String} {v : Value} {bs : Bindings} (h : n ∈ Bindings.names bs) :
    Bindings.names (Bindings.assign n v bs) = Bindings.names bs := by
  induction bs with
  | nil => cases h
  | cons e bs ih =>
    obtain ⟨k, w⟩ := e
    by_cases hk : k = n
    · simp [assign, hk]
    · have hn : n ∈ Bindings.names bs := by
        rcases List.mem_cons.mp h with rfl | h
        · exact absurd rfl hk
        · exact h
      simp [assign, hk, ih hn]

theorem Bindings.names_assign_of_not_mem {n : String} {v : Value} {bs : Bindings}
    (h : n ∉ Bindings.names bs) : Bindings.names (Bindings.assign n v bs) = Bindings.names bs ++ [n] := by
  induction bs with
  | nil => rfl
  | cons e bs ih =>
    obtain ⟨k, w⟩ := e
    rw [names_cons, List.mem_cons, not_or] at h
    have hk : k ≠ n := fun hk => h.1 hk.symm
    simp [assign, hk, ih h.2]

theorem Bindings.nodup_assign {n : String} {v : Value} {bs : Bindings} (h : (Bindings.names bs).Nodup) :
    (Bindings.names (Bindings.assign n v bs)).Nodup := by
  by_cases hn : n ∈ Bindings.names bs
  · rwa [names_assign_of_mem hn]
  · rw [names_assign_of_not_mem hn, List.nodup_append]
    refine ⟨h, List.pairwise_singleton _ n, ?_⟩
    rintro m hm _ hmem rfl
    exact hn (List.mem_singleton.mp hmem ▸ hm)

theorem Bindings.nodup_updated {bs extra : Bindings} (h : (Bindings.names bs).Nodup) :
    (Bindings.names (bs.updated extra)).Nodup := by
  induction extra generalizing bs with
  | nil => exact h
  | cons e extra ih => exact ih (nodup_assign h)

/-- Further bindings hide those of the same name. -/
theorem Bindings.lookup_updated {bs extra : Bindings} {n : String} (h : (Bindings.names extra).Nodup) :
    (bs.updated extra).lookup n = (extra.lookup n).or (bs.lookup n) := by
  induction extra generalizing bs with
  | nil => rfl
  | cons e extra ih =>
    obtain ⟨k, v⟩ := e
    obtain ⟨hk, hextra⟩ := List.nodup_cons.mp h
    change ((Bindings.assign k v bs).updated extra).lookup n = _
    rw [ih hextra, lookup_assign, lookup_cons]
    split
    next hn =>
      subst hn
      rw [lookup_eq_none.mpr hk]
      rfl
    next => rfl

theorem Bindings.lookup_updated_of_not_mem {bs extra : Bindings} {n : String}
    (h : n ∉ Bindings.names extra) : (bs.updated extra).lookup n = bs.lookup n := by
  induction extra generalizing bs with
  | nil => rfl
  | cons e extra ih =>
    rw [names_cons, List.mem_cons, not_or] at h
    change ((Bindings.assign e.1 e.2 bs).updated extra).lookup n = _
    rw [ih h.2, lookup_assign, if_neg h.1]

theorem Bindings.mem_names_updated {bs extra : Bindings} {n : String} :
    n ∈ Bindings.names (bs.updated extra) ↔ n ∈ Bindings.names bs ∨ n ∈ Bindings.names extra := by
  induction extra generalizing bs with
  | nil => simp [updated]
  | cons e extra ih =>
    change n ∈ Bindings.names ((Bindings.assign e.1 e.2 bs).updated extra) ↔ _
    rw [ih, mem_names_assign, names_cons, List.mem_cons, or_left_comm, or_assoc, or_left_comm]

theorem equal_text (s t : String) : (Value.text s).equal (.text t) = (s == t) := by
  simp only [Value.equal]

theorem alike_text (s t : String) : alike (.text s) (.text t) = (s == t) := by
  simp only [alike, bothNaN, equal_text, Bool.false_or]

end AccessPolicy
