import AccessPolicy.Expr.Eval

/-!
Values that lack a predicate. A predicate is a value like any other and can be put into a collection, but it
comes out of a computation on values only if it went in: what is computed from values that lack a predicate
lacks it too.
-/

namespace AccessPolicy

mutual

/-- Whether a predicate is neither a value nor a part of it. -/
def Value.lacks (p : Predicate) : Value → Bool
  | .list items | .tuple items | .deque items | .set items | .frozenSet items | .view _ items
  | .array _ items | .iterator items => allLack p items
  | .mapping _ entries => entriesLack p entries
  | .slice lower upper step => lower.lacks p && upper.lacks p && step.lacks p
  | .entry key value => key.lacks p && value.lacks p
  | .identity a => a.lacks p
  | .object o => o.lacks p
  | .function f => f.lacks p
  | _ => true
termination_by structural v => v

def Authentication.lacks (p : Predicate) : Authentication → Bool
  | ⟨_, principal, _, _, _, details⟩ => principal.lacks p && entriesLack p details
termination_by structural a => a

def Object.lacks (p : Predicate) : Object → Bool
  | ⟨_, _, attributes, permissionTag, _⟩ => namedLack p attributes && optionLacks p permissionTag
termination_by structural o => o

def Function.lacks (p : Predicate) : Function → Bool
  | .predicate q => q != p
  | .method receiver _ => receiver.lacks p
  | _ => true
termination_by structural f => f

def allLack (p : Predicate) : List Value → Bool
  | [] => true
  | v :: vs => v.lacks p && allLack p vs
termination_by structural vs => vs

def entriesLack (p : Predicate) : List (Value × Value) → Bool
  | [] => true
  | (k, v) :: es => k.lacks p && v.lacks p && entriesLack p es
termination_by structural es => es

def namedLack (p : Predicate) : List (String × Value) → Bool
  | [] => true
  | (_, v) :: bs => v.lacks p && namedLack p bs
termination_by structural bs => bs

def optionLacks (p : Predicate) : Option Value → Bool
  | none => true
  | some v => v.lacks p
termination_by structural v => v

end

variable {p : Predicate}

theorem allLack_iff {vs : List Value} : allLack p vs = true ↔ ∀ v ∈ vs, v.lacks p = true := by
  induction vs with
  | nil => simp [allLack]
  | cons v vs ih => simp [allLack, ih]

theorem entriesLack_iff {es : List (Value × Value)} :
    entriesLack p es = true ↔ ∀ e ∈ es, e.1.lacks p = true ∧ e.2.lacks p = true := by
  induction es with
  | nil => simp [entriesLack]
  | cons e es ih => simp [entriesLack, ih]

theorem namedLack_iff {bs : List (String × Value)} :
    namedLack p bs = true ↔ ∀ b ∈ bs, b.2.lacks p = true := by
  induction bs with
  | nil => simp [namedLack]
  | cons b bs ih => simp [namedLack, ih]

theorem Authentication.lacks_iff {a : Authentication} :
    a.lacks p = true ↔ a.principal.lacks p = true ∧ entriesLack p a.details = true := by
  cases a
  exact Bool.and_eq_true_iff

theorem Object.lacks_iff {o : Object} :
    o.lacks p = true ↔ namedLack p o.attributes = true ∧ optionLacks p o.permissionTag = true := by
  cases o
  exact Bool.and_eq_true_iff

/-- That an operation, if it has a result, has one with a property. -/
def Attempt.Gives {α : Type} (P : α → Prop) (x : Attempt α) : Prop := ∀ a, x = .ok a → P a

namespace Attempt.Gives

variable {α β : Type} {P : α → Prop} {Q : β → Prop}

theorem ok {a : α} (h : P a) : Gives P (.ok a) := by
  rintro _ ⟨⟩
  exact h

theorem error (f : OperandFault) : Gives P (.error f) := by
  rintro _ ⟨⟩

theorem bind {x : Attempt α} {k : α → Attempt β} (hx : Gives P x) (hk : ∀ a, P a → Gives Q (k a)) :
    Gives Q (x >>= k) := by
  intro b hb
  cases x with
  | error f => cases hb
  | ok a => exact hk a (hx a rfl) b hb

theorem trivial (x : Attempt α) : Gives (fun _ => True) x := fun _ _ => True.intro

theorem ite {c : Prop} [Decidable c] {x y : Attempt α} (hx : Gives P x) (hy : Gives P y) :
    Gives P (if c then x else y) := by
  split
  · exact hx
  · exact hy

theorem foldlM {f : β → α → Attempt β} {as : List α} {b : β} (hf : ∀ b a, Q b → P a → Gives Q (f b a))
    (has : ∀ a ∈ as, P a) (hb : Q b) : Gives Q (as.foldlM f b) := by
  induction as generalizing b with
  | nil => exact ok hb
  | cons a as ih =>
    rw [List.foldlM_cons]
    refine bind (hf b a hb (has a List.mem_cons_self)) fun c hc => ?_
    exact ih (fun a ha => has a (List.mem_cons_of_mem _ ha)) hc

theorem mapM {f : α → Attempt β} {as : List α} (hf : ∀ a, P a → Gives Q (f a)) (has : ∀ a ∈ as, P a) :
    Gives (∀ b ∈ ·, Q b) (as.mapM f) := by
  induction as with
  | nil => exact ok (by simp)
  | cons a as ih =>
    rw [List.mapM_cons]
    refine bind (hf a (has a List.mem_cons_self)) fun b hb => ?_
    refine bind (ih fun a ha => has a (List.mem_cons_of_mem _ ha)) fun bs hbs => ok ?_
    intro c hc
    rcases List.mem_cons.mp hc with rfl | hc
    · exact hb
    · exact hbs c hc

end Attempt.Gives

/-! ### Collections -/

theorem mem_of_mem_listed {α : Type} {elements : List Value} {xs : List α} {x : α}
    (h : x ∈ listed elements xs) : x ∈ xs := by
  unfold listed at h
  split at h
  next places _ =>
    split at h
    next =>
      obtain ⟨e, he, rfl⟩ := List.mem_map.mp h
      exact (List.of_mem_zip (List.mem_mergeSort.mp he)).2
    next => exact h
  next => exact h

theorem mem_insertItem {items : List Value} {v w : Value} (h : w ∈ insertItem items v) : w ∈ items ∨ w = v := by
  unfold insertItem at h
  split at h
  · exact .inl h
  · simpa using h

theorem insertItems_lack {items more : List Value} (hitems : ∀ v ∈ items, v.lacks p = true)
    (hmore : ∀ v ∈ more, v.lacks p = true) : ∀ v ∈ more.foldl insertItem items, v.lacks p = true := by
  induction more generalizing items with
  | nil => exact hitems
  | cons w more ih =>
    refine ih ?_ fun v hv => hmore v (List.mem_cons_of_mem w hv)
    intro v hv
    rcases mem_insertItem hv with hv | rfl
    · exact hitems v hv
    · exact hmore v List.mem_cons_self

theorem distinct_lacks {items : List Value} (h : ∀ v ∈ items, v.lacks p = true) :
    ∀ v ∈ distinct items, v.lacks p = true :=
  insertItems_lack (by simp) h

theorem insertEntry_lacks {entries : List (Value × Value)} {k v : Value}
    (h : ∀ e ∈ entries, e.1.lacks p = true ∧ e.2.lacks p = true) (hk : k.lacks p = true)
    (hv : v.lacks p = true) :
    ∀ e ∈ insertEntry entries k v, e.1.lacks p = true ∧ e.2.lacks p = true := by
  unfold insertEntry
  split
  · intro e he
    obtain ⟨d, hd, rfl⟩ := List.mem_map.mp he
    split
    · exact ⟨(h d hd).1, hv⟩
    · exact h d hd
  · intro e he
    rcases List.mem_append.mp he with he | he
    · exact h e he
    · rw [List.mem_singleton.mp he]
      exact ⟨hk, hv⟩

theorem insertEntries_lack {entries more : List (Value × Value)}
    (h : ∀ e ∈ entries, e.1.lacks p = true ∧ e.2.lacks p = true)
    (hmore : ∀ e ∈ more, e.1.lacks p = true ∧ e.2.lacks p = true) :
    ∀ e ∈ more.foldl (fun es e => insertEntry es e.1 e.2) entries, e.1.lacks p = true ∧ e.2.lacks p = true := by
  induction more generalizing entries with
  | nil => exact h
  | cons d more ih =>
    obtain ⟨hk, hv⟩ := hmore d List.mem_cons_self
    exact ih (insertEntry_lacks h hk hv) fun e he => hmore e (List.mem_cons_of_mem d he)

theorem lookupEntry_lacks {entries : List (Value × Value)} {k v : Value}
    (h : ∀ e ∈ entries, e.1.lacks p = true ∧ e.2.lacks p = true) (hv : lookupEntry entries k = some v) :
    v.lacks p = true := by
  obtain ⟨e, he, rfl⟩ := Option.map_eq_some_iff.mp hv
  exact (h e (List.mem_of_find?_eq_some he)).2

theorem Value.items?_lack {v : Value} {items : List Value} (h : v.lacks p = true) (hv : v.items? = some items) :
    ∀ w ∈ items, w.lacks p = true := by
  cases v with
  | list | tuple | deque | «view» | array | iterator =>
    cases hv
    exact allLack_iff.mp h
  | set | frozenSet =>
    cases hv
    intro w hw
    exact allLack_iff.mp h w (mem_of_mem_listed hw)
  | mapping =>
    cases hv
    intro w hw
    obtain ⟨e, he, rfl⟩ := List.mem_map.mp hw
    exact (entriesLack_iff.mp h e he).1
  -- What these go through is made from characters, bytes, numbers and header names.
  | text | bytes | byteArray | range | requestHeaders =>
    cases hv
    intro w hw
    obtain ⟨_, _, rfl⟩ := List.mem_map.mp hw
    rfl
  | document d =>
    cases hv
    simp [Document.fields, lacks, allLack]
  | peer =>
    cases hv
    simp [lacks]
  | request =>
    cases hv
    simp
  | _ => cases hv

theorem Value.items_lack {v : Value} (h : v.lacks p = true) : v.items.Gives (∀ w ∈ ·, w.lacks p = true) := by
  unfold items
  split
  next items hv => exact .ok (items?_lack h hv)
  next => exact .error _

theorem asItems_lack {v : Value} (h : v.lacks p = true) : (asItems v).Gives (∀ w ∈ ·, w.lacks p = true) :=
  .bind (Value.items_lack h) fun _ hitems => .ite (.ok (distinct_lacks hitems)) (.error _)

theorem mem_of_mem_pick {α : Type} {items : List α} {positions : List Nat} {a : α}
    (h : a ∈ pick items positions) : a ∈ items := by
  obtain ⟨i, _, hi⟩ := List.mem_filterMap.mp h
  simpa using Array.mem_of_getElem? hi

theorem subscriptSequence_lacks {α : Type} {items : List α} {one : α → Value} {whole : List α → Value}
    {key : Value} (hone : ∀ a ∈ items, (one a).lacks p = true)
    (hwhole : ∀ as : List α, (∀ a ∈ as, a ∈ items) → (whole as).lacks p = true) :
    (subscriptSequence items one whole key).Gives (·.lacks p = true) := by
  unfold subscriptSequence
  split
  next => exact .bind (.trivial _) fun _ _ => .ok (hwhole _ fun _ => mem_of_mem_pick)
  next =>
    split
    next => exact .error _
    next =>
      split
      next v hv =>
        obtain ⟨i, _, hi⟩ := Option.bind_eq_some_iff.mp hv
        exact .ok (hone v (List.mem_of_getElem? hi))
      next => exact .error _

theorem subscriptItems_lacks {items : List Value} {whole : List Value → Value} {key : Value}
    (h : ∀ v ∈ items, v.lacks p = true)
    (hwhole : ∀ vs : List Value, (∀ v ∈ vs, v.lacks p = true) → (whole vs).lacks p = true) :
    (subscriptSequence items id whole key).Gives (·.lacks p = true) :=
  subscriptSequence_lacks h fun vs hvs => hwhole vs fun v hv => h v (hvs v hv)

theorem Value.subscript_lacks {v : Value} (key : Value) (h : v.lacks p = true) :
    (v.subscript key).Gives (·.lacks p = true) := by
  unfold subscript
  split
  next => exact subscriptSequence_lacks (fun _ _ => by rfl) fun _ _ => by rfl
  next => exact subscriptSequence_lacks (fun _ _ => by rfl) fun _ _ => by rfl
  next => exact subscriptSequence_lacks (fun _ _ => by rfl) fun _ _ => by rfl
  next => exact subscriptItems_lacks (allLack_iff.mp h) fun _ => allLack_iff.mpr
  next => exact subscriptItems_lacks (allLack_iff.mp h) fun _ => allLack_iff.mpr
  next => exact subscriptItems_lacks (allLack_iff.mp h) fun _ => allLack_iff.mpr
  next => exact subscriptItems_lacks (by simp [lacks]) fun _ => allLack_iff.mpr
  next =>
    split
    next => exact .error _
    next => exact subscriptItems_lacks (allLack_iff.mp h) fun _ => allLack_iff.mpr
  next start stop step =>
    split
    next => exact .bind (.trivial _) fun _ _ => .ok (by rfl)
    next =>
      refine subscriptItems_lacks ?_ fun _ => allLack_iff.mpr
      intro w hw
      obtain ⟨_, _, rfl⟩ := List.mem_map.mp hw
      rfl
  next entries =>
    refine .ite ?_ (.error _)
    split
    next w hw => exact .ok (lookupEntry_lacks (entriesLack_iff.mp h) hw)
    next => exact .error _
  next =>
    split
    · exact .ok (by rfl)
    · exact .ok (by rfl)
    · exact .ok (by rfl)
    · exact .ite (.error _) (.error _)
  next =>
    split
    next =>
      split
      · exact .ok (by rfl)
      · exact .error _
    next => exact .error _
  next => exact .error _

/-! ### Attributes and methods -/

theorem lookup_lacks {bs : List (String × Value)} {n : String} {v : Value}
    (h : ∀ b ∈ bs, b.2.lacks p = true) (hv : bs.lookup n = some v) : v.lacks p = true := by
  induction bs with
  | nil => cases hv
  | cons b bs ih =>
    rw [List.lookup_cons] at hv
    split at hv
    · cases hv
      exact h b List.mem_cons_self
    · exact ih (fun b hb => h b (List.mem_cons_of_mem _ hb)) hv

theorem texts_lack {ss : List String} : allLack p (ss.map .text) = true :=
  allLack_iff.mpr fun v hv => by
    obtain ⟨_, _, rfl⟩ := List.mem_map.mp hv
    rfl

theorem Option.elim_lacks {α : Type} {o : Option α} {k : α → Value} {d : Value} (hd : d.lacks p = true)
    (hk : ∀ a, (k a).lacks p = true) : (o.elim d k).lacks p = true := by
  cases o with
  | none => exact hd
  | some a => exact hk a

theorem Value.dataAttribute?_lacks {v w : Value} {name : String} (h : v.lacks p = true)
    (hw : v.dataAttribute? name = some w) : w.lacks p = true := by
  unfold dataAttribute? at hw
  split at hw
  -- Most attributes are numbers, texts and truth values.
  all_goals try (cases hw; rfl)
  next =>
    cases hw
    exact (Bool.and_eq_true_iff.mp h).1
  next =>
    cases hw
    exact (Bool.and_eq_true_iff.mp h).2
  next =>
    cases hw
    exact Option.elim_lacks rfl fun _ => rfl
  next =>
    cases hw
    exact (Authentication.lacks_iff.mp h).1
  next =>
    cases hw
    exact texts_lack
  next =>
    cases hw
    exact (Authentication.lacks_iff.mp h).2
  next => exact lookup_lacks (by simp [Document.fields, lacks]) hw
  next o =>
    obtain ⟨hattributes, htag⟩ := Object.lacks_iff.mp h
    split at hw
    next u hu =>
      cases hw
      exact lookup_lacks (namedLack_iff.mp hattributes) hu
    next =>
      split at hw
      · rw [hw] at htag
        exact htag
      · cases hw
  next =>
    cases hw
    exact Option.elim_lacks rfl fun _ => rfl
  next =>
    obtain ⟨_, _, rfl⟩ := Option.map_eq_some_iff.mp hw
    rfl
  next =>
    obtain ⟨_, _, rfl⟩ := Option.map_eq_some_iff.mp hw
    rfl
  next =>
    obtain ⟨_, _, rfl⟩ := Option.map_eq_some_iff.mp hw
    rfl
  next => cases hw

theorem Value.attribute?_lacks {v w : Value} {name : String} (h : v.lacks p = true)
    (hw : v.attribute? name = some w) : w.lacks p = true := by
  unfold attribute? at hw
  split at hw
  next u hu =>
    cases hw
    exact dataAttribute?_lacks h hu
  next =>
    split at hw <;> cases hw
    exact h

end AccessPolicy
