import AccessPolicy.Proofs.Lacking

/-!
Calls and operators on values that lack a predicate: their results lack it too.
-/

namespace AccessPolicy

variable {p : Predicate}

/-! What the methods of a text answer are texts, lists of texts, numbers and truth values. -/

theorem textsOf_lack {css : List (List Char)} : (Value.list (css.map textOf)).lacks p = true :=
  allLack_iff.mpr fun v hv => by
    obtain ⟨_, _, rfl⟩ := List.mem_map.mp hv
    rfl

theorem searched_gives {α β : Type} {P : β → Prop} {items : List α} {bounds : List Value} {absent : β}
    {search : List α → Nat → Attempt β} (ha : P absent) (hs : ∀ part start, (search part start).Gives P) :
    (searched items bounds absent search).Gives P := by
  unfold searched
  refine .bind (.trivial _) fun found _ => ?_
  split
  · exact hs _ _
  · exact .ok ha

theorem callText_lacks {s : List Char} {name : String} {args : List Value} :
    (callText s name args).Gives (·.lacks p = true) := by
  unfold callText
  split
  -- The methods read their arguments, search, choose, and answer: each branch is made of these steps alone.
  all_goals
    repeat' first
      | exact .ok (by rfl)
      | exact .ok textsOf_lack
      | exact .error _
      | refine searched_gives (by rfl) fun _ _ => ?_
      | refine .bind (.trivial _) fun _ _ => ?_
      | split

/-! ### Methods of collections -/

theorem callSequence_lacks {items : List Value} {name : String} {args : List Value} :
    (callSequence items name args).Gives (·.lacks p = true) := by
  unfold callSequence
  split
  next => exact .ok (by rfl)
  next =>
    split
    next => exact .error _
    next =>
      refine .bind (.trivial _) fun found _ => ?_
      split
      · exact .ok (by rfl)
      · exact .error _
  next => exact .error _

theorem getD_lacks {o : Option Value} {d : Value} (ho : ∀ v, o = some v → v.lacks p = true)
    (hd : d.lacks p = true) : (o.getD d).lacks p = true := by
  cases o with
  | none => exact hd
  | some v => exact ho v rfl

theorem callMapping_lacks {kind : MappingKind} {entries : List (Value × Value)} {name : String}
    {args : List Value} (h : ∀ e ∈ entries, e.1.lacks p = true ∧ e.2.lacks p = true)
    (hargs : ∀ v ∈ args, v.lacks p = true) :
    (callMapping kind entries name args).Gives (·.lacks p = true) := by
  unfold callMapping
  split
  next => exact .ite (.ok (getD_lacks (fun _ => lookupEntry_lacks h) rfl)) (.error _)
  next =>
    refine .ite (.ok (getD_lacks (fun _ => lookupEntry_lacks h) ?_)) (.error _)
    exact hargs _ (by simp)
  next =>
    refine .ok (allLack_iff.mpr fun v hv => ?_)
    obtain ⟨e, he, rfl⟩ := List.mem_map.mp hv
    exact (h e he).1
  next =>
    refine .ok (allLack_iff.mpr fun v hv => ?_)
    obtain ⟨e, he, rfl⟩ := List.mem_map.mp hv
    exact (h e he).2
  next =>
    refine .ok (allLack_iff.mpr fun v hv => ?_)
    obtain ⟨e, he, rfl⟩ := List.mem_map.mp hv
    simp [Value.lacks, allLack, h e he]
  next => exact .ok (entriesLack_iff.mpr h)
  next => exact .error _

theorem combineSets_lack {op : BinaryOp} {xs ys zs : List Value} (hx : ∀ v ∈ xs, v.lacks p = true)
    (hy : ∀ v ∈ ys, v.lacks p = true) (h : combineSets op xs ys = some zs) :
    ∀ v ∈ zs, v.lacks p = true := by
  unfold combineSets at h
  split at h <;> cases h
  · exact insertItems_lack hx hy
  · exact fun v hv => hx v (List.mem_filter.mp hv).1
  · exact fun v hv => hx v (List.mem_filter.mp hv).1
  · intro v hv
    rcases List.mem_append.mp hv with hv | hv
    · exact hx v (List.mem_filter.mp hv).1
    · exact hy v (List.mem_filter.mp hv).1

theorem callSet_lacks {items : List Value} {build : List Value → Value} {name : String} {args : List Value}
    (hbuild : ∀ vs : List Value, (∀ v ∈ vs, v.lacks p = true) → (build vs).lacks p = true)
    (h : ∀ v ∈ items, v.lacks p = true) (hargs : ∀ v ∈ args, v.lacks p = true) :
    (callSet items build name args).Gives (·.lacks p = true) := by
  -- The operands are sets of lacking elements; union adds these, the other methods only take elements away.
  have hsets := Attempt.Gives.mapM (fun _ => asItems_lack (p := p)) hargs
  have hfiltered (sets : List (List Value)) (f : List Value → Value → Bool) :
      ∀ v ∈ sets.foldl (fun s ys => s.filter (f ys)) items, v.lacks p = true :=
    List.foldlRecOn (motive := fun s : List Value => ∀ v ∈ s, v.lacks p = true) sets _ h
      fun _ hs _ _ v hv => hs v (List.mem_filter.mp hv).1
  unfold callSet
  split
  next => exact .ok (hbuild _ h)
  next =>
    refine .bind hsets fun sets hsets => .ok (hbuild _ ?_)
    exact List.foldlRecOn (motive := fun s : List Value => ∀ v ∈ s, v.lacks p = true) sets _ h
      fun s hs ys hys => insertItems_lack hs (hsets ys hys)
  next => exact .bind hsets fun sets _ => .ok (hbuild _ (hfiltered sets _))
  next => exact .bind hsets fun sets _ => .ok (hbuild _ (hfiltered sets _))
  next other =>
    refine .bind (asItems_lack (hargs other (List.mem_singleton_self other))) fun ys hys => .ok (hbuild _ ?_)
    cases hzs : combineSets .bitXor items ys with
    | none => simp
    | some zs => exact combineSets_lack h hys hzs
  next => exact .bind (.trivial _) fun _ _ => .ok (by rfl)
  next => exact .bind (.trivial _) fun _ _ => .ok (by rfl)
  next => exact .bind (.trivial _) fun _ _ => .ok (by rfl)
  next => exact .error _

theorem Value.call_lacks {v : Value} {name : String} {args : List Value} (h : v.lacks p = true)
    (hargs : ∀ w ∈ args, w.lacks p = true) : (v.call name args).Gives (·.lacks p = true) := by
  unfold call
  split
  next => exact callText_lacks
  next =>
    split
    · exact .ok h
    · exact callSequence_lacks
  next => exact callSequence_lacks
  next => exact callSequence_lacks
  next => exact callSequence_lacks
  next => exact .ite callSequence_lacks (.error _)
  next => exact callMapping_lacks (entriesLack_iff.mp h) hargs
  next => exact callSet_lacks (fun _ => allLack_iff.mpr) (allLack_iff.mp h) hargs
  next => exact callSet_lacks (fun _ => allLack_iff.mpr) (allLack_iff.mp h) hargs
  next => exact callSet_lacks (fun _ => allLack_iff.mpr) (allLack_iff.mp h) hargs
  next => exact callSet_lacks (fun _ => allLack_iff.mpr) (allLack_iff.mp h) hargs
  next => split <;> first | exact .ok (by rfl) | exact .error _
  next => split <;> first | exact .ok (by rfl) | exact .error _
  next => split <;> first | exact .ok (by rfl) | exact .error _
  next =>
    split
    next => exact .ok (Option.elim_lacks (by rfl) fun _ => by rfl)
    next => exact .ok (Option.elim_lacks (hargs _ (by simp)) fun _ => by rfl)
    next => exact .error _
  next => exact .error _

theorem Value.argumentsOf_lack (v : Value) (name : String) : ∀ a ∈ v.argumentsOf name, a.2.lacks p = true := by
  unfold argumentsOf
  split <;> simp [lacks]

theorem Value.callNamed_lacks {v : Value} {name : String} {args : List Value} {named : List (String × Value)}
    (h : v.lacks p = true) (hargs : ∀ w ∈ args, w.lacks p = true)
    (hnamed : ∀ a ∈ named, a.2.lacks p = true) :
    (v.callNamed name args named).Gives (·.lacks p = true) := by
  unfold callNamed
  refine .ite (call_lacks h hargs) (.ite (call_lacks h ?_) (.error _))
  intro w hw
  rcases List.mem_append.mp hw with hw | hw
  · exact hargs w hw
  · obtain ⟨⟨n, d⟩, ha, rfl⟩ := List.mem_map.mp hw
    exact getD_lacks (fun _ => lookup_lacks hnamed)
      (v.argumentsOf_lack name (n, d) (List.mem_of_mem_drop ha))

/-! ### Containers and conversions -/

theorem absorb_lacks {entries : List (Value × Value)} {v : Value}
    (h : ∀ e ∈ entries, e.1.lacks p = true ∧ e.2.lacks p = true) (hv : v.lacks p = true) :
    (absorb entries v).Gives (∀ e ∈ ·, e.1.lacks p = true ∧ e.2.lacks p = true) := by
  unfold absorb
  split
  next => exact .ok (insertEntries_lack h (entriesLack_iff.mp hv))
  next =>
    refine .bind (Value.items_lack hv) fun items hitems => ?_
    refine .foldlM (fun es pair hes hpair => ?_) hitems h
    refine .bind (Value.items_lack hpair) fun parts hparts => ?_
    split
    · exact .ite (.ok (insertEntry_lacks hes (hparts _ (by simp)) (hparts _ (by simp)))) (.error _)
    · exact .error _

theorem Container.build_lacks {c : Container} {args : List Value} {named : List (String × Value)}
    (hargs : ∀ w ∈ args, w.lacks p = true) (hnamed : ∀ a ∈ named, a.2.lacks p = true) :
    (c.build args named).Gives (·.lacks p = true) := by
  unfold build
  split
  next => exact .ok (by rfl)
  next => exact .bind (Value.items_lack (hargs _ (by simp))) fun _ h => .ok (allLack_iff.mpr h)
  next => exact .ok (by rfl)
  next => exact .bind (Value.items_lack (hargs _ (by simp))) fun _ h => .ok (allLack_iff.mpr h)
  next => exact .ok (by rfl)
  next => exact .bind (asItems_lack (hargs _ (by simp))) fun _ h => .ok (allLack_iff.mpr h)
  next =>
    -- Named arguments come after the entries of the argument before them, whatever that is.
    have hrest (start : List (Value × Value)) (h : ∀ e ∈ start, e.1.lacks p = true ∧ e.2.lacks p = true) :
        entriesLack p (named.foldl (fun es a => insertEntry es (.text a.1) a.2) start) = true :=
      entriesLack_iff.mpr
        (List.foldlRecOn
          (motive := fun es : List (Value × Value) => ∀ e ∈ es, e.1.lacks p = true ∧ e.2.lacks p = true)
          named _ h fun _ hes a ha => insertEntry_lacks hes (by rfl) (hnamed a ha))
    split
    next => exact .ok (hrest [] (by simp))
    next v => exact .bind (absorb_lacks (by simp) (hargs v (by simp))) fun start h => .ok (hrest start h)
    next => exact .error _
  next => exact .error _

theorem Conversion.apply_lacks {c : Conversion} {args : List Value} {named : List (String × Value)} :
    (c.apply args named).Gives (·.lacks p = true) := by
  unfold apply
  split
  all_goals
    repeat' first
      | exact .ok (by rfl)
      | exact .error _
      | refine .bind (.trivial _) fun _ _ => ?_
      | split

/-! ### Operators -/

theorem Real.power_lacks {x y : Float} : (Real.power x y).Gives (·.lacks p = true) :=
  .ite (.error _) (.ite (.ok (by rfl)) (.ite (.error _) (.ok (by rfl))))

theorem arithmetic_lacks {op : BinaryOp} {m n : Numeric} : (arithmetic op m n).Gives (·.lacks p = true) := by
  unfold arithmetic
  split
  all_goals
    repeat' first
      | exact .ok (by rfl)
      | exact .error _
      | exact Real.power_lacks
      | refine .bind (.trivial _) fun _ _ => ?_
      | split

theorem mem_repeated {α : Type} {items : List α} {n : Int} {a : α} (h : a ∈ repeated items n) : a ∈ items := by
  unfold repeated at h
  split at h
  · cases h
  · obtain ⟨l, hl, ha⟩ := List.mem_flatten.mp h
    rwa [List.eq_of_mem_replicate hl] at ha

theorem Value.repeated_lacks {v : Value} {n : Int} (h : v.lacks p = true) :
    (v.repeated n).Gives (·.lacks p = true) := by
  have hitems {items : List Value} (h : allLack p items = true) :
      allLack p (AccessPolicy.repeated items n) = true :=
    allLack_iff.mpr fun w hw => allLack_iff.mp h w (mem_repeated hw)
  unfold Value.repeated
  dsimp only
  split
  next => exact .ite (.ok (by rfl)) (.error _)
  next => exact .ite (.ok (by rfl)) (.error _)
  next => exact .ite (.ok (by rfl)) (.error _)
  next => exact .ite (.ok (hitems h)) (.error _)
  next => exact .ite (.ok (hitems h)) (.error _)
  next => exact .ite (.ok (hitems h)) (.error _)
  next => exact .ite (.ok (hitems h)) (.error _)
  next => exact .error _

theorem allLack_append {xs ys : List Value} (hx : allLack p xs = true) (hy : allLack p ys = true) :
    allLack p (xs ++ ys) = true :=
  allLack_iff.mpr fun v hv => (List.mem_append.mp hv).elim (allLack_iff.mp hx v) (allLack_iff.mp hy v)

theorem Value.joined?_lacks {v w u : Value} (hv : v.lacks p = true) (hw : w.lacks p = true)
    (h : v.joined? w = some u) : u.lacks p = true := by
  unfold joined? at h
  split at h
  -- Joined texts and bytes have no parts.
  all_goals try (cases h; rfl)
  next => cases h; exact allLack_append hv hw
  next => cases h; exact allLack_append hv hw
  next => cases h; exact allLack_append hv hw
  next =>
    split at h <;> cases h
    exact allLack_append hv hw
  next => cases h

theorem setOperand?_lacks {beside v : Value} {xs : List Value} (h : v.lacks p = true)
    (hx : setOperand? beside v = some xs) : ∀ w ∈ xs, w.lacks p = true := by
  unfold setOperand? at hx
  split at hx
  next ys hys =>
    cases hx
    unfold Value.setItems? at hys
    split at hys <;> cases hys <;> exact allLack_iff.mp h
  next =>
    split at hx
    next =>
      obtain ⟨ys, hys, rfl⟩ := Option.map_eq_some_iff.mp hx
      exact distinct_lacks (Value.items?_lack h (Option.eq_some_of_filter_eq_some hys))
    next => cases hx

theorem combine_lacks {op : BinaryOp} {v w : Value} (hv : v.lacks p = true) (hw : w.lacks p = true) :
    (combine op v w).Gives (·.lacks p = true) := by
  unfold combine
  -- The operators of sets are tried at two places: by themselves, and for a union that is not one of mappings.
  extract_lets sets
  have hsets : sets.Gives (·.lacks p = true) := by
    unfold sets
    split
    next xs ys hxs hys =>
      split
      next zs hzs =>
        have h := allLack_iff.mpr (combineSets_lack (setOperand?_lacks hv hxs) (setOperand?_lacks hw hys) hzs)
        split <;> exact .ok h
      next => exact .error _
    next => exact .error _
  split
  next =>
    split
    next u hu => exact .ok (Value.joined?_lacks hv hw hu)
    next => exact .error _
  next =>
    split
    next => exact Value.repeated_lacks hv
    next => exact Value.repeated_lacks hw
    next => exact .error _
  next =>
    split
    next => exact .bind (.trivial _) fun _ _ => .ok (by rfl)
    next => exact .error _
  next =>
    split
    next => exact .ok (entriesLack_iff.mpr (insertEntries_lack (entriesLack_iff.mp hv) (entriesLack_iff.mp hw)))
    next => exact hsets
  next => exact hsets

theorem BinaryOp.apply_lacks {op : BinaryOp} {v w : Value} (hv : v.lacks p = true) (hw : w.lacks p = true) :
    (op.apply v w).Gives (·.lacks p = true) := by
  unfold apply
  split
  next => exact .ok (by rfl)
  next => exact .ok (by rfl)
  next => exact .ok (by rfl)
  next =>
    split
    · exact arithmetic_lacks
    · exact combine_lacks hv hw

theorem UnaryOp.apply_lacks {op : UnaryOp} {v : Value} : (op.apply v).Gives (·.lacks p = true) := by
  unfold apply
  split
  next => exact .ok (by rfl)
  next => split <;> first | exact .ok (by rfl) | exact .error _

theorem CompareOp.apply_lacks {op : CompareOp} {shared : Bool} {v w : Value} :
    (op.apply shared v w).Gives (·.lacks p = true) := by
  unfold apply
  split <;> first | exact .ok (by rfl) | exact .bind (.trivial _) fun _ _ => .ok (by rfl)

theorem Literal.value_lacks (c : Literal) : c.value.lacks p = true := by
  cases c <;> rfl

end AccessPolicy
