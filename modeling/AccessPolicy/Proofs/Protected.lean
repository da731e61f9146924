import AccessPolicy.Callable.Proxy
import AccessPolicy.Proofs.Accepted
import AccessPolicy.Proofs.PlainGuards

/-!
Protected objects. A method that carries guards is secured with those very guards, and a call of it by its
name on the proxy is a call that is secured so.
-/

namespace AccessPolicy

variable {σ : Type} {h : Handler σ}

theorem Bindings.filterMap_lookup {bs : Bindings} (hn : (Bindings.names bs).Nodup) :
    ((Bindings.names bs).filterMap fun n => (bs.lookup n).map fun v => (n, v)) = bs := by
  induction bs with
  | nil => rfl
  | cons e bs ih =>
    obtain ⟨k, v⟩ := e
    obtain ⟨hk, hbs⟩ := List.nodup_cons.mp hn
    rw [names_cons, List.filterMap_cons, List.lookup_cons_self]
    have htail : ((Bindings.names bs).filterMap fun n => (List.lookup n ((k, v) :: bs)).map fun w => (n, w)) =
        (Bindings.names bs).filterMap fun n => (bs.lookup n).map fun w => (n, w) := by
      refine List.filterMap_congr fun n hmem => ?_
      rw [lookup_cons, if_neg]
      rintro rfl
      exact hk hmem
    exact congrArg (_ :: ·) (htail.trans (ih hbs))

theorem except_mapM_map {ε α β γ : Type} {f : α → Except ε β} {as : List α} {bs : List β} {g : β → γ} {k : α → γ}
    (hf : ∀ a b, f a = .ok b → g b = k a) (h : as.mapM f = .ok bs) : bs.map g = as.map k := by
  induction as generalizing bs with
  | nil =>
    cases h
    rfl
  | cons a as ih =>
    rw [List.mapM_cons] at h
    obtain ⟨b, hb, h⟩ := except_bind_ok h
    obtain ⟨cs, hcs, h⟩ := except_bind_ok h
    cases h
    rw [List.map_cons, List.map_cons, hf a b hb, ih hcs]

theorem except_mapM_mem {ε α β : Type} {f : α → Except ε β} {as : List α} {bs : List β} {a : α}
    (h : as.mapM f = .ok bs) (ha : a ∈ as) : ∃ b ∈ bs, f a = .ok b := by
  obtain ⟨i, hi⟩ := List.mem_iff_getElem?.mp ha
  obtain ⟨b, hb, hab⟩ := (except_mapM_getElem? h).2 i a hi
  exact ⟨b, List.mem_of_getElem? hb, hab⟩

theorem except_bind_total {ε α β : Type} {x : Except ε α} {k : α → Except ε β} (hx : ∃ a, x = .ok a)
    (hk : ∀ a, ∃ b, k a = .ok b) : ∃ b, x >>= k = .ok b := by
  obtain ⟨a, rfl⟩ := hx
  exact hk a

theorem except_mapM_total {ε α β : Type} {f : α → Except ε β} {as : List α} (h : ∀ a ∈ as, ∃ b, f a = .ok b) :
    ∃ bs, as.mapM f = .ok bs := by
  induction as with
  | nil => exact ⟨[], rfl⟩
  | cons a as ih =>
    obtain ⟨⟨b, hb⟩, has⟩ := List.forall_mem_cons.mp h
    obtain ⟨bs, hbs⟩ := ih has
    exact ⟨b :: bs, by rw [List.mapM_cons, hb, hbs]; rfl⟩

theorem Run.attempt_ok {α : Type} (a : α) : (Run.attempt (.ok a) : Run σ α) = pure a := rfl

theorem except_forM_total {ε α : Type} {f : α → Except ε Unit} {as : List α} (h : ∀ a ∈ as, f a = .ok ()) :
    as.forM f = .ok () := by
  induction as with
  | nil => rfl
  | cons a as ih =>
    obtain ⟨ha, has⟩ := List.forall_mem_cons.mp h
    rw [List.forM, ha]
    exact ih has

/-- A guard is accepted that uses known names only and asks for addresses in ranges that can be read. -/
theorem Handler.validate_total {g : Guard} {extra : List String} {web : Bool} (he : h.evaluator.isSome = true)
    (hknown : ∀ n ∈ g.names, n ∈ h.knownNames extra web)
    (hranges : web = true → ∀ args ∈ g.literalArguments "hasIpAddress", checkRange g.label args = .ok ()) :
    h.validate g extra web = .ok () := by
  have hunknown : (g.names.filter fun n => !(h.knownNames extra web).contains n) = [] := by
    rw [List.filter_eq_nil_iff]
    intro n hn
    simpa using hknown n hn
  have hnone : h.evaluator.isNone = false := by
    rw [Option.isNone_eq_false_iff]
    exact he
  unfold validate
  simp only [hunknown, hnone, Bool.and_false, List.isEmpty_nil, Bool.not_true, Bool.false_eq_true, ↓reduceIte]
  cases web with
  | false => rfl
  | true => exact except_forM_total (hranges rfl)

namespace Attachment

variable {rs : List NameResolver} {c : Callable} {slots : Slots} {hasTarget : Bool} {a : Attachment}

/-- An attachment has the guards of its slots as they were read and checked. -/
theorem of_compiled (ha : of h rs c slots hasTarget = .ok a) :
    Binder.of rs c = .ok a.binder ∧
      (∀ slot, compile h c slots (argumentNames a.binder hasTarget) slot = .ok (a.guard? slot)) ∧
      (a.preFilter.isSome = true → staticTarget a.binder slots.filterTarget = .ok a.filterTarget) := by
  unfold of at ha
  obtain ⟨binder, hb, ha⟩ := except_bind_ok ha
  obtain ⟨preFilter, hpf, ha⟩ := except_bind_ok ha
  dsimp only at ha
  split at ha
  next hfilter =>
    obtain ⟨filterTarget, ht, ha⟩ := except_bind_ok ha
    obtain ⟨preAuthorize, hpa, ha⟩ := except_bind_ok ha
    obtain ⟨postAuthorize, hqa, ha⟩ := except_bind_ok ha
    obtain ⟨postFilter, hqf, ha⟩ := except_bind_ok ha
    cases ha
    refine ⟨configured_ok hb, ?_, fun _ => configured_ok ht⟩
    intro slot
    cases slot with
    | preAuthorize => exact hpa
    | preFilter => exact hpf
    | postAuthorize => exact hqa
    | postFilter => exact hqf
  next hfilter =>
    obtain ⟨filterTarget, ht, ha⟩ := except_bind_ok ha
    obtain ⟨preAuthorize, hpa, ha⟩ := except_bind_ok ha
    obtain ⟨postAuthorize, hqa, ha⟩ := except_bind_ok ha
    obtain ⟨postFilter, hqf, ha⟩ := except_bind_ok ha
    cases ha
    refine ⟨configured_ok hb, ?_, fun hsome => absurd hsome hfilter⟩
    intro slot
    cases slot with
    | preAuthorize => exact hpa
    | preFilter => exact hpf
    | postAuthorize => exact hqa
    | postFilter => exact hqf

theorem guard?_none (slot : Slot) (ha : of h rs c slots hasTarget = .ok a) (hs : slots.get slot = none) :
    a.guard? slot = none := by
  have hc := (of_compiled ha).2.1 slot
  unfold compile at hc
  rw [hs] at hc
  exact (Except.ok.inj hc).symm

theorem guard?_isSome (slot : Slot) (ha : of h rs c slots hasTarget = .ok a)
    (hs : (slots.get slot).isSome = true) : (a.guard? slot).isSome = true := by
  obtain ⟨text, htext⟩ := Option.isSome_iff_exists.mp hs
  have hc := (of_compiled ha).2.1 slot
  unfold compile at hc
  rw [htext] at hc
  obtain ⟨_, _, hc⟩ := except_bind_ok hc
  obtain ⟨_, _, hc⟩ := except_bind_ok hc
  rw [← Except.ok.inj hc]
  rfl

theorem hasTarget_of (ha : of h rs c slots hasTarget = .ok a) : a.hasTarget = hasTarget := by
  unfold of at ha
  obtain ⟨binder, _, ha⟩ := except_bind_ok ha
  obtain ⟨preFilter, _, ha⟩ := except_bind_ok ha
  dsimp only at ha
  split at ha
  next =>
    obtain ⟨filterTarget, _, ha⟩ := except_bind_ok ha
    obtain ⟨preAuthorize, _, ha⟩ := except_bind_ok ha
    obtain ⟨postAuthorize, _, ha⟩ := except_bind_ok ha
    obtain ⟨postFilter, _, ha⟩ := except_bind_ok ha
    cases ha
    rfl
  next =>
    obtain ⟨filterTarget, _, ha⟩ := except_bind_ok ha
    obtain ⟨preAuthorize, _, ha⟩ := except_bind_ok ha
    obtain ⟨postAuthorize, _, ha⟩ := except_bind_ok ha
    obtain ⟨postFilter, _, ha⟩ := except_bind_ok ha
    cases ha
    rfl

theorem hasGuards_of_secured (ha : of h rs c slots hasTarget = .ok a) (hs : slots.isSecured = true) :
    a.hasGuards = true := by
  unfold Slots.isSecured at hs
  unfold hasGuards
  simp only [Bool.or_eq_true] at hs ⊢
  refine hs.imp (Or.imp (Or.imp ?_ ?_) ?_) ?_
  · exact guard?_isSome .preAuthorize ha
  · exact guard?_isSome .preFilter ha
  · exact guard?_isSome .postAuthorize ha
  · exact guard?_isSome .postFilter ha

/-- A handler with an evaluator accepts a guard of the plain form that uses nothing but built-in names, arguments
and what its slot sees. -/
theorem compile_plain (he : h.evaluator.isSome = true) {arguments : List String} {slot : Slot} {text : String}
    {p : Plain} (hs : slots.get slot = some (.plain text)) (hp : Guard.readsAs text p = true)
    (hnames : ∀ n ∈ p.expr.freeNames,
      n ∈ Predicate.common.map Predicate.name ++ commonVariables ++ (arguments ++ slotNames slot)) :
    compile h c slots arguments slot = .ok (some ⟨text, c.name ++ ":" ++ slot.name, p.expr⟩) := by
  have hguard : h.guard (.plain text) (c.name ++ ":" ++ slot.name) = .ok ⟨text, c.name ++ ":" ++ slot.name, p.expr⟩ := by
    rw [Handler.guard, Guard.read_plain, Guard.ofText_plain hp]
  have hknown : ∀ n ∈ p.expr.freeNames, n ∈ h.knownNames (arguments ++ slotNames slot) false := by
    intro n hn
    unfold Handler.knownNames
    refine List.mem_append_left _ (List.mem_append.mpr ?_)
    exact (List.mem_append.mp (hnames n hn)).imp_left (List.mem_append_left h.beans.names)
  have hvalid : h.validate ⟨text, c.name ++ ":" ++ slot.name, p.expr⟩ (arguments ++ slotNames slot) false = .ok () :=
    Handler.validate_total he hknown (by rintro ⟨⟩)
  unfold compile
  rw [hs]
  change (do
    let g ← h.guard (.plain text) _
    h.validate g _ false
    return some g : Except Failure (Option Guard)) = _
  rw [hguard]
  change (do
    h.validate _ _ false
    return some _ : Except Failure (Option Guard)) = _
  rw [hvalid]
  rfl

theorem compile_none (arguments : List String) (slot : Slot) (hs : slots.get slot = none) :
    compile h c slots arguments slot = .ok none := by
  unfold compile
  rw [hs]
  rfl

theorem of_total {binder : Binder} (hb : Binder.of rs c = .ok binder)
    (hcompile : ∀ slot, ∃ g, compile h c slots (argumentNames binder hasTarget) slot = .ok g)
    (hstatic : slots.preFilter = none ∨ ∃ t, staticTarget binder slots.filterTarget = .ok t) :
    ∃ a, of h rs c slots hasTarget = .ok a := by
  have hbinder : configured (Binder.of rs c) = .ok binder := by
    rw [hb]
    rfl
  obtain ⟨preFilter, hpf⟩ := hcompile .preFilter
  obtain ⟨preAuthorize, hpa⟩ := hcompile .preAuthorize
  obtain ⟨postAuthorize, hqa⟩ := hcompile .postAuthorize
  obtain ⟨postFilter, hqf⟩ := hcompile .postFilter
  unfold of
  rcases hstatic with hnone | ⟨target, ht⟩
  · rw [compile_none _ .preFilter hnone] at hpf
    cases hpf
    simp only [hbinder, compile_none _ .preFilter hnone, hpa, hqa, hqf, bind, Except.bind]
    exact ⟨_, rfl⟩
  · have htarget : configured (staticTarget binder slots.filterTarget) = .ok target := by
      rw [ht]
      rfl
    simp only [hbinder, hpf, htarget, hpa, hqa, hqf, bind, Except.bind]
    split <;> exact ⟨_, rfl⟩

theorem guard?_plain (slot : Slot) (ha : of h rs c slots hasTarget = .ok a) {text : String} {p : Plain}
    (hs : slots.get slot = some (.plain text)) (hp : Guard.readsAs text p = true) :
    a.guard? slot = some ⟨text, c.name ++ ":" ++ slot.name, p.expr⟩ := by
  have hc := (of_compiled ha).2.1 slot
  unfold compile at hc
  rw [hs] at hc
  obtain ⟨g, hg, hc⟩ := except_bind_ok hc
  obtain ⟨_, _, hc⟩ := except_bind_ok hc
  rw [Handler.guard, Guard.read_plain, Guard.ofText_plain hp] at hg
  rw [Except.ok.inj hg]
  exact (Except.ok.inj hc).symm

end Attachment

theorem Binder.of_ok {rs : List NameResolver} {c : Callable} {b : Binder} (h : of rs c = .ok b) :
    c.parameters = some b.parameters := by
  unfold of at h
  split at h
  next => cases h
  next ps hps =>
    obtain ⟨_, _, h⟩ := except_bind_ok h
    obtain ⟨_, _, h⟩ := except_bind_ok h
    cases h
    exact hps

/-- Where every parameter has its own name, expressions know the arguments as they are. -/
theorem Binder.bindings_eq {b : Binder} {arguments : Arguments}
    (hb : b.names = b.parameters.map fun p => (p.name, p.name))
    (ha : Bindings.names arguments = b.parameters.map (·.name)) (hn : (Bindings.names arguments).Nodup) :
    b.bindings arguments = arguments := by
  unfold bindings
  rw [hb, List.filterMap_map]
  refine Eq.trans ?_ (Bindings.filterMap_lookup hn)
  rw [ha, List.filterMap_map]
  rfl

namespace Proxy

variable {target : Object} {methods : List (Method σ)} {p : Proxy σ}

/-- Whether a method of a class is secured. -/
def secures (m : Method σ) : Bool := m.slots.isSecured && !m.name.startsWith "__"

/-- A proxy has every method that carries guards secured with these guards, unless an attribute of the target
hides it, and no other name. -/
theorem protect_ok {hasParameters : Value → Bool} (hp : protect h target methods hasParameters = .ok p)
    (hnames : (methods.map (·.name)).Nodup) :
    p.target = { target with methods := methods.map (·.name) } ∧ p.methods = methods ∧
      (∀ m ∈ methods, secures m = true →
        ∃ x, p.members.lookup m.name = some x ∧ memberOf h target hasParameters m = .ok x) ∧
      ∀ name, (∀ m ∈ methods, secures m = true → m.name ≠ name) → p.members.lookup name = none := by
  unfold protect at hp
  obtain ⟨members, hmembers, hp⟩ := except_bind_ok hp
  cases hp
  set guarded := (methods.filter fun m => secures m).mergeSort fun a b => !(b.name < a.name) with hguarded
  have hperm : List.Perm guarded (methods.filter fun m => secures m) := List.mergeSort_perm _ _
  have hkeys : members.map Prod.fst = guarded.map (·.name) := by
    refine except_mapM_map ?_ hmembers
    intro m e he
    obtain ⟨x, _, he⟩ := except_bind_ok he
    cases he
    rfl
  refine ⟨rfl, rfl, ?_, ?_⟩
  · intro m hm hs
    have hmem : m ∈ guarded := hperm.mem_iff.mpr (List.mem_filter.mpr ⟨hm, hs⟩)
    have hnodup : (members.map Prod.fst).Nodup := by
      rw [hkeys, (hperm.map _).nodup_iff]
      exact hnames.sublist (List.filter_sublist.map _)
    obtain ⟨e, hmem, he⟩ := except_mapM_mem hmembers hmem
    obtain ⟨x, hx, he⟩ := except_bind_ok he
    cases he
    exact ⟨x, lookup_of_mem_nodup hnodup hmem, hx⟩
  · intro name hnone
    rw [List.lookup_eq_none_iff]
    intro e he
    have hkey : e.1 ∈ guarded.map (·.name) := hkeys ▸ List.mem_map_of_mem he
    obtain ⟨m, hm, hname⟩ := List.mem_map.mp hkey
    obtain ⟨hm, hs⟩ := List.mem_filter.mp (hperm.mem_iff.mp hm)
    rw [← hname]
    simpa using (hnone m hm hs).symm

theorem memberOf_ok {hasParameters : Value → Bool} {m : Method σ} {x : Attachment ⊕ Value}
    (hx : memberOf h target hasParameters m = .ok x) (hnone : target.attributes.lookup m.name = none) :
    ∃ a, x = .inl a ∧ Attachment.of h NameResolver.standard m.callable m.slots m.callable.bound = .ok a := by
  unfold memberOf at hx
  rw [hnone] at hx
  cases ha : Attachment.of h NameResolver.standard m.callable m.slots m.callable.bound with
  | error f =>
    rw [ha] at hx
    cases hx
  | ok a =>
    rw [ha] at hx
    cases hx
    exact ⟨a, rfl, rfl⟩

theorem lookup_secured {name : String} {a : Attachment} (h : p.members.lookup name = some (.inl a)) :
    p.secured.lookup name = some a := by
  unfold secured
  generalize p.members = members at h
  induction members with
  | nil => cases h
  | cons e members ih =>
    obtain ⟨n, x⟩ := e
    rw [List.lookup_cons] at h
    cases hname : name == n with
    | true =>
      rw [hname] at h
      cases h
      change List.lookup name ((n, a) :: _) = some a
      rw [List.lookup_cons, hname]
    | false =>
      rw [hname] at h
      cases x with
      | inl b =>
        change List.lookup name ((n, b) :: _) = some a
        rw [List.lookup_cons, hname]
        exact ih h
      | inr v => exact ih h

/-- A method is had behind its guards by any name that the proxy does not keep for itself. -/
theorem member?_secured {name : String} {a : Attachment} {m : Method σ} (hname : name ≠ targetName ∧ name ≠ methodsName)
    (hlookup : p.members.lookup name = some (.inl a)) (hfind : p.methods.find? (·.name == name) = some m) :
    p.member? name = some (.secured a m) := by
  unfold member?
  rw [beq_false_of_ne hname.1, beq_false_of_ne hname.2, hlookup, hfind]
  rfl

/-- An object can be protected if the guards of its methods are accepted. -/
theorem protect_total {hasParameters : Value → Bool}
    (hmethods : ∀ m ∈ methods, secures m = true → ∃ x, memberOf h target hasParameters m = .ok x) :
    ∃ p, protect h target methods hasParameters = .ok p := by
  unfold protect
  refine except_bind_total (except_mapM_total fun m hm => ?_) fun _ => ⟨_, rfl⟩
  obtain ⟨hmem, hs⟩ := List.mem_filter.mp (List.mem_mergeSort.mp hm)
  obtain ⟨x, hx⟩ := hmethods m hmem hs
  exact ⟨(m.name, x), by rw [hx]; rfl⟩

theorem memberOf_total {hasParameters : Value → Bool} {m : Method σ} (hfree : target.attributes.lookup m.name = none)
    (ha : ∃ a, Attachment.of h NameResolver.standard m.callable m.slots m.callable.bound = .ok a) :
    ∃ x, memberOf h target hasParameters m = .ok x := by
  obtain ⟨a, ha⟩ := ha
  unfold memberOf
  rw [hfree, ha]
  exact ⟨_, rfl⟩

end Proxy

/-- A call of a method by its name, by whomever. -/
structure Call where
  who : Option Authentication
  method : String
  args : List Value
  named : Bindings

/-- Makes calls one after another, whatever each of them comes to; answers what they came to. -/
def Proxy.callAll (p : Proxy σ) (h : Handler σ) : List Call → σ → List (Except Failure Value) × σ
  | [], s => ([], s)
  | c :: cs, s =>
    let (r, s) := (p.call h c.who c.method c.args c.named).outcome s
    let (rs, s) := p.callAll h cs s
    (r :: rs, s)

end AccessPolicy
