import AccessPolicy.Callable.Binder
import AccessPolicy.Proofs.Receiving

/-!
Parameter names as a body keeps them. A body lists the variadic parameters last and its own names after them; brought
back into the order of declaration, the names are those that the declaration has. For a bound callable this needs a
receiver that is taken by position.
-/

namespace AccessPolicy

namespace Parameter

variable {p : Parameter} {ps : List Parameter}

theorem length_filter_single {α : Type} {q : α → Bool} {as : List α}
    (h : as.Pairwise fun a b => q a = true → q b = false) : (as.filter q).length = if as.any q then 1 else 0 := by
  induction as with
  | nil => rfl
  | cons a as ih =>
    obtain ⟨hlater, h⟩ := List.pairwise_cons.mp h
    cases ha : q a with
    | false => rw [List.filter_cons_of_neg (by simp [ha]), List.any_cons, ha, Bool.false_or, ih h]
    | true =>
      have hnone : as.filter q = [] := List.filter_eq_nil_iff.mpr fun b hb => by simp [hlater b hb ha]
      rw [List.filter_cons_of_pos ha, hnone, List.any_cons, ha]
      rfl

theorem WellFormed.length_rest (hw : WellFormed ps) :
    (ps.filter fun p => p.kind == .rest).length = if ps.any fun p => p.kind == .rest then 1 else 0 := by
  refine length_filter_single (hw.ordered.imp fun {p q} hpq hp => ?_)
  rw [beq_iff_eq.mp hp] at hpq
  cases hq : q.kind <;> simp_all [ParameterKind.mayPrecede]

theorem WellFormed.length_namedRest (hw : WellFormed ps) :
    (ps.filter fun p => p.kind == .namedRest).length = if ps.any fun p => p.kind == .namedRest then 1 else 0 := by
  refine length_filter_single (hw.ordered.imp fun {p q} hpq hp => ?_)
  rw [beq_iff_eq.mp hp] at hpq
  cases hpq

/-- Parameters are declared kind by kind. -/
theorem WellFormed.by_kinds (hw : WellFormed ps) :
    ps.filter isPositional ++ ps.filter (fun p => p.kind == .rest) ++ ps.filter (fun p => p.kind == .named) ++
      ps.filter (fun p => p.kind == .namedRest) = ps := by
  induction ps with
  | nil => rfl
  | cons p ps ih =>
    have ih := ih hw.tail
    have hnamed (hk : p.kind = .rest ∨ p.kind = .named) :
        ps.filter isPositional = [] ∧ ps.filter (fun p => p.kind == .rest) = [] := by
      constructor <;> refine List.filter_eq_nil_iff.mpr fun q hq => ?_ <;>
        rcases hw.only_named hk q hq with hkind | hkind <;> simp [isPositional, hkind]
    cases hk : p.kind with
    | positional | normal => simpa [List.filter_cons, isPositional, hk] using ih
    | rest =>
      obtain ⟨hpositional, hrest⟩ := hnamed (.inl hk)
      simpa [List.filter_cons, isPositional, hk, hpositional, hrest] using ih
    | named =>
      obtain ⟨hpositional, hrest⟩ := hnamed (.inr hk)
      simpa [List.filter_cons, isPositional, hk, hpositional, hrest] using ih
    | namedRest =>
      cases hw.last hk
      simp [isPositional, hk]

/-- Four stretches of a list, of which the middle ones change places. -/
theorem stretches_reordered {α : Type} (positional named rest namedRest more : List α) :
    let names := positional ++ named ++ rest ++ namedRest ++ more
    let variadic := names.drop (positional.length + named.length)
    names.take positional.length ++ variadic.take rest.length ++ (names.drop positional.length).take named.length ++
      (variadic.drop rest.length).take namedRest.length = positional ++ rest ++ named ++ namedRest := by
  simp [← List.drop_drop]

end Parameter

section Names

variable {c : Callable} {ds : List Parameter}

/-- Read back, the names of a body are those that are declared, less the first if the callable is bound. -/
theorem Callable.bodyNames?_eq (hds : c.declared = some ds) (hw : Parameter.WellFormed ds) (hr : c.readable = true) :
    c.bodyNames? = some (if c.bound then (ds.map (·.name)).drop 1 else ds.map (·.name)) := by
  have hordered := Parameter.stretches_reordered ((ds.filter Parameter.isPositional).map (·.name))
    ((ds.filter fun p => p.kind == .named).map (·.name)) ((ds.filter fun p => p.kind == .rest).map (·.name))
    ((ds.filter fun p => p.kind == .namedRest).map (·.name)) c.locals
  simp only [List.length_map, ← List.map_append, hw.by_kinds] at hordered
  simp only [bodyNames?, hr, hds, if_true, Option.bind_eq_bind, Option.bind_some, Parameter.localNames,
    ← hw.length_rest, ← hw.length_namedRest, hordered]
  rfl

theorem Callable.parameters_bound {p : Parameter} (hds : c.declared = some (p :: ds)) (hb : c.bound = true)
    (hp : p.isPositional = true) : c.parameters = some ds := by
  simp [parameters, hds, hb, withoutReceiver?, hp]

namespace NameResolver

theorem resolve_body (hds : c.declared = some ds) (hw : Parameter.WellFormed ds) (hr : c.readable = true)
    (hreceiver : c.bound = true → ds.head?.any Parameter.isPositional = true) :
    ∃ ps, c.parameters = some ps ∧ resolve .signature c = .ok (some (ps.map fun p => some p.name)) ∧
      resolve .body c = .ok (some (ps.map fun p => some p.name)) := by
  have hbody := Callable.bodyNames?_eq hds hw hr
  have hresolve {ps : List Parameter} (hps : c.parameters = some ps) :
      resolve .signature c = .ok (some (ps.map fun p => some p.name)) := by
    simp only [resolve, hps]
    rfl
  have hnames {ps : List Parameter} (hps : c.bodyNames? = some (ps.map (·.name))) :
      resolve .body c = .ok (some (ps.map fun p => some p.name)) := by
    simp only [resolve, hps, Option.map_some, List.map_map]
    rfl
  cases hb : c.bound with
  | false =>
    have hps : c.parameters = some ds := by simp [Callable.parameters, hb, hds]
    exact ⟨ds, hps, hresolve hps, hnames (by simpa [hb] using hbody)⟩
  | true =>
    cases ds with
    | nil => cases hreceiver hb
    | cons p ds =>
      have hps := Callable.parameters_bound hds hb (hreceiver hb)
      exact ⟨ds, hps, hresolve hps, hnames (by simpa [hb] using hbody)⟩

variable {r r' : NameResolver} {names : FoundNames}

/-- Names fill no gap that they have filled before. -/
theorem fill_fill (found names : FoundNames) : fill (fill found names) names = fill found names := by
  by_cases hlength : names.length = found.length
  · have hfill : fill found names = List.zipWith (fun a b => if isGiven a then a else b) found names := by
      rw [fill, if_pos (beq_iff_eq.mpr hlength)]
    rw [hfill, fill, if_pos (by simp [hlength])]
    refine List.ext_getElem (by simp [hlength]) fun i hi hi' => ?_
    simp only [List.getElem_zipWith]
    split
    · rfl
    · exact ite_self _
  · rw [show fill found names = found by rw [fill, if_neg (by simpa using hlength)], fill,
      if_neg (by simpa using hlength)]

theorem fill_self (names : FoundNames) : fill names names = names := by
  rw [fill, if_pos (beq_self_eq_true _), List.zipWith_self]
  simp

theorem discoverFrom_replaced (h : r.resolve c = r'.resolve c) (found : Option FoundNames) (rs : List NameResolver) :
    discoverFrom c found (r :: rs) = discoverFrom c found (r' :: rs) := by
  simp only [discoverFrom, h]

/-- A resolver adds nothing after one that finds the same names. -/
theorem discoverFrom_repeated (h : r.resolve c = .ok (some names)) (h' : r'.resolve c = .ok (some names))
    (found : Option FoundNames) (rs : List NameResolver) :
    discoverFrom c found (r :: r' :: rs) = discoverFrom c found (r :: rs) := by
  -- What is found already has been filled by these names once, whether or not something was found before them.
  have hmerged : fill (found.elim names fun f => fill f names) names = found.elim names fun f => fill f names := by
    cases found with
    | none => exact fill_self names
    | some found => exact fill_fill found names
  have hstep {r : NameResolver} (h : r.resolve c = .ok (some names)) (found : Option FoundNames)
      (rs : List NameResolver) : discoverFrom c found (r :: rs) =
        if (found.elim names fun f => fill f names).all isGiven then
          .ok (some (found.elim names fun f => fill f names))
        else discoverFrom c (some (found.elim names fun f => fill f names)) rs := by
    rw [discoverFrom, h]
    rfl
  rw [hstep h, hstep h, hstep h', Option.elim_some, hmerged]
  split <;> rfl

theorem discoverFrom_append {rs later : List NameResolver}
    (h : ∀ found, discoverFrom c found rs = discoverFrom c found later) (before : List NameResolver)
    (found : Option FoundNames) : discoverFrom c found (before ++ rs) = discoverFrom c found (before ++ later) := by
  induction before generalizing found with
  | nil => exact h found
  | cons r before ih =>
    simp only [List.cons_append, discoverFrom]
    cases r.resolve c with
    | error p => rfl
    | ok more =>
      cases more with
      | none => exact ih found
      | some names =>
        change (if _ then _ else _) = (if _ then _ else _)
        split
        · rfl
        · exact ih _

/-- The body of a function that can be read has the names of the parameters in the order in which they are declared, as
the signature has them, and so has that of a method whose receiver is taken by position. Whatever other resolvers are
asked, the body can take the place of the signature, and after the signature it adds nothing. -/
theorem body_as_signature (hds : c.declared = some ds) (hw : Parameter.WellFormed ds) (hr : c.readable = true)
    (hreceiver : c.bound = true → ds.head?.any Parameter.isPositional = true) :
    (∃ ps, c.parameters = some ps ∧ resolve .signature c = .ok (some (ps.map fun p => some p.name)) ∧
      resolve .body c = .ok (some (ps.map fun p => some p.name))) ∧
    ∀ before later,
      discover (before ++ .body :: later) c = discover (before ++ .signature :: later) c ∧
        discover (before ++ .signature :: .body :: later) c = discover (before ++ .signature :: later) c := by
  obtain ⟨ps, hps, hsignature, hbody⟩ := resolve_body hds hw hr hreceiver
  refine ⟨⟨ps, hps, hsignature, hbody⟩, fun before later => ⟨?_, ?_⟩⟩
  · exact discoverFrom_append (discoverFrom_replaced (hbody.trans hsignature.symm) · later) before none
  · exact discoverFrom_append (discoverFrom_repeated hsignature hbody · later) before none

/-- A method with parameters of all kinds, and local names of its own. -/
def record : Callable where
  name := "Holder.record"
  declared := some [{ name := "self", kind := .positional }, { name := "entry" }, { name := "rest", kind := .rest },
    { name := "level", kind := .named }, { name := "extra", kind := .namedRest }]
  bound := true
  locals := ["line", "stamp"]

theorem record_wellFormed : Parameter.WellFormed (record.declared.getD []) := by
  refine ⟨?_, ?_, ?_⟩ <;> decide +kernel

theorem record_body_as_signature :
    record.bound = true ∧
      resolve .body record = .ok (some [some "entry", some "rest", some "level", some "extra"]) ∧
      discover [.tag .explicit, .body] record = discover [.tag .explicit, .signature] record := by
  obtain ⟨⟨ps, hps, _, hbody⟩, hdiscover⟩ := body_as_signature (c := record) rfl record_wellFormed rfl fun _ => rfl
  cases hps
  exact ⟨rfl, hbody, (hdiscover [.tag .explicit] []).1⟩

/-- A declaration without a body. -/
def abstractFind : Callable where
  name := "find"
  declared := some [{ name := "key" }]
  readable := false

/-- A method that collects its receiver with the other arguments. -/
def gather : Callable where
  name := "Holder.gather"
  declared := some [{ name := "items", kind := .rest }, { name := "limit", kind := .named }]
  bound := true

/-- The body does not always tell what the signature tells: that of a declaration tells nothing, and that of a method
that collects its receiver leaves out the parameter that collects it. -/
theorem body_against_signature :
    (Parameter.WellFormed (abstractFind.declared.getD []) ∧
      resolve .signature abstractFind = .ok (some [some "key"]) ∧ resolve .body abstractFind = .ok none) ∧
    Parameter.WellFormed (gather.declared.getD []) ∧
      resolve .signature gather = .ok (some [some "items", some "limit"]) ∧
      resolve .body gather = .ok (some [some "limit"]) := by
  refine ⟨⟨⟨?_, ?_, ?_⟩, rfl, rfl⟩, ⟨?_, ?_, ?_⟩, rfl, rfl⟩ <;> decide +kernel

end NameResolver

end Names

end AccessPolicy
