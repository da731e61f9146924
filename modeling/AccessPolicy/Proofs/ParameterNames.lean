import AccessPolicy.Proofs.Passing
import AccessPolicy.Proofs.Protected

/-!
The names that expressions have for the parameters of a callable. The standard resolvers find one for every parameter:
that of its tags, or its own. A binder has all of them, each for its parameter, or there is none.
-/

namespace AccessPolicy

namespace NameResolver

/-- A name that was found, where an empty text counts as none. -/
def given (n : Option String) : Option String := n.filter (!·.isEmpty)

theorem isGiven_eq (n : Option String) : isGiven n = (given n).isSome := by
  cases n with
  | none => rfl
  | some n => cases hn : n.isEmpty <;> simp [isGiven, given, hn]

theorem eq_of_given {n : Option String} (h : (given n).isSome = true) : given n = n := by
  cases n with
  | none => cases h
  | some n => cases hn : n.isEmpty <;> simp [given, hn] at h ⊢

end NameResolver

namespace Callable

/-- The name in the first tag of a kind that a parameter has. -/
def tagged? (c : Callable) (kind : TagKind) (p : Parameter) : Option String :=
  NameResolver.given (((c.tagsOf p).find? (·.1 == kind)).map (·.2))

/-- The name by which expressions refer to a parameter. -/
def expressionName (c : Callable) (p : Parameter) : String :=
  ((c.tagged? .explicit p).or (c.tagged? .query p)).getD p.name

end Callable

namespace NameResolver

variable {c : Callable} {ps : List Parameter} {found out : Option FoundNames} {names : FoundNames}
  {f g : Parameter → Option String}

/-- That the names found so far are those that a function has for parameters. -/
def Names (ps : List Parameter) (found : Option FoundNames) (f : Parameter → Option String) : Prop :=
  (found.getD (ps.map fun _ => none)).map given = ps.map f

theorem names_none (ps : List Parameter) : Names ps none fun _ => none := by
  simp [Names, given]

theorem eq_none_of_names (hf : Names ps none f) : ∀ p ∈ ps, f p = none := by
  intro p hp
  have hmem : f p ∈ (ps.map fun _ => none).map given := hf ▸ List.mem_map_of_mem hp
  obtain ⟨_, hn, hgiven⟩ := List.mem_map.mp hmem
  obtain ⟨_, _, rfl⟩ := List.mem_map.mp hn
  exact hgiven.symm

theorem Names.congr (hf : Names ps found f) (h : ∀ p ∈ ps, f p = g p) : Names ps found g :=
  hf.trans (List.map_congr_left h)

/-- Names that were all found are there as they were found. -/
theorem Names.eq_of_all (hf : Names ps (some names) f) (hall : ∀ p ∈ ps, (f p).isSome = true) :
    names = ps.map f := by
  have hself : names.map given = names := by
    refine (List.map_congr_left fun n hn => eq_of_given ?_).trans (List.map_id names)
    have hmem : given n ∈ ps.map f := hf ▸ List.mem_map_of_mem hn
    obtain ⟨p, hp, hfp⟩ := List.mem_map.mp hmem
    exact hfp ▸ hall p hp
  exact hself.symm.trans hf

theorem Names.all_isGiven (hf : Names ps (some names) f) :
    names.all isGiven = ps.all fun p => (f p).isSome := by
  have hgiven : names.all isGiven = (names.map given).all Option.isSome := by
    rw [List.all_map]
    exact congrArg names.all (funext isGiven_eq)
  rw [hgiven, show names.map given = ps.map f from hf, List.all_map]
  rfl

theorem given_or (a b : Option String) : given (if isGiven a then a else b) = (given a).or (given b) := by
  rw [isGiven_eq]
  cases ha : given a with
  | none => simp
  | some n => simpa using ha

/-- Later names fill the gaps of earlier ones. -/
theorem Names.fill {found : FoundNames} (hf : Names ps (some found) f) (hg : Names ps (some names) g) :
    Names ps (some (fill found names)) fun p => (f p).or (g p) := by
  have hf : found.map given = ps.map f := hf
  have hg : names.map given = ps.map g := hg
  have hlength : names.length = found.length := by
    have := congrArg List.length hf
    have := congrArg List.length hg
    simp only [List.length_map] at *
    omega
  change (NameResolver.fill found names).map given = _
  unfold NameResolver.fill
  rw [if_pos (beq_iff_eq.mpr hlength), List.map_zipWith]
  simp only [given_or]
  rw [← List.zipWith_map (f := Option.or), hf, hg, List.zipWith_map, List.zipWith_self]

/-- What one resolver adds. With names for all parameters, the others are not asked. -/
theorem discoverFrom_step {r : NameResolver} {rs : List NameResolver} (hf : Names ps found f)
    (hg : ∀ more, r.resolve c = .ok more → Names ps more g) (h : discoverFrom c found (r :: rs) = .ok out) :
    ((∀ p ∈ ps, ((f p).or (g p)).isSome = true) ∧ out = some (ps.map fun p => (f p).or (g p))) ∨
      ((r.resolve c = .ok none ∨ ∃ p ∈ ps, (f p).or (g p) = none) ∧
        ∃ found', Names ps found' (fun p => (f p).or (g p)) ∧ discoverFrom c found' rs = .ok out) := by
  obtain ⟨more, hr, h⟩ := except_bind_ok h
  have hg := hg more hr
  cases more with
  | none => exact .inr ⟨.inl hr, found, hf.congr fun p hp => by rw [eq_none_of_names hg p hp, Option.or_none], h⟩
  | some names =>
    have hmerged : Names ps (some (found.elim names fun f => fill f names)) fun p => (f p).or (g p) := by
      cases found with
      | none => exact hg.congr fun p hp => by rw [eq_none_of_names hf p hp, Option.none_or]
      | some found => exact hf.fill hg
    have hall := hmerged.all_isGiven
    change (if _ then _ else _) = _ at h
    split at h
    next hgiven =>
      have hsome : ∀ p ∈ ps, ((f p).or (g p)).isSome = true := List.all_eq_true.mp (hall.symm.trans hgiven)
      cases h
      exact .inl ⟨hsome, congrArg some (hmerged.eq_of_all hsome)⟩
    next hgap =>
      rw [hall, List.all_eq_true] at hgap
      refine .inr ⟨.inr ?_, _, hmerged, h⟩
      simp only [not_forall] at hgap
      obtain ⟨p, hp, hnone⟩ := hgap
      exact ⟨p, hp, by simpa using hnone⟩

/-- Tags give names where no parameter has two of a kind. -/
theorem taggedName_ok {kind : TagKind} {p : Parameter} {n : Option String} (h : taggedName kind c p = .ok n) :
    given n = c.tagged? kind p := by
  unfold taggedName at h
  unfold Callable.tagged?
  rw [← List.head?_filter]
  split at h
  next hf =>
    cases h
    rw [hf]
    rfl
  next n hf =>
    cases h
    rw [hf]
    rfl
  next => cases h

theorem taggedName_single {kind : TagKind} {p : Parameter} {n : Option String} (h : taggedName kind c p = .ok n) :
    ((c.tagsOf p).filter (·.1 == kind)).length ≤ 1 := by
  unfold taggedName at h
  split at h
  next hf => simp [hf]
  next hf => simp [hf]
  next => cases h

theorem resolve_single {kind : TagKind} (hps : c.parameters = some ps) (h : resolve (.tag kind) c = .ok found) :
    ∀ p ∈ ps, ((c.tagsOf p).filter (·.1 == kind)).length ≤ 1 := by
  simp only [resolve, hps] at h
  obtain ⟨names, hnames, _⟩ := except_bind_ok h
  intro p hp
  obtain ⟨n, _, hn⟩ := except_mapM_mem hnames hp
  exact taggedName_single hn

theorem resolve_tag {kind : TagKind} (hps : c.parameters = some ps) (h : resolve (.tag kind) c = .ok found) :
    Names ps found (c.tagged? kind) := by
  simp only [resolve, hps] at h
  obtain ⟨names, hnames, h⟩ := except_bind_ok h
  have htagged : Names ps (some names) (c.tagged? kind) := except_mapM_map (fun p n hn => taggedName_ok hn) hnames
  split at h
  next hnone =>
    cases h
    refine (names_none ps).congr fun p hp => ?_
    have hmem : c.tagged? kind p ∈ names.map given := htagged ▸ List.mem_map_of_mem hp
    obtain ⟨n, hn, hgiven⟩ := List.mem_map.mp hmem
    rw [Bool.not_eq_true', List.any_eq_false] at hnone
    have hn := hnone n hn
    rw [isGiven_eq, hgiven] at hn
    exact (by simpa using hn : c.tagged? kind p = none).symm
  next =>
    split at h
    next => cases h
    next =>
      cases h
      exact htagged

/-- Standard resolvers find the name of every parameter. -/
theorem discover_standard (hps : c.parameters = some ps) (hnamed : ∀ p ∈ ps, p.name ≠ "")
    (h : discover standard c = .ok out) : out = some (ps.map fun p => some (c.expressionName p)) := by
  have hsignature : ∀ more, resolve .signature c = .ok more → Names ps more fun p => some p.name := by
    intro more hmore
    simp only [resolve, hps] at hmore
    cases hmore
    change (ps.map fun p => some p.name).map given = _
    rw [List.map_map]
    exact List.map_congr_left fun p hp => by simp [given, hnamed p hp]
  rcases discoverFrom_step (names_none ps) (fun _ hr => resolve_tag hps hr) h with ⟨hall, rfl⟩ | ⟨_, _, hf, h⟩
  · refine congrArg some (List.map_congr_left fun p hp => ?_)
    obtain ⟨n, hn⟩ := Option.isSome_iff_exists.mp (hall p hp)
    rw [Option.none_or] at hn
    simp [Callable.expressionName, hn]
  rcases discoverFrom_step hf (fun _ hr => resolve_tag hps hr) h with ⟨hall, rfl⟩ | ⟨_, _, hf, h⟩
  · refine congrArg some (List.map_congr_left fun p hp => ?_)
    obtain ⟨n, hn⟩ := Option.isSome_iff_exists.mp (hall p hp)
    rw [Option.none_or] at hn
    simp [Callable.expressionName, hn]
  rcases discoverFrom_step hf hsignature h with ⟨_, rfl⟩ | ⟨hgap, _⟩
  · refine congrArg some (List.map_congr_left fun p hp => ?_)
    rw [Option.none_or, Option.or_some]
    rfl
  · rcases hgap with hnone | ⟨p, _, hnone⟩
    · simp only [resolve, hps] at hnone
      cases hnone
    · simp at hnone

end NameResolver

namespace Binder

theorem pair_ok {c : Callable} {ps : List Parameter} {f : Parameter → String} {names more : List (String × String)}
    (h : pair c names (ps.map fun p => (p, some (f p))) = .ok more) :
    more = names ++ ps.map (fun p => (f p, p.name)) ∧ (ps.map f).Nodup ∧ ∀ p ∈ ps, names.lookup (f p) = none := by
  induction ps generalizing names with
  | nil =>
    cases h
    simp
  | cons p ps ih =>
    simp only [List.map_cons, pair] at h
    split at h
    next => cases h
    next hfree =>
      obtain ⟨rfl, hnodup, hlater⟩ := ih h
      simp only [List.lookup_append, Option.or_eq_none_iff] at hlater
      refine ⟨by simp, List.nodup_cons.mpr ⟨fun hmem => ?_, hnodup⟩, List.forall_mem_cons.mpr ⟨hfree, fun q hq => (hlater q hq).1⟩⟩
      obtain ⟨q, hq, hname⟩ := List.mem_map.mp hmem
      have hnone := (hlater q hq).2
      rw [hname, List.lookup_cons_self] at hnone
      cases hnone

variable {c : Callable} {ps : List Parameter} {b : Binder}

theorem of_standard (hps : c.parameters = some ps) (hw : Parameter.WellFormed ps)
    (h : Binder.of NameResolver.standard c = .ok b) :
    b.parameters = ps ∧ b.names = ps.map (fun p => (c.expressionName p, p.name)) ∧
      (ps.map c.expressionName).Nodup ∧ ∀ p ∈ ps, ((c.tagsOf p).filter (·.1 == .explicit)).length ≤ 1 := by
  simp only [Binder.of, hps] at h
  obtain ⟨found, hfound, h⟩ := except_bind_ok h
  obtain ⟨names, hnames, h⟩ := except_bind_ok h
  cases h
  obtain ⟨_, hexplicit, _⟩ := except_bind_ok hfound
  cases NameResolver.discover_standard hps hw.named hfound
  simp only [Option.getD_some, List.length_map, beq_self_eq_true, ↓reduceIte, ← List.map_prod_left_eq_zip] at hnames
  obtain ⟨rfl, hnodup, _⟩ := pair_ok hnames
  exact ⟨rfl, rfl, hnodup, NameResolver.resolve_single hps hexplicit⟩

/-- Every expression name stands for the argument of its parameter. -/
theorem bindings_ok (hps : c.parameters = some ps) (hw : Parameter.WellFormed ps)
    (h : Binder.of NameResolver.standard c = .ok b) {args : List Value} {named : Bindings} {arguments : Arguments}
    (hb : b.bind args named = .ok arguments) :
    Parameter.receive ps args named = .ok arguments ∧ ∃ values : Parameter → Value,
      arguments = ps.map (fun p => (p.name, values p)) ∧
        b.bindings arguments = ps.map fun p => (c.expressionName p, values p) := by
  obtain ⟨hparameters, hnames, _, _⟩ := of_standard hps hw h
  unfold Binder.bind at hb
  rw [hparameters, Parameter.bind_eq hw] at hb
  split at hb
  next => cases hb
  next =>
    obtain ⟨_, values, rfl, _⟩ := Parameter.receive_ok hw hb
    refine ⟨hb, values, rfl, ?_⟩
    unfold bindings
    rw [hnames, List.filterMap_map]
    refine (List.filterMap_congr fun p hp => ?_).trans (congrFun List.filterMap_eq_map ps)
    change (List.lookup p.name _).map _ = _
    rw [Parameter.lookup_values hw hp]
    rfl

/-- A binder that is made with the standard resolvers has one name for each parameter: that of its explicit tag, or
else of its query tag, or else its own. A call gives under each of these names the very argument that the parameter
gets, and no others. There is no binder where two parameters would have the same name, or where one has several
explicit tags. -/
theorem named_by_tags (hps : c.parameters = some ps) (hw : Parameter.WellFormed ps) :
    (∀ b, Binder.of NameResolver.standard c = .ok b →
      b.names = ps.map (fun p => (c.expressionName p, p.name)) ∧ (b.names.map Prod.fst).Nodup ∧
        (b.names.map Prod.snd).Nodup ∧
        ∀ args named arguments, b.bind args named = .ok arguments →
          Parameter.receive ps args named = .ok arguments ∧
            Bindings.names (b.bindings arguments) = ps.map c.expressionName ∧
            ∀ p ∈ ps, ∃ v, arguments.lookup p.name = some v ∧
              (b.bindings arguments).lookup (c.expressionName p) = some v) ∧
    (¬(ps.map c.expressionName).Nodup ∨ (∃ p ∈ ps, 1 < ((c.tagsOf p).filter (·.1 == .explicit)).length) →
      ∃ e, Binder.of NameResolver.standard c = .error e) := by
  refine ⟨fun b h => ?_, fun hclash => ?_⟩
  · obtain ⟨_, hnames, hnodup, _⟩ := of_standard hps hw h
    have hfst : b.names.map Prod.fst = ps.map c.expressionName := by
      rw [hnames, List.map_map]
      rfl
    have hsnd : b.names.map Prod.snd = ps.map (·.name) := by
      rw [hnames, List.map_map]
      rfl
    refine ⟨hnames, hfst ▸ hnodup, hsnd ▸ hw.apart, fun args named arguments hb => ?_⟩
    obtain ⟨hreceived, values, rfl, hbindings⟩ := bindings_ok hps hw h hb
    have hbound : Bindings.names (b.bindings (ps.map fun p => (p.name, values p))) = ps.map c.expressionName := by
      rw [hbindings, Bindings.names, List.map_map]
      rfl
    refine ⟨hreceived, hbound, fun p hp => ⟨values p, Parameter.lookup_values hw hp, ?_⟩⟩
    refine lookup_of_mem_nodup ?_ (hbindings ▸ List.mem_map_of_mem hp)
    exact (hbound ▸ hnodup : (Bindings.names (b.bindings (ps.map fun p => (p.name, values p)))).Nodup)
  · cases h : Binder.of NameResolver.standard c with
    | error e => exact ⟨e, rfl⟩
    | ok b =>
      obtain ⟨_, _, hnodup, hsingle⟩ := of_standard hps hw h
      rcases hclash with hclash | ⟨p, hp, hseveral⟩
      · exact absurd hnodup hclash
      · exact absurd (hsingle p hp) (Nat.not_le_of_lt hseveral)

/-- A function two of whose parameters have each other's name in expressions. -/
def transfer : Callable where
  name := "transfer"
  declared := some [{ name := "source", tags := [(.explicit, "target")] }, { name := "target", tags := [(.query, "source")] },
    { name := "amount", kind := .named, default := some (.int 1), tags := [(.explicit, "")] }]

theorem transfer_wellFormed : Parameter.WellFormed (transfer.declared.getD []) := by
  refine ⟨?_, ?_, ?_⟩ <;> decide +kernel

/-- The same function, without the tag that keeps the names of the two apart. -/
def muddledTransfer : Callable where
  name := "transfer"
  declared := some [{ name := "source", tags := [(.explicit, "target")] }, { name := "target" }]

theorem transfer_named_by_tags :
    (∃ b, Binder.of NameResolver.standard transfer = .ok b ∧
      b.names = [("target", "source"), ("source", "target"), ("amount", "amount")] ∧
      ∃ arguments, b.bind [.text "mine"] [("target", .text "yours")] = .ok arguments ∧
        (b.bindings arguments).lookup "target" = some (.text "mine")) ∧
    ∃ e, Binder.of NameResolver.standard muddledTransfer = .error e := by
  refine ⟨?_, ?_⟩
  · obtain ⟨b, hb⟩ : ∃ b, Binder.of NameResolver.standard transfer = .ok b := ⟨_, rfl⟩
    obtain ⟨hnames, _, _, hvalues⟩ := (named_by_tags rfl transfer_wellFormed).1 b hb
    have hbound : b.bind [.text "mine"] [("target", .text "yours")] =
        .ok [("source", .text "mine"), ("target", .text "yours"), ("amount", .int 1)] := by
      cases hb
      rfl
    obtain ⟨v, hv, hlookup⟩ := (hvalues _ _ _ hbound).2.2 _ List.mem_cons_self
    cases hv
    exact ⟨b, hb, hnames, _, hbound, hlookup⟩
  · refine (named_by_tags (c := muddledTransfer) rfl ?_).2 (.inl (by decide +kernel))
    refine ⟨?_, ?_, ?_⟩ <;> decide +kernel

end Binder

end AccessPolicy
