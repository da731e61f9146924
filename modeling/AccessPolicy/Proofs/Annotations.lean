import AccessPolicy.Callable.TypeHint
import AccessPolicy.Proofs.Trials

/-!
Declared types against the values that are declared with them. A type that shows a container has, besides nothing and
texts, only values that can be filtered, however it is put together; and it shows the same with data added to it and
with nothing as an alternative.
-/

namespace AccessPolicy

namespace TypeHint

variable {h g m : TypeHint} {hs ms : List TypeHint}

mutual

theorem same_iff : (h g : TypeHint) → (h.same g = true ↔ h = g)
  | .nothing, g => by cases g <;> simp [same]
  | .named t container, g => by cases g <;> simp [same]
  | .union hs, g => by
    cases g with
    | union gs => rw [same, sameAll_iff hs gs, union.injEq]
    | _ => simp [same]
  | .tagged h data, g => by
    cases g with
    | tagged g data' => rw [same, Bool.and_eq_true, same_iff h g, beq_iff_eq, tagged.injEq]
    | _ => simp [same]
  | .special t, g => by cases g <;> simp [same]
  | .other t, g => by cases g <;> simp [same]

theorem sameAll_iff : (hs gs : List TypeHint) → (sameAll hs gs = true ↔ hs = gs)
  | [], gs => by cases gs <;> simp [sameAll]
  | h :: hs, [] => by simp [sameAll]
  | h :: hs, g :: gs => by rw [sameAll, Bool.and_eq_true, same_iff h g, sameAll_iff hs gs, List.cons.injEq]

end

theorem place_perm (h : TypeHint) (hs : List TypeHint) : (place h hs).Perm (h :: hs) := by
  induction hs with
  | nil => exact .refl _
  | cons g gs ih =>
    unfold place
    split
    · exact .refl _
    · exact (ih.cons g).trans (.swap h g gs)

theorem mem_add : m ∈ add h hs ↔ m = h ∨ m ∈ hs := by
  unfold add
  split
  next hany =>
    obtain ⟨g, hg, hsame⟩ := List.any_eq_true.mp hany
    cases (same_iff h g).mp hsame
    exact ⟨.inr, fun hm => hm.elim (fun heq => heq ▸ hg) id⟩
  next => rw [(place_perm h hs).mem_iff, List.mem_cons]

theorem nodup_add (hn : hs.Nodup) : (add h hs).Nodup := by
  unfold add
  split
  next => exact hn
  next hany =>
    refine (place_perm h hs).nodup_iff.mpr (List.nodup_cons.mpr ⟨fun hmem => hany ?_, hn⟩)
    exact List.any_eq_true.mpr ⟨h, hmem, (same_iff h h).mpr rfl⟩

/-- The alternatives of a type are different types and have no alternatives themselves. -/
structure Flat (h : TypeHint) : Prop where
  apart : h.members.Nodup
  single : ∀ m ∈ h.members, m.members = [m]
  isType : ∀ m ∈ h.members, ∀ t, m ≠ .other t

theorem foldr_add (hs : List TypeHint) : (hs.foldr add []).Nodup ∧ ∀ m, m ∈ hs.foldr add [] ↔ m ∈ hs := by
  induction hs with
  | nil => exact ⟨.nil, fun m => .rfl⟩
  | cons h hs ih => exact ⟨nodup_add ih.1, fun m => by rw [List.foldr_cons, mem_add, ih.2, List.mem_cons]⟩

theorem members_unionOf (hf : ∀ h ∈ hs, Flat h) :
    Flat (unionOf hs) ∧ ∀ m, m ∈ (unionOf hs).members ↔ ∃ h ∈ hs, m ∈ h.members := by
  obtain ⟨hnodup, hmem⟩ := foldr_add (hs.flatMap members)
  have hpart : ∀ m ∈ (hs.flatMap members).foldr add [], ∃ h ∈ hs, m ∈ h.members :=
    fun m hm => List.mem_flatMap.mp ((hmem m).mp hm)
  have hsingle : ∀ m ∈ (hs.flatMap members).foldr add [], m.members = [m] := by
    intro m hm
    obtain ⟨h, hh, hm⟩ := hpart m hm
    exact (hf h hh).single m hm
  have htype : ∀ m ∈ (hs.flatMap members).foldr add [], ∀ t, m ≠ .other t := by
    intro m hm
    obtain ⟨h, hh, hm⟩ := hpart m hm
    exact (hf h hh).isType m hm
  have hmembers : (unionOf hs).members = (hs.flatMap members).foldr add [] := by
    unfold unionOf
    split
    next m hm => rw [hm] at hsingle ⊢; exact hsingle m List.mem_cons_self
    next => rfl
  exact ⟨⟨hmembers ▸ hnodup, hmembers ▸ hsingle, hmembers ▸ htype⟩, fun m => by rw [hmembers, hmem, List.mem_flatMap]⟩

theorem noneLeft_iff : noneLeft hs = true ↔ ∀ h ∈ hs, h = .nothing := by
  induction hs with
  | nil => simp [noneLeft]
  | cons h hs ih => cases h <;> simp [noneLeft, ih]

theorem onlyContainer_cons (hne : h ≠ .nothing) : onlyContainer (h :: hs) = (h.isContainer && noneLeft hs) := by
  cases h with
  | nothing => exact absurd rfl hne
  | _ => rfl

/-- Among different types the only container is one beside which there is nothing. -/
theorem onlyContainer_iff (hn : hs.Nodup) :
    onlyContainer hs = true ↔ ∃ m ∈ hs, m.isContainer = true ∧ ∀ g ∈ hs, g = m ∨ g = .nothing := by
  induction hs with
  | nil => simp [onlyContainer]
  | cons h hs ih =>
    obtain ⟨hnew, hlater⟩ := List.nodup_cons.mp hn
    -- Nothing is passed over wherever it stands; the first type that is something has to be the only one.
    by_cases hnothing : h = .nothing
    · subst hnothing
      change onlyContainer hs = true ↔ _
      rw [ih hlater]
      constructor
      · rintro ⟨m, hm, hcontainer, hall⟩
        exact ⟨m, List.mem_cons_of_mem _ hm, hcontainer, List.forall_mem_cons.mpr ⟨.inr rfl, hall⟩⟩
      · rintro ⟨m, hm, hcontainer, hall⟩
        rcases List.mem_cons.mp hm with rfl | hm
        · cases hcontainer
        · exact ⟨m, hm, hcontainer, (List.forall_mem_cons.mp hall).2⟩
    · rw [onlyContainer_cons hnothing, Bool.and_eq_true, noneLeft_iff]
      constructor
      · rintro ⟨hcontainer, hnone⟩
        exact ⟨h, List.mem_cons_self, hcontainer, List.forall_mem_cons.mpr ⟨.inl rfl, fun g hg => .inr (hnone g hg)⟩⟩
      · rintro ⟨m, _, hcontainer, hall⟩
        obtain ⟨hhead, htail⟩ := List.forall_mem_cons.mp hall
        cases hhead.resolve_right hnothing
        exact ⟨hcontainer, fun g hg => (htail g hg).resolve_left fun heq => hnew (heq ▸ hg)⟩

/-- A type shows a container if one of its alternatives does and there is no other but nothing. -/
theorem Flat.isContainer_iff (hf : Flat h) :
    h.isContainer = true ↔ ∃ m ∈ h.members, m.isContainer = true ∧ ∀ g ∈ h.members, g = m ∨ g = .nothing := by
  cases h with
  | union hs => exact onlyContainer_iff hf.apart
  | _ =>
    constructor
    · exact fun hcontainer => ⟨_, List.mem_cons_self, hcontainer, fun g hg => .inl (List.mem_singleton.mp hg)⟩
    · rintro ⟨m, hm, hcontainer, _⟩
      cases List.mem_singleton.mp hm
      exact hcontainer

theorem flat_of_members (hsingle : h.members = [h]) (htype : ∀ t, h ≠ .other t) : Flat h := by
  have honly : ∀ m ∈ h.members, m = h := fun m hm => List.mem_singleton.mp (hsingle ▸ hm)
  refine ⟨hsingle ▸ List.nodup_cons.mpr ⟨List.not_mem_nil, .nil⟩, fun m hm => ?_, fun m hm => ?_⟩
  · rw [honly m hm, hsingle]
  · rw [honly m hm]
    exact htype

theorem Flat.ne_other {t : String} (hf : Flat h) : h ≠ .other t := by
  rintro rfl
  exact hf.isType _ List.mem_cons_self t rfl

theorem annotated_eq (h : TypeHint) (data : List String) : ∃ g gdata, h.annotated data = .tagged g gdata := by
  cases h <;> exact ⟨_, _, rfl⟩

theorem members_annotated (h : TypeHint) (data : List String) : (h.annotated data).members = [h.annotated data] := by
  cases h <;> rfl

theorem isContainer_annotated (h : TypeHint) (data : List String) : (h.annotated data).isContainer = h.isContainer := by
  cases h <;> rfl

theorem members_optional (hf : Flat h) :
    Flat h.optional ∧ ∀ m, m ∈ h.optional.members ↔ m ∈ h.members ∨ m = .nothing := by
  have hparts : ∀ g ∈ [h, .nothing], Flat g :=
    List.forall_mem_cons.mpr ⟨hf, List.forall_mem_cons.mpr ⟨flat_of_members rfl nofun, List.forall_mem_nil _⟩⟩
  obtain ⟨hflat, hmem⟩ := members_unionOf hparts
  refine ⟨hflat, fun m => (hmem m).trans ?_⟩
  simp [members]

theorem isContainer_optional (hf : Flat h) : h.optional.isContainer = h.isContainer := by
  obtain ⟨hflat, hmem⟩ := members_optional hf
  rw [Bool.eq_iff_iff, hflat.isContainer_iff, hf.isContainer_iff]
  constructor
  · rintro ⟨m, hm, hcontainer, hall⟩
    rcases (hmem m).mp hm with hm | rfl
    · exact ⟨m, hm, hcontainer, fun g hg => hall g ((hmem g).mpr (.inl hg))⟩
    · cases hcontainer
  · rintro ⟨m, hm, hcontainer, hall⟩
    exact ⟨m, (hmem m).mpr (.inl hm), hcontainer, fun g hg => ((hmem g).mp hg).elim (hall g) .inr⟩

section Reading

variable {base e arg : Expr} {path : List String} {t : TypeName}

/-- What an expression names. -/
def Names (e : Expr) (path : List String) (t : TypeName) : Prop := path? e = some path ∧ TypeName.ofPath path = .ok t

/-- What stands in brackets, and whether it is written with a comma. -/
def arguments : Expr → Bool × List Expr
  | .tuple es => (true, es)
  | e => (false, [e])

theorem Names.ofExpr_eq (hn : Names e path t) : ofExpr e = ofPath path := by
  obtain ⟨hp, -⟩ := hn
  cases e with
  | name n => cases hp; rfl
  | «attribute» base attr =>
    obtain ⟨front, hfront, rfl⟩ := Option.map_eq_some_iff.mp hp
    simp only [ofExpr, hfront]
  | _ => cases hp

theorem Names.ofPath_ok (hn : Names e path t) : ∃ h, ofPath path = .ok h := by
  simp only [ofPath, hn.2]
  exact ⟨_, rfl⟩

theorem Names.ofExpr_subscript (hn : Names base path t) (arg : Expr) :
    ofExpr (.subscript base arg) = (ofExprs (arguments arg).2).mapM id >>= applied path (arguments arg).1 := by
  obtain ⟨h, hh⟩ := hn.ofPath_ok
  cases arg with
  | tuple es => simp only [ofExpr, hn.1, hh, arguments]; rfl
  | _ =>
    rw [ofExpr]
    · simp only [hn.1, hh, arguments, ofExprs, List.mapM_cons, List.mapM_nil, id, bind_assoc, pure_bind]
      rfl
    · nofun

end Reading

end TypeHint

section Classes

variable {c d : ValueClass} {k : KnownClass} {v : Value}

/-- The order of classes. -/
inductive ValueClass.Below : ValueClass → ValueClass → Prop
  | refl (c : ValueClass) : Below c c
  | known {c d : KnownClass} : d ∈ c.above → Below (.known c) (.known d)
  | object {name bases} : Below (.derived name bases) (.known .object)
  | base {name bases c d} : c ∈ bases → Below c d → Below (.derived name bases) d

/-- A value is one of its class and of every class above that. -/
def Value.IsInstance (v : Value) (c : ValueClass) : Prop := v.valueClass.Below c

/-- Texts and bytes. -/
def Value.isText (v : Value) : Bool := KnownClass.texts.any v.valueClass.isBelow

theorem KnownClass.above_trans {c d e : KnownClass} (hcd : d ∈ c.above) (hde : e ∈ d.above) : e ∈ c.above := by
  have hall : ∀ d ∈ c.above, ∀ e ∈ d.above, e ∈ c.above := by cases c <;> decide +kernel
  exact hall d hcd e hde

theorem ValueClass.anyBelow_iff {cs : List ValueClass} : anyBelow cs k = true ↔ ∃ c ∈ cs, c.isBelow k = true := by
  induction cs with
  | nil => simp [anyBelow]
  | cons c cs ih => simp [anyBelow, ih]

theorem ValueClass.Below.isBelow (h : c.Below d) (hd : d.isBelow k = true) : c.isBelow k = true := by
  induction h with
  | refl c => exact hd
  | known hcd => exact List.contains_iff_mem.mpr (KnownClass.above_trans hcd (List.contains_iff_mem.mp hd))
  | object =>
    cases List.mem_singleton.mp (List.contains_iff_mem.mp hd)
    rfl
  | base hc _ ih => exact Bool.or_eq_true_iff.mpr (.inr (anyBelow_iff.mpr ⟨_, hc, ih hd⟩))

theorem Value.isFilterable_eq (v : Value) : v.isFilterable = v.valueClass.isContainer := by
  cases v with
  | mapping kind entries => cases kind <;> rfl
  | view kind items => cases kind <;> rfl
  | _ => rfl

theorem Value.filterable_of_instance (hv : v.IsInstance c) (hc : c.isContainer = true) (ht : v.isText = false) :
    v.isFilterable = true := by
  obtain ⟨_, hcontainer⟩ := Bool.and_eq_true_iff.mp hc
  obtain ⟨k, hk, hbelow⟩ := List.any_eq_true.mp hcontainer
  rw [isFilterable_eq]
  exact Bool.and_eq_true_iff.mpr ⟨by simpa [isText] using ht, List.any_eq_true.mpr ⟨k, hk, hv.isBelow hbelow⟩⟩

end Classes

section Filtering

variable {σ α : Type} {P : Failure → Prop} {v : Value}

/-- A filter takes a value if it fails only where its test does, or where a set cannot hold an element. -/
def Value.IsTaken (v : Value) : Prop :=
  ∀ {σ : Type} (keep : Value → Run σ Bool) (P : Failure → Prop), (∀ e, (keep e).FailsOnly P) →
    (v.filtered keep).FailsOnly fun f => P f ∨ f = .operand .wrongType ∧ ¬v.FitsSet

theorem keepM_failsOnly {keep : α → Run σ Bool} {as : List α} (h : ∀ a ∈ as, (keep a).FailsOnly P) :
    (keepM keep as).FailsOnly P := by
  induction as with
  | nil => exact .pure _
  | cons a as ih =>
    refine (h a List.mem_cons_self).bind fun kept => ?_
    exact (ih fun b hb => h b (List.mem_cons_of_mem a hb)).bind fun rest => .pure _

theorem forSet_failsOnly {keep : Value → Run σ Bool} {e : Value} (h : (keep e).FailsOnly P) :
    (forSet keep e).FailsOnly fun f => P f ∨ f = .operand .wrongType ∧ e.isHashable = false := by
  refine (h.imp fun f hf => .inl hf).bind fun kept => ?_
  cases he : e.isHashable with
  | true =>
    rw [Bool.not_true, Bool.and_false]
    exact Run.FailsOnly.pure kept
  | false =>
    cases kept with
    | false => exact .pure _
    | true => exact .throw (.inr ⟨rfl, rfl⟩)

/-- What can be filtered is taken by every filter. -/
theorem Value.isTaken (hv : v.isFilterable = true) : v.IsTaken := by
  intro σ keep P hkeep
  have hitems (es : List Value) : (keepM keep es).FailsOnly P := keepM_failsOnly fun e _ => hkeep e
  have hbuilt (es : List Value) (build : List Value → Value) {Q : Failure → Prop} :
      (do return build (← keepM keep es) : Run σ Value).FailsOnly fun f => P f ∨ Q f :=
    ((hitems es).imp fun f hf => .inl hf).bind fun kept => .pure _
  cases v with
  | tuple es | array code es | set es | frozenSet es | list es | deque es => exact hbuilt _ _
  | range start stop step => exact hbuilt _ .list
  | peer host port => exact hbuilt [.text host, .int port] .tuple
  | mapping kind entries =>
    exact ((keepM_failsOnly fun e _ => hkeep _).imp fun f hf => .inl hf).bind fun kept => .pure _
  | view kind es =>
    have hset : (keepM (forSet keep) es).FailsOnly
        fun f => P f ∨ f = .operand .wrongType ∧ ¬(Value.view kind es).FitsSet := by
      refine keepM_failsOnly fun e he => (forSet_failsOnly (hkeep e)).imp fun f hf => hf.imp_right fun hf => ⟨hf.1, ?_⟩
      intro hfits
      rw [hfits e he] at hf
      cases hf.2
    cases kind with
    | values => cases hv
    | keys | items => exact hset.bind fun kept => .pure _
  | _ => cases hv

end Filtering

/-- Types as they are declared: classes, classes with arguments, data added to a type, nothing as an alternative, and
unions. The texts of the first two tell them apart. -/
inductive Annotation where
  | ofClass (name : String) (c : ValueClass)
  | generic (text : String) (origin : ValueClass)
  | annotated (of : Annotation) (data : List String)
  | optional (of : Annotation)
  | union (first : Annotation) (rest : List Annotation)

namespace Annotation

mutual

/-- What is known of a declared type. -/
def hint : Annotation → TypeHint
  | .ofClass _ (.known .noneType) => .nothing
  | .ofClass name c => .named name c.isContainer
  | .generic text origin => .named text origin.isContainer
  | .annotated of data => of.hint.annotated data
  | .optional of => of.hint.optional
  | .union first rest => TypeHint.unionOf (first.hint :: hints rest)
termination_by structural a => a

def hints : List Annotation → List TypeHint
  | [] => []
  | a :: as => a.hint :: hints as
termination_by structural as => as

end

mutual

/-- The values that a declared type stands for. The arguments of a class are not looked at. -/
def Holds : Annotation → Value → Prop
  | .ofClass _ c, v => v.IsInstance c
  | .generic _ origin, v => v.IsInstance origin
  | .annotated of _, v => of.Holds v
  | .optional of, v => v = .null ∨ of.Holds v
  | .union first rest, v => first.Holds v ∨ AnyHolds rest v
termination_by structural a => a

def AnyHolds : List Annotation → Value → Prop
  | [], _ => False
  | a :: as, v => a.Holds v ∨ AnyHolds as v
termination_by structural as => as

end

open TypeHint (Flat)

mutual

theorem flat_hint : (a : Annotation) → Flat a.hint
  | .ofClass name (.known c) => by cases c <;> exact TypeHint.flat_of_members rfl nofun
  | .ofClass name (.derived _ _) => TypeHint.flat_of_members rfl nofun
  | .generic _ _ => TypeHint.flat_of_members rfl nofun
  | .annotated of data => by
    obtain ⟨g, gdata, heq⟩ := TypeHint.annotated_eq of.hint data
    exact TypeHint.flat_of_members (TypeHint.members_annotated of.hint data) fun t => by rw [hint, heq]; nofun
  | .optional of => (TypeHint.members_optional (flat_hint of)).1
  | .union first rest =>
    (TypeHint.members_unionOf (List.forall_mem_cons.mpr ⟨flat_hint first, flat_hints rest⟩)).1

theorem flat_hints : (as : List Annotation) → ∀ h ∈ hints as, Flat h
  | [] => List.forall_mem_nil _
  | a :: as => List.forall_mem_cons.mpr ⟨flat_hint a, flat_hints as⟩

end

open TypeHint (Names arguments ofExpr ofExprs texts)

mutual

/-- How declared types are written. -/
inductive Written : Annotation → Expr → Prop
  | null {name} : Written (.ofClass name (.known .noneType)) (.literal .null)
  | ofClass {e path name c arity} : Names e path (.named c arity) → c ≠ .known .noneType →
      name = TypeHint.pathText path → Written (.ofClass name c) e
  | generic {base arg path text origin arity hs} : Names base path (.named origin arity) →
      (ofExprs (arguments arg).2).mapM id = .ok hs → arity.admits (arguments arg).1 hs.length = true →
      text = TypeHint.pathText path ++ "[" ++ ",".intercalate (texts hs) ++ "]" →
      Written (.generic text origin) (.subscript base arg)
  | annotated {base path of data e es h hs} : Names base path .tagged → Written of e →
      (ofExprs es).mapM id = .ok (h :: hs) → data = texts (h :: hs) →
      Written (.annotated of data) (.subscript base (.tuple (e :: es)))
  | optional {base arg path of} : Names base path .optional → Written of arg →
      Written (.optional of) (.subscript base arg)
  | union {base arg path first rest} : Names base path .union → AllWritten (first :: rest) (arguments arg).2 →
      Written (.union first rest) (.subscript base arg)
  | alternative {a b e g} : Written a e → Written b g → e ≠ .literal .null ∨ g ≠ .literal .null →
      Written (.union a [b]) (.binary .bitOr e g)

inductive AllWritten : List Annotation → List Expr → Prop
  | nil : AllWritten [] []
  | cons {a as e es} : Written a e → AllWritten as es → AllWritten (a :: as) (e :: es)

end

theorem hint_ofClass {name : String} {c : ValueClass} (hne : c ≠ .known .noneType) :
    (ofClass name c).hint = .named name c.isContainer := by
  cases c with
  | derived name bases => rfl
  | known c =>
    cases c with
    | noneType => exact absurd rfl hne
    | _ => rfl

theorem Written.arguments_eq {a : Annotation} {e : Expr} (hw : Written a e) : arguments e = (false, [e]) := by
  cases e with
  | tuple es =>
    cases hw with
    | ofClass hn _ _ => cases hn.1
  | _ => rfl

theorem alternative_hint (a b : Annotation) :
    TypeHint.alternative a.hint b.hint = .ok (TypeHint.unionOf [a.hint, b.hint]) := by
  unfold TypeHint.alternative
  split
  next ha => exact absurd ha (flat_hint a).ne_other
  next hb _ => exact absurd hb (flat_hint b).ne_other
  next => rfl

mutual

/-- What is known of a declared type is what is read from the ways to write it. -/
theorem Written.read : ∀ {a e}, Written a e → ofExpr e = .ok a.hint
  | _, _, .null => rfl
  | _, _, .ofClass hn hne hname => by
    rw [hn.ofExpr_eq, hint_ofClass hne, hname]
    simp only [TypeHint.ofPath, hn.2]
    rfl
  | _, _, .generic hn hargs hadmits htext => by
    rw [hn.ofExpr_subscript, hargs, htext]
    simp only [Except.bind, bind, TypeHint.applied, hn.2, hadmits, if_true]
    rfl
  | _, _, .annotated hn hof hes hdata => by
    rw [hn.ofExpr_subscript, hdata]
    simp only [arguments, ofExprs, List.mapM_cons, id, hof.read, hes, Except.bind, bind, TypeHint.applied, hn.2]
    rfl
  | _, _, .optional hn hof => by
    rw [hn.ofExpr_subscript, hof.arguments_eq]
    simp only [ofExprs, List.mapM_cons, List.mapM_nil, id, hof.read, Except.bind, bind, TypeHint.applied, hn.2]
    rfl
  | _, _, .union hn hall => by
    rw [hn.ofExpr_subscript, hall.read]
    simp only [hints, Except.bind, bind, TypeHint.applied, hn.2]
    rfl
  | _, _, .alternative ha hb hne => by
    rw [ofExpr, ha.read, hb.read]
    · exact alternative_hint _ _
    · exact fun he hg => hne.elim (absurd he) (absurd hg)

theorem AllWritten.read : ∀ {as es}, AllWritten as es → (ofExprs es).mapM id = .ok (hints as)
  | _, _, .nil => rfl
  | _, _, .cons hw hall => by
    rw [ofExprs, List.mapM_cons, hall.read, id, hw.read]
    rfl

end

/-- That one of the alternatives of a type, and not nothing, answers for a value. -/
def Backed (h : TypeHint) (v : Value) : Prop :=
  ∃ m ∈ h.members, m ≠ .nothing ∧ (m.isContainer = true → v.isText = false → v.isFilterable = true)

theorem Backed.filterable {h : TypeHint} {v : Value} (hf : Flat h) (hb : Backed h v) (hc : h.isContainer = true)
    (ht : v.isText = false) : v.isFilterable = true := by
  obtain ⟨m, hm, hne, hanswers⟩ := hb
  obtain ⟨g, _, hcontainer, hall⟩ := hf.isContainer_iff.mp hc
  cases (hall m hm).resolve_right hne
  exact hanswers hcontainer ht

theorem backed_named {name : String} {c : ValueClass} {v : Value} (hv : v.IsInstance c) :
    Backed (.named name c.isContainer) v :=
  ⟨_, List.mem_singleton_self _, nofun, fun hc ht => Value.filterable_of_instance hv hc ht⟩

theorem eq_null_of_noneType {v : Value} (hv : v.IsInstance (.known .noneType)) : v = .null := by
  have hbelow : v.valueClass.isBelow .noneType = true := ValueClass.Below.isBelow hv rfl
  cases v with
  | null => rfl
  | mapping kind entries => cases kind <;> cases hbelow
  | view kind items => cases kind <;> cases hbelow
  | _ => cases hbelow

-- Only the alternative that holds the value is looked at: if the union shows a container, the others are nothing.
mutual

/-- Whatever a declared type stands for, besides nothing, one of its alternatives answers for. -/
theorem backed_hint : (a : Annotation) → ∀ {v}, a.Holds v → v ≠ .null → Backed a.hint v
  | .ofClass name (.known c), v, hv, hne => by
    cases c with
    | noneType => exact absurd (eq_null_of_noneType hv) hne
    | _ => exact backed_named hv
  | .ofClass name (.derived _ _), v, hv, _ => backed_named hv
  | .generic _ _, v, hv, _ => backed_named hv
  | .annotated of data, v, hv, hne => by
    refine ⟨_, (TypeHint.members_annotated of.hint data).symm ▸ List.mem_singleton_self _, ?_, fun hc ht => ?_⟩
    · obtain ⟨g, gdata, heq⟩ := TypeHint.annotated_eq of.hint data
      exact heq ▸ nofun
    · rw [TypeHint.isContainer_annotated] at hc
      exact (backed_hint of hv hne).filterable (flat_hint of) hc ht
  | .optional of, v, hv, hne => by
    obtain ⟨m, hm, hanswers⟩ := backed_hint of (hv.resolve_left hne) hne
    exact ⟨m, ((TypeHint.members_optional (flat_hint of)).2 m).mpr (.inl hm), hanswers⟩
  | .union first rest, v, hv, hne => by
    have hmem := (TypeHint.members_unionOf (List.forall_mem_cons.mpr ⟨flat_hint first, flat_hints rest⟩)).2
    rcases hv with hv | hv
    · obtain ⟨m, hm, hanswers⟩ := backed_hint first hv hne
      exact ⟨m, (hmem m).mpr ⟨_, List.mem_cons_self, hm⟩, hanswers⟩
    · obtain ⟨h, hh, m, hm, hanswers⟩ := backed_hints rest hv hne
      exact ⟨m, (hmem m).mpr ⟨h, List.mem_cons_of_mem _ hh, hm⟩, hanswers⟩

theorem backed_hints : (as : List Annotation) → ∀ {v}, AnyHolds as v → v ≠ .null → ∃ h ∈ hints as, Backed h v
  | a :: as, v, hv, hne => by
    rcases hv with hv | hv
    · exact ⟨_, List.mem_cons_self, backed_hint a hv hne⟩
    · obtain ⟨h, hh, hbacked⟩ := backed_hints as hv hne
      exact ⟨h, List.mem_cons_of_mem _ hh, hbacked⟩

end

/-- However a declared type is written, that is what is read from it. It shows a container or not, and data added to it
and nothing as an alternative do not change that. If it shows one, each of its values besides nothing and texts can be
filtered, and every filter takes it. -/
theorem containers_filterable (a : Annotation) :
    (∀ e, Written a e → ofExpr e = .ok a.hint) ∧
    (∀ data, (annotated a data).hint.isContainer = a.hint.isContainer) ∧
    (optional a).hint.isContainer = a.hint.isContainer ∧
    (a.hint.isContainer = true → ∀ v, a.Holds v → v ≠ .null → v.isText = false →
      v.isFilterable = true ∧ v.IsTaken) := by
  refine ⟨fun e hw => hw.read, TypeHint.isContainer_annotated a.hint, TypeHint.isContainer_optional (flat_hint a),
    fun hc v hv hne ht => ?_⟩
  have hfilterable := (backed_hint a hv hne).filterable (flat_hint a) hc ht
  exact ⟨hfilterable, Value.isTaken hfilterable⟩

/-- Texts in a sequence, with data and with nothing as an alternative, twice. -/
def labels : Annotation :=
  .optional (.union (.annotated (.generic "typing.Sequence[str]" (.known .sequence)) ["Ellipsis"])
    [.ofClass "None" (.known .noneType)])

def labelsWritten : Expr :=
  .subscript (.attribute (.name "typing") "Optional")
    (.binary .bitOr
      (.subscript (.name "Annotated")
        (.tuple [.subscript (.attribute (.name "typing") "Sequence") (.name "str"), .literal .ellipsis]))
      (.literal .null))

theorem labels_written : Written labels labelsWritten := by
  have hsequence : Written (.generic "typing.Sequence[str]" (.known .sequence))
      (.subscript (.attribute (.name "typing") "Sequence") (.name "str")) :=
    .generic ⟨rfl, rfl⟩ rfl rfl (by decide +kernel)
  have hdata : Written (.annotated (.generic "typing.Sequence[str]" (.known .sequence)) ["Ellipsis"])
      (.subscript (.name "Annotated")
        (.tuple [.subscript (.attribute (.name "typing") "Sequence") (.name "str"), .literal .ellipsis])) :=
    .annotated ⟨rfl, rfl⟩ hsequence rfl rfl
  exact .optional ⟨rfl, rfl⟩ (.alternative hdata .null (.inl nofun))

theorem labels_filterable :
    ofExpr labelsWritten = .ok labels.hint ∧ labels.hint.isContainer = true ∧
      (annotated labels ["0"]).hint.isContainer = true ∧
      (Value.tuple [.text "new", .text "old"]).isFilterable = true := by
  obtain ⟨hread, hdata, -, hall⟩ := containers_filterable labels
  have hcontainer : labels.hint.isContainer = true := by decide +kernel
  have hholds : labels.Holds (.tuple [.text "new", .text "old"]) := .inr (.inl (.known (by decide +kernel)))
  exact ⟨hread _ labels_written, hcontainer, (hdata ["0"]).trans hcontainer, (hall hcontainer _ hholds nofun rfl).1⟩

end Annotation

end AccessPolicy
