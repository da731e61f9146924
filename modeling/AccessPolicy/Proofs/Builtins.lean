import AccessPolicy.Handler
import AccessPolicy.Proofs.Alike
import AccessPolicy.Proofs.FreeNames

/-!
The built-in names: the variables and predicates that tell who the caller is and what the caller may do. They
mean the same in every context that a handler makes for an identity, whatever names its arguments and path
variables have, so expressions over them alone end alike in all of these contexts.
-/

namespace AccessPolicy

variable {σ : Type} {W : σ → σ → Prop} {p : Predicate}

/-- Whether what an expression asks for is a built-in variable that it reads, or a built-in predicate that it
calls. -/
def Demand.IsBuiltin : Demand → Prop
  | .value n => n ∈ commonVariables
  | .function n => n ∈ Predicate.common.map Predicate.name

instance : DecidablePred Demand.IsBuiltin
  | .value n => inferInstanceAs (Decidable (n ∈ commonVariables))
  | .function n => inferInstanceAs (Decidable (n ∈ Predicate.common.map Predicate.name))

def Expr.UsesBuiltins (e : Expr) : Prop := ∀ d ∈ e.demands, d.IsBuiltin

instance (e : Expr) : Decidable e.UsesBuiltins := inferInstanceAs (Decidable (∀ d ∈ e.demands, d.IsBuiltin))

/-- Whether a name stands for a value wherever an expression reads it that has not bound it itself. -/
def Context.Denotes (ctx : Context σ) (n : String) (v : Value) : Prop :=
  ∀ source extra, extra.lookup n = none → Evaluation.eval ctx source extra (.name n) = pure v

theorem Context.denotes_of_lookup {ctx : Context σ} {n : String} {v : Value}
    (h : ctx.bindings.lookup n = some v) : ctx.Denotes n v := by
  intro source extra hextra
  simp only [Evaluation.eval, hextra, h]

theorem Context.lookup_withElement (ctx : Context σ) (item : Value) (n : String) :
    (ctx.withVariables [(elementName, item)]).bindings.lookup n =
      if n = elementName then some item else ctx.bindings.lookup n :=
  Bindings.lookup_assign elementName n item ctx.bindings

namespace Handler

variable {h : Handler σ} {who : Option Authentication}

/-- The contexts that a handler makes for an identity: without anything else, for a request and its path
variables, for a call, and for an element that is filtered in any of them. -/
inductive Makes (h : Handler σ) (who : Option Authentication) : Context σ → Prop
  | common : Makes h who (h.commonContext who)
  | web (request : Value) (pathVariables : Bindings) (names : (Bindings.names pathVariables).Nodup) :
    Makes h who (h.webContext who request pathVariables)
  | method (arguments : Bindings) (this returned : Option Value) (names : (Bindings.names arguments).Nodup) :
    Makes h who (h.methodContext who arguments this returned)
  | element {ctx : Context σ} (item : Value) (made : Makes h who ctx) :
    Makes h who (ctx.withVariables [(elementName, item)])

/-- Whether the built-in names of a context are about an identity. -/
structure Identifies (h : Handler σ) (who : Option Authentication) (ctx : Context σ) : Prop where
  values : ∀ n ∈ commonVariables, ctx.bindings.lookup n = (h.subject who).bindings.lookup n
  predicates : ∃ more, ctx.predicates = Predicate.common ++ more
  decide : ∃ request, ctx.decide = (h.subject who).decide request
  send : ctx.send = h.send

theorem names_subject (s : Subject σ) : Bindings.names s.bindings = commonVariables := rfl

theorem nodup_subject (s : Subject σ) : (Bindings.names s.bindings).Nodup := by
  rw [names_subject]
  decide

/-- What only some contexts know is not what all of them do. -/
theorem not_common_of_special : ∀ n ∈ specialNames, n ∉ commonVariables := by
  decide

theorem lookup_subject (s : Subject σ) {n : String} (hn : n ∈ commonVariables) :
    ∃ v, s.bindings.lookup n = some v :=
  Bindings.lookup_of_mem hn

theorem lookup_builtin {n : String} (hn : n ∈ commonVariables) (bs : Bindings) :
    (bs.updated (h.subject who).bindings).lookup n = (h.subject who).bindings.lookup n := by
  obtain ⟨v, hv⟩ := lookup_subject (h.subject who) hn
  rw [Bindings.lookup_updated (nodup_subject _), hv]
  rfl

theorem lookup_contextOver {predicates : List Predicate} {request : Value} {bs : Bindings} {n : String}
    {v : Value} (hnames : (Bindings.names bs).Nodup) (hv : bs.lookup n = some v) :
    (h.contextOver who predicates request bs).bindings.lookup n = some v := by
  simp only [contextOver]
  rw [Bindings.lookup_updated hnames, hv]
  rfl

theorem contextOver_identifies {predicates : List Predicate} {request : Value} {bs : Bindings}
    (hpredicates : ∃ more, predicates = Predicate.common ++ more) (hnames : (Bindings.names bs).Nodup)
    (hbs : ∀ n ∈ commonVariables, bs.lookup n = (h.subject who).bindings.lookup n) :
    h.Identifies who (h.contextOver who predicates request bs) := by
  refine ⟨?_, hpredicates, ⟨request, rfl⟩, rfl⟩
  intro n hn
  obtain ⟨v, hv⟩ := lookup_subject (h.subject who) hn
  rw [lookup_contextOver hnames ((hbs n hn).trans hv), hv]

theorem commonContext_identifies : h.Identifies who (h.commonContext who) :=
  contextOver_identifies ⟨[], rfl⟩ (nodup_subject _) fun _ _ => rfl

theorem webContext_identifies {request : Value} {pathVariables : Bindings}
    (hnames : (Bindings.names pathVariables).Nodup) :
    h.Identifies who (h.webContext who request pathVariables) := by
  refine contextOver_identifies ⟨[.hasIpAddress], rfl⟩ (Bindings.nodup_updated (Bindings.nodup_updated hnames)) ?_
  intro n hn
  rw [Bindings.lookup_updated_of_not_mem, lookup_builtin hn]
  intro hmem
  have hrequest : n = "request" := List.mem_singleton.mp hmem
  exact not_common_of_special "request" (by decide) (hrequest ▸ hn)

theorem target_names {this : Option Value} {n : String}
    (h : n ∈ Bindings.names (match this with | some .null | none => [] | some v => [("this", v)])) :
    n = "this" := by
  split at h
  · cases h
  · cases h
  · exact List.mem_singleton.mp h

theorem result_names {returned : Option Value} {n : String}
    (h : n ∈ Bindings.names (returned.elim [] fun v => [("returnValue", v)])) : n = "returnValue" := by
  cases returned with
  | none => cases h
  | some v => exact List.mem_singleton.mp h

theorem methodContext_identifies {arguments : Bindings} {this returned : Option Value}
    (hnames : (Bindings.names arguments).Nodup) :
    h.Identifies who (h.methodContext who arguments this returned) := by
  refine contextOver_identifies ⟨[], rfl⟩ ?_ ?_
  · exact Bindings.nodup_updated (Bindings.nodup_updated (Bindings.nodup_updated hnames))
  · intro n hn
    rw [Bindings.lookup_updated_of_not_mem, Bindings.lookup_updated_of_not_mem, lookup_builtin hn]
    · intro hmem
      exact not_common_of_special "this" (by decide) (target_names hmem ▸ hn)
    · intro hmem
      exact not_common_of_special "returnValue" (by decide) (result_names hmem ▸ hn)

theorem Makes.identifies {ctx : Context σ} (hm : h.Makes who ctx) : h.Identifies who ctx := by
  induction hm with
  | common => exact commonContext_identifies
  | web request pathVariables names => exact webContext_identifies names
  | method arguments this returned names => exact methodContext_identifies names
  | element item made ih =>
    refine ⟨?_, ih.predicates, ih.decide, ih.send⟩
    intro n hn
    rw [Context.lookup_withElement, if_neg, ih.values n hn]
    rintro rfl
    exact not_common_of_special elementName (by decide) hn

end Handler

theorem Context.function?_builtin {ctx : Context σ} {more : List Predicate}
    (h : ctx.predicates = Predicate.common ++ more) (hp : p ∈ Predicate.common) :
    ctx.function? p.name = some (.predicate p) := by
  have hfind : Predicate.common.find? (fun q => q.name == p.name) = some p := by
    revert hp
    cases p <;> decide
  unfold function?
  rw [h, List.find?_append, hfind]
  rfl

namespace Subject

/-- A context that knows nothing but the built-in names. -/
def builtins (s : Subject σ) (request : Value) (send : Object → String → List Value → Bindings → Run σ Value) :
    Context σ where
  bindings := s.bindings
  predicates := Predicate.common
  decide := s.decide request
  send := send

end Subject

/-- Over built-in names alone, a context for an identity is as good as any other. -/
theorem Handler.Identifies.eval_eq {h : Handler σ} {who : Option Authentication} {ctx : Context σ}
    (hc : h.Identifies who ctx) {request : Value} (hr : ctx.decide = (h.subject who).decide request)
    (source : String) {e : Expr} (he : e.UsesBuiltins) :
    e.eval ctx source = e.eval ((h.subject who).builtins request h.send) source := by
  have hcall (f : Value) (vs : List Value) (named : Bindings) :
      ctx.call f vs named = ((h.subject who).builtins request h.send).call f vs named := by
    unfold Context.call
    rw [hr, hc.send]
    rfl
  obtain ⟨more, hmore⟩ := hc.predicates
  have hmet : (Simulation.equality σ).Met ctx ((h.subject who).builtins request h.send) source [] e.demands := by
    refine ⟨fun f vs named => congrArg _ (hcall f vs named), ?_⟩
    intro d hd _
    have hknown := he d hd
    cases d with
    | function n =>
      obtain ⟨p, hp, rfl⟩ := List.mem_map.mp hknown
      exact (Context.function?_builtin hmore hp).trans
        (Context.function?_builtin (List.append_nil _).symm hp).symm
    | value n =>
      refine Simulation.meets_value ?_ fun _ => rfl
      obtain ⟨v, hv⟩ := lookup_subject (h.subject who) hknown
      unfold Context.value?
      rw [hc.values n hknown, hv]
      simp [Subject.builtins, hv]
  unfold Expr.eval
  rw [show Evaluation.eval ctx source [] e =
    Evaluation.eval ((h.subject who).builtins request h.send) source [] e from Simulation.related_eval [] e hmet]

theorem PermissionEvaluator.ask_alike {e : PermissionEvaluator σ} {who : Option Authentication}
    (h : ∀ q, (e.answer who q).Alike W (fun _ => True) (e.answer who q)) (args : List Value) :
    (e.ask who args).Alike W (fun _ => True) (e.ask who args) := by
  unfold ask
  split
  next => exact .throw _
  next q _ =>
    refine .bind (P := fun _ => True) ((h q).tryCatch fun f => ?_) fun v _ => ?_
    · split <;> exact .throw _
    · split
      · exact .pure trivial
      · exact .throw _

namespace Subject

theorem oneArgument_alike (name : String) (args : List Value) (named : Bindings) :
    (oneArgument (σ := σ) name args named).Alike W (fun _ => True) (oneArgument name args named) := by
  unfold oneArgument
  split
  · exact .pure trivial
  · split
    · exact .pure trivial
    · exact .throw _
  · exact .throw _

theorem unnamed_alike (args : List Value) (named : Bindings) :
    (unnamed (σ := σ) args named).Alike W (fun _ => True) (unnamed args named) := by
  unfold unnamed
  split
  · exact .pure trivial
  · exact .throw _

theorem constant_alike (b : Bool) (args : List Value) (named : Bindings) :
    (constant (σ := σ) b args named).Alike W (·.lacks p = true) (constant b args named) := by
  unfold constant
  split
  · exact .pure rfl
  · exact .throw _

/-- Only the address predicate depends on the request. -/
theorem decide_alike {s : Subject σ} (request request' : Value) {q : Predicate} (hq : q ≠ .hasIpAddress)
    (hevaluator : ∀ e, s.evaluator = some e →
      ∀ question, (e.answer s.identity question).Alike W (fun _ => True) (e.answer s.identity question))
    (args : List Value) (named : Bindings) :
    (s.decide request q args named).Alike W (·.lacks p = true) (s.decide request' q args named) := by
  cases q with
  | hasRole | hasAuthority => exact (oneArgument_alike _ args named).bind fun _ _ => .pure rfl
  | hasAnyRole | hasAnyAuthority => exact (unnamed_alike args named).bind fun _ _ => .pure rfl
  | isAnonymous | isRememberMe | isAuthenticated | isFullyAuthenticated => exact constant_alike _ args named
  | hasPermission =>
    refine (unnamed_alike args named).bind fun args _ => ?_
    cases he : s.evaluator with
    | none => exact .throw _
    | some e => exact (PermissionEvaluator.ask_alike (hevaluator e he) args).bind fun _ _ => .pure rfl
  | hasIpAddress => exact absurd rfl hq

theorem bindings_lack {s : Subject σ} {a : Authentication} (hs : s.identity = some a)
    (ha : a.lacks p = true) : ∀ b ∈ s.bindings, b.2.lacks p = true := by
  simp only [bindings, principal, identityValue, hs, List.forall_mem_cons]
  exact ⟨(Authentication.lacks_iff.mp ha).1, ha, rfl, rfl, List.forall_mem_nil _⟩

/-- Contexts of the built-in names differ in the address predicate only, which is none of them. -/
theorem builtins_barring {s : Subject σ} (request request' : Value)
    {send : Object → String → List Value → Bindings → Run σ Value}
    (hidentity : ∀ b ∈ s.bindings, b.2.lacks .hasIpAddress = true)
    (hevaluator : ∀ e, s.evaluator = some e →
      ∀ question, (e.answer s.identity question).Alike W (fun _ => True) (e.answer s.identity question))
    (hsend : ∀ o name vs named, o.lacks .hasIpAddress = true → (∀ v ∈ vs, v.lacks .hasIpAddress = true) →
      (∀ b ∈ named, b.2.lacks .hasIpAddress = true) →
      (send o name vs named).Alike W (·.lacks .hasIpAddress = true) (send o name vs named)) :
    Context.Barring W .hasIpAddress (s.builtins request send) (s.builtins request' send) := by
  refine ⟨rfl, rfl, hidentity, (by decide : .hasIpAddress ∉ Predicate.common), ?_⟩
  intro f vs named hf hvs hnamed
  unfold Context.call
  split
  next q =>
    have hq : q ≠ .hasIpAddress := bne_iff_ne.mp hf
    exact decide_alike request request' hq hevaluator vs named
  next => exact .attempt (Container.build_lacks hvs hnamed)
  next => exact .attempt Conversion.apply_lacks
  next o name => exact hsend o name vs named hf hvs hnamed
  next => exact .attempt (Value.callNamed_lacks hf hvs hnamed)
  next => exact .throw _

end Subject

theorem Expr.eval_alike {ctx ctx' : Context σ} (h : Context.Barring W p ctx ctx') (source : String) (e : Expr) :
    (e.eval ctx source).Alike W (·.lacks p = true) (e.eval ctx' source) :=
  (Evaluation.alike_eval h (List.forall_mem_nil _) e 0).map fun _ hr => hr

theorem Guard.allows_alike {ctx ctx' : Context σ} {g : Guard}
    (h : (g.expr.eval ctx g.source).Alike W (·.lacks p = true) (g.expr.eval ctx' g.source)) :
    (g.allows ctx).Alike W (fun _ => True) (g.allows ctx') := by
  refine .bind (.tryCatch h fun f => ?_) fun _ _ => .pure trivial
  split <;> exact .throw _

namespace Handler

variable {h : Handler σ} {who : Option Authentication}

theorem methodContext_this (arguments : Bindings) (returned : Option Value) {v : Value} (hv : v ≠ .null) :
    h.methodContext who arguments (some v) returned =
      h.contextOver who Predicate.common .null
        (((arguments.updated (h.subject who).bindings).updated [("this", v)]).updated
          (returned.elim [] fun r => [("returnValue", r)])) := by
  cases v with
  | null => exact absurd rfl hv
  | _ => rfl

theorem lookup_this {arguments : Bindings} {returned : Option Value} {v : Value}
    (hnames : (Bindings.names arguments).Nodup) (hv : v ≠ .null) :
    (h.methodContext who arguments (some v) returned).bindings.lookup "this" = some v := by
  rw [methodContext_this arguments returned hv]
  refine lookup_contextOver ?_ ?_
  · exact Bindings.nodup_updated (Bindings.nodup_updated (Bindings.nodup_updated hnames))
  · rw [Bindings.lookup_updated_of_not_mem]
    · exact Bindings.lookup_assign "this" "this" v _
    · intro hmem
      exact absurd (result_names hmem) (by decide)

theorem lookup_returnValue {arguments : Bindings} {this : Option Value} {v : Value}
    (hnames : (Bindings.names arguments).Nodup) :
    (h.methodContext who arguments this (some v)).bindings.lookup "returnValue" = some v :=
  lookup_contextOver (Bindings.nodup_updated (Bindings.nodup_updated (Bindings.nodup_updated hnames)))
    (Bindings.lookup_assign "returnValue" "returnValue" v _)

/-- A value that a call knows by a name other than that of elements keeps the name when elements are filtered. -/
theorem denotes_withElement {ctx : Context σ} {n : String} {v : Value} (hn : n ≠ elementName)
    (hv : ctx.bindings.lookup n = some v) (item : Value) :
    (ctx.withVariables [(elementName, item)]).Denotes n v := by
  apply Context.denotes_of_lookup
  rw [Context.lookup_withElement, if_neg hn, hv]

/-- Whether what a handler is lent answers equal questions equally in worlds that are related. A predicate as
a value is one of the context that it is used in, so an identity brings none along, and methods hand out none
that they are not given. -/
structure Steady (h : Handler σ) (who : Option Authentication) (W : σ → σ → Prop) : Prop where
  identity : (who.getD Authentication.anonymousUser).lacks .hasIpAddress = true
  evaluator : ∀ e, h.evaluator = some e → ∀ q,
    (e.answer (h.subject who).identity q).Alike W (fun _ => True) (e.answer (h.subject who).identity q)
  methods : ∀ o name vs named, o.lacks .hasIpAddress = true → (∀ v ∈ vs, v.lacks .hasIpAddress = true) →
    (∀ b ∈ named, b.2.lacks .hasIpAddress = true) →
    (h.send o name vs named).Alike W (·.lacks .hasIpAddress = true) (h.send o name vs named)

/-- Whether the object that a call is made on and what it returned have the names that are kept for them. -/
structure KeepsCall (ctx : Context σ) (this returned : Option Value) : Prop where
  this : ∀ v, this = some v → v ≠ .null → ctx.Denotes "this" v
  returned : ∀ v, returned = some v → ctx.Denotes "returnValue" v

theorem methodContext_keepsCall {arguments : Bindings} (this returned : Option Value)
    (hnames : (Bindings.names arguments).Nodup) :
    KeepsCall (h.methodContext who arguments this returned) this returned := by
  constructor
  · rintro v rfl hv
    exact Context.denotes_of_lookup (lookup_this hnames hv)
  · rintro v rfl
    exact Context.denotes_of_lookup (lookup_returnValue hnames)

theorem withElement_keepsCall {arguments : Bindings} (this returned : Option Value)
    (hnames : (Bindings.names arguments).Nodup) (item : Value) :
    KeepsCall ((h.methodContext who arguments this returned).withVariables [(elementName, item)]) this
      returned := by
  constructor
  · rintro v rfl hv
    exact denotes_withElement (by decide) (lookup_this hnames hv) item
  · rintro v rfl
    exact denotes_withElement (by decide) (lookup_returnValue hnames) item

theorem Makes.allows_alike (hs : h.Steady who W) {g : Guard} (hg : g.expr.UsesBuiltins) {ctx ctx' : Context σ}
    (hm : h.Makes who ctx) (hm' : h.Makes who ctx') :
    (g.allows ctx).Alike W (fun _ => True) (g.allows ctx') := by
  obtain ⟨request, hr⟩ := hm.identifies.decide
  obtain ⟨request', hr'⟩ := hm'.identifies.decide
  have hbarring := Subject.builtins_barring (s := h.subject who) request request'
    (Subject.bindings_lack rfl hs.identity) hs.evaluator hs.methods
  apply Guard.allows_alike
  rw [hm.identifies.eval_eq hr g.source hg, hm'.identifies.eval_eq hr' g.source hg]
  exact g.expr.eval_alike hbarring g.source

theorem Identifies.denotes {ctx : Context σ} (hc : h.Identifies who ctx) {n : String} {v : Value}
    (hv : (h.subject who).bindings.lookup n = some v) : ctx.Denotes n v := by
  apply Context.denotes_of_lookup
  rw [hc.values n (Bindings.mem_of_lookup hv), hv]

/-- The built-in names are out of reach for whatever a caller supplies. Guards over them alone end alike in
all contexts that are made for an identity, wherever the evaluator and the methods that they ask do: with the
same decision or the same failure. In all guards the built-in variables are those of the identity, and calls
of the built-in predicates are decided for it. Arguments hide neither these names nor those of the object
that a call is made on, of what it returned and of the element that is filtered. -/
theorem builtins_kept (h : Handler σ) (who : Option Authentication) :
    (∀ W, h.Steady who W → ∀ g : Guard, g.expr.UsesBuiltins → ∀ ctx ctx', h.Makes who ctx → h.Makes who ctx' →
      (g.allows ctx).Alike W (fun _ => True) (g.allows ctx')) ∧
    (∀ ctx, h.Makes who ctx →
      (∀ n v, (h.subject who).bindings.lookup n = some v → ctx.Denotes n v) ∧
      (∀ p ∈ Predicate.common, ctx.function? p.name = some (.predicate p)) ∧
      ∃ request, ctx.decide = (h.subject who).decide request) ∧
    ∀ (arguments : Bindings) (this returned : Option Value), (Bindings.names arguments).Nodup →
      KeepsCall (h.methodContext who arguments this returned) this returned ∧
      ∀ item : Value,
        KeepsCall ((h.methodContext who arguments this returned).withVariables [(elementName, item)]) this
          returned ∧
        ((h.methodContext who arguments this returned).withVariables [(elementName, item)]).Denotes
          elementName item := by
  refine ⟨?_, ?_, ?_⟩
  · intro W hs g hg ctx ctx' hm hm'
    exact hm.allows_alike hs hg hm'
  · intro ctx hm
    obtain ⟨more, hmore⟩ := hm.identifies.predicates
    exact ⟨fun n v => hm.identifies.denotes, fun p hp => Context.function?_builtin hmore hp, hm.identifies.decide⟩
  · intro arguments this returned hnames
    refine ⟨methodContext_keepsCall this returned hnames, fun item => ?_⟩
    refine ⟨withElement_keepsCall this returned hnames item, ?_⟩
    exact Context.denotes_of_lookup (Context.lookup_withElement _ item elementName)

/-- A handler whose evaluator grants everything and counts how often it was asked. -/
def counting : Handler Nat where
  evaluator := some (.lent "counting" fun _ _ => do
    modify (· + 1)
    return .bool true)
  send _ _ _ _ := throw (.operand .wrongType)

def alice : Authentication := Authentication.of "alice" ["ROLE_USER"] .null false []

theorem counting_steady : counting.Steady (some alice) (fun _ _ => True) := by
  refine ⟨by decide, ?_, ?_⟩
  · rintro _ ⟨⟩ q s t _
    exact ⟨.ok (.bool true), s + 1, t + 1, rfl, rfl, trivial, fun _ _ => trivial⟩
  · intro o name vs named _ _ _
    exact .throw _

/-- Path variables and arguments that are named like the identity's variables change no decision. -/
theorem impostor_ignored :
    ∃ g, Guard.ofText "principal == 'alice' and hasRole('USER') and hasPermission(1, 'read')"
        Guard.defaultLabel = .ok g ∧
      (∀ s t, ((g.allows (counting.commonContext (some alice))).outcome s).1 =
        ((g.allows (counting.webContext (some alice) .null
          [("principal", .text "bob"), ("hasRole", .bool true)])).outcome t).1) ∧
      (counting.methodContext (some alice) [("this", .int 1), ("permitAll", .int 2)] (some (.int 3)) none).Denotes
        "this" (.int 3) := by
  have hread : ((Guard.ofText "principal == 'alice' and hasRole('USER') and hasPermission(1, 'read')"
      Guard.defaultLabel).toOption.map fun g => decide g.expr.UsesBuiltins) = some true := by decide +kernel
  obtain ⟨g, hg, hbuiltins⟩ := Option.map_eq_some_iff.mp hread
  obtain ⟨halike, _, hspecial⟩ := builtins_kept counting (some alice)
  refine ⟨g, except_ok_of_toOption hg, ?_, ?_⟩
  · intro s t
    obtain ⟨r, s', t', hx, hy, _⟩ := halike _ counting_steady g (of_decide_eq_true hbuiltins) _ _ .common
      (.web .null [("principal", .text "bob"), ("hasRole", .bool true)] (by decide))
      s t trivial
    rw [hx, hy]
  · exact (hspecial [("this", .int 1), ("permitAll", .int 2)] (some (.int 3)) none (by decide)).1.this _ rfl
      (by rintro ⟨⟩)

end Handler

end AccessPolicy
