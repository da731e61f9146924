import AccessPolicy.Proofs.Binding
import AccessPolicy.Proofs.Grounded
import AccessPolicy.Proofs.KnownNames
import AccessPolicy.Proofs.Protocol
import AccessPolicy.Proofs.Routing

/-!
Guards that were accepted. What the check of a guard lets it use is what every later evaluation of it offers:
in each slot of a callable at the phase that the slot belongs to, and in each route for the requests that
find it.
-/

namespace AccessPolicy

variable {σ : Type}

/-- The handler with other answers to methods. -/
def Handler.answering (h : Handler σ) (send : Object → String → List Value → Bindings → Run σ Value) :
    Handler σ :=
  { h with send }

namespace Attachment

variable {h : Handler σ}

theorem compile_ok {c : Callable} {slots : Slots} {arguments : List String} {slot : Slot} {g : Guard}
    (hg : compile h c slots arguments slot = .ok (some g)) :
    h.validate g (arguments ++ slotNames slot) false = .ok () := by
  unfold compile at hg
  split at hg
  next => cases hg
  next =>
    obtain ⟨_, _, hg⟩ := except_bind_ok hg
    obtain ⟨_, hv, hg⟩ := except_bind_ok hg
    cases hg
    exact hv

theorem configured_ok {α : Type} {x : Except Misconfiguration α} {v : α} (hx : configured x = .ok v) :
    x = .ok v := by
  cases x with
  | ok w => cases hx; rfl
  | error f => cases hx

/-- The guards of an attachment were checked with the names of the arguments and those of their slots. -/
theorem of_ok {rs : List NameResolver} {c : Callable} {slots : Slots} {hasTarget : Bool} {a : Attachment}
    (ha : of h rs c slots hasTarget = .ok a) :
    Binder.of rs c = .ok a.binder ∧
      ∀ slot g, a.guard? slot = some g →
        h.validate g (argumentNames a.binder hasTarget ++ slotNames slot) false = .ok () := by
  unfold of at ha
  obtain ⟨binder, hb, ha⟩ := except_bind_ok ha
  obtain ⟨preFilter, hpf, ha⟩ := except_bind_ok ha
  dsimp only at ha
  split at ha
  all_goals
    obtain ⟨filterTarget, _, ha⟩ := except_bind_ok ha
    obtain ⟨preAuthorize, hpa, ha⟩ := except_bind_ok ha
    obtain ⟨postAuthorize, hqa, ha⟩ := except_bind_ok ha
    obtain ⟨postFilter, hqf, ha⟩ := except_bind_ok ha
    cases ha
    refine ⟨configured_ok hb, ?_⟩
    intro slot g hg
    cases slot with
    | preAuthorize => cases hg; exact compile_ok hpa
    | preFilter => cases hg; exact compile_ok hpf
    | postAuthorize => cases hg; exact compile_ok hqa
    | postFilter => cases hg; exact compile_ok hqf

/-- Where every name of a parameter has a value, so has every name that guards may use of a call: the
parameters' names, the object that the call is made on, and what it returned. -/
theorem context_resolves {a : Attachment} {this returned : Option Value} (who : Option Authentication)
    {args : Arguments} {hasTarget : Bool} (htarget : hasTarget = true → ∃ v, this = some v ∧ v ≠ .null)
    (hnames : ∀ n ∈ a.binder.names.map Prod.fst, n ∈ Bindings.names (a.binder.bindings args)) {n : String}
    (hn : n ∈ h.knownNames
      (argumentNames a.binder hasTarget ++ returned.elim [] fun _ => ["returnValue"]) false) :
    (a.context h this who args returned).Resolves n := by
  refine Handler.methodContext_resolves who ?_ hn
  intro m hm
  rcases List.mem_append.mp hm with hm | hm
  · rcases List.mem_append.mp hm with hm | hm
    · exact .inl (hnames m hm)
    · split at hm
      next ht => exact .inr (.inl ⟨List.mem_singleton.mp hm, htarget ht⟩)
      next => cases hm
  · cases returned with
    | none => cases hm
    | some v => exact .inr (.inr ⟨List.mem_singleton.mp hm, v, rfl⟩)

end Attachment

namespace Protocol

def Phase.arguments? : Phase → Option Arguments
  | .start args | .preAuthorized args | .ready args | .invoked args _ | .postFiltered args _ => some args
  | .ended _ => none

variable {h : Handler σ} {a : Attachment} {this : Option Value} {who : Option Authentication}
  {body : Arguments → Run σ Value}

theorem step_names {c d : Progress σ} (hs : Step h a this who body c d) {args : Arguments}
    (hd : d.phase.arguments? = some args) :
    ∃ earlier, c.phase.arguments? = some earlier ∧ args.names = earlier.names := by
  cases hs with
  | authorize _ | run _ | screen _ =>
    cases hd
    exact ⟨_, rfl, rfl⟩
  | narrow hn =>
    cases hd
    exact ⟨_, rfl, (narrowing_others hn).1⟩
  | refuse _ | unnarrowed _ | fail _ | unscreened _ | release _ | withhold _ => cases hd

theorem reaches_names {arguments : Arguments} {s : σ} {c : Progress σ}
    (hr : Reaches h a this who body ⟨.start arguments, s, []⟩ c) {args : Arguments}
    (hc : c.phase.arguments? = some args) : args.names = arguments.names := by
  induction hr generalizing args with
  | refl => cases hc; rfl
  | tail _ hs ih =>
    obtain ⟨earlier, he, hn⟩ := step_names hs hc
    rw [hn, ih he]

variable (h a this who)

/-- The contexts in which the guard of a slot is evaluated while a call is in a phase: filters are evaluated
for every element, and what comes after the body sees what it returned. -/
inductive Consults : Phase → Slot → Context σ → Prop
  | preAuthorize {args} :
      Consults (.start args) .preAuthorize (a.context h this who args none)
  | preFilter {args element} :
      Consults (.preAuthorized args) .preFilter
        ((a.context h this who args none).withVariables [(elementName, element)])
  | postFilter {args v element} :
      Consults (.invoked args v) .postFilter
        ((a.context h this who args (some v)).withVariables [(elementName, element)])
  | postAuthorize {args v} :
      Consults (.postFiltered args v) .postAuthorize (a.context h this who args (some v))

variable {h a this who}

theorem Consults.decide {p : Phase} {slot : Slot} {ctx : Context σ} (hc : Consults h a this who p slot ctx) :
    ctx.decide = (h.subject who).decide .null := by
  cases hc <;> rfl

/-- Where the guard of a slot is evaluated, the names of arguments have values, and so have those of the
object that the call is made on and of the slot. -/
theorem Consults.resolves {p : Phase} {slot : Slot} {ctx : Context σ}
    (hc : Consults h a this who p slot ctx) {hasTarget : Bool}
    (htarget : hasTarget = true → ∃ v, this = some v ∧ v ≠ .null)
    (hnames : ∀ args, p.arguments? = some args →
      ∀ n ∈ a.binder.names.map Prod.fst, n ∈ Bindings.names (a.binder.bindings args))
    {n : String}
    (hn : n ∈ h.knownNames (Attachment.argumentNames a.binder hasTarget ++ Attachment.slotNames slot) false) :
    ctx.Resolves n := by
  cases hc with
  | preAuthorize =>
    exact Attachment.context_resolves who htarget (hnames _ rfl) hn
  | preFilter =>
    refine Context.resolves_withVariables ?_
    rcases Handler.mem_knownNames_append.mp hn with hn | hn
    · rw [← List.append_nil (Attachment.argumentNames _ _)] at hn
      exact .inl (Attachment.context_resolves who htarget (hnames _ rfl) hn)
    · exact .inr hn
  | postFilter =>
    refine Context.resolves_withVariables ?_
    rw [show Attachment.slotNames .postFilter = ["returnValue"] ++ [elementName] from rfl,
      ← List.append_assoc] at hn
    rcases Handler.mem_knownNames_append.mp hn with hn | hn
    · exact .inl (Attachment.context_resolves who htarget (hnames _ rfl) hn)
    · exact .inr hn
  | postAuthorize =>
    exact Attachment.context_resolves who htarget (hnames _ rfl) hn

end Protocol

/-- A guard that binds no name is grounded where all names have values that it was checked with. -/
theorem Handler.grounded_of_validated {h : Handler σ} {g : Guard} {extra : List String} {web : Bool}
    (hv : h.validate g extra web = .ok ()) (hbinds : ∀ n, .bound n ∉ g.expr.mentions)
    {ctx : Context σ} {who : Option Authentication} {request : Value}
    (hdecide : ctx.decide = (h.subject who).decide request)
    (hknown : ∀ n ∈ h.knownNames extra web, ctx.Resolves n) : g.Grounded ctx := by
  obtain ⟨hnames, hevaluator⟩ := Handler.validate_ok hv
  have hread : ∀ n, .read n ∈ g.expr.mentions → n ∈ g.names := by
    intro n hn
    exact Expr.mem_freeNames.mpr ⟨hn, hbinds n⟩
  refine Guard.grounded_of hdecide ?_ ?_
  · intro n hn
    exact hknown n (hnames n (hread n hn))
  · intro hn
    exact hevaluator (hread _ hn)

/-- The evaluations that are made of the guards that a handler accepted: of the guard of a slot while a call
of its callable is under way, and of the guard of the rule that a request finds. Methods of objects may be
answered in another way by then. -/
inductive Evaluated (h : Handler σ) : Guard → Context σ → Prop
  | inCall {rs : List NameResolver} {c : Callable} {slots : Slots} {hasTarget : Bool} {a : Attachment}
      {this : Option Value} {who : Option Authentication}
      {send : Object → String → List Value → Bindings → Run σ Value} {body : Arguments → Run σ Value}
      {args : List Value} {named : Bindings} {arguments : Arguments} {s : σ} {p : Protocol.Progress σ}
      {slot : Slot} {g : Guard} {ctx : Context σ} :
      Attachment.of h rs c slots hasTarget = .ok a →
      (hasTarget = true → ∃ v, this = some v ∧ v ≠ .null) →
      a.binder.bind args named = .ok arguments →
      Protocol.Reaches (h.answering send) a this who body ⟨.start arguments, s, []⟩ p →
      Protocol.Consults (h.answering send) a this who p.phase slot ctx →
      a.guard? slot = some g → Evaluated h g ctx
  | forRequest {policy : Policy} {routes : Routes} {credentials : CredentialNames} {path method : String}
      {send : Object → String → List Value → Bindings → Run σ Value} {who : Option Authentication}
      {request : Value} :
      Rules.routesOf h policy = .ok routes →
      Evaluated h (routes.find path method).guard
        (Rules.context ⟨credentials, h.answering send, routes⟩ who request (routes.find path method))

/-- A guard that binds no name and that was accepted, in a slot or in a rule, fails for want of nothing, in
any evaluation that is made of it. -/
theorem accepted_guards_grounded (h : Handler σ) {g : Guard} {ctx : Context σ} (he : Evaluated h g ctx)
    (hbinds : ∀ n, .bound n ∉ g.expr.mentions) : g.Grounded ctx := by
  cases he with
  | @inCall _ _ _ hasTarget a _ who send _ _ _ arguments _ p slot _ _ ha htarget hb hr hc hg =>
    obtain ⟨hbinder, hslots⟩ := Attachment.of_ok ha
    refine Handler.grounded_of_validated (hslots slot g hg) hbinds hc.decide ?_
    intro n hn
    refine hc.resolves htarget ?_ hn
    intro args hargs m hm
    have hnames : args.names = a.binder.parameters.map (·.name) :=
      (Protocol.reaches_names hr hargs).trans (Parameter.bind_names hb)
    exact Binder.mem_names_bindings hbinder hnames hm
  | @forRequest _ routes _ path method send who request hroutes =>
    refine Handler.grounded_of_validated (Rules.find_validated hroutes path method) hbinds rfl ?_
    intro n hn
    refine Handler.webContext_resolves (h := h.answering send) who request ?_
    rw [show Bindings.names _ = _ from List.map_map]
    exact hn

/-- A handler that answers every permission question with no. -/
def refusingHandler : Handler Unit where
  evaluator := some .denyAll
  send _ _ _ _ := throw (.operand .wrongType)

def readCallable : Callable where
  name := "read"
  declared := some [⟨"document", .normal, none, .absent, []⟩]

def readSlots : Slots where
  preAuthorize := some (.plain "hasPermission(document, 'read') and isAuthenticated()")

def Mention.isRead : Mention → Bool
  | .read _ => true
  | .bound _ => false

theorem read_guard_grounded :
    ∃ a g arguments, Attachment.of refusingHandler NameResolver.standard readCallable readSlots false = .ok a ∧
      a.preAuthorize = some g ∧ a.binder.bind [.int 1] [] = .ok arguments ∧
      g.Grounded (a.context refusingHandler none none arguments none) := by
  have hread : ((Attachment.of refusingHandler NameResolver.standard readCallable readSlots false).toOption.bind
      fun a => a.preAuthorize.map fun g =>
        (g.expr.mentions.all Mention.isRead, (a.binder.bind [.int 1] []).toOption.isSome)) =
      some (true, true) := by
    decide +kernel
  cases ha : Attachment.of refusingHandler NameResolver.standard readCallable readSlots false with
  | error f => simp [ha, Except.toOption] at hread
  | ok a =>
    cases hg : a.preAuthorize with
    | none => simp [ha, hg, Except.toOption] at hread
    | some g =>
      cases hb : a.binder.bind [.int 1] [] with
      | error f => simp [ha, hg, hb, Except.toOption] at hread
      | ok arguments =>
        simp only [ha, hg, hb, Except.toOption, Option.bind_some, Option.map_some, Option.isSome_some,
          Option.some.injEq, Prod.mk.injEq, and_true, List.all_eq_true] at hread
        refine ⟨a, g, arguments, rfl, hg, hb, ?_⟩
        have hr : Protocol.Reaches (refusingHandler.answering refusingHandler.send) a none none
            (fun _ => pure .null) ⟨.start arguments, (), []⟩ ⟨.start arguments, (), []⟩ := .refl
        have he : Evaluated refusingHandler g (a.context refusingHandler none none arguments none) :=
          .inCall ha (by simp) hb hr .preAuthorize hg
        exact accepted_guards_grounded refusingHandler he fun n hn => absurd (hread _ hn) (by simp [Mention.isRead])

end AccessPolicy
