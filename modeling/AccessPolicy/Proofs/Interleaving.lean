import Mathlib.Logic.Relation
import AccessPolicy.Proofs.HiddenTitles
import AccessPolicy.Proofs.Readings

/-!
Calls that come between the two parts of another one. A call is checked and then acts, and the documents may be
others by then: one that the check found may be gone, and its id may be that of a later one. What a call does is
under the command of its caller as long as no id that it was let pass for was given out in between.
-/

namespace AccessPolicy

variable {σ : Type}

namespace Proxy

/-- The first part of a secured call: the arguments that the guards before it leave. -/
def check (p : Proxy σ) (h : Handler σ) (c : Call) : Run σ Arguments :=
  match p.secured.lookup c.method with
  | none => throw (.operand .noSuchAttribute)
  | some a => do
    let arguments ← Run.attempt (a.binder.bind c.args c.named)
    a.before (Method.lend p.methods p.target h) (some (.object p.target)) c.who arguments

/-- The second part: its body, and the guards after it. -/
def act (p : Proxy σ) (h : Handler σ) (c : Call) (arguments : Arguments) : Run σ Value :=
  match p.secured.lookup c.method, p.methods.find? (·.name == c.method) with
  | some a, some m => do
    let returned ← m.body arguments
    a.after (Method.lend p.methods p.target h) (some (.object p.target)) c.who arguments returned
  | _, _ => throw (.operand .noSuchAttribute)

end Proxy

namespace Documents

open Handler (caller)

section Parts

variable {h : Handler Store} {p : Proxy Store} {m : Method Store} {c : Call} {arguments : Arguments}

/-- A call of an operation is nothing but these two parts. -/
theorem call_parts (hp : service h = .ok p) (hc : c.method ∈ operations.map (·.name)) :
    p.call h c.who c.method c.args c.named = (do p.act h c (← p.check h c)) := by
  obtain ⟨who, method, args, named⟩ := c
  obtain ⟨m, hm, rfl⟩ := List.mem_map.mp hc
  obtain ⟨a, ha, hlookup, hfind, hmethods, htarget⟩ := secured_of hp hm
  obtain ⟨a', ha', hcall⟩ := call_secured hp hm
  cases ha.symm.trans ha'
  unfold Proxy.check Proxy.act
  rw [hcall, hlookup, hfind, hmethods, htarget]
  simp only [Attachment.invoke, bind_assoc]
  rfl

theorem check_bound (hp : service h = .ok p) (hm : m ∈ operations) (hmethod : c.method = m.name)
    (hb : Parameter.bind (m.callable.parameters.getD []) c.args c.named = .ok arguments) :
    (Bindings.names arguments).Nodup ∧
      ∃ a, Attachment.of h NameResolver.standard m.callable m.slots true = .ok a ∧ p.check h c = (do
        Attachment.demand (callContext h c.who arguments none) a.preAuthorize
        a.narrow (callContext h c.who arguments none) arguments) := by
  obtain ⟨hn, a, ha, hcontext, _⟩ := call_bound hp hm hb
  obtain ⟨a', ha', hlookup, _, hmethods, htarget⟩ := secured_of hp hm
  cases ha.symm.trans ha'
  refine ⟨hn, a, ha, ?_⟩
  unfold Proxy.check Binder.bind
  rw [hmethod, hlookup, hmethods, htarget]
  dsimp only
  rw [parameters_of ha, hb, Run.attempt_ok, pure_bind, Protocol.before_eq]
  exact congrArg (fun ctx => do Attachment.demand ctx a.preAuthorize; a.narrow ctx arguments) (hcontext none c.who)

theorem act_unguarded (hp : service h = .ok p) (hm : m ∈ operations) (hmethod : c.method = m.name)
    (hscreen : m.slots.postFilter = none) (hpost : m.slots.postAuthorize = none) :
    p.act h c arguments = m.body arguments := by
  obtain ⟨a, ha, hlookup, hfind, hmethods, htarget⟩ := secured_of hp hm
  have hnoscreen : a.postFilter = none := Attachment.guard?_none .postFilter ha hscreen
  have hnopost : a.postAuthorize = none := Attachment.guard?_none .postAuthorize ha hpost
  unfold Proxy.act
  rw [hmethod, hlookup, hfind]
  simp only [Attachment.after, hnoscreen, Attachment.screen, hnopost, Attachment.demand, pure_bind, bind_pure]

theorem check_demanded {text : String} {q : Plain} {x : Run Store Bool} (hp : service h = .ok p) (hm : m ∈ operations)
    (hmethod : c.method = m.name) (hs : m.slots = { preAuthorize := some (.plain text) })
    (hq : Guard.readsAs text q = true)
    (hb : Parameter.bind (m.callable.parameters.getD []) c.args c.named = .ok arguments)
    (hx : (Bindings.names arguments).Nodup →
      (guardOf m .preAuthorize text q).Decides (callContext h c.who arguments none) x) :
    p.check h c = (do if ← x then pure arguments else throw .accessDenied) := by
  obtain ⟨hn, a, ha, hcheck⟩ := check_bound hp hm hmethod hb
  have hpre : a.preAuthorize = some (guardOf m .preAuthorize text q) :=
    Attachment.guard?_plain .preAuthorize ha (by rw [hs]; rfl) hq
  have hnarrow : a.preFilter = none := Attachment.guard?_none .preFilter ha (by rw [hs]; rfl)
  rw [hcheck, hpre]
  simp only [Attachment.narrow, hnarrow]
  exact (hx hn).demand_then _

end Parts

/-- Arguments that were let pass, for a change that is left to be made. -/
inductive Ready : String → Arguments → Change → Prop
  | create {arguments owner title confidential}
      (howner : arguments.lookup "owner" = some (.text owner))
      (htitle : arguments.lookup "title" = some (.text title))
      (hconfidential : arguments.lookup "confidential" = some (.bool confidential)) :
      Ready "create" arguments (.create owner title confidential)
  | rename {arguments v id title}
      (hid : arguments.lookup "document_id" = some v) (hv : Denotes v id)
      (htitle : arguments.lookup "title" = some (.text title)) : Ready "rename" arguments (.rename id title)
  | deleteMany {arguments vs ids}
      (hids : arguments.lookup "document_ids" = some (.list vs)) (hvs : List.Forall₂ Denotes vs ids) :
      Ready "delete_many" arguments (.deleteMany ids)

namespace Change

/-- The ids of the documents that a change renames or deletes. -/
def targets : Change → List Int
  | .create .. => []
  | .rename n _ => [n]
  | .deleteMany ids => ids

/-- The store after a change. -/
def applied : Change → Store → Store
  | .create owner title confidential, s => (s.add title owner confidential).1
  | .rename n title, s => s.rename n title
  | .deleteMany ids, s => s.remove ids

variable {change : Change} {s : Store}

theorem applied_keyed (hs : s.Keyed) : (change.applied s).Keyed := by
  cases change with
  | create owner title confidential => exact hs.appended nextId_fresh
  | rename n title =>
    rw [applied, rename_eq]
    exact hs.retitled n title
  | deleteMany ids =>
    rw [applied, remove_eq]
    exact hs.filtered _

/-- Documents after a change are new, or were there with the same id and owner. -/
theorem mem_applied {e : Document} (he : e ∈ (change.applied s).documents) :
    e.id ∉ s.documents.map (·.id) ∨ ∃ d ∈ s.documents, d.id = e.id ∧ d.owner = e.owner := by
  cases change with
  | create owner title confidential =>
    rcases List.mem_append.mp he with he | he
    · exact .inr ⟨e, he, rfl, rfl⟩
    · cases List.mem_singleton.mp he
      left
      intro hmem
      obtain ⟨d, hd, hid⟩ := List.mem_map.mp hmem
      exact nextId_fresh d hd hid
  | rename n title =>
    obtain ⟨d, hd, rfl⟩ := List.mem_map.mp he
    refine .inr ⟨d, hd, ?_⟩
    split <;> exact ⟨rfl, rfl⟩
  | deleteMany ids => exact .inr ⟨e, List.mem_of_mem_filter he, rfl, rfl⟩

theorem mem_applied_of_not_target {d : Document} (hd : d ∈ s.documents) (hnot : d.id ∉ change.targets) :
    d ∈ (change.applied s).documents := by
  cases change with
  | create owner title confidential => exact List.mem_append_left _ hd
  | rename n title =>
    have hne : d.id ≠ n := fun heq => hnot (List.mem_singleton.mpr heq)
    rw [applied, rename_eq]
    exact List.mem_map.mpr ⟨d, hd, if_neg hne⟩
  | deleteMany ids =>
    rw [applied, remove_eq]
    exact List.mem_filter.mpr ⟨hd, decide_eq_true hnot⟩

end Change

section Outcomes

variable {h : Handler Store} {p : Proxy Store} {c : Call} {change : Change} {s : Store} {arguments : Arguments}

theorem rename_missing {n : Int} {title : String} (hn : s.document? n = none) : s.rename n title = s := by
  have hnone : ∀ d ∈ s.documents, d.id ≠ n := by simpa [Store.document?] using hn
  have hsame : (s.documents.map fun e => if e.id = n then { e with title } else e) = s.documents := by
    refine (List.map_congr_left fun d hd => ?_).trans (List.map_id _)
    exact if_neg (hnone d hd)
  rw [rename_eq, hsame]

theorem remove_found (ids : List Int) :
    s.remove ((s.documents.map (·.id)).filter (ids.contains ·)) = s.remove ids := by
  have hsame : (s.documents.filter fun d => d.id ∉ (s.documents.map (·.id)).filter (ids.contains ·)) =
      s.documents.filter fun d => d.id ∉ ids := by
    refine List.filter_congr fun d hd => decide_eq_decide.mpr (not_congr ?_)
    rw [List.mem_filter, List.contains_iff_mem]
    exact and_iff_right (List.mem_map_of_mem hd)
  rw [remove_eq, remove_eq, hsame]

/-- The second part makes the change that its arguments are for, whoever owns the documents by then. -/
theorem outcome_act (hp : service h = .ok p) (hready : Ready c.method arguments change) :
    ∃ r, (p.act h c arguments).outcome s = (r, change.applied s) := by
  obtain ⟨who, method, args, named⟩ := c
  cases hready with
  | create howner htitle hconfidential =>
    rw [act_unguarded (m := operations[4]) hp (List.getElem_mem _) rfl rfl rfl]
    exact ⟨_, outcome_create howner htitle hconfidential⟩
  | @rename _ v n title hid hv htitle =>
    rw [act_unguarded (m := operations[5]) hp (List.getElem_mem _) rfl rfl rfl]
    cases hd : s.document? n with
    | some d =>
      have hid' : d.id = n := by simpa using List.find?_some hd
      subst hid'
      exact ⟨_, outcome_rename hid hv htitle hd⟩
    | none =>
      have hexisting : (existing v).outcome s = (.error (.documentNotFound v), s) := by
        rw [outcome_existing, existed_denoted hv, hd]
        rfl
      refine ⟨.error (.documentNotFound v), ?_⟩
      rw [Change.applied, rename_missing hd]
      change (rename arguments).outcome s = _
      unfold rename
      rw [hid]
      exact Run.outcome_bind_error hexisting _
  | @deleteMany _ vs ids hids hvs =>
    rw [act_unguarded (m := operations[6]) hp (List.getElem_mem _) rfl rfl rfl]
    have hremoved := outcome_deleteMany (s := s) hids hvs
    rw [remove_found] at hremoved
    exact ⟨_, hremoved⟩

/-- What a check comes to: arguments for a change that the caller may make at that moment, or a refusal. -/
inductive CheckResult (c : Call) (s : Store) : Change → Except Failure Arguments → Prop
  | create {owner title confidential arguments} (may : MayOwn c.who owner)
      (ready : Ready c.method arguments (.create owner title confidential)) :
      CheckResult c s (.create owner title confidential) (.ok arguments)
  | uncreated {owner title confidential} (not : ¬MayOwn c.who owner) :
      CheckResult c s (.create owner title confidential) (.error .accessDenied)
  | rename {id title arguments} (may : ∃ d ∈ s.documents, d.id = id ∧ Commands c.who d)
      (ready : Ready c.method arguments (.rename id title)) : CheckResult c s (.rename id title) (.ok arguments)
  | unrenamed {id title} (not : ∀ d ∈ s.documents, d.id = id → ¬Commands c.who d) :
      CheckResult c s (.rename id title) (.error .accessDenied)
  | deleteMany {ids kept arguments} (may : (caller c.who).isFullyAuthenticated = true)
      (ready : Ready c.method arguments (.deleteMany kept))
      (exact : ∀ n, n ∈ kept ↔ n ∈ ids ∧ ∃ d ∈ s.documents, d.id = n ∧ Commands c.who d) :
      CheckResult c s (.deleteMany ids) (.ok arguments)
  | undeleted {ids} (not : (caller c.who).isFullyAuthenticated = false) :
      CheckResult c s (.deleteMany ids) (.error .accessDenied)

theorem outcome_demanded {x : Run Store Bool} {b : Bool} (hx : x.outcome s = (.ok b, s)) :
    (do if ← x then pure arguments else throw .accessDenied : Run Store Arguments).outcome s =
      (if b then .ok arguments else .error .accessDenied, s) := by
  rw [Run.outcome_bind_ok hx]
  cases b <;> rfl

/-- The first part changes nothing, and decides as the documents are at that moment. -/
theorem outcome_check (hj : h.JudgesDocuments) (hp : service h = .ok p) (hs : s.Keyed) (asks : Asks c change) :
    ∃ r, (p.check h c).outcome s = (r, s) ∧ CheckResult c s change r := by
  cases asks with
  | @create who args named arguments owner title confidential bound howner htitle hconfidential =>
    rw [check_demanded (c := ⟨who, "create", args, named⟩) (m := operations[4]) hp (List.getElem_mem _) rfl rfl
      reads_own bound fun hn => decides_own hn operations[4] howner]
    refine ⟨_, outcome_demanded (Run.outcome_pure _ _), ?_⟩
    split
    next may => exact .create (mayOwn_iff.mp may) (.create howner htitle hconfidential)
    next may => exact .uncreated (mt mayOwn_iff.mpr may)
  | @rename who args named arguments v n title bound hid hv htitle =>
    have hjudged : (judged who v (.text "write")).outcome s = (.ok (commanded s who n), s) := by
      rw [outcome_judged, judgement_denoted hv (.inl rfl)]
    rw [check_demanded (c := ⟨who, "rename", args, named⟩) (m := operations[5]) hp (List.getElem_mem _) rfl rfl
      reads_write bound fun hn => decides_write hj hn operations[5] hid]
    refine ⟨_, outcome_demanded hjudged, ?_⟩
    split
    next may => exact .rename ((commanded_iff hs).mp may) (.rename hid hv htitle)
    next may => exact .unrenamed fun d hd hdid hcommands => may ((commanded_iff hs).mpr ⟨d, hd, hdid, hcommands⟩)
  | @deleteMany who args named arguments vs ids bound hids hvs =>
    obtain ⟨hn, a, ha, hcheck⟩ := check_bound (c := ⟨who, "delete_many", args, named⟩) (m := operations[6]) hp
      (List.getElem_mem _) rfl bound
    rw [hcheck, admit_deleteMany hj ha hn hids]
    split
    next full =>
      obtain ⟨kept, hkept, hdenoted⟩ := outcome_kept who s hvs
      have hfiltered : (Value.filtered (fun v => judged who v (.text "delete")) (.list vs)).outcome s =
          (.ok (.list kept), s) := Run.outcome_bind_ok hkept _
      have hassigned : (Bindings.assign "document_ids" (.list kept) arguments).lookup "document_ids" =
          some (.list kept) := by
        rw [Bindings.lookup_assign, if_pos rfl]
      refine ⟨_, Run.outcome_bind_ok hfiltered _, .deleteMany full (.deleteMany hassigned hdenoted) fun n => ?_⟩
      rw [List.mem_filter, commanded_iff hs]
    next full => exact ⟨_, rfl, .undeleted (Bool.eq_false_iff.mpr full)⟩

/-- What is let pass is a change of documents that the caller commands. -/
theorem CheckResult.commands (hs : s.Keyed) (hr : CheckResult c s change (.ok arguments)) :
    ∃ ready, Ready c.method arguments ready ∧ ∀ d ∈ s.documents, d.id ∈ ready.targets → Commands c.who d := by
  cases hr with
  | create _ ready => exact ⟨_, ready, fun d _ hd => absurd hd List.not_mem_nil⟩
  | rename may ready =>
    refine ⟨_, ready, fun d hd htarget => ?_⟩
    obtain ⟨e, he, hid, hcommands⟩ := may
    rw [same_document hs hd he ((List.mem_singleton.mp htarget).trans hid.symm)]
    exact hcommands
  | deleteMany _ ready exact =>
    refine ⟨_, ready, fun d hd htarget => ?_⟩
    obtain ⟨_, e, he, hid, hcommands⟩ := (exact d.id).mp htarget
    rw [same_document hs hd he hid.symm]
    exact hcommands

end Outcomes

/-- A call that was let pass and has not acted, and the ids that were given to new documents since. -/
structure Pending where
  call : Call
  arguments : Arguments
  issued : List Int := []

namespace Pending

/-- The call once the documents are others. -/
def seeing (q : Pending) (before after : Store) : Pending :=
  { q with issued := q.issued ++ (after.documents.map (·.id)).filter fun n => n ∉ before.documents.map (·.id) }

end Pending

/-- The documents and the calls that are under way at some moment. -/
structure Moment where
  store : Store
  pending : List Pending := []

/-- What can happen next: a call is let pass or refused, or one of those that were let pass acts. -/
inductive Step (p : Proxy Store) (h : Handler Store) : Moment → Moment → Prop
  | passes {m : Moment} {c : Call} {change : Change} {arguments : Arguments} {s : Store} (asks : Asks c change)
      (check : (p.check h c).outcome m.store = (.ok arguments, s)) :
      Step p h m ⟨s, ⟨c, arguments, []⟩ :: m.pending⟩
  | refused {m : Moment} {c : Call} {change : Change} {f : Failure} {s : Store} (asks : Asks c change)
      (check : (p.check h c).outcome m.store = (.error f, s)) : Step p h m ⟨s, m.pending⟩
  | acts {m : Moment} {before after : List Pending} {q : Pending} {r : Except Failure Value} {s : Store}
      (one : m.pending = before ++ q :: after) (act : (p.act h q.call q.arguments).outcome m.store = (r, s)) :
      Step p h m ⟨s, (before ++ after).map (·.seeing m.store s)⟩

def Reaches (p : Proxy Store) (h : Handler Store) : Moment → Moment → Prop := Relation.ReflTransGen (Step p h)

/-- Whether the arguments of a call are for a change of documents that its caller commands, but for those whose ids
were given out since the call was let pass. -/
def Pending.Sound (q : Pending) (s : Store) : Prop :=
  ∃ change, Ready q.call.method q.arguments change ∧
    ∀ d ∈ s.documents, d.id ∈ change.targets → d.id ∉ q.issued → Commands q.call.who d

/-- What holds at every moment. -/
structure Moment.Sound (m : Moment) : Prop where
  keyed : m.store.Keyed
  pending : ∀ q ∈ m.pending, q.Sound m.store

section Runs

variable {h : Handler Store} {p : Proxy Store} {m m' : Moment} {q : Pending} {s : Store}

theorem Commands.of_owner {who : Option Authentication} {d e : Document} (hd : Commands who d)
    (howner : d.owner = e.owner) : Commands who e := by
  obtain ⟨a, hwho, hproved, hmay⟩ := hd
  exact ⟨a, hwho, hproved, howner ▸ hmay⟩

/-- What another call does to the documents leaves this one as sound as it was. -/
theorem Pending.Sound.seeing (hq : q.Sound s) (change : Change) :
    (q.seeing s (change.applied s)).Sound (change.applied s) := by
  obtain ⟨own, hready, hcommands⟩ := hq
  refine ⟨own, hready, fun e he htarget hissued => ?_⟩
  obtain ⟨hold, hnew⟩ := not_or.mp (mt List.mem_append.mpr hissued)
  rcases change.mem_applied he with hfresh | ⟨d, hd, hid, howner⟩
  · have hin : e.id ∈ (change.applied s).documents.map (·.id) := List.mem_map_of_mem he
    exact absurd (List.mem_filter.mpr ⟨hin, decide_eq_true hfresh⟩) hnew
  · exact (hcommands d hd (hid ▸ htarget) (hid ▸ hold)).of_owner howner

/-- One step keeps what holds at every moment. -/
theorem Step.sound (hj : h.JudgesDocuments) (hp : service h = .ok p) (step : Step p h m m') (hm : m.Sound) :
    m'.Sound := by
  cases step with
  | @passes c change arguments s asks check =>
    obtain ⟨r, hr, hresult⟩ := outcome_check hj hp hm.keyed asks
    cases hr.symm.trans check
    obtain ⟨left, ready, hcommands⟩ := hresult.commands hm.keyed
    refine ⟨hm.keyed, fun q hq => ?_⟩
    rcases List.mem_cons.mp hq with rfl | hq
    · exact ⟨left, ready, fun d hd htarget _ => hcommands d hd htarget⟩
    · exact hm.pending q hq
  | @refused c change f s asks check =>
    obtain ⟨r, hr, _⟩ := outcome_check hj hp hm.keyed asks
    cases hr.symm.trans check
    exact hm
  | @acts before after q r s one act =>
    have hmem (q' : Pending) (hq' : q' ∈ before ++ after) : q' ∈ m.pending := by
      rw [one]
      rcases List.mem_append.mp hq' with hq' | hq'
      · exact List.mem_append_left _ hq'
      · exact List.mem_append_right _ (List.mem_cons_of_mem q hq')
    obtain ⟨change, ready, _⟩ := hm.pending q (one ▸ List.mem_append_right _ List.mem_cons_self)
    obtain ⟨r', hr'⟩ := outcome_act (s := m.store) hp ready
    cases hr'.symm.trans act
    refine ⟨change.applied_keyed hm.keyed, fun q' hq' => ?_⟩
    obtain ⟨q₀, hq₀, rfl⟩ := List.mem_map.mp hq'
    exact (hm.pending q₀ (hmem q₀ hq₀)).seeing change

theorem Reaches.sound (hj : h.JudgesDocuments) (hp : service h = .ok p) (run : Reaches p h m m') (hm : m.Sound) :
    m'.Sound := by
  induction run with
  | refl => exact hm
  | tail _ step ih => exact step.sound hj hp ih

/-- However the parts of calls come one after another, the act of each one renames or deletes only documents that
its caller commands at that moment, but for documents that were given the id of a checked one since the check. All
other documents stay as they are. -/
theorem commanded_unless_reissued (hj : h.JudgesDocuments) (hp : service h = .ok p) (hs : s.Keyed)
    (run : Reaches p h ⟨s, []⟩ m) (hq : q ∈ m.pending) :
    ∃ change r, Ready q.call.method q.arguments change ∧
      (p.act h q.call q.arguments).outcome m.store = (r, change.applied m.store) ∧
      ∀ d ∈ m.store.documents,
        (d.id ∈ change.targets → d.id ∉ q.issued → Commands q.call.who d) ∧
        (d.id ∉ change.targets → d ∈ (change.applied m.store).documents) := by
  have hm : m.Sound := run.sound hj hp ⟨hs, fun q hq => absurd hq List.not_mem_nil⟩
  obtain ⟨change, ready, hcommands⟩ := hm.pending q hq
  obtain ⟨r, hact⟩ := outcome_act (s := m.store) hp ready
  exact ⟨change, r, ready, hact, fun d hd => ⟨hcommands d hd, change.mem_applied_of_not_target hd⟩⟩

end Runs

section Reissue

variable {h : Handler Store} {p : Proxy Store} {m : Moment} {c : Call} {change : Change}

theorem Step.of_unrefused (hj : h.JudgesDocuments) (hp : service h = .ok p) (hs : m.store.Keyed) (asks : Asks c change)
    (may : ¬CheckResult c m.store change (.error .accessDenied)) :
    ∃ arguments, CheckResult c m.store change (.ok arguments) ∧
      Step p h m ⟨m.store, ⟨c, arguments, []⟩ :: m.pending⟩ := by
  obtain ⟨r, hr, hresult⟩ := outcome_check hj hp hs asks
  cases r with
  | ok arguments => exact ⟨arguments, hresult, .passes asks hr⟩
  | error f =>
    have hf : f = .accessDenied := by cases hresult <;> rfl
    exact absurd (hf ▸ hresult) may

theorem Step.of_ready (hp : service h = .ok p) {q : Pending} {rest : List Pending} (last : m.pending = q :: rest)
    (ready : Ready q.call.method q.arguments change) :
    Step p h m ⟨change.applied m.store, rest.map (·.seeing m.store (change.applied m.store))⟩ := by
  obtain ⟨r, hr⟩ := outcome_act (s := m.store) hp ready
  have one : m.pending = [] ++ q :: rest := last
  exact .acts one hr

/-- A user is about to rename a document of her own. -/
def carolsRename : Call := ⟨some carol, "rename", [.int 5, .text "Mine"], []⟩

theorem carolsRename_asks : Asks carolsRename (.rename 5 "Mine") := .rename rfl rfl ⟨rfl, rfl⟩ rfl

theorem carol_commands : ∃ d ∈ Store.demo.documents, d.id = 5 ∧ Commands (some carol) d :=
  ⟨⟨5, "Quarterly plan", "carol", false⟩, by decide, rfl, carol, rfl, rfl, .inr rfl⟩

theorem carolsRename_passes (hp : service plainHandler = .ok p) :
    ∃ arguments, Ready "rename" arguments (.rename 5 "Mine") ∧
      Step p plainHandler ⟨Store.demo, []⟩ ⟨Store.demo, [⟨carolsRename, arguments, []⟩]⟩ := by
  have may : ¬CheckResult carolsRename Store.demo (.rename 5 "Mine") (.error .accessDenied) := by
    intro hresult
    obtain ⟨d, hd, hid, hcommands⟩ := carol_commands
    cases hresult with
    | unrenamed not => exact not d hd hid hcommands
  obtain ⟨arguments, hresult, step⟩ := Step.of_unrefused (m := ⟨Store.demo, []⟩) plainHandler_judges hp
    Store.Tabled.of_demo.keyed carolsRename_asks may
  cases hresult with
  | rename _ ready => exact ⟨arguments, ready, step⟩

/-- While nothing else happens, it is hers when the renaming acts. -/
theorem commanded_unless_reissued_demo :
    ∃ p, service plainHandler = .ok p ∧ Store.demo.Keyed ∧ ∃ q, q.call = carolsRename ∧
      Reaches p plainHandler ⟨Store.demo, []⟩ ⟨Store.demo, [q]⟩ ∧
      ∃ change r, Ready q.call.method q.arguments change ∧
        (p.act plainHandler q.call q.arguments).outcome Store.demo = (r, change.applied Store.demo) ∧
        ∀ d ∈ Store.demo.documents,
          (d.id ∈ change.targets → d.id ∉ q.issued → Commands q.call.who d) ∧
          (d.id ∉ change.targets → d ∈ (change.applied Store.demo).documents) := by
  obtain ⟨p, hp⟩ : ∃ p, service plainHandler = .ok p := service_available rfl
  obtain ⟨arguments, _, step⟩ := carolsRename_passes hp
  have run : Reaches p plainHandler ⟨Store.demo, []⟩ ⟨Store.demo, [⟨carolsRename, arguments, []⟩]⟩ := .single step
  exact ⟨p, hp, Store.Tabled.of_demo.keyed, ⟨carolsRename, arguments, []⟩, rfl, run,
    commanded_unless_reissued plainHandler_judges hp Store.Tabled.of_demo.keyed run List.mem_cons_self⟩

/-- In the meantime another call of hers deletes it, and somebody else creates one. -/
def carolsDeletion : Call := ⟨some carol, "delete_many", [.list [.int 5]], []⟩

def bobsCreation : Call := ⟨some bob, "create", [.text "bob", .text "x"], []⟩

theorem carolsDeletion_passes (hp : service plainHandler = .ok p) (pending : List Pending) :
    ∃ arguments kept, Ready "delete_many" arguments (.deleteMany kept) ∧ (∀ n, n ∈ kept ↔ n = 5) ∧
      Step p plainHandler ⟨Store.demo, pending⟩ ⟨Store.demo, ⟨carolsDeletion, arguments, []⟩ :: pending⟩ := by
  have asks : Asks carolsDeletion (.deleteMany [5]) := .deleteMany rfl rfl (.cons ⟨rfl, rfl⟩ .nil)
  have may : ¬CheckResult carolsDeletion Store.demo (.deleteMany [5]) (.error .accessDenied) := by
    intro hresult
    cases hresult with
    | undeleted not => exact absurd not (by decide)
  obtain ⟨arguments, hresult, step⟩ := Step.of_unrefused (m := ⟨Store.demo, pending⟩) plainHandler_judges hp
    Store.Tabled.of_demo.keyed asks may
  cases hresult with
  | @deleteMany _ kept _ _ ready exact =>
    refine ⟨arguments, kept, ready, fun n => (exact n).trans ?_, step⟩
    rw [List.mem_singleton]
    constructor
    · rintro ⟨rfl, _⟩
      rfl
    · rintro rfl
      exact ⟨rfl, carol_commands⟩

theorem bobsCreation_passes (hp : service plainHandler = .ok p) (hm : m.store.Keyed) :
    ∃ arguments, Ready "create" arguments (.create "bob" "x" false) ∧
      Step p plainHandler m ⟨m.store, ⟨bobsCreation, arguments, []⟩ :: m.pending⟩ := by
  have asks : Asks bobsCreation (.create "bob" "x" false) := .create rfl rfl rfl rfl
  have may : ¬CheckResult bobsCreation m.store (.create "bob" "x" false) (.error .accessDenied) := by
    intro hresult
    cases hresult with
    | uncreated not => exact not ⟨rfl, rfl⟩
  obtain ⟨arguments, hresult, step⟩ := Step.of_unrefused plainHandler_judges hp hm asks may
  cases hresult with
  | create _ ready => exact ⟨arguments, ready, step⟩

/-- The documents after that. -/
def reissued : Store := ((Store.demo.remove [5]).add "x" "bob" false).1

theorem reissue_run (hp : service plainHandler = .ok p) :
    ∃ q, q.call = carolsRename ∧ Ready "rename" q.arguments (.rename 5 "Mine") ∧
      Reaches p plainHandler ⟨Store.demo, []⟩ ⟨reissued, [q]⟩ := by
  obtain ⟨renamed, hrename, step₁⟩ := carolsRename_passes hp
  let q : Pending := ⟨carolsRename, renamed, []⟩
  obtain ⟨deleted, kept, hdelete, hkept, step₂⟩ := carolsDeletion_passes hp [q]
  have hleft : (Change.deleteMany kept).applied Store.demo = Store.demo.remove [5] := by
    have hsame : (Store.demo.documents.filter fun d => d.id ∉ kept) = Store.demo.documents.filter fun d => d.id ∉ [5] :=
      List.filter_congr fun d _ => decide_eq_decide.mpr (not_congr ((hkept d.id).trans List.mem_singleton.symm))
    rw [Change.applied, remove_eq, remove_eq, hsame]
  have step₃ : Step p plainHandler ⟨Store.demo, [⟨carolsDeletion, deleted, []⟩, q]⟩
      ⟨Store.demo.remove [5], [q.seeing Store.demo (Store.demo.remove [5])]⟩ :=
    hleft ▸ Step.of_ready (m := ⟨Store.demo, [⟨carolsDeletion, deleted, []⟩, q]⟩) hp rfl hdelete
  have hkeyed : (Store.demo.remove [5]).Keyed := Store.Tabled.of_demo.keyed.filtered _
  obtain ⟨created, hcreate, step₄⟩ := bobsCreation_passes
    (m := ⟨Store.demo.remove [5], [q.seeing Store.demo (Store.demo.remove [5])]⟩) hp hkeyed
  have step₅ : Step p plainHandler ⟨Store.demo.remove [5], [⟨bobsCreation, created, []⟩,
      q.seeing Store.demo (Store.demo.remove [5])]⟩
      ⟨reissued, [(q.seeing Store.demo (Store.demo.remove [5])).seeing (Store.demo.remove [5]) reissued]⟩ :=
    Step.of_ready (m := ⟨Store.demo.remove [5], [⟨bobsCreation, created, []⟩, _]⟩) hp rfl hcreate
  exact ⟨_, rfl, hrename, ((((Relation.ReflTransGen.single step₁).tail step₂).tail step₃).tail step₄).tail step₅⟩

/-- Her call then renames his document, which has the id of hers: what a check found does not hold for the act. -/
theorem reissued_id_renamed :
    ∃ p, service plainHandler = .ok p ∧ ∃ m q d, Reaches p plainHandler ⟨Store.demo, []⟩ m ∧ q ∈ m.pending ∧
      q.call = carolsRename ∧ d ∈ m.store.documents ∧ ¬Commands q.call.who d ∧
      d ∉ ((p.act plainHandler q.call q.arguments).outcome m.store).2.documents := by
  obtain ⟨p, hp⟩ : ∃ p, service plainHandler = .ok p := service_available rfl
  obtain ⟨q, hcall, ready, run⟩ := reissue_run hp
  have hforeign : ¬Commands (some carol) ⟨5, "x", "bob", false⟩ := by
    rintro ⟨a, ⟨⟩, _, hadmin | hname⟩
    · exact absurd hadmin (by decide)
    · exact absurd hname (by decide)
  have hrenamed : (⟨5, "x", "bob", false⟩ : Document) ∉ (reissued.rename 5 "Mine").documents := by decide
  obtain ⟨r, hact⟩ := outcome_act (c := carolsRename) (s := reissued) hp ready
  refine ⟨p, hp, ⟨reissued, [q]⟩, q, ⟨5, "x", "bob", false⟩, run, List.mem_cons_self, hcall, ?_, ?_, ?_⟩
  · exact (by decide : (⟨5, "x", "bob", false⟩ : Document) ∈ reissued.documents)
  · rw [hcall]
    exact hforeign
  · rw [hcall, hact]
    exact hrenamed

end Reissue

end Documents

end AccessPolicy
