import AccessPolicy.Proofs.Operations

/-!
Titles that are hidden. Whoever is not an administrator cannot tell by any calls of the operations what the
titles of other people's confidential documents are: tables that differ in these titles only give the same
results, and go on to differ in such titles only.
-/

namespace AccessPolicy.Documents

open Handler (caller)

variable {who : Option Authentication} {d e : Document} {s t : Store}

/-- Whether an identity owns a document. Nobody in particular owns nothing. -/
def Owns (who : Option Authentication) (d : Document) : Prop :=
  ∃ a, who = some a ∧ a.anonymous = false ∧ a.name = some d.owner

/-- An identity that is no administrator's. -/
def Ordinary (who : Option Authentication) : Prop := ∀ a, who = some a → adminAuthority ∉ a.authorities

/-- Two versions of a document that differ at most in a title that is hidden from an identity. -/
structure Veils (who : Option Authentication) (d e : Document) : Prop where
  id : d.id = e.id
  owner : d.owner = e.owner
  confidential : d.confidential = e.confidential
  title : d.title = e.title ∨ d.confidential = true ∧ ¬Owns who d

/-- Two stores whose documents differ at most in titles that are hidden from an identity. -/
def Veiled (who : Option Authentication) (s t : Store) : Prop :=
  List.Forall₂ (Veils who) s.documents t.documents

/-- Ordinary callers read what is not confidential and what they own. -/
theorem open_of_readable (hwho : Ordinary who) (hr : readable who d = true) :
    d.confidential = false ∨ Owns who d := by
  cases who with
  | none => cases hr
  | some a =>
    have hadmin : a.holds adminAuthority = false := by
      simpa [Authentication.holds] using hwho a rfl
    simp only [readable, decide, caller, Option.getD_some, hadmin, equal_text, beq_self_eq_true] at hr
    cases ha : a.anonymous with
    | true => simp [ha] at hr
    | false =>
      simp only [ha, Bool.false_eq_true, ↓reduceIte, Bool.or_eq_true, Bool.not_eq_true'] at hr
      rcases hr with hown | hopen
      · exact .inr ⟨a, rfl, ha, (equal_name _ _).mp hown⟩
      · exact .inl hopen

namespace Veils

theorem decide_eq (hv : Veils who d e) (asker : Option Authentication) (permission : Value) :
    decide asker (.text d.owner) d.confidential permission = decide asker (.text e.owner) e.confidential permission := by
  rw [hv.owner, hv.confidential]

theorem readable_eq (hv : Veils who d e) : readable who d = readable who e := hv.decide_eq _ _

theorem eq_of_readable (hv : Veils who d e) (hwho : Ordinary who) (hr : readable who d = true) : d = e := by
  have htitle : d.title = e.title := by
    rcases hv.title with heq | ⟨hconfidential, hforeign⟩
    · exact heq
    · rcases open_of_readable hwho hr with hopen | hown
      · rw [hopen] at hconfidential
        cases hconfidential
      · exact absurd hown hforeign
  obtain ⟨id, title, owner, confidential⟩ := d
  obtain ⟨rfl, rfl, rfl, _⟩ := hv
  exact congrArg (Document.mk _ · _ _) htitle

theorem retitled (hv : Veils who d e) (title : String) : { d with title } = { e with title } := by
  rw [hv.id, hv.owner, hv.confidential]

end Veils

theorem filter_veiled {P : Document → Bool} (hP : ∀ d e, Veils who d e → P d = P e) {ds es : List Document}
    (h : List.Forall₂ (Veils who) ds es) : List.Forall₂ (Veils who) (ds.filter P) (es.filter P) := by
  induction h with
  | nil => exact .nil
  | @cons d e ds es hv _ ih =>
    rw [List.filter_cons, List.filter_cons, hP d e hv]
    split
    · exact .cons hv ih
    · exact ih

/-- What an ordinary caller may read of two lists of documents is the same. -/
theorem filter_readable_eq (hwho : Ordinary who) {ds es : List Document} (h : List.Forall₂ (Veils who) ds es) :
    ds.filter (readable who) = es.filter (readable who) := by
  induction h with
  | nil => rfl
  | @cons d e ds es hv _ ih =>
    rw [List.filter_cons, List.filter_cons, ← hv.readable_eq, ih]
    split
    next hr => rw [hv.eq_of_readable hwho hr]
    next => rfl

theorem find_veiled {ds es : List Document} (h : List.Forall₂ (Veils who) ds es) (n : Int) :
    ds.find? (fun d => d.id == n) = none ∧ es.find? (fun d => d.id == n) = none ∨
      ∃ d e, ds.find? (fun d => d.id == n) = some d ∧ es.find? (fun d => d.id == n) = some e ∧ Veils who d e := by
  induction h with
  | nil => exact .inl ⟨rfl, rfl⟩
  | @cons d e ds es hv _ ih =>
    rw [List.find?_cons, List.find?_cons, ← hv.id]
    split
    next => exact .inr ⟨d, e, rfl, rfl, hv⟩
    next => exact ih

theorem ids_veiled {ds es : List Document} (h : List.Forall₂ (Veils who) ds es) :
    ds.map (·.id) = es.map (·.id) := by
  induction h with
  | nil => rfl
  | cons hv _ ih => rw [List.map_cons, List.map_cons, hv.id, ih]

namespace Veiled

theorem ids_eq (h : Veiled who s t) : s.documents.map (·.id) = t.documents.map (·.id) := ids_veiled h

theorem document? (h : Veiled who s t) (n : Int) :
    s.document? n = none ∧ t.document? n = none ∨
      ∃ d e, s.document? n = some d ∧ t.document? n = some e ∧ Veils who d e :=
  find_veiled h n

theorem existed (h : Veiled who s t) (id : Value) :
    (∃ f, existed s id = .error f ∧ existed t id = .error f) ∨
      ∃ d e, existed s id = .ok d ∧ existed t id = .ok e ∧ Veils who d e := by
  cases hid : Store.keyOf id >>= Store.idOf with
  | error f => exact .inl ⟨f, by rw [Documents.existed, hid]; rfl, by rw [Documents.existed, hid]; rfl⟩
  | ok n =>
    cases n with
    | none => exact .inl ⟨_, by rw [Documents.existed, hid]; rfl, by rw [Documents.existed, hid]; rfl⟩
    | some n =>
      rw [existed_number hid, existed_number hid]
      rcases h.document? n with ⟨hs, ht⟩ | ⟨d, e, hs, ht, hv⟩
      · rw [hs, ht]
        exact .inl ⟨_, rfl, rfl⟩
      · rw [hs, ht]
        exact .inr ⟨d, e, rfl, rfl, hv⟩

theorem judgement_eq (h : Veiled who s t) (asker : Option Authentication) (id permission : Value) :
    judgement s asker id permission = judgement t asker id permission := by
  have hmay : mayUseById s (some (caller asker)) id permission = mayUseById t (some (caller asker)) id permission := by
    rw [mayUseById_eq, mayUseById_eq]
    cases hn : wholeOrNone id with
    | error f =>
      unfold lookUp
      rw [hn]
      rfl
    | ok n =>
      cases n with
      | none =>
        unfold lookUp
        rw [hn]
        rfl
      | some n =>
        rw [lookUp_number hn, lookUp_number hn]
        split
        next =>
          rcases h.document? n with ⟨hs, ht⟩ | ⟨d, e, hs, ht, hv⟩
          · rw [hs, ht]
          · rw [hs, ht]
            exact congrArg Except.ok (hv.decide_eq (some (caller asker)) permission)
        next => rfl
  unfold judgement
  rw [hmay]

theorem add (h : Veiled who s t) (title owner : String) (confidential : Bool) :
    (s.add title owner confidential).2 = (t.add title owner confidential).2 ∧
      Veiled who (s.add title owner confidential).1 (t.add title owner confidential).1 := by
  have hid : s.nextId = t.nextId := by
    unfold Store.nextId
    rw [h.ids_eq]
  unfold Store.add
  rw [hid]
  exact ⟨rfl, List.rel_append h (.cons ⟨rfl, rfl, rfl, .inl rfl⟩ .nil)⟩

theorem rename (h : Veiled who s t) (id : Int) (title : String) : Veiled who (s.rename id title) (t.rename id title) := by
  refine List.rel_map ?_ h
  intro d e hv
  dsimp only
  rw [hv.id]
  split
  · exact ⟨rfl, hv.owner, hv.confidential, .inl rfl⟩
  · exact hv

theorem of_retitled {n : Int} (hidden : ∀ d ∈ s.documents, d.id = n → d.confidential = true ∧ ¬Owns who d)
    (title : String) : Veiled who s (s.rename n title) := by
  refine List.forall₂_map_right_iff.mpr (List.forall₂_same.mpr fun d hd => ?_)
  split
  next hid => exact ⟨rfl, rfl, rfl, .inr (hidden d hd (beq_iff_eq.mp hid))⟩
  next => exact ⟨rfl, rfl, rfl, .inl rfl⟩

theorem remove (h : Veiled who s t) (ids : List Int) : Veiled who (s.remove ids) (t.remove ids) :=
  filter_veiled (fun d e hv => by rw [hv.id]) h

end Veiled

/-- Whether a computation cannot tell stores apart that differ in hidden titles only, and goes on to leave
only such differences. -/
abbrev Blind {α : Type} (who : Option Authentication) (x : Run Store α) : Prop :=
  x.Alike (Veiled who) (fun _ => True) x

section Blindness

variable {α β : Type} {x : Run Store α}

theorem blind_of_reading {f : Store → Except Failure α} (hx : ∀ s, x.outcome s = (f s, s))
    (hf : ∀ s t, Veiled who s t → f s = f t) : Blind who x := by
  intro s t hw
  exact ⟨f s, s, t, hx s, by rw [hx, hf s t hw], hw, fun _ _ => trivial⟩

theorem blind_bind {k : α → Run Store β} (hx : Blind who x) (hk : ∀ a, Blind who (k a)) : Blind who (x >>= k) :=
  Run.Alike.bind hx fun a _ => hk a

theorem blind_pure (a : α) : Blind who (pure a) := .pure trivial

theorem blind_ofExcept (r : Except Failure α) : Blind who (Run.ofExcept r) :=
  blind_of_reading (f := fun _ => r) (Run.outcome_ofExcept r) fun _ _ _ => rfl

theorem blind_attempt (r : Attempt α) : Blind who (Run.attempt r) := .attempt fun _ _ => trivial

theorem blind_judged (asker : Option Authentication) (id permission : Value) : Blind who (judged asker id permission) :=
  blind_of_reading (outcome_judged asker id permission) fun _ _ h => h.judgement_eq asker id permission

theorem blind_keepM {keep : α → Run Store Bool} (h : ∀ a, Blind who (keep a)) (as : List α) :
    Blind who (keepM keep as) := by
  induction as with
  | nil => exact blind_pure []
  | cons a as ih => exact blind_bind (h a) fun b => blind_bind ih fun rest => blind_pure _

theorem blind_forSet {keep : Value → Run Store Bool} (h : ∀ v, Blind who (keep v)) (v : Value) :
    Blind who (forSet keep v) := by
  refine blind_bind (h v) fun kept => ?_
  split
  · exact blind_bind (.throw _) fun _ => blind_pure _
  · exact blind_pure _

theorem blind_filtered {keep : Value → Run Store Bool} (h : ∀ v, Blind who (keep v)) (v : Value) :
    Blind who (v.filtered keep) := by
  unfold Value.filtered
  split
  next => exact blind_pure _
  next => exact blind_bind (blind_keepM (fun _ => h _) _) fun kept => blind_pure _
  next => exact blind_bind (blind_keepM h _) fun kept => blind_pure _
  next => exact blind_bind (blind_keepM h _) fun kept => blind_pure _
  next => exact blind_bind (blind_keepM h _) fun kept => blind_pure _
  next => exact blind_bind (blind_keepM h _) fun kept => blind_pure _
  next => exact blind_bind (blind_keepM (blind_forSet h) _) fun kept => blind_pure _
  next => exact blind_bind (blind_keepM (blind_forSet h) _) fun kept => blind_pure _
  next =>
    split
    · refine blind_bind (blind_attempt _) fun items => blind_bind (blind_keepM h items) fun kept => ?_
      split <;> exact blind_pure _
    · exact .throw _

theorem blind_mapM {f : α → Run Store β} (h : ∀ a, Blind who (f a)) (as : List α) : Blind who (as.mapM f) := by
  induction as with
  | nil => exact blind_pure []
  | cons a as ih =>
    rw [List.mapM_cons]
    exact blind_bind (h a) fun b => blind_bind ih fun bs => blind_pure _

theorem blind_modify {f : Store → Store} (h : ∀ s t, Veiled who s t → Veiled who (f s) (f t)) :
    Blind who (modify f : Run Store PUnit) :=
  fun s t hw => ⟨.ok ⟨⟩, f s, f t, rfl, rfl, h s t hw, fun _ _ => trivial⟩

/-- What goes on with a document that is there is the same for both of its versions. -/
theorem blind_existing {k : Document → Run Store α}
    (hk : ∀ d e, Veils who d e → Run.Alike (Veiled who) (fun _ => True) (k d) (k e)) (id : Value) :
    Blind who (existing id >>= k) := by
  intro s t hw
  rw [Run.outcome_bind, Run.outcome_bind, outcome_existing, outcome_existing]
  rcases hw.existed id with ⟨f, hs, ht⟩ | ⟨d, e, hs, ht, hv⟩
  · rw [hs, ht]
    exact ⟨.error f, s, t, rfl, rfl, hw, by rintro _ ⟨⟩⟩
  · rw [hs, ht]
    exact hk d e hv s t hw

theorem blind_readable (hwho : Ordinary who) (k : List Document → α) {c : List Document → List Document}
    (hc : ∀ ds es, List.Forall₂ (Veils who) ds es → List.Forall₂ (Veils who) (c ds) (c es)) :
    Blind who (do return k ((c (← get).documents).filter (readable who))) :=
  blind_of_reading (f := fun s => .ok (k ((c s.documents).filter (readable who)))) (fun _ => rfl)
    fun _ _ hw => congrArg (fun ds => Except.ok (k ds)) (filter_readable_eq hwho (hc _ _ hw))

theorem blind_ids {k : List Int → Run Store α} (hk : ∀ ids, Blind who (k ids)) :
    Blind who (do k ((← get).documents.map (·.id))) := by
  have hids : Blind who (do return (← get).documents.map (·.id)) :=
    blind_of_reading (f := fun s => .ok (s.documents.map (·.id))) (fun _ => rfl)
      fun s t hw => congrArg Except.ok hw.ids_eq
  have hk' := blind_bind hids hk
  simpa only [bind_assoc, pure_bind] using hk'

end Blindness

theorem answered_blind (d : Document) (title : Value) : Blind who (answered d title) := by
  unfold answered
  split
  · exact blind_pure _
  · exact .throw _

theorem create_blind (arguments : Arguments) : Blind who (create arguments) := by
  unfold create
  refine blind_bind (blind_ofExcept _) fun confidential => blind_bind (blind_ofExcept _) fun title => ?_
  refine blind_bind (blind_ofExcept _) fun owner => ?_
  intro s t hw
  obtain ⟨hd, hw'⟩ := hw.add title owner confidential
  obtain ⟨r, s', t', hs, ht, hst⟩ := answered_blind (s.add title owner confidential).2 _ _ _ hw'
  exact ⟨r, s', t', hs, by rw [hd] at ht; exact ht, hst⟩

theorem rename_blind (arguments : Arguments) : Blind who (rename arguments) := by
  unfold rename
  refine blind_existing (fun d e hv => ?_) _
  refine Run.Alike.bind (blind_ofExcept _) fun title _ => ?_
  rw [hv.retitled, hv.id]
  exact blind_bind (blind_modify fun s t hw => hw.rename e.id title) fun _ => answered_blind _ _

theorem deleteMany_blind (arguments : Arguments) : Blind who (deleteMany arguments) := by
  unfold deleteMany
  dsimp only
  split
  · exact blind_pure _
  · refine blind_bind (blind_attempt _) fun items => ?_
    refine blind_bind (blind_mapM (fun v => blind_ofExcept _) items) fun ids => ?_
    let found (ns : List Int) : List Int := ns.filter fun n => ids.contains (some n)
    refine blind_ids (k := fun ns => do modify (·.remove (found ns)); return Value.list ((found ns).map .int)) fun ns => ?_
    exact blind_bind (blind_modify fun s t hw => hw.remove (found ns)) fun _ => blind_pure _

section Calls

variable {h : Handler Store} {p : Proxy Store}

/-- One step: whatever an ordinary caller calls tells it nothing of hidden titles. -/
theorem call_blind (hj : h.JudgesDocuments) (hp : service h = .ok p) (hwho : Ordinary who) (name : String)
    (args : List Value) (named : Bindings) : Blind who (p.call h who name args named) := by
  by_cases hname : name ∈ operations.map (·.name)
  · obtain ⟨m, hm, rfl⟩ := List.mem_map.mp hname
    cases hb : Parameter.bind (m.callable.parameters.getD []) args named with
    | error f =>
      rw [call_unbound hp hm hb]
      exact .throw _
    | ok arguments =>
      simp only [operations, List.mem_cons, List.not_mem_nil, or_false] at hm
      rcases hm with rfl | rfl | rfl | rfl | rfl | rfl | rfl
      · refine (call_list hj hp hb who).symm ▸ ?_
        exact blind_readable hwho documentList (c := id) fun _ _ hw => hw
      · refine (call_listForOwner hj hp hb who).symm ▸ ?_
        split
        next => exact blind_pure _
        next => exact blind_bind (blind_ofExcept _) fun owner =>
            blind_readable hwho documentList fun ds es hw => filter_veiled (fun d e hv => by rw [hv.owner]) hw
      · refine (call_index hj hp hb who).symm ▸ ?_
        exact blind_readable hwho (fun ds => Value.dict (ds.map fun d => (.int d.id, .document d))) (c := id) fun _ _ hw => hw
      · refine (call_fetch hj hp hb who).symm ▸ ?_
        refine blind_existing (fun d e hv => ?_) _
        rw [← hv.readable_eq]
        split
        next hr =>
          rw [hv.eq_of_readable hwho hr]
          exact blind_pure _
        next => exact .throw _
      · refine (call_create hp hb who).symm ▸ ?_
        split
        next => exact create_blind arguments
        next => exact .throw _
      · refine (call_rename hj hp hb who).symm ▸ ?_
        refine blind_bind (blind_judged who _ _) fun b => ?_
        split
        next => exact rename_blind arguments
        next => exact .throw _
      · refine (call_deleteMany hj hp hb who).symm ▸ ?_
        split
        next =>
          exact blind_bind (blind_filtered (fun id => blind_judged who id _) _) fun ids => deleteMany_blind _
        next => exact .throw _
  · obtain ⟨f, hf⟩ := call_unknown hp hname who
    rw [hf]
    exact .throw f

/-- Hidden titles stay hidden: an ordinary caller gets the same results and failures by all its calls, one
after another, from stores that differ in hidden titles only. -/
theorem hidden_titles_unseen (hj : h.JudgesDocuments) (hp : service h = .ok p) (hwho : Ordinary who)
    {calls : List Call} (hcalls : ∀ c ∈ calls, c.who = who) (hw : Veiled who s t) :
    (p.callAll h calls s).1 = (p.callAll h calls t).1 ∧
      Veiled who (p.callAll h calls s).2 (p.callAll h calls t).2 := by
  induction calls generalizing s t with
  | nil => exact ⟨rfl, hw⟩
  | cons c calls ih =>
    obtain ⟨hc, hcalls⟩ := List.forall_mem_cons.mp hcalls
    obtain ⟨r, s', t', hs, ht, hw', _⟩ := call_blind hj hp hwho c.method c.args c.named s t hw
    obtain ⟨hresults, hleft⟩ := ih hcalls hw'
    simp only [Proxy.callAll, hc, hs, ht]
    exact ⟨congrArg (r :: ·) hresults, hleft⟩

end Calls

/-- A member of the staff. -/
def carol : Authentication := .of "carol" ["ROLE_STAFF", "audit:read"] .null false []

def callsOfCarol : List Call :=
  [⟨some carol, "list_documents", [], []⟩, ⟨some carol, "delete_many", [.list [.int 2, .int 5, .int 5]], []⟩,
   ⟨some carol, "create", [.text "carol", .text "Minutes", .bool true], []⟩, ⟨some carol, "index", [], []⟩]

/-- What is told about salaries does not show in what the staff gets to see. -/
theorem hidden_titles_unseen_carol :
    ∃ p, service plainHandler = .ok p ∧ Ordinary (some carol) ∧
      Store.demo.documents ≠ (Store.demo.rename 2 "Pay cuts").documents ∧
      Veiled (some carol) Store.demo (Store.demo.rename 2 "Pay cuts") ∧
      (p.callAll plainHandler callsOfCarol Store.demo).1 =
        (p.callAll plainHandler callsOfCarol (Store.demo.rename 2 "Pay cuts")).1 := by
  obtain ⟨p, hp⟩ : ∃ p, service plainHandler = .ok p := service_available rfl
  have hwho : Ordinary (some carol) := by
    rintro _ ⟨⟩
    decide
  have hveiled : Veiled (some carol) Store.demo (Store.demo.rename 2 "Pay cuts") := by
    refine Veiled.of_retitled (fun d hd hid => ?_) "Pay cuts"
    have hfacts : ∀ d ∈ Store.demo.documents, d.id = 2 → d.confidential = true ∧ carol.name ≠ some d.owner := by
      decide
    obtain ⟨hconfidential, hname⟩ := hfacts d hd hid
    refine ⟨hconfidential, ?_⟩
    rintro ⟨_, ⟨⟩, _, howner⟩
    exact hname howner
  have hcalls : ∀ c ∈ callsOfCarol, c.who = some carol := by simp [callsOfCarol]
  exact ⟨p, hp, hwho, by decide, hveiled, (hidden_titles_unseen plainHandler_judges hp hwho hcalls hveiled).1⟩

end AccessPolicy.Documents
