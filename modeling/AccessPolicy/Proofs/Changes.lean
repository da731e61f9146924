import Mathlib.Data.List.Nodup
import AccessPolicy.Proofs.Operations

/-!
What the operations that change documents come to. Each call has one of six effects, by which it changes what
its caller commands or refuses and changes nothing, and a run of calls is a run of such effects.
-/

namespace AccessPolicy

/-- Whether the documents of a store have ids of their own. -/
def Store.Keyed (s : Store) : Prop := (s.documents.map (·.id)).Nodup

namespace Store.Keyed

variable {s : Store}

theorem appended (hs : s.Keyed) {d : Document} (fresh : ∀ e ∈ s.documents, e.id ≠ d.id) :
    Store.Keyed { s with documents := s.documents ++ [d] } := by
  have hfresh : ∀ a ∈ s.documents.map (·.id), ∀ b ∈ [d.id], a ≠ b := by
    intro a ha b hb
    obtain ⟨e, he, rfl⟩ := List.mem_map.mp ha
    exact List.mem_singleton.mp hb ▸ fresh e he
  unfold Store.Keyed
  rw [List.map_append]
  exact List.nodup_append.mpr ⟨hs, List.nodup_singleton _, hfresh⟩

theorem retitled (hs : s.Keyed) (n : Int) (title : String) :
    Store.Keyed { s with documents := s.documents.map fun e => if e.id = n then { e with title } else e } := by
  have hids : (s.documents.map fun e => if e.id = n then { e with title } else e).map (·.id) =
      s.documents.map (·.id) := by
    rw [List.map_map]
    refine List.map_congr_left fun e _ => ?_
    dsimp only [Function.comp]
    split <;> rfl
  unfold Store.Keyed
  rwa [hids]

theorem filtered (hs : s.Keyed) (P : Document → Bool) : Store.Keyed { s with documents := s.documents.filter P } :=
  hs.sublist (List.filter_sublist.map _)

end Store.Keyed

namespace Documents

open Handler (caller)

/-- A change that is asked for. -/
inductive Change where
  | create (owner title : String) (confidential : Bool)
  | rename (id : Int) (title : String)
  | deleteMany (ids : List Int)

/-- A value that is a key of documents. -/
def Denotes (v : Value) (n : Int) : Prop := v.index? = some n ∧ Credentials.isKey n = true

/-- The change that a call with arguments of the declared types asks for. -/
inductive Asks : Call → Change → Prop
  | create {who args named arguments owner title confidential}
      (bound : Parameter.bind [parameter "owner" "str" false none, titleParameter,
        parameter "confidential" "bool" false (some (.bool false))] args named = .ok arguments)
      (howner : arguments.lookup "owner" = some (.text owner))
      (htitle : arguments.lookup "title" = some (.text title))
      (hconfidential : arguments.lookup "confidential" = some (.bool confidential)) :
      Asks ⟨who, "create", args, named⟩ (.create owner title confidential)
  | rename {who args named arguments v id title}
      (bound : Parameter.bind [idParameter, titleParameter] args named = .ok arguments)
      (hid : arguments.lookup "document_id" = some v) (hv : Denotes v id)
      (htitle : arguments.lookup "title" = some (.text title)) :
      Asks ⟨who, "rename", args, named⟩ (.rename id title)
  | deleteMany {who args named arguments vs ids}
      (bound : Parameter.bind [parameter "document_ids" "list[int]" true none] args named = .ok arguments)
      (hids : arguments.lookup "document_ids" = some (.list vs)) (hvs : List.Forall₂ Denotes vs ids) :
      Asks ⟨who, "delete_many", args, named⟩ (.deleteMany ids)

/-- Whether an identity may write and delete a document. -/
def Commands (who : Option Authentication) (d : Document) : Prop :=
  ∃ a, who = some a ∧ a.anonymous = false ∧ (adminAuthority ∈ a.authorities ∨ a.name = some d.owner)

/-- Whether an identity may create documents of an owner. -/
def MayOwn (who : Option Authentication) (owner : String) : Prop :=
  (caller who).isFullyAuthenticated = true ∧ (caller who).name = some owner

theorem mayOwn_iff {who : Option Authentication} {owner : String} :
    ((caller who).isFullyAuthenticated && (Value.text owner).equal ((caller who).name.elim .null .text)) = true ↔
      MayOwn who owner := by
  rw [Bool.and_eq_true, equal_name]
  rfl

/-- What a change comes to: its result, and the store after it. -/
inductive Effect (who : Option Authentication) (s : Store) : Change → Except Failure Value → Store → Prop
  | created {d : Document} (may : MayOwn who d.owner) (fresh : ∀ e ∈ s.documents, e.id ≠ d.id) :
      Effect who s (.create d.owner d.title d.confidential) (.ok (.document d))
        { s with documents := s.documents ++ [d] }
  | uncreated {owner title confidential} (not : ¬MayOwn who owner) :
      Effect who s (.create owner title confidential) (.error .accessDenied) s
  | renamed {d : Document} {title} (there : d ∈ s.documents) (may : Commands who d) :
      Effect who s (.rename d.id title) (.ok (.document { d with title }))
        { s with documents := s.documents.map fun e => if e.id = d.id then { e with title } else e }
  | unrenamed {id title} (not : ∀ d ∈ s.documents, d.id = id → ¬Commands who d) :
      Effect who s (.rename id title) (.error .accessDenied) s
  | deleted {ids gone : List Int} (may : (caller who).isFullyAuthenticated = true) (once : gone.Nodup)
      (exact : ∀ n, n ∈ gone ↔ n ∈ ids ∧ ∃ d ∈ s.documents, d.id = n ∧ Commands who d) :
      Effect who s (.deleteMany ids) (.ok (.list (gone.map .int)))
        { s with documents := s.documents.filter fun d => d.id ∉ gone }
  | undeleted {ids} (not : (caller who).isFullyAuthenticated = false) :
      Effect who s (.deleteMany ids) (.error .accessDenied) s

variable {who : Option Authentication} {s t : Store} {change : Change} {r : Except Failure Value}

theorem same_document (hs : s.Keyed) {d e : Document} (hd : d ∈ s.documents) (he : e ∈ s.documents)
    (hid : d.id = e.id) : d = e :=
  List.inj_on_of_nodup_map hs hd he hid

namespace Effect

theorem keyed (h : Effect who s change r t) (hs : s.Keyed) : t.Keyed := by
  cases h with
  | uncreated | unrenamed | undeleted => exact hs
  | created _ fresh => exact hs.appended fresh
  | renamed => exact hs.retitled _ _
  | deleted => exact hs.filtered _

/-- Documents that are left have the owner and the confidentiality that they had. -/
theorem survivors (h : Effect who s change r t) (hs : s.Keyed) {d e : Document} (hd : d ∈ s.documents)
    (he : e ∈ t.documents) (hid : e.id = d.id) : e.owner = d.owner ∧ e.confidential = d.confidential := by
  have hsame {e : Document} (he : e ∈ s.documents) (hid : e.id = d.id) :
      e.owner = d.owner ∧ e.confidential = d.confidential := by
    rw [same_document hs he hd hid]
    exact ⟨rfl, rfl⟩
  cases h with
  | uncreated | unrenamed | undeleted => exact hsame he hid
  | created may fresh =>
    rcases List.mem_append.mp he with he | he
    · exact hsame he hid
    · cases List.mem_singleton.mp he
      exact absurd hid.symm (fresh d hd)
  | renamed there may =>
    obtain ⟨f, hf, rfl⟩ := List.mem_map.mp he
    split at hid
    next hmatch =>
      rw [if_pos hmatch]
      exact hsame (e := f) hf hid
    next hmatch =>
      rw [if_neg hmatch]
      exact hsame hf hid
  | deleted => exact hsame (List.mem_of_mem_filter he) hid

end Effect

section Bodies

variable {arguments : Arguments} {v : Value} {n : Int} {d : Document}

theorem document?_eq_some (hs : s.Keyed) : s.document? n = some d ↔ d ∈ s.documents ∧ d.id = n := by
  constructor
  · intro h
    exact ⟨List.mem_of_find?_eq_some h, by simpa using List.find?_some h⟩
  · rintro ⟨hd, rfl⟩
    cases h : s.document? d.id with
    | none =>
      have hne : ¬(d.id == d.id) = true := List.find?_eq_none.mp h d hd
      exact absurd (beq_self_eq_true d.id) hne
    | some e =>
      have hid : e.id = d.id := by simpa using List.find?_some h
      rw [same_document hs (List.mem_of_find?_eq_some h) hd hid]

theorem commands_iff {permission : String} (hp : permission = "write" ∨ permission = "delete") :
    decide (some (caller who)) (.text d.owner) d.confidential (.text permission) = true ↔ Commands who d := by
  have hread : (permission == "read") = false := by
    rcases hp with rfl | rfl <;> decide
  have hchange : (permission == "write" || permission == "delete") = true := by
    rcases hp with rfl | rfl <;> decide
  cases who with
  | none =>
    constructor
    · rintro ⟨⟩
    · rintro ⟨_, ⟨⟩, _⟩
  | some a =>
    have hdecide : decide (some a) (.text d.owner) d.confidential (.text permission) = true ↔
        a.anonymous = false ∧ (adminAuthority ∈ a.authorities ∨ a.name = some d.owner) := by
      simp only [decide, equal_text, hread, hchange, Bool.false_eq_true, ↓reduceIte]
      cases a.anonymous with
      | true => simp
      | false =>
        have hholds : a.holds adminAuthority = true ↔ adminAuthority ∈ a.authorities := List.contains_iff_mem
        by_cases hadmin : adminAuthority ∈ a.authorities
        · simp [hholds.mpr hadmin, hadmin]
        · simp [mt hholds.mp hadmin, hadmin, equal_name]
    exact hdecide.trans ⟨fun h => ⟨a, rfl, h⟩, fun ⟨_, ha, h⟩ => Option.some.inj ha ▸ h⟩

/-- Whether a key is that of a document that an identity commands. -/
def commanded (s : Store) (who : Option Authentication) (n : Int) : Bool :=
  (s.document? n).any fun d => decide (some (caller who)) (.text d.owner) d.confidential (.text "write")

theorem commanded_iff (hs : s.Keyed) : commanded s who n = true ↔ ∃ d ∈ s.documents, d.id = n ∧ Commands who d := by
  unfold commanded
  rw [Option.any_eq_true]
  simp only [document?_eq_some hs, commands_iff (.inl rfl), and_assoc]

theorem Denotes.number_or_bool (hv : Denotes v n) : v = .int n ∨ ∃ b, v = .bool b := by
  obtain ⟨hindex, _⟩ := hv
  unfold Value.index? at hindex
  split at hindex
  next => exact .inl (congrArg Value.int (Option.some.inj hindex))
  next b => exact .inr ⟨b, rfl⟩
  next => cases hindex

theorem judgement_denoted (hv : Denotes v n) {permission : String}
    (hp : permission = "write" ∨ permission = "delete") :
    judgement s who v (.text permission) = .ok (commanded s who n) := by
  have hwhole : wholeOrNone v = .ok (some n) := by
    unfold wholeOrNone Value.whole
    rw [hv.1]
  unfold judgement commanded
  rw [mayUseById_eq, lookUp_number hwhole, if_pos hv.2]
  cases hd : s.document? n with
  | none => rfl
  | some d =>
    have heq : decide (some (caller who)) (.text d.owner) d.confidential (.text permission) =
        decide (some (caller who)) (.text d.owner) d.confidential (.text "write") :=
      Bool.eq_iff_iff.mpr ((commands_iff hp).trans (commands_iff (.inl rfl)).symm)
    exact congrArg Except.ok heq

theorem idOf_denoted (hv : Denotes v n) : Store.idOf v = .ok (some n) := by
  unfold Store.idOf
  rw [hv.1]
  exact if_pos hv.2

theorem existed_denoted (hv : Denotes v n) :
    existed s v = (s.document? n).elim (.error (.documentNotFound v)) .ok := by
  refine existed_number ?_
  have hkey : Store.keyOf v = .ok v := by
    rcases hv.number_or_bool with rfl | ⟨b, rfl⟩ <;> rfl
  rw [hkey]
  exact idOf_denoted hv

theorem storedBool_bool (b : Bool) : storedBool (.bool b) = .ok b := by
  have hfalse : (Value.bool b).equal (.int 0) = !b := by cases b <;> decide
  have htrue : (Value.bool b).equal (.int 1) = b := by cases b <;> decide
  change (if (Value.bool b).equal (.int 0) then .ok false
    else if (Value.bool b).equal (.int 1) then .ok true else .error (.store .notBoolean) : Except Failure Bool) = _
  rw [hfalse, htrue]
  cases b <;> rfl

theorem outcome_create {owner title : String} {confidential : Bool}
    (howner : arguments.lookup "owner" = some (.text owner))
    (htitle : arguments.lookup "title" = some (.text title))
    (hconfidential : arguments.lookup "confidential" = some (.bool confidential)) :
    (create arguments).outcome s =
      (.ok (.document (s.add title owner confidential).2), (s.add title owner confidential).1) := by
  unfold create
  rw [howner, htitle, hconfidential]
  simp only [Option.getD_some, storedBool_bool, storedText]
  rfl

theorem outcome_rename {title : String} (hid : arguments.lookup "document_id" = some v) (hv : Denotes v n)
    (htitle : arguments.lookup "title" = some (.text title)) (hd : s.document? n = some d) :
    (rename arguments).outcome s = (.ok (.document { d with title }), s.rename d.id title) := by
  have hexisting : (existing v).outcome s = (.ok d, s) := by
    rw [outcome_existing, existed_denoted hv, hd]
    rfl
  unfold rename
  rw [hid, htitle]
  exact (Run.outcome_bind_ok hexisting _).trans rfl

theorem mapM_idOf {vs : List Value} {ids : List Int} (hvs : List.Forall₂ Denotes vs ids) :
    vs.mapM (fun v => Run.ofExcept (σ := Store) (Store.idOf v)) = pure (ids.map some) := by
  induction hvs with
  | nil => rfl
  | cons hv _ ih =>
    rw [List.mapM_cons, idOf_denoted hv, ih]
    rfl

theorem outcome_deleteMany {vs : List Value} {ids : List Int}
    (hids : arguments.lookup "document_ids" = some (.list vs)) (hvs : List.Forall₂ Denotes vs ids) :
    (deleteMany arguments).outcome s =
      (.ok (.list (((s.documents.map (·.id)).filter (ids.contains ·)).map .int)),
        s.remove ((s.documents.map (·.id)).filter (ids.contains ·))) := by
  have hcontains (n : Int) : (ids.map some).contains (some n) = ids.contains n := by
    rw [Bool.eq_iff_iff, List.contains_iff_mem, List.contains_iff_mem]
    simp
  unfold deleteMany
  rw [hids, Option.getD_some]
  cases hvs with
  | nil =>
    have hnone : (s.documents.map (·.id)).filter (List.contains [] ·) = [] := List.filter_eq_nil_iff.mpr (by simp)
    have hall : s.remove [] = s := by
      unfold Store.remove
      rw [List.filter_eq_self.mpr (by simp)]
    rw [hnone, hall]
    rfl
  | @cons v n vs ns hv hvs =>
    have hgiven : ¬(!(Value.list (v :: vs)).truthy) = true := by simp [Value.truthy, Value.size?]
    have hitems : (Run.attempt (Value.list (v :: vs)).items : Run Store (List Value)) = pure (v :: vs) := rfl
    dsimp only
    rw [if_neg hgiven, hitems, pure_bind, mapM_idOf (.cons hv hvs), pure_bind]
    simp only [hcontains]
    rfl

/-- Of the keys in a list, those are kept that are of documents that the caller commands. -/
theorem outcome_kept (who : Option Authentication) (s : Store) {vs : List Value} {ids : List Int}
    (hvs : List.Forall₂ Denotes vs ids) :
    ∃ kept, (keepM (fun v => judged who v (.text "delete")) vs).outcome s = (.ok kept, s) ∧
      List.Forall₂ Denotes kept (ids.filter (commanded s who)) := by
  induction hvs with
  | nil => exact ⟨[], rfl, .nil⟩
  | @cons v n vs ns hv _ ih =>
    obtain ⟨kept, hkept, hall⟩ := ih
    have hjudged : (judged who v (.text "delete")).outcome s = (.ok (commanded s who n), s) := by
      rw [outcome_judged, judgement_denoted hv (.inr rfl)]
    refine ⟨if commanded s who n then v :: kept else kept, ?_, ?_⟩
    · rw [keepM, Run.outcome_bind_ok hjudged, Run.outcome_bind_ok hkept]
      rfl
    · rw [List.filter_cons]
      split
      · exact .cons hv hall
      · exact hall

theorem lt_nextId {e : Document} (he : e ∈ s.documents) : e.id < s.nextId := by
  have hmem : e.id ∈ s.documents.map (·.id) := List.mem_map_of_mem he
  unfold Store.nextId
  cases hmax : (s.documents.map (·.id)).max? with
  | none =>
    rw [List.max?_eq_none_iff.mp hmax] at hmem
    cases hmem
  | some n =>
    have hle : e.id ≤ n := (List.max?_eq_some_iff.mp hmax).2 _ hmem
    rw [Option.elim_some]
    omega

theorem nextId_fresh : ∀ e ∈ s.documents, e.id ≠ s.nextId :=
  fun _ he => Int.ne_of_lt (lt_nextId he)

theorem rename_eq (title : String) : s.rename n title =
    { s with documents := s.documents.map fun e => if e.id = n then { e with title } else e } := by
  simp only [Store.rename, beq_iff_eq]

theorem remove_eq (ids : List Int) : s.remove ids = { s with documents := s.documents.filter fun d => d.id ∉ ids } := by
  simp [Store.remove]

end Bodies

section Calls

variable {h : Handler Store} {p : Proxy Store} {c : Call} {args : List Value} {named : Bindings} {arguments : Arguments}

theorem create_effect (hp : service h = .ok p) {owner title : String} {confidential : Bool}
    (hb : Parameter.bind [parameter "owner" "str" false none, titleParameter,
      parameter "confidential" "bool" false (some (.bool false))] args named = .ok arguments)
    (howner : arguments.lookup "owner" = some (.text owner))
    (htitle : arguments.lookup "title" = some (.text title))
    (hconfidential : arguments.lookup "confidential" = some (.bool confidential)) :
    ∃ r t, (p.call h who "create" args named).outcome s = (r, t) ∧
      Effect who s (.create owner title confidential) r t := by
  have hmay : ((caller who).isFullyAuthenticated &&
      ((arguments.lookup "owner").getD .null).equal ((caller who).name.elim .null .text)) = true ↔
      MayOwn who owner := by
    rw [howner, Option.getD_some]
    exact mayOwn_iff
  rw [call_create hp hb]
  by_cases may : MayOwn who owner
  · rw [if_pos (hmay.mpr may), outcome_create howner htitle hconfidential]
    exact ⟨_, _, rfl, .created (d := ⟨s.nextId, title, owner, confidential⟩) may nextId_fresh⟩
  · rw [if_neg (mt hmay.mp may)]
    exact ⟨_, _, rfl, .uncreated may⟩

theorem rename_effect (hj : h.JudgesDocuments) (hp : service h = .ok p) (hs : s.Keyed) {v : Value} {n : Int}
    {title : String} (hb : Parameter.bind [idParameter, titleParameter] args named = .ok arguments)
    (hid : arguments.lookup "document_id" = some v) (hv : Denotes v n)
    (htitle : arguments.lookup "title" = some (.text title)) :
    ∃ r t, (p.call h who "rename" args named).outcome s = (r, t) ∧ Effect who s (.rename n title) r t := by
  have hjudged : (judged who v (.text "write")).outcome s = (.ok (commanded s who n), s) := by
    rw [outcome_judged, judgement_denoted hv (.inl rfl)]
  rw [call_rename hj hp hb, hid, Option.getD_some, Run.outcome_bind_ok hjudged]
  by_cases may : commanded s who n = true
  · obtain ⟨d, hd, rfl, hcommands⟩ := (commanded_iff hs).mp may
    rw [if_pos may, outcome_rename hid hv htitle ((document?_eq_some hs).mpr ⟨hd, rfl⟩), rename_eq]
    exact ⟨_, _, rfl, .renamed hd hcommands⟩
  · rw [if_neg may]
    have hnot : ∀ d ∈ s.documents, d.id = n → ¬Commands who d := by
      intro d hd hid hcommands
      exact may ((commanded_iff hs).mpr ⟨d, hd, hid, hcommands⟩)
    exact ⟨_, _, rfl, .unrenamed hnot⟩

theorem deleteMany_effect (hj : h.JudgesDocuments) (hp : service h = .ok p) (hs : s.Keyed) {vs : List Value}
    {ids : List Int}
    (hb : Parameter.bind [parameter "document_ids" "list[int]" true none] args named = .ok arguments)
    (hids : arguments.lookup "document_ids" = some (.list vs)) (hvs : List.Forall₂ Denotes vs ids) :
    ∃ r t, (p.call h who "delete_many" args named).outcome s = (r, t) ∧ Effect who s (.deleteMany ids) r t := by
  rw [call_deleteMany hj hp hb, hids, Option.getD_some]
  by_cases may : (caller who).isFullyAuthenticated = true
  · obtain ⟨kept, hkept, hdenoted⟩ := outcome_kept who s hvs
    have hfiltered : (Value.filtered (fun v => judged who v (.text "delete")) (.list vs)).outcome s =
        (.ok (.list kept), s) := Run.outcome_bind_ok hkept _
    have hassigned : (Bindings.assign "document_ids" (.list kept) arguments).lookup "document_ids" = some (.list kept) := by
      rw [Bindings.lookup_assign, if_pos rfl]
    rw [if_pos may, Run.outcome_bind_ok hfiltered, outcome_deleteMany hassigned hdenoted, remove_eq]
    refine ⟨_, _, rfl, .deleted may (hs.filter _) fun n => ?_⟩
    rw [List.mem_filter, List.contains_iff_mem, List.mem_filter, commanded_iff hs]
    constructor
    · rintro ⟨_, hn⟩
      exact hn
    · rintro ⟨hn, d, hd, rfl, hcommands⟩
      exact ⟨List.mem_map_of_mem hd, hn, d, hd, rfl, hcommands⟩
  · rw [if_neg may]
    exact ⟨_, _, rfl, .undeleted (Bool.eq_false_iff.mpr may)⟩

/-- One step: a call that asks for a change has its effect. -/
theorem call_effect (hj : h.JudgesDocuments) (hp : service h = .ok p) (hs : s.Keyed) (hc : Asks c change) :
    ∃ r t, (p.call h c.who c.method c.args c.named).outcome s = (r, t) ∧ Effect c.who s change r t := by
  cases hc with
  | create bound howner htitle hconfidential => exact create_effect hp bound howner htitle hconfidential
  | rename bound hid hv htitle => exact rename_effect hj hp hs bound hid hv htitle
  | deleteMany bound hids hvs => exact deleteMany_effect hj hp hs bound hids hvs

/-- A run of effects, each of which leaves to every document its owner and its confidentiality. -/
inductive Effects : Store → List Call → List Change → List (Except Failure Value) → Store → Prop
  | nil (s : Store) : Effects s [] [] [] s
  | cons {s t u : Store} {c : Call} {change : Change} {r cs changes rs} (effect : Effect c.who s change r t)
      (survivors : ∀ d ∈ s.documents, ∀ e ∈ t.documents, e.id = d.id →
        e.owner = d.owner ∧ e.confidential = d.confidential)
      (rest : Effects t cs changes rs u) : Effects s (c :: cs) (change :: changes) (r :: rs) u

/-- Whoever calls, and however often, each change that is asked for has its very effect. -/
theorem changes_take_effect (hj : h.JudgesDocuments) (hp : service h = .ok p) (hs : s.Keyed) {calls : List Call}
    {changes : List Change} (hcalls : List.Forall₂ Asks calls changes) :
    Effects s calls changes (p.callAll h calls s).1 (p.callAll h calls s).2 := by
  induction hcalls generalizing s with
  | nil => exact .nil s
  | @cons c change calls changes hc _ ih =>
    obtain ⟨r, t, ht, effect⟩ := call_effect hj hp hs hc
    simp only [Proxy.callAll, ht]
    exact .cons effect (fun d hd e he hid => effect.survivors hs hd he hid) (ih (effect.keyed hs))

end Calls

def alice : Authentication := .of "alice" ["ROLE_ADMIN"] .null true []

def bob : Authentication := .of "bob" ["ROLE_USER"] .null false []

/-- Changes that some may make and others may not. -/
def callsForChanges : List Call :=
  [⟨some bob, "create", [.text "bob", .text "Plans"], []⟩, ⟨none, "rename", [.int 4, .text "Gone"], []⟩,
   ⟨some alice, "rename", [.bool true], [("title", .text "Handbook")]⟩,
   ⟨some bob, "delete_many", [.list [.int 3, .int 1, .int 3, .int 9]], []⟩]

theorem callsForChanges_ask : List.Forall₂ Asks callsForChanges
    [.create "bob" "Plans" false, .rename 4 "Gone", .rename 1 "Handbook", .deleteMany [3, 1, 3, 9]] := by
  refine .cons (.create rfl rfl rfl rfl) (.cons (.rename rfl rfl ⟨rfl, rfl⟩ rfl)
    (.cons (.rename rfl rfl ⟨rfl, rfl⟩ rfl) (.cons (.deleteMany rfl rfl ?_) .nil)))
  exact .cons ⟨rfl, rfl⟩ (.cons ⟨rfl, rfl⟩ (.cons ⟨rfl, rfl⟩ (.cons ⟨rfl, rfl⟩ .nil)))

theorem changes_take_effect_demo :
    ∃ p, service plainHandler = .ok p ∧ Store.demo.Keyed ∧
      Effects Store.demo callsForChanges
        [.create "bob" "Plans" false, .rename 4 "Gone", .rename 1 "Handbook", .deleteMany [3, 1, 3, 9]]
        (p.callAll plainHandler callsForChanges Store.demo).1
        (p.callAll plainHandler callsForChanges Store.demo).2 := by
  obtain ⟨p, hp⟩ : ∃ p, service plainHandler = .ok p := service_available rfl
  have hs : Store.demo.Keyed := by
    unfold Store.Keyed
    decide
  exact ⟨p, hp, hs, changes_take_effect plainHandler_judges hp hs callsForChanges_ask⟩

end Documents

end AccessPolicy
