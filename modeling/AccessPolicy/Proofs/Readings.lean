import AccessPolicy.Proofs.Changes

/-!
What the reading operations have in common. They see the same documents of a table: what one of them answers to a
caller is answered by all of them, and what one of them keeps back is kept back by all.
-/

namespace AccessPolicy

/-- Whether the documents of a store form a table: they are in the order of their ids, which are keys and of which
each is there once. -/
structure Store.Tabled (s : Store) : Prop where
  ascending : (s.documents.map (·.id)).Pairwise (· < ·)
  keys : ∀ d ∈ s.documents, Credentials.isKey d.id = true

namespace Store.Tabled

variable {s : Store}

theorem keyed (hs : s.Tabled) : s.Keyed := hs.ascending.imp fun hlt => Int.ne_of_lt hlt

theorem of_demo : demo.Tabled := ⟨by decide, by decide⟩

theorem add (hs : s.Tabled) (hkey : Credentials.isKey s.nextId = true) (title owner : String) (confidential : Bool) :
    (s.add title owner confidential).1.Tabled := by
  constructor
  · change ((s.documents ++ [_]).map _).Pairwise _
    rw [List.map_append, List.pairwise_append]
    refine ⟨hs.ascending, List.pairwise_singleton _ _, fun m hm n hn => ?_⟩
    obtain ⟨d, hd, rfl⟩ := List.mem_map.mp hm
    rw [List.mem_singleton.mp hn]
    exact Documents.lt_nextId hd
  · intro d hd
    rcases List.mem_append.mp hd with hd | hd
    · exact hs.keys d hd
    · rwa [List.mem_singleton.mp hd]

theorem rename (hs : s.Tabled) (n : Int) (title : String) : (s.rename n title).Tabled := by
  have hids : (s.rename n title).documents.map (·.id) = s.documents.map (·.id) := by
    unfold Store.rename
    rw [List.map_map]
    refine List.map_congr_left fun d _ => ?_
    dsimp only [Function.comp]
    split <;> rfl
  constructor
  · rw [hids]
    exact hs.ascending
  · intro d hd
    have hid : d.id ∈ s.documents.map (·.id) := hids ▸ List.mem_map_of_mem hd
    obtain ⟨e, he, heq⟩ := List.mem_map.mp hid
    exact heq ▸ hs.keys e he

theorem remove (hs : s.Tabled) (ids : List Int) : (s.remove ids).Tabled :=
  ⟨hs.ascending.sublist (List.filter_sublist.map _), fun d hd => hs.keys d (List.mem_of_mem_filter hd)⟩

end Store.Tabled

namespace Documents

variable {h : Handler Store} {p : Proxy Store} {who : Option Authentication} {s : Store} {d : Document}

/-- Whether an identity may read a document. -/
def MayRead (who : Option Authentication) (d : Document) : Prop :=
  ∃ a, who = some a ∧ a.anonymous = false ∧
    (adminAuthority ∈ a.authorities ∨ a.name = some d.owner ∨ d.confidential = false)

theorem readable_iff : readable who d = true ↔ MayRead who d := by
  cases who with
  | none =>
    constructor
    · rintro ⟨⟩
    · rintro ⟨_, ⟨⟩, _⟩
  | some a =>
    have hholds : a.holds adminAuthority = true ↔ adminAuthority ∈ a.authorities := List.contains_iff_mem
    have hdecide : readable (some a) d = true ↔
        a.anonymous = false ∧
          (adminAuthority ∈ a.authorities ∨ a.name = some d.owner ∨ d.confidential = false) := by
      simp only [readable, decide, Handler.caller, Option.getD_some, equal_text, beq_self_eq_true, ↓reduceIte]
      cases a.anonymous with
      | true => simp
      | false =>
        by_cases hadmin : adminAuthority ∈ a.authorities
        · simp [hholds.mpr hadmin, hadmin]
        · simp [mt hholds.mp hadmin, hadmin, equal_name]
    rw [hdecide]
    constructor
    · intro h
      exact ⟨a, rfl, h⟩
    · rintro ⟨_, ⟨⟩, h⟩
      exact h

/-- Documents by their ids. -/
def entriesOf (ds : List Document) : List (Value × Value) := ds.map fun d => (.int d.id, .document d)

theorem alike_int (m n : Int) : alike (.int m) (.int n) = (m == n) := by
  simp [alike, bothNaN, Value.equal, numericEqual, Value.numeric?, Numeric.equal]

theorem lookup_entriesOf {ds : List Document} (hds : (ds.map (·.id)).Nodup) {n : Int} {v : Value} :
    lookupEntry (entriesOf ds) (.int n) = some v ↔ ∃ d ∈ ds, d.id = n ∧ v = .document d := by
  have hfind : (entriesOf ds).find? (fun e => alike (.int n) e.1) =
      (ds.find? fun d => d.id == n).map fun d => (.int d.id, .document d) := by
    unfold entriesOf
    rw [List.find?_map]
    congr 2
    funext d
    rw [Function.comp, alike_int, Bool.beq_comm]
  have hdocument (d : Document) : (ds.find? fun d => d.id == n) = some d ↔ d ∈ ds ∧ d.id = n :=
    document?_eq_some (s := ⟨[], ds⟩) hds
  unfold lookupEntry
  rw [hfind, Option.map_map, Option.map_eq_some_iff]
  constructor
  · rintro ⟨d, hd, rfl⟩
    obtain ⟨hmem, hid⟩ := (hdocument d).mp hd
    exact ⟨d, hmem, hid, rfl⟩
  · rintro ⟨d, hmem, hid, rfl⟩
    exact ⟨d, (hdocument d).mpr ⟨hmem, hid⟩, rfl⟩

section Calls

variable {args : List Value} {named : Bindings} {arguments : Arguments} {v : Value}

theorem outcome_list (hj : h.JudgesDocuments) (hp : service h = .ok p) :
    (p.call h who "list_documents" [] []).outcome s = (.ok (documentList (s.documents.filter (readable who))), s) := by
  rw [call_list hj hp rfl]
  rfl

theorem outcome_index (hj : h.JudgesDocuments) (hp : service h = .ok p) :
    (p.call h who "index" [] []).outcome s = (.ok (.dict (entriesOf (s.documents.filter (readable who)))), s) := by
  rw [call_index hj hp rfl]
  rfl

theorem outcome_listForOwner (hj : h.JudgesDocuments) (hp : service h = .ok p)
    (hb : Parameter.bind [parameter "username" "str" false none] args named = .ok arguments) {owner : String}
    (howner : arguments.lookup "username" = some (.text owner)) :
    (p.call h who "list_for_owner" args named).outcome s =
      (.ok (documentList ((s.documents.filter (readable who)).filter fun d => d.owner == owner)), s) := by
  rw [call_listForOwner hj hp hb, howner, List.filter_comm]
  rfl

theorem outcome_fetch (hj : h.JudgesDocuments) (hp : service h = .ok p) (hs : s.Tabled) (hd : d ∈ s.documents)
    (hb : Parameter.bind [idParameter] args named = .ok arguments)
    (hid : arguments.lookup "document_id" = some v) (hv : Denotes v d.id) :
    (p.call h who "get_document" args named).outcome s =
      (if readable who d then .ok (.document d) else .error .accessDenied, s) := by
  have hexisting : (existing v).outcome s = (.ok d, s) := by
    rw [outcome_existing, existed_denoted hv, (document?_eq_some hs.keyed).mpr ⟨hd, rfl⟩]
    rfl
  rw [call_fetch hj hp hb, hid, Option.getD_some, Run.outcome_bind_ok hexisting]
  cases readable who d <;> rfl

/-- The reading operations agree: for every table and every caller there is one list of documents that all of them
answer, each in its own way. It is in the order of the ids and consists of what the caller may read. -/
theorem readings_agree (hj : h.JudgesDocuments) (hp : service h = .ok p) (hs : s.Tabled) (who : Option Authentication) :
    ∃ seen : List Document,
      (∀ d, d ∈ seen ↔ d ∈ s.documents ∧ MayRead who d) ∧
      (seen.map (·.id)).Pairwise (· < ·) ∧
      (p.call h who "list_documents" [] []).outcome s = (.ok (documentList seen), s) ∧
      (p.call h who "index" [] []).outcome s = (.ok (.dict (entriesOf seen)), s) ∧
      (∀ args named arguments owner,
        Parameter.bind [parameter "username" "str" false none] args named = .ok arguments →
        arguments.lookup "username" = some (.text owner) →
        (p.call h who "list_for_owner" args named).outcome s =
          (.ok (documentList (seen.filter fun d => d.owner == owner)), s)) ∧
      ∀ d ∈ s.documents,
        (d ∈ seen ↔ lookupEntry (entriesOf seen) (.int d.id) = some (.document d)) ∧
        (d ∉ seen ↔ lookupEntry (entriesOf seen) (.int d.id) = none) ∧
        ∀ args named arguments v, Parameter.bind [idParameter] args named = .ok arguments →
          arguments.lookup "document_id" = some v → v.index? = some d.id →
          (d ∈ seen ↔ (p.call h who "get_document" args named).outcome s = (.ok (.document d), s)) ∧
          (d ∉ seen ↔ (p.call h who "get_document" args named).outcome s = (.error .accessDenied, s)) := by
  have hseen (d : Document) : d ∈ s.documents.filter (readable who) ↔ d ∈ s.documents ∧ MayRead who d := by
    rw [List.mem_filter, readable_iff]
  have hascending : ((s.documents.filter (readable who)).map (·.id)).Pairwise (· < ·) :=
    hs.ascending.sublist (List.filter_sublist.map _)
  have hids : ((s.documents.filter (readable who)).map (·.id)).Nodup := hascending.imp fun hlt => Int.ne_of_lt hlt
  refine ⟨_, hseen, hascending, outcome_list hj hp, outcome_index hj hp, ?_, fun d hd => ⟨?_, ?_, ?_⟩⟩
  · intro args named arguments owner hb howner
    exact outcome_listForOwner hj hp hb howner
  · rw [lookup_entriesOf hids]
    constructor
    · intro hmem
      exact ⟨d, hmem, rfl, rfl⟩
    · rintro ⟨e, hmem, _, heq⟩
      cases heq
      exact hmem
  · rw [Option.eq_none_iff_forall_not_mem]
    constructor
    · intro hnot v hv
      obtain ⟨e, hmem, hid, _⟩ := (lookup_entriesOf hids).mp hv
      exact hnot (same_document hs.keyed (List.mem_of_mem_filter hmem) hd hid ▸ hmem)
    · intro hnone hmem
      exact hnone _ ((lookup_entriesOf hids).mpr ⟨d, hmem, rfl, rfl⟩)
  · intro args named arguments v hb hid hv
    rw [outcome_fetch hj hp hs hd hb hid ⟨hv, hs.keys d hd⟩, List.mem_filter]
    cases readable who d <;> simp [hd]

end Calls

/-- Somebody with no particular authorities. -/
def dave : Authentication := .of "dave" ["ROLE_USER"] .null true []

/-- Of two documents of somebody else, the one that is not confidential is answered, by its id and in the index. -/
theorem readings_agree_demo :
    ∃ p seen, service plainHandler = .ok p ∧ Store.demo.Tabled ∧
      (p.call plainHandler (some dave) "index" [] []).outcome Store.demo = (.ok (.dict (entriesOf seen)), Store.demo) ∧
      lookupEntry (entriesOf seen) (.int 3) = some (.document ⟨3, "Bob's notes", "bob", false⟩) ∧
      lookupEntry (entriesOf seen) (.int 4) = none ∧
      (p.call plainHandler (some dave) "get_document" [] [("document_id", .int 4)]).outcome Store.demo =
        (.error .accessDenied, Store.demo) := by
  obtain ⟨p, hp⟩ : ∃ p, service plainHandler = .ok p := service_available rfl
  obtain ⟨seen, hseen, _, _, hindex, _, hrows⟩ :=
    readings_agree plainHandler_judges hp Store.Tabled.of_demo (some dave)
  have hshown : (⟨3, "Bob's notes", "bob", false⟩ : Document) ∈ seen :=
    (hseen _).mpr ⟨by decide, dave, rfl, rfl, .inr (.inr rfl)⟩
  have hhidden : (⟨4, "Bob's diary", "bob", true⟩ : Document) ∉ seen := by
    intro hmem
    obtain ⟨_, _, ⟨⟩, _, hadmin | hown | hopen⟩ := (hseen _).mp hmem
    · exact absurd hadmin (by decide)
    · exact absurd hown (by decide)
    · cases hopen
  obtain ⟨hfound, _⟩ := hrows _ (by decide : (⟨3, "Bob's notes", "bob", false⟩ : Document) ∈ Store.demo.documents)
  obtain ⟨_, hmissing, hfetch⟩ :=
    hrows _ (by decide : (⟨4, "Bob's diary", "bob", true⟩ : Document) ∈ Store.demo.documents)
  refine ⟨p, seen, hp, .of_demo, hindex, hfound.mp hshown, hmissing.mp hhidden, ?_⟩
  exact (hfetch [] [("document_id", .int 4)] [("document_id", .int 4)] (.int 4) rfl rfl rfl).2.mp hhidden

end Documents

end AccessPolicy
