import AccessPolicy.Proofs.Dispatch
import AccessPolicy.Proofs.SiteRules

/-!
Requests without a bearer credential. Their senders are not fully authenticated, whether they are remembered or
nobody in particular, and so no request of theirs changes a document.
-/

namespace AccessPolicy

/-- A request without a bearer credential: what it has as authorization, if anything, is of another scheme. -/
def Request.Bearerless (r : Request) : Prop :=
  ∀ h ∈ r.headers, h.1.toLower = "authorization" → String.ofList (h.2.toList.takeWhile (· != ' ')) ≠ "Bearer"

instance (r : Request) : Decidable r.Bearerless :=
  inferInstanceAs (Decidable (∀ h ∈ r.headers, h.1.toLower = "authorization" →
    String.ofList (h.2.toList.takeWhile (· != ' ')) ≠ "Bearer"))

namespace Credentials

variable {r : Request} {accounts : List Account} {who : Authentication}

theorem header_bearerless (h : r.Bearerless) :
    String.ofList (((r.header? "Authorization").getD "").toList.takeWhile (· != ' ')) ≠ "Bearer" := by
  unfold Request.header?
  cases hf : r.headers.find? fun h => h.1.toLower == "Authorization".toLower with
  | none => decide
  | some header =>
    have hname : header.1.toLower = "Authorization".toLower := by simpa using List.find?_some hf
    have hlower : "Authorization".toLower = "authorization" := by cbv
    exact h header (List.mem_of_find?_eq_some hf) (hname.trans hlower)

theorem bearer_of_bearerless (h : r.Bearerless) :
    ((r.header? "Authorization").getD "" = "" ∧ bearer {} r = .ok none) ∨
      (r.header? "Authorization").getD "" ≠ "" ∧
        bearer {} r = bad r "Invalid Authorization. Expected 'Bearer <user id>'." := by
  have hscheme : schemeOf (headerText {} r) ≠ "Bearer" := header_bearerless h
  by_cases hsilent : headerText {} r = ""
  · exact .inl ⟨hsilent, bearer_silent isHeaderName_default hsilent⟩
  · have hdetail : "Invalid " ++ "Authorization" ++ ". Expected '" ++ "Bearer" ++ " <user id>'." =
        "Invalid Authorization. Expected 'Bearer <user id>'." := by decide
    refine .inr ⟨hsilent, ?_⟩
    have hgiven := bearer_given isHeaderName_default hsilent
    rw [hgiven, if_pos]
    · exact congrArg (bad r) hdetail
    · rw [Bool.or_eq_true]
      exact .inl (bne_iff_ne.mpr hscheme)

theorem identityOf_remembered {id : Int} (h : identityOf accounts id true = .ok who) :
    who.isFullyAuthenticated = false := by
  obtain ⟨a, _, _, _, rfl⟩ := identityOf_ok h
  rfl

/-- Without a bearer credential nobody is fully authenticated. -/
theorem resolve_bearerless (h : r.Bearerless) (hwho : resolve {} accounts r = .ok who) :
    who.isFullyAuthenticated = false := by
  unfold resolve at hwho
  rcases bearer_of_bearerless h with ⟨_, hb⟩ | ⟨_, hb⟩
  · rw [hb] at hwho
    obtain ⟨_, hnone, hwho⟩ := except_bind_ok hwho
    cases hnone
    obtain ⟨id, _, hwho⟩ := except_bind_ok hwho
    cases id with
    | none =>
      cases hwho
      rfl
    | some id => exact identityOf_remembered hwho
  · rw [hb] at hwho
    unfold bad at hwho
    split at hwho <;> cases hwho

end Credentials

namespace Documents

open Handler (caller)

/-- The pages that change documents. -/
def Page.changes (p : Page) : Bool := p == .create || p == .rename || p == .delete || p == .deleteMany

section Requests

variable {rs : Rules Store} {r : Request} {page : Page} {vars : List (String × String)} {location : Location}
  {who : Authentication}

/-- The guards of these pages begin with full authentication. -/
theorem AtWork.ruling_weak (hw : AtWork rs) (h : lookupPage r.path r.method = .found page vars)
    (hpage : page.changes = true) (hpath : location.path = r.path) (hwho : who.isFullyAuthenticated = false) :
    rs.within.ruling who r location = pure (.bool false) := by
  have hfull : (Plain.ask "isFullyAuthenticated" []).Means (requestContext rs who r) page.source
      (pure (.bool false)) := by
    have hm : (Plain.ask "isFullyAuthenticated" []).Means (requestContext rs who r) page.source _ :=
      Handler.means_isFullyAuthenticated (hw.identifies who r)
    rwa [show (caller (some who)).isFullyAuthenticated = false from hwho] at hm
  have hmeans : page.guard.Means (requestContext rs who r) page.source (pure (.bool false)) := by
    cases page with
    | create | rename | deleteMany => exact hfull
    | delete => exact Plain.means_both_false hfull
    | _ => cases hpage
  refine hw.ruling_eq h ?_ hpath hmeans
  rintro rfl
  cases hpage

theorem stopped_of_false {rs : Rules (Bound Store)} {accounts : List Account} {b : Bound Store}
    (hwho : Credentials.resolve rs.credentials accounts r = .ok who) (hl : r.location? = some location)
    (hruling : rs.ruling who r location = pure (.bool false)) : ∃ f, rs.Ends accounts r b (.stopped f) := by
  have hne : Value.bool false ≠ .bool true := by rintro ⟨⟩
  obtain ⟨f, hdecided⟩ : ∃ f, Rules.Decided who (.ok (.bool false)) (.stopped f) := by
    cases ha : who.anonymous with
    | true => exact ⟨_, .unproved hne ha⟩
    | false => exact ⟨_, .denied hne ha⟩
  refine ⟨f, Rules.ends_of_decided hwho hl ?_⟩
  rw [hruling]
  exact hdecided

theorem AtWork.stopped_weak (hw : AtWork rs) (h : lookupPage r.path r.method = .found page vars)
    (hpage : page.changes = true) (hpath : ∀ l, r.location? = some l → l.path = r.path) (hr : r.Bearerless)
    (accounts : List Account) (b : Bound Store) : ∃ f, rs.within.Ends accounts r b (.stopped f) := by
  have hcredentials : rs.within.credentials = {} := hw.credentials
  cases hwho : Credentials.resolve rs.within.credentials accounts r with
  | error f => exact ⟨f, b, fun endpoint => Rules.outcome_unresolved hwho endpoint b⟩
  | ok who =>
    cases hl : r.location? with
    | none => exact ⟨_, Rules.ends_of_unlocated hwho hl b⟩
    | some location =>
      have hweak := Credentials.resolve_bearerless hr (hcredentials ▸ hwho)
      exact stopped_of_false hwho hl (hw.ruling_weak h hpage (hpath location hl) hweak)

end Requests

theorem evaluator_keeps : evaluator.Keeps fun s : Store => s := by
  intro who q
  cases q with
  | object target permission =>
    change Run.Keeps _ (do return Value.bool (← Run.ofExcept (mayUse who target permission)))
    exact .bind (.ofExcept _) fun _ => .pure _
  | byId id type permission =>
    change Run.Keeps _ (do return Value.bool (← Run.ofExcept (mayUseById (← get) who id permission)))
    exact .bind .get fun _ => .bind (.ofExcept _) fun _ => .pure _

theorem send_keeps (o : Object) (name : String) (args : List Value) (named : Bindings) :
    (send o name args named).Keeps fun s : Store => s := by
  unfold send
  split
  · refine .bind (.attempt _) fun arguments => ?_
    exact .bind (.ofExcept _) fun _ => .bind .get fun _ => .bind (.ofExcept _) fun _ => .pure _
  · exact .throw _

theorem AtWork.keeps {rs : Rules Store} (hw : AtWork rs) : rs.handler.Keeps fun s : Store => s := by
  refine ⟨?_, fun o name args named => hw.send ▸ send_keeps o name args named⟩
  intro e he who q
  rw [hw.evaluator] at he
  obtain rfl := Option.some.inj he
  rw [PermissionEvaluator.answer]
  split
  · simp only [PermissionEvaluator.answerRoute]
    split
    next answer hanswer =>
      split at hanswer
      · obtain rfl := Option.some.inj hanswer
        exact evaluator_keeps who q
      · cases hanswer
    next => exact .bind (.attempt _) fun _ => .pure _
  · exact .throw _

theorem AtWork.judges {rs : Rules Store} (hw : AtWork rs) : rs.handler.JudgesDocuments :=
  ⟨_, _, hw.evaluator, rfl⟩

section Pages

variable {st : Site} {name : String} {args : List Value} {named : Bindings}

theorem perform_keeps (h : ∀ who, (st.operations.call st.rules.handler who name args named).Keeps fun s : Store => s) :
    (st.perform name args named).Keeps fun b : Bound Store => b.world :=
  .bind .get fun b => (h b.identity.current).within

theorem existing_keeps (id : Value) : (existing id).Keeps fun s : Store => s := by
  intro s
  rw [outcome_existing]

/-- Pages that change no documents read at most, whatever they answer. -/
theorem answerOf_keeps (hst : site = .ok st) {who : Authentication} {vars : List (String × String)} {body : Value}
    {page : Page} (hpage : page.changes = false) {answer : Run (Bound Store) Response}
    (h : st.answerOf who vars body page = .ok answer) : answer.Keeps fun b : Bound Store => b.world := by
  obtain ⟨hw, hp⟩ := site_parts hst
  have hj := hw.judges
  cases page with
  | create | rename | delete | deleteMany => cases hpage
  | description | health | ping | caller | audit =>
    cases h
    exact .pure _
  | accounts =>
    cases h
    exact .bind .get fun _ => .pure _
  | list =>
    cases h
    refine .bind (perform_keeps fun asker => ?_) fun _ => .pure _
    rw [call_list hj hp rfl]
    exact .bind .get fun _ => .pure _
  | index =>
    cases h
    refine .bind (perform_keeps fun asker => ?_) fun _ => .pure _
    rw [call_index hj hp rfl]
    exact .bind .get fun _ => .pure _
  | listForOwner =>
    cases h
    refine .bind (perform_keeps fun asker => ?_) fun _ => .pure _
    rw [call_listForOwner hj hp rfl]
    split
    · exact .pure _
    · exact .bind (.ofExcept _) fun _ => .bind .get fun _ => .pure _
  | fetch =>
    obtain ⟨id, _, h⟩ := except_bind_ok h
    cases h
    refine .tryCatch (.bind (perform_keeps fun asker => ?_) fun _ => .pure _) fun f => ?_
    · rw [call_fetch hj hp rfl]
      refine .bind (existing_keeps _) fun d => ?_
      split
      · exact .pure _
      · exact .throw _
    · split <;> exact .throw _

theorem endpoint_keeps (hst : site = .ok st) {page : Page} (hpage : page.changes = false) (who : Authentication)
    (vars : List (String × String)) (body : Value) : Run.Keeps (fun b : Bound Store => b.world) (do
      if page.needsIdentity then
        let _ ← Run.ofExcept who.required
      match st.answerOf who vars body page with
      | .error fs => return Response.invalid fs
      | .ok answer => answer) := by
  have hanswer : Run.Keeps (fun b : Bound Store => b.world) (match st.answerOf who vars body page with
      | .error fs => return Response.invalid fs
      | .ok answer => answer) := by
    split
    next => exact .pure _
    next h => exact answerOf_keeps hst hpage h
  cases page.needsIdentity with
  | true => exact .bind (.ofExcept _) fun _ => hanswer
  | false => exact hanswer

/-- However a request without a bearer credential is answered, the documents are what they were. -/
theorem visit_keeps (hst : site = .ok st) {r : Request} {page : Page} {vars : List (String × String)}
    (h : lookupPage r.path r.method = .found page vars) (hpath : ∀ l, r.location? = some l → l.path = r.path)
    (hr : r.Bearerless) (body : Value) : (st.visit page vars body r).Keeps fun b : Bound Store => b.world := by
  obtain ⟨hw, _⟩ := site_parts hst
  refine .bind .get fun b₀ => ?_
  intro b
  have hkeeps : st.rules.within.handler.Keeps fun b : Bound Store => b.world := hw.keeps.within
  rcases Rules.serve_keeps hkeeps (fun _ _ => rfl) b₀.world.accounts r b with
    ⟨e, c, hc, hserve⟩ | ⟨who, c, hc, _, hserve⟩
  · rw [hserve]
    exact hc
  · cases hpage : page.changes with
    | true =>
      -- The rules cannot let pass what they stop.
      obtain ⟨f, c', hstopped⟩ := hw.stopped_weak h hpage hpath hr b₀.world.accounts b
      have hboth := (hserve fun _ => pure ()).symm.trans (hstopped fun _ => pure ())
      cases congrArg Prod.fst hboth
    | false =>
      rw [hserve]
      exact (endpoint_keeps hst hpage who vars body c).trans hc

/-- One step: whatever a client without a bearer credential requests, the documents are what they were. -/
theorem respond_keeps (hst : site = .ok st) {r : Request} (hpath : ∀ l, r.location? = some l → l.path = r.path)
    (hr : r.Bearerless) (sent : Sent) : (st.respond sent r).Keeps fun b : Bound Store => b.world := by
  unfold Site.respond
  split
  next => exact .pure _
  next => exact .pure _
  next => exact .pure _
  next page vars _ h =>
    split
    · split
      · exact .pure _
      · exact visit_keeps hst h hpath hr _
    · exact visit_keeps hst h hpath hr _

end Pages

/-- Whether the path that the rules see of a request is the one that it is dispatched on. -/
def ShowsOwnPath (r : Request) : Prop := ∀ l, r.location? = some l → l.path = r.path

/-- The request that arrives at a page when a client sends one, on which it may have been sent on. -/
def arriving (client : String) (s : Sent) : Request := ((sentOn? s (s.received client)).getD s).received client

theorem sentOn?_headers {s t : Sent} {r : Request} (h : sentOn? s r = some t) : ∀ e ∈ t.headers, e ∈ s.headers := by
  intro e he
  unfold sentOn? at h
  split at h
  · cases h
  · split at h
    · cases h
    · cases h
      exact List.mem_of_mem_filter he
  · cases h

theorem bearerless_of_headers {s t : Sent} {client : String} (h : (s.received client).Bearerless)
    (hheaders : ∀ e ∈ t.headers, e ∈ s.headers) : (t.received client).Bearerless := by
  intro e he hname
  have hgiven {s : Sent} {e : String × String} (he : e ∈ s.receivedHeaders) :
      e = ("host", Sent.defaultHost) ∨ e ∈ s.headers.map fun g => (g.1, Text.Utf8.bytewise g.2) := by
    unfold Sent.receivedHeaders at he
    dsimp only at he
    split at he
    · exact .inr he
    · exact List.mem_cons.mp he
  have hkept {e : String × String} (he : e ∈ s.headers.map fun g => (g.1, Text.Utf8.bytewise g.2)) :
      e ∈ s.receivedHeaders := by
    unfold Sent.receivedHeaders
    dsimp only
    split
    · exact he
    · exact List.mem_cons_of_mem _ he
  rcases hgiven he with rfl | he
  · have hhost : "host".toLower ≠ "authorization" := by cbv
    exact absurd hname hhost
  · obtain ⟨g, hg, rfl⟩ := List.mem_map.mp he
    exact h _ (hkept (List.mem_map_of_mem (hheaders g hg))) hname

theorem arriving_bearerless {client : String} {s : Sent} (h : (s.received client).Bearerless) :
    (arriving client s).Bearerless := by
  unfold arriving
  cases ht : sentOn? s (s.received client) with
  | none => exact h
  | some t => exact bearerless_of_headers h (sentOn?_headers ht)

/-- The store after requests of clients, one after another. -/
def Site.storeAfter (st : Site) : List (String × Sent) → Store → Store
  | [], s => s
  | (client, sent) :: requests, s => st.storeAfter requests (st.answer client sent s).2

theorem answer_store (st : Site) (client : String) (sent : Sent) (s : Store) :
    (st.answer client sent s).2 =
      ((st.respond ((sentOn? sent (sent.received client)).getD sent) (arriving client sent)).outcome
        { world := s }).2.world := by
  unfold Site.answer arriving Run.outcome
  generalize (sentOn? sent (sent.received client)).getD sent = sent'
  dsimp only
  generalize (st.respond sent' (sent'.received client)).run.run { world := s } = ending
  rfl

theorem answer_keeps {st : Site} (hst : site = .ok st) {client : String} {sent : Sent}
    (hr : (sent.received client).Bearerless) (hpath : ShowsOwnPath (arriving client sent)) (s : Store) :
    (st.answer client sent s).2 = s := by
  rw [answer_store]
  exact respond_keeps hst hpath (arriving_bearerless hr) _ { world := s }

/-- Without a bearer credential nobody creates, renames or deletes anything, whatever is requested and however
often: all documents are what they were. -/
theorem unchanged_without_bearer {st : Site} (hst : site = .ok st) {requests : List (String × Sent)}
    (hbearer : ∀ q ∈ requests, (q.2.received q.1).Bearerless)
    (hpath : ∀ q ∈ requests, ShowsOwnPath (arriving q.1 q.2)) (s : Store) :
    st.storeAfter requests s = s := by
  induction requests generalizing s with
  | nil => rfl
  | cons q requests ih =>
    obtain ⟨hq, hrest⟩ := List.forall_mem_cons.mp hbearer
    obtain ⟨hqpath, hrestpath⟩ := List.forall_mem_cons.mp hpath
    rw [Site.storeAfter, answer_keeps hst hq hqpath]
    exact ih hrest hrestpath s

theorem site_built : ∃ st, site = .ok st := by
  obtain ⟨rs, hrs⟩ := siteRules_accepted
  obtain ⟨p, hp⟩ : ∃ p, service rs.handler = .ok p :=
    service_available (by rw [(atWork_of_ok hrs).evaluator]; rfl)
  refine ⟨⟨rs, p⟩, ?_⟩
  unfold site
  rw [hrs]
  change (do return ⟨rs, ← service rs.handler⟩ : Except Failure Site) = _
  rw [hp]
  rfl

/-- Requests of an administrator and a user who are remembered, and of somebody from inside. -/
def bearerlessRequests : List (String × Sent) :=
  [("testclient", { method := "DELETE", target := "/documents/1", headers := [("Cookie", "remember-me=1")] }),
   ("testclient", { method := "PATCH", target := "/documents/4/", headers := [("Cookie", "remember-me=2")] }),
   ("10.0.0.7", { method := "POST", target := "/documents", headers := [("Authorization", "Basic eA==")] })]

theorem unchanged_without_bearer_demo :
    ∃ st, site = .ok st ∧ (∀ q ∈ bearerlessRequests, (q.2.received q.1).Bearerless) ∧
      (∀ q ∈ bearerlessRequests, ShowsOwnPath (arriving q.1 q.2)) ∧
      st.storeAfter bearerlessRequests Store.demo = Store.demo := by
  obtain ⟨st, hst⟩ := site_built
  have hbearer : ∀ q ∈ bearerlessRequests, (q.2.received q.1).Bearerless := by decide +kernel
  have hshown : (bearerlessRequests.all fun q => (arriving q.1 q.2).location?.all fun l =>
      l.path == (arriving q.1 q.2).path) = true := by decide +kernel
  have hpath : ∀ q ∈ bearerlessRequests, ShowsOwnPath (arriving q.1 q.2) := by
    intro q hq l hl
    have hall := List.all_eq_true.mp hshown q hq
    rw [hl] at hall
    exact beq_iff_eq.mp hall
  exact ⟨st, hst, hbearer, hpath, unchanged_without_bearer hst hbearer hpath Store.demo⟩

end Documents

end AccessPolicy
