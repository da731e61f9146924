import AccessPolicy.Proofs.Bearerless
import AccessPolicy.Proofs.Granting

/-!
Requests of nobody in particular. The rules let them see the health of the site, and from inside whether it is
there; what else they are for, they are told to prove an identity first.
-/

namespace AccessPolicy

/-- Whether an address is in `127.0.0.1/32` or in `10.0.0.0/8`. -/
def Address.isInside (a : Address) : Bool :=
  a.family == .v4 && (a.bits == 127 * 2 ^ 24 + 1 || a.bits / 2 ^ 24 == 10)

theorem Address.isInside_eq (a : Address) :
    (Network.contains ⟨.v4, 127 * 2 ^ 24 + 1, 32⟩ a || Network.contains ⟨.v4, 10 * 2 ^ 24, 8⟩ a) = a.isInside := by
  unfold Network.contains isInside
  rw [← Bool.and_or_distrib_left, ← Nat.shiftRight_eq_div_pow]
  rfl

namespace Request

/-- The address that a request comes from, if its client has one. -/
def address? (r : Request) : Option Address := r.client.bind fun client => Address.read? (.text client)

/-- Whether a request is one that everybody may send. -/
def isOpenToAll (r : Request) : Bool :=
  r.method == "GET" && (r.path == "/health" || r.path == "/internal/ping" && r.address?.any Address.isInside)

/-- A request that gives no proof of an identity, for a path without a line break that its location shows. -/
structure Unproved (r : Request) : Prop where
  bearerless : r.Bearerless
  cookieless : (r.cookie? "remember-me").getD "" = ""
  unbroken : '\n' ∉ r.path.toList
  located : ∃ l, r.location? = some l ∧ l.path = r.path

instance (r : Request) : Decidable r.Unproved :=
  decidable_of_iff (r.Bearerless ∧ (r.cookie? "remember-me").getD "" = "" ∧ '\n' ∉ r.path.toList ∧
      r.location?.any (fun l => l.path == r.path) = true) <| by
    simp only [Option.any_eq_true, beq_iff_eq]
    constructor
    · rintro ⟨hbearer, hcookie, hbreak, hlocation⟩
      exact ⟨hbearer, hcookie, hbreak, hlocation⟩
    · rintro ⟨hbearer, hcookie, hbreak, hlocation⟩
      exact ⟨hbearer, hcookie, hbreak, hlocation⟩

theorem isFrom_address {r : Request} {range : String} {n : Network}
    (h : Network.read? (.text range) = .ok (some n)) :
    isFrom (.request r) (.text range) = .ok (r.address?.any n.contains) := by
  obtain ⟨method, path, query, headers, client⟩ := r
  unfold isFrom address?
  rw [h]
  cases client with
  | none => rfl
  | some client => rfl

end Request

/-- What a client is told of the end of a request. -/
def Response.ofOutcome : Except Failure Response → Response
  | .ok response => response
  | .error f => ofFailure f

namespace Documents

open Handler (caller)

/-- The path of the page of the documents of somebody who has the name of nobody in particular. -/
def nobodysPath : String := "/users/anonymousUser/documents"

section Pages

variable {path method : String} {page : Page} {vars : List (String × String)}

/-- A page with one method and a path without variables is found by these alone. -/
theorem found_plain_iff {text : String} {p : Page} (hbreak : '\n' ∉ path.toList)
    (hentry : ∀ e ∈ entries, e.page = p → e.methods = ["GET"] ∧ e.path = text.toList.map .char)
    (hfound : lookupPage text "GET" = .found p []) (h : lookupPage path method = .found page vars) :
    page = p ↔ method = "GET" ∧ path = text := by
  constructor
  · rintro rfl
    obtain ⟨e, he, hpage, hmethod, hfit⟩ := lookupPage_found h
    obtain ⟨hmethods, hpath⟩ := hentry e he hpage
    rw [hmethods, List.mem_singleton] at hmethod
    rw [hpath] at hfit
    refine ⟨hmethod, ?_⟩
    rcases PathTemplate.plain_of_fit? hfit with hcs | hcs
    · exact String.toList_inj.mp hcs
    · exact absurd (hcs ▸ List.mem_append_right _ (List.mem_singleton_self _)) hbreak
  · rintro ⟨rfl, rfl⟩
    rw [hfound] at h
    cases h
    rfl

theorem health_entry : ∀ e ∈ entries, e.page = .health →
    e.methods = ["GET"] ∧ e.path = "/health".toList.map .char := by
  decide

theorem health_iff (hbreak : '\n' ∉ path.toList) (h : lookupPage path method = .found page vars) :
    page = .health ↔ method = "GET" ∧ path = "/health" :=
  found_plain_iff hbreak health_entry rfl h

theorem ping_iff (hbreak : '\n' ∉ path.toList) (h : lookupPage path method = .found page vars) :
    page = .ping ↔ method = "GET" ∧ path = "/internal/ping" :=
  found_plain_iff hbreak ping_entry rfl h

theorem user_entry : ∀ e ∈ entries, e.page = .listForOwner →
    e.path = "/users/".toList.map .char ++ .variable "username" :: "/documents".toList.map .char := by
  decide

/-- The path of the page of a user's documents says which user. -/
theorem user_of_found (h : lookupPage path method = .found .listForOwner vars) (hbreak : '\n' ∉ path.toList) :
    ∃ user, vars = [("username", user)] ∧ path = "/users/" ++ user ++ "/documents" := by
  obtain ⟨e, he, hpage, _, hfit⟩ := lookupPage_found h
  rw [user_entry e he hpage] at hfit
  have hpath := (PathTemplate.fits_of_fit? hbreak hfit).eq_fill
  have hnames : vars.map Prod.fst = ["username"] := by
    rw [PathTemplate.fit?_names hfit]
    decide
  obtain ⟨⟨n, user⟩, rest, rfl, hn, hrest⟩ := List.map_eq_cons_iff.mp hnames
  obtain rfl := List.map_eq_nil_iff.mp hrest
  cases hn
  refine ⟨user, rfl, ?_⟩
  rw [← String.toList_inj, String.toList_append, String.toList_append, hpath]
  rfl

end Pages

/-- Whether a request for a page passes the rules without proof of an identity. -/
def Page.opensTo (page : Page) (r : Request) : Bool :=
  match page with
  | .health => true
  | .ping => r.address?.any Address.isInside
  | .listForOwner => r.path == nobodysPath
  | _ => false

section Nobody

variable {rs : Rules Store} {r : Request} {page : Page} {vars : List (String × String)} {location : Location}
  {source : String}

theorem opensTo_eq (h : lookupPage r.path r.method = .found page vars) (hbreak : '\n' ∉ r.path.toList)
    (hown : r.path ≠ nobodysPath) : page.opensTo r = r.isOpenToAll := by
  rw [Bool.eq_iff_iff]
  simp only [Request.isOpenToAll, Bool.and_eq_true, Bool.or_eq_true, beq_iff_eq, and_or_left, ← and_assoc,
    ← health_iff hbreak h, ← ping_iff hbreak h]
  cases page <;> simp [Page.opensTo, hown]

/-- Nobody in particular has the one authority of such callers, which implies no other. -/
theorem AtWork.granted_nobody (hw : AtWork rs) :
    grantedUnder rs.handler.hierarchy ["ROLE_ANONYMOUS"] = ["ROLE_ANONYMOUS"] := by
  obtain ⟨implied, himplied, hhierarchy⟩ := hw.hierarchy
  rw [hhierarchy]
  change implied.implications.closure _ = _
  rw [RoleHierarchy.ofImplications_ok himplied]
  decide

theorem AtWork.means_role (hw : AtWork rs) {role : String} (hrole : role.length ≤ maxLength)
    (hnone : withRolePrefix (some "ROLE_") role ≠ "ROLE_ANONYMOUS") :
    (Plain.ask "hasRole" [.text role]).Means (requestContext rs .anonymousUser r) source (pure (.bool false)) := by
  have hgranted : (rs.within.handler.subject (some Authentication.anonymousUser)).authorities = ["ROLE_ANONYMOUS"] :=
    hw.granted_nobody
  have hholds : (rs.within.handler.subject (some Authentication.anonymousUser)).holdsAny
      rs.within.handler.rolePrefix [.text role] = false := by
    rw [show rs.within.handler.rolePrefix = some "ROLE_" from hw.rolePrefix]
    simpa only [Subject.holdsAny, List.any_cons, List.any_nil, hgranted, Bool.or_false, List.contains_eq_mem,
      List.mem_singleton, decide_eq_false_iff_not] using hnone
  have hm : (Plain.ask "hasRole" [.text role]).Means (requestContext rs .anonymousUser r) source _ :=
    Handler.means_hasRole (hw.identifies .anonymousUser r) hrole
  rwa [hholds] at hm

theorem AtWork.grants_nobody (hw : AtWork rs) :
    PermissionEvaluator.byRoleAnswer (Rules.grants sitePolicy) rs.handler.hierarchy
      (some Authentication.anonymousUser) (.byId (.text "daily") (.text "AuditReport") (.text "read")) =
      .ok false := by
  have hnone : (["ROLE_ANONYMOUS"].any fun g =>
      ((Rules.grants sitePolicy).allowed (.text "AuditReport") "read").any (alike (.text g))) = false := by
    decide
  rw [← hw.granted_nobody] at hnone
  exact congrArg Except.ok hnone

theorem AtWork.ask_nobody (hw : AtWork rs) :
    ∃ e, rs.within.handler.evaluator = some e ∧
      e.ask (some Authentication.anonymousUser) [.text "daily", .text "AuditReport", .text "read"] = pure false := by
  refine ⟨.delegating [("Document", Documents.evaluator.within)]
    (some (.byRole (Rules.grants sitePolicy) rs.handler.hierarchy)), ?_, ?_⟩
  · change rs.handler.evaluator.map _ = _
    rw [hw.evaluator]
    rfl
  · have hroute : alike (.text "Document") (.text "AuditReport") = false := by decide
    have htag : (Value.text "AuditReport").isHashable = true := rfl
    refine PermissionEvaluator.ask_of_answer (q := .byId (.text "daily") (.text "AuditReport") (.text "read")) rfl ?_
    simp only [PermissionEvaluator.answer, PermissionEvaluator.PermissionQuestion.tag, htag,
      PermissionEvaluator.answerRoute, hroute, PermissionEvaluator.answerFallback, hw.grants_nobody]
    rfl

theorem means_audit (hw : AtWork rs) :
    Page.audit.guard.Means (requestContext rs .anonymousUser r) source (pure (.bool false)) := by
  obtain ⟨e, he, hask⟩ := hw.ask_nobody
  have hargs : List.Forall₂ (Atom.Denotes (requestContext rs .anonymousUser r) source)
      [.text "daily", .text "AuditReport", .text "read"] [.text "daily", .text "AuditReport", .text "read"] :=
    .cons (Atom.denotes_text (by decide)) (.cons (Atom.denotes_text (by decide))
      (.cons (Atom.denotes_text (by decide)) .nil))
  have hm := Handler.means_hasPermission (hw.identifies .anonymousUser r) he hargs
  rw [show e.ask (some (caller (some Authentication.anonymousUser))) _ = _ from hask, map_pure] at hm
  exact hm

theorem means_ping (r : Request) : Page.ping.guard.Means (requestContext rs .anonymousUser r) source
    (pure (.bool (r.address?.any Address.isInside))) := by
  have hlocal : Network.read? (.text "127.0.0.1/32") = .ok (some ⟨.v4, 127 * 2 ^ 24 + 1, 32⟩) := by decide
  have hten : Network.read? (.text "10.0.0.0/8") = .ok (some ⟨.v4, 10 * 2 ^ 24, 8⟩) := by decide
  have hm : Page.ping.guard.Means (requestContext rs .anonymousUser r) source _ :=
    Plain.means_either (Handler.means_hasIpAddress (by decide) (Request.isFrom_address hlocal))
      (Handler.means_hasIpAddress (by decide) (Request.isFrom_address hten))
  have heither (x y : Bool) : (do
      let v ← (pure (Value.bool x) : Run (Bound Store) Value)
      if v.truthy then pure v else pure (Value.bool y)) = pure (.bool (x || y)) := by
    cases x <;> rfl
  have hinside : r.address?.any Address.isInside =
      (r.address?.any (Network.contains ⟨.v4, 127 * 2 ^ 24 + 1, 32⟩) ||
        r.address?.any (Network.contains ⟨.v4, 10 * 2 ^ 24, 8⟩)) := by
    cases r.address? with
    | none => rfl
    | some a => exact a.isInside_eq.symm
  rw [hinside, ← heither]
  exact hm

/-- The page of a user's documents compares names, and so it is open to nobody in particular where the user is
called like that. -/
theorem AtWork.means_user (hw : AtWork rs) (h : lookupPage r.path r.method = .found .listForOwner vars)
    (hbreak : '\n' ∉ r.path.toList) :
    Page.listForOwner.guard.Means (requestContext rs .anonymousUser r) source
      (pure (.bool (r.path == nobodysPath))) := by
  obtain ⟨user, hvars, hpath⟩ := user_of_found h hbreak
  have hfound : (rs.routes.find r.path r.method).pathVariables = [("username", user)] :=
    (hw.found_variables h rfl).trans hvars
  have hname : (Atom.attribute "authentication" "name").Denotes (requestContext rs .anonymousUser r) source
      (.text "anonymousUser") := by
    refine Atom.denotes_attribute (v := .identity .anonymousUser) ?_ (by cbv) rfl
    rw [(hw.identifies .anonymousUser r).values "authentication" (by decide)]
    rfl
  have husername : (Atom.name "username").Denotes (requestContext rs .anonymousUser r) source (.text user) := by
    refine Atom.denotes_name (Handler.lookup_pathVariable ?_ (by decide) (by decide) ?_)
    · rw [hfound]
      exact List.nodup_singleton _
    · rw [hfound]
      rfl
  have hm : Page.listForOwner.guard.Means (requestContext rs .anonymousUser r) source _ :=
    Plain.means_either (Plain.means_same hname husername) (hw.means_role (by decide) (by cbv))
  have hsame : (r.path == nobodysPath) = ("anonymousUser" == user) := by
    have hnobody : nobodysPath = "/users/" ++ "anonymousUser" ++ "/documents" := by decide
    rw [hpath, hnobody, Bool.eq_iff_iff, beq_iff_eq, beq_iff_eq, String.append_left_inj, String.append_right_inj]
    exact eq_comm
  rw [equal_text, ← hsame] at hm
  cases hown : r.path == nobodysPath with
  | true | false =>
    rw [hown] at hm
    exact hm

theorem AtWork.means_nobody (hw : AtWork rs) (h : lookupPage r.path r.method = .found page vars)
    (hpage : page ≠ .description) (hbreak : '\n' ∉ r.path.toList) :
    page.guard.Means (requestContext rs .anonymousUser r) page.source (pure (.bool (page.opensTo r))) := by
  have hidentifies := hw.identifies .anonymousUser r
  have hfull (source : String) : (Plain.ask "isFullyAuthenticated" []).Means (requestContext rs .anonymousUser r)
      source (pure (.bool false)) := Handler.means_isFullyAuthenticated hidentifies
  cases page with
  | description => exact absurd rfl hpage
  | health =>
    refine Plain.means_read ?_
    rw [hidentifies.values "permitAll" (by decide)]
    rfl
  | ping => exact means_ping r
  | caller | list | index | fetch => exact Handler.means_isAuthenticated hidentifies
  | accounts => exact Plain.means_both_false (hw.means_role (by decide) (by cbv))
  | audit => exact means_audit hw
  | create | rename | deleteMany => exact hfull _
  | delete => exact Plain.means_both_false (hfull _)
  | listForOwner => exact hw.means_user h hbreak

theorem AtWork.ruling_nobody (hw : AtWork rs) (h : lookupPage r.path r.method = .found page vars)
    (hpage : page ≠ .description) (hpath : location.path = r.path) (hbreak : '\n' ∉ r.path.toList) :
    rs.within.ruling .anonymousUser r location = pure (.bool (page.opensTo r)) :=
  hw.ruling_eq h hpage hpath (hw.means_nobody h hpage hbreak)

end Nobody

/-- How a request of somebody who gives no proof of an identity ends. -/
def nobodysEnding (r : Request) : Rules.Ending :=
  if (r.header? "Authorization").getD "" ≠ "" then
    .stopped (.refused 400 "Invalid Authorization. Expected 'Bearer <user id>'.")
  else if r.isOpenToAll then .served .anonymousUser
  else .stopped (.refused 401 "Authentication required")

/-- And how it is answered. A body that cannot be read is found out before. -/
def answerToNobody (page : Page) (sent : Sent) (r : Request) : Response :=
  match if page.hasBody then bodyOf sent r else .ok .null with
  | .error fs => Response.invalid fs
  | .ok _ =>
    match nobodysEnding r with
    | .served _ => Response.json 200 (.object [("status", .text (if page == .health then "ok" else "pong"))])
    | .stopped f => Response.ofFailure f

section Responses

variable {st : Site} {sent : Sent} {r : Request} {page : Page} {vars : List (String × String)} {b : Bound Store}

/-- The rules decide about such a request as about one for its page. -/
theorem AtWork.ends_unproved {rs : Rules Store} (hw : AtWork rs) (hr : r.Unproved)
    (hfound : lookupPage r.path r.method = .found page vars) (hpage : page ≠ .description)
    (hheader : (r.header? "Authorization").getD "" = "") (accounts : List Account) (b : Bound Store) :
    rs.within.Ends accounts r b
      (if page.opensTo r then .served .anonymousUser else .stopped (.refused 401 "Authentication required")) := by
  obtain ⟨l, hl, hpath⟩ := hr.located
  have hwho : Credentials.resolve rs.within.credentials accounts r = .ok .anonymousUser := by
    rw [show rs.within.credentials = {} from hw.credentials]
    exact Credentials.resolve_silent Credentials.isHeaderName_default hheader hr.cookieless
  refine Rules.ends_of_decided hwho hl ?_
  rw [hw.ruling_nobody hfound hpage hpath hr.unbroken]
  cases page.opensTo r with
  | true => exact .admitted
  | false => exact .unproved (by rintro ⟨⟩) rfl

theorem AtWork.ends_nobody {rs : Rules Store} (hw : AtWork rs) (hr : r.Unproved)
    (hfound : lookupPage r.path r.method = .found page vars) (hpage : page ≠ .description)
    (hown : r.path ≠ nobodysPath) (accounts : List Account) (b : Bound Store) :
    rs.within.Ends accounts r b (nobodysEnding r) := by
  unfold nobodysEnding
  rcases Credentials.bearer_of_bearerless hr.bearerless with ⟨hheader, _⟩ | ⟨hheader, hbad⟩
  · rw [if_neg (not_not.mpr hheader), ← opensTo_eq hfound hr.unbroken hown]
    exact hw.ends_unproved hr hfound hpage hheader accounts b
  · obtain ⟨l, hl, _⟩ := hr.located
    have hwho : Credentials.resolve rs.within.credentials accounts r =
        .error (.refused 400 "Invalid Authorization. Expected 'Bearer <user id>'.") := by
      rw [show rs.within.credentials = {} from hw.credentials]
      unfold Credentials.resolve
      rw [hbad]
      unfold Credentials.bad
      rw [hl]
      rfl
    rw [if_pos hheader]
    exact ⟨b, fun endpoint => Rules.outcome_unresolved hwho endpoint b⟩

theorem open_of_served {who : Authentication} (h : nobodysEnding r = .served who) : r.isOpenToAll = true := by
  unfold nobodysEnding at h
  split at h
  · cases h
  · split at h
    · assumption
    · cases h

theorem page_of_open (hfound : lookupPage r.path r.method = .found page vars) (hbreak : '\n' ∉ r.path.toList)
    (hopen : r.isOpenToAll = true) : page = .health ∨ page = .ping := by
  rw [health_iff hbreak hfound, ping_iff hbreak hfound]
  simp only [Request.isOpenToAll, Bool.and_eq_true, Bool.or_eq_true, beq_iff_eq] at hopen
  obtain ⟨hmethod, hpath | ⟨hpath, _⟩⟩ := hopen
  · exact .inl ⟨hmethod, hpath⟩
  · exact .inr ⟨hmethod, hpath⟩

/-- A request for a page is answered by it, unless it has a body that cannot be read. -/
theorem respond_found (hfound : lookupPage r.path r.method = .found page vars) (hpage : page ≠ .description) :
    st.respond sent r =
      match if page.hasBody then bodyOf sent r else .ok .null with
      | .error fs => pure (Response.invalid fs)
      | .ok body => st.visit page vars body r := by
  unfold Site.respond
  rw [hfound]
  cases page with
  | description => exact absurd rfl hpage
  | _ => rfl

/-- What a page does for whoever it is served to. -/
def Site.endpoint (st : Site) (page : Page) (vars : List (String × String)) (body : Value) (who : Authentication) :
    Run (Bound Store) Response := do
  if page.needsIdentity then
    let _ ← Run.ofExcept who.required
  match st.answerOf who vars body page with
  | .error fs => return Response.invalid fs
  | .ok answer => answer

theorem visit_eq (st : Site) (page : Page) (vars : List (String × String)) (body : Value) (r : Request) :
    st.visit page vars body r =
      (do st.rules.within.serve (← get).world.accounts r (st.endpoint page vars body)) := rfl

theorem outcome_visit (st : Site) (page : Page) (vars : List (String × String)) (body : Value) (r : Request)
    (b : Bound Store) : (st.visit page vars body r).outcome b =
      (st.rules.within.serve b.world.accounts r (st.endpoint page vars body)).outcome b := by
  have hget : (get : Run (Bound Store) (Bound Store)).outcome b = (.ok b, b) := rfl
  rw [visit_eq, Run.outcome_bind_ok hget]

theorem outcome_visit_stopped {f : Failure} {body : Value}
    (h : st.rules.within.Ends b.world.accounts r b (.stopped f)) :
    ((st.visit page vars body r).outcome b).1 = .error f := by
  obtain ⟨c, hc⟩ := h
  rw [outcome_visit, hc]

/-- Pages that do not ask who it is answer whomever they are served to. -/
theorem outcome_visit_served {who : Authentication} {c : Bound Store} {body : Value} {x : Run (Bound Store) Response}
    (hpage : page.needsIdentity = false) (hanswer : st.answerOf who vars body page = .ok x)
    (h : ∀ endpoint : Authentication → Run (Bound Store) Response,
      (st.rules.within.serve b.world.accounts r endpoint).outcome b =
        (((endpoint who).outcome c).1, ((endpoint who).outcome c).2.bind b.identity.current)) :
    (st.visit page vars body r).outcome b = ((x.outcome c).1, (x.outcome c).2.bind b.identity.current) := by
  have hendpoint : st.endpoint page vars body who = x := by
    unfold Site.endpoint
    rw [hpage, hanswer]
    rfl
  rw [outcome_visit, h, hendpoint]

theorem outcome_visit_open {who : Authentication} {body : Value} (hpage : page = .health ∨ page = .ping)
    (h : st.rules.within.Ends b.world.accounts r b (.served who)) :
    ((st.visit page vars body r).outcome b).1 =
      .ok (Response.json 200 (.object [("status", .text (if page == .health then "ok" else "pong"))])) := by
  obtain ⟨c, _, hc⟩ := h
  rw [outcome_visit, hc]
  rcases hpage with rfl | rfl <;> rfl

theorem listForOwner_bound (user : String) : Parameter.bind [parameter "username" "str" false none] [.text user] [] =
      .ok [("username", .text user)] := by rfl

theorem call_user (hst : site = .ok st) (who : Option Authentication) (user : String) :
    st.operations.call st.rules.handler who "list_for_owner" [.text user] [] = (do
        return documentList (((← get).documents.filter fun d => d.owner == user).filter (readable who))) := by
  obtain ⟨hw, hp⟩ := site_parts hst
  have hcall := call_listForOwner hw.judges hp (listForOwner_bound user) who
  have hargument : (List.lookup "username" [("username", Value.text user)]).getD .null = .text user := by
    rw [List.lookup_cons, beq_self_eq_true]
    rfl
  rw [hargument] at hcall
  exact hcall

theorem outcome_forBound {α : Type} (x : Option Authentication → Run Store α) (c : Bound Store) :
    (do let who := (← get).identity.current; (x who).within : Run (Bound Store) α).outcome c =
      ((x c.identity.current).within).outcome c := rfl

theorem outcome_perform (st : Site) (name : String) (args : List Value) (named : Bindings) (c : Bound Store) :
    (st.perform name args named).outcome c =
      ((st.operations.call st.rules.handler c.identity.current name args named).within).outcome c := by
  unfold Site.perform
  exact outcome_forBound (fun who => st.operations.call st.rules.handler who name args named) c

theorem perform_user (hst : site = .ok st) (user : String) (c : Bound Store) :
    ∃ v, (st.perform "list_for_owner" [.text user] []).outcome c = (.ok v, c) := by
  rw [outcome_perform, call_user hst]
  exact ⟨_, rfl⟩

theorem outcome_visit_user (hst : site = .ok st) {who : Authentication} {user : String}
    (h : st.rules.within.Ends b.world.accounts r b (.served who)) :
    ∃ j, ((st.visit .listForOwner [("username", user)] .null r).outcome b).1 = .ok (Response.json 200 j) := by
  obtain ⟨c, _, hc⟩ := h
  obtain ⟨v, hv⟩ := perform_user hst user c
  have hanswer : st.answerOf who [("username", user)] .null .listForOwner = .ok (do
      return Response.json 200 (shown (← st.perform "list_for_owner" [.text user] []))) := by
    unfold Site.answerOf
    rw [List.lookup_cons, beq_self_eq_true]
    rfl
  refine ⟨shown v, ?_⟩
  rw [outcome_visit_served rfl hanswer hc, Run.outcome_bind, hv]
  rfl

/-- Without proof of an identity only the health of the site is seen, and from inside whether it is there. Every
other request for a page is told to prove an identity, unless its authorization is of another scheme or its body
cannot be read. In no case does it change a document. -/
theorem closed_to_nobody (hst : site = .ok st) (hr : r.Unproved)
    (hfound : lookupPage r.path r.method = .found page vars) (hpage : page ≠ .description)
    (hown : r.path ≠ nobodysPath) (sent : Sent) (b : Bound Store) :
    st.rules.within.Ends b.world.accounts r b (nobodysEnding r) ∧
      Response.ofOutcome ((st.respond sent r).outcome b).1 = answerToNobody page sent r ∧
      ((st.respond sent r).outcome b).2.world = b.world := by
  obtain ⟨hw, _⟩ := site_parts hst
  have hends := hw.ends_nobody hr hfound hpage hown b.world.accounts b
  have hshown : ∀ l, r.location? = some l → l.path = r.path := by
    obtain ⟨l, hl, hpath⟩ := hr.located
    intro l' hl'
    rw [Option.some.inj (hl'.symm.trans hl), hpath]
  refine ⟨hends, ?_, respond_keeps hst hshown hr.bearerless sent b⟩
  rw [respond_found hfound hpage]
  unfold answerToNobody
  split
  next => rfl
  next body _ =>
    cases he : nobodysEnding r with
    | stopped f =>
      rw [he] at hends
      rw [outcome_visit_stopped hends]
      rfl
    | served who =>
      rw [he] at hends
      rw [outcome_visit_open (page_of_open hfound hr.unbroken (open_of_served he)) hends]
      rfl

end Responses

theorem answerToNobody_refused {page : Page} {sent : Sent} {r : Request} (hbody : page.hasBody = false)
    (hheader : (r.header? "Authorization").getD "" = "") (hopen : r.isOpenToAll = false) :
    answerToNobody page sent r = Response.detail 401 "Authentication required" := by
  unfold answerToNobody nobodysEnding
  rw [if_neg (Bool.eq_false_iff.mp hbody), if_neg (not_not.mpr hheader), if_neg (Bool.eq_false_iff.mp hopen)]
  rfl

/-- A request for the list of documents, with no credential. -/
def listRequest : Request :=
  { path := "/documents", headers := [("host", "testserver")], client := some "testclient" }

theorem closed_to_nobody_list :
    ∃ st, site = .ok st ∧ listRequest.Unproved ∧ lookupPage listRequest.path listRequest.method = .found .list [] ∧
      Page.list ≠ .description ∧ listRequest.path ≠ nobodysPath ∧
      Response.ofOutcome ((st.respond {} listRequest).outcome { world := Store.demo }).1 =
        Response.detail 401 "Authentication required" := by
  obtain ⟨st, hst⟩ := site_built
  have hfound : lookupPage listRequest.path listRequest.method = .found .list [] := rfl
  have hpage : Page.list ≠ .description := by decide
  obtain ⟨hr, hown, hheader, hopen⟩ : listRequest.Unproved ∧ listRequest.path ≠ nobodysPath ∧
      (listRequest.header? "Authorization").getD "" = "" ∧ listRequest.isOpenToAll = false := by decide +kernel
  obtain ⟨_, hanswer, _⟩ := closed_to_nobody hst hr hfound hpage hown {} { world := Store.demo }
  exact ⟨st, hst, hr, hfound, hpage, hown, hanswer.trans (answerToNobody_refused rfl hheader hopen)⟩

/-- A request of a client for a page that is answered with a status, although it gives no proof of an identity and
is not one that everybody may send. -/
structure AnsweredAnyway (st : Site) (s : Sent) (page : Page) (status : Nat) : Prop where
  unproved : (s.received "testclient").Unproved
  notOpen : (s.received "testclient").isOpenToAll = false
  found : ∃ vars, lookupPage (s.received "testclient").path (s.received "testclient").method = .found page vars
  status : (Response.ofOutcome ((st.respond s (s.received "testclient")).outcome
    { world := Store.demo }).1).status = status

/-- A request for the documents of somebody who is called like nobody in particular. -/
def namesakeRequest : Sent := { target := nobodysPath }

/-- A request whose body cannot be read. -/
def unreadableRequest : Sent :=
  { method := "POST", target := "/documents", headers := [("Content-Type", "application/json")], body := "\x7bbad" }

/-- A request with an authorization of another scheme. -/
def foreignRequest : Sent := { target := "/documents", headers := [("Authorization", "Basic eA==")] }

theorem namesake_answered {st : Site} (hst : site = .ok st) :
    AnsweredAnyway st namesakeRequest .listForOwner 200 := by
  obtain ⟨hw, _⟩ := site_parts hst
  have hfound : lookupPage (namesakeRequest.received "testclient").path
      (namesakeRequest.received "testclient").method = .found .listForOwner [("username", "anonymousUser")] := rfl
  obtain ⟨hr, hclosed, hheader, hopens⟩ : (namesakeRequest.received "testclient").Unproved ∧
      (namesakeRequest.received "testclient").isOpenToAll = false ∧
      ((namesakeRequest.received "testclient").header? "Authorization").getD "" = "" ∧
      Page.listForOwner.opensTo (namesakeRequest.received "testclient") = true := by decide +kernel
  have hends := hw.ends_unproved hr hfound (by decide) hheader Store.demo.accounts { world := Store.demo }
  rw [if_pos hopens] at hends
  obtain ⟨j, hj⟩ := outcome_visit_user hst (b := { world := Store.demo }) hends
  refine ⟨hr, hclosed, ⟨_, hfound⟩, ?_⟩
  rw [respond_found hfound (by decide)]
  exact congrArg (fun x => (Response.ofOutcome x).status) hj

theorem unreadable_answered (st : Site) : AnsweredAnyway st unreadableRequest .create 422 := by
  have hfound : lookupPage (unreadableRequest.received "testclient").path
      (unreadableRequest.received "testclient").method = .found .create [] := rfl
  obtain ⟨hr, hclosed, hbody⟩ : (unreadableRequest.received "testclient").Unproved ∧
      (unreadableRequest.received "testclient").isOpenToAll = false ∧
      (bodyOf unreadableRequest (unreadableRequest.received "testclient")).toOption.isNone = true := by
    decide +kernel
  refine ⟨hr, hclosed, ⟨_, hfound⟩, ?_⟩
  rw [respond_found hfound (by decide), if_pos (show Page.create.hasBody = true from rfl)]
  cases he : bodyOf unreadableRequest (unreadableRequest.received "testclient") with
  | error fs => rfl
  | ok body =>
    rw [he] at hbody
    cases hbody

theorem foreign_answered {st : Site} (hst : site = .ok st) : AnsweredAnyway st foreignRequest .list 400 := by
  obtain ⟨hw, _⟩ := site_parts hst
  have hfound : lookupPage (foreignRequest.received "testclient").path
      (foreignRequest.received "testclient").method = .found .list [] := rfl
  obtain ⟨hr, hclosed, hown, hheader⟩ : (foreignRequest.received "testclient").Unproved ∧
      (foreignRequest.received "testclient").isOpenToAll = false ∧
      (foreignRequest.received "testclient").path ≠ nobodysPath ∧
      ((foreignRequest.received "testclient").header? "Authorization").getD "" ≠ "" := by decide +kernel
  have hends := hw.ends_nobody hr hfound (by decide) hown Store.demo.accounts { world := Store.demo }
  unfold nobodysEnding at hends
  rw [if_pos hheader] at hends
  refine ⟨hr, hclosed, ⟨_, hfound⟩, ?_⟩
  rw [respond_found hfound (by decide)]
  exact congrArg (fun x => (Response.ofOutcome x).status) (outcome_visit_stopped (b := { world := Store.demo }) hends)

/-- Nobody in particular is not always told to prove an identity: not where a name is compared with that of
nobody, not where a body cannot be read, and not where the authorization is of another scheme. -/
theorem nobody_answered_otherwise :
    ∃ st, site = .ok st ∧ AnsweredAnyway st namesakeRequest .listForOwner 200 ∧
      AnsweredAnyway st unreadableRequest .create 422 ∧ AnsweredAnyway st foreignRequest .list 400 := by
  obtain ⟨st, hst⟩ := site_built
  exact ⟨st, hst, namesake_answered hst, unreadable_answered st, foreign_answered hst⟩

end Documents

end AccessPolicy
