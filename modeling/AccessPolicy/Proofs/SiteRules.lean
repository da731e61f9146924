import Mathlib
import AccessPolicy.Documents.Site
import AccessPolicy.Proofs.Fitting
import AccessPolicy.Proofs.Keeping
import AccessPolicy.Proofs.Operations

/-!
The rules of the document site. Every page is under one guard, whichever rule its path finds: no other rule
begins as the page's path does and is for its method.
-/

namespace AccessPolicy

section Acceptance

variable {σ : Type} {h : Handler σ}

theorem Beans.ofEntries_ok {entries : Bindings} {beans : Beans} (h : ofEntries entries = .ok beans) :
    beans.entries = entries := by
  unfold ofEntries at h
  split at h
  next =>
    split at h
    next =>
      cases h
      rfl
    next => cases h
  next => cases h

/-- Whether a range can be read does not depend on where the guard stands. -/
theorem Handler.checkRange_relabelled {label label' : String} {args : List Literal}
    (hargs : (checkRange label args).toOption.isSome = true) : checkRange label' args = .ok () := by
  cases args with
  | nil => cases hargs
  | cons c more =>
    cases more with
    | nil =>
      unfold checkRange at hargs ⊢
      dsimp only at hargs ⊢
      split at hargs
      next => rfl
      next => cases hargs
    | cons d more => cases hargs

namespace Rules

/-- A rule is accepted whose path can be read and whose guard is accepted under any label. -/
theorem route_total {rule : RouteRule} {t : PathTemplate} (ht : PathTemplate.read rule.path = .ok t)
    (hguard : ∀ label, ∃ g, h.guard rule.guard label = .ok g ∧ h.validate g t.variableNames true = .ok ()) (index : Nat) :
    ∃ r, route h index rule = .ok r := by
  obtain ⟨g, hg, hv⟩ := hguard ("routes[" ++ toString index ++ "] " ++ rule.path)
  unfold route
  simp only [ht, hg, hv, bind, Except.bind, pure, Except.pure]
  exact ⟨_, rfl⟩

theorem routesOf_total {p : Policy}
    (hdefault : ∃ g, h.guard p.default "default" = .ok g ∧ h.validate g [] true = .ok ())
    (hroutes : ∀ rule ∈ p.routes, ∀ index, ∃ r, route h index rule = .ok r) : ∃ rs, routesOf h p = .ok rs := by
  obtain ⟨g, hg, hv⟩ := hdefault
  unfold routesOf
  refine except_bind_total (except_mapM_total fun e he => ?_) fun routes => ?_
  · obtain ⟨i, hi, rfl⟩ := List.mem_mapIdx.mp he
    exact hroutes _ (List.getElem_mem hi) i
  · simp only [hg, hv, bind, Except.bind, pure, Except.pure]
    exact ⟨_, rfl⟩

end Rules

end Acceptance

namespace Documents

open Handler (caller)

/-- What is known of the rules of the site once they are read and checked. -/
structure AtWork (rs : Rules Store) : Prop where
  credentials : rs.credentials = {}
  routes : Rules.routesOf rs.handler sitePolicy = .ok rs.routes
  templates : rs.handler.templates = ⟨sitePolicy.templates⟩
  rolePrefix : rs.handler.rolePrefix = some "ROLE_"
  hierarchy : ∃ implied, RoleHierarchy.ofImplications sitePolicy.hierarchy = .ok implied ∧
    rs.handler.hierarchy = some implied
  evaluator : rs.handler.evaluator =
    some (.delegating [("Document", evaluator)] (some (.byRole (Rules.grants sitePolicy) rs.handler.hierarchy)))
  send : rs.handler.send = send

/-- The handler that evaluates the guards of the site. -/
def siteHandler : Except Misconfiguration (Handler Store) :=
  Rules.handlerOf sitePolicy [("Document", evaluator)] [("documentAccess", .object access)] send

/-- What it is made of. -/
structure Equipped (h : Handler Store) : Prop where
  templates : h.templates = ⟨sitePolicy.templates⟩
  rolePrefix : h.rolePrefix = some "ROLE_"
  hierarchy : ∃ implied, RoleHierarchy.ofImplications sitePolicy.hierarchy = .ok implied ∧ h.hierarchy = some implied
  evaluator : h.evaluator =
    some (.delegating [("Document", evaluator)] (some (.byRole (Rules.grants sitePolicy) h.hierarchy)))
  beans : h.beans.entries = [("documentAccess", .object access)]
  send : h.send = send

theorem equipped_of_ok {h : Handler Store} (hh : siteHandler = .ok h) : Equipped h := by
  unfold siteHandler Rules.handlerOf at hh
  dsimp only at hh
  obtain ⟨hierarchy, hhierarchy, hh⟩ := except_bind_ok hh
  obtain ⟨beans, hbeans, hh⟩ := except_bind_ok hh
  cases hh
  cases himplied : RoleHierarchy.ofImplications sitePolicy.hierarchy with
  | error problem =>
    rw [himplied] at hhierarchy
    cases hhierarchy
  | ok implied =>
    rw [himplied] at hhierarchy
    cases hhierarchy
    exact ⟨rfl, rfl, ⟨implied, himplied, rfl⟩, rfl, Beans.ofEntries_ok hbeans, rfl⟩

theorem siteRules_parts {rs : Rules Store} (h : siteRulesAtWork = .ok rs) :
    siteHandler = .ok rs.handler ∧ Rules.routesOf rs.handler sitePolicy = .ok rs.routes ∧ rs.credentials = {} := by
  unfold siteRulesAtWork Rules.of at h
  split at h
  next => cases h
  next handler hhandler =>
    obtain ⟨routes, hroutes, h⟩ := except_bind_ok h
    cases h
    exact ⟨hhandler, hroutes, rfl⟩

theorem atWork_of_ok {rs : Rules Store} (h : siteRulesAtWork = .ok rs) : AtWork rs := by
  obtain ⟨hhandler, hroutes, hcredentials⟩ := siteRules_parts h
  have hh := equipped_of_ok hhandler
  exact ⟨hcredentials, hroutes, hh.templates, hh.rolePrefix, hh.hierarchy, hh.evaluator, hh.send⟩

theorem site_parts {st : Site} (h : site = .ok st) :
    AtWork st.rules ∧ service st.rules.handler = .ok st.operations := by
  unfold site at h
  obtain ⟨rules, hrules, h⟩ := except_bind_ok h
  obtain ⟨operations, hoperations, h⟩ := except_bind_ok h
  cases h
  exact ⟨atWork_of_ok hrules, hoperations⟩

/-- The guard that each page is under, as it is written. -/
def Page.source : Page → String
  | .description | .health => "permitAll"
  | .ping => "hasIpAddress('127.0.0.1/32') or hasIpAddress('10.0.0.0/8')"
  | .caller | .list | .index | .fetch => "isAuthenticated()"
  | .accounts => "hasRole('ADMIN') and isFullyAuthenticated()"
  | .audit => "hasPermission('daily', 'AuditReport', 'read')"
  | .create | .rename | .deleteMany => "isFullyAuthenticated()"
  | .delete => "isFullyAuthenticated() and (documentAccess.is_owner(authentication, document_id) or hasRole('ADMIN'))"
  | .listForOwner => "authentication.name == username or hasRole('STAFF')"

/-- And as it is read. -/
def Page.guard : Page → Plain
  | .description | .health => .read "permitAll"
  | .ping => .either (.ask "hasIpAddress" [.text "127.0.0.1/32"]) (.ask "hasIpAddress" [.text "10.0.0.0/8"])
  | .caller | .list | .index | .fetch => .ask "isAuthenticated" []
  | .accounts => .both (.ask "hasRole" [.text "ADMIN"]) (.ask "isFullyAuthenticated" [])
  | .audit => .ask "hasPermission" [.text "daily", .text "AuditReport", .text "read"]
  | .create | .rename | .deleteMany => .ask "isFullyAuthenticated" []
  | .delete => .both (.ask "isFullyAuthenticated" [])
      (.either (.send "documentAccess" "is_owner" [.name "authentication", .name "document_id"])
        (.ask "hasRole" [.text "ADMIN"]))
  | .listForOwner => .either (.same (.attribute "authentication" "name") (.name "username"))
      (.ask "hasRole" [.text "STAFF"])

theorem reads_all : Guard.readsAs "permitAll" (.read "permitAll") = true := by
  decide +kernel

theorem reads_authenticated : Guard.readsAs "isAuthenticated()" (.ask "isAuthenticated" []) = true := by
  decide +kernel

theorem Page.guard_read (page : Page) : Guard.readsAs page.source page.guard = true := by
  cases page with
  | description | health => exact reads_all
  | caller | list | index | fetch => exact reads_authenticated
  | create | rename | deleteMany => exact reads_full
  | ping | accounts | audit | delete | listForOwner => decide +kernel

/-- Whether a rule is for a method and begins as a path template does. -/
def couldTake (rule : RouteRule) (path : PathTemplate) (method : String) : Bool :=
  (rule.methods.any fun m => Text.upper m == Text.upper method) && path.begins rule.template

/-- The pages with guards that name a variable of the path. -/
def Page.namesVariable (p : Page) : Bool := p == .listForOwner || p == .delete

theorem rules_agree : (entries.all fun e => e.page == .description || e.methods.all fun method =>
    siteRules.all fun rule => !couldTake rule e.path method ||
      ((⟨sitePolicy.templates⟩ : Templates).expand rule.guard).toOption == some e.page.source &&
        (!e.page.namesVariable || rule.template == e.path)) = true := by
  cbv

/-- The pages that no rule is for: the default decides about them. -/
def Page.isUnruled (p : Page) : Bool := p == .list || p == .index || p == .fetch

/-- Every other page but one has a rule with its own path. -/
theorem rules_complete : (entries.all fun e => e.page == .description || e.page == .ping || e.page.isUnruled ||
    e.methods.all fun method => siteRules.any fun rule =>
      (rule.methods.any fun m => Text.upper m == Text.upper method) && rule.template == e.path) = true := by
  cbv

theorem unruled_source {page : Page} (h : page.isUnruled = true) : page.source = "isAuthenticated()" := by
  cases page with
  | list | index | fetch => rfl
  | _ => cases h

/-- The names that the guard of a rule may use, if its path has these variables. -/
def usable (vars : List String) : List String :=
  Predicate.common.map Predicate.name ++ commonVariables ++ ["documentAccess"] ++ vars ++ ["request", "hasIpAddress"]

/-- Whether a guard text is that of a page and stands where its names are known. -/
def Page.isGuardedBy (p : Page) (text : GuardText) (vars : List String) : Bool :=
  ((⟨sitePolicy.templates⟩ : Templates).expand text).toOption == some p.source &&
    (p.guard.expr.freeNames.all fun n => (usable vars).contains n) &&
      ((⟨p.source, "", p.guard.expr⟩ : Guard).literalArguments "hasIpAddress").all fun args =>
        (Handler.checkRange "" args).toOption.isSome

theorem siteHandler_accepted : ∃ h, siteHandler = .ok h := by
  have hhierarchy : (RoleHierarchy.ofImplications sitePolicy.hierarchy).toOption.isSome = true := by decide +kernel
  have hbeans : (Beans.ofEntries [("documentAccess", .object access)]).toOption.isSome = true := by decide +kernel
  obtain ⟨implied, hhierarchy⟩ := Option.isSome_iff_exists.mp hhierarchy
  obtain ⟨beans, hbeans⟩ := Option.isSome_iff_exists.mp hbeans
  unfold siteHandler Rules.handlerOf
  rw [except_ok_of_toOption hhierarchy, except_ok_of_toOption hbeans]
  exact ⟨_, rfl⟩

theorem default_read : Page.list.isGuardedBy sitePolicy.default [] = true := by
  decide +kernel

theorem siteRules_read : (siteRules.all fun rule => (PathTemplate.read rule.path).toOption.any fun t =>
    entries.any fun e => e.page.isGuardedBy rule.guard t.variableNames) = true := by
  decide +kernel

theorem Equipped.accepts {h : Handler Store} (hh : Equipped h) {page : Page} {text : GuardText} {vars : List String}
    (hpage : page.isGuardedBy text vars = true) (label : String) :
    ∃ g, h.guard text label = .ok g ∧ h.validate g vars true = .ok () := by
  unfold Page.isGuardedBy at hpage
  obtain ⟨hpage, hranges⟩ := Bool.and_eq_true_iff.mp hpage
  obtain ⟨hsource, hnames⟩ := Bool.and_eq_true_iff.mp hpage
  have hguard : h.guard text label = .ok ⟨page.source, label, page.guard.expr⟩ := by
    rw [Handler.guard, hh.templates, Guard.read_expanded (except_ok_of_toOption (beq_iff_eq.mp hsource)),
      Guard.ofText_plain page.guard_read]
  have hknown : h.knownNames vars true = usable vars := by
    unfold Handler.knownNames Beans.names
    rw [hh.beans]
    rfl
  refine ⟨_, hguard, Handler.validate_total (by rw [hh.evaluator]; rfl) (fun n hn => ?_) fun _ args hargs => ?_⟩
  · rw [hknown]
    exact List.contains_iff_mem.mp (List.all_eq_true.mp hnames n hn)
  · exact Handler.checkRange_relabelled (List.all_eq_true.mp hranges args hargs)

theorem siteRules_accepted : ∃ rs, siteRulesAtWork = .ok rs := by
  obtain ⟨handler, hhandler⟩ := siteHandler_accepted
  have hh := equipped_of_ok hhandler
  obtain ⟨routes, hroutes⟩ : ∃ routes, Rules.routesOf handler sitePolicy = .ok routes := by
    refine Rules.routesOf_total (hh.accepts default_read _) fun rule hrule => ?_
    obtain ⟨t, ht, hentries⟩ := (Option.any_eq_true _ _).mp (List.all_eq_true.mp siteRules_read rule hrule)
    obtain ⟨e, _, hpage⟩ := List.any_eq_true.mp hentries
    exact Rules.route_total (except_ok_of_toOption ht) (hh.accepts hpage)
  refine ⟨⟨sitePolicy.credentials, handler, routes⟩, ?_⟩
  unfold siteRulesAtWork Rules.of
  rw [show Rules.handlerOf sitePolicy [("Document", evaluator)] [("documentAccess", .object access)] send = _ from hhandler]
  dsimp only
  rw [hroutes]
  rfl

section Found

variable {rs : Rules Store} {path method : String} {page : Page} {vars : List (String × String)}

theorem lookupPage_found (h : lookupPage path method = .found page vars) :
    ∃ e ∈ entries, e.page = page ∧ method ∈ e.methods ∧ e.path.fit? path.toList = some vars := by
  unfold lookupPage at h
  dsimp only at h
  split at h
  next e vs hfind =>
    cases h
    have hmethod := List.find?_some hfind
    obtain ⟨e', he, hfit⟩ := List.mem_filterMap.mp (List.mem_of_find?_eq_some hfind)
    obtain ⟨vs', hvs, heq⟩ := Option.map_eq_some_iff.mp hfit
    cases heq
    exact ⟨e, he, rfl, List.contains_iff_mem.mp hmethod, hvs⟩
  next => split at h <;> cases h

theorem AtWork.guard_eq (hw : AtWork rs) {text : GuardText} {label : String} {g : Guard}
    (hg : rs.handler.guard text label = .ok g)
    (hsource : ((⟨sitePolicy.templates⟩ : Templates).expand text).toOption = some page.source) :
    g = ⟨page.source, label, page.guard.expr⟩ := by
  rw [Handler.guard, hw.templates, Guard.read_expanded (except_ok_of_toOption hsource),
    Guard.ofText_plain page.guard_read] at hg
  exact (Except.ok.inj hg).symm

theorem couldTake_of_takes {rule : RouteRule} {e : Entry} {vs : List (String × String)}
    (ht : Rules.Takes rule path method vs) (he : e.path.fit? path.toList = some vars) :
    couldTake rule e.path method = true := by
  obtain ⟨⟨m, hm, hsame⟩, hfit⟩ := ht
  exact Bool.and_eq_true_iff.mpr ⟨List.any_eq_true.mpr ⟨m, hm, beq_iff_eq.mpr hsame⟩,
    PathTemplate.begins_of_fit? he hfit⟩

theorem ping_entry : ∀ e ∈ entries, e.page = .ping →
    e.methods = ["GET"] ∧ e.path = "/internal/ping".toList.map .char := by
  decide

/-- A page that rules are for is taken by one of them. -/
theorem takes_of_ruled (h : lookupPage path method = .found page vars) (hpage : page ≠ .description)
    (hruled : page.isUnruled = false) : ∃ rule ∈ siteRules, ∃ vs, Rules.Takes rule path method vs := by
  obtain ⟨e, he, rfl, hmethod, hfit⟩ := lookupPage_found h
  by_cases hping : e.page = .ping
  · obtain ⟨hmethods, hpath⟩ := ping_entry e he hping
    rw [hmethods, List.mem_singleton] at hmethod
    rw [hpath] at hfit
    have hrule : siteRules[11] ∈ siteRules := List.getElem_mem _
    refine ⟨siteRules[11], hrule, [("anything", String.ofList (path.toList.drop 10))], ⟨"GET", List.mem_cons_self, ?_⟩, ?_⟩
    · rw [hmethod]
    · rcases PathTemplate.plain_of_fit? hfit with hcs | hcs
      · rw [hcs]
        decide
      · rw [hcs]
        decide
  · have hcomplete := List.all_eq_true.mp rules_complete e he
    simp only [hpage, hping, hruled, beq_iff_eq, Bool.or_eq_true, List.all_eq_true, List.any_eq_true,
      Bool.and_eq_true, false_or, Bool.false_eq_true] at hcomplete
    obtain ⟨rule, hrule, ⟨m, hm, hsame⟩, htemplate⟩ := hcomplete method hmethod
    exact ⟨rule, hrule, vars, ⟨m, hm, hsame⟩, htemplate ▸ hfit⟩

/-- The guard that a request for a page finds is that of the page. -/
theorem AtWork.found_guard (hw : AtWork rs) (h : lookupPage path method = .found page vars) (hpage : page ≠ .description) :
    ∃ label, (rs.routes.find path method).guard = ⟨page.source, label, page.guard.expr⟩ := by
  obtain ⟨e, he, rfl, hmethod, hfit⟩ := lookupPage_found h
  rcases Rules.find_takes hw.routes path method with ⟨hdefault, hnone⟩ | ⟨i, rule, hrule, ht, hg⟩
  · have hunruled : e.page.isUnruled = true := by
      by_contra hruled
      obtain ⟨rule, hrule, vs, ht⟩ := takes_of_ruled h hpage (Bool.eq_false_iff.mpr hruled)
      exact hnone rule hrule vs ht
    have hg := (Rules.routesOf_ok hw.routes).1
    rw [hdefault]
    exact ⟨"default", hw.guard_eq hg (by rw [unruled_source hunruled]; rfl)⟩
  · have hagree := List.all_eq_true.mp rules_agree e he
    simp only [hpage, beq_iff_eq, Bool.or_eq_true, List.all_eq_true, Bool.and_eq_true, false_or, Bool.not_eq_true'] at hagree
    rcases hagree method hmethod rule (List.mem_of_getElem? hrule) with hcould | ⟨hsource, _⟩
    · rw [couldTake_of_takes ht hfit] at hcould
      cases hcould
    · exact ⟨_, hw.guard_eq hg hsource⟩

theorem templates_distinct : ∀ rule ∈ siteRules, rule.template.variableNames.Nodup := by
  decide

theorem AtWork.found_names (hw : AtWork rs) (path method : String) :
    ((rs.routes.find path method).pathVariables.map Prod.fst).Nodup := by
  rcases Rules.find_takes hw.routes path method with ⟨hdefault, _⟩ | ⟨i, rule, hrule, ⟨_, hfit⟩, _⟩
  · rw [hdefault]
    exact List.nodup_nil
  · rw [PathTemplate.fit?_names hfit]
    exact templates_distinct rule (List.mem_of_getElem? hrule)

/-- A page with such a guard is under a rule with its own path, so the two see the same variables. -/
theorem AtWork.found_variables (hw : AtWork rs) (h : lookupPage path method = .found page vars)
    (hpage : page.namesVariable = true) : (rs.routes.find path method).pathVariables = vars := by
  have hopen : page ≠ .description := by
    rintro rfl
    cases hpage
  have hruled : page.isUnruled = false := by
    cases page with
    | listForOwner | delete => rfl
    | _ => cases hpage
  obtain ⟨e, he, rfl, hmethod, hfit⟩ := lookupPage_found h
  rcases Rules.find_takes hw.routes path method with ⟨_, hnone⟩ | ⟨i, rule, hrule, ht, _⟩
  · obtain ⟨rule, hrule, vs, ht⟩ := takes_of_ruled h hopen hruled
    exact absurd ht (hnone rule hrule vs)
  · have hagree := List.all_eq_true.mp rules_agree e he
    simp only [hopen, hpage, beq_iff_eq, Bool.or_eq_true, List.all_eq_true, Bool.and_eq_true, false_or,
      Bool.not_eq_true', Bool.not_true, Bool.false_eq_true] at hagree
    rcases hagree method hmethod rule (List.mem_of_getElem? hrule) with hcould | ⟨_, htemplate⟩
    · rw [couldTake_of_takes ht hfit] at hcould
      cases hcould
    · have hsame := ht.2
      rw [htemplate, hfit] at hsame
      exact (Option.some.inj hsame).symm

end Found

section Rulings

variable {rs : Rules Store} {r : Request} {page : Page} {vars : List (String × String)} {location : Location}
  {who : Authentication}

/-- What the guard of a request sees. -/
def requestContext (rs : Rules Store) (who : Authentication) (r : Request) : Context (Bound Store) :=
  rs.within.context (some who) (.request r) (rs.routes.find r.path r.method)

theorem AtWork.identifies_found (hw : AtWork rs) (who : Authentication) (r : Request) (path : String) :
    rs.within.handler.Identifies (some who)
      (rs.within.context (some who) (.request r) (rs.routes.find path r.method)) := by
  refine Handler.webContext_identifies ?_
  have hnames (vs : List (String × String)) : Bindings.names (vs.map fun v => (v.1, Value.text v.2)) = vs.map Prod.fst :=
    List.map_map
  change (Bindings.names ((rs.routes.find path r.method).pathVariables.map fun v => (v.1, Value.text v.2))).Nodup
  rw [hnames]
  exact hw.found_names _ _

theorem AtWork.identifies (hw : AtWork rs) (who : Authentication) (r : Request) :
    rs.within.handler.Identifies (some who) (requestContext rs who r) :=
  hw.identifies_found who r r.path

/-- What the rules say to a request whose location shows the path of a page is what the guard of the page means. -/
theorem AtWork.ruling_found (hw : AtWork rs) (h : lookupPage location.path r.method = .found page vars)
    (hpage : page ≠ .description) {x : Run (Bound Store) Bool}
    (hx : page.guard.Means (rs.within.context (some who) (.request r) (rs.routes.find location.path r.method))
      page.source (Value.bool <$> x))
    (hown : x.FailsOnly fun f => f.isOwn = true) : rs.within.ruling who r location = Value.bool <$> x := by
  obtain ⟨label, hguard⟩ := hw.found_guard h hpage
  have hdecides : (Guard.mk page.source label page.guard.expr).Decides
      (rs.within.context (some who) (.request r) (rs.routes.find location.path r.method)) x := .of_means hx hown
  have hruling : rs.within.ruling who r location = (rs.routes.find location.path r.method).guard.evaluate
      (rs.within.context (some who) (.request r) (rs.routes.find location.path r.method)) := rfl
  rw [hruling, hguard, show Guard.evaluate _ _ = _ from hdecides]

/-- What they say to a request for a page, whose location shows the path it is for. -/
theorem AtWork.ruling_means (hw : AtWork rs) (h : lookupPage r.path r.method = .found page vars)
    (hpage : page ≠ .description) (hpath : location.path = r.path) {x : Run (Bound Store) Bool}
    (hx : page.guard.Means (requestContext rs who r) page.source (Value.bool <$> x))
    (hown : x.FailsOnly fun f => f.isOwn = true) : rs.within.ruling who r location = Value.bool <$> x := by
  refine hw.ruling_found (hpath ▸ h) hpage ?_ hown
  rw [hpath]
  exact hx

/-- Where the guard means a truth value, the rules say just that. -/
theorem AtWork.ruling_eq (hw : AtWork rs) (h : lookupPage r.path r.method = .found page vars)
    (hpage : page ≠ .description) (hpath : location.path = r.path) {x : Bool}
    (hx : page.guard.Means (requestContext rs who r) page.source (pure (.bool x))) :
    rs.within.ruling who r location = pure (.bool x) := by
  rw [hw.ruling_means h hpage hpath (by rwa [map_pure]) (.pure x), map_pure]

end Rulings

end Documents

end AccessPolicy
