import AccessPolicy.Proofs.Petitions

/-!
Entitlements are policies without negation. Their leaves ask what an identity holds, and what grants by authority
permit it; so whoever gets more authorities keeps every entitlement. Only a literal that is too long, where the
evaluation for the wider identity comes to one, stands in the way.
-/

namespace AccessPolicy

open Handler (caller)

variable {σ : Type}

/-- A policy without negation: its leaves are constants, questions about what an identity holds, and permission
questions, all of them about texts. -/
inductive Entitlement where
  | constant (b : Bool)
  | holds (kind : Holding) (byName : Bool) (name : String)
  | holdsAny (kind : Holding) (names : List String)
  | permission (p : Petition String)
  | connected (op : Connective) (first : Entitlement) (rest : List Entitlement)

/-- Whether an identity is another one with at least its authorities. -/
structure Authentication.Widens (a b : Authentication) : Prop where
  others : b = { a with authorities := b.authorities }
  authorities : a.authorities ⊆ b.authorities

namespace Petition

/-- The tag that grants know the type of what is asked about by. -/
def tag : Petition String → String
  | .object target _ => (Value.text target).typeTag
  | .byId _ type _ => type

def permission : Petition String → String
  | .object _ permission => permission
  | .byId _ _ permission => permission

end Petition

/-- Whether grants permit something to an authority that an identity holds or that is conferred on it. -/
def Grants.Permit (grants : Grants) (hierarchy : Option RoleHierarchy) (a : Authentication)
    (p : Petition String) : Prop :=
  ∃ authority, (∃ held ∈ a.authorities, Confers hierarchy held authority) ∧
    ∃ allowed ∈ grants.allowed (.text p.tag) p.permission, alike (.text authority) allowed = true

namespace Entitlement

mutual

def expr : Entitlement → Expr
  | .constant b => (Formula.constant b).expr
  | .holds kind byName name => (Formula.holds kind byName (.text name)).expr
  | .holdsAny kind names => (Formula.holdsAny kind (names.map .text)).expr
  | .permission p => (p.map .text).expr
  | .connected op f fs => .connected op (f.expr :: exprs fs)

def exprs : List Entitlement → List Expr
  | [] => []
  | f :: fs => f.expr :: exprs fs

end

mutual

/-- Whether an entitlement has a permission question. -/
def Asks : Entitlement → Prop
  | .permission _ => True
  | .connected _ f fs => Asks f ∨ AskAmong fs
  | _ => False

def AskAmong : List Entitlement → Prop
  | [] => False
  | f :: fs => Asks f ∨ AskAmong fs

end

variable (h : Handler σ) (grants : Grants) (hierarchy : Option RoleHierarchy) (who : Option Authentication)

mutual

/-- Whether an identity has an entitlement. -/
def Holds : Entitlement → Prop
  | .constant b => b = true
  | .holds kind _ name => Held h who kind (.text name)
  | .holdsAny kind names => ∃ c ∈ names.map Literal.text, Held h who kind c
  | .permission p => grants.Permit hierarchy (caller who) p
  | .connected op f fs => op.Joins (Holds f) (HoldTogether op fs)

/-- Whether an identity has all entitlements, or one of them. -/
def HoldTogether (op : Connective) : List Entitlement → Prop
  | [] => op = .and
  | f :: fs => op.Joins (Holds f) (HoldTogether op fs)

end

mutual

/-- Whether evaluation, which goes from left to right and only as far as it must, comes to a literal that is too
long. -/
def Breaks : Entitlement → Prop
  | .constant _ => False
  | .holds _ _ name => (Literal.text name).Overlong
  | .holdsAny _ names => ∃ c ∈ names.map Literal.text, c.Overlong
  | .permission p => (p.map .text).Overlong
  | .connected op f fs => Breaks f ∨ (Holds h grants hierarchy who f ↔ op = .and) ∧ BreakAmong op fs

def BreakAmong (op : Connective) : List Entitlement → Prop
  | [] => False
  | f :: fs => Breaks f ∨ (Holds h grants hierarchy who f ↔ op = .and) ∧ BreakAmong op fs

end

end Entitlement

section Permissions

variable {grants : Grants} {hierarchy : Option RoleHierarchy}

theorem PermissionEvaluator.ask_byRole {who : Option Authentication} {args : List Value} {q : PermissionQuestion}
    {b : Bool} (hq : PermissionQuestion.ofArgs? args = some q) (hb : byRoleAnswer grants hierarchy who q = .ok b) :
    (byRole grants hierarchy : PermissionEvaluator σ).ask who args = pure b := by
  simp only [ask, hq, answer, hb]
  rfl

theorem permit_iff (grants : Grants) (hierarchy : Option RoleHierarchy) (a : Authentication) (p : Petition String) :
    ∃ b, PermissionEvaluator.byRoleAnswer grants hierarchy (some a) (p.map .text).question = .ok b ∧
      (b = true ↔ grants.Permit hierarchy a p) := by
  refine ⟨(grantedUnder hierarchy a.authorities).any fun authority =>
    (grants.allowed (.text p.tag) p.permission).any (alike (.text authority)), ?_, ?_⟩
  · cases p <;> rfl
  · simp only [List.any_eq_true, mem_grantedUnder]
    rfl

theorem settles_permission {h : Handler σ} {who : Option Authentication} {ctx : Context σ} (hc : h.Identifies who ctx)
    (he : h.evaluator = some (.byRole grants hierarchy)) (source : String) (p : Petition String) :
    Settles (Evaluation.eval ctx source [] (p.map .text).expr) (p.map .text).Overlong
      (grants.Permit hierarchy (caller who) p) := by
  constructor
  · intro hbrief
    obtain ⟨b, hanswer, hiff⟩ := permit_iff grants hierarchy (caller who) p
    refine ⟨b, ?_, hiff⟩
    rw [Petition.eval_brief hc he hbrief, PermissionEvaluator.ask_byRole (Petition.ofArgs?_args _) hanswer, map_pure,
      liftM_pure]
  · intro hlong
    obtain ⟨n, hn, hfault⟩ := Petition.eval_overlong hlong
    exact ⟨n, hn, hfault hc source⟩

end Permissions

namespace Entitlement

variable {h : Handler σ} {grants : Grants} {hierarchy : Option RoleHierarchy} {who who' : Option Authentication}
  {ctx : Context σ}

mutual

theorem settles_eval (hc : h.Identifies who ctx) (source : String) (f : Entitlement)
    (he : f.Asks → h.evaluator = some (.byRole grants hierarchy)) :
    Settles (Evaluation.eval ctx source [] f.expr) (f.Breaks h grants hierarchy who)
      (f.Holds h grants hierarchy who) :=
  match f with
  | .constant b => settles_constant hc b
  | .holds kind byName name => settles_holds hc kind byName (.text name)
  | .holdsAny kind names => settles_holdsAny hc kind (names.map .text)
  | .permission p => settles_permission hc (he trivial) source p
  | .connected op f fs =>
    settles_chain hc source op f (settles_eval hc source f fun ha => he (.inl ha)) fs fun ha => he (.inr ha)
termination_by structural f

theorem settles_chain (hc : h.Identifies who ctx) (source : String) (op : Connective) (f : Entitlement)
    (hf : Settles (Evaluation.eval ctx source [] f.expr) (f.Breaks h grants hierarchy who)
      (f.Holds h grants hierarchy who)) (fs : List Entitlement)
    (he : AskAmong fs → h.evaluator = some (.byRole grants hierarchy)) :
    Settles (Evaluation.evalConnected ctx source [] op (f.expr :: exprs fs))
      (f.Breaks h grants hierarchy who ∨
        (f.Holds h grants hierarchy who ↔ op = .and) ∧ BreakAmong h grants hierarchy who op fs)
      (op.Joins (f.Holds h grants hierarchy who) (HoldTogether h grants hierarchy who op fs)) :=
  match fs with
  | [] => hf.last
  | g :: gs =>
    hf.joined (settles_chain hc source op g (settles_eval hc source g fun ha => he (.inl ha)) gs
      fun ha => he (.inr ha))
termination_by structural fs

end

section Widening

theorem held_widened {kind : Holding} {c : Literal} (hw : (caller who).Widens (caller who')) :
    Held h who kind c → Held h who' kind c := by
  rintro ⟨name, authority, hname, hstands, a, ha, hconfers⟩
  exact ⟨name, authority, hname, hstands, a, hw.authorities ha, hconfers⟩

theorem permit_widened {a b : Authentication} {p : Petition String} (hw : a.Widens b) :
    grants.Permit hierarchy a p → grants.Permit hierarchy b p := by
  rintro ⟨authority, ⟨held, hheld, hconfers⟩, hallowed⟩
  exact ⟨authority, ⟨held, hw.authorities hheld, hconfers⟩, hallowed⟩

theorem joins_imp {op : Connective} {p q p' q' : Prop} (hp : p → p') (hq : q → q') :
    op.Joins p q → op.Joins p' q' := by
  cases op with
  | and => exact And.imp hp hq
  | or => exact Or.imp hp hq

mutual

/-- Entitlements are kept when authorities are added. -/
theorem holds_widened (hw : (caller who).Widens (caller who')) (f : Entitlement)
    (hf : f.Holds h grants hierarchy who) : f.Holds h grants hierarchy who' :=
  match f with
  | .constant _ => hf
  | .holds .. => held_widened hw hf
  | .holdsAny .. =>
    let ⟨c, hc, hheld⟩ := hf
    ⟨c, hc, held_widened hw hheld⟩
  | .permission _ => permit_widened hw hf
  | .connected _ f fs => joins_imp (holds_widened hw f) (holdTogether_widened hw fs) hf
termination_by structural f

theorem holdTogether_widened (hw : (caller who).Widens (caller who')) {op : Connective} (fs : List Entitlement)
    (hfs : HoldTogether h grants hierarchy who op fs) : HoldTogether h grants hierarchy who' op fs :=
  match fs with
  | [] => hfs
  | f :: fs => joins_imp (holds_widened hw f) (holdTogether_widened hw fs) hfs
termination_by structural fs

end

end Widening

end Entitlement

namespace Guard

variable {ctx : Context σ} {source label : String} {e : Expr} {breaks holds : Prop}

/-- A guard that lets somebody pass came to an end, and to the truth. -/
theorem holds_of_allowed (hs : Settles (Evaluation.eval ctx source [] e) breaks holds) {s : σ}
    (hallowed : (((Guard.mk source label e).allows ctx).outcome s).1 = .ok true) : holds := by
  by_cases hb : breaks
  · obtain ⟨n, _, hevaluate⟩ := broken hs label hb
    unfold allows at hallowed
    rw [hevaluate] at hallowed
    cases hallowed
  · obtain ⟨b, _, hallows, hiff⟩ := settled hs label hb
    rw [hallows] at hallowed
    cases hallowed
    exact hiff.mp rfl

/-- Granting more authorities never revokes access. A guard that is an entitlement lets an identity pass just if the
identity has it; so whoever passes still does with further authorities, whatever else the contexts are made for. Only
where evaluation for the wider identity comes to a literal that is too long, it fails. -/
theorem allows_widened (h : Handler σ) (grants : Grants) (hierarchy : Option RoleHierarchy) (f : Entitlement)
    (he : f.Asks → h.evaluator = some (.byRole grants hierarchy)) {who who' : Option Authentication}
    (hw : (caller who).Widens (caller who')) {ctx ctx' : Context σ} (hm : h.Makes who ctx)
    (hm' : h.Makes who' ctx') (source label : String) :
    (¬f.Breaks h grants hierarchy who' →
      ∃ b, (Guard.mk source label f.expr).allows ctx' = pure b ∧ (b = true ↔ f.Holds h grants hierarchy who') ∧
        ∀ s, (((Guard.mk source label f.expr).allows ctx).outcome s).1 = .ok true → b = true) ∧
    (f.Breaks h grants hierarchy who' →
      ∃ n, maxLength < n ∧ (Guard.mk source label f.expr).evaluate ctx' =
        throw (.evaluation label source (.expression (.iterableTooLong (.literal n))))) := by
  have hsettles := Entitlement.settles_eval hm.identifies source f he
  have hsettles' := Entitlement.settles_eval hm'.identifies source f he
  refine ⟨fun hbrief => ?_, broken hsettles' label⟩
  obtain ⟨b, _, hallows, hiff⟩ := settled hsettles' label hbrief
  refine ⟨b, hallows, hiff, fun s hallowed => hiff.mpr ?_⟩
  exact Entitlement.holds_widened hw f (holds_of_allowed hsettles hallowed)

end Guard

namespace Entitlement

def readersGrants : Grants := [(.text "Document", [(.text "read", [.text "ROLE_USER"])])]

/-- A handler whose evaluator lets users read documents. -/
def readers : Handler Unit where
  evaluator := some (.byRole readersGrants none)
  send _ _ _ _ := throw (.operand .wrongType)

def clerk : Authentication := .of "kim" ["ROLE_USER"] .null false []

def manager : Authentication := .of "kim" ["ROLE_USER", "ROLE_ADMIN"] .null false []

theorem manager_widens : clerk.Widens manager := ⟨by rfl, by decide⟩

/-- Administrators come in, and users who may read the document. -/
def adminOrReader : Entitlement :=
  .connected .or (.holds .role false "ADMIN")
    [.connected .and (.holdsAny .authority ["ROLE_USER"]) [.permission (.byId "7" "Document" "read")]]

def adminOrReaderGuard : Guard where
  source := "hasRole('ADMIN') or hasAnyAuthority('ROLE_USER') and hasPermission('7', 'Document', 'read')"
  label := "rule"
  expr := adminOrReader.expr

/-- Who comes in as a user still does as an administrator, though for another reason. -/
theorem manager_allowed : ¬adminOrReader.Breaks readers readersGrants none (some manager) ∧
    ((adminOrReaderGuard.allows (readers.commonContext (some clerk))).outcome ()).1 = .ok true ∧
    (adminOrReaderGuard.allows (readers.commonContext (some manager))).outcome () = (.ok true, ()) := by
  have hbrief : ¬adminOrReader.Breaks readers readersGrants none (some manager) := by
    simp only [adminOrReader, Breaks, BreakAmong, Petition.Overlong, Petition.args, Petition.map, Literal.Overlong,
      maxLength, List.map_cons, List.map_nil, List.exists_mem_cons_iff, List.not_mem_nil, false_and, exists_false,
      or_false, and_false, not_or, not_and, Nat.not_lt]
    exact ⟨by decide, fun _ => ⟨by decide, fun _ => by decide⟩⟩
  have hallowed : ((adminOrReaderGuard.allows (readers.commonContext (some clerk))).outcome ()).1 = .ok true :=
    except_ok_of_toOption (by decide +kernel)
  have hwidens : (caller (some clerk)).Widens (caller (some manager)) := manager_widens
  obtain ⟨hwidened, _⟩ := Guard.allows_widened readers readersGrants none adminOrReader (fun _ => rfl) hwidens
    .common .common adminOrReaderGuard.source "rule"
  obtain ⟨b, hallows, _, htrue⟩ := hwidened hbrief
  refine ⟨hbrief, hallowed, ?_⟩
  rw [show adminOrReaderGuard.allows _ = pure b from hallows, htrue () hallowed]
  rfl

/-- Administrators whose other role has too long a name come in, or anybody. -/
def longNameOrAll : Entitlement :=
  .connected .or (.connected .and (.holds .role false "ADMIN") [.holds .role false (Formula.repeated (maxLength + 1))])
    [.constant true]

def longNameGuard : Guard where
  source := "hasRole('ADMIN') and hasRole('" ++ Formula.repeated (maxLength + 1) ++ "') or permitAll"
  label := "rule"
  expr := longNameOrAll.expr

/-- Only for an administrator evaluation comes to the long name. -/
theorem manager_undecided : clerk.Widens manager ∧
    ((longNameGuard.allows (readers.commonContext (some clerk))).outcome ()).1 = .ok true ∧
    ((longNameGuard.allows (readers.commonContext (some manager))).outcome ()).1 ≠ .ok true := by
  refine ⟨manager_widens, except_ok_of_toOption (by decide +kernel), fun hallowed => ?_⟩
  have hadmin : Held readers (some manager) .role (.text "ADMIN") :=
    ⟨"ADMIN", "ROLE_ADMIN", rfl, standsFor_iff.mpr (by decide +kernel), "ROLE_ADMIN", by decide, rfl⟩
  have hbreaks : longNameOrAll.Breaks readers readersGrants none (some manager) :=
    .inl (.inr ⟨iff_of_true hadmin rfl, .inl Formula.repeated_overlong⟩)
  obtain ⟨n, _, hevaluate⟩ := Guard.broken
    (settles_eval Handler.commonContext_identifies longNameGuard.source longNameOrAll fun _ => rfl) "rule" hbreaks
  unfold Guard.allows at hallowed
  rw [show longNameGuard.evaluate _ = _ from hevaluate] at hallowed
  cases hallowed

end Entitlement

end AccessPolicy
