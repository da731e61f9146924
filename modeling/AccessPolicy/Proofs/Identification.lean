import AccessPolicy.Documents.Store
import AccessPolicy.Proofs.Decimals
import AccessPolicy.Proofs.Outcome

/-!
Whom a request identifies. A credential in its header comes before a cookie that remembers somebody, and only a
request with neither is one of nobody in particular; each of them stands for an account, which must be active.
-/

namespace AccessPolicy

/-- An identity with the name of an account and just its authorities. -/
structure Authentication.IsOf (who : Authentication) (a : Account) : Prop where
  name : who.name = some a.username
  authorities : ∀ authority, authority ∈ who.authorities ↔ authority ∈ a.authorities.map Prod.fst

namespace Credentials

/-- What the header for credentials says, which is nothing if a request has none. -/
def headerText (names : CredentialNames) (r : Request) : String := (r.header? names.header).getD ""

/-- What the cookie that remembers somebody says. -/
def cookieText (names : CredentialNames) (r : Request) : String := (r.cookie? names.cookie).getD ""

/-- A credential of the right scheme whose token consists of digits, whatever their script. -/
structure WellFormed (names : CredentialNames) (text : String) : Prop where
  scheme : schemeOf text = names.bearer
  token : tokenOf text ≠ ""
  digits : ∀ c ∈ (tokenOf text).toList, Text.isDigitLike c = true

/-- The account number that a request gives, and whether it is only remembered. -/
def claimed (names : CredentialNames) (r : Request) : Except Failure (Option (Int × Bool)) := do
  match ← bearer names r with
  | some n => return some (n, false)
  | none => return (← remembered names r).map fun n => (n, true)

/-- The ways in which a request gives an account number, or fails to. -/
inductive Claims (names : CredentialNames) (r : Request) : Except Failure (Option (Int × Bool)) → Prop where
  | unnamed (hname : isHeaderName names.header = false) : Claims names r (.error (.operand .unencodable))
  | malformed {detail : String} (hname : isHeaderName names.header = true) (hgiven : headerText names r ≠ "")
      (hform : ¬WellFormed names (headerText names r)) (hlocated : r.location?.isSome = true) :
      Claims names r (.error (.refused 400 detail))
  | misplaced (hname : isHeaderName names.header = true) (hgiven : headerText names r ≠ "")
      (hform : ¬WellFormed names (headerText names r)) (hlocated : r.location?.isSome = false) :
      Claims names r (.error (.operand .badValue))
  | unread (hname : isHeaderName names.header = true) (hgiven : headerText names r ≠ "")
      (hform : WellFormed names (headerText names r))
      (hnumber : Number.integer? (tokenOf (headerText names r)) = none) :
      Claims names r (.error (.operand .badValue))
  | proved {n : Int} (hname : isHeaderName names.header = true) (hgiven : headerText names r ≠ "")
      (hform : WellFormed names (headerText names r))
      (hnumber : Number.integer? (tokenOf (headerText names r)) = some n) :
      Claims names r (.ok (some (n, false)))
  | remembered {n : Int} (hname : isHeaderName names.header = true) (hsilent : headerText names r = "")
      (hnumber : Number.integer? (cookieText names r) = some n) : Claims names r (.ok (some (n, true)))
  | nobody (hname : isHeaderName names.header = true) (hsilent : headerText names r = "")
      (hnumber : Number.integer? (cookieText names r) = none)
      (hlocated : cookieText names r = "" ∨ r.location?.isSome = true) : Claims names r (.ok none)
  | mislaid (hname : isHeaderName names.header = true) (hsilent : headerText names r = "")
      (hcookie : cookieText names r ≠ "") (hnumber : Number.integer? (cookieText names r) = none)
      (hlocated : r.location?.isSome = false) : Claims names r (.error (.operand .badValue))

section Claims

variable {names : CredentialNames} {r : Request}

theorem not_wellFormed_iff (text : String) :
    ¬WellFormed names text ↔
      (schemeOf text != names.bearer || (tokenOf text).isEmpty) = true ∨
        (!(tokenOf text).toList.all Text.isDigitLike) = true := by
  have hform : WellFormed names text ↔ schemeOf text = names.bearer ∧ tokenOf text ≠ "" ∧
      ∀ c ∈ (tokenOf text).toList, Text.isDigitLike c = true :=
    ⟨fun h => ⟨h.scheme, h.token, h.digits⟩, fun ⟨h₁, h₂, h₃⟩ => ⟨h₁, h₂, h₃⟩⟩
  rw [hform]
  simp only [Bool.or_eq_true, bne_iff_ne, String.isEmpty_iff, Bool.not_eq_true', List.all_eq_false, ne_eq,
    not_and_or, not_not, not_forall, or_assoc, exists_prop]

theorem isHeaderName_default : isHeaderName (CredentialNames.header {}) = true := by
  decide +kernel

theorem bearer_silent (hname : isHeaderName names.header = true) (hsilent : headerText names r = "") :
    bearer names r = .ok none := by
  unfold headerText at hsilent
  unfold bearer
  rw [hname, hsilent]
  rfl

theorem bearer_given (hname : isHeaderName names.header = true) (hgiven : headerText names r ≠ "") :
    bearer names r =
      if schemeOf (headerText names r) != names.bearer || (tokenOf (headerText names r)).isEmpty then
        bad r ("Invalid " ++ names.header ++ ". Expected '" ++ names.bearer ++ " <user id>'.")
      else if !(tokenOf (headerText names r)).toList.all Text.isDigitLike then
        bad r "Bearer token must be a user id in this demo."
      else
        (Number.integer? (tokenOf (headerText names r))).elim (.error (.operand .badValue)) fun n => .ok (some n) := by
  unfold headerText at hgiven ⊢
  unfold bearer
  rw [hname, Bool.not_true, if_neg Bool.false_ne_true]
  split
  next hsilent => exact absurd hsilent hgiven
  next =>
    cases Number.integer? (tokenOf ((r.header? names.header).getD "")) <;> rfl

theorem bearer_malformed (hname : isHeaderName names.header = true) (hgiven : headerText names r ≠ "")
    (hform : ¬WellFormed names (headerText names r)) : ∃ detail, bearer names r = bad r detail := by
  rw [bearer_given hname hgiven]
  split
  · exact ⟨_, rfl⟩
  next hscheme =>
    have hdigits := ((not_wellFormed_iff _).mp hform).resolve_left hscheme
    exact ⟨_, if_pos hdigits⟩

theorem bearer_wellFormed (hname : isHeaderName names.header = true) (hgiven : headerText names r ≠ "")
    (hform : WellFormed names (headerText names r)) :
    bearer names r =
      (Number.integer? (tokenOf (headerText names r))).elim (.error (.operand .badValue)) fun n => .ok (some n) := by
  obtain ⟨hscheme, hdigits⟩ := not_or.mp (mt (not_wellFormed_iff _).mpr (not_not.mpr hform))
  rw [bearer_given hname hgiven, if_neg hscheme, if_neg hdigits]

theorem bad_eq (α : Type) (detail : String) :
    (bad r detail : Except Failure α) =
      .error (if r.location?.isSome then .refused 400 detail else .operand .badValue) := by
  unfold bad
  cases r.location? <;> rfl

theorem remembered_number {n : Int} (hnumber : Number.integer? (cookieText names r) = some n) :
    remembered names r = .ok (some n) := by
  unfold cookieText at hnumber
  unfold remembered
  split
  next hempty =>
    have hnone : Number.integer? "" = none := by cbv
    rw [hempty, hnone] at hnumber
    cases hnumber
  next => rw [hnumber]

theorem remembered_unread (hnumber : Number.integer? (cookieText names r) = none) :
    (remembered names r = .ok none ∧ (cookieText names r = "" ∨ r.location?.isSome = true)) ∨
      remembered names r = .error (.operand .badValue) ∧ cookieText names r ≠ "" ∧ r.location?.isSome = false := by
  unfold cookieText at hnumber ⊢
  unfold remembered
  split
  next hempty => exact .inl ⟨rfl, .inl hempty⟩
  next hgiven =>
    rw [hnumber]
    cases hlocated : r.location? with
    | none => exact .inr ⟨rfl, hgiven, rfl⟩
    | some l => exact .inl ⟨rfl, .inr rfl⟩

/-- Every request gives an account number, or none, in one of these ways. -/
theorem claims (names : CredentialNames) (r : Request) : Claims names r (claimed names r) := by
  unfold claimed
  cases hname : isHeaderName names.header with
  | false =>
    have hbearer : bearer names r = .error (.operand .unencodable) := by
      unfold bearer
      rw [hname]
      rfl
    rw [hbearer]
    exact .unnamed hname
  | true =>
    by_cases hsilent : headerText names r = ""
    · rw [bearer_silent hname hsilent]
      change Claims names r (do return (← remembered names r).map fun n => (n, true))
      cases hnumber : Number.integer? (cookieText names r) with
      | some n =>
        rw [remembered_number hnumber]
        exact .remembered hname hsilent hnumber
      | none =>
        rcases remembered_unread hnumber with ⟨hremembered, hlocated⟩ | ⟨hremembered, hcookie, hlocated⟩
        · rw [hremembered]
          exact .nobody hname hsilent hnumber hlocated
        · rw [hremembered]
          exact .mislaid hname hsilent hcookie hnumber hlocated
    · by_cases hform : WellFormed names (headerText names r)
      · rw [bearer_wellFormed hname hsilent hform]
        cases hnumber : Number.integer? (tokenOf (headerText names r)) with
        | none => exact .unread hname hsilent hform hnumber
        | some n => exact .proved hname hsilent hform hnumber
      · obtain ⟨detail, hbearer⟩ := bearer_malformed hname hsilent hform
        rw [hbearer, bad_eq]
        cases hlocated : r.location?.isSome with
        | true => exact .malformed hname hsilent hform hlocated
        | false => exact .misplaced hname hsilent hform hlocated

end Claims

section Accounts

variable {names : CredentialNames} {accounts : List Account} {r : Request} {who : Authentication} {n : Int}
  {weak : Bool}

/-- The identity of an account, which may only be remembered. -/
def identity (a : Account) (weak : Bool) : Authentication :=
  Authentication.of a.username (a.authorities.map Prod.fst) (.text a.username) weak
    [(.text "user_id", .int a.id), (.text "email", .text a.email)]

theorem identity_isOf (a : Account) (weak : Bool) : (identity a weak).IsOf a where
  name := rfl
  authorities _ := List.mem_eraseDups

/-- The ways in which an account number stands for an identity, or fails to. -/
theorem identityOf_cases (accounts : List Account) (n : Int) (weak : Bool) :
    (isKey n = false ∧ identityOf accounts n weak = .error (.operand .overflow)) ∨
      (isKey n = true ∧ (∀ a ∈ accounts, a.id = n → a.active = false) ∧
        identityOf accounts n weak = .error (.refused 401 "Invalid or inactive user")) ∨
      isKey n = true ∧ ∃ a ∈ accounts, a.id = n ∧ a.active = true ∧
        identityOf accounts n weak = .ok (identity a weak) := by
  unfold identityOf
  cases hkey : isKey n with
  | false => exact .inl ⟨rfl, rfl⟩
  | true =>
    right
    cases hfound : accounts.find? fun a => a.id == n && a.active with
    | none =>
      refine .inl ⟨rfl, fun a ha hid => ?_, rfl⟩
      have hnone := List.find?_eq_none.mp hfound a ha
      simpa [hid] using hnone
    | some a =>
      have hsome := List.find?_some hfound
      obtain ⟨hid, hactive⟩ := Bool.and_eq_true_iff.mp hsome
      exact .inr ⟨rfl, a, List.mem_of_find?_eq_some hfound, beq_iff_eq.mp hid, hactive, rfl⟩

theorem identityOf_ok (h : identityOf accounts n weak = .ok who) :
    ∃ a ∈ accounts, a.id = n ∧ a.active = true ∧ who = identity a weak := by
  rcases identityOf_cases accounts n weak with ⟨_, hend⟩ | ⟨_, _, hend⟩ | ⟨_, a, ha, hid, hactive, hend⟩
  · rw [hend] at h
    cases h
  · rw [hend] at h
    cases h
  · rw [hend] at h
    cases h
    exact ⟨a, ha, hid, hactive, rfl⟩

/-- An account number is looked up, and without one a request is of nobody in particular. -/
theorem resolve_eq (names : CredentialNames) (accounts : List Account) (r : Request) :
    resolve names accounts r = do
      match ← claimed names r with
      | some (n, weak) => identityOf accounts n weak
      | none => return .anonymousUser := by
  unfold resolve claimed
  rcases bearer names r with f | _ | n
  · rfl
  · change (remembered names r >>= _) = (do return (← remembered names r).map _) >>= _
    rcases remembered names r with f | _ | n <;> rfl
  · rfl

/-- A well-formed credential stands for the account of its number, if it writes one. -/
theorem resolve_wellFormed (hname : isHeaderName names.header = true) (hgiven : headerText names r ≠ "")
    (hform : WellFormed names (headerText names r)) (accounts : List Account) :
    resolve names accounts r =
      (Number.integer? (tokenOf (headerText names r))).elim (.error (.operand .badValue)) fun n =>
        identityOf accounts n false := by
  unfold resolve
  rw [bearer_wellFormed hname hgiven hform]
  cases Number.integer? (tokenOf (headerText names r)) <;> rfl

/-- A request with neither credential is of nobody in particular. -/
theorem resolve_silent (hname : isHeaderName names.header = true) (hheader : headerText names r = "")
    (hcookie : cookieText names r = "") : resolve names accounts r = .ok .anonymousUser := by
  have hremembered : remembered names r = .ok none := by
    unfold cookieText at hcookie
    unfold remembered
    rw [hcookie]
    rfl
  unfold resolve
  rw [bearer_silent hname hheader]
  change (remembered names r >>= _) = _
  rw [hremembered]
  rfl

theorem resolve_ok (h : resolve names accounts r = .ok who) :
    (claimed names r = .ok none ∧ who = .anonymousUser) ∨
      ∃ n weak, claimed names r = .ok (some (n, weak)) ∧
        ∃ a ∈ accounts, a.id = n ∧ a.active = true ∧ who = identity a weak := by
  rw [resolve_eq] at h
  obtain ⟨claim, hclaimed, h⟩ := except_bind_ok h
  rcases claim with _ | ⟨n, weak⟩
  · cases h
    exact .inl ⟨hclaimed, rfl⟩
  · exact .inr ⟨n, weak, hclaimed, identityOf_ok h⟩

/-- Whoever a request identifies is nobody in particular or the active account that its credentials give: fully if
the header gives it, and only remembered if the cookie does, which is not asked where the header says anything. -/
theorem resolve_identifies (h : resolve names accounts r = .ok who) :
    (who.isFullyAuthenticated = true → headerText names r ≠ "" ∧
      schemeOf (headerText names r) = names.bearer ∧
      ∃ a ∈ accounts, a.active = true ∧ Number.integer? (tokenOf (headerText names r)) = some a.id ∧ who.IsOf a) ∧
    (who.rememberMe = true → headerText names r = "" ∧
      ∃ a ∈ accounts, a.active = true ∧ Number.integer? (cookieText names r) = some a.id ∧ who.IsOf a) ∧
    (who.anonymous = true → headerText names r = "" ∧ Number.integer? (cookieText names r) = none) ∧
    (headerText names r ≠ "" → who.isFullyAuthenticated = true) ∧
    ∀ n weak, claimed names r = .ok (some (n, weak)) →
      who.anonymous = false ∧ who.rememberMe = weak ∧ ∃ a ∈ accounts, a.id = n ∧ a.active = true := by
  have hclaims := claims names r
  rcases resolve_ok h with ⟨hclaimed, rfl⟩ | ⟨n, weak, hclaimed, a, ha, rfl, hactive, rfl⟩
  · rw [hclaimed] at hclaims ⊢
    cases hclaims with
    | nobody _ hsilent hnumber _ =>
      refine ⟨nofun, nofun, fun _ => ⟨hsilent, hnumber⟩, fun hgiven => absurd hsilent hgiven, nofun⟩
  · have hclaim : ∀ m w, claimed names r = .ok (some (m, w)) →
        (identity a weak).anonymous = false ∧ (identity a weak).rememberMe = w ∧
          ∃ b ∈ accounts, b.id = m ∧ b.active = true := by
      intro m w hm
      cases hclaimed.symm.trans hm
      exact ⟨rfl, rfl, a, ha, rfl, hactive⟩
    rw [hclaimed] at hclaims
    cases hclaims with
    | proved _ hgiven hform hnumber =>
      have hfull : ∃ b ∈ accounts, b.active = true ∧
          Number.integer? (tokenOf (headerText names r)) = some b.id ∧ (identity a false).IsOf b :=
        ⟨a, ha, hactive, hnumber, identity_isOf a false⟩
      exact ⟨fun _ => ⟨hgiven, hform.scheme, hfull⟩, nofun, nofun, fun _ => rfl, hclaim⟩
    | remembered _ hsilent hnumber =>
      have hweak : ∃ b ∈ accounts, b.active = true ∧
          Number.integer? (cookieText names r) = some b.id ∧ (identity a true).IsOf b :=
        ⟨a, ha, hactive, hnumber, identity_isOf a true⟩
      exact ⟨nofun, fun _ => ⟨hsilent, hweak⟩, nofun, fun hgiven => absurd hsilent hgiven, hclaim⟩

theorem resolve_error {f : Failure} (h : resolve names accounts r = .error f) :
    claimed names r = .error f ∨
      ∃ n weak, claimed names r = .ok (some (n, weak)) ∧ identityOf accounts n weak = .error f := by
  rw [resolve_eq] at h
  rcases hclaimed : claimed names r with g | _ | ⟨n, weak⟩
  · rw [hclaimed] at h
    cases h
    exact .inl rfl
  · rw [hclaimed] at h
    cases h
  · rw [hclaimed] at h
    exact .inr ⟨n, weak, rfl, h⟩

theorem claimed_refused {status : Nat} {detail : String} (h : claimed names r = .error (.refused status detail)) :
    status = 400 ∧ isHeaderName names.header = true ∧ headerText names r ≠ "" ∧
      ¬WellFormed names (headerText names r) ∧ r.location?.isSome = true := by
  have hclaims := claims names r
  rw [h] at hclaims
  cases hclaims with
  | malformed hname hgiven hform hlocated => exact ⟨rfl, hname, hgiven, hform, hlocated⟩

theorem identityOf_refused {status : Nat} {detail : String}
    (h : identityOf accounts n weak = .error (.refused status detail)) :
    status = 401 ∧ isKey n = true ∧ ∀ a ∈ accounts, a.id = n → a.active = false := by
  rcases identityOf_cases accounts n weak with ⟨_, hend⟩ | ⟨hkey, hnone, hend⟩ | ⟨_, a, _, _, _, hend⟩
  · rw [hend] at h
    cases h
  · rw [hend] at h
    cases h
    exact ⟨rfl, hkey, hnone⟩
  · rw [hend] at h
    cases h

/-- Whoever is refused for credentials is told to mend them or to prove an identity. -/
theorem resolve_refused {status : Nat} {detail : String}
    (h : resolve names accounts r = .error (.refused status detail)) : status = 400 ∨ status = 401 := by
  rcases resolve_error h with hclaimed | ⟨n, weak, _, hidentity⟩
  · exact .inl (claimed_refused hclaimed).1
  · exact .inr (identityOf_refused hidentity).1

theorem refused_malformed_iff (accounts : List Account) :
    (∃ detail, resolve names accounts r = .error (.refused 400 detail)) ↔
      isHeaderName names.header = true ∧ headerText names r ≠ "" ∧
        ¬WellFormed names (headerText names r) ∧ r.location?.isSome = true := by
  constructor
  · rintro ⟨detail, h⟩
    rcases resolve_error h with hclaimed | ⟨n, weak, _, hidentity⟩
    · exact (claimed_refused hclaimed).2
    · cases (identityOf_refused hidentity).1
  · rintro ⟨hname, hgiven, hform, hlocated⟩
    obtain ⟨detail, hbearer⟩ := bearer_malformed hname hgiven hform
    refine ⟨detail, ?_⟩
    unfold resolve
    rw [hbearer, bad_eq, hlocated]
    rfl

theorem refused_unknown_iff (accounts : List Account) :
    (∃ detail, resolve names accounts r = .error (.refused 401 detail)) ↔
      ∃ n weak, claimed names r = .ok (some (n, weak)) ∧ isKey n = true ∧
        ∀ a ∈ accounts, a.id = n → a.active = false := by
  constructor
  · rintro ⟨detail, h⟩
    rcases resolve_error h with hclaimed | ⟨n, weak, hclaimed, hidentity⟩
    · cases (claimed_refused hclaimed).1
    · exact ⟨n, weak, hclaimed, (identityOf_refused hidentity).2⟩
  · rintro ⟨n, weak, hclaimed, hkey, hnone⟩
    rw [resolve_eq, hclaimed]
    change ∃ detail, identityOf accounts n weak = _
    rcases identityOf_cases accounts n weak with ⟨hbeyond, _⟩ | ⟨_, _, hend⟩ | ⟨_, a, ha, hid, hactive, _⟩
    · rw [hkey] at hbeyond
      cases hbeyond
    · exact ⟨_, hend⟩
    · rw [hnone a ha hid] at hactive
      cases hactive

/-- A request with a malformed credential in its header, or else with a malformed cookie, either of which is reported
with the path of the request. -/
def Reported (names : CredentialNames) (r : Request) : Prop :=
  (headerText names r ≠ "" ∧ ¬WellFormed names (headerText names r)) ∨
    (headerText names r = "" ∧ cookieText names r ≠ "" ∧ Number.integer? (cookieText names r) = none)

/-- A request whose credentials can be looked up, if they are not malformed: a token of digits is a number, which is
not out of the range of keys, and a location is there where it is reported. -/
structure Regular (names : CredentialNames) (r : Request) : Prop where
  named : isHeaderName names.header = true
  located : Reported names r → r.location?.isSome = true
  decimal : headerText names r ≠ "" → WellFormed names (headerText names r) →
    (∀ c ∈ (tokenOf (headerText names r)).toList, (Text.decimalDigit? c).isSome = true) ∧
      (tokenOf (headerText names r)).toList.length ≤ Number.maxDigits
  key : ∀ n weak, claimed names r = .ok (some (n, weak)) → isKey n = true

/-- An identity, or a refusal that says what is wrong with the credentials. -/
def Answered (x : Except Failure Authentication) : Prop :=
  (∃ who, x = .ok who) ∨ (∃ detail, x = .error (.refused 400 detail)) ∨
    x = .error (.refused 401 "Invalid or inactive user")

theorem WellFormed.number_iff {text : String} (h : WellFormed names text) :
    (Number.integer? (tokenOf text)).isSome = true ↔
      (∀ c ∈ (tokenOf text).toList, (Text.decimalDigit? c).isSome = true) ∧
        (tokenOf text).toList.length ≤ Number.maxDigits :=
  Number.integer?_isSome_iff h.token h.digits

theorem identityOf_answered (accounts : List Account) (hkey : isKey n = true) (weak : Bool) :
    Answered (identityOf accounts n weak) := by
  rcases identityOf_cases accounts n weak with ⟨hbeyond, _⟩ | ⟨_, _, hend⟩ | ⟨_, a, _, _, _, hend⟩
  · rw [hkey] at hbeyond
    cases hbeyond
  · exact .inr (.inr hend)
  · exact .inl ⟨_, hend⟩

theorem Regular.answered (h : Regular names r) (accounts : List Account) : Answered (resolve names accounts r) := by
  have hclaims := claims names r
  rw [resolve_eq]
  generalize hclaimed : claimed names r = c at hclaims ⊢
  cases hclaims with
  | unnamed hname =>
    rw [h.named] at hname
    cases hname
  | malformed => exact .inr (.inl ⟨_, rfl⟩)
  | misplaced _ hgiven hform hlocated =>
    rw [h.located (.inl ⟨hgiven, hform⟩)] at hlocated
    cases hlocated
  | unread _ hgiven hform hnumber =>
    have hsome := hform.number_iff.mpr (h.decimal hgiven hform)
    rw [hnumber] at hsome
    cases hsome
  | proved => exact identityOf_answered accounts (h.key _ _ hclaimed) _
  | remembered => exact identityOf_answered accounts (h.key _ _ hclaimed) _
  | nobody => exact .inl ⟨_, rfl⟩
  | mislaid _ hsilent hcookie hnumber hlocated =>
    rw [h.located (.inr ⟨hsilent, hcookie, hnumber⟩)] at hlocated
    cases hlocated

/-- The others end in a fault that says nothing about the credentials. -/
theorem fault_of_irregular (h : ¬Regular names r) (accounts : List Account) :
    ∃ fault, resolve names accounts r = .error (.operand fault) := by
  have hclaims := claims names r
  rw [resolve_eq]
  generalize hclaimed : claimed names r = c at hclaims ⊢
  have hlookup {n : Int} {weak : Bool} (hc : claimed names r = .ok (some (n, weak)))
      (hregular : (∀ m w, claimed names r = .ok (some (m, w)) → isKey m = true) → Regular names r) :
      ∃ fault, identityOf accounts n weak = .error (.operand fault) := by
    have hbeyond : isKey n = false := by
      refine Bool.eq_false_iff.mpr fun hkey => h (hregular ?_)
      intro m w hm
      cases hc.symm.trans hm
      exact hkey
    rcases identityOf_cases accounts n weak with ⟨_, hend⟩ | ⟨hkey, _⟩ | ⟨hkey, _⟩
    · exact ⟨_, hend⟩
    · cases hbeyond.symm.trans hkey
    · cases hbeyond.symm.trans hkey
  cases hclaims with
  | unnamed => exact ⟨_, rfl⟩
  | misplaced => exact ⟨_, rfl⟩
  | unread => exact ⟨_, rfl⟩
  | mislaid => exact ⟨_, rfl⟩
  | malformed hname hgiven hform hlocated =>
    exact absurd ⟨hname, fun _ => hlocated, fun _ hwell => absurd hwell hform, by simp [hclaimed]⟩ h
  | nobody hname hsilent hnumber hlocated =>
    refine absurd ⟨hname, ?_, fun hgiven => absurd hsilent hgiven, by simp [hclaimed]⟩ h
    rintro (⟨hgiven, _⟩ | ⟨_, hcookie, _⟩)
    · exact absurd hsilent hgiven
    · exact hlocated.resolve_left hcookie
  | proved hname hgiven hform hnumber =>
    refine hlookup hclaimed fun hkeys => ⟨hname, ?_, fun _ _ => hform.number_iff.mp (by simp [hnumber]), hkeys⟩
    rintro (⟨_, hbad⟩ | ⟨hsilent, _⟩)
    · exact absurd hform hbad
    · exact absurd hsilent hgiven
  | remembered hname hsilent hnumber =>
    refine hlookup hclaimed fun hkeys => ⟨hname, ?_, fun hgiven => absurd hsilent hgiven, hkeys⟩
    rintro (⟨hgiven, _⟩ | ⟨_, _, hunread⟩)
    · exact absurd hsilent hgiven
    · cases hnumber.symm.trans hunread

/-- Regular requests, and no others, are answered with an identity or with what is wrong with their credentials: a
header that is malformed, or a number that no active account has. The others end in a fault. -/
theorem resolution_ends (names : CredentialNames) (accounts : List Account) (r : Request) :
    (Regular names r ↔ Answered (resolve names accounts r)) ∧
      ((∃ detail, resolve names accounts r = .error (.refused 400 detail)) ↔
        isHeaderName names.header = true ∧ headerText names r ≠ "" ∧
          ¬WellFormed names (headerText names r) ∧ r.location?.isSome = true) ∧
      ((∃ detail, resolve names accounts r = .error (.refused 401 detail)) ↔
        ∃ n weak, claimed names r = .ok (some (n, weak)) ∧ isKey n = true ∧
          ∀ a ∈ accounts, a.id = n → a.active = false) ∧
      (¬Regular names r → ∃ fault, resolve names accounts r = .error (.operand fault)) := by
  refine ⟨⟨fun h => h.answered accounts, fun h => ?_⟩, refused_malformed_iff accounts, refused_unknown_iff accounts,
    fun h => fault_of_irregular h accounts⟩
  by_contra hnot
  obtain ⟨fault, hfault⟩ := fault_of_irregular hnot accounts
  rw [hfault] at h
  rcases h with ⟨who, h⟩ | ⟨detail, h⟩ | h <;> cases h

end Accounts

/-- A request with a credential in its header, and with a cookie of somebody else. -/
def carolsRequest : Request where
  headers := [("Authorization", "Bearer 3"), ("Cookie", "remember-me=2")]

theorem resolve_identifies_carol :
    resolve {} Store.demoAccounts carolsRequest = .ok (identity Store.demoAccounts[2] false) ∧
      headerText {} carolsRequest ≠ "" ∧ schemeOf (headerText {} carolsRequest) = "Bearer" ∧
      ∃ a ∈ Store.demoAccounts, a.active = true ∧
        Number.integer? (tokenOf (headerText {} carolsRequest)) = some a.id ∧
          (identity Store.demoAccounts[2] false).IsOf a := by
  have hform : WellFormed {} (headerText {} carolsRequest) :=
    ⟨by decide +kernel, by decide +kernel, List.all_eq_true.mp (by decide +kernel)⟩
  have hnumber : Number.integer? (tokenOf (headerText {} carolsRequest)) = some 3 := by decide +kernel
  have hwho : resolve {} Store.demoAccounts carolsRequest = .ok (identity Store.demoAccounts[2] false) := by
    rw [resolve_wellFormed (by decide +kernel) (by decide +kernel) hform, hnumber]
    rfl
  obtain ⟨hfull, _⟩ := resolve_identifies hwho
  exact ⟨hwho, hfull rfl⟩

/-- The superscript two has the value of a digit, but no number is written with it. -/
def raisedTwo : Request where
  headers := [("Authorization", "Bearer ²")]

theorem raisedTwo_unanswered :
    resolve {} Store.demoAccounts raisedTwo = .error (.operand .badValue) ∧
      ¬Answered (resolve {} Store.demoAccounts raisedTwo) := by
  have hform : WellFormed {} (headerText {} raisedTwo) :=
    ⟨by decide +kernel, by decide +kernel, List.all_eq_true.mp (by decide +kernel)⟩
  have hnumber : Number.integer? (tokenOf (headerText {} raisedTwo)) = none := by decide +kernel
  have hfault : resolve {} Store.demoAccounts raisedTwo = .error (.operand .badValue) := by
    rw [resolve_wellFormed (by decide +kernel) (by decide +kernel) hform, hnumber]
    rfl
  refine ⟨hfault, ?_⟩
  rw [hfault]
  rintro (⟨who, h⟩ | ⟨detail, h⟩ | h) <;> cases h

end Credentials

end AccessPolicy
