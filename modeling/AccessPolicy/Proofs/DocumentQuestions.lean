import AccessPolicy.Proofs.Operations

/-!
Questions about documents by their ids. Whatever is asked about, the answer is no unless it is the id of a document
in the store. The exceptions are numbers that are no keys of any store, and numbers without bounds: these are not
denied but end in a fault, and a guard that asks takes it for one of the permission store.
-/

namespace AccessPolicy

/-- Only numbers without bounds are too large to be read as whole numbers. -/
theorem Value.whole_error {v : Value} {fault : OperandFault} (h : v.whole = .error fault) :
    (fault = .wrongType ∨ fault = .badValue) ∨
      fault = .overflow ∧ ∃ x, v = .float x ∧ Number.truncate? x = none ∧ x.isNaN = false := by
  unfold Value.whole at h
  split at h
  next => cases h
  next x _ =>
    split at h
    next => cases h
    next hbound =>
      cases hnan : x.isNaN with
      | true =>
        rw [hnan] at h
        cases h
        exact .inl (.inr rfl)
      | false =>
        rw [hnan] at h
        cases h
        exact .inr ⟨rfl, x, rfl, hbound, hnan⟩
  next s _ =>
    cases hnumber : Number.integer? s with
    | none =>
      rw [hnumber] at h
      cases h
      exact .inl (.inr rfl)
    | some n =>
      rw [hnumber] at h
      cases h
  next v _ _ _ =>
    split at h
    next data _ =>
      cases hnumber : (numeralOf? data).bind Number.integer? with
      | none =>
        rw [hnumber] at h
        cases h
        exact .inl (.inr rfl)
      | some n =>
        rw [hnumber] at h
        cases h
    next =>
      cases h
      exact .inl (.inl rfl)

theorem Value.whole_unbounded {x : Float} (hbound : Number.truncate? x = none) (hnan : x.isNaN = false) :
    (Value.float x).whole = .error .overflow := by
  have hindex : (Value.float x).index? = none := rfl
  unfold Value.whole
  rw [hindex]
  dsimp only
  rw [hbound, hnan]
  rfl

namespace Documents

/-- Whether a value denotes a number that is no key of any store, or one without bounds. -/
def isBeyondKeys (id : Value) : Bool :=
  match id.whole with
  | .ok n => !Credentials.isKey n
  | .error fault => fault == .overflow

/-- The document that a value denotes the id of. -/
def denoted? (s : Store) (id : Value) : Option Document := id.whole.toOption.bind s.document?

/-- Whether an identity may use the document that a value denotes, which nobody may if there is none. -/
def mayUseDenoted (s : Store) (who : Option Authentication) (id permission : Value) : Bool :=
  (denoted? s id).any fun d => decide who (.text d.owner) d.confidential permission

/-- Whether an identity is one of somebody in particular. -/
def isSomebody (who : Option Authentication) : Bool := who.any fun a => !a.anonymous

/-- Whether an identity owns the document that a value denotes. -/
def ownsDenoted (s : Store) (who : Option Authentication) (id : Value) : Bool :=
  who.any fun a => !a.anonymous && (denoted? s id).any fun d => a.name == some d.owner

section Denoted

variable {s : Store} {who : Option Authentication} {id permission : Value}

theorem denoted?_eq_some {d : Document} (h : denoted? s id = some d) : d ∈ s.documents ∧ id.whole = .ok d.id := by
  unfold denoted? at h
  cases hwhole : id.whole with
  | error fault =>
    rw [hwhole] at h
    cases h
  | ok n =>
    rw [hwhole] at h
    have hfound : s.documents.find? (fun d => d.id == n) = some d := h
    have hid : d.id = n := by simpa using List.find?_some hfound
    rw [hid]
    exact ⟨List.mem_of_find?_eq_some hfound, rfl⟩

theorem isBeyondKeys_number {n : Int} (h : id.whole = .ok n) : isBeyondKeys id = !Credentials.isKey n := by
  unfold isBeyondKeys
  rw [h]

theorem isBeyondKeys_fault {fault : OperandFault} (h : id.whole = .error fault) :
    isBeyondKeys id = (fault == .overflow) := by
  unfold isBeyondKeys
  rw [h]

theorem isBeyondKeys_iff (id : Value) :
    isBeyondKeys id = true ↔
      (∃ n, id.whole = .ok n ∧ Credentials.isKey n = false) ∨
        ∃ x, id = .float x ∧ Number.truncate? x = none ∧ x.isNaN = false := by
  constructor
  · intro h
    cases hwhole : id.whole with
    | ok n =>
      rw [isBeyondKeys_number hwhole, Bool.not_eq_true'] at h
      exact .inl ⟨n, rfl, h⟩
    | error fault =>
      rw [isBeyondKeys_fault hwhole, beq_iff_eq] at h
      rcases Value.whole_error hwhole with (hfault | hfault) | ⟨_, hunbounded⟩
      · cases h.symm.trans hfault
      · cases h.symm.trans hfault
      · exact .inr hunbounded
  · rintro (⟨n, hwhole, hkey⟩ | ⟨x, rfl, hbound, hnan⟩)
    · rw [isBeyondKeys_number hwhole, hkey]
      rfl
    · rw [isBeyondKeys_fault (Value.whole_unbounded hbound hnan)]
      rfl

/-- A value is looked up as the id that it denotes, if it is not beyond the keys. -/
theorem lookUp_eq (s : Store) (id : Value) :
    lookUp s id = if isBeyondKeys id then .error (.operand .overflow) else .ok (denoted? s id) := by
  unfold denoted?
  cases hwhole : id.whole with
  | ok n =>
    have hnumber : wholeOrNone id = .ok (some n) := by
      unfold wholeOrNone
      rw [hwhole]
    rw [lookUp_number hnumber, isBeyondKeys_number hwhole]
    cases Credentials.isKey n <;> rfl
  | error fault =>
    rw [isBeyondKeys_fault hwhole]
    unfold lookUp wholeOrNone
    rw [hwhole]
    rcases Value.whole_error hwhole with (rfl | rfl) | ⟨rfl, _⟩ <;> rfl

theorem mayUseById_denoted (s : Store) (who : Option Authentication) (id permission : Value) :
    mayUseById s who id permission =
      if isBeyondKeys id then .error (.operand .overflow) else .ok (mayUseDenoted s who id permission) := by
  rw [mayUseById_eq, lookUp_eq]
  cases isBeyondKeys id <;> rfl

theorem isOwner_somebody (s : Store) {a : Authentication} (h : a.anonymous = false) (id : Value) :
    isOwner s (some a) id =
      (lookUp s id).map fun found => found.any fun d => a.name == some d.owner := by
  unfold isOwner
  dsimp only
  rw [h, if_neg Bool.false_ne_true]
  cases lookUp s id with
  | error f => rfl
  | ok found => cases found <;> rfl

theorem isOwner_nobody (s : Store) {a : Authentication} (h : a.anonymous = true) (id : Value) :
    isOwner s (some a) id = .ok false := by
  unfold isOwner
  dsimp only
  rw [if_pos h]

/-- Nobody in particular owns anything, whatever is asked about. -/
theorem isOwner_denoted (s : Store) (who : Option Authentication) (id : Value) :
    isOwner s who id =
      if isSomebody who && isBeyondKeys id then .error (.operand .overflow) else .ok (ownsDenoted s who id) := by
  cases who with
  | none => rfl
  | some a =>
    have hsomebody : isSomebody (some a) = !a.anonymous := rfl
    have howns : ownsDenoted s (some a) id =
        (!a.anonymous && (denoted? s id).any fun d => a.name == some d.owner) := rfl
    rw [hsomebody, howns]
    cases hanonymous : a.anonymous with
    | true =>
      rw [isOwner_nobody s hanonymous]
      rfl
    | false =>
      rw [isOwner_somebody s hanonymous, lookUp_eq]
      cases isBeyondKeys id <;> rfl

theorem outcome_isOwner (who : Option Authentication) (id : Value) (s : Store) :
    (send access ownerQuestion [who.elim .null .identity, id] []).outcome s =
      ((isOwner s who id).map Value.bool, s) := by
  have hbean : (access.id == access.id && ownerQuestion == ownerQuestion) = true := by decide
  have hrun : ownership.run [who.elim .null .identity, id] [] = (do
      return Value.bool (← Run.ofExcept (isOwner (← get) who id))) := by
    cases who <;> rfl
  have hread : (get : Run Store Store).outcome s = (.ok s, s) := rfl
  unfold send
  rw [if_pos hbean, hrun, Run.outcome_bind_ok hread, Run.outcome_bind, Run.outcome_ofExcept]
  cases isOwner s who id <;> rfl

end Denoted

/-- A question is answered exactly if it is not about a number beyond the keys: with whether the identity may use, or
owns, the document with the id. The others end in a fault, of which a guard that asks makes one of the permission
store. Nobody in particular owns anything, whatever the question is about. -/
theorem questions_answered (s : Store) (who : Option Authentication) (id type permission : Value) :
    (evaluator.answer who (.byId id type permission)).outcome s =
        (if isBeyondKeys id then .error (.operand .overflow) else .ok (.bool (mayUseDenoted s who id permission)), s) ∧
      (send access ownerQuestion [who.elim .null .identity, id] []).outcome s =
        (if isSomebody who && isBeyondKeys id then .error (.operand .overflow)
          else .ok (.bool (ownsDenoted s who id)), s) ∧
      (evaluator.ask who [id, type, permission]).outcome s =
        (if isBeyondKeys id then
            .error (.permission (.failed "DocumentPermissionEvaluator" (.operand .overflow)))
          else .ok (mayUseDenoted s who id permission), s) ∧
      (mayUseDenoted s who id permission = true ∨ ownsDenoted s who id = true →
        ∃ d ∈ s.documents, id.whole = .ok d.id) ∧
      (isBeyondKeys id = true ↔
        (∃ n, id.whole = .ok n ∧ Credentials.isKey n = false) ∨
          ∃ x, id = .float x ∧ Number.truncate? x = none ∧ x.isNaN = false) := by
  refine ⟨?_, ?_, ?_, ?_, isBeyondKeys_iff id⟩
  · rw [outcome_answer, mayUseById_denoted]
    cases isBeyondKeys id <;> rfl
  · rw [outcome_isOwner, isOwner_denoted]
    cases isSomebody who && isBeyondKeys id <;> rfl
  · rw [PermissionEvaluator.outcome_ask evaluator who rfl, outcome_answer, mayUseById_denoted]
    cases isBeyondKeys id <;> rfl
  · intro h
    have hstored : ∃ d, denoted? s id = some d := by
      rcases h with hmay | howns
      · exact (Option.any_eq_true _ _).mp hmay |>.imp fun d hd => hd.1
      · obtain ⟨a, _, ha⟩ := (Option.any_eq_true _ _).mp howns
        obtain ⟨_, ha⟩ := Bool.and_eq_true_iff.mp ha
        exact (Option.any_eq_true _ _).mp ha |>.imp fun d hd => hd.1
    obtain ⟨d, hd⟩ := hstored
    obtain ⟨hmem, hwhole⟩ := denoted?_eq_some hd
    exact ⟨d, hmem, hwhole⟩

/-- Somebody who asks. -/
def asker : Authentication := .of "bob" ["ROLE_USER"] (.text "bob") false []

/-- No document has an id as large as this, and still a question about it is not denied. -/
theorem beyond_keys_undenied :
    (∀ d ∈ Store.demo.documents, d.id ≠ Int.pow 2 63) ∧
      (evaluator.answer (some asker) (.byId (.int (Int.pow 2 63)) (.text "Document") (.text "read"))).outcome
        Store.demo = (.error (.operand .overflow), Store.demo) ∧
      (send access ownerQuestion [.identity asker, .int (Int.pow 2 63)] []).outcome Store.demo =
        (.error (.operand .overflow), Store.demo) := by
  have hbeyond : isBeyondKeys (.int (Int.pow 2 63)) = true := by decide
  have hknown : isSomebody (some asker) = true := by decide
  have howner := outcome_isOwner (some asker) (.int (Int.pow 2 63)) Store.demo
  refine ⟨by decide, ?_, ?_⟩
  · rw [outcome_answer, mayUseById_denoted, hbeyond]
    rfl
  · rw [isOwner_denoted, hbeyond, hknown] at howner
    exact howner

end Documents

end AccessPolicy
