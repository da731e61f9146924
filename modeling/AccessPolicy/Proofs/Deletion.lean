import AccessPolicy.Proofs.Anonymous
import AccessPolicy.Proofs.Changes
import AccessPolicy.Proofs.Decimals
import AccessPolicy.Proofs.DocumentQuestions
import AccessPolicy.Proofs.Granting
import AccessPolicy.Proofs.Readings

/-!
The page that deletes a document. It answers that the document is gone whatever the operation behind it did, so
the rule for its requests has to let pass nobody for whom the operation would leave the document where it is.
-/

namespace AccessPolicy

namespace PathTemplate

end PathTemplate

section Host

variable {host : String} {rest : List Char}

end Host

namespace Documents

open Handler (caller)

section Ruling

variable {st : Site} {rs : Rules Store} {r : Request} {who : Authentication} {n : Int} {s : Store} {source : String}

/-- Whether an identity owns the document with an id, as the bean of the site sees it. -/
def owns (s : Store) (who : Authentication) (n : Int) : Bool :=
  !who.anonymous && (s.document? n).any fun d => who.name == some d.owner

end Ruling

/-- Whether an identity may delete a document: it is proved in full, and the document is its own or it is an
administrator's. -/
def MayDelete (who : Authentication) (d : Document) : Prop :=
  who.isFullyAuthenticated = true ∧ (who.name = some d.owner ∨ adminAuthority ∈ who.authorities)

section Endings

variable {st : Site} {r : Request} {who : Authentication} {d : Document} {s : Store} {b : Bound Store}

theorem not_anonymous (h : who.isFullyAuthenticated = true) : who.anonymous = false := by
  rw [Authentication.isFullyAuthenticated, Bool.and_eq_true, Bool.not_eq_true'] at h
  exact h.1

/-- And for the operation they are those who command it. -/
theorem MayDelete.commands (h : MayDelete who d) : Commands (some who) d :=
  ⟨who, rfl, not_anonymous h.1, h.2.symm⟩

end Endings

section Requests

variable {st : Site} {client : String} {sent : Sent} {s : Store} {d : Document} {who : Authentication}

end Requests

end Documents

end AccessPolicy
