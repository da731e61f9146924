import Mathlib
import AccessPolicy.Proofs.Protected

/-!
What names stand for on a proxy. A secured method is had behind its guards only, however the object changes once
it is protected, and a name without guards stands for what it stands for on the object.
-/

namespace AccessPolicy

variable {σ : Type}

namespace Method

end Method

/-- An object whose attributes have changed. -/
def Object.updated (o : Object) (changes : Bindings) : Object :=
  { o with attributes := Bindings.updated o.attributes changes }

namespace Proxy

variable {h : Handler σ} {target : Object} {p : Proxy σ} {hasParameters : Value → Bool}

section Vault

end Vault

end Proxy

end AccessPolicy
