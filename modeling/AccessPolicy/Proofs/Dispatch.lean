import Mathlib
import AccessPolicy.Proofs.SiteRules

/-!
The path that a request is dispatched on and the path that its location shows. A request's rule is found by
the latter. The two are the same only while neither the path nor the host header holds a character that has
a meaning in a location.
-/

namespace AccessPolicy

namespace Location

section Shown

variable {host path rest query : List Char}

end Shown

end Location

namespace Documents

end Documents

namespace Rules

variable {σ : Type}

end Rules

namespace Documents

end Documents

end AccessPolicy
