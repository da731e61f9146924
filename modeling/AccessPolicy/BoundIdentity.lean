import AccessPolicy.Identity

/-!
The identity bound to the current piece of work. Binding one answers a token that can restore what was bound
before, once; a block restores it when it is left, in whatever way.
-/

namespace AccessPolicy

/-- The bound identity and what can still be restored. -/
structure BoundIdentity where
  current : Option Authentication := none
  /-- What was bound when each open block was entered, innermost first. -/
  blocks : List (Option Authentication) := []
  /-- Tokens by name: what was bound before, and whether the token was used. -/
  tokens : List (String × Option Authentication × Bool) := []

inductive RestoreFault where
  | tokenUsed
  | tokenUnknown
  | noBlock
  deriving DecidableEq, Repr

namespace BoundIdentity

def bind (b : BoundIdentity) (who : Option Authentication) : BoundIdentity := { b with current := who }

def set (b : BoundIdentity) (token : String) (who : Option Authentication) : BoundIdentity :=
  { b.bind who with tokens := (token, b.current, false) :: b.tokens.filter fun t => t.1 != token }

def clear (b : BoundIdentity) (token : String) : Except RestoreFault BoundIdentity :=
  match b.tokens.lookup token with
  | none => .error .tokenUnknown
  | some (_, true) => .error .tokenUsed
  | some (before, false) =>
    .ok { b.bind before with tokens := (token, before, true) :: b.tokens.filter fun t => t.1 != token }

def enter (b : BoundIdentity) (who : Option Authentication) : BoundIdentity :=
  { b.bind who with blocks := b.current :: b.blocks }

def exit (b : BoundIdentity) : Except RestoreFault BoundIdentity :=
  match b.blocks with
  | [] => .error .noBlock
  | before :: blocks => .ok { b.bind before with blocks }

theorem exit_enter (b : BoundIdentity) (who : Option Authentication) : (b.enter who).exit = .ok b := rfl

end BoundIdentity

end AccessPolicy
