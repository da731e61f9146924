import AccessPolicy.Text.Case

/-!
How much the site logs. A handler is attached once, and only where nothing else handles what is logged.
-/

namespace AccessPolicy

/-- The state of the log: its least level, and the handlers attached so far. -/
structure Log where
  level : Nat := 0
  handlers : Nat := 0
  deriving DecidableEq, Repr

namespace Log

def levels : List (String × Nat) :=
  [("CRITICAL", 50), ("FATAL", 50), ("ERROR", 40), ("WARN", 30), ("WARNING", 30), ("INFO", 20), ("DEBUG", 10),
   ("NOTSET", 0)]

/-- The level that is set unless another is given. -/
def defaultLevel : String := "INFO"

/-- Sets the level by name, in any case, and attaches a handler where there is none; `none` for a name that no
level has. `handled` says that what is logged is handled elsewhere. -/
def configure? (handled : Bool) (name : String) (log : Log) : Option Log := do
  let level ← levels.lookup (Text.upper name)
  return ⟨level, if handled || log.handlers != 0 then log.handlers else log.handlers + 1⟩

theorem handlers_configure? {handled : Bool} {name : String} {log log' : Log}
    (h : log.configure? handled name = some log') : log'.handlers ≤ max log.handlers 1 := by
  unfold configure? at h
  cases hl : levels.lookup (Text.upper name) with
  | none => simp [hl] at h
  | some level =>
    simp only [hl, Option.bind_eq_bind, Option.bind_some, Option.pure_def, Option.some.injEq] at h
    subst h
    grind

end Log

end AccessPolicy
