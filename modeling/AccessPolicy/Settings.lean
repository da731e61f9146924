import AccessPolicy.Checked.Lenient
import AccessPolicy.Text.Case

/-!
Settings of the document site, read from environment variables. The names of variables are compared in lower
case; of variables with the same name the last one counts, and those with other names do not matter.
-/

namespace AccessPolicy

structure Settings where
  databaseUrl : String
  policyPath : String
  logLevel : String
  seedDemoData : Bool
  logStatements : Bool
  deriving DecidableEq, Repr

namespace Settings

def variablePrefix : String := "exprsec_"

def defaults (root : String) : Settings where
  databaseUrl := "sqlite:///" ++ root ++ "/exprsec.db"
  policyPath := root ++ "/config/security_config.yaml"
  logLevel := "INFO"
  seedDemoData := true
  logStatements := false

/-- The parts of a path that say where it leads; the part after the last slash may be missing. -/
def pathParts (cs : List Char) : List (List Char) :=
  (cs.splitOn '/').filter fun part => !part.isEmpty && part != ['.']

/-- The plain form of a path: one slash between its parts, and none at its end. Two slashes at the start, and
no more than two, are kept. -/
def plainPath (s : String) : String :=
  let cs := s.toList
  let slashes := cs.takeWhile (· == '/')
  let root := if slashes.length == 2 then slashes else slashes.take 1
  match root ++ ['/'].intercalate (pathParts cs) with
  | [] => "."
  | cs => String.ofList cs

def lookupVariable (env : List (String × String)) (name : String) : Option String :=
  (env.reverse.find? fun v => Text.lower v.1 == variablePrefix ++ name).map (·.2)

/-- A setting, with the one to take where its variable is missing. -/
def setting {α : Type} (env : List (String × String)) (name : String) (missing : α)
    (read : Value → Checked α) : Checked α :=
  match lookupVariable env name with
  | none => .ok missing
  | some s => Checked.under name (read (.text s))

def ofEnvironment (root : String) (env : List (String × String)) : Checked Settings := do
  let start := defaults root
  let ((databaseUrl, policyPath), (logLevel, (seedDemoData, logStatements))) ← Checked.both
    (Checked.both (setting env "db_url" start.databaseUrl Checked.text)
      (setting env "security_config_path" start.policyPath fun v => (Checked.text v).map plainPath))
    (Checked.both (setting env "log_level" start.logLevel Checked.text)
      (Checked.both (setting env "seed_demo_data" start.seedDemoData Checked.boolean)
        (setting env "sql_echo" start.logStatements Checked.boolean)))
  return { databaseUrl, policyPath, logLevel, seedDemoData, logStatements }

/-- Whether the store is a file of an embedded database. -/
def isEmbedded (s : Settings) : Bool := s.databaseUrl.startsWith "sqlite"

/-- Whether connections must stay on the thread that opened them. An embedded database is told that they need
not; others are not told anything. -/
def sameThread? (s : Settings) : Option Bool := if s.isEmbedded then some false else none

end Settings

end AccessPolicy
