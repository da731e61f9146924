import AccessPolicy.Value.Fault
import AccessPolicy.Value.Written
import AccessPolicy.Checked

/-!
How the engine can fail, as causes. A policy that can never work is a `Misconfiguration`; a call that the
policy refuses is a denial; an expression that cannot be evaluated and a permission store that cannot
answer are faults of their own, and are never taken for a denial. `Failure.message?` words a cause.
-/

namespace AccessPolicy

/-- Faults found while a policy is put together, or when it is first used. -/
inductive Misconfiguration where
  | emptyExpression (label : String)
  | malformedExpression (source label : String)
  | notAnExpression (source label : String)
  | unknownTemplate (name : String)
  | missingParameter (template parameter : String)
  | unboundNames (label : String) (names : List String) (source : String)
  | permissionUnavailable (label : String)
  | addressArguments (label : String)
  | addressRange (literal : Value) (label range : String)
  | noPermissionEvaluator
  | beanNamesReserved (names : List String)
  | beanNameMalformed (name : String)
  | hierarchyNotList (role : Value)
  | hierarchyCycle (role : String)
  | notFilterable (typeName : String)
  | pathVariableMalformed (name template : String)
  | pathVariableReserved (name template : String)
  | pathVariableRepeated (name template : String)
  | severalTags (parameter function tag : String)
  | tagRepeated (tag name function : String)
  | noParameters (function : String)
  | nameShared (name first second function : String)
  | slotTaken (function slot : String)
  | filterTargetUnknown (target function : String)
  | filterTargetAmbiguous (function : String) (names : List String)
  | filterTargetMissing (function : String)
  | callWithoutContainer (operation : String)
  /-- Reported by the embedding program in its own words. -/
  | stated (text : String)

def Misconfiguration.message : Misconfiguration → String
  | .emptyExpression label => "Empty security expression (" ++ label ++ ")"
  | .malformedExpression source label =>
    "Invalid security expression " ++ Text.quoted source ++ " (" ++ label ++ "): "
  | .notAnExpression source label =>
    "Security expression must be a single expression: " ++ Text.quoted source ++ " (" ++ label ++ ")"
  | .unknownTemplate name => "Unknown expression template " ++ Text.quoted name
  | .missingParameter template parameter =>
    "Template " ++ Text.quoted template ++ " requires parameter " ++ Text.quoted parameter
  | .unboundNames label names source =>
    "Expression " ++ label ++ " references unbound name(s) " ++ Text.quotedList names ++ ": " ++
      Text.quoted source
  | .permissionUnavailable label =>
    "Expression " ++ label ++ " calls hasPermission() but no permission evaluator is configured"
  | .addressArguments label => "hasIpAddress() takes one argument (" ++ label ++ ")"
  | .addressRange literal label range =>
    "Invalid IP range " ++ literal.written ++ " in " ++ label ++ ": " ++ Text.quoted range ++
      " does not appear to be an IPv4 or IPv6 network"
  | .noPermissionEvaluator => "hasPermission() used but no permission evaluator is configured"
  | .beanNamesReserved names =>
    "Bean names clash with built-in expression names: " ++ Text.quotedList names
  | .beanNameMalformed name => "Bean name " ++ Text.quoted name ++ " is not a valid identifier"
  | .hierarchyNotList role =>
    "role_hierarchy[" ++ role.written ++ "] must be a list of roles, not a string"
  | .hierarchyCycle role => "cycle detected in role hierarchy at " ++ Text.quoted role
  | .notFilterable typeName => "Filtering is not supported for " ++ Text.quoted typeName
  | .pathVariableMalformed name template =>
    "Path variable " ++ Text.quoted name ++ " in " ++ Text.quoted template ++ " is not a valid identifier"
  | .pathVariableReserved name template =>
    "Path variable " ++ Text.quoted name ++ " in " ++ Text.quoted template ++ " shadows a built-in name"
  | .pathVariableRepeated name template =>
    "Path variable " ++ Text.quoted name ++ " appears twice in " ++ Text.quoted template
  | .severalTags parameter function tag =>
    "Parameter " ++ Text.quoted parameter ++ " of " ++ function ++ " has more than one " ++ tag ++ " tag"
  | .tagRepeated tag name function =>
    tag ++ "(" ++ Text.quoted name ++ ") is used on more than one parameter of " ++ function
  | .noParameters function => "Cannot introspect parameters of " ++ function
  | .nameShared name first second function =>
    "Expression name " ++ Text.quoted name ++ " refers to both " ++ Text.quoted first ++ " and " ++
      Text.quoted second ++ " of " ++ function
  | .slotTaken function slot => Text.quoted function ++ " already has a " ++ slot ++ " expression"
  | .filterTargetUnknown target function =>
    "pre_filter target " ++ Text.quoted target ++ " is not a parameter of " ++ function
  | .filterTargetAmbiguous function names =>
    "pre_filter on " ++ function ++ " is ambiguous: " ++ Text.quotedList names ++
      " are all containers; set filter_target"
  | .filterTargetMissing function => "pre_filter on " ++ function ++ " has no container argument to filter"
  | .callWithoutContainer operation =>
    "pre_filter on " ++ operation ++ ": no container argument to filter"
  | .stated text => text

/-- Features that expressions may be written with, but not evaluated. -/
inductive Unavailable where
  /-- A construct of the grammar, by its name. -/
  | construct (name : String)
  | privateAttribute (name : String)
  | forbiddenMethod (name : String)
  /-- A call of something other than a name or an attribute. -/
  | computedCallee
  deriving DecidableEq, Repr

/-- The sizes that evaluation refuses to go beyond. -/
inductive Excess where
  | repetition
  | concatenation
  | literal (size : Nat)
  | comprehension
  | interpolation
  deriving DecidableEq, Repr

/-- Faults of the expression itself; `source` is the whole expression. -/
inductive ExpressionFault where
  | nameNotDefined (name source : String)
  | functionNotDefined (name source : String)
  | attributeDoesNotExist (name source : String)
  | operatorNotDefined
  | featureNotAvailable (feature : Unavailable)
  | numberTooHigh (left operator right : String)
  | iterableTooLong (excess : Excess)
  /-- A source text of comments only. -/
  | nothingToEvaluate
  deriving DecidableEq, Repr

/-- The longest text or sequence that evaluation handles. -/
def maxLength : Nat := 100000

/-- The wording of a fault of an expression, where it has one. -/
def ExpressionFault.message? : ExpressionFault → Option String
  | .nameNotDefined name source =>
    some (Text.singleQuoted name ++ " is not defined for expression " ++ Text.singleQuoted source)
  | .functionNotDefined name source =>
    some ("Function " ++ Text.singleQuoted name ++ " not defined, for expression " ++
      Text.singleQuoted source ++ ".")
  | .attributeDoesNotExist name source =>
    some ("Attribute " ++ Text.singleQuoted name ++ " does not exist in expression " ++
      Text.singleQuoted source)
  | .operatorNotDefined => none
  | .featureNotAvailable (.construct name) => some ("Sorry, " ++ name ++ " is not available in this evaluator")
  | .featureNotAvailable (.privateAttribute name) =>
    some ("Sorry, access to __attributes  or func_ attributes is not available. (" ++ name ++ ")")
  | .featureNotAvailable (.forbiddenMethod name) =>
    some ("Sorry, this method is not available. (" ++ name ++ ")")
  | .featureNotAvailable .computedCallee => some "Lambda Functions not implemented"
  | .numberTooHigh left operator right =>
    some ("Sorry! I don't want to evaluate " ++ left ++ " " ++ operator ++ " " ++ right)
  | .iterableTooLong .repetition => some "Sorry, I will not evaluate something that long."
  | .iterableTooLong .concatenation =>
    some "Sorry, adding those two together would make something too long."
  | .iterableTooLong (.literal size) =>
    some ("Literal in statement is too long! (" ++ toString size ++ ", when " ++ toString maxLength ++
      " is max)")
  | .iterableTooLong .comprehension => some "Comprehension generates too many elements"
  | .iterableTooLong .interpolation => some "Sorry, I will not evaluate something this long."
  | .nothingToEvaluate => some "Sorry, cannot evaluate empty string"

inductive StoreFault where
  /-- A value that is required is missing. -/
  | constraint
  /-- A value of a type that the store cannot keep. -/
  | unsupported
  /-- A value that is no truth value where one is required. -/
  | notBoolean
  /-- Several values, or none, where an id is one value. -/
  | keyShape
  deriving DecidableEq, Repr

mutual

/-- Everything that can end a computation of the engine other than a value. -/
inductive Failure where
  | configuration (problem : Misconfiguration)
  | accessDenied
  /-- An expression could not be evaluated. -/
  | evaluation (label source : String) (cause : Failure)
  | permission (problem : PermissionFault)
  | expression (fault : ExpressionFault)
  | operand (fault : OperandFault)
  /-- A permission question with neither two nor three arguments. -/
  | permissionArity (given : Nat)
  /-- An address range that denotes no network. -/
  | addressRange (range : Value)
  | documentNotFound (id : Value)
  | store (fault : StoreFault)
  /-- Data that does not have its shape. -/
  | invalid (faults : List DataFault)
  /-- A refusal of a request, with its status. -/
  | refused (status : Nat) (detail : String)
  /-- A fault of the embedding program, known by its kind and text. -/
  | raised (kind text : String)

inductive PermissionFault where
  | failed (evaluator : String) (cause : Failure)
  | notBoolean (evaluator typeName : String)
  | stated (text : String)

end

mutual

/-- The wording of a failure, where the engine words it. -/
def Failure.message? : Failure → Option String
  | .configuration problem => some problem.message
  | .accessDenied => some "Access is denied"
  | .evaluation label source cause =>
    some ("Failed to evaluate expression " ++ Text.quoted source ++ " (" ++ label ++ "): " ++
      cause.message?.getD "")
  | .permission problem => some problem.message
  | .expression fault => fault.message?
  | .operand _ => none
  | .permissionArity given =>
    some ("hasPermission takes 2 or 3 arguments (" ++ toString given ++ " given)")
  | .addressRange range => some (range.written ++ " does not appear to be an IPv4 or IPv6 network")
  | .documentNotFound id => some id.shown
  | .store _ => none
  | .invalid _ => none
  | .refused _ detail => some detail
  | .raised _ text => some text
termination_by structural x => x

def PermissionFault.message : PermissionFault → String
  | .failed evaluator cause => evaluator ++ " failed: " ++ cause.message?.getD ""
  | .notBoolean evaluator typeName => evaluator ++ " returned " ++ typeName ++ ", expected bool"
  | .stated text => text
termination_by structural x => x

end

/-- The failures that the engine itself stands for; they leave an evaluation as they are. -/
def Failure.isOwn : Failure → Bool
  | .configuration _ | .accessDenied | .evaluation .. | .permission _ => true
  | _ => false

/-- A computation that reads and changes a world and may fail; the world outlives a failure. -/
abbrev Run (σ : Type) (α : Type) := ExceptT Failure (StateM σ) α

/-- An operation on values as part of a computation. -/
def Run.attempt {σ α : Type} (x : Attempt α) : Run σ α :=
  match x with
  | .ok a => pure a
  | .error f => throw (.operand f)

/-- A choice that was already made, as part of a computation. -/
def Run.ofExcept {σ α : Type} (x : Except Failure α) : Run σ α :=
  match x with
  | .ok a => pure a
  | .error f => throw f

end AccessPolicy
