/-!
# Errors

What can go wrong in an operation, by cause, and the text of each cause. Rules that can be broken
in several ways (keys, metadata, slices) have types of their own beside the rules, which turn into
these errors.
-/

namespace WideColumn

/-- Why the cluster could not be reached. -/
inductive ConnectionFault where
  | noHostAvailable
  | authentication
  | disconnected
deriving Repr, DecidableEq

/-- Why the cluster refused a statement. -/
inductive QueryFault where
  | malformed
  | invalid
  | unavailable
  | readTimeout
  | writeTimeout
  | overloaded
  | unauthorized
  | server
deriving Repr, DecidableEq

/-- Which part of the metadata is wrong. -/
inductive MappingFault where
  | compoundKey
  | clusteredCounter
  | id
  | unknownProperty
  | invalid
deriving Repr, DecidableEq

/-- Which constraint on an argument is violated. -/
inductive Constraint where
  | required
  | blank
  | notRegistered
  | missingKeyComponent
  | notProxy
  | alreadyProxy
  | custom
deriving Repr, DecidableEq

/-- One violated constraint. -/
structure Violation where
  field : String
  constraint : Constraint
  message : String
deriving Repr, DecidableEq

/-- The error of an operation. -/
inductive Error where
  | connection (fault : ConnectionFault) (message : String) (source : Option String)
  | query (fault : QueryFault) (statement : Option String) (message : String)
    (source : Option String)
  /-- A value of another kind than expected. -/
  | type (expected actual : String) (column : Option String)
  | mapping (fault : MappingFault) (entity message : String)
  | config (message : String) (source : Option String)
  /-- The violations in the order in which they were found. -/
  | validation (violations : List Violation)
  | invalidState (message : String)
  | timeout
  | cancelled
  | serialization (message : String)
  | custom (message : String)
deriving Repr, DecidableEq

namespace Violation

/-- A required argument is missing. -/
def ofRequired (field : String) : Violation := ⟨field, .required, "is required"⟩

/-- A text is blank. -/
def ofBlank (field : String) : Violation := ⟨field, .blank, "should not be blank"⟩

/-- The text of a list of violations. -/
def describe : List Violation → String
  | [] => "validation passed"
  | [v] => s!"validation error on '{v.field}': {v.message}"
  | violations =>
    "validation errors:\n" ++
      String.join (violations.map fun v => s!"  - {v.field}: {v.message}\n")

end Violation

namespace Error

/-- A configuration error. -/
def ofConfig (message : String) : Error := .config message none

/-- A single violation. -/
def ofViolation (field : String) (constraint : Constraint) (message : String) : Error :=
  .validation [⟨field, constraint, message⟩]

/-- The text of the error without the name of its category, where it has one. -/
def detail? : Error → Option String
  | .connection _ message _ => some message
  | .query _ none message _ => some message
  | .query _ (some statement) message _ => some s!"{message} (statement: {statement})"
  | .type expected actual none => some s!"expected {expected}, found {actual}"
  | .type expected actual (some column) =>
    some s!"expected {expected} for column '{column}', found {actual}"
  | .mapping _ entity message => some s!"{message} (entity '{entity}')"
  | .config message _ => some message
  | .validation violations => some (Violation.describe violations)
  | _ => none

/-- The text of the error. -/
def message : Error → String
  | .connection _ message _ => s!"Connection error: {message}"
  | .query _ _ message _ => s!"Query error: {message}"
  | .invalidState message => s!"Invalid state: {message}"
  | .timeout => "Operation timed out"
  | .cancelled => "Operation cancelled"
  | .serialization message => s!"Serialization error: {message}"
  | .custom message => message
  | .type expected actual column =>
    "Type error: " ++ ((Error.type expected actual column).detail?.getD "")
  | .mapping fault entity message =>
    "Mapping error: " ++ ((Error.mapping fault entity message).detail?.getD "")
  | .config message _ => s!"Configuration error: {message}"
  | .validation violations => "Validation error: " ++ Violation.describe violations

/-- Whether the same operation may succeed later: replicas missing, slow or overloaded. -/
def isRetryable : Error → Bool
  | .query fault _ _ _ =>
    fault == .unavailable || fault == .readTimeout || fault == .writeTimeout || fault == .overloaded
  | .connection fault _ _ => fault == .noHostAvailable
  | .timeout => true
  | _ => false

/-- Whether this is a configuration error. -/
def isConfig : Error → Bool
  | .config .. => true
  | _ => false

/-- The constraint of the first violation. -/
def constraint? : Error → Option Constraint
  | .validation violations => violations.head?.map Violation.constraint
  | _ => none

/-- The statement that the cluster refused. -/
def statement? : Error → Option String
  | .query _ statement _ _ => statement
  | _ => none

/-- The text of the underlying error. -/
def source? : Error → Option String
  | .connection _ _ source => source
  | .query _ _ _ source => source
  | .config _ source => source
  | _ => none

end Error

end WideColumn
