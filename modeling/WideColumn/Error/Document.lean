import WideColumn.Error
import WideColumn.Json.Codec

/-!
# Errors as documents

An error is an object with its kind, its message, and the details that belong to its kind.
-/

namespace WideColumn

open Writable (write)

instance : Named ConnectionFault :=
  ⟨[("NoHostAvailable", .noHostAvailable), ("Authentication", .authentication),
    ("Disconnected", .disconnected)]⟩

instance : Named QueryFault :=
  ⟨[("Syntax", .malformed), ("Invalid", .invalid), ("Unavailable", .unavailable),
    ("ReadTimeout", .readTimeout), ("WriteTimeout", .writeTimeout), ("Overloaded", .overloaded),
    ("Unauthorized", .unauthorized), ("Server", .server)]⟩

instance : Named MappingFault :=
  ⟨[("CompoundKey", .compoundKey), ("ClusteredCounter", .clusteredCounter), ("Id", .id),
    ("UnknownProperty", .unknownProperty), ("Invalid", .invalid)]⟩

instance : Named Constraint :=
  ⟨[("Required", .required), ("Blank", .blank), ("NotRegistered", .notRegistered),
    ("MissingKeyComponent", .missingKeyComponent), ("NotProxy", .notProxy),
    ("AlreadyProxy", .alreadyProxy), ("Custom", .custom)]⟩

/-- Read the field `message`; a missing one is the empty text. -/
def messageOf (j : Json) : Except String String := do
  let message : Option String ← j.get "message"
  return message.getD ""

/-- A violation is read from its field, kind and message; the kinds with a sign in front are those
of the usual checks, which have messages of their own. -/
instance : Readable Violation where
  read j := do
    let name ← j.get "field"
    match j.field "kind" with
    | .str "+required" => return .ofRequired name
    | .str "+blank" => return .ofBlank name
    | .str "+custom" => return ⟨name, .custom, ← messageOf j⟩
    | _ => return ⟨name, ← j.get "kind", ← messageOf j⟩

instance : Writable Violation where
  write v :=
    .obj [("field", write v.field), ("kind", write v.constraint), ("message", write v.message)]

instance : Readable Error where
  read j := do
    let message ← messageOf j
    match ← j.get "kind" with
    | "Connection" => return .connection (← j.get "conn") message (← j.get "source")
    | "Query" =>
      return .query (← j.get "query_kind") (← j.get "statement") message (← j.get "source")
    | "Type" => return .type (← j.get "expected") (← j.get "actual") (← j.get "column")
    | "Mapping" => return .mapping (← j.get "mapping_kind") (← j.get "entity") message
    | "Config" => return .config message (← j.get "source")
    | "Validation" => return .validation (← j.get "errors")
    | "InvalidState" => return .invalidState message
    | "Timeout" => return .timeout
    | "Cancelled" => return .cancelled
    | "Serialization" => return .serialization message
    | "Custom" => return .custom message
    | kind => .error ("unknown kind of error: " ++ kind)

namespace Error

/-- The kind of an error. -/
def kindName : Error → String
  | .connection .. => "Connection"
  | .query .. => "Query"
  | .type .. => "Type"
  | .mapping .. => "Mapping"
  | .config .. => "Config"
  | .validation _ => "Validation"
  | .invalidState _ => "InvalidState"
  | .timeout => "Timeout"
  | .cancelled => "Cancelled"
  | .serialization _ => "Serialization"
  | .custom _ => "Custom"

/-- The details that belong to the kind of an error. -/
def detailFields : Error → List (String × Json)
  | .connection fault _ _ => [("conn", write fault)]
  | .query fault statement _ _ => [("query_kind", write fault), ("statement", write statement)]
  | .type expected actual column =>
    [("expected", write expected), ("actual", write actual), ("column", write column)]
  | .mapping fault entity _ => [("mapping_kind", write fault), ("entity", write entity)]
  | .validation violations => [("errors", write violations)]
  | _ => []

/-- The fields of the document of an error. -/
def fields (e : Error) : List (String × Json) :=
  ("error", write e.kindName) :: ("message", write e.message) :: e.detailFields

end Error

end WideColumn
