import WideColumn.Error
import WideColumn.Json.Reader
import WideColumn.Value

/-!
# Conversions of values

From values to the types of a program. A value of another kind is an error that names the kind
expected and the kind found.
-/

namespace WideColumn.Value

/-- The error for a value of another kind than expected. -/
def kindError (expected : String) (v : Value) : Error :=
  .type expected v.typeName none

/-- A truth value. -/
def toBool : Value → Except Error Bool
  | .bool b => .ok b
  | v => .error (kindError "bool" v)

/-- An integer of 32 bits; a 64 bit integer has to be in range. -/
def toInt32 : Value → Except Error Int32
  | .int i => .ok i
  | .bigint i =>
    if Int32.minValue.toInt ≤ i.toInt && i.toInt ≤ Int32.maxValue.toInt then .ok i.toInt32
    else .error (.type "i32" s!"bigint out of range: {i.toInt}" none)
  | v => .error (kindError "i32" v)

/-- An integer of 64 bits. -/
def toInt64 (v : Value) : Except Error Int64 :=
  match v.int? with
  | some i => .ok i
  | none => .error (kindError "i64" v)

/-- A double. -/
def toDouble (v : Value) : Except Error Float :=
  match v.double? with
  | some x => .ok x
  | none => .error (kindError "f64" v)

/-- A text. -/
def toText (v : Value) : Except Error String :=
  match v.text? with
  | some s => .ok s
  | none => .error (kindError "String" v)

/-- An identifier. -/
def toUuid : Value → Except Error Uuid
  | .uuid u => .ok u
  | v => .error (kindError "uuid" v)

/-- A document; a text is read as JSON. -/
def toJson : Value → Except Error Json
  | .json document => .ok document
  | .text s =>
    match Json.read s with
    | some document => .ok document
    | none => .error (.type "valid JSON" "invalid JSON" none)
  | v => .error (kindError "JSON" v)

/-- A conversion that takes null for a missing value. -/
def optional {α : Type} (convert : Value → Except Error α) : Value → Except Error (Option α)
  | .null => .ok none
  | v => (convert v).map some

/-- A conversion of every item of a list or a set; null has no items. -/
def each {α : Type} (convert : Value → Except Error α) : Value → Except Error (List α)
  | .list items | .set items => items.mapM convert
  | .null => .ok []
  | v => .error (kindError "list" v)

end WideColumn.Value
