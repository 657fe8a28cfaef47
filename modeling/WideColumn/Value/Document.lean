import WideColumn.Json.Skip
import WideColumn.Options
import WideColumn.Value.Tagged

/-!
# Plain documents

Values, levels and options as documents with plain numbers: a value is an object with one field
named for its kind, byte strings are arrays of numbers. Reading accepts exactly the written forms,
and besides a kind or level without content as an object, and options as an array of three or with
fields missing or in excess.
-/

namespace WideColumn

/-- The integer of a number without fraction, in the given range. -/
def Json.intIn? (low high : Int) : Json → Option Int
  | .int i => if low ≤ i ∧ i ≤ high then some i else none
  | _ => none

namespace Value

/-- The single of a number; beyond the range it is infinite. -/
def single? : Json → Option Float32
  | .int i => some (Decimal.singleOfInt i)
  | .float x => some x.toFloat32
  | _ => none

/-- The double of a number. -/
def number? : Json → Option Float
  | .int i => some (Decimal.doubleOfInt i)
  | .float x => some x
  | _ => none

/-- The text of an array of texts. -/
def arrayText (items : List String) : String :=
  "[" ++ ",".intercalate items ++ "]"

/-- The text of an object with one field. -/
def fieldText (name content : String) : String :=
  "\x7b\"" ++ name ++ "\":" ++ content ++ "\x7d"

/-- The text of an array of bytes. -/
def bytesText (bytes : List UInt8) : String :=
  arrayText (bytes.map fun b => toString b.toNat)

mutual

/-- The text of the plain document of a value. -/
def documentText : Value → String
  | .null => "\"Null\""
  | .bool b => fieldText "Bool" (Json.bool b).render
  | .int i => fieldText "Int" (toString i.toInt)
  | .bigint i => fieldText "BigInt" (toString i.toInt)
  | .float x => fieldText "Float" (Json.singleText x)
  | .double x => fieldText "Double" (Json.doubleText x)
  | .decimal s => fieldText "Decimal" (Json.str s).render
  | .text s => fieldText "Text" (Json.str s).render
  | .blob bytes => fieldText "Blob" (bytesText bytes)
  | .uuid u => fieldText "Uuid" (bytesText u.toList)
  | .timestamp i => fieldText "Timestamp" (toString i.toInt)
  | .json document => fieldText "Json" document.render
  | .list items => fieldText "List" (arrayText (documentTexts items))
  | .set items => fieldText "Set" (arrayText (documentTexts items))
  | .map entries => fieldText "Map" (arrayText (documentEntries entries))

/-- The texts of items. -/
def documentTexts : List Value → List String
  | [] => []
  | v :: rest => documentText v :: documentTexts rest

/-- The texts of entries, each a pair. -/
def documentEntries : List (Value × Value) → List String
  | [] => []
  | (k, v) :: rest => arrayText [documentText k, documentText v] :: documentEntries rest

end

/-- The bytes of an array of numbers. -/
def documentBytes? : Json → Option (List UInt8)
  | .arr items => items.mapM fun j => (j.intIn? 0 255).map fun i => UInt8.ofNat i.toNat
  | _ => none

/-- The value of a kind whose content is neither a list of values nor of entries. -/
def ofDocumentPlain? (kind : String) (content : Json) : Option Value :=
  match kind, content with
  | "Null", .null => some .null
  | "Bool", .bool b => some (.bool b)
  | "Int", .int i => (int32? i).map .int
  | "BigInt", .int i => (int64? i).map .bigint
  | "Timestamp", .int i => (int64? i).map .timestamp
  | "Float", j => (single? j).map .float
  | "Double", j => (number? j).map .double
  | "Decimal", .str s => some (.decimal s)
  | "Text", .str s => some (.text s)
  | "Blob", j => (documentBytes? j).map .blob
  | "Uuid", j => do return .uuid (← Uuid.ofBytes? (← documentBytes? j))
  | "Json", j => some (.json j.canonical)
  | _, _ => none

mutual

/-- The value of a plain document. -/
def ofDocument? : Json → Option Value
  | .str kind => if kind = "Null" then some .null else none
  | .obj [(kind, content)] => ofDocumentContent? kind content
  | _ => none

/-- The value of a kind and its content. -/
def ofDocumentContent? (kind : String) : Json → Option Value
  | .arr items =>
    match kind with
    | "List" => (ofDocuments? items).map .list
    | "Set" => (ofDocuments? items).map .set
    | "Map" => (ofDocumentEntries? items).map .map
    | _ => ofDocumentPlain? kind (.arr items)
  | content => ofDocumentPlain? kind content

/-- The values of documents. -/
def ofDocuments? : List Json → Option (List Value)
  | [] => some []
  | j :: rest => do return (← ofDocument? j) :: (← ofDocuments? rest)

/-- The entries of documents that are pairs. -/
def ofDocumentEntries? : List Json → Option (List (Value × Value))
  | [] => some []
  | .arr [k, v] :: rest => do
    return (← ofDocument? k, ← ofDocument? v) :: (← ofDocumentEntries? rest)
  | _ => none

end

end Value

namespace Level

/-- The name of a level in documents. -/
def documentName : Level → String
  | .any => "Any"
  | .one => "One"
  | .two => "Two"
  | .three => "Three"
  | .quorum => "Quorum"
  | .all => "All"
  | .localQuorum => "LocalQuorum"
  | .eachQuorum => "EachQuorum"
  | .localOne => "LocalOne"
  | .serial => "Serial"
  | .localSerial => "LocalSerial"

/-- The level of a document: its name, alone or as a field without content. -/
def ofDocument? : Json → Option Level
  | .str name | .obj [(name, .null)] => every.find? fun level => level.documentName == name
  | _ => none

/-- The document of a level. -/
def document (level : Level) : Json := .str level.documentName

/-- A written level reads back. -/
theorem ofDocument?_document (level : Level) : ofDocument? level.document = some level := by
  cases level <;> decide +kernel

end Level

namespace Options

/-- Read a document that may be null. -/
def documentOption? {α : Type} (read : Json → Option α) : Json → Option (Option α)
  | .null => some Option.none
  | j => (read j).map some

/-- Options from the documents of their three parts. -/
def ofParts? (level ttl timestamp : Json) : Option Options := do
  return {
    level := ← documentOption? Level.ofDocument? level
    ttl := (← documentOption? (Json.intIn? 0 (UInt32.size - 1)) ttl).map fun i =>
      UInt32.ofNat i.toNat
    timestamp :=
      ← documentOption? (Json.intIn? Int64.minValue.toInt Int64.maxValue.toInt) timestamp }

/-- The document of a field, null if it is missing; none if it is there twice. -/
def field? (fields : List (String × Json)) (name : String) : Option Json :=
  match fields.filter fun (k, _) => k = name with
  | [] => some .null
  | [(_, j)] => some j
  | _ => Option.none

/-- The options of a document. -/
def ofDocument? : Json → Option Options
  | .obj fields => do
    ofParts? (← field? fields "consistency") (← field? fields "ttl") (← field? fields "timestamp")
  | .arr [level, ttl, timestamp] => ofParts? level ttl timestamp
  | _ => Option.none

/-- The options that a text denotes. Fields of other names are skipped. -/
def readDocument (s : String) : Option Options :=
  (Json.readRecord ["consistency", "ttl", "timestamp"] s).bind ofDocument?

/-- The document of options. -/
def document (options : Options) : Json :=
  .obj [
    ("consistency", (options.level.map Level.document).getD .null),
    ("ttl", (options.ttl.map fun n => Json.int n.toNat).getD .null),
    ("timestamp", (options.timestamp.map Json.int).getD .null)]

end Options

end WideColumn
