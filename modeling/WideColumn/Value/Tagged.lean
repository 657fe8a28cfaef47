import WideColumn.Json.Codec
import WideColumn.Json.Reader
import WideColumn.Value

/-!
# Tagged documents

Values as documents that other programs can read without loss: one field, named for the kind, with
the content. Integers of 64 bits, floating point numbers, byte strings and inner documents are
texts, because a reader of numbers may keep fewer digits than were written.
-/

namespace WideColumn

/-- The 32 bit integer of a number in range. -/
def int32? (i : Int) : Option Int32 :=
  if Int32.minValue.toInt ≤ i ∧ i ≤ Int32.maxValue.toInt then some (Int32.ofInt i) else none

/-- The 64 bit integer of a number in range. -/
def int64? (i : Int) : Option Int64 :=
  if Int64.minValue.toInt ≤ i ∧ i ≤ Int64.maxValue.toInt then some (Int64.ofInt i) else none

namespace Value

mutual

/-- The tagged document of a value; null has no tag. -/
def tagged : Value → Json
  | .null => .null
  | .bool b => .obj [("Bool", .bool b)]
  | .int i => .obj [("Int", .int i.toInt)]
  | .bigint i => .obj [("BigInt", .str (toString i.toInt))]
  | .float x => .obj [("Float", .str (singleLiteral x))]
  | .double x => .obj [("Double", .str (doubleLiteral x))]
  | .decimal s => .obj [("Decimal", .str s)]
  | .text s => .obj [("Text", .str s)]
  | .blob bytes => .obj [("Blob", .str (Text.hex bytes))]
  | .uuid u => .obj [("Uuid", .str (Text.hex u.toList))]
  | .timestamp i => .obj [("Timestamp", .str (toString i.toInt))]
  | .json document => .obj [("Json", .str document.render)]
  | .list items => .obj [("List", .arr (taggedItems items))]
  | .set items => .obj [("Set", .arr (taggedItems items))]
  | .map entries => .obj [("Map", .arr (taggedEntries entries))]

/-- The documents of items. -/
def taggedItems : List Value → List Json
  | [] => []
  | v :: rest => tagged v :: taggedItems rest

/-- The documents of entries, each a pair. -/
def taggedEntries : List (Value × Value) → List Json
  | [] => []
  | (k, v) :: rest => .arr [tagged k, tagged v] :: taggedEntries rest

end

/-- The value of a tag whose content is neither a list of values nor of entries. -/
def ofTaggedPlain? (tag : String) (content : Json) : Option Value :=
  match tag, content with
  | "Bool", .bool b => some (.bool b)
  | "Int", j => do return .int (← int32? (← j.integer?))
  | "BigInt", j => do return .bigint (← int64? (← j.integer?))
  | "Timestamp", j => do return .timestamp (← int64? (← j.integer?))
  | "Float", .str s => do return .float (← Decimal.readSingle? s)
  | "Double", .str s => do return .double (← Decimal.readDouble? s)
  | "Decimal", .str s => some (.decimal s)
  | "Text", .str s => some (.text s)
  | "Blob", .str s => do return .blob (← Text.ofHex? s)
  | "Uuid", .str s => do return .uuid (← Uuid.ofBytes? (← Text.ofHex? s))
  | "Json", .str s => do return .json (← Json.read s)
  | _, _ => none

mutual

/-- The value of a tagged document. -/
def ofTagged? : Json → Option Value
  | .null => some .null
  | .obj [(tag, content)] => ofTaggedContent? tag content
  | _ => none

/-- The value of a tag and its content. -/
def ofTaggedContent? (tag : String) : Json → Option Value
  | .arr items =>
    match tag with
    | "List" => (ofTaggedItems? items).map .list
    | "Set" => (ofTaggedItems? items).map .set
    | "Map" => (ofTaggedEntries? items).map .map
    | _ => none
  | content => ofTaggedPlain? tag content

/-- The values of documents. -/
def ofTaggedItems? : List Json → Option (List Value)
  | [] => some []
  | j :: rest => do return (← ofTagged? j) :: (← ofTaggedItems? rest)

/-- The entries of documents that are pairs. -/
def ofTaggedEntries? : List Json → Option (List (Value × Value))
  | [] => some []
  | .arr [k, v] :: rest => do
    return (← ofTagged? k, ← ofTagged? v) :: (← ofTaggedEntries? rest)
  | _ => none

end

/-- The text of the tagged document. -/
def taggedText (v : Value) : String := v.tagged.render

end Value

instance : Readable Value where
  read j := expected "value" (Value.ofTagged? j)

instance : Writable Value := ⟨Value.tagged⟩

end WideColumn
