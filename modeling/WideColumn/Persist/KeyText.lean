import WideColumn.Json.Writer
import WideColumn.Text.Hex
import WideColumn.Value

/-!
# Keys as text

The text of a key in the shared counter table: JSON of its value, or an array of the components of
a compound key.
-/

namespace WideColumn

namespace Value

mutual

/-- The value as a plain document, without a mark of its kind. -/
def plainJson : Value → Json
  | .null => .null
  | .bool b => .bool b
  | .int i => .int i.toInt
  | .bigint i => .int i.toInt
  | .timestamp i => .int i.toInt
  | .float x => .ofDouble x.toFloat
  | .double x => .ofDouble x
  | .decimal s => .str s
  | .text s => .str s
  | .blob bytes => .arr (bytes.map fun b => .int b.toNat)
  | .uuid u => .str (Text.hex u.toList)
  | .json document => document
  | .list items => .arr (plainItems items)
  | .set items => .arr (plainItems items)
  | .map entries => .arr (plainEntries entries)

/-- The items of a collection as documents. -/
def plainItems : List Value → List Json
  | [] => []
  | v :: rest => plainJson v :: plainItems rest

/-- The entries of a map as pairs. -/
def plainEntries : List (Value × Value) → List Json
  | [] => []
  | (k, v) :: rest => .arr [plainJson k, plainJson v] :: plainEntries rest

end

end Value

/-- The document of an encoded key. -/
def keyJson : List Value → Json
  | [single] => single.plainJson
  | components => .arr (Value.plainItems components)

/-- The text of an encoded key. -/
def keyText (encoded : List Value) : String := (keyJson encoded).render

end WideColumn
