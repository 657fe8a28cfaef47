/-!
# Column types

The types a column can be declared with and their names in the query language.
-/

namespace WideColumn

/-- A column type. -/
inductive CqlType where
  | boolean
  | int
  | bigint
  | float
  | double
  | decimal
  | text
  | blob
  | uuid
  | timeuuid
  | timestamp
  | counter
  | list (element : CqlType)
  | set (element : CqlType)
  | map (key value : CqlType)
  /-- A type of the program, stored as the text of a JSON document. -/
  | custom (name : String)
deriving Repr, DecidableEq, Inhabited

namespace CqlType

/-- The name of the type in the query language. -/
def name : CqlType → String
  | boolean => "boolean"
  | int => "int"
  | bigint => "bigint"
  | float => "float"
  | double => "double"
  | decimal => "decimal"
  | text => "text"
  | blob => "blob"
  | uuid => "uuid"
  | timeuuid => "timeuuid"
  | timestamp => "timestamp"
  | counter => "counter"
  | list element => s!"list<{element.name}>"
  | set element => s!"set<{element.name}>"
  | map key value => s!"map<{key.name},{value.name}>"
  | custom _ => "text"

/-- Whether values travel as JSON text. -/
def isCustom : CqlType → Bool
  | custom _ => true
  | _ => false

/-- Whether this is a list, set or map type. -/
def isCollection : CqlType → Bool
  | list _ | set _ | map _ _ => true
  | _ => false

/-- The type of the elements of a list or set, or of the values of a map. -/
def element? : CqlType → Option CqlType
  | list element | set element => some element
  | map _ value => some value
  | _ => none

/-- The type of the keys of a map. -/
def key? : CqlType → Option CqlType
  | map key _ => some key
  | _ => none

end CqlType

end WideColumn
