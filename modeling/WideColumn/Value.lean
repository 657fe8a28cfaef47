import WideColumn.Decimal.Layout
import WideColumn.Decimal.Read
import WideColumn.Json

/-!
# Values

The values that columns hold and that statements bind, their kinds, the literal form of the plain
ones, and the views of a value as a number or a text.
-/

namespace WideColumn

/-- A universally unique identifier: sixteen bytes. -/
structure Uuid where
  bytes : Vector UInt8 16
deriving DecidableEq

namespace Uuid

/-- The identifier of sixteen bytes. -/
def ofBytes? (bytes : List UInt8) : Option Uuid :=
  if h : bytes.length = 16 then some ⟨⟨bytes.toArray, by simpa using h⟩⟩ else none

/-- The sixteen bytes. -/
def toList (u : Uuid) : List UInt8 := u.bytes.toArray.toList

end Uuid

/-- A column value. -/
inductive Value where
  | null
  | bool (b : Bool)
  | int (i : Int32)
  | bigint (i : Int64)
  | float (x : Float32)
  | double (x : Float)
  /-- A decimal number of any precision, kept as its text. -/
  | decimal (text : String)
  | text (s : String)
  | blob (bytes : List UInt8)
  | uuid (u : Uuid)
  /-- Milliseconds since the epoch. -/
  | timestamp (millis : Int64)
  | json (document : Json)
  | list (items : List Value)
  /-- The items in the order given. -/
  | set (items : List Value)
  | map (entries : List (Value × Value))

namespace Value

instance : Inhabited Value := ⟨null⟩

mutual

/-- Structural equality; floating point numbers are compared as numbers. -/
def beq : Value → Value → Bool
  | .null, .null => true
  | .bool a, .bool b => a == b
  | .int a, .int b => a == b
  | .bigint a, .bigint b => a == b
  | .float a, .float b => a == b
  | .double a, .double b => a == b
  | .decimal a, .decimal b => a == b
  | .text a, .text b => a == b
  | .blob a, .blob b => a == b
  | .uuid a, .uuid b => a == b
  | .timestamp a, .timestamp b => a == b
  | .json a, .json b => a == b
  | .list a, .list b => beqItems a b
  | .set a, .set b => beqItems a b
  | .map a, .map b => beqEntries a b
  | _, _ => false

/-- Equality of item lists, in order. -/
def beqItems : List Value → List Value → Bool
  | [], [] => true
  | a :: as, b :: bs => beq a b && beqItems as bs
  | _, _ => false

/-- Equality of entry lists, in order. -/
def beqEntries : List (Value × Value) → List (Value × Value) → Bool
  | [], [] => true
  | (k, a) :: as, (l, b) :: bs => beq k l && beq a b && beqEntries as bs
  | _, _ => false

end

instance : BEq Value := ⟨beq⟩

/-- Whether this is the null value. -/
def isNull : Value → Bool
  | .null => true
  | _ => false

/-- The name of the kind of a value. -/
def typeName : Value → String
  | .null => "null"
  | .bool _ => "boolean"
  | .int _ => "int"
  | .bigint _ => "bigint"
  | .float _ => "float"
  | .double _ => "double"
  | .decimal _ => "decimal"
  | .text _ => "text"
  | .blob _ => "blob"
  | .uuid _ => "uuid"
  | .timestamp _ => "timestamp"
  | .json _ => "json"
  | .list _ => "list"
  | .set _ => "set"
  | .map _ => "map"

/-- Whether the value is written into the statement text instead of being bound to a marker. Only
booleans and numbers are. -/
def isInline : Value → Bool
  | .bool _ | .int _ | .bigint _ | .float _ | .double _ | .decimal _ => true
  | _ => false

/-- Floating point literals are positional with the fewest digits, whole numbers without a point. -/
def numberLayout : Decimal.Layout :=
  { positional := none, wholePoint := false, tie := .up, nan := "NaN", infinity := "inf" }

/-- The literal text of a single. -/
def singleLiteral (x : Float32) : String :=
  numberLayout.write .single x.toBits.toNat

/-- The literal text of a double. -/
def doubleLiteral (x : Float) : String :=
  numberLayout.write .double x.toBits.toNat

/-- The literal text of a value that can be written inline. -/
def literal? : Value → Option String
  | .bool true => some "true"
  | .bool false => some "false"
  | .int i => some (toString i.toInt)
  | .bigint i => some (toString i.toInt)
  | .float x => some (singleLiteral x)
  | .double x => some (doubleLiteral x)
  | .decimal s => some s
  | _ => none

/-- The value as a truth value. -/
def bool? : Value → Option Bool
  | .bool b => some b
  | _ => none

/-- The value as an integer of 64 bits. -/
def int? : Value → Option Int64
  | .int i => some i.toInt64
  | .bigint i | .timestamp i => some i
  | _ => none

/-- The value as a double. -/
def double? : Value → Option Float
  | .float x => some x.toFloat
  | .double x => some x
  | .int i => some (Decimal.doubleOfInt i.toInt)
  | .bigint i => some (Decimal.doubleOfInt i.toInt)
  | .decimal s => Decimal.readDouble? s
  | _ => none

/-- The value as a text. -/
def text? : Value → Option String
  | .text s | .decimal s => some s
  | _ => none

/-- A value that may be missing; missing is null. -/
def ofOption (v : Option Value) : Value := v.getD .null

/-- The list of the given texts. -/
def ofTexts (texts : List String) : Value := .list (texts.map .text)

/-- A value is inline exactly when it has a literal text. -/
theorem isSome_literal? (v : Value) : v.literal?.isSome = v.isInline := by
  cases v with
  | bool b => cases b <;> rfl
  | _ => rfl

end Value

end WideColumn
