import WideColumn.Decimal.Read

/-!
# JSON documents

The tree of a JSON text. Numbers keep the difference between integers and floating point. An
object keeps its fields as a list; `canonical` sorts them by name and keeps the last of several
fields with one name, which is the form in which documents are stored and written.
-/

namespace WideColumn

/-- A JSON document. -/
inductive Json where
  | null
  | bool (b : Bool)
  /-- An integer in the signed or unsigned 64 bit range. -/
  | int (i : Int)
  | float (x : Float)
  | str (s : String)
  | arr (items : List Json)
  | obj (fields : List (String × Json))
deriving Inhabited

namespace Json

mutual

/-- Structural equality; floating point numbers are compared as numbers. -/
def beq : Json → Json → Bool
  | .null, .null => true
  | .bool a, .bool b => a == b
  | .int a, .int b => a == b
  | .float a, .float b => a == b
  | .str a, .str b => a == b
  | .arr a, .arr b => beqItems a b
  | .obj a, .obj b => beqFields a b
  | _, _ => false

/-- Equality of item lists. -/
def beqItems : List Json → List Json → Bool
  | [], [] => true
  | a :: as, b :: bs => beq a b && beqItems as bs
  | _, _ => false

/-- Equality of field lists. -/
def beqFields : List (String × Json) → List (String × Json) → Bool
  | [], [] => true
  | (k, a) :: as, (l, b) :: bs => k == l && beq a b && beqFields as bs
  | _, _ => false

end

instance : BEq Json := ⟨beq⟩

/-- Put a field at its place by name; a field of the same name is replaced. -/
def insertField (name : String) (value : Json) : List (String × Json) → List (String × Json)
  | [] => [(name, value)]
  | (k, v) :: rest =>
    if name < k then (name, value) :: (k, v) :: rest
    else if name = k then (name, value) :: rest
    else (k, v) :: insertField name value rest

/-- The fields sorted by name, the last one of each name kept. -/
def sortFields (fields : List (String × Json)) : List (String × Json) :=
  fields.foldl (fun sorted (name, value) => insertField name value sorted) []

mutual

/-- The document with the fields of every object sorted and no name repeated. -/
def canonical : Json → Json
  | .arr items => .arr (canonicalItems items)
  | .obj fields => .obj (sortFields (canonicalFields fields))
  | j => j

/-- Canonical items. -/
def canonicalItems : List Json → List Json
  | [] => []
  | j :: rest => canonical j :: canonicalItems rest

/-- Fields with canonical values, in the given order. -/
def canonicalFields : List (String × Json) → List (String × Json)
  | [] => []
  | (k, j) :: rest => (k, canonical j) :: canonicalFields rest

end

/-- Whether a floating point number is neither infinite nor undefined. -/
def isFinite (x : Float) : Bool :=
  match Decimal.parts .double x.toBits.toNat with
  | .finite .. => true
  | _ => false

/-- A number as a document; what is not a finite number is null. -/
def ofDouble (x : Float) : Json :=
  if isFinite x then .float x else .null

end Json

end WideColumn
