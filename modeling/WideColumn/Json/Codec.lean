import WideColumn.Json.Writer

/-!
# Types with documents

`Readable` types can be read from documents, `Writable` ones written. What is absent is left out or
null: a missing field reads as null, and null reads as a flag that is not set, as the empty list,
and as no value of an optional type. Integers of any size are written as decimal text, because a
reader of numbers may keep fewer digits; they read from both forms. Counts are written as numbers.
-/

namespace WideColumn

/-- Types that are read from documents. The error says what was expected. -/
class Readable (α : Type) where
  read : Json → Except String α

/-- Types that are written as documents. -/
class Writable (α : Type) where
  write : α → Json

/-- Types whose values have names. -/
class Named (α : Type) where
  names : List (String × α)

namespace Json

/-- A field of an object; a missing one is null. -/
def field (j : Json) (name : String) : Json :=
  match j with
  | .obj fields => (fields.lookup name).getD .null
  | _ => .null

/-- Whether an object has a field. -/
def hasField (j : Json) (name : String) : Bool :=
  match j with
  | .obj fields => (fields.lookup name).isSome
  | _ => false

/-- Read a field of an object. -/
def get {α : Type} [Readable α] (j : Json) (name : String) : Except String α :=
  (Readable.read (j.field name)).mapError fun e => name ++ ": " ++ e

/-- The integer written as a number or as decimal text. -/
def integer? : Json → Option Int
  | .int i => some i
  | .str s =>
    let (negative, digits) := Decimal.takeSign s.toList
    match Decimal.takeDigits digits with
    | (_ :: _, []) =>
      let n : Int := Decimal.digitsValue digits
      some (if negative then -n else n)
    | _ => none
  | _ => none

end Json

/-- The given value, or the error that something else was expected. -/
def expected {α : Type} (what : String) : Option α → Except String α
  | some a => .ok a
  | none => .error (what ++ " expected")

/-- The name of a value. -/
def Named.name? {α : Type} [Named α] [BEq α] (a : α) : Option String :=
  (Named.names.find? fun (_, b) => b == a).map Prod.fst

instance : Readable Json := ⟨.ok⟩

instance : Readable Bool where
  read
    | .null => .ok false
    | .bool b => .ok b
    | _ => .error "flag expected"

instance : Readable String where
  read
    | .str s => .ok s
    | _ => .error "text expected"

instance : Readable Int where
  read j := expected "integer" j.integer?

instance : Readable Nat where
  read j := expected "natural number" (j.integer?.bind fun i => if i < 0 then none else some i.toNat)

instance {α : Type} [Readable α] : Readable (Option α) where
  read
    | .null => .ok none
    | j => (Readable.read j).map some

instance {α : Type} [Readable α] : Readable (List α) where
  read
    | .null => .ok []
    | .arr items => items.mapM Readable.read
    | _ => .error "list expected"

instance {α β : Type} [Readable α] [Readable β] : Readable (α × β) where
  read
    | .arr [x, y] => do return (← Readable.read x, ← Readable.read y)
    | _ => .error "pair expected"

instance {α : Type} [Named α] : Readable α where
  read
    | .str s => expected "name" (Named.names.lookup s)
    | _ => .error "name expected"

instance : Writable Json := ⟨id⟩

instance : Writable Unit := ⟨fun _ => .null⟩

instance : Writable Bool := ⟨.bool⟩

instance : Writable String := ⟨.str⟩

instance : Writable Nat := ⟨fun n => .int n⟩

instance : Writable Int := ⟨fun i => .str (toString i)⟩

instance {α : Type} [Writable α] : Writable (Option α) where
  write
    | some a => Writable.write a
    | none => .null

instance {α : Type} [Writable α] : Writable (List α) where
  write items := .arr (items.map Writable.write)

instance {α β : Type} [Writable α] [Writable β] : Writable (α × β) where
  write p := .arr [Writable.write p.1, Writable.write p.2]

instance {α : Type} [Named α] [BEq α] : Writable α where
  write a := Writable.write (Named.name? a)

/-- An integer reads back. -/
theorem integer?_write_nat (n : Nat) : (Writable.write n).integer? = some (n : Int) := rfl

end WideColumn
