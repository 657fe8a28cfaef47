import WideColumn.Error
import WideColumn.Value

/-!
# Rows

A row of a result: column names and values side by side. A name that occurs twice stands for its
last column.
-/

namespace WideColumn

/-- One row of a result. -/
structure Row where
  columns : List String
  values : List Value

namespace Row

/-- The position of the last column of the given name. -/
def indexOf? (row : Row) (name : String) : Option Nat :=
  (row.columns.reverse.idxOf? name).map fun i => row.columns.length - 1 - i

/-- The column at the position of a name has that name. -/
theorem columns_of_indexOf? {row : Row} {name : String} {index : Nat}
    (h : row.indexOf? name = some index) : row.columns[index]? = some name := by
  obtain ⟨i, hi, rfl⟩ := Option.map_eq_some_iff.1 h
  obtain ⟨hlt, heq, -⟩ := List.findIdx?_eq_some_iff_getElem.1 hi
  rw [List.length_reverse] at hlt
  rw [List.getElem_reverse] at heq
  rw [List.getElem?_eq_some_iff]
  exact ⟨by omega, eq_of_beq heq⟩

/-- The value at a position. -/
def get? (row : Row) (index : Nat) : Option Value := row.values[index]?

/-- The value of the column of the given name. -/
def find? (row : Row) (name : String) : Option Value :=
  row.indexOf? name >>= row.get?

/-- Whether the row has a column of the given name. -/
def hasColumn (row : Row) (name : String) : Bool := row.columns.contains name

/-- Names and values side by side, as far as both reach. -/
def pairs (row : Row) : List (String × Value) := row.columns.zip row.values

/-- The converted value of the column of the given name; `typeName` says in the error text what
was asked for. An error of the conversion is told with the column. -/
def getAs {α : Type} (row : Row) (name typeName : String) (convert : Value → Except Error α) :
    Except Error α :=
  match row.find? name with
  | none => .error (.type typeName s!"column '{name}' not found" (some name))
  | some v =>
    match convert v with
    | .error (.type expected actual _) => .error (.type expected actual (some name))
    | r => r

end Row

end WideColumn
