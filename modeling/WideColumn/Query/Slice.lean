import WideColumn.Error
import WideColumn.Query.Template
import WideColumn.Text.Blank

/-!
# Slices

A slice is a range of rows: some columns are fixed, and at most one more varies between two bounds.
`SliceSpec.select` and `SliceSpec.delete` give the statements; which signs the bounds get depends on
the direction of the read.
-/

namespace WideColumn

/-- The direction in which a slice is read. -/
inductive Direction where
  | ascending
  | descending
deriving Repr, DecidableEq, Inhabited

/-- Which ends of a slice belong to it. -/
inductive Bounding where
  | inclusive
  | exclusive
  | inclusiveStart
  | inclusiveEnd
deriving Repr, DecidableEq, Inhabited

namespace Bounding

/-- Whether the start belongs to the slice. -/
def includesStart : Bounding → Bool
  | inclusive | inclusiveStart => true
  | _ => false

/-- Whether the end belongs to the slice. -/
def includesEnd : Bounding → Bool
  | inclusive | inclusiveEnd => true
  | _ => false

end Bounding

/-- A slice of a table, in terms of columns. -/
structure SliceSpec where
  table : String
  /-- The columns to read; none means all. -/
  columns : List String
  /-- The columns with one value each, in declared order. -/
  fixed : List (String × Value)
  /-- The column between the bounds. -/
  varying : Option String
  start : Option Value
  stop : Option Value
  ordering : Direction
  bounding : Bounding
  /-- The column that a descending read is ordered by. -/
  orderColumn : Option String
  limit : Option Nat
  /-- Rows per page. -/
  batchSize : Option Nat

/-- A statement of a slice. -/
structure SliceStatement where
  query : String
  /-- The condition, without its keyword. -/
  predicate : String
  values : List Value
  fetchSize : Option Nat

/-- How a slice of columns can be wrong. -/
inductive SliceFault where
  | blankTable
  | nothingFixed (table : String)
  | blankFixedColumn (table : String)
  | nullFixed (table column : String)
  | noVaryingColumn (table : String)
deriving Repr, DecidableEq

/-- The error of a fault. -/
def SliceFault.toError : SliceFault → Error
  | .blankTable => .ofConfig "The slice query table name should not be blank"
  | .nothingFixed table =>
    .ofConfig s!"The slice query on table '{table}' should have at least one fixed component"
  | .blankFixedColumn table =>
    .ofConfig s!"The slice query on table '{table}' has a fixed component without column name"
  | .nullFixed table column =>
    .ofConfig
      s!"The fixed component '{column}' of the slice query on table '{table}' should not be null"
  | .noVaryingColumn table =>
    .ofConfig s!"The slice query on table '{table}' has range bounds but no varying component name"

namespace SliceSpec

/-- A slice of a table of which nothing else is said. -/
def ofTable (table : String) : SliceSpec :=
  { table, columns := [], fixed := [], varying := none, start := none, stop := none,
    ordering := .ascending, bounding := .inclusive, orderColumn := none, limit := none,
    batchSize := none }

/-- The fault of one fixed column. -/
def fixedFault? (table column : String) (v : Value) : Option SliceFault :=
  if Text.isBlank column then some (.blankFixedColumn table)
  else if v.isNull then some (.nullFixed table column)
  else none

/-- The comparisons of the fixed columns. -/
def fixedClause (spec : SliceSpec) : Except SliceFault WhereClause :=
  if Text.isBlank spec.table then .error .blankTable
  else if spec.fixed.isEmpty then .error (.nothingFixed spec.table)
  else
    spec.fixed.mapM fun (column, v) =>
      match fixedFault? spec.table column v with
      | some fault => .error fault
      | none => .ok (.ofValue column .eq v)

/-- The sign of the comparison with the start. -/
def startRelation (ordering : Direction) (bounding : Bounding) : Relation :=
  match ordering, bounding.includesStart with
  | .ascending, true => .ge
  | .ascending, false => .gt
  | .descending, true => .le
  | .descending, false => .lt

/-- The sign of the comparison with the end. -/
def stopRelation (ordering : Direction) (bounding : Bounding) : Relation :=
  match ordering, bounding.includesEnd with
  | .ascending, true => .le
  | .ascending, false => .lt
  | .descending, true => .ge
  | .descending, false => .gt

/-- The comparisons of the varying column, the start first. -/
def rangeClause (spec : SliceSpec) : Except SliceFault WhereClause :=
  if spec.start.isNone && spec.stop.isNone then .ok []
  else
    match spec.varying.filter fun column => !Text.isBlank column with
    | none => .error (.noVaryingColumn spec.table)
    | some column =>
      let start := spec.start.map
        (Predicate.ofValue column (startRelation spec.ordering spec.bounding))
      let stop := spec.stop.map
        (Predicate.ofValue column (stopRelation spec.ordering spec.bounding))
      .ok (start.toList ++ stop.toList)

/-- What follows the condition of a read: the order, if descending, and the limit. -/
def tail (spec : SliceSpec) : String :=
  let order :=
    match spec.ordering, spec.orderColumn.or spec.varying with
    | .descending, some column => " " ++ OrderBy.text ⟨column, true⟩
    | _, _ => ""
  let limit :=
    match spec.limit with
    | some limit => " " ++ limitText limit
    | none => ""
  order ++ limit

/-- The statement that reads the slice. -/
def select (spec : SliceSpec) : Except SliceFault SliceStatement := do
  let clause := (← spec.fixedClause) ++ (← spec.rangeClause)
  let predicate := WhereClause.text clause
  return {
    query := s!"SELECT {Template.columnsOrStar spec.columns} FROM {spec.table} WHERE {predicate}" ++
      spec.tail ++ ";"
    predicate
    values := WhereClause.values clause
    fetchSize := spec.batchSize }

/-- The statement that deletes all rows with the fixed columns. -/
def delete (spec : SliceSpec) : Except SliceFault SliceStatement := do
  let clause ← spec.fixedClause
  let predicate := WhereClause.text clause
  return {
    query := s!"DELETE FROM {spec.table} WHERE {predicate};"
    predicate
    values := WhereClause.values clause
    fetchSize := none }

end SliceSpec

end WideColumn
