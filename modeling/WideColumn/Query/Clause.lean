import WideColumn.Value

/-!
# Clauses

Predicates and their conjunction, the order of a read, and its limit, as query text with the values
to bind.
-/

namespace WideColumn

/-- How a column is compared. -/
inductive Relation where
  | eq
  | gt
  | ge
  | lt
  | le
deriving Repr, DecidableEq

/-- The sign of a relation. -/
def Relation.sign : Relation → String
  | .eq => "="
  | .gt => ">"
  | .ge => ">="
  | .lt => "<"
  | .le => "<="

/-- What a column is compared with. -/
inductive Operand where
  /-- Written into the text. -/
  | literal (text : String)
  /-- Bound to a positional marker. -/
  | bound (v : Value)
  /-- Bound to the marker named like the column. -/
  | named

/-- One comparison. -/
structure Predicate where
  column : String
  relation : Relation
  operand : Operand

namespace Predicate

/-- A comparison with a value: numbers and booleans are written into the text, everything else is
bound. -/
def ofValue (column : String) (relation : Relation) (v : Value) : Predicate :=
  match v.literal? with
  | some text => { column, relation, operand := .literal text }
  | none => { column, relation, operand := .bound v }

/-- A comparison with the marker named like the column. -/
def named (column : String) (relation : Relation) : Predicate :=
  { column, relation, operand := .named }

/-- The text of the right-hand side. -/
def operandText (p : Predicate) : String :=
  match p.operand with
  | .literal text => text
  | .bound _ => "?"
  | .named => s!":{p.column}"

/-- The text of the comparison. -/
def text (p : Predicate) : String := p.column ++ p.relation.sign ++ p.operandText

/-- The value to bind, if the comparison has a positional marker. -/
def value? (p : Predicate) : Option Value :=
  match p.operand with
  | .bound v => some v
  | _ => none

end Predicate

/-- A conjunction of comparisons. -/
abbrev WhereClause := List Predicate

namespace WhereClause

/-- Every column compared with the marker named like it. -/
def namedEqualities (columns : List String) : WhereClause :=
  columns.map fun column => .named column .eq

/-- The text of the conjunction. -/
def text (clause : WhereClause) : String :=
  " AND ".intercalate (clause.map Predicate.text)

/-- The values of the positional markers, in order. -/
def values (clause : WhereClause) : List Value :=
  clause.filterMap Predicate.value?

end WhereClause

/-- The order of the rows of a read. -/
structure OrderBy where
  column : String
  descending : Bool
deriving Repr, DecidableEq

/-- The text of an order. -/
def OrderBy.text (o : OrderBy) : String :=
  s!"ORDER BY {o.column} " ++ (if o.descending then "DESC" else "ASC")

/-- The text of a limit. -/
def limitText (limit : Nat) : String := s!"LIMIT {limit}"

end WideColumn
