import WideColumn.Query.Template
import WideColumn.Text.Blank

/-!
# Queries through a secondary index

An equality on one column that need not belong to the key.
-/

namespace WideColumn

/-- A column compared with a value through its index. -/
structure IndexCondition where
  column : String
  value : Value

namespace IndexCondition

/-- The only relation that an index answers. -/
def relation : Relation := .eq

/-- The column has a name and the value is there. -/
def validate (c : IndexCondition) : Except Error Unit :=
  if Text.isBlank c.column then
    .error (.ofViolation "column" .blank
      "Column name for index condition should not be blank")
  else if c.value.isNull then
    .error (.ofViolation "value" .required
      "Column value for index condition should not be null")
  else .ok ()

/-- The statement text and the value to bind. -/
def query (c : IndexCondition) (em : EntityMeta) : Except Error (String × List Value) :=
  if em.isClustered then
    .error (.ofConfig "Index query is not supported for clustered entity")
  else do
    c.validate
    let predicate := Predicate.named c.column relation
    return (s!"SELECT * FROM {em.tableName} WHERE {predicate.text};", [c.value])

end IndexCondition

end WideColumn
