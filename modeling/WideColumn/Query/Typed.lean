import WideColumn.Meta.Entity
import WideColumn.Text.Word

/-!
# Hand-written queries

Checks that the rows of a query text can be read as entities of a class: it names the table after
`from`, and either selects everything or mentions every column of the key.
-/

namespace WideColumn.TypedQuery

/-- A violation in the text of a query. -/
def invalid (message : String) : Error :=
  .ofViolation "query" .custom message

/-- Whether the text starts with `select *`, after any blanks. -/
def selectsAll (query : List Char) : Bool :=
  match Text.matchFolded none "select".toList (query.dropWhile Text.isBlankChar) with
  | some (_, rest) =>
    rest.head?.any Text.isBlankChar && (rest.dropWhile Text.isBlankChar).head? == some '*'
  | none => false

/-- The query names the table of the class after `from`. -/
def validateRaw (em : EntityMeta) (query : String) : Except Error Unit :=
  if Text.containsWords "from".toList em.tableName.toList query.toList then .ok ()
  else
    let table := Text.lower em.tableName
    .error (invalid
      s!"The typed query [{query}] should contain the ' from {table}' clause if type is '{em.className}'")

/-- The error for a key column that the query does not mention. -/
def missingColumn (em : EntityMeta) (query column : String) : Error :=
  if em.hasCompoundKey then
    invalid s!"The typed query [{query}] should contain the component column '{column}' for compound key of entity '{em.className}'"
  else invalid s!"The typed query [{query}] should contain the id column '{column}'"

/-- The query names the table of the class after `from`, and mentions every column of the key
unless it selects everything. -/
def validate (em : EntityMeta) (query : String) : Except Error Unit := do
  validateRaw em query
  if selectsAll query.toList then return ()
  match em.idColumns.find? fun column => !Text.containsWord column.toList query.toList with
  | some column => throw (missingColumn em query column)
  | none => return ()

end WideColumn.TypedQuery
