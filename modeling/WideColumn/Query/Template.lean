import WideColumn.Meta.Entity
import WideColumn.Query.Clause

/-!
# Statement templates

The texts of the statements that belong to an entity class, made once when the class is registered,
and of the updates, made per set of properties. Markers are named after their columns, except in
the table that all plain counters share, where they are positional.
-/

namespace WideColumn

/-- What is done to a counter. -/
inductive CounterAction where
  | incr
  | decr
  | select
  | delete
deriving Repr, DecidableEq

namespace Template

/-- The table that holds the counters of all entities without counter tables of their own. -/
def counterTable : String := "cqlmodel_counter_table"

/-- Its column for the entity class. -/
def counterClass : String := "fqcn"

/-- Its column for the text of the key. -/
def counterKey : String := "primary_key"

/-- Its column for the property name. -/
def counterProperty : String := "property_name"

/-- Its column for the value. -/
def counterValue : String := "counter_value"

/-- The name under which the select of a whole counter row is kept. -/
def selectAll : String := "SELECT_ALL"

/-- The name under which the delete of a whole counter row is kept. -/
def deleteAll : String := "DELETE_ALL"

/-- Names joined by commas. -/
def commaList (names : List String) : String := ",".intercalate names

/-- The condition that selects the row of a key. -/
def keyCondition (em : EntityMeta) : String :=
  (WhereClause.namedEqualities em.idColumns).text

/-- Every column set to the marker named like it. -/
def assignments (columns : List String) : String :=
  commaList (columns.map fun c => s!"{c}=:{c}")

/-- The columns of an insert: the key, then the plain properties. -/
def insertColumns (em : EntityMeta) : List String :=
  em.idColumns ++ em.plain.map (fun pm => pm.name)

/-- Insert a row with a time to live. -/
def insert (em : EntityMeta) : String :=
  let columns := commaList (insertColumns em)
  let markers := commaList ((insertColumns em).map fun c => ":" ++ c)
  s!"INSERT INTO {em.tableName}({columns}) VALUES ({markers}) USING TTL :ttl;"

/-- Read one property of a row. -/
def selectField (em : EntityMeta) (pm : PropertyMeta) : Except Error String :=
  if pm.isCounter then
    .error (.ofConfig
      s!"Cannot prepare statement for property '{pm.name}' of entity '{em.className}' because it is a counter type")
  else
    .ok s!"SELECT {commaList pm.columnNames} FROM {em.tableName} WHERE {keyCondition em};"

/-- The columns read when an entity is loaded; none means all of the row. -/
def entityColumns (em : EntityMeta) : List String :=
  if em.isClusteredCounter then [] else em.idColumns ++ em.eager.map (fun pm => pm.name)

/-- A column list, or a star for the empty one. -/
def columnsOrStar (columns : List String) : String :=
  if columns.isEmpty then "*" else commaList columns

/-- Read the row of an entity. -/
def selectEntity (em : EntityMeta) : String :=
  s!"SELECT {columnsOrStar (entityColumns em)} FROM {em.tableName} WHERE {keyCondition em};"

/-- Update properties of a row, with a time to live. -/
def update (em : EntityMeta) (properties : List PropertyMeta) : String :=
  let changes := assignments (properties.map fun pm => pm.name)
  s!"UPDATE {em.tableName} USING TTL :ttl SET {changes} WHERE {keyCondition em};"

/-- Delete a row, by table. -/
def deletes (em : EntityMeta) : List (String × String) :=
  [(em.tableName, s!"DELETE FROM {em.tableName} WHERE {keyCondition em};")]

/-- The condition that selects a counter of the shared table. -/
def counterCondition : String :=
  s!"{counterClass} = ? AND {counterKey} = ? AND {counterProperty} = ?"

/-- The statements of the shared counter table. -/
def sharedCounters : List (CounterAction × String) :=
  [(.incr,
      s!"UPDATE {counterTable} SET {counterValue} = {counterValue} + ? WHERE {counterCondition}"),
   (.decr,
      s!"UPDATE {counterTable} SET {counterValue} = {counterValue} - ? WHERE {counterCondition}"),
   (.select, s!"SELECT {counterValue} FROM {counterTable} WHERE {counterCondition}"),
   (.delete, s!"DELETE FROM {counterTable} WHERE {counterCondition}")]

/-- The statements of one counter of a counter table. -/
def clusteredCounter (em : EntityMeta) (name : String) : List ((CounterAction × String) × String) :=
  let table := em.tableName
  let condition := keyCondition em
  [((.incr, name), s!"UPDATE {table} SET {name}={name}+:{name} WHERE {condition};"),
   ((.decr, name), s!"UPDATE {table} SET {name}={name}-:{name} WHERE {condition};"),
   ((.select, name), s!"SELECT {name} FROM {table} WHERE {condition};")]

/-- The statements of a counter table: three per counter, then the two for the whole row. -/
def clusteredCounters (em : EntityMeta) : List ((CounterAction × String) × String) :=
  em.counters.flatMap (fun pm => clusteredCounter em pm.name) ++
    [((.select, selectAll), s!"SELECT * FROM {em.tableName} WHERE {keyCondition em};"),
     ((.delete, deleteAll), s!"DELETE FROM {em.tableName} WHERE {keyCondition em};")]

end Template

end WideColumn
