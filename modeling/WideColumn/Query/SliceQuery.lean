import WideColumn.Query.Slice
import WideColumn.Value.Order

/-!
# Slice queries

A slice of one partition of a clustered entity, given by the values of the partition components and
by two lists of clustering values, where it starts and where it ends. The values that the two lists
have in common are fixed; the component after them varies.
-/

namespace WideColumn

/-- A slice of one partition of an entity class. -/
structure SliceQuery where
  entity : EntityMeta
  key : CompoundKey
  partition : List Value
  start : List Value
  stop : List Value
  ordering : Direction
  bounding : Bounding
  limit : Nat
  batchSize : Nat

/-- One of the two ends of a slice. -/
inductive SliceSide where
  | start
  | stop
deriving Repr, DecidableEq

/-- The name of an end in error texts. -/
def SliceSide.name : SliceSide → String
  | .start => "start"
  | .stop => "end"

/-- How a slice query can be wrong. -/
inductive SliceQueryFault where
  | partitionCount (expected : Nat)
  | nullPartition (component : String)
  | tooManyClusterings (side : SliceSide) (most : Nat)
  | nullClustering (side : SliceSide)
  | differEarly
  | wrongOrder (ordering : Direction)
deriving Repr, DecidableEq

/-- The error of a fault in a slice of the given entity class. -/
def SliceQueryFault.toError (entity : String) : SliceQueryFault → Error
  | .partitionCount expected =>
    .ofViolation "partition_components" .missingKeyComponent
      s!"There should be exactly {expected} partition component(s) for slice query on entity '{entity}'"
  | .nullPartition component =>
    .ofViolation component .missingKeyComponent
      s!"The partition component '{component}' should not be null for slice query on entity '{entity}'"
  | .tooManyClusterings side most =>
    .ofConfig
      s!"There should be at most {most} {side.name} clustering component(s) for slice query on entity '{entity}'"
  | .nullClustering side =>
    .ofConfig
      s!"The {side.name} clustering components should not contain null for slice query on entity '{entity}'"
  | .differEarly =>
    .ofConfig
      s!"Only the last clustering component can differ between start and end for slice query on entity '{entity}'"
  | .wrongOrder .ascending =>
    .ofConfig
      "For slice query with ascending order, start clustering components should be lesser or equal to end clustering components"
  | .wrongOrder .descending =>
    .ofConfig
      "For slice query with descending order, start clustering components should be greater or equal to end clustering components"

/-- How many values two lists have in common at their fronts. -/
def commonLength : List Value → List Value → Nat
  | a :: as, b :: bs => if a == b then commonLength as bs + 1 else 0
  | _, _ => 0

namespace SliceQuery

/-- The limit of a query that sets none. -/
def defaultLimit : Nat := 100

/-- The page size of a query that sets none. -/
def defaultBatchSize : Nat := 100

/-- A query for the whole table of an entity class, which has to be clustered. -/
def ofMeta (em : EntityMeta) : Except Error SliceQuery :=
  match em.id.key with
  | some key =>
    if key.isClustered then
      .ok { entity := em, key, partition := [], start := [], stop := [], ordering := .ascending,
            bounding := .inclusive, limit := defaultLimit, batchSize := defaultBatchSize }
    else .error (notClustered em)
  | none => .error (notClustered em)
where
  notClustered (em : EntityMeta) : Error :=
    .ofConfig
      s!"Cannot perform slice query on entity type '{em.className}' because it is not a clustered entity"

/-- The fault of the partition values: one value per component, none of them null. -/
def partitionFault? (q : SliceQuery) : Option SliceQueryFault :=
  let components := q.key.partition
  if q.partition.length != components.length then some (.partitionCount components.length)
  else
    ((components.zip q.partition).find? fun (_, v) => v.isNull).map fun (c, _) =>
      .nullPartition c.name

/-- The fault of the clustering values of one end: not more than there are components, none null. -/
def sideFault? (q : SliceQuery) (side : SliceSide) (values : List Value) :
    Option SliceQueryFault :=
  let most := q.key.clustering.length
  if most < values.length then some (.tooManyClusterings side most)
  else if values.any Value.isNull then some (.nullClustering side)
  else none

/-- The fault of the two ends taken together: they differ at most in their last value, and not
against the direction of the read. -/
def rangeFault? (q : SliceQuery) : Option SliceQueryFault :=
  let common := commonLength q.start q.stop
  if common + 1 < q.start.length || common + 1 < q.stop.length then some .differEarly
  else
    match q.start[common]?, q.stop[common]? with
    | some a, some b =>
      match q.ordering, a.order? b with
      | .ascending, some .gt => some (.wrongOrder .ascending)
      | .descending, some .lt => some (.wrongOrder .descending)
      | _, _ => none
    | _, _ => none

/-- The first fault of a query. -/
def fault? (q : SliceQuery) : Option SliceQueryFault :=
  q.partitionFault? <|> q.sideFault? .start q.start <|> q.sideFault? .stop q.stop <|> q.rangeFault?

/-- The slice in terms of columns. -/
def columnsSpec (q : SliceQuery) : SliceSpec :=
  let common := commonLength q.start q.stop
  let partition := q.key.partition.map KeyComponent.name
  let clustering := q.key.clustering.map KeyComponent.name
  let start := q.start[common]?
  let stop := q.stop[common]?
  { table := q.entity.tableName
    columns := Template.entityColumns q.entity
    fixed := partition.zip q.partition ++ clustering.zip (q.start.take common)
    varying := if start.isSome || stop.isSome then clustering[common]? else none
    start, stop
    ordering := q.ordering
    bounding := q.bounding
    orderColumn := clustering.head?
    limit := some q.limit
    batchSize := some q.batchSize }

/-- The slice in terms of columns, if the query is well formed. -/
def spec (q : SliceQuery) : Except Error SliceSpec :=
  match q.fault? with
  | some fault => .error (fault.toError q.entity.className)
  | none => .ok q.columnsSpec

/-- The statement that reads the slice. -/
def select (q : SliceQuery) : Except Error SliceStatement := do
  (← q.spec).select.mapError SliceFault.toError

/-- The statement that deletes the rows with the fixed columns of the slice. -/
def delete (q : SliceQuery) : Except Error SliceStatement := do
  (← q.spec).delete.mapError SliceFault.toError

end SliceQuery

end WideColumn
