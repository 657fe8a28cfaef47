import WideColumn.Meta.Document
import WideColumn.Query.SliceQuery

/-!
# Queries as documents

Clauses and slices are read from documents, and slices and their statements are written.
-/

namespace WideColumn

open Writable (write)

instance : Named CounterAction :=
  ⟨[("Incr", .incr), ("Decr", .decr), ("Select", .select), ("Delete", .delete)]⟩

instance : Named Relation := ⟨[("=", .eq), (">", .gt), (">=", .ge), ("<", .lt), ("<=", .le)]⟩

instance : Named Direction := ⟨[("Ascending", .ascending), ("Descending", .descending)]⟩

instance : Named Bounding :=
  ⟨[("InclusiveBounds", .inclusive), ("ExclusiveBounds", .exclusive),
    ("InclusiveStartBoundOnly", .inclusiveStart), ("InclusiveEndBoundOnly", .inclusiveEnd)]⟩

/-- A comparison without a value is one with a named marker; null is a value. -/
instance : Readable Predicate where
  read j := do
    let column ← j.get "column"
    let relation ← j.get "rel"
    if j.hasField "value" then return .ofValue column relation (← j.get "value")
    return .named column relation

instance : Writable Operand where
  write
    | .literal text => .obj [("literal", write text)]
    | .bound v => .obj [("bound", write v)]
    | .named => .str "named"

instance : Writable Predicate where
  write p := .arr [write p.column, write p.relation, write p.operand, write p.text]

/-- Each end is a list of at most one value. -/
instance : Readable SliceSpec where
  read j := do
    let start : List Value ← j.get "start"
    let stop : List Value ← j.get "end"
    let ordering : Option Direction ← j.get "ordering"
    let bounding : Option Bounding ← j.get "bounding"
    return {
      table := ← j.get "table", columns := ← j.get "columns", fixed := ← j.get "fixed"
      varying := ← j.get "varying", start := start.head?, stop := stop.head?
      ordering := ordering.getD .ascending, bounding := bounding.getD .inclusive
      orderColumn := ← j.get "order_column", limit := ← j.get "limit"
      batchSize := ← j.get "batch_size" }

instance : Writable SliceSpec where
  write spec :=
    .obj [("table", write spec.table), ("fixed", write spec.fixed), ("varying", write spec.varying),
      ("start", write (spec.start.map fun v => [v])), ("end", write (spec.stop.map fun v => [v])),
      ("ordering", write spec.ordering), ("bounding", write spec.bounding),
      ("limit", largeNat spec.limit), ("batch_size", largeNat spec.batchSize)]

instance : Writable SliceStatement where
  write s :=
    .obj [("query", write s.query), ("values", write s.values), ("predicate", write s.predicate),
      ("fetch_size", largeNat s.fetchSize)]

/-- What a document says about a slice query. -/
structure SliceDraft where
  partition : Option (List Value)
  start : Option (List Value)
  stop : Option (List Value)
  ordering : Option Direction
  bounding : Option Bounding
  limit : Option Nat
  batchSize : Option Nat

instance : Readable SliceDraft where
  read j := do
    return {
      partition := ← j.get "partition", start := ← j.get "from", stop := ← j.get "to"
      ordering := ← j.get "ordering", bounding := ← j.get "bounding", limit := ← j.get "limit"
      batchSize := ← j.get "batch_size" }

/-- Set on a query what a draft says. -/
def SliceDraft.apply (d : SliceDraft) (q : SliceQuery) : SliceQuery :=
  { q with
    partition := d.partition.getD q.partition
    start := d.start.getD q.start
    stop := d.stop.getD q.stop
    ordering := d.ordering.getD q.ordering
    bounding := d.bounding.getD q.bounding
    limit := d.limit.getD q.limit
    batchSize := d.batchSize.getD q.batchSize }

end WideColumn
