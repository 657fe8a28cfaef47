import WideColumn.Edit.MapView
import WideColumn.Edit.SetView
import WideColumn.Entity
import WideColumn.Persist.Proxy
import WideColumn.Value.Convert
import WideColumn.Value.Order
import WideColumn.Value.Tagged

/-!
# Records

Entities whose class is described at run time. A `Schema` declares the properties and the
interceptors of a class; a `Record` holds the values of one entity. `Schema.entityType` gives the
library access to the records of a schema.
-/

namespace WideColumn

/-! ## Order of items -/

namespace Value

/-- The place of a kind in the order of items. -/
def itemRank : Value → Nat
  | .null => 0
  | .bool _ => 1
  | .int _ => 2
  | .bigint _ => 3
  | .timestamp _ => 4
  | .text _ => 5
  | .uuid _ => 6
  | .blob _ => 7
  | _ => 8

/-- A total order of the items of a set or the keys of a map: by kind, then by value. Kinds of
which not any two values can be compared are ordered by the texts of their documents. -/
def itemOrder (a b : Value) : Ordering :=
  match compare a.itemRank b.itemRank with
  | .eq =>
    if a.itemRank < 8 then (a.order? b).getD .eq else compare a.taggedText b.taggedText
  | order => order

instance : Ord Value := ⟨itemOrder⟩

/-- Items sorted. -/
def sortItems (items : List Value) : List Value :=
  items.mergeSort fun a b => itemOrder a b != .gt

/-- Entries sorted by key. -/
def sortEntries (entries : List (Value × Value)) : List (Value × Value) :=
  entries.mergeSort fun a b => itemOrder a.1 b.1 != .gt

end Value

/-! ## Schemas -/

/-- What an interceptor of a schema does to a record, in this order. -/
structure Reaction where
  name : String
  events : List Event
  /-- Attributes to write. -/
  sets : List (String × Value)
  /-- Deltas to queue on counters. -/
  increments : List (String × Int)
  /-- The key to put in place. -/
  key : Option (List Value)
  /-- The text of the error to end with. -/
  failure : Option String

/-- An interceptor of a schema. -/
inductive Watcher where
  | reaction (r : Reaction)
  /-- One that was made for entities of another type, and wants to see every event. -/
  | foreign (target : String)

/-- The description of a class of records. -/
structure Schema where
  draft : EntityDraft
  watchers : List Watcher
  /-- The properties that a record does not tell. -/
  hidden : List String
  /-- The counters for which a record has no cell. -/
  withoutCell : List String

/-- One entity of a schema. -/
structure Record where
  key : List Value
  /-- By property name; the items of sets and the entries of maps are sorted. -/
  attributes : List (String × Value)
  counters : List (String × Counter)
  /-- The events seen by interceptors, oldest first. -/
  seen : List Event
deriving Inhabited

namespace Record

/-- The value of an attribute. -/
def value (r : Record) (name : String) : Value := (r.attributes.lookup name).getD .null

/-- Set the value of an attribute. -/
def setAttribute (r : Record) (name : String) (v : Value) : Record :=
  { r with attributes := putEntry name v r.attributes }

/-- The cell of a counter. -/
def counter? (r : Record) (name : String) : Option Counter := r.counters.lookup name

/-- Change the cell of a counter, if the record has one. -/
def modifyCounter (r : Record) (name : String) (f : Counter → Counter) : Record :=
  { r with counters := r.counters.map fun (k, c) => if k = name then (k, f c) else (k, c) }

/-- A list attribute. -/
def list (name : String) : Accessor Record (List Value) where
  get r :=
    match r.value name with
    | .list items => items
    | _ => []
  set r items := r.setAttribute name (.list items)

/-- A set attribute. -/
def set (name : String) : Accessor Record (List Value) where
  get r :=
    match r.value name with
    | .set items => items
    | _ => []
  set r items := r.setAttribute name (.set (Value.sortItems items))

/-- A map attribute. -/
def map (name : String) : Accessor Record (List (Value × Value)) where
  get r :=
    match r.value name with
    | .map entries => entries
    | _ => []
  set r entries := r.setAttribute name (.map (Value.sortEntries entries))

end Record

namespace Schema

/-- What a record holds for a property that was not written; keys and counters are held
elsewhere. -/
def vacant : PropertyKind → Option Value
  | .simple => some .null
  | .list => some (.list [])
  | .set => some (.set [])
  | .map => some (.map [])
  | .id | .embeddedId | .counter => none

/-- A record that has only its key. -/
def ofKey (s : Schema) (key : List Value) : Record :=
  { key
    attributes := s.draft.properties.filterMap fun p => (vacant p.kind).map fun v => (p.name, v)
    counters := (s.draft.properties.filter fun p =>
      p.kind.isCounter && !s.withoutCell.contains p.name).map fun p => (p.name, .empty)
    seen := [] }

/-- Convert to a value of a simple property. -/
def coerceSimple (type : CqlType) (v : Value) : Except Error Value :=
  match type with
  | .boolean => (v.optional Value.toBool).map fun x => .ofOption (x.map .bool)
  | .int => (v.optional Value.toInt32).map fun x => .ofOption (x.map .int)
  | .bigint => (v.optional Value.toInt64).map fun x => .ofOption (x.map .bigint)
  | .double => (v.optional Value.toDouble).map fun x => .ofOption (x.map .double)
  | .text => (v.optional Value.toText).map fun x => .ofOption (x.map .text)
  | .uuid | .timeuuid => (v.optional Value.toUuid).map fun x => .ofOption (x.map .uuid)
  | .custom _ => if v.isNull then .ok .null else v.toJson.map .json
  | _ => .ok v

/-- Convert to the items of a list or set. -/
def coerceItems (type : CqlType) (v : Value) : Except Error (List Value) :=
  match type.element? with
  | some .int => (v.each Value.toInt32).map fun xs => xs.map .int
  | some .bigint => (v.each Value.toInt64).map fun xs => xs.map .bigint
  | some .text => (v.each Value.toText).map fun xs => xs.map .text
  | _ =>
    match v with
    | .list items | .set items => .ok items
    | _ => .ok []

/-- Convert to the entries of a map; of several with one key the last counts. -/
def coerceEntries (v : Value) : List (Value × Value) :=
  match v with
  | .map entries => entries.foldl (fun es (k, x) => putEntry k x es) []
  | _ => []

/-- Convert to a value of a property. -/
def coerce (p : PropertyDraft) (v : Value) : Except Error Value :=
  match p.kind with
  | .list => (coerceItems p.type v).map .list
  | .set =>
    (coerceItems p.type v).map fun items => .set (Value.sortItems (items.foldl insertNew []))
  | .map => .ok (.map (Value.sortEntries (coerceEntries v)))
  | _ => coerceSimple p.type v

/-- Write one attribute. Keys and counters are not attributes. -/
def write (s : Schema) (r : Record) (name : String) (v : Value) : Except Error Record :=
  match s.draft.properties.find? fun p => p.name == name && (vacant p.kind).isSome with
  | some p => (coerce p v).map (r.setAttribute name)
  | none =>
    .error (.mapping .unknownProperty s.draft.className s!"unknown property '{name}'")

/-- Write several attributes, until one fails. -/
def writeAll (s : Schema) : Record → List (String × Value) → Record × Option Error
  | r, [] => (r, none)
  | r, (name, v) :: rest =>
    match s.write r name v with
    | .ok r => s.writeAll r rest
    | .error e => (r, some e)

/-- The values of a record that it tells, in declared order. -/
def values (s : Schema) (r : Record) : List (String × Value) :=
  (s.draft.properties.filter fun p =>
      (vacant p.kind).isSome && !s.hidden.contains p.name).map fun p =>
    (p.name, r.value p.name)

/-- Run a reaction on a record. -/
def react (s : Schema) (reaction : Reaction) (r : Record) (event : Event) :
    Record × Option Error :=
  match s.writeAll { r with seen := r.seen ++ [event] } reaction.sets with
  | (r, some e) => (r, some e)
  | (r, none) =>
    let r := reaction.increments.foldl
      (fun r (name, delta) => r.modifyCounter name fun c => c.incrBy delta) r
    ({ r with key := reaction.key.getD r.key }, reaction.failure.map .custom)

/-- The interceptors of the schema, for entities of the given type. -/
def interceptors (s : Schema) (typeName : String) : List (Interceptor Record) :=
  s.watchers.map fun
    | .reaction reaction =>
      { name := reaction.name, target := typeName, events := reaction.events
        run := s.react reaction }
    | .foreign target =>
      { name := target, target, events := Event.every, run := fun r _ => (r, none) }

/-- The columns of the key with their types. -/
def keyColumns (s : Schema) : List (String × CqlType) :=
  match s.draft.properties.find? fun p => p.kind.isId with
  | none => []
  | some p =>
    match p.key with
    | some key => key.components.map fun c => (c.name, c.type)
    | none => [(p.name, p.type)]

/-- The value of a key column in a row. `label` is what an error text calls a type. -/
def readKeyColumn (label : CqlType → String) (row : Row) (name : String) (type : CqlType) :
    Except Error Value :=
  match type with
  | .boolean => (row.getAs name (label type) Value.toBool).map .bool
  | .int => (row.getAs name (label type) Value.toInt32).map .int
  | .bigint => (row.getAs name (label type) Value.toInt64).map .bigint
  | .double => (row.getAs name (label type) Value.toDouble).map .double
  | .text => (row.getAs name (label type) Value.toText).map .text
  | .uuid | .timeuuid => (row.getAs name (label type) Value.toUuid).map .uuid
  | _ => .ok ((row.find? name).getD .null)

/-- Take over the column of one property, if the row has it. -/
def readColumn (s : Schema) (row : Row) (r : Record) (p : PropertyDraft) : Except Error Record :=
  match row.find? p.name with
  | none => .ok r
  | some v =>
    if p.kind.isCounter then
      .ok (r.modifyCounter p.name fun c => c.setLoaded (v.int?.map Int64.toInt))
    else s.write r p.name v

/-- The record of a row. -/
def ofRow (s : Schema) (label : CqlType → String) (row : Row) : Except Error Record := do
  let key ← s.keyColumns.mapM fun (name, type) => readKeyColumn label row name type
  (s.draft.properties.filter fun p => !p.kind.isId).foldlM (s.readColumn row) (s.ofKey key)

/-- The records of a schema as entities of the given type. -/
def entityType (s : Schema) (typeName shortName : String) (label : CqlType → String) :
    EntityType Record where
  typeName
  shortName
  entityMeta := s.draft.build
  interceptors := s.interceptors typeName
  values := s.values
  write := s.write
  key r := r.key
  ofKey key := .ok (s.ofKey key)
  ofRow := s.ofRow label
  counter? := Record.counter?
  setCounter r name c := r.modifyCounter name fun _ => c

end Schema

end WideColumn
