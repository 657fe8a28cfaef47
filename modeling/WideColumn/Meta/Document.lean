import WideColumn.Meta.Encoding
import WideColumn.Meta.Entity
import WideColumn.Statement.Document

/-!
# Metadata as documents

Types, keys, properties and entity classes are read from the documents that declare them, and
checked metadata is written with all that follows from it.
-/

namespace WideColumn

open Writable (write)

namespace CqlType

/-- The types without parts. -/
def plain : List CqlType :=
  [boolean, int, bigint, float, double, decimal, text, blob, uuid, timeuuid, timestamp, counter]

/-- The type that a document declares: a name, or an object with one field for the parts. -/
def ofJson? : Json → Option CqlType
  | .str s => plain.find? fun type => type.name == s
  | .obj [(tag, content)] =>
    match tag, content with
    | "list", t => (ofJson? t).map list
    | "set", t => (ofJson? t).map set
    | "map", .arr [k, v] => do return map (← ofJson? k) (← ofJson? v)
    | "custom", .str name => some (custom name)
    | _, _ => none
  | _ => none

/-- The document of a type. -/
def toJson : CqlType → Json
  | list t => .obj [("list", t.toJson)]
  | set t => .obj [("set", t.toJson)]
  | map k v => .obj [("map", .arr [k.toJson, v.toJson])]
  | custom name => .obj [("custom", .str name)]
  | t => .str t.name

end CqlType

instance : Readable CqlType where
  read j := expected "type" (CqlType.ofJson? j)

instance : Writable CqlType := ⟨CqlType.toJson⟩

instance : Readable KeyRole where
  read
    | .str "partition" => .ok .partition
    | .str "clustering" => .ok .clustering
    | _ => .error "role expected"

instance : Writable KeyRole where
  write
    | .partition => .str "Partition"
    | .clustering => .str "Clustering"

instance : Readable KeyComponent where
  read j := do
    return {
      name := ← j.get "name", type := ← j.get "type", role := ← j.get "role"
      reversed := ← j.get "reversed" }

instance : Writable KeyComponent where
  write c := .arr [write c.name, write c.type, write c.role, write c.reversed]

instance : Readable CompoundKey where
  read j := (Readable.read j).map CompoundKey.mk

instance : Named PropertyKind :=
  ⟨[("Id", .id), ("EmbeddedId", .embeddedId), ("Simple", .simple), ("List", .list), ("Set", .set),
    ("Map", .map), ("Counter", .counter)]⟩

instance : Named Encoding :=
  ⟨[("Simple", .simple), ("Compound", .compound), ("List", .list), ("Set", .set), ("Map", .map)]⟩

instance : Readable PropertyDraft where
  read j := do
    return {
      name := ← j.get "name", kind := ← j.get "kind", type := ← j.get "type"
      readLevel := ← j.get "read", writeLevel := ← j.get "write"
      hasSetter := !(← j.get "read_only"), isLazy := ← j.get "lazy", key := ← j.get "key" }

instance : Writable PropertyMeta where
  write pm :=
    .obj [("name", write pm.name), ("class", write pm.entityClass), ("kind", write pm.kind),
      ("type", write pm.type),
      ("kind_flags", write [pm.kind.isId, pm.kind.isCounter, pm.kind.isCollection]),
      ("read", write pm.readLevel), ("write", write pm.writeLevel), ("setter", write pm.hasSetter),
      ("lazy", write pm.isLazy), ("counter", write pm.isCounter),
      ("embedded", write pm.isEmbeddedId), ("columns", write pm.columnNames),
      ("transcoder", write pm.encoding),
      ("components", write (pm.key.map fun key => key.components.length))]

instance : Readable EntityDraft where
  read j := do
    return {
      className := ← j.get "class", tableName := ← j.get "table"
      properties := ← j.get "properties", readLevel := ← j.get "read"
      writeLevel := ← j.get "write", isClusteredCounter := ← j.get "clustered_counter" }

/-- The names of properties. -/
def propertyNames (properties : List PropertyMeta) : List String :=
  properties.map fun pm => pm.name

/-- The fields of the document of an entity class. -/
def EntityMeta.fields (em : EntityMeta) : List (String × Json) :=
  [("class", write em.className), ("table", write em.tableName), ("id", write em.id),
    ("properties", write (propertyNames em.properties)), ("read", write em.readLevel),
    ("write", write em.writeLevel),
    ("declared", write [em.declaredReadLevel, em.declaredWriteLevel]),
    ("clustered_counter", write em.isClusteredCounter), ("clustered", write em.isClustered),
    ("compound", write em.hasCompoundKey), ("id_columns", write em.idColumns),
    ("plain", write (propertyNames em.plain)), ("counters", write (propertyNames em.counters)),
    ("eager", write (propertyNames em.eager)), ("lazy", write (propertyNames em.onDemand))]

end WideColumn
