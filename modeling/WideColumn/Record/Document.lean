import WideColumn.Meta.Document
import WideColumn.Record

/-!
# Schemas and records as documents

A schema is declared by a document: the metadata of its class, its interceptors, and what its
records hide or lack. Records are read from documents with their key, attributes and counters, and
written with all that they hold.
-/

namespace WideColumn

open Writable (write)

instance : Named Event :=
  ⟨[("PrePersist", .prePersist), ("PostPersist", .postPersist), ("PreUpdate", .preUpdate),
    ("PostUpdate", .postUpdate), ("PreRemove", .preRemove), ("PostRemove", .postRemove),
    ("PostLoad", .postLoad)]⟩

/-- The type of entity that a foreign interceptor is made for. -/
def Watcher.foreignTarget : String := "i32"

instance : Readable Watcher where
  read j := do
    let foreign : Bool ← j.get "foreign"
    if foreign then return .foreign Watcher.foreignTarget
    return .reaction {
      name := ← j.get "name", events := ← j.get "events", sets := ← j.get "set"
      increments := ← j.get "incr", key := ← j.get "key", failure := ← j.get "fail" }

instance : Readable Schema where
  read j := do
    return {
      draft := ← Readable.read j, watchers := ← j.get "interceptors", hidden := ← j.get "hide"
      withoutCell := ← j.get "no_cell" }

/-- What a document says about one counter of a record. -/
structure CounterDraft where
  name : String
  loaded : Option Int
  deltas : List Int

instance : Readable CounterDraft where
  read
    | .arr [name, loaded, deltas] => do
      return ⟨← Readable.read name, ← Readable.read loaded, ← Readable.read deltas⟩
    | _ => .error "counter expected"

/-- What a document says about a record. -/
structure RecordDraft where
  key : List Value
  attributes : List (String × Value)
  counters : List CounterDraft

instance : Readable RecordDraft where
  read j := do
    return ⟨← j.get "key", ← j.get "attrs", ← j.get "counters"⟩

/-- The record of a draft: attributes are written one by one, and counters without a cell are
passed over. -/
def Schema.build (s : Schema) (draft : RecordDraft) : Except Error Record :=
  match s.writeAll (s.ofKey draft.key) draft.attributes with
  | (_, some e) => .error e
  | (r, none) =>
    .ok (draft.counters.foldl (fun r c =>
      r.modifyCounter c.name fun cell => c.deltas.foldl Counter.incrBy (cell.setLoaded c.loaded)) r)

instance : Writable Record where
  write r :=
    .obj [("key", write r.key),
      ("attrs", .obj (r.attributes.map fun (name, v) => (name, write v))),
      ("counters", .obj (r.counters.map fun (name, c) =>
        (name, .arr [write c.value?, write c.hasPending]))),
      ("events", write r.seen)]

end WideColumn
