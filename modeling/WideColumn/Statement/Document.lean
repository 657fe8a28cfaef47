import WideColumn.Json.Codec
import WideColumn.Options
import WideColumn.Row
import WideColumn.Statement
import WideColumn.Value.Tagged

/-!
# Statements as documents

Levels, options, rows, statements and requests as documents.
-/

namespace WideColumn

open Writable (write)

instance : Named Level := ⟨Level.every.map fun level => (level.name, level)⟩

/-- A number that may be large, as text. -/
def largeNat (n : Option Nat) : Json := write (n.map Int.ofNat)

instance : Readable Options where
  read j := do
    let ttl : Option Nat ← j.get "ttl"
    return ⟨← j.get "level", ttl.map UInt32.ofNat, ← j.get "timestamp"⟩

instance : Writable Options where
  write o :=
    .obj [("level", write o.level), ("ttl", write (o.ttl.map UInt32.toNat)),
      ("timestamp", write o.timestamp), ("has_consistency", write o.hasLevel)]

instance : Readable Row where
  read j := do return ⟨← j.get "columns", ← j.get "values"⟩

instance : Writable Row where
  write r := .obj [("columns", write r.columns), ("values", write r.values)]

instance : Writable Statement where
  write s :=
    .obj [("kind", .str (if s.isPrepared then "Prepared" else "Simple")), ("query", write s.query),
      ("values", write s.values), ("level", write s.level), ("fetch_size", largeNat s.fetchSize),
      ("timestamp", write s.timestamp)]

/-- The handle that requests read from documents are bound to. -/
def Request.documentHandle : Nat := 7

/-- The text of a request is a prepared one if its kind says so. -/
instance : Readable RequestSource where
  read j := do
    let query ← j.get "query"
    match ← j.get "kind" with
    | "Prepared" => return .bound ⟨Request.documentHandle, query⟩
    | "Simple" => return .regular query none
    | kind => .error ("unknown kind of statement: " ++ kind)

instance : Readable Request where
  read j := do
    let r : Request :=
      { source := ← Readable.read j, values := ← j.get "values", level := ← j.get "level"
        timestamp := ← j.get "timestamp" }
    return r.withFetchSize (← j.get "fetch_size")

instance : Writable Request where
  write r :=
    .obj [("label", write r.label), ("query", write r.query), ("values", write r.values),
      ("level", write r.level), ("fetch_size", largeNat r.fetchSize),
      ("timestamp", write r.timestamp)]

instance : Writable LogLine where
  write line :=
    let details : List (String × Json) :=
      match line with
      | .sent _ => []
      | .batchStart kind count => [("batch", write kind.name), ("count", write count)]
      | .batchEnd kind _ => [("batch", write kind.name)]
    .obj (("message", write line.message) :: details)

end WideColumn
