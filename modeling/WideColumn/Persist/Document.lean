import WideColumn.Persist.Batching
import WideColumn.Record.Document

/-!
# What the library holds and does, as documents

Changed properties, proxies of records, outboxes, and the trace of a site.
-/

namespace WideColumn

open Writable (write)

instance : Writable DirtySet where
  write d :=
    .arr [write d.size, write d.isEmpty, write d.names, write (propertyNames d.properties)]

/-- The document of a proxy as it is in a workspace. -/
def Workspace.proxyJson (w : Workspace Record) (p : Proxy) : Json :=
  match w.cell? p.handle with
  | none => .null
  | some c =>
    let loaded := p.entityMeta.properties.filter fun pm => c.loaded.contains pm.name
    .obj [("entity", write c.entity), ("bound_key", write p.key), ("dirty", write c.dirty.names),
      ("is_dirty", write !c.dirty.isEmpty), ("loaded", write (propertyNames loaded)),
      ("options", write c.options)]

instance : Named OutboxMode := ⟨[("Immediate", .immediate), ("Batching", .batching)]⟩

instance {E : Type} : Writable (Outbox E) where
  write o :=
    .obj [("mode", write o.mode), ("level", write o.level), ("batch_level", write o.batchLevel),
      ("count", write o.size), ("statements", write o.regular), ("counters", write o.counter),
      ("events", write o.events.length)]

/-- The line of a journal that tells of a call of an interceptor. -/
def Notice.line (n : Notice) : String :=
  let event := (Named.name? n.event).getD ""
  let key := ",".intercalate (n.key.map Value.taggedText)
  s!"{n.interceptor}:{event}:{key}"

namespace Act

/-- The document of a call of the session. -/
def callJson? : Act → Option Json
  | prepared text => some (.obj [("prepare", write text)])
  | executed statement => some (.obj [("execute", write statement)])
  | sentBatch kind statements level =>
    some (.obj [("batch", .obj [("type", write kind.name), ("level", write level),
      ("statements", write statements)])])
  | _ => none

/-- The line of the journal of interceptors. -/
def journalLine? : Act → Option String
  | intercepted _ notice => some notice.line
  | _ => none

/-- The line of the log of statements. -/
def logLine? : Act → Option LogLine
  | logged line => some line
  | _ => none

end Act

/-- What a document says about a configuration. -/
structure ConfigDraft where
  readLevel : Option Level
  writeLevel : Option Level
  readByTable : Option String
  writeByTable : Option String
  cacheCapacity : Option Nat

instance : Readable ConfigDraft where
  read j := do
    return {
      readLevel := ← j.get "read", writeLevel := ← j.get "write"
      readByTable := ← j.get "read_map", writeByTable := ← j.get "write_map"
      cacheCapacity := ← j.get "cache" }

/-- The configuration of a draft; the levels by table are read from their texts. -/
def Config.ofDraft (d : ConfigDraft) : Except Error Config := do
  return {
    readLevel := d.readLevel.getD Config.standard.readLevel
    writeLevel := d.writeLevel.getD Config.standard.writeLevel
    readByTable := ← TableLevels.parse (d.readByTable.getD "")
    writeByTable := ← TableLevels.parse (d.writeByTable.getD "")
    cacheCapacity := d.cacheCapacity.getD Config.standard.cacheCapacity }

end WideColumn
