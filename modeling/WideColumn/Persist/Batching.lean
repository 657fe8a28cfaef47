import WideColumn.Persist.Manager

/-!
# Batch windows

A manager whose writes wait for the end of a window. The level of a window is chosen when it
starts; an operation that asks for a level of its own gives up the window and fails. Every write
without a timestamp gets one, and these timestamps strictly increase whatever the clock says.
-/

namespace WideColumn

/-- The state of a manager with windows. The window is the outbox of the site. -/
structure Batching (σ E : Type) where
  site : Site σ E
  /-- The level of windows that nobody chose one for. -/
  defaultLevel : Level
  /-- The timestamp given last, in microseconds. -/
  lastTimestamp : Int

/-- An operation of a manager with windows. -/
abbrev BatchOp (σ E : Type) := ExceptT Stop (StateM (Batching σ E))

namespace Batching

variable {σ E : Type} [Session σ]

/-- Run an operation on the site of a manager with windows. -/
def onSite {α : Type} (op : Op σ E α) : BatchOp σ E α := fun b =>
  let (result, site) := op b.site
  (result, { b with site })

/-- A manager with windows over the site of a manager. -/
def ofSite (site : Site σ E) : Batching σ E :=
  let level := site.config.writeLevel
  { site := { site with outbox := .ofMode .batching level }, defaultLevel := level
    lastTimestamp := 0 }

/-- The manager, without the pending window. -/
def toSite (b : Batching σ E) : Site σ E :=
  { b.site with outbox := .ofMode .immediate b.site.config.writeLevel }

/-- Open a window at a level; what was pending is given up. -/
def startBatchAt (level : Level) : BatchOp σ E Unit :=
  modify fun b => { b with site.outbox := b.site.outbox.reset level }

/-- Open a window at the default level. -/
def startBatch : BatchOp σ E Unit := do
  startBatchAt (← get).defaultLevel

/-- Give up what is pending. -/
def cleanBatch : BatchOp σ E Unit := do
  startBatchAt (← get).defaultLevel

/-- Send what is pending. The window is empty and at the default level afterwards, whatever comes
of the sending. -/
def endBatch : BatchOp σ E Unit := do
  let pending := (← get).site.outbox
  startBatchAt (← get).defaultLevel
  onSite (Op.sendAll pending)

/-- Refuse a call that asks for a level; it gives up the window. -/
def rejectLevel (options : Options) : BatchOp σ E Unit := do
  if options.hasLevel then
    cleanBatch
    throw (.failed Levels.batchConflict)

/-- A timestamp later than all before, at the given reading of the clock if possible. -/
def nextTimestamp (now : Int) : BatchOp σ E Int := do
  let stamp := max now ((← get).lastTimestamp + 1)
  modify fun b => { b with lastTimestamp := stamp }
  return stamp

/-- The options with a timestamp, taken from the reading of the clock if they have none. -/
def stamped (now : Int) (options : Options) : BatchOp σ E Options := do
  if options.timestamp.isSome then return options
  else return options.withTimestamp (← nextTimestamp now)

/-- Write a new entity when the window ends. -/
def persist (now : Int) (T : EntityType E) (entity : Tracked E) (options : Options) :
    BatchOp σ E Proxy := do
  rejectLevel options
  let options ← stamped now options
  onSite (Manager.persistIn T entity options)

/-- Write what changed on a proxy when the window ends. -/
def update (now : Int) (T : EntityType E) (p : Proxy) (options : Options) : BatchOp σ E Unit := do
  rejectLevel options
  let options ← stamped now options
  onSite (Manager.updateIn T p options)

/-- Delete an entity when the window ends. -/
def remove (now : Int) (T : EntityType E) (entity : Tracked E) (options : Options) :
    BatchOp σ E Unit := do
  rejectLevel options
  let options ← stamped now options
  onSite (Manager.removeIn T entity options)

/-- Delete the row of a key when the window ends. -/
def removeById (now : Int) (T : EntityType E) (key : List Value) : BatchOp σ E Unit := do
  let options ← stamped now .none
  onSite (Manager.removeByIdIn T key options)

/-- Read the entity of a key at once, at the level of the window. -/
def find (T : EntityType E) (key : List Value) (options : Options) :
    BatchOp σ E (Option Proxy) := do
  rejectLevel options
  onSite (Manager.findIn T key options)

/-- A proxy that has only its key. -/
def getProxy (T : EntityType E) (key : List Value) (options : Options) : BatchOp σ E Proxy := do
  rejectLevel options
  onSite (Manager.getProxyIn T key options)

/-- Read a proxy again, at the level of the window. A call that asks for a level fails, but leaves
the window alone. -/
def refresh (T : EntityType E) (p : Proxy) (options : Options) : BatchOp σ E Refresh := do
  if options.hasLevel then throw (.failed Levels.batchConflict)
  else onSite (Manager.refreshIn T p options)

/-- Read what is missing on a proxy; this does not touch the window. -/
def complete (T : EntityType E) (p : Proxy) : BatchOp σ E Unit :=
  onSite (Manager.complete T p)

end Batching

end WideColumn
