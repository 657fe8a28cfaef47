import WideColumn.Level.ByTable
import WideColumn.Persist.Registry
import WideColumn.Persist.Workspace

/-!
# Operations

The state that operations work on and the monad they run in. An operation changes its `Site` and
ends with a result or a `Stop`; what it changed before it stopped stays changed. Everything it does
to the outside is in the trace of the site.
-/

namespace WideColumn

/-- When statements reach the cluster. -/
inductive OutboxMode where
  /-- At once. -/
  | immediate
  /-- All together, at the end of a window. -/
  | batching
deriving Repr, DecidableEq

/-- A lifecycle event put off until the end of a window. -/
structure Deferred (E : Type) where
  type : EntityType E
  handle : Handle
  event : Event

/-- Where statements go. In batching mode it collects them, with the events put off. -/
structure Outbox (E : Type) where
  mode : OutboxMode
  level : Level
  /-- Regular writes, oldest first. -/
  regular : List Request
  /-- Counter writes, oldest first. -/
  counter : List Request
  /-- Events, oldest first. -/
  events : List (Deferred E)

namespace Outbox

variable {E : Type}

/-- An outbox with nothing in it. -/
def ofMode (mode : OutboxMode) (level : Level) : Outbox E := ⟨mode, level, [], [], []⟩

/-- Whether statements are collected. -/
def isBatching (o : Outbox E) : Bool := o.mode == .batching

/-- The level of the window, if one is open. -/
def batchLevel (o : Outbox E) : Option Level := if o.isBatching then some o.level else none

/-- The number of collected statements. -/
def size (o : Outbox E) : Nat := o.regular.length + o.counter.length

/-- The same statements and level, but no events. -/
def duplicate (o : Outbox E) : Outbox E := { o with events := [] }

/-- Nothing in it, in the same mode, at another level. -/
def reset (o : Outbox E) (level : Level) : Outbox E := ofMode o.mode level

end Outbox

/-- The levels and limits that a manager works with. -/
structure Config where
  /-- The read level of entities that declare none. -/
  readLevel : Level
  /-- The write level of entities that declare none. -/
  writeLevel : Level
  /-- Read levels that win over the declared ones. -/
  readByTable : TableLevels
  /-- Write levels that win over the declared ones. -/
  writeByTable : TableLevels
  /-- How many prepared updates are kept. -/
  cacheCapacity : Nat
deriving Repr, DecidableEq

/-- The state that operations work on. -/
structure Site (σ E : Type) where
  session : σ
  /-- What was done, oldest first. -/
  trace : List Act
  workspace : Workspace E
  registry : Registry
  outbox : Outbox E
  config : Config
  /-- The registered entity types by full name. -/
  types : List (String × EntityMeta)

/-- An operation. -/
abbrev Op (σ E : Type) := ExceptT Stop (StateM (Site σ E))

instance {m : Type → Type} [Monad m] : MonadLift (Except Error) (ExceptT Stop m) where
  monadLift
    | .ok a => pure a
    | .error e => throw (Stop.failed e)

namespace Op

variable {σ E : Type}

/-- Record something that was done. -/
def record (act : Act) : Op σ E Unit :=
  modify fun s => { s with trace := s.trace ++ [act] }

/-- Prepare a statement. -/
def prepare [Session σ] (text : String) : Op σ E Prepared := do
  record (.prepared text)
  let (answer, session) := Session.prepare (← get).session text
  modify fun s => { s with session }
  MonadExcept.ofExcept answer

/-- Execute a statement. -/
def execute [Session σ] (statement : Statement) : Op σ E (List Row) := do
  record (.executed statement)
  let (answer, session) := Session.execute (← get).session statement
  modify fun s => { s with session }
  MonadExcept.ofExcept answer

/-- Apply a group of statements. -/
def executeBatch [Session σ] (kind : BatchKind) (statements : List Statement) (level : Level) :
    Op σ E Unit := do
  record (.sentBatch kind statements level)
  let (answer, session) := Session.executeBatch (← get).session kind statements level
  modify fun s => { s with session }
  MonadExcept.ofExcept answer

/-- Put an entity into the workspace. -/
def addEntity (entity : E) : Op σ E Handle := do
  let (handle, workspace) := (← get).workspace.add entity
  modify fun s => { s with workspace }
  return handle

/-- The cell of a handle. -/
def cell (h : Handle) : Op σ E (Cell E) := do
  match (← get).workspace.cell? h with
  | some c => return c
  | none => throw (.failed (.invalidState "The entity is not in the workspace"))

/-- Change the cell of a handle. -/
def modifyCell (h : Handle) (f : Cell E → Cell E) : Op σ E Unit :=
  modify fun s => { s with workspace := s.workspace.modify h f }

/-- Change the outbox. -/
def modifyOutbox (f : Outbox E → Outbox E) : Op σ E Unit :=
  modify fun s => { s with outbox := f s.outbox }

/-- Change the registry. -/
def modifyRegistry (f : Registry → Registry) : Op σ E Unit :=
  modify fun s => { s with registry := f s.registry }

/-- Run an operation with another outbox, which is given up afterwards. -/
def withOutbox {α : Type} (outbox : Outbox E) (op : Op σ E α) : Op σ E α := fun s =>
  let (result, s') := op { s with outbox }
  (result, { s' with outbox := s.outbox })

end Op

end WideColumn
