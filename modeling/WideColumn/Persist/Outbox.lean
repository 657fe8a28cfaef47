import WideColumn.Persist.Site

/-!
# Sending

How statements and lifecycle events pass through the outbox. In immediate mode every write is
executed and every event runs at once. In batching mode both wait until the window ends: then the
events run in the order in which they were recorded, then the regular writes go out as one group,
then the counter writes as another. Reads, and the events after them, never wait.
-/

namespace WideColumn.Op

variable {σ E : Type} [Session σ]

/-- Execute a request. -/
def executeRequest (r : Request) : Op σ E (List Row) := do
  record (.logged (.sent r))
  execute r.statement

/-- Send a regular write. -/
def push (r : Request) : Op σ E (Option (List Row)) := do
  record (.pushed .logged r)
  match (← get).outbox.mode with
  | .immediate => return some (← executeRequest r)
  | .batching =>
    modifyOutbox fun o => { o with regular := o.regular ++ [r] }
    return none

/-- Send a counter write. -/
def pushCounter (r : Request) : Op σ E (Option (List Row)) := do
  record (.pushed .counter r)
  match (← get).outbox.mode with
  | .immediate => return some (← executeRequest r)
  | .batching =>
    modifyOutbox fun o => { o with counter := o.counter ++ [r] }
    return none

/-- Run the interceptors of an entity. -/
def fire (T : EntityType E) (h : Handle) (event : Event) : Op σ E Unit := do
  let c ← cell h
  let (notices, entity, error) := T.intercept c.entity event
  notices.forM fun notice => record (.intercepted h notice)
  modifyCell h fun c => { c with entity }
  match error with
  | some e => throw (.failed e)
  | none => return ()

/-- Run the interceptors of an entity, or put the event off. -/
def trigger (T : EntityType E) (h : Handle) (event : Event) : Op σ E Unit := do
  if T.hasInterceptor event then
    if event == .postLoad || (← get).outbox.mode == .immediate then fire T h event
    else modifyOutbox fun o => { o with events := o.events ++ [⟨T, h, event⟩] }

/-- Send one group; an empty one is not sent. -/
def sendGroup (kind : BatchKind) (requests : List Request) (level : Level) : Op σ E Unit := do
  if !requests.isEmpty then
    record (.logged (.batchStart kind requests.length))
    requests.forM fun r => record (.logged (.sent r))
    record (.logged (.batchEnd kind level))
    executeBatch kind (requests.map fun r => r.statement.withLevel level) level

/-- Send all that an outbox has collected. -/
def sendAll (pending : Outbox E) : Op σ E Unit := do
  pending.events.forM fun d => fire d.type d.handle d.event
  sendGroup .logged pending.regular pending.level
  sendGroup .counter pending.counter pending.level

/-- End the window of the outbox. It is empty afterwards, whatever comes of the sending. -/
def endWindow : Op σ E Unit := do
  let pending := (← get).outbox
  if pending.mode == .immediate then
    throw (.failed (.invalidState "Cannot end a batch on an immediate flush context"))
  modifyOutbox fun o => o.reset o.level
  sendAll pending

end WideColumn.Op
