import WideColumn.Edit.ListView
import WideColumn.Edit.MapView
import WideColumn.Edit.SetView
import WideColumn.Persist.Workspace

/-!
# Proxies

Changes to managed entities. Each goes through the proxy, so that every changed attribute is
recorded; the key, counters, attributes without setter and unknown names are refused. A container
is edited in a view: `open...` takes it out of the entity, and `closeView` puts it back.
-/

namespace WideColumn

/-- How a container of an entity is reached. -/
structure Accessor (E C : Type) where
  get : E → C
  set : E → C → E

/-- Which sort of attribute a change expects. -/
inductive Access where
  | any
  | list
  | set
  | map
deriving Repr, DecidableEq

namespace Access

/-- Whether a property kind is of the expected sort. -/
def accepts : Access → PropertyKind → Bool
  | any, _ => true
  | list, kind => kind == .list
  | set, kind => kind == .set
  | map, kind => kind == .map

/-- The name of the sort in error texts. -/
def label : Access → String
  | any => "value"
  | list => "list"
  | set => "set"
  | map => "map"

end Access

/-- The error for an entity that is not managed. -/
def notManaged (typeName : String) : Error :=
  .ofViolation "entity" .notProxy s!"The entity '{typeName}' is not in 'managed' state"

namespace Tracked

variable {E : Type}

/-- Whether the entity is managed. -/
def isProxy : Tracked E → Bool
  | .proxy _ => true
  | .bare _ => false

/-- The proxy of a managed entity. -/
def asProxy (T : EntityType E) : Tracked E → Except Error Proxy
  | .proxy p => .ok p
  | .bare _ => .error (notManaged T.typeName)

/-- The entity, managed or not. -/
def entity? (w : Workspace E) : Tracked E → Option E
  | .proxy p => w.entity? p.handle
  | .bare entity => some entity

end Tracked

namespace Proxy

variable {E : Type}

/-- The property of the given name, if its attribute may be changed in the expected way. -/
def writable (p : Proxy) (property : String) (access : Access) : Except Error PropertyMeta := do
  let pm ← p.entityMeta.property property
  let entity := p.entityMeta.className
  if pm.isId then
    throw (.invalidState
      s!"Cannot change the primary key '{property}' of entity '{entity}' through its proxy")
  if pm.isCounter then
    throw (.invalidState
      s!"The counter property '{property}' of entity '{entity}' should be changed through counter()")
  if !pm.hasSetter then
    throw (.invalidState s!"The property '{property}' of entity '{entity}' has no setter")
  if !access.accepts pm.kind then
    throw (.invalidState
      s!"The property '{property}' of entity '{entity}' is not a {access.label}")
  return pm

/-- Record that an attribute was written. -/
def touch (pm : PropertyMeta) (c : Cell E) : Cell E :=
  { c with dirty := c.dirty.mark pm, loaded := addName pm.name c.loaded }

/-- The error for a handle without a cell. -/
def noCell : Error := .invalidState "The entity is not in the workspace"

/-- The cell of the proxy. -/
def cell (p : Proxy) (w : Workspace E) : Except Error (Cell E) :=
  match w.cell? p.handle with
  | some c => .ok c
  | none => .error noCell

/-- Change one attribute by a function on the entity. -/
def set {α : Type} (p : Proxy) (w : Workspace E) (property : String) (change : E → α × E) :
    Except Error (α × Workspace E) := do
  let pm ← p.writable property .any
  let c ← p.cell w
  let (result, entity) := change c.entity
  return (result, w.modify p.handle fun c => touch pm { c with entity })

/-- Write one attribute. -/
def setValue (p : Proxy) (T : EntityType E) (w : Workspace E) (property : String) (v : Value) :
    Except Error (Workspace E) := do
  let pm ← p.writable property .any
  let c ← p.cell w
  let entity ← T.write c.entity pm.name v
  return w.modify p.handle fun c => touch pm { c with entity }

/-- Take a container out of the entity, leaving `vacant` in its place. The attribute counts as
loaded from now on. -/
def openView {C : Type} (p : Proxy) (w : Workspace E) (property : String) (access : Access)
    (accessor : Accessor E C) (vacant : C) : Except Error (View C × Workspace E) := do
  let pm ← p.writable property access
  let c ← p.cell w
  let view : View C := { container := accessor.get c.entity, property := pm, dirty := c.dirty }
  return (view, w.modify p.handle fun c =>
    { c with entity := accessor.set c.entity vacant, loaded := addName pm.name c.loaded })

/-- Put an edited container back into the entity, and keep the record of its changes. -/
def closeView {C : Type} (p : Proxy) (w : Workspace E) (accessor : Accessor E C) (view : View C) :
    Workspace E :=
  w.modify p.handle fun c =>
    { c with entity := accessor.set c.entity view.container, dirty := view.dirty }

/-- Take a list attribute for editing. -/
def openList {V : Type} (p : Proxy) (w : Workspace E) (property : String)
    (accessor : Accessor E (List V)) : Except Error (ListView V × Workspace E) :=
  p.openView w property .list accessor []

/-- Take a set attribute for editing. -/
def openSet {V : Type} (p : Proxy) (w : Workspace E) (property : String)
    (accessor : Accessor E (List V)) : Except Error (SetView V × Workspace E) :=
  p.openView w property .set accessor []

/-- Take a map attribute for editing. -/
def openMap {K V : Type} (p : Proxy) (w : Workspace E) (property : String)
    (accessor : Accessor E (List (K × V))) : Except Error (MapView K V × Workspace E) :=
  p.openView w property .map accessor []

/-- Take a counter cell out of the entity, leaving an empty one. Counters are not recorded as
changed properties: every delta is queued in the cell. -/
def openCounter (p : Proxy) (T : EntityType E) (w : Workspace E) (property : String) :
    Except Error (Counter × Workspace E) := do
  let pm ← p.entityMeta.property property
  let entity := p.entityMeta.className
  if !pm.isCounter then
    throw (.invalidState s!"The property '{property}' of entity '{entity}' is not a counter")
  let c ← p.cell w
  match T.counter? c.entity property with
  | none =>
    throw (.invalidState
      s!"The entity '{entity}' exposes no counter cell for property '{property}'")
  | some counter =>
    return (counter, w.modifyEntity p.handle fun e => T.setCounter e property .empty)

/-- Put a counter cell back into the entity. -/
def closeCounter (p : Proxy) (T : EntityType E) (w : Workspace E) (property : String)
    (counter : Counter) : Workspace E :=
  w.modifyEntity p.handle fun e => T.setCounter e property counter

end Proxy

end WideColumn
