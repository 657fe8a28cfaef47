import WideColumn.Edit.Dirty
import WideColumn.Options
import WideColumn.Session

/-!
# Workspace

The entities in play, each under a handle of its own, with what is known about the changes to it.
A proxy and the lifecycle events put off by a batch window name an entity by its handle, so what an
interceptor writes at the end of the window is what the proxy reads afterwards.
-/

namespace WideColumn

/-- An entity with the record of its changes. -/
structure Cell (E : Type) where
  entity : E
  /-- The properties changed since the last write. -/
  dirty : DirtySet
  /-- The properties that were read or written. -/
  loaded : List String
  /-- The options of the operation that read or wrote the entity last. -/
  options : Options

/-- The entities in play. -/
structure Workspace (E : Type) where
  cells : Array (Cell E)

/-- A managed entity: the handle of its cell, its metadata, and the key it is bound to. -/
structure Proxy where
  handle : Handle
  entityMeta : EntityMeta
  key : List Value

/-- An entity that is managed or not. -/
inductive Tracked (E : Type) where
  | proxy (p : Proxy)
  | bare (entity : E)

/-- A name more in a list of names. -/
def addName (name : String) (names : List String) : List String :=
  if names.contains name then names else names ++ [name]

theorem mem_addName {name other : String} {names : List String} :
    other ∈ addName name names ↔ other = name ∨ other ∈ names := by
  unfold addName
  split
  · next hmem =>
    have hmem : name ∈ names := by simpa using hmem
    grind
  · simp [or_comm]

namespace Workspace

variable {E : Type}

/-- No entity. -/
def empty : Workspace E := ⟨#[]⟩

/-- The cell of a handle. -/
def cell? (w : Workspace E) (h : Handle) : Option (Cell E) := w.cells[h.index]?

/-- The entity of a handle. -/
def entity? (w : Workspace E) (h : Handle) : Option E := (w.cell? h).map Cell.entity

/-- A new cell with an entity of which nothing is known. -/
def add (w : Workspace E) (entity : E) : Handle × Workspace E :=
  (⟨w.cells.size⟩, ⟨w.cells.push ⟨entity, .empty, [], .none⟩⟩)

/-- Change the cell of a handle. -/
def modify (w : Workspace E) (h : Handle) (f : Cell E → Cell E) : Workspace E :=
  ⟨w.cells.modify h.index f⟩

/-- Change the entity of a handle. -/
def modifyEntity (w : Workspace E) (h : Handle) (f : E → E) : Workspace E :=
  w.modify h fun c => { c with entity := f c.entity }

/-- The names of the changed properties. -/
def dirtyNames (w : Workspace E) (h : Handle) : List String :=
  ((w.cell? h).map fun c => c.dirty.names).getD []

/-- Whether a property was read or written. -/
def isLoaded (w : Workspace E) (h : Handle) (name : String) : Bool :=
  (w.cell? h).any fun c => c.loaded.contains name

/-- A new handle finds its entity. -/
theorem entity?_add (w : Workspace E) (entity : E) :
    (w.add entity).2.entity? (w.add entity).1 = some entity := by
  simp [add, entity?, cell?]

theorem size_add (w : Workspace E) (entity : E) :
    (w.add entity).2.cells.size = w.cells.size + 1 := Array.size_push ..

theorem size_modify (w : Workspace E) (h : Handle) (f : Cell E → Cell E) :
    (w.modify h f).cells.size = w.cells.size := Array.size_modify ..

theorem lt_of_cell? {w : Workspace E} {h : Handle} {c : Cell E} (hc : w.cell? h = some c) :
    h.index < w.cells.size :=
  (Array.getElem?_eq_some_iff.1 hc).1

theorem cell?_add_self (w : Workspace E) (entity : E) :
    (w.add entity).2.cell? (w.add entity).1 = some ⟨entity, .empty, [], .none⟩ := by
  simp [add, cell?]

/-- A new cell leaves the others as they were. -/
theorem cell?_add_of_lt (w : Workspace E) (entity : E) (h : Handle)
    (hlt : h.index < w.cells.size) : (w.add entity).2.cell? h = w.cell? h := by
  simp [add, cell?, Array.getElem?_push, Nat.ne_of_lt hlt]

/-- A change of one cell, seen through any handle. -/
theorem cell?_modify (w : Workspace E) (h other : Handle) (f : Cell E → Cell E) :
    (w.modify h f).cell? other =
      if h = other then (w.cell? other).map f else w.cell? other := by
  obtain ⟨i⟩ := h
  obtain ⟨j⟩ := other
  simp only [modify, cell?, Array.getElem?_modify, Handle.mk.injEq]

/-- A change of one cell, seen through its handle. -/
theorem cell?_modify_self {w : Workspace E} {h : Handle} {c : Cell E} (hc : w.cell? h = some c)
    (f : Cell E → Cell E) : (w.modify h f).cell? h = some (f c) := by
  rw [cell?_modify, if_pos rfl, hc]
  rfl

/-- What holds of all cells, after a change of one of them. -/
theorem forall_cell?_modify {Q : Handle → Cell E → Prop} {w : Workspace E} {h : Handle}
    {f : Cell E → Cell E} (hw : ∀ other c, w.cell? other = some c → Q other c)
    (hf : ∀ c, w.cell? h = some c → Q h (f c)) {other : Handle} {c : Cell E}
    (hc : (w.modify h f).cell? other = some c) : Q other c := by
  rw [cell?_modify] at hc
  split at hc
  · next heq =>
    subst heq
    obtain ⟨old, hold, rfl⟩ := Option.map_eq_some_iff.1 hc
    exact hf old hold
  · exact hw other c hc

/-- Workspaces are the same if all their cells are. -/
theorem ext_cell? {w w' : Workspace E} (h : ∀ handle, w.cell? handle = w'.cell? handle) :
    w = w' := by
  obtain ⟨cells⟩ := w
  obtain ⟨cells'⟩ := w'
  congr 1
  exact Array.ext_getElem? fun i => h ⟨i⟩

theorem modify_modify (w : Workspace E) (h : Handle) (f g : Cell E → Cell E) :
    (w.modify h f).modify h g = w.modify h fun c => g (f c) := by
  refine ext_cell? fun other => ?_
  simp only [cell?_modify]
  split
  · rw [Option.map_map]
    rfl
  · rfl

/-- Only the one cell that is changed matters. -/
theorem modify_congr {w : Workspace E} {h : Handle} {c : Cell E} (hc : w.cell? h = some c)
    {f g : Cell E → Cell E} (hfg : f c = g c) : w.modify h f = w.modify h g := by
  refine ext_cell? fun other => ?_
  rw [cell?_modify, cell?_modify]
  split
  · next heq =>
    rw [← heq, hc, Option.map_some, Option.map_some, hfg]
  · rfl

theorem modify_const {w : Workspace E} {h : Handle} {c : Cell E} (hc : w.cell? h = some c) :
    (w.modify h fun _ => c) = w := by
  refine ext_cell? fun other => ?_
  rw [cell?_modify]
  split
  · next heq =>
    rw [← heq, hc]
    rfl
  · rfl

/-- A change of one cell changes its entity, as it says. -/
theorem entity?_modify {f : Cell E → Cell E} {g : E → E} (hf : ∀ c, (f c).entity = g c.entity)
    (w : Workspace E) (h other : Handle) :
    (w.modify h f).entity? other =
      if h = other then (w.entity? other).map g else w.entity? other := by
  unfold entity?
  rw [cell?_modify]
  split
  · rw [Option.map_map, Option.map_map]
    exact congrArg (Option.map · _) (funext hf)
  · rfl

/-- A change of one entity, seen through any handle. -/
theorem entity?_modifyEntity (w : Workspace E) (h other : Handle) (g : E → E) :
    (w.modifyEntity h g).entity? other =
      if h = other then (w.entity? other).map g else w.entity? other :=
  entity?_modify (fun _ => rfl) w h other

end Workspace

end WideColumn
