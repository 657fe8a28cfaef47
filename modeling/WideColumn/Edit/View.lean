import WideColumn.Edit.Dirty

/-!
# Views of containers

While a list, set or map attribute of an entity is being edited, its container is out of the entity
and in a view, together with the set of changed properties. Every operation that can change the
container marks the property before it does anything else; reading marks nothing. An index beyond
the container is a fault of the caller.
-/

namespace WideColumn

/-- A container taken out of an entity for editing. -/
structure View (C : Type) where
  container : C
  property : PropertyMeta
  dirty : DirtySet

/-- An index was out of bounds. -/
inductive BoundsFault where
  | outOfBounds
deriving Repr, DecidableEq

namespace View

/-- Record that the property changed. -/
def mark {C : Type} (v : View C) : View C := { v with dirty := v.dirty.mark v.property }

/-- Record that the property changed, and change the container. -/
def edit {C : Type} (v : View C) (f : C → C) : View C :=
  { v.mark with container := f v.container }

/-- A mark leaves the container as it was. -/
@[simp] theorem container_mark {C : Type} (v : View C) : v.mark.container = v.container := rfl

/-- An edit changes the container as it says. -/
@[simp] theorem container_edit {C : Type} (v : View C) (f : C → C) :
    (v.edit f).container = f v.container := rfl

/-- An edit marks the property, whatever it does to the container. -/
@[simp] theorem dirty_edit {C : Type} (v : View C) (f : C → C) :
    (v.edit f).dirty = v.dirty.mark v.property := rfl

/-- A marked property counts as changed. -/
theorem name_mem_dirty_mark {C : Type} (v : View C) : v.property.name ∈ v.mark.dirty.names :=
  (DirtySet.mem_names_mark _ _ _).2 (.inl rfl)

end View

/-- The error of a cursor operation on the element last returned when there is none. -/
def noCurrentElement (property : PropertyMeta) (operation : String) : Error :=
  .invalidState
    s!"Cannot {operation} on the cursor of property '{property.name}': next() has not returned an element"

end WideColumn
