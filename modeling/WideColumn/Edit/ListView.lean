import WideColumn.Edit.View

/-!
# Editing lists

A list attribute under edit, windows on a part of it, and cursors that walk over it.
-/

namespace WideColumn

/-- A list attribute under edit. -/
abbrev ListView (V : Type) := View (List V)

namespace ListView

variable {V : Type}

/-- Append an element. -/
def push (v : ListView V) (x : V) : ListView V := v.edit (· ++ [x])

/-- Insert an element before the one at `index`, or at the end. -/
def insert (v : ListView V) (index : Nat) (x : V) : Except BoundsFault Unit × ListView V :=
  if index ≤ v.container.length then (.ok (), v.edit (·.insertIdx index x))
  else (.error .outOfBounds, v.mark)

/-- Append several elements. -/
def extend (v : ListView V) (xs : List V) : ListView V := v.edit (· ++ xs)

/-- Insert several elements before the one at `index`, or at the end. -/
def insertAll (v : ListView V) (index : Nat) (xs : List V) :
    Except BoundsFault Unit × ListView V :=
  if index ≤ v.container.length then
    (.ok (), v.edit fun items => items.take index ++ xs ++ items.drop index)
  else (.error .outOfBounds, v.mark)

/-- Remove and return the element at `index`. -/
def remove (v : ListView V) (index : Nat) : Except BoundsFault V × ListView V :=
  match v.container[index]? with
  | some x => (.ok x, v.edit (·.eraseIdx index))
  | none => (.error .outOfBounds, v.mark)

/-- Remove the first element equal to `x`; whether there was one. -/
def removeItem [BEq V] (v : ListView V) (x : V) : Bool × ListView V :=
  match v.container.findIdx? (· == x) with
  | some index => (true, v.edit (·.eraseIdx index))
  | none => (false, v.mark)

/-- Remove and return the last element. -/
def pop (v : ListView V) : Option V × ListView V :=
  (v.container.getLast?, v.edit List.dropLast)

/-- Keep only the elements that satisfy `keep`. -/
def retain (v : ListView V) (keep : V → Bool) : ListView V := v.edit (·.filter keep)

/-- Replace the element at `index` and return the previous one; nothing happens beyond the end. -/
def set (v : ListView V) (index : Nat) (x : V) : Option V × ListView V :=
  match v.container[index]? with
  | some old => (some old, v.edit (·.set index x))
  | none => (none, v)

/-- A removal within the list takes out the element that it returns. -/
theorem remove_of_lt (v : ListView V) (index : Nat) (h : index < v.container.length) :
    v.remove index = (.ok v.container[index], v.edit (·.eraseIdx index)) := by
  simp [remove, h]

/-- A removal beyond the end marks the property and changes nothing else. -/
theorem remove_of_length_le (v : ListView V) (index : Nat) (h : v.container.length ≤ index) :
    v.remove index = (.error .outOfBounds, v.mark) := by
  simp [remove, h]

/-- An insertion beyond the end marks the property and changes nothing else. -/
theorem insert_of_length_lt (v : ListView V) (index : Nat) (x : V)
    (h : v.container.length < index) : v.insert index x = (.error .outOfBounds, v.mark) := by
  simp [insert, Nat.not_le.2 h]

/-- A replacement beyond the end does not even mark the property. -/
theorem set_of_length_le (v : ListView V) (index : Nat) (x : V) (h : v.container.length ≤ index) :
    v.set index x = (none, v) := by
  simp [set, h]

/-- Remove all elements. -/
def clear (v : ListView V) : ListView V := v.edit fun _ => []

/-- Keep only the first elements. -/
def truncate (v : ListView V) (length : Nat) : ListView V := v.edit (·.take length)

/-- Sort; elements that compare equal keep their order. -/
def sortBy (v : ListView V) (cmp : V → V → Ordering) : ListView V :=
  v.edit (·.mergeSort fun a b => cmp a b != .gt)

end ListView

/-- A window on the elements from `start` up to `stop` of a list under edit. Positions count from
the start of the window, and its end moves with insertions and removals. -/
structure SubList (V : Type) where
  list : ListView V
  start : Nat
  stop : Nat

/-- A window on a part of a list. -/
def ListView.subList {V : Type} (v : ListView V) (start stop : Nat) :
    Except BoundsFault (SubList V) :=
  if start ≤ stop && stop ≤ v.container.length then .ok ⟨v, start, stop⟩
  else .error .outOfBounds

namespace SubList

variable {V : Type}

/-- The number of elements in the window. -/
def length (w : SubList V) : Nat := w.stop - w.start

/-- The elements in the window. -/
def items (w : SubList V) : List V := (w.list.container.take w.stop).drop w.start

/-- Append an element at the end of the window. -/
def push (w : SubList V) (x : V) : SubList V :=
  { w with list := w.list.edit (·.insertIdx w.stop x), stop := w.stop + 1 }

/-- Insert an element before the one at `index`, or at the end of the window. -/
def insert (w : SubList V) (index : Nat) (x : V) : Except BoundsFault Unit × SubList V :=
  if index ≤ w.length then
    (.ok (), { w with list := w.list.edit (·.insertIdx (w.start + index) x), stop := w.stop + 1 })
  else (.error .outOfBounds, w)

/-- Remove and return the element at `index`. -/
def remove (w : SubList V) (index : Nat) : Except BoundsFault V × SubList V :=
  match w.items[index]? with
  | some x =>
    (.ok x, { w with list := w.list.edit (·.eraseIdx (w.start + index)), stop := w.stop - 1 })
  | none => (.error .outOfBounds, w)

/-- Replace the element at `index` and return the previous one; nothing happens beyond the end. -/
def set (w : SubList V) (index : Nat) (x : V) : Option V × SubList V :=
  match w.items[index]? with
  | some old => (some old, { w with list := w.list.edit (·.set (w.start + index) x) })
  | none => (none, w)

/-- Remove all elements of the window. -/
def clear (w : SubList V) : SubList V :=
  { w with
    list := w.list.edit fun items => items.take w.start ++ items.drop w.stop
    stop := w.start }

/-- Sort the window; elements that compare equal keep their order. -/
def sortBy (w : SubList V) (cmp : V → V → Ordering) : SubList V :=
  { w with
    list := w.list.edit fun items =>
      items.take w.start ++ w.items.mergeSort (fun a b => cmp a b != .gt) ++ items.drop w.stop }

end SubList

/-- A cursor over a list under edit. It stands before the element at `position`; removing and
replacing act on the element last returned. -/
structure ListCursor (V : Type) where
  list : ListView V
  position : Nat
  last : Option Nat

/-- A cursor before the first element. -/
def ListView.cursor {V : Type} (v : ListView V) : ListCursor V := ⟨v, 0, none⟩

namespace ListCursor

variable {V : Type}

/-- Whether an element follows. -/
def hasNext (c : ListCursor V) : Bool := c.position < c.list.container.length

/-- Move past the next element and return it. -/
def next (c : ListCursor V) : Option V × ListCursor V :=
  match c.list.container[c.position]? with
  | some x => (some x, { c with last := some c.position, position := c.position + 1 })
  | none => (none, c)

/-- Remove the element last returned, and return it. -/
def remove (c : ListCursor V) : Except Error V × ListCursor V :=
  match c.last.bind fun i => (c.list.container[i]?).map fun x => (i, x) with
  | some (i, x) =>
    (.ok x, { list := c.list.edit (·.eraseIdx i), position := i, last := none })
  | none => (.error (noCurrentElement c.list.property "remove"), c)

/-- Replace the element last returned, and return the previous one. -/
def set (c : ListCursor V) (x : V) : Except Error V × ListCursor V :=
  match c.last.bind fun i => (c.list.container[i]?).map fun old => (i, old) with
  | some (i, old) => (.ok old, { c with list := c.list.edit (·.set i x) })
  | none => (.error (noCurrentElement c.list.property "set"), c)

/-- Insert an element before the cursor. -/
def add (c : ListCursor V) (x : V) : ListCursor V :=
  { list := c.list.edit (·.insertIdx c.position x), position := c.position + 1, last := none }

end ListCursor

end WideColumn
