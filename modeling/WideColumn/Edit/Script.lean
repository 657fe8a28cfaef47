import WideColumn.Edit.ListView
import WideColumn.Edit.MapView
import WideColumn.Edit.SetView

/-!
# Edits as data

Every operation on a container under edit as a value, so that a series of edits can be written down
and run. `ListEdit.run`, `SetEdit.run` and `MapEdit.run` say what an edit tells and what it leaves.
An edit that runs out of bounds, or a cursor that has returned nothing, tells so; the edits after
it go on.
-/

namespace WideColumn

/-- What an edit tells. -/
inductive Reply (V : Type) where
  | nothing
  | flag (b : Bool)
  | size (n : Nat)
  | index (i : Option Nat)
  | found (x : Option V)
  | value (x : V)
  /-- Items in their order. -/
  | items (xs : List V)
  /-- Items of which the order means nothing. -/
  | bag (xs : List V)
  | entry (e : Option (V × V))
  | entries (es : List (V × V))
  /-- Where a cursor stands. -/
  | place (hasNext : Bool) (position : Nat)
  /-- What a cursor returned on its way to the end, and what it removed. -/
  | swept (seen removed : List V)
  | outOfBounds
  | failed (e : Error)
  | replies (rs : List (Reply V))

namespace Reply

variable {V : Type}

/-- What an edit tells that may run out of bounds. -/
def bounded {α : Type} (tell : α → Reply V) : Except BoundsFault α → Reply V
  | .ok a => tell a
  | .error .outOfBounds => outOfBounds

/-- What an edit tells that may fail. -/
def orFailed (r : Except Error V) : Reply V :=
  match r with
  | .ok x => value x
  | .error e => failed e

end Reply

/-- Run edits one after the other. -/
def runEdits {V A S : Type} (run : A → S → Reply V × S) : List A → S → List (Reply V) × S
  | [], s => ([], s)
  | edit :: rest, s =>
    let (reply, s) := run edit s
    let (replies, s) := runEdits run rest s
    (reply :: replies, s)

/-! ## Lists -/

/-- An edit of a window on a list. -/
inductive WindowEdit (V : Type) where
  | length
  | get (index : Nat)
  | items
  | push (x : V)
  | insert (index : Nat) (x : V)
  | remove (index : Nat)
  | set (index : Nat) (x : V)
  | clear
  | sort

/-- A move or edit of a cursor over a list. -/
inductive ListMove (V : Type) where
  | place
  | next
  | remove
  | set (x : V)
  | add (x : V)

/-- An edit of a list. -/
inductive ListEdit (V : Type) where
  | length
  | get (index : Nat)
  | first
  | last
  | pop
  | set (index : Nat) (x : V)
  | items
  | contains (x : V)
  | removeItem (x : V)
  | indexOf (x : V)
  | remove (index : Nat)
  | push (x : V)
  | insert (index : Nat) (x : V)
  | extend (xs : List V)
  | insertAll (index : Nat) (xs : List V)
  /-- Keep only the items among the given ones. -/
  | retain (kept : List V)
  | clear
  | truncate (length : Nat)
  | sort
  | sortDescending
  | window (start stop : Nat) (edits : List (WindowEdit V))
  | walk (moves : List (ListMove V))

/-- Run an edit of a window. -/
def WindowEdit.run {V : Type} [Ord V] (edit : WindowEdit V) (w : SubList V) :
    Reply V × SubList V :=
  match edit with
  | .length => (.size w.length, w)
  | .get index => (.found w.items[index]?, w)
  | .items => (.items w.items, w)
  | .push x => (.nothing, w.push x)
  | .insert index x => (w.insert index x).map (.bounded fun _ => .nothing) id
  | .remove index => (w.remove index).map (.bounded .value) id
  | .set index x => (w.set index x).map .found id
  | .clear => (.nothing, w.clear)
  | .sort => (.nothing, w.sortBy compare)

/-- Run a move of a cursor. -/
def ListMove.run {V : Type} (move : ListMove V) (c : ListCursor V) : Reply V × ListCursor V :=
  match move with
  | .place => (.place c.hasNext c.position, c)
  | .next => c.next.map .found id
  | .remove => c.remove.map .orFailed id
  | .set x => (c.set x).map .orFailed id
  | .add x => (.nothing, c.add x)

/-- Run an edit of a list. -/
def ListEdit.run {V : Type} [BEq V] [Ord V] (edit : ListEdit V) (l : ListView V) :
    Reply V × ListView V :=
  match edit with
  | .length => (.size l.container.length, l)
  | .get index => (.found l.container[index]?, l)
  | .first => (.found l.container.head?, l)
  | .last => (.found l.container.getLast?, l)
  | .pop => l.pop.map .found id
  | .set index x => (l.set index x).map .found id
  | .items => (.items l.container, l)
  | .contains x => (.flag (l.container.contains x), l)
  | .removeItem x => (l.removeItem x).map .flag id
  | .indexOf x => (.index (l.container.findIdx? (· == x)), l)
  | .remove index => (l.remove index).map (.bounded .value) id
  | .push x => (.nothing, l.push x)
  | .insert index x => (l.insert index x).map (.bounded fun _ => .nothing) id
  | .extend xs => (.nothing, l.extend xs)
  | .insertAll index xs => (l.insertAll index xs).map (.bounded fun _ => .nothing) id
  | .retain kept => (.nothing, l.retain kept.contains)
  | .clear => (.nothing, l.clear)
  | .truncate n => (.nothing, l.truncate n)
  | .sort => (.nothing, l.sortBy compare)
  | .sortDescending => (.nothing, l.sortBy fun x y => compare y x)
  | .window start stop edits =>
    match l.subList start stop with
    | .error .outOfBounds => (.outOfBounds, l)
    | .ok w => (runEdits WindowEdit.run edits w).map .replies SubList.list
  | .walk moves => (runEdits ListMove.run moves l.cursor).map .replies ListCursor.list

/-! ## Sets -/

/-- A move or edit of a cursor over a set. -/
inductive SetMove (V : Type) where
  | next
  | remove
  /-- Move to the end, removing the given items. -/
  | sweep (victims : List V)

/-- An edit of a set. -/
inductive SetEdit (V : Type) where
  | length
  | items
  | contains (x : V)
  | insert (x : V)
  | remove (x : V)
  | take (x : V)
  | extend (xs : List V)
  /-- Keep only the items among the given ones. -/
  | retain (kept : List V)
  | clear
  | walk (moves : List (SetMove V))

/-- Run a move of a cursor. -/
def SetMove.run {V : Type} [BEq V] (move : SetMove V) (c : SetCursor V) : Reply V × SetCursor V :=
  match move with
  | .next => c.next.map .found id
  | .remove => c.remove.map .orFailed id
  | .sweep victims =>
    let (seen, removed, c) := c.sweep victims.contains
    (.swept seen removed, c)

/-- Run an edit of a set. -/
def SetEdit.run {V : Type} [BEq V] (edit : SetEdit V) (s : SetView V) : Reply V × SetView V :=
  match edit with
  | .length => (.size s.container.length, s)
  | .items => (.bag s.container, s)
  | .contains x => (.flag (s.container.contains x), s)
  | .insert x => (s.insert x).map .flag id
  | .remove x => (s.remove x).map .flag id
  | .take x => (s.take x).map .found id
  | .extend xs => (.nothing, s.extend xs)
  | .retain kept => (.nothing, s.retain kept.contains)
  | .clear => (.nothing, s.clear)
  | .walk moves => (runEdits SetMove.run moves s.cursor).map .replies SetCursor.set

/-! ## Maps -/

/-- An edit of the keys of a map, or of its values. -/
inductive SideEdit (V : Type) where
  | length
  | items
  | contains (x : V)
  | remove (x : V)
  /-- Keep only the entries with one of the given items. -/
  | retain (kept : List V)
  | clear

/-- A move or edit of a cursor over a map. -/
inductive EntryMove (V : Type) where
  | next
  | remove
  | setValue (x : V)
  /-- Move to the end, removing the entries of the given keys and setting the other values. -/
  | sweep (victims : List V) (value : Option V)

/-- An edit of a map whose keys and values are of one type. -/
inductive MapEdit (V : Type) where
  | length
  | entries
  | get (key : V)
  | insert (key value : V)
  | remove (key : V)
  | contains (key : V)
  | extend (entries : List (V × V))
  /-- Keep only the entries of the given keys, with the given value if there is one. -/
  | retain (kept : List V) (value : Option V)
  | clear
  | modify (key value : V)
  | keys (edits : List (SideEdit V))
  | values (edits : List (SideEdit V))
  | walk (moves : List (EntryMove V))

/-- Run an edit of the keys of a map. -/
def SideEdit.runKeys {V : Type} [BEq V] (edit : SideEdit V) (m : MapView V V) :
    Reply V × MapView V V :=
  match edit with
  | .length => (.size m.container.length, m)
  | .items => (.bag (m.container.map Prod.fst), m)
  | .contains x => (.flag (m.contains x), m)
  | .remove x => (m.removeKey x).map .flag id
  | .retain kept => (.nothing, m.retainKeys kept.contains)
  | .clear => (.nothing, m.clear)

/-- Run an edit of the values of a map. -/
def SideEdit.runValues {V : Type} [BEq V] (edit : SideEdit V) (m : MapView V V) :
    Reply V × MapView V V :=
  match edit with
  | .length => (.size m.container.length, m)
  | .items => (.bag (m.container.map Prod.snd), m)
  | .contains x => (.flag (m.containsValue x), m)
  | .remove x => (m.removeValue x).map .flag id
  | .retain kept => (.nothing, m.retainValues kept.contains)
  | .clear => (.nothing, m.clear)

/-- Run a move of a cursor. -/
def EntryMove.run {V : Type} [BEq V] (move : EntryMove V) (c : EntryCursor V V) :
    Reply V × EntryCursor V V :=
  match move with
  | .next => c.next.map .entry id
  | .remove => c.remove.map .orFailed id
  | .setValue x => (c.setValue x).map .orFailed id
  | .sweep victims value =>
    let (seen, removed, c) := c.sweep victims.contains value
    (.swept seen removed, c)

/-- Run an edit of a map. -/
def MapEdit.run {V : Type} [BEq V] (edit : MapEdit V) (m : MapView V V) : Reply V × MapView V V :=
  match edit with
  | .length => (.size m.container.length, m)
  | .entries => (.entries m.container, m)
  | .get key => (.found (m.get? key), m)
  | .insert key value => (m.insert key value).map .found id
  | .remove key => (m.remove key).map .found id
  | .contains key => (.flag (m.contains key), m)
  | .extend es => (.nothing, m.extend es)
  | .retain kept value =>
    (.nothing, m.retain fun k v => if kept.contains k then some (value.getD v) else none)
  | .clear => (.nothing, m.clear)
  | .modify key value => (m.modify key fun _ => value).map .flag id
  | .keys edits => (runEdits SideEdit.runKeys edits m).map .replies id
  | .values edits => (runEdits SideEdit.runValues edits m).map .replies id
  | .walk moves => (runEdits EntryMove.run moves m.cursor).map .replies EntryCursor.map

end WideColumn
