import WideColumn.Edit.ListView
import WideColumn.Edit.MapView
import WideColumn.Edit.SetView

/-!
# Methods of containers under edit

Every method of a list, set or map under edit, and of the windows, cursors and key and value views
on them. Whatever the method, it leaves the view as it was, or it is a mutating one that returned no
error and it marked the property. The methods that only read leave their object alone; `read`
stands for all of them. `edit` stands for a method whose closure keeps a state from one item to the
next. An index out of bounds is a fault of the caller, not an error that is returned.
-/

namespace WideColumn

/-- What a method does to a view: nothing, or, if it is a mutating one that returns no error, it
marks the property and may change the container. -/
def View.Follows {C : Type} (mutates : Bool) (error : Option Error) (v v' : View C) : Prop :=
  v' = v ∨ mutates = true ∧ error = none ∧
    v'.property = v.property ∧ v'.dirty = v.dirty.mark v.property

namespace View.Follows

variable {C : Type} {v v' : View C}

theorem refl {mutates : Bool} {error : Option Error} : v.Follows mutates error v := .inl rfl

theorem marked (hproperty : v'.property = v.property)
    (hdirty : v'.dirty = v.dirty.mark v.property) : v.Follows true none v' :=
  .inr ⟨rfl, rfl, hproperty, hdirty⟩

/-- A method that returns an error leaves the view as it was. -/
theorem eq_of_error {mutates : Bool} {e : Error} (h : v.Follows mutates (some e) v') :
    v' = v := by
  rcases h with heq | ⟨-, herror, -⟩
  · exact heq
  · cases herror

end View.Follows

/-- The error that a method returned. -/
def errorOf {α : Type} : Except Error α → Option Error
  | .ok _ => none
  | .error e => some e

/-! ### Lists -/

/-- A method of a list under edit. -/
inductive ListMethod (V : Type) where
  | read
  | push (x : V)
  | insert (index : Nat) (x : V)
  | extend (xs : List V)
  | insertAll (index : Nat) (xs : List V)
  | remove (index : Nat)
  | removeItem (x : V)
  | pop
  | retain (keep : V → Bool)
  | set (index : Nat) (x : V)
  | clear
  | truncate (length : Nat)
  | sortBy (cmp : V → V → Ordering)
  | edit (f : List V → List V)

/-- A method of a window on a list. -/
inductive WindowMethod (V : Type) where
  | read
  | push (x : V)
  | insert (index : Nat) (x : V)
  | remove (index : Nat)
  | set (index : Nat) (x : V)
  | clear
  | sortBy (cmp : V → V → Ordering)

/-- A method of a cursor over a list. -/
inductive ListCursorMethod (V : Type) where
  | read
  | next
  | remove
  | set (x : V)
  | add (x : V)

namespace ListMethod

variable {V : Type}

/-- Whether the method can change the list. -/
def mutates : ListMethod V → Bool
  | read => false
  | _ => true

/-- The list after the method. -/
def run [BEq V] (v : ListView V) : ListMethod V → ListView V
  | read => v
  | push x => v.push x
  | insert index x => (v.insert index x).2
  | extend xs => v.extend xs
  | insertAll index xs => (v.insertAll index xs).2
  | remove index => (v.remove index).2
  | removeItem x => (v.removeItem x).2
  | pop => v.pop.2
  | retain keep => v.retain keep
  | set index x => (v.set index x).2
  | clear => v.clear
  | truncate length => v.truncate length
  | sortBy cmp => v.sortBy cmp
  | edit f => View.edit v f

theorem follows [BEq V] (v : ListView V) (m : ListMethod V) :
    v.Follows m.mutates none (m.run v) := by
  cases m with
  | read => exact .refl
  | push x => exact .marked rfl rfl
  | insert index x =>
    simp only [run, mutates, ListView.insert]
    split
    · exact .marked rfl rfl
    · exact .marked rfl rfl
  | extend xs => exact .marked rfl rfl
  | insertAll index xs =>
    simp only [run, mutates, ListView.insertAll]
    split
    · exact .marked rfl rfl
    · exact .marked rfl rfl
  | remove index =>
    simp only [run, mutates, ListView.remove]
    split
    · exact .marked rfl rfl
    · exact .marked rfl rfl
  | removeItem x =>
    simp only [run, mutates, ListView.removeItem]
    split
    · exact .marked rfl rfl
    · exact .marked rfl rfl
  | pop => exact .marked rfl rfl
  | retain keep => exact .marked rfl rfl
  | set index x =>
    simp only [run, mutates, ListView.set]
    split
    · exact .marked rfl rfl
    · exact .refl
  | clear => exact .marked rfl rfl
  | truncate length => exact .marked rfl rfl
  | sortBy cmp => exact .marked rfl rfl
  | edit f => exact .marked rfl rfl

end ListMethod

namespace WindowMethod

variable {V : Type}

/-- Whether the method can change the list. -/
def mutates : WindowMethod V → Bool
  | read => false
  | _ => true

/-- The window after the method. -/
def run (w : SubList V) : WindowMethod V → SubList V
  | read => w
  | push x => w.push x
  | insert index x => (w.insert index x).2
  | remove index => (w.remove index).2
  | set index x => (w.set index x).2
  | clear => w.clear
  | sortBy cmp => w.sortBy cmp

theorem follows (w : SubList V) (m : WindowMethod V) :
    w.list.Follows m.mutates none (m.run w).list := by
  cases m with
  | read => exact .refl
  | push x => exact .marked rfl rfl
  | insert index x =>
    simp only [run, mutates, SubList.insert]
    split
    · exact .marked rfl rfl
    · exact .refl
  | remove index =>
    simp only [run, mutates, SubList.remove]
    split
    · exact .marked rfl rfl
    · exact .refl
  | set index x =>
    simp only [run, mutates, SubList.set]
    split
    · exact .marked rfl rfl
    · exact .refl
  | clear => exact .marked rfl rfl
  | sortBy cmp => exact .marked rfl rfl

end WindowMethod

namespace ListCursorMethod

variable {V : Type}

/-- Whether the method can change the list. -/
def mutates : ListCursorMethod V → Bool
  | read | next => false
  | _ => true

/-- The error that the method returns, and the cursor after it. -/
def run (c : ListCursor V) : ListCursorMethod V → Option Error × ListCursor V
  | read => (none, c)
  | next => (none, c.next.2)
  | remove => c.remove.map errorOf id
  | set x => (c.set x).map errorOf id
  | add x => (none, c.add x)

theorem follows (c : ListCursor V) (m : ListCursorMethod V) :
    c.list.Follows m.mutates (m.run c).1 (m.run c).2.list := by
  cases m with
  | read => exact .refl
  | next =>
    simp only [run, mutates, ListCursor.next]
    split <;> exact .refl
  | remove =>
    simp only [run, mutates, ListCursor.remove]
    split
    · exact .marked rfl rfl
    · exact .refl
  | set x =>
    simp only [run, mutates, ListCursor.set]
    split
    · exact .marked rfl rfl
    · exact .refl
  | add x => exact .marked rfl rfl

end ListCursorMethod

/-! ### Sets -/

/-- A method of a set under edit. -/
inductive SetMethod (V : Type) where
  | read
  | insert (x : V)
  | remove (x : V)
  | take (x : V)
  | extend (xs : List V)
  | retain (keep : V → Bool)
  | clear
  | edit (f : List V → List V)

/-- A method of a cursor over a set. -/
inductive SetCursorMethod where
  | next
  | remove

namespace SetMethod

variable {V : Type}

/-- Whether the method can change the set. -/
def mutates : SetMethod V → Bool
  | read => false
  | _ => true

/-- The set after the method. -/
def run [BEq V] (v : SetView V) : SetMethod V → SetView V
  | read => v
  | insert x => (v.insert x).2
  | remove x => (v.remove x).2
  | take x => (v.take x).2
  | extend xs => v.extend xs
  | retain keep => v.retain keep
  | clear => v.clear
  | edit f => View.edit v f

theorem follows [BEq V] (v : SetView V) (m : SetMethod V) :
    v.Follows m.mutates none (m.run v) := by
  cases m with
  | read => exact .refl
  | _ => exact .marked rfl rfl

end SetMethod

namespace SetCursorMethod

variable {V : Type}

/-- Whether the method can change the set. -/
def mutates : SetCursorMethod → Bool
  | next => false
  | remove => true

/-- The error that the method returns, and the cursor after it. -/
def run [BEq V] (c : SetCursor V) : SetCursorMethod → Option Error × SetCursor V
  | next => (none, c.next.2)
  | remove => c.remove.map errorOf id

theorem follows [BEq V] (c : SetCursor V) (m : SetCursorMethod) :
    c.set.Follows m.mutates (m.run c).1 (m.run c).2.set := by
  cases m with
  | next =>
    simp only [run, mutates, SetCursor.next]
    split <;> exact .refl
  | remove =>
    simp only [run, mutates, SetCursor.remove]
    split
    · exact .marked rfl rfl
    · exact .refl

end SetCursorMethod

/-! ### Maps -/

/-- A method of a map under edit, of its keys, or of its values. -/
inductive MapMethod (K V : Type) where
  | read
  | insert (key : K) (value : V)
  | remove (key : K)
  | extend (entries : List (K × V))
  | retain (keep : K → V → Option V)
  | clear
  /-- Change the value of a key in place. -/
  | modify (key : K) (f : V → V)
  | removeKey (key : K)
  | retainKeys (keep : K → Bool)
  | removeValue (value : V)
  | retainValues (keep : V → Bool)
  | edit (f : List (K × V) → List (K × V))

/-- A method of a cursor over the entries of a map. -/
inductive EntryCursorMethod (V : Type) where
  | next
  | remove
  | setValue (x : V)

namespace MapMethod

variable {K V : Type}

/-- Whether the method can change the map. -/
def mutates : MapMethod K V → Bool
  | read => false
  | _ => true

/-- The map after the method. -/
def run [BEq K] [BEq V] (m : MapView K V) : MapMethod K V → MapView K V
  | read => m
  | insert key value => (m.insert key value).2
  | remove key => (m.remove key).2
  | extend entries => m.extend entries
  | retain keep => m.retain keep
  | clear => m.clear
  | modify key f => (m.modify key f).2
  | removeKey key => (m.removeKey key).2
  | retainKeys keep => m.retainKeys keep
  | removeValue value => (m.removeValue value).2
  | retainValues keep => m.retainValues keep
  | edit f => View.edit m f

theorem follows [BEq K] [BEq V] (m : MapView K V) (method : MapMethod K V) :
    m.Follows method.mutates none (method.run m) := by
  cases method with
  | read => exact .refl
  | modify key f =>
    simp only [run, mutates, MapView.modify]
    split
    · exact .marked rfl rfl
    · exact .refl
  | removeValue value =>
    simp only [run, mutates, MapView.removeValue]
    split
    · exact .marked rfl rfl
    · exact .marked rfl rfl
  | _ => exact .marked rfl rfl

end MapMethod

namespace EntryCursorMethod

variable {K V : Type}

/-- Whether the method can change the map. -/
def mutates : EntryCursorMethod V → Bool
  | next => false
  | _ => true

/-- The error that the method returns, and the cursor after it. -/
def run [BEq K] (c : EntryCursor K V) : EntryCursorMethod V → Option Error × EntryCursor K V
  | next => (none, c.next.2)
  | remove => c.remove.map errorOf id
  | setValue x => (c.setValue x).map errorOf id

theorem follows [BEq K] (c : EntryCursor K V) (m : EntryCursorMethod V) :
    c.map.Follows m.mutates (m.run c).1 (m.run c).2.map := by
  cases m with
  | next =>
    simp only [run, mutates, EntryCursor.next]
    split <;> exact .refl
  | remove =>
    simp only [run, mutates, EntryCursor.remove]
    split
    · split
      · exact .marked rfl rfl
      · exact .refl
    · exact .refl
  | setValue x =>
    simp only [run, mutates, EntryCursor.setValue]
    split
    · exact .marked rfl rfl
    · exact .refl

end EntryCursorMethod

/-! ### Calls -/

/-- A method was called on a container under edit, or on a window, cursor or other view on it. The
window or cursor may stand anywhere. -/
inductive View.Called : {C : Type} → View C → Bool → Option Error → View C → Prop
  | list {V : Type} [BEq V] (v : ListView V) (m : ListMethod V) :
      Called v m.mutates none (m.run v)
  | window {V : Type} (w : SubList V) (m : WindowMethod V) :
      Called w.list m.mutates none (m.run w).list
  | listCursor {V : Type} (c : ListCursor V) (m : ListCursorMethod V) :
      Called c.list m.mutates (m.run c).1 (m.run c).2.list
  | set {V : Type} [BEq V] (v : SetView V) (m : SetMethod V) : Called v m.mutates none (m.run v)
  | setCursor {V : Type} [BEq V] (c : SetCursor V) (m : SetCursorMethod) :
      Called c.set m.mutates (m.run c).1 (m.run c).2.set
  | map {K V : Type} [BEq K] [BEq V] (v : MapView K V) (m : MapMethod K V) :
      Called v m.mutates none (m.run v)
  | entryCursor {K V : Type} [BEq K] (c : EntryCursor K V) (m : EntryCursorMethod V) :
      Called c.map m.mutates (m.run c).1 (m.run c).2.map

/-- Every method marks before it changes anything, and changes nothing when it fails. -/
theorem View.Called.follows {C : Type} {v v' : View C} {mutates : Bool} {error : Option Error}
    (h : v.Called mutates error v') : v.Follows mutates error v' := by
  cases h with
  | list v m => exact m.follows v
  | window w m => exact m.follows w
  | listCursor c m => exact m.follows c
  | set v m => exact m.follows v
  | setCursor c m => exact m.follows c
  | map v m => exact m.follows v
  | entryCursor c m => exact m.follows c

end WideColumn
