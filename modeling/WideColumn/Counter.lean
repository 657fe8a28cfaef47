/-!
# Counter cells

A counter has no final value to write: every increment and decrement is queued and becomes a
statement of its own. The cell keeps the value last read and the queued deltas.
-/

namespace WideColumn

/-- The cell of one counter of an entity. -/
structure Counter where
  /-- The value last read, with the deltas sent since then. -/
  loaded : Option Int
  /-- The queued deltas, oldest first. -/
  pending : List Int
deriving Repr, DecidableEq

namespace Counter

/-- A cell that was neither read nor changed. -/
def empty : Counter := ⟨none, []⟩

instance : Inhabited Counter := ⟨empty⟩

/-- Queue an increment. -/
def incrBy (c : Counter) (delta : Int) : Counter :=
  { c with pending := c.pending ++ [delta] }

/-- Queue a decrement. -/
def decrBy (c : Counter) (delta : Int) : Counter := c.incrBy (-delta)

/-- The sum of deltas. -/
def total : List Int → Int
  | [] => 0
  | delta :: rest => delta + total rest

/-- The value with all queued deltas; `none` if nothing was read or queued. -/
def value? (c : Counter) : Option Int :=
  match c.loaded, c.pending with
  | none, [] => none
  | loaded, pending => some (loaded.getD 0 + total pending)

/-- Replace the value read, keeping the queued deltas. -/
def setLoaded (c : Counter) (value : Option Int) : Counter := { c with loaded := value }

/-- Whether deltas are queued. -/
def hasPending (c : Counter) : Bool := !c.pending.isEmpty

/-- Take the queued deltas off the cell; they become part of its value. -/
def takePending (c : Counter) : List Int × Counter :=
  if c.pending.isEmpty then ([], c)
  else (c.pending, ⟨some (c.loaded.getD 0 + total c.pending), []⟩)

@[simp] theorem total_nil : total [] = 0 := rfl

@[simp] theorem total_cons (delta : Int) (rest : List Int) :
    total (delta :: rest) = delta + total rest := rfl

@[simp] theorem total_append (deltas more : List Int) :
    total (deltas ++ more) = total deltas + total more := by
  induction deltas with
  | nil => simp
  | cons delta rest ih => simp [ih, Int.add_assoc]

/-- A queued delta counts at once. -/
theorem value?_incrBy (c : Counter) (delta : Int) :
    (c.incrBy delta).value? = some (c.value?.getD 0 + delta) := by
  obtain ⟨loaded, pending⟩ := c
  cases loaded <;> cases pending <;> simp [incrBy, value?, Int.add_assoc]

/-- What is taken off the cell is added to the value read. -/
theorem loaded_takePending (c : Counter) :
    c.takePending.2.loaded.getD 0 = c.loaded.getD 0 + total c.takePending.1 := by
  obtain ⟨loaded, pending⟩ := c
  cases pending <;> simp [takePending]

/-- Taking the deltas leaves the value as it was. -/
theorem value?_takePending (c : Counter) : c.takePending.2.value? = c.value? := by
  obtain ⟨loaded, pending⟩ := c
  cases pending with
  | nil => simp [takePending]
  | cons d rest => simp [takePending, value?]

end Counter

end WideColumn
