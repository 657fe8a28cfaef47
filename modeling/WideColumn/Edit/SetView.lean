import WideColumn.Edit.View

/-!
# Editing sets

A set attribute under edit, and cursors that walk over the elements it had when they were made.
The elements of a set are a list without repetitions (`nodup_insertNew`).
-/

namespace WideColumn

/-- A set attribute under edit. -/
abbrev SetView (V : Type) := View (List V)

/-- The elements with one more, unless it is there. -/
def insertNew {V : Type} [BEq V] (items : List V) (x : V) : List V :=
  if items.contains x then items else items ++ [x]

/-- The elements after an insertion. -/
theorem mem_insertNew {V : Type} [BEq V] [LawfulBEq V] (items : List V) (x y : V) :
    y ∈ insertNew items x ↔ y = x ∨ y ∈ items := by
  simp only [insertNew]
  split
  · next h =>
    rw [List.contains_eq_mem, decide_eq_true_eq] at h
    exact ⟨.inr, fun hy => hy.elim (fun e => e ▸ h) id⟩
  · simp [or_comm]

/-- An insertion repeats no element. -/
theorem nodup_insertNew {V : Type} [BEq V] [LawfulBEq V] {items : List V} (x : V)
    (h : items.Nodup) : (insertNew items x).Nodup := by
  simp only [insertNew]
  split
  · exact h
  · next hx =>
    rw [List.contains_eq_mem, decide_eq_true_eq] at hx
    refine List.nodup_append.2 ⟨h, by simp, fun a ha b hb => ?_⟩
    obtain rfl := List.mem_singleton.1 hb
    exact fun e => hx (e ▸ ha)

namespace SetView

variable {V : Type} [BEq V]

/-- Add an element; whether it was not there. -/
def insert (v : SetView V) (x : V) : Bool × SetView V :=
  (!v.container.contains x, v.edit (insertNew · x))

/-- Remove an element and return it as it was in the set. -/
def take (v : SetView V) (x : V) : Option V × SetView V :=
  (v.container.find? (· == x), v.edit (·.filter (· != x)))

/-- Remove an element; whether it was there. -/
def remove (v : SetView V) (x : V) : Bool × SetView V :=
  (v.container.contains x, v.edit (·.filter (· != x)))

/-- Add several elements. -/
def extend (v : SetView V) (xs : List V) : SetView V := v.edit (xs.foldl insertNew ·)

/-- Keep only the elements that satisfy `keep`. -/
def retain (v : SetView V) (keep : V → Bool) : SetView V := v.edit (·.filter keep)

/-- Remove all elements. -/
def clear (v : SetView V) : SetView V := v.edit fun _ => []

end SetView

/-- A cursor over a set under edit. -/
structure SetCursor (V : Type) where
  set : SetView V
  /-- The elements still to return. -/
  ahead : List V
  /-- The element last returned. -/
  current : Option V

/-- A cursor over the present elements. -/
def SetView.cursor {V : Type} (v : SetView V) : SetCursor V := ⟨v, v.container, none⟩

namespace SetCursor

variable {V : Type}

/-- Move past the next element and return it. At the end no element counts as returned. -/
def next (c : SetCursor V) : Option V × SetCursor V :=
  match c.ahead with
  | x :: rest => (some x, { c with ahead := rest, current := some x })
  | [] => (none, { c with current := none })

/-- Remove the element last returned, and return it. -/
def remove [BEq V] (c : SetCursor V) : Except Error V × SetCursor V :=
  match c.current with
  | some x =>
    let (taken, set) := c.set.take x
    (.ok (taken.getD x), { c with set, current := none })
  | none => (.error (noCurrentElement c.set.property "remove"), c)

/-- Move to the end in at most `fuel` moves, removing the elements that satisfy `p`. -/
def sweepFor [BEq V] (p : V → Bool) : Nat → SetCursor V → List V × List V × SetCursor V
  | 0, c => ([], [], c)
  | fuel + 1, c =>
    match c.next with
    | (none, c) => ([], [], c)
    | (some x, c) =>
      let (removed, c) : List V × SetCursor V :=
        if p x then
          match c.remove with
          | (.ok x, c) => ([x], c)
          | (.error _, c) => ([], c)
        else ([], c)
      let (seen, more, c) := sweepFor p fuel c
      (x :: seen, removed ++ more, c)

/-- Move to the end, removing the elements that satisfy `p`: the elements returned on the way, and
those removed. -/
def sweep [BEq V] (p : V → Bool) (c : SetCursor V) : List V × List V × SetCursor V :=
  c.sweepFor p (c.ahead.length + 1)

end SetCursor

end WideColumn
