import WideColumn.Meta.Property

/-!
# Changed properties

The set of properties of an entity that changed since the last write, kept sorted by name. Marking
a property twice is the same as marking it once (`mark_of_mem`), and marks nothing else
(`mem_names_mark`).
-/

namespace WideColumn

/-- The properties that changed, sorted by name, no name twice. -/
structure DirtySet where
  properties : List PropertyMeta
  sorted : properties.Pairwise fun a b => a.name < b.name
deriving Repr, DecidableEq

namespace DirtySet

/-- No property changed. -/
def empty : DirtySet := ⟨[], .nil⟩

instance : Inhabited DirtySet := ⟨empty⟩

/-- Whether a property of the given name changed. -/
def contains (dirty : DirtySet) (name : String) : Bool :=
  dirty.properties.any fun pm => pm.name == name

/-- Put a property at its place by name, unless its name is there. -/
def place (pm : PropertyMeta) : List PropertyMeta → List PropertyMeta
  | [] => [pm]
  | other :: rest =>
    if pm.name = other.name then other :: rest
    else if pm.name < other.name then pm :: other :: rest
    else other :: place pm rest

/-- What is in a list after placing a property was there before, or is that property. -/
theorem mem_of_mem_place {pm x : PropertyMeta} {properties : List PropertyMeta}
    (h : x ∈ place pm properties) : x = pm ∨ x ∈ properties := by
  induction properties with
  | nil => simpa [place] using h
  | cons other rest ih =>
    simp only [place] at h
    split at h
    · exact .inr h
    · split at h
      · simpa using h
      · rcases List.mem_cons.1 h with rfl | h
        · simp
        · exact (ih h).imp id (List.mem_cons_of_mem _)

/-- Placing a property keeps the order. -/
theorem pairwise_place (pm : PropertyMeta) {properties : List PropertyMeta}
    (h : properties.Pairwise fun a b => a.name < b.name) :
    (place pm properties).Pairwise fun a b => a.name < b.name := by
  induction properties with
  | nil => simp [place]
  | cons other rest ih =>
    have hcons := List.pairwise_cons.1 h
    simp only [place]
    split
    · exact h
    · next hne =>
      split
      · next hlt =>
        refine List.pairwise_cons.2 ⟨fun x hx => ?_, h⟩
        rcases List.mem_cons.1 hx with rfl | hx
        · exact hlt
        · exact String.lt_trans hlt (hcons.1 x hx)
      · next hnlt =>
        refine List.pairwise_cons.2 ⟨fun x hx => ?_, ih hcons.2⟩
        rcases mem_of_mem_place hx with rfl | hx
        · exact Std.lt_of_le_of_ne (String.not_lt.1 hnlt) fun e => hne e.symm
        · exact hcons.1 x hx

/-- Record that a property changed. -/
def mark (dirty : DirtySet) (pm : PropertyMeta) : DirtySet :=
  ⟨place pm dirty.properties, pairwise_place pm dirty.sorted⟩

/-- The names of the properties, sorted. -/
def names (dirty : DirtySet) : List String := dirty.properties.map fun pm => pm.name

/-- The number of properties. -/
def size (dirty : DirtySet) : Nat := dirty.properties.length

/-- Whether no property changed. -/
def isEmpty (dirty : DirtySet) : Bool := dirty.properties.isEmpty

/-- A property counts as changed exactly when its name is listed. -/
theorem contains_eq_true_iff (dirty : DirtySet) (name : String) :
    dirty.contains name = true ↔ name ∈ dirty.names := by
  simp [contains, names]

/-- Marking adds the name and nothing else. -/
theorem mem_names_mark (dirty : DirtySet) (pm : PropertyMeta) (name : String) :
    name ∈ (dirty.mark pm).names ↔ name = pm.name ∨ name ∈ dirty.names := by
  obtain ⟨properties, sorted⟩ := dirty
  simp only [mark, names]
  clear sorted
  induction properties with
  | nil => simp [place]
  | cons other rest ih =>
    simp only [place]
    split
    · next h => simp [h]
    · split
      · simp
      · rw [List.map_cons, List.mem_cons, ih, List.map_cons, List.mem_cons]
        grind

/-- Marking a property whose name is there changes nothing. -/
theorem mark_of_mem (dirty : DirtySet) (pm : PropertyMeta) (h : pm.name ∈ dirty.names) :
    dirty.mark pm = dirty := by
  obtain ⟨properties, sorted⟩ := dirty
  simp only [mark, mk.injEq]
  simp only [names] at h
  induction properties with
  | nil => simp at h
  | cons other rest ih =>
    have hcons := List.pairwise_cons.1 sorted
    simp only [place]
    split
    · rfl
    · next hne =>
      have hrest : pm.name ∈ rest.map fun p => p.name := by
        simpa [hne] using h
      obtain ⟨x, hx, hname⟩ := List.mem_map.1 hrest
      have hlt : other.name < pm.name := hname ▸ hcons.1 x hx
      rw [if_neg (String.lt_asymm hlt), ih hcons.2 hrest]

end DirtySet

end WideColumn
