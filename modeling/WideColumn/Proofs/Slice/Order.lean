import WideColumn.Proofs.Slice.Comparison

/-!
# Orders of columns

A column orders its values. Rows are compared with the ends of a slice in the direction of the
read, column by column, and the first column with a difference decides (`Past`). A read in
descending direction is one in ascending direction under the reversed orders.
-/

namespace WideColumn

/-- A total order of the values that a column can hold. Two values have the same place exactly if
they are equal, so what is not equal to itself has no place. -/
structure ValueOrder where
  /-- The values that the column can hold. -/
  places : Value → Prop
  le : Value → Value → Prop
  total : ∀ {a b}, places a → places b → le a b ∨ le b a
  trans : ∀ {a b c}, places a → places b → places c → le a b → le b c → le a c
  same_iff : ∀ {a b}, places a → places b → (le a b ∧ le b a ↔ (a == b) = true)

namespace ValueOrder

/-- Strictly before. -/
def lt (o : ValueOrder) (a b : Value) : Prop := o.le a b ∧ ¬ o.le b a

/-- The same values the other way round. -/
def reverse (o : ValueOrder) : ValueOrder where
  places := o.places
  le a b := o.le b a
  total ha hb := o.total hb ha
  trans ha hb hc hab hbc := o.trans hc hb ha hbc hab
  same_iff ha hb := and_comm.trans (o.same_iff ha hb)

variable {o : ValueOrder} {a b x : Value}

@[simp] theorem places_reverse : o.reverse.places = o.places := rfl

@[simp] theorem lt_reverse : o.reverse.lt a b ↔ o.lt b a := .rfl

theorem beq_comm (ha : o.places a) (hb : o.places b) : (a == b) = true ↔ (b == a) = true := by
  rw [← o.same_iff ha hb, ← o.same_iff hb ha]
  exact and_comm

theorem le_iff_lt_or_beq (ha : o.places a) (hx : o.places x) :
    o.le a x ↔ o.lt a x ∨ (x == a) = true := by
  rw [← o.same_iff hx ha, lt]
  constructor
  · intro h
    by_cases hxa : o.le x a
    · exact .inr ⟨hxa, h⟩
    · exact .inl ⟨h, hxa⟩
  · rintro (h | h)
    · exact h.1
    · exact h.2

/-- A value that is not before `a` and not after `b` is equal to both if they are equal. -/
theorem beq_of_between (ha : o.places a) (hb : o.places b) (hx : o.places x)
    (hab : (a == b) = true) (hleft : o.lt a x ∨ (x == a) = true)
    (hright : o.lt x b ∨ (x == b) = true) : (x == a) = true := by
  obtain ⟨-, hba⟩ := (o.same_iff ha hb).2 hab
  have hax : o.le a x := (le_iff_lt_or_beq ha hx).2 hleft
  have hxb : o.le x b := by
    rcases hright with h | h
    · exact h.1
    · exact ((o.same_iff hx hb).2 h).1
  exact (o.same_iff hx ha).1 ⟨o.trans hx hb ha hxb hba, hax⟩

/-- What is equal to `a` is equal to what `a` is equal to. -/
theorem beq_trans (ha : o.places a) (hb : o.places b) (hx : o.places x) (hab : (a == b) = true)
    (hxa : (x == a) = true) : (x == b) = true := by
  obtain ⟨hle, hge⟩ := (o.same_iff ha hb).2 hab
  obtain ⟨hle', hge'⟩ := (o.same_iff hx ha).2 hxa
  exact (o.same_iff hx hb).1 ⟨o.trans hx ha hb hle' hle, o.trans hb ha hx hge hge'⟩

theorem not_lt_of_beq (ha : o.places a) (hx : o.places x) (h : (x == a) = true) : ¬ o.lt a x :=
  fun hlt => hlt.2 ((o.same_iff hx ha).2 h).1

end ValueOrder

namespace Direction

/-- The other direction. -/
def opposite : Direction → Direction
  | ascending => descending
  | descending => ascending

/-- The order in which a read in this direction meets the values of a column. -/
def orient : Direction → ValueOrder → ValueOrder
  | ascending, o => o
  | descending, o => o.reverse

@[simp] theorem places_orient (d : Direction) (o : ValueOrder) :
    (d.orient o).places = o.places := by
  cases d <;> rfl

@[simp] theorem lt_orient_opposite (d : Direction) (o : ValueOrder) (a b : Value) :
    (d.opposite.orient o).lt a b ↔ (d.orient o).lt b a := by
  cases d <;> exact .rfl

end Direction

/-! ### Rows -/

section

variable (order : String → ValueOrder) (row : String → Value)

/-- What the comparison says of a row. -/
def Comparison.Holds (c : Comparison) : Prop :=
  match c.relation with
  | .eq => (row c.column == c.value) = true
  | .gt => (order c.column).lt c.value (row c.column)
  | .ge => (order c.column).le c.value (row c.column)
  | .lt => (order c.column).lt (row c.column) c.value
  | .le => (order c.column).le (row c.column) c.value

/-- The values lie past the bound, for a read in the given direction: at the first column where
they differ, the read meets the bound first. -/
def Past (d : Direction) : List String → List Value → List Value → Prop
  | column :: columns, a :: bound, x :: values =>
    (d.orient (order column)).lt a x ∨ (x == a) = true ∧ Past d columns bound values
  | _, _, _ => False

/-- The values of the first columns of a row, as many as the bound has. -/
def firstValues (columns : List String) (bound : List Value) : List Value :=
  (columns.take bound.length).map row

/-- The row has the values of the bound in the first columns. -/
def Agrees (columns : List String) (bound : List Value) : Prop :=
  (firstValues row columns bound == bound) = true

/-- The row is not before the bound, and not at it either unless the bound is included. An empty
bound bounds nothing. -/
def Respects (d : Direction) (included : Bool) (columns : List String) (bound : List Value) :
    Prop :=
  bound = [] ∨ Past order d columns bound (firstValues row columns bound) ∨
    included = true ∧ Agrees row columns bound

end

variable {order : String → ValueOrder} {row : String → Value} {d : Direction} {included : Bool}
  {column : String} {columns : List String} {a b : Value} {bound other : List Value}

@[simp] theorem agrees_nil : Agrees row columns [] := rfl

@[simp] theorem respects_nil : Respects order row d included columns [] := .inl rfl

theorem agrees_cons : Agrees row (column :: columns) (a :: bound) ↔
    (row column == a) = true ∧ Agrees row columns bound := by
  simp [Agrees, firstValues]

theorem respects_cons : Respects order row d included (column :: columns) (a :: bound) ↔
    (d.orient (order column)).lt a (row column) ∨ (row column == a) = true ∧
      (Past order d columns bound (firstValues row columns bound) ∨
        included = true ∧ Agrees row columns bound) := by
  have hfirst : firstValues row (column :: columns) (a :: bound) =
      row column :: firstValues row columns bound := rfl
  rw [Respects, agrees_cons, hfirst, Past]
  constructor
  · rintro (h | (h | ⟨hx, h⟩) | ⟨hincluded, hx, h⟩)
    · cases h
    · exact .inl h
    · exact .inr ⟨hx, .inl h⟩
    · exact .inr ⟨hx, .inr ⟨hincluded, h⟩⟩
  · rintro (h | ⟨hx, h | ⟨hincluded, h⟩⟩)
    · exact .inr (.inl (.inl h))
    · exact .inr (.inl (.inr ⟨hx, h⟩))
    · exact .inr (.inr ⟨hincluded, hx, h⟩)

/-- A bound of one value. -/
theorem respects_singleton : Respects order row d included (column :: columns) [a] ↔
    (d.orient (order column)).lt a (row column) ∨ included = true ∧ (row column == a) = true := by
  rw [respects_cons]
  have hpast : ¬ Past order d columns [] (firstValues row columns []) := by
    cases columns <;> exact id
  simp only [hpast, agrees_nil, and_true, false_or]
  exact or_congr_right and_comm

section

variable (ha : (order column).places a) (hrow : (order column).places (row column))
include ha hrow

/-- A row that has the first value of a bound respects it through the remaining columns. -/
theorem respects_cons_of_beq (hx : (row column == a) = true) (hbound : bound ≠ []) :
    Respects order row d included (column :: columns) (a :: bound) ↔
      Respects order row d included columns bound := by
  have hlt : ¬ (d.orient (order column)).lt a (row column) :=
    ValueOrder.not_lt_of_beq (by simpa) (by simpa) hx
  rw [respects_cons, Respects]
  simp [hlt, hx, hbound]

/-- A row that respects two bounds with the same first value has this value. -/
theorem beq_of_respects {included' : Bool} (hb : (order column).places b)
    (hab : (a == b) = true)
    (hleft : Respects order row d included (column :: columns) (a :: bound))
    (hright : Respects order row d.opposite included' (column :: columns) (b :: other)) :
    (row column == a) = true := by
  rw [respects_cons] at hleft hright
  rw [Direction.lt_orient_opposite] at hright
  exact ValueOrder.beq_of_between (o := d.orient (order column)) (by simpa) (by simpa) (by simpa)
    hab (hleft.imp id And.left) (hright.imp id And.left)

/-- The comparison with a start. -/
theorem holds_startRelation {bounding : Bounding} :
    (Comparison.mk column (SliceSpec.startRelation d bounding) a).Holds order row ↔
      (d.orient (order column)).lt a (row column) ∨
        bounding.includesStart = true ∧ (row column == a) = true := by
  have hle := ValueOrder.le_iff_lt_or_beq (o := d.orient (order column)) (a := a)
    (x := row column) (by simpa) (by simpa)
  cases hincluded : bounding.includesStart with
  | true =>
    rw [eq_self, true_and, ← hle]
    cases d <;> simp only [SliceSpec.startRelation, hincluded] <;> exact .rfl
  | false =>
    rw [eq_false Bool.false_ne_true, false_and, or_false]
    cases d <;> simp only [SliceSpec.startRelation, hincluded] <;> exact .rfl

/-- The comparison with an end is one with a start, in the opposite direction. -/
theorem holds_stopRelation {bounding : Bounding} :
    (Comparison.mk column (SliceSpec.stopRelation d bounding) a).Holds order row ↔
      (d.opposite.orient (order column)).lt a (row column) ∨
        bounding.includesEnd = true ∧ (row column == a) = true := by
  have hle := ValueOrder.le_iff_lt_or_beq (o := d.opposite.orient (order column)) (a := a)
    (x := row column) (by simpa) (by simpa)
  cases hincluded : bounding.includesEnd with
  | true =>
    rw [eq_self, true_and, ← hle]
    cases d <;> simp only [SliceSpec.stopRelation, hincluded] <;> exact .rfl
  | false =>
    rw [eq_false Bool.false_ne_true, false_and, or_false]
    cases d <;> simp only [SliceSpec.stopRelation, hincluded] <;> exact .rfl

end

end WideColumn
