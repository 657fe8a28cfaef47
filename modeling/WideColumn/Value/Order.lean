import WideColumn.Value

/-!
# Order of values

Values of one kind, and numbers of any two kinds, can be compared; all other pairs cannot. Two
integers are compared as integers; as soon as one number is not an integer, both are compared as
doubles, and what is not a number compares with nothing.
-/

namespace WideColumn

/-- Order of doubles; `none` where one of them is not a number. -/
def compareDoubles (x y : Float) : Option Ordering :=
  if x < y then some .lt
  else if x == y then some .eq
  else if y < x then some .gt
  else none

namespace Value

/-- Order of two values read as numbers. -/
def compareNumbers (a b : Value) : Option Ordering :=
  match a.int?, b.int? with
  | some x, some y => some (compare x.toInt y.toInt)
  | _, _ => do compareDoubles (← a.double?) (← b.double?)

/-- Order of two values; `none` where their kinds cannot be compared. -/
def order? (a b : Value) : Option Ordering :=
  match a, b with
  | .bool x, .bool y => some (compare x y)
  | .text x, .text y => some (compare x y)
  | .blob x, .blob y => some (compare x y)
  | .uuid x, .uuid y => some (compare x.toList y.toList)
  | .timestamp x, .timestamp y => some (compare x.toInt y.toInt)
  | a, b => compareNumbers a b

end Value

end WideColumn
