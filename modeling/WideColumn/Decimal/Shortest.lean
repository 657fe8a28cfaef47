import WideColumn.Decimal.Binary

/-!
# The shortest decimal that reads back

Among all decimals that round to a given binary number, the ones with the fewest digits, and of
these the nearest. The search walks grids of one, two, three, ... significant digits and tests, in
exact arithmetic, the two neighbours of the number on each grid.
-/

namespace WideColumn.Decimal

/-- Which of two equally near decimals is taken. -/
inductive Tie where
  | up
  | even
deriving Repr, DecidableEq

/-- A decimal number `coefficient * 10 ^ power`. -/
structure Digits where
  coefficient : Nat
  power : Int
deriving Repr, DecidableEq

/-- The number of decimal digits of a natural number. -/
def digitCount (n : Nat) : Nat :=
  (Nat.toDigits 10 n).length

/-- The largest `e` with `10 ^ e ≤ num / den`, for positive `num` and `den`. -/
def decimalExponent (num den : Nat) : Int :=
  if den ≤ num then (digitCount (num / den) : Int) - 1
  else
    let gap := digitCount den - digitCount num
    if den ≤ num * Nat.pow 10 gap then -gap else -gap - 1

/-- The reals that round to one binary number: from `low` to `high`, around `value`, all over
`den`; the ends belong to it exactly when `closed`. -/
structure Interval where
  low : Nat
  value : Nat
  high : Nat
  den : Nat
  closed : Bool
deriving Repr

/-- The interval of `significand * 2 ^ exponent`. Right above a power of two the lower neighbour
is half as far away. -/
def interval (f : BinaryFormat) (significand : Nat) (exponent : Int) : Interval :=
  let below := if significand == Nat.pow 2 f.fractionBits && f.minExponent < exponent then 1 else 2
  let shift := exponent - 2
  let up := Nat.pow 2 shift.toNat
  { low := (4 * significand - below) * up
    value := 4 * significand * up
    high := (4 * significand + 2) * up
    den := Nat.pow 2 (-shift).toNat
    closed := significand % 2 == 0 }

/-- Whether `c * 10 ^ power` lies in the interval. -/
def Interval.contains (i : Interval) (c : Nat) (power : Int) : Bool :=
  let point := c * Nat.pow 10 power.toNat * i.den
  let scale := Nat.pow 10 (-power).toNat
  if i.closed then i.low * scale ≤ point && point ≤ i.high * scale
  else i.low * scale < point && point < i.high * scale

/-- The neighbour of the interval's value on the grid of multiples of `10 ^ power` that lies in the
interval, the nearer one if both do. -/
def Interval.onGrid (i : Interval) (tie : Tie) (power : Int) : Option Digits :=
  let num := i.value * Nat.pow 10 (-power).toNat
  let den := i.den * Nat.pow 10 power.toNat
  let floor := num / den
  let gap := 2 * (num % den)
  match i.contains floor power, i.contains (floor + 1) power with
  | false, false => none
  | true, false => some ⟨floor, power⟩
  | false, true => some ⟨floor + 1, power⟩
  | true, true =>
    if gap < den || (gap == den && tie == .even && floor % 2 == 0) then some ⟨floor, power⟩
    else some ⟨floor + 1, power⟩

/-- Drop trailing zeros of the coefficient, at most `fuel` of them. -/
def Digits.strip : Nat → Digits → Digits
  | 0, d => d
  | fuel + 1, d =>
    if d.coefficient % 10 == 0 && d.coefficient != 0 then
      strip fuel ⟨d.coefficient / 10, d.power + 1⟩
    else d

/-- The first grid, from `count` digits on, with a hit. -/
def Interval.search (i : Interval) (tie : Tie) (top : Int) : Nat → Nat → Option Digits
  | 0, _ => none
  | fuel + 1, count =>
    match i.onGrid tie (top - count + 1) with
    | some d => some (d.strip (count + 1))
    | none => i.search tie top fuel (count + 1)

/-- The shortest decimal that rounds to `significand * 2 ^ exponent`, for a positive significand.
Seventeen digits always suffice for the widths in use. -/
def shortest (f : BinaryFormat) (tie : Tie) (significand : Nat) (exponent : Int) : Digits :=
  let i := interval f significand exponent
  (i.search tie (decimalExponent i.value i.den) 17 1).getD ⟨0, 0⟩

example : shortest .double .up 1 (-1074) = ⟨5, -324⟩ := by decide +kernel
example : shortest .single .up 0x99999A (-23 - 1) = ⟨6, -1⟩ := by decide +kernel

end WideColumn.Decimal
