/-!
# Binary floating point, exactly

A width of binary floating point is a number of fraction bits and of exponent bits. `parts` takes
a bit pattern apart into `significand * 2 ^ exponent`, and `roundRatio` finds the pattern nearest
to a quotient of natural numbers, ties to even. Both work in exact integer arithmetic, so a
statement about them needs nothing about floating point operations.
-/

namespace WideColumn.Decimal

/-- A width of binary floating point. -/
structure BinaryFormat where
  fractionBits : Nat
  exponentBits : Nat
deriving Repr, DecidableEq

namespace BinaryFormat

/-- The 32 bit width. -/
def single : BinaryFormat := ⟨23, 8⟩

/-- The 64 bit width. -/
def double : BinaryFormat := ⟨52, 11⟩

/-- The exponent of the last place of the smallest numbers. -/
def minExponent (f : BinaryFormat) : Int :=
  2 - (Nat.pow 2 (f.exponentBits - 1) : Int) - f.fractionBits

/-- The pattern of positive infinity. -/
def infinityBits (f : BinaryFormat) : Nat :=
  (Nat.pow 2 f.exponentBits - 1) * Nat.pow 2 f.fractionBits

/-- The pattern of one number that is not a number. -/
def nanBits (f : BinaryFormat) : Nat :=
  f.infinityBits + Nat.pow 2 (f.fractionBits - 1)

/-- The weight of the sign bit. -/
def signBit (f : BinaryFormat) : Nat :=
  Nat.pow 2 (f.fractionBits + f.exponentBits)

end BinaryFormat

/-- What a bit pattern stands for. -/
inductive Parts where
  | nan
  | infinite (negative : Bool)
  /-- The number of magnitude `significand * 2 ^ exponent`. -/
  | finite (negative : Bool) (significand : Nat) (exponent : Int)
deriving Repr, DecidableEq

/-- Take a bit pattern apart. -/
def parts (f : BinaryFormat) (bits : Nat) : Parts :=
  let fraction := bits % Nat.pow 2 f.fractionBits
  let biased := bits / Nat.pow 2 f.fractionBits % Nat.pow 2 f.exponentBits
  let negative := bits / f.signBit % 2 == 1
  if biased == Nat.pow 2 f.exponentBits - 1 then
    if fraction == 0 then .infinite negative else .nan
  else if biased == 0 then .finite negative fraction f.minExponent
  else .finite negative (Nat.pow 2 f.fractionBits + fraction) (f.minExponent + biased - 1)

/-- The quotient rounded to a natural number, a tie to the even neighbour. -/
def roundDivEven (num den : Nat) : Nat :=
  let floor := num / den
  let rest := 2 * (num % den)
  if rest < den then floor
  else if den < rest then floor + 1
  else if floor % 2 == 0 then floor else floor + 1

/-- The pair of naturals whose quotient is `num / den * 2 ^ (-shift)`. -/
def shiftRatio (num den : Nat) (shift : Int) : Nat × Nat :=
  if 0 ≤ shift then (num, den * Nat.pow 2 shift.toNat) else (num * Nat.pow 2 (-shift).toNat, den)

/-- The pattern of the number nearest to `num / den`, ties to even; quotients beyond the largest
finite number give infinity. A significand that rounds up to the next power of two carries into
the exponent field, because the fields are adjacent. -/
def roundRatio (f : BinaryFormat) (num den : Nat) : Nat :=
  if num == 0 then 0
  else
    let precision : Int := f.fractionBits + 1
    let estimate : Int := (num.log2 : Int) - den.log2 - precision
    let (n, d) := shiftRatio num den estimate
    let exponent := if Nat.pow 2 (f.fractionBits + 1) ≤ n / d then estimate + 1 else estimate
    let exponent := max exponent f.minExponent
    let (n, d) := shiftRatio num den exponent
    let bits := (exponent - f.minExponent).toNat * Nat.pow 2 f.fractionBits + roundDivEven n d
    min bits f.infinityBits

/-- The pattern of the number nearest to `coefficient * 10 ^ power`. Powers far outside the range
of the width are cut off before any large number is built. -/
def ofDecimal (f : BinaryFormat) (coefficient : Nat) (power : Int) : Nat :=
  let magnitude := (Nat.toDigits 10 coefficient).length + power
  if coefficient == 0 || magnitude < -400 then 0
  else if 400 < magnitude then f.infinityBits
  else if 0 ≤ power then roundRatio f (coefficient * Nat.pow 10 power.toNat) 1
  else roundRatio f coefficient (Nat.pow 10 (-power).toNat)

/-- The double nearest to a natural number. -/
def doubleOfNat (n : Nat) : Float :=
  Float.ofBits (UInt64.ofNat (roundRatio .double n 1))

/-- The double nearest to an integer. -/
def doubleOfInt (i : Int) : Float :=
  if i < 0 then -(doubleOfNat i.natAbs) else doubleOfNat i.natAbs

/-- The single nearest to an integer. -/
def singleOfInt (i : Int) : Float32 :=
  let x := Float32.ofBits (UInt32.ofNat (roundRatio .single i.natAbs 1))
  if i < 0 then -x else x

/-- The rounded quotient is within half a unit of the exact one. -/
theorem roundDivEven_within_half (num den : Nat) (h : 0 < den) :
    2 * (roundDivEven num den * den) ≤ 2 * num + den ∧
      2 * num ≤ 2 * (roundDivEven num den * den) + den := by
  have hdiv := Nat.div_add_mod num den
  rw [Nat.mul_comm] at hdiv
  simp only [roundDivEven]
  split
  · omega
  · split
    · have := Nat.mod_lt num h
      rw [Nat.add_mul]
      omega
    · split
      · omega
      · rw [Nat.add_mul]; omega

example : parts .double 0x3FF0000000000000 = .finite false (2 ^ 52) (-52) := by decide
example : ofDecimal .double 5 (-324) = 1 := by decide +kernel
example : ofDecimal .single 16777217 0 = 0x4B800000 := by decide +kernel

end WideColumn.Decimal
