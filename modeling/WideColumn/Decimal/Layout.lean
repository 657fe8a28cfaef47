import WideColumn.Decimal.Shortest

/-!
# Layouts of decimal numbers

How the shortest digits of a binary number are laid out as text: positional or with an exponent,
with or without a fraction on whole numbers, and the words for what is not a number. Which layout
is used is decided where the text is written.
-/

namespace WideColumn.Decimal

/-- A way to write binary floating point numbers. -/
structure Layout where
  /-- The decimal exponents written positionally; `none` means all of them. -/
  positional : Option (Int × Int)
  /-- Whether a whole number in positional form keeps `.0`. -/
  wholePoint : Bool
  tie : Tie
  nan : String
  infinity : String
deriving Repr

/-- The decimal digits of a natural number. -/
def digitText (n : Nat) : String :=
  String.ofList (Nat.toDigits 10 n)

/-- A text of zeros. -/
def zeros (n : Nat) : String :=
  String.ofList (List.replicate n '0')

/-- Positional form: all zeros between the digits and the point are written out. -/
def Layout.writePositional (l : Layout) (d : Digits) : String :=
  let digits := Nat.toDigits 10 d.coefficient
  if 0 ≤ d.power then
    digitText d.coefficient ++ zeros d.power.toNat ++ (if l.wholePoint then ".0" else "")
  else
    let places := (-d.power).toNat
    if places < digits.length then
      let cut := digits.length - places
      String.ofList (digits.take cut) ++ "." ++ String.ofList (digits.drop cut)
    else
      "0." ++ zeros (places - digits.length) ++ String.ofList digits

/-- One digit, the others after a point, and a signed exponent. -/
def writeScientific (d : Digits) : String :=
  let digits := Nat.toDigits 10 d.coefficient
  let exponent := d.power + digits.length - 1
  let rest := digits.drop 1
  String.ofList (digits.take 1) ++ (if rest.isEmpty then "" else "." ++ String.ofList rest) ++ "e" ++
    (if exponent < 0 then "-" else "+") ++ digitText exponent.natAbs

/-- A positive decimal number. -/
def Layout.writeDigits (l : Layout) (d : Digits) : String :=
  match l.positional with
  | none => l.writePositional d
  | some (least, most) =>
    let exponent := d.power + digitCount d.coefficient - 1
    if least ≤ exponent && exponent ≤ most then l.writePositional d else writeScientific d

/-- The text of the number with the given bit pattern. -/
def Layout.write (l : Layout) (f : BinaryFormat) (bits : Nat) : String :=
  let signed (negative : Bool) (text : String) := if negative then "-" ++ text else text
  match parts f bits with
  | .nan => l.nan
  | .infinite negative => signed negative l.infinity
  | .finite negative 0 _ => signed negative (l.writePositional ⟨0, 0⟩)
  | .finite negative significand exponent =>
    signed negative (l.writeDigits (shortest f l.tie significand exponent))

end WideColumn.Decimal
