import WideColumn.Decimal.Binary

/-!
# Reading floating point texts

The grammar is an optional sign, then one of the words for infinity or for what is not a number in
any case, or decimal digits with at most one point and an optional exponent. At least one digit
stands beside the point and after the exponent mark. The value is rounded once, exactly, at the
width asked for.
-/

namespace WideColumn.Decimal

/-- The leading digits, and what follows them. -/
def takeDigits (cs : List Char) : List Char × List Char :=
  (cs.takeWhile Char.isDigit, cs.dropWhile Char.isDigit)

/-- The value of a list of decimal digits. -/
def digitsValue (cs : List Char) : Nat :=
  cs.foldl (fun acc c => 10 * acc + (c.toNat - '0'.toNat)) 0

/-- The sign, which may be missing, and what follows it. -/
def takeSign : List Char → Bool × List Char
  | '-' :: rest => (true, rest)
  | '+' :: rest => (false, rest)
  | cs => (false, cs)

/-- An exponent that reaches to the end of the text; no text is exponent zero. -/
def readExponent : List Char → Option Int
  | [] => some 0
  | mark :: rest =>
    if mark == 'e' || mark == 'E' then
      let (negative, digits) := takeSign rest
      if digits.isEmpty || !digits.all Char.isDigit then none
      else
        let n : Int := digitsValue digits
        some (if negative then -n else n)
    else none

/-- An unsigned decimal number as coefficient and power of ten. -/
def readDigits (cs : List Char) : Option (Nat × Int) :=
  let (whole, rest) := takeDigits cs
  let (fraction, rest) :=
    match rest with
    | '.' :: rest => takeDigits rest
    | rest => ([], rest)
  if whole.isEmpty && fraction.isEmpty then none
  else
    (readExponent rest).map fun e =>
      (digitsValue (whole ++ fraction), e - fraction.length)

/-- The bit pattern of an unsigned number. -/
def readMagnitude (f : BinaryFormat) (cs : List Char) : Option Nat :=
  let word := String.ofList (cs.map Char.toLower)
  if word == "inf" || word == "infinity" then some f.infinityBits
  else if word == "nan" then some f.nanBits
  else (readDigits cs).map fun (c, p) => ofDecimal f c p

/-- The bit pattern of the number that the text denotes. -/
def readBits (f : BinaryFormat) (s : String) : Option Nat :=
  let (negative, rest) := takeSign s.toList
  (readMagnitude f rest).map fun bits => if negative then bits + f.signBit else bits

/-- The double that the text denotes. -/
def readDouble? (s : String) : Option Float :=
  (readBits .double s).map fun bits => Float.ofBits (UInt64.ofNat bits)

/-- The single that the text denotes. -/
def readSingle? (s : String) : Option Float32 :=
  (readBits .single s).map fun bits => Float32.ofBits (UInt32.ofNat bits)

example : readBits .double "-0" = some 0x8000000000000000 := by decide +kernel
example : readBits .double "1e" = none := by decide +kernel
example : readBits .double "." = none := by decide +kernel

end WideColumn.Decimal
