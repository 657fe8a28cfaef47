import WideColumn.Json
import WideColumn.Text.Hex

/-!
# Reading JSON

The grammar is the standard one. Containers nest at most `maxDepth` deep, an escaped surrogate
stands only in a pair, and a number beyond the doubles is refused. `readDocument` keeps the fields
of objects as written, `read` gives the canonical document.

A number without fraction and exponent that fits 64 bits stays an integer, except `-0`. Any other
number is its leading digits, as many as fit 64 unsigned bits, scaled by powers of ten in double
arithmetic.
-/

namespace WideColumn.Json

/-- How deep containers may nest. -/
def maxDepth : Nat := 127

/-- The white space of the grammar. -/
def isSpace (c : Char) : Bool :=
  c = ' ' || c = '\n' || c = '\t' || c = '\r'

/-- What follows leading white space. -/
def skipSpace (cs : List Char) : List Char :=
  cs.dropWhile isSpace

/-! ## Numbers -/

/-- A number as written. -/
structure Numeral where
  negative : Bool
  whole : List Char
  /-- The digits after the point. -/
  fraction : Option (List Char)
  /-- The value after the exponent mark. -/
  exponent : Option Int
deriving Repr

/-- Digits, at least one. -/
def takeDigits1 (cs : List Char) : Option (List Char × List Char) :=
  match Decimal.takeDigits cs with
  | ([], _) => none
  | (digits, rest) => some (digits, rest)

/-- The whole part: a lone zero, or digits that do not start with zero. -/
def takeWhole (cs : List Char) : Option (List Char × List Char) :=
  match takeDigits1 cs with
  | some ('0' :: _ :: _, _) => none
  | r => r

/-- The part after a point, if there is a point. -/
def takeFraction : List Char → Option (Option (List Char) × List Char)
  | '.' :: rest => (takeDigits1 rest).map fun (digits, rest) => (some digits, rest)
  | cs => some (none, cs)

/-- The exponent, if there is a mark. -/
def takeExponent : List Char → Option (Option Int × List Char)
  | mark :: rest =>
    if mark = 'e' || mark = 'E' then
      let (negative, rest) := Decimal.takeSign rest
      (takeDigits1 rest).map fun (digits, rest) =>
        let n : Int := Decimal.digitsValue digits
        (some (if negative then -n else n), rest)
    else some (none, mark :: rest)
  | [] => some (none, [])

/-- A number at the front of the text. -/
def takeNumeral (cs : List Char) : Option (Numeral × List Char) := do
  let (negative, cs) := match cs with
    | '-' :: rest => (true, rest)
    | cs => (false, cs)
  let (whole, cs) ← takeWhole cs
  let (fraction, cs) ← takeFraction cs
  let (exponent, cs) ← takeExponent cs
  return ({ negative, whole, fraction, exponent }, cs)

/-- The value of the longest run of leading digits, continuing from `acc`, that fits 64 unsigned
bits, and how many digits are left over. -/
def clampDigits (acc : Nat) : List Char → Nat × Nat
  | [] => (acc, 0)
  | c :: rest =>
    let next := 10 * acc + (c.toNat - '0'.toNat)
    if next < UInt64.size then clampDigits next rest else (acc, rest.length + 1)

/-- The double nearest to a power of ten. -/
def powerOfTen (n : Nat) : Float :=
  Float.ofBits (UInt64.ofNat (Decimal.ofDecimal .double 1 n))

/-- `x * 10 ^ power` in double arithmetic; `none` beyond the doubles. Powers below the range are
divided out in steps, and three steps take any 64 bit number to zero. -/
def scale (x : Float) (power : Int) : Nat → Option Float
  | 0 => some 0
  | fuel + 1 =>
    if power.natAbs ≤ 308 then
      if 0 ≤ power then
        let y := x * powerOfTen power.natAbs
        if isFinite y then some y else none
      else some (x / powerOfTen power.natAbs)
    else if x == 0 then some x
    else if 0 ≤ power then none
    else scale (x / powerOfTen 308) (power + 308) fuel

/-- The document of a numeral. -/
def Numeral.value? (n : Numeral) : Option Json :=
  let (significand, dropped) := clampDigits 0 n.whole
  match n.fraction, n.exponent, dropped with
  | none, none, 0 =>
    if !n.negative then some (.int significand)
    else if significand != 0 && significand ≤ Nat.pow 2 63 then some (.int (-significand))
    else some (.float (-(Decimal.doubleOfNat significand)))
  | fraction, exponent, dropped =>
    let digits := fraction.getD []
    let (significand, cut) := clampDigits significand digits
    let power := (dropped : Int) - (digits.length - cut) + exponent.getD 0
    (scale (Decimal.doubleOfNat significand) power 4).map fun x =>
      .float (if n.negative then -x else x)

/-! ## Strings -/

/-- Four hexadecimal digits. -/
def takeHex4 : List Char → Option (Nat × List Char)
  | a :: b :: c :: d :: rest => do
    let a ← Text.hexValue? a
    let b ← Text.hexValue? b
    let c ← Text.hexValue? c
    let d ← Text.hexValue? d
    return (((a * 16 + b) * 16 + c) * 16 + d, rest)
  | _ => none

/-- The character of an escape, after its backslash. -/
def takeEscape : List Char → Option (Char × List Char)
  | '"' :: rest => some ('"', rest)
  | '\\' :: rest => some ('\\', rest)
  | '/' :: rest => some ('/', rest)
  | 'b' :: rest => some ('\x08', rest)
  | 'f' :: rest => some ('\x0c', rest)
  | 'n' :: rest => some ('\n', rest)
  | 'r' :: rest => some ('\r', rest)
  | 't' :: rest => some ('\t', rest)
  | 'u' :: rest => do
    let (unit, rest) ← takeHex4 rest
    if unit < 0xD800 || 0xE000 ≤ unit then return (Char.ofNat unit, rest)
    else if 0xDC00 ≤ unit then none
    else
      match rest with
      | '\\' :: 'u' :: rest =>
        let (low, rest) ← takeHex4 rest
        if 0xDC00 ≤ low && low < 0xE000 then
          return (Char.ofNat (0x10000 + (unit - 0xD800) * 0x400 + (low - 0xDC00)), rest)
        else none
      | _ => none
  | _ => none

/-- The characters of a string up to its closing quote. -/
def takeString : Nat → List Char → Option (List Char × List Char)
  | 0, _ => none
  | _, [] => none
  | _ + 1, '"' :: rest => some ([], rest)
  | fuel + 1, '\\' :: rest => do
    let (c, rest) ← takeEscape rest
    let (cs, rest) ← takeString fuel rest
    return (c :: cs, rest)
  | fuel + 1, c :: rest =>
    if c.toNat < 0x20 then none
    else (takeString fuel rest).map fun (cs, rest) => (c :: cs, rest)

/-! ## Documents -/

mutual

/-- A document at the front of the text, containers nested at most `depth` deep. -/
def takeValue : Nat → Nat → List Char → Option (Json × List Char)
  | 0, _, _ => none
  | fuel + 1, depth, cs =>
    match skipSpace cs with
    | 'n' :: 'u' :: 'l' :: 'l' :: rest => some (.null, rest)
    | 't' :: 'r' :: 'u' :: 'e' :: rest => some (.bool true, rest)
    | 'f' :: 'a' :: 'l' :: 's' :: 'e' :: rest => some (.bool false, rest)
    | '"' :: rest => (takeString fuel rest).map fun (s, rest) => (.str (String.ofList s), rest)
    | '[' :: rest =>
      if depth = 0 then none
      else
        match skipSpace rest with
        | ']' :: rest => some (.arr [], rest)
        | rest => (takeItems fuel (depth - 1) rest).map fun (items, rest) => (.arr items, rest)
    | '\x7b' :: rest =>
      if depth = 0 then none
      else
        match skipSpace rest with
        | '\x7d' :: rest => some (.obj [], rest)
        | rest => (takeFields fuel (depth - 1) rest).map fun (fields, rest) => (.obj fields, rest)
    | cs => do
      let (n, rest) ← takeNumeral cs
      return (← n.value?, rest)

/-- Items up to the closing bracket, at least one. -/
def takeItems : Nat → Nat → List Char → Option (List Json × List Char)
  | 0, _, _ => none
  | fuel + 1, depth, cs => do
    let (item, rest) ← takeValue fuel depth cs
    match skipSpace rest with
    | ',' :: rest =>
      let (items, rest) ← takeItems fuel depth rest
      return (item :: items, rest)
    | ']' :: rest => return ([item], rest)
    | _ => none

/-- Fields up to the closing brace, at least one. -/
def takeFields : Nat → Nat → List Char → Option (List (String × Json) × List Char)
  | 0, _, _ => none
  | fuel + 1, depth, cs =>
    match skipSpace cs with
    | '"' :: rest => do
      let (name, rest) ← takeString fuel rest
      match skipSpace rest with
      | ':' :: rest =>
        let (value, rest) ← takeValue fuel depth rest
        let field := (String.ofList name, value)
        match skipSpace rest with
        | ',' :: rest =>
          let (fields, rest) ← takeFields fuel depth rest
          return (field :: fields, rest)
        | '\x7d' :: rest => return ([field], rest)
        | _ => none
      | _ => none
    | _ => none

end

/-- A document at the front of the text. -/
def takeDocument (cs : List Char) : Option (Json × List Char) :=
  takeValue (2 * cs.length + 2) maxDepth cs

/-- The document that the whole text denotes, in the reading of the front of a text by `take`. -/
def readWhole (take : List Char → Option (Json × List Char)) (s : String) : Option Json :=
  match take s.toList with
  | some (j, rest) => if (skipSpace rest).isEmpty then some j else none
  | none => none

/-- The document that the whole text denotes, the fields of objects as written. -/
def readDocument (s : String) : Option Json :=
  readWhole takeDocument s

/-- The canonical document that the whole text denotes. -/
def read (s : String) : Option Json :=
  (readDocument s).map canonical

end WideColumn.Json
