import WideColumn.Json
import WideColumn.Decimal.Layout
import WideColumn.Text.Hex

/-!
# Writing JSON

Compact text: no blanks, the fields in their stored order, and only quotes, backslashes and
control characters escaped.
-/

namespace WideColumn.Json

/-- A double is positional for decimal exponents from -5 to 15, whole numbers keep `.0`, and what
is not finite becomes `null`. -/
def doubleLayout : Decimal.Layout :=
  { positional := some (-5, 15), wholePoint := true, tie := .even, nan := "null", infinity := "null" }

/-- A single is positional for decimal exponents from -6 to 12. -/
def singleLayout : Decimal.Layout :=
  { doubleLayout with positional := some (-6, 12) }

/-- The text of a double. -/
def doubleText (x : Float) : String :=
  if isFinite x then doubleLayout.write .double x.toBits.toNat else "null"

/-- The text of a single. -/
def singleText (x : Float32) : String :=
  match Decimal.parts .single x.toBits.toNat with
  | .finite .. => singleLayout.write .single x.toBits.toNat
  | _ => "null"

/-- One character of a string. -/
def escape (c : Char) : List Char :=
  if c = '"' then ['\\', '"']
  else if c = '\\' then ['\\', '\\']
  else if 0x20 ≤ c.toNat then [c]
  else if c.toNat = 8 then ['\\', 'b']
  else if c.toNat = 9 then ['\\', 't']
  else if c.toNat = 10 then ['\\', 'n']
  else if c.toNat = 12 then ['\\', 'f']
  else if c.toNat = 13 then ['\\', 'r']
  else ['\\', 'u', '0', '0', Text.hexDigit (c.toNat / 16), Text.hexDigit (c.toNat % 16)]

/-- A string with its quotes. -/
def stringChars (s : String) : List Char :=
  '"' :: s.toList.flatMap escape ++ ['"']

mutual

/-- The text of a document. -/
def chars : Json → List Char
  | .null => ['n', 'u', 'l', 'l']
  | .bool true => ['t', 'r', 'u', 'e']
  | .bool false => ['f', 'a', 'l', 's', 'e']
  | .int i => (toString i).toList
  | .float x => (doubleText x).toList
  | .str s => stringChars s
  | .arr [] => ['[', ']']
  | .arr (j :: rest) => '[' :: chars j ++ itemChars rest
  | .obj [] => ['\x7b', '\x7d']
  | .obj ((k, j) :: rest) => '\x7b' :: stringChars k ++ ':' :: chars j ++ fieldChars rest

/-- The items after the first, and the closing bracket. -/
def itemChars : List Json → List Char
  | [] => [']']
  | j :: rest => ',' :: chars j ++ itemChars rest

/-- The fields after the first, and the closing brace. -/
def fieldChars : List (String × Json) → List Char
  | [] => ['\x7d']
  | (k, j) :: rest => ',' :: stringChars k ++ ':' :: chars j ++ fieldChars rest

end

/-- The compact text of a document. -/
def render (j : Json) : String :=
  String.ofList j.chars

end WideColumn.Json
