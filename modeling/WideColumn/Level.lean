import WideColumn.Error
import WideColumn.Text.Blank

/-!
# Consistency levels

The levels a statement can be sent with, and their names: a name reads back as its level
(`ofName?_name`).
-/

namespace WideColumn

/-- How many replicas have to take part in a read or a write. -/
inductive Level where
  | any
  | one
  | two
  | three
  | quorum
  | all
  | localQuorum
  | eachQuorum
  | localOne
  | serial
  | localSerial
deriving Repr, DecidableEq, Inhabited

namespace Level

/-- Every level. -/
def every : List Level :=
  [.any, .one, .two, .three, .quorum, .all, .localQuorum, .eachQuorum, .localOne, .serial,
   .localSerial]

/-- The level of statements that nobody chose a level for. -/
def standard : Level := .one

/-- The name of the level in the query language. -/
def name : Level → String
  | .any => "ANY"
  | .one => "ONE"
  | .two => "TWO"
  | .three => "THREE"
  | .quorum => "QUORUM"
  | .all => "ALL"
  | .localQuorum => "LOCAL_QUORUM"
  | .eachQuorum => "EACH_QUORUM"
  | .localOne => "LOCAL_ONE"
  | .serial => "SERIAL"
  | .localSerial => "LOCAL_SERIAL"

/-- The level of the given name. -/
def ofName? (name : String) : Option Level :=
  every.find? fun level => level.name == name

/-- The ASCII letters in upper case, everything else as it is. -/
def upperChars (cs : List Char) : List Char :=
  cs.map Char.toUpper

/-- Read a level: its name between blanks, in any case of the ASCII letters. -/
def parse (cs : List Char) : Except Error Level :=
  let name := String.ofList (upperChars (Text.trimChars cs))
  match ofName? name with
  | some level => .ok level
  | none => .error (.ofConfig s!"'{name}' is not a valid consistency level")

/-- Every level is listed. -/
theorem mem_every (level : Level) : level ∈ every := by
  cases level <;> decide +kernel

/-- The name of a level reads back as the level. -/
theorem ofName?_name (level : Level) : ofName? level.name = some level := by
  cases level <;> decide +kernel

end Level

end WideColumn
