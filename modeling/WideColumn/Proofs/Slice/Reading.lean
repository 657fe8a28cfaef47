import WideColumn.Proofs.Marker.Templates
import WideColumn.Proofs.Slice.Comparison

/-!
# Reading a slice

A statement of a slice is read from its text and its values alone: the text is cut at its blanks,
every question mark takes the next value, and no value may be left over. Only what begins like a
read or a delete, compares columns with constants and ends with an order and a limit can be read.
Comparisons with plain names and values without fractions are read as they were written
(`conditions?_conditionPieces`).
-/

namespace WideColumn

/-- A constant of a statement, written into the text or bound to a question mark. -/
inductive Constant where
  | truth (b : Bool)
  | integer (i : Int)
  | bound (v : Value)

/-- A column compared with a constant. -/
structure Condition where
  column : String
  relation : Relation
  constant : Constant

/-- What the text of a read and its values say. -/
structure SliceReading where
  /-- The columns to read; none means all. -/
  columns : List String
  table : String
  conditions : List Condition
  /-- The column that the rows are ordered by, from the last one to the first. -/
  descendingBy : Option String
  limit : Option Nat

/-! ### The reader -/

namespace SliceReading

def relation? : List Token → Option (Relation × List Token)
  | .sign '=' :: rest => some (.eq, rest)
  | .sign '>' :: .sign '=' :: rest => some (.ge, rest)
  | .sign '<' :: .sign '=' :: rest => some (.le, rest)
  | .sign '>' :: rest => some (.gt, rest)
  | .sign '<' :: rest => some (.lt, rest)
  | _ => none

/-- A number in decimal digits. -/
def number? (word : String) : Option Nat :=
  if word.toList.all Char.isDigit then some (Nat.ofDigitChars 10 word.toList 0) else none

/-- A constant written as a word. -/
def word? (word : String) : Option Constant :=
  if word = "true" then some (.truth true)
  else if word = "false" then some (.truth false)
  else (number? word).map fun n => .integer n

/-- A constant, and the values left; a question mark takes the next value. -/
def constant? : List Token → List Value → Option (Constant × List Value)
  | [.positional], v :: values => some (.bound v, values)
  | [.sign '-', .word word], values => (number? word).map fun n => (.integer (-n), values)
  | [.word word], values => (word? word).map fun constant => (constant, values)
  | _, _ => none

def condition? : List Token → List Value → Option (Condition × List Value)
  | .word column :: tokens, values => do
    let (relation, tokens) ← relation? tokens
    let (constant, values) ← constant? tokens values
    return (⟨column, relation, constant⟩, values)
  | _, _ => none

/-- Conditions up to one that no conjunction follows, with the pieces left. They have to take all
values. -/
def conditions? : List (List Token) → List Value → Option (List Condition × List (List Token))
  | [], _ => none
  | [piece], values => do
    let (condition, values) ← condition? piece values
    if values.isEmpty then return ([condition], []) else none
  | piece :: next :: rest, values => do
    let (condition, values) ← condition? piece values
    if next = [.word "AND"] then
      let (conditions, rest) ← conditions? rest values
      return (condition :: conditions, rest)
    else if values.isEmpty then return ([condition], next :: rest) else none

def names? : List Token → Option (List String)
  | [.word name] => some [name]
  | .word name :: .sign ',' :: rest => (names? rest).map (name :: ·)
  | _ => none

def columns? (tokens : List Token) : Option (List String) :=
  if tokens = [.sign '*'] then some [] else names? tokens

/-- The column of a descending order, if there is one, and the pieces left. -/
def order : List (List Token) → Option String × List (List Token)
  | [.word "ORDER"] :: [.word "BY"] :: [.word column] :: [.word "DESC"] :: rest =>
    (some column, rest)
  | rest => (none, rest)

def limit? : List (List Token) → Option (Option Nat)
  | [] => some none
  | [[.word "LIMIT"], [.word word]] => (number? word).map some
  | _ => none

/-- The pieces of tokens between blanks. -/
def pieces (tokens : List Token) : List (List Token) := tokens.splitOn (.sign ' ')

/-- The pieces of a statement, without the semicolon at its end. -/
def statement? (text : String) : Option (List (List Token)) :=
  if (scan text).getLast? = some (.sign ';') then some (pieces (scan text).dropLast) else none

/-- The conditions of a predicate, which would stand before the semicolon. -/
def ofPredicate? (text : String) (values : List Value) : Option (List Condition) := do
  let (conditions, rest) ← conditions? (← statement? (text ++ ";")) values
  if rest.isEmpty then return conditions else none

/-- What a read says. -/
def ofSelect? (text : String) (values : List Value) : Option SliceReading := do
  match ← statement? text with
  | [.word "SELECT"] :: columns :: [.word "FROM"] :: [.word table] :: [.word "WHERE"] :: rest =>
    let columns ← columns? columns
    let (conditions, rest) ← conditions? rest values
    let (descendingBy, rest) := order rest
    let limit ← limit? rest
    return { columns, table, conditions, descendingBy, limit }
  | _ => none

/-- The table and the conditions of a delete. -/
def ofDelete? (text : String) (values : List Value) : Option (String × List Condition) := do
  match ← statement? text with
  | [.word "DELETE"] :: [.word "FROM"] :: [.word table] :: [.word "WHERE"] :: rest =>
    let (conditions, rest) ← conditions? rest values
    if rest.isEmpty then return (table, conditions) else none
  | _ => none

end SliceReading

/-- Whether this is a number that may have a fraction, the text of which is not an integer. -/
def Value.isFractional : Value → Bool
  | .float _ | .double _ | .decimal _ => true
  | _ => false

/-- The constant that stands for a value. -/
def Value.constant : Value → Constant
  | .bool b => .truth b
  | .int i => .integer i.toInt
  | .bigint i => .integer i.toInt
  | v => .bound v

/-- The comparison as it is read. -/
def Comparison.condition (c : Comparison) : Condition := ⟨c.column, c.relation, c.value.constant⟩

/-! ### Tokens of a comparison -/

/-- The tokens of a relation. -/
def Relation.tokens : Relation → List Token
  | .eq => [.sign '=']
  | .gt => [.sign '>']
  | .ge => [.sign '>', .sign '=']
  | .lt => [.sign '<']
  | .le => [.sign '<', .sign '=']

/-- The tokens of an integer. -/
def integerTokens : Int → List Token
  | .ofNat n => [.word (toString n)]
  | .negSucc n => [.sign '-', .word (toString (n + 1))]

/-- The tokens of a value: a literal, or the question mark that it is bound to. -/
def Value.tokens : Value → List Token
  | .bool true => [.word "true"]
  | .bool false => [.word "false"]
  | .int i => integerTokens i.toInt
  | .bigint i => integerTokens i.toInt
  | _ => [.positional]

/-- The tokens of a comparison. -/
def Comparison.tokens (c : Comparison) : List Token :=
  .word c.column :: (c.relation.tokens ++ c.value.tokens)

theorem Relation.scans (r : Relation) : Scans r.sign r.tokens := by
  cases r <;> exact fun _ => rfl

theorem Relation.beginsApart (r : Relation) (text : String) : BeginsApart (r.sign ++ text) := by
  refine BeginsApart.append ?_ text
  cases r <;> rfl

theorem scansBefore_nat (n : Nat) : ScansBefore (toString n) [.word (toString n)] := by
  have hdigits : (toString n).toList = Nat.toDigits 10 n := Nat.toList_repr
  apply ScansBefore.letters
  · intro h
    rw [h] at hdigits
    exact Nat.toDigits_ne_nil hdigits.symm
  · rw [hdigits]
    intro c hc
    have hdigit : c.isDigit = true := Nat.isDigit_of_mem_toDigits (b := 10) (by decide) (by decide) hc
    simp [isNameChar, Char.isAlphanum, hdigit]

theorem scansBefore_integer (i : Int) : ScansBefore (toString i) (integerTokens i) := by
  cases i with
  | ofNat n => exact scansBefore_nat n
  | negSucc n =>
    have hsign : Scans "-" [.sign '-'] := fun _ => rfl
    exact .prepend hsign (scansBefore_nat (n + 1))

theorem scansBefore_operand {column : String} {relation : Relation} {v : Value}
    (hv : v.isFractional = false) :
    ScansBefore (Predicate.ofValue column relation v).operandText v.tokens := by
  have hmark : ScansBefore "?" [.positional] := ⟨fun _ hscans => Scans.append (fun _ => rfl) hscans⟩
  cases v with
  | bool b =>
    have htrue : IsPlainName "true" := by decide
    have hfalse : IsPlainName "false" := by decide
    cases b
    · exact .word hfalse
    · exact .word htrue
  | int i => exact scansBefore_integer i.toInt
  | bigint i => exact scansBefore_integer i.toInt
  | float | double | decimal => cases hv
  | _ => exact hmark

theorem Comparison.text_predicate (c : Comparison) :
    c.predicate.text = c.column ++ (c.relation.sign ++ c.predicate.operandText) := by
  have hcolumn : c.predicate.column = c.column ∧ c.predicate.relation = c.relation := by
    unfold Comparison.predicate Predicate.ofValue
    split <;> exact ⟨rfl, rfl⟩
  rw [Predicate.text, hcolumn.1, hcolumn.2, String.append_assoc]

theorem Comparison.scansBefore {c : Comparison} (hname : IsPlainName c.column)
    (hvalue : c.value.isFractional = false) : ScansBefore c.predicate.text c.tokens := by
  rw [c.text_predicate]
  exact (ScansBefore.word hname).append (c.relation.beginsApart _)
    (.prepend c.relation.scans (scansBefore_operand hvalue))

/-! ### Reading comparisons -/

namespace SliceReading

theorem relation?_tokens (r : Relation) {rest : List Token} (h : rest.head? ≠ some (.sign '=')) :
    relation? (r.tokens ++ rest) = some (r, rest) := by
  cases rest with
  | nil => cases r <;> rfl
  | cons token rest =>
    have htoken : token ≠ .sign '=' := by simpa using h
    cases r with
    | eq | ge | le => rfl
    | gt | lt => simp [relation?, Relation.tokens, htoken]

/-- The values of a comparison are those that its text has question marks for. -/
def boundOf (v : Value) : List Value := if v.isInline then [] else [v]

theorem isDigit_of_mem_toString {n : Nat} {c : Char} (h : c ∈ (toString n).toList) :
    c.isDigit = true := by
  have hdigits : (toString n).toList = Nat.toDigits 10 n := Nat.toList_repr
  rw [hdigits] at h
  exact Nat.isDigit_of_mem_toDigits (b := 10) (by decide) (by decide) h

theorem number?_toString (n : Nat) : number? (toString n) = some n := by
  have hall : (toString n).toList.all Char.isDigit = true :=
    List.all_eq_true.2 fun _ hc => isDigit_of_mem_toString hc
  have hdigits : (toString n).toList = Nat.toDigits 10 n := Nat.toList_repr
  rw [number?, if_pos hall, hdigits, Nat.ofDigitChars_ten_toDigits]

/-- A number is neither of the two truth values. -/
theorem word?_toString (n : Nat) : word? (toString n) = some (.integer n) := by
  have hword : ∀ word : String, word.toList.all Char.isDigit = false → toString n ≠ word := by
    rintro word hall rfl
    rw [List.all_eq_true.2 fun _ hc => isDigit_of_mem_toString hc] at hall
    cases hall
  rw [word?, if_neg (hword "true" (by decide)), if_neg (hword "false" (by decide)),
    number?_toString]
  rfl

theorem constant?_integerTokens (i : Int) (values : List Value) :
    constant? (integerTokens i) values = some (.integer i, values) := by
  cases i with
  | ofNat n =>
    show (word? (toString n)).map _ = _
    rw [word?_toString]
    rfl
  | negSucc n =>
    simp only [integerTokens, constant?, number?_toString]
    rfl

theorem constant?_tokens {v : Value} (hv : v.isFractional = false) (values : List Value) :
    constant? v.tokens (boundOf v ++ values) = some (v.constant, values) := by
  cases v with
  | bool b => cases b <;> rfl
  | int i | bigint i => exact constant?_integerTokens i.toInt values
  | float | double | decimal => cases hv
  | _ => rfl

theorem head?_tokens (v : Value) : v.tokens.head? ≠ some (.sign '=') := by
  have hinteger : ∀ i : Int, (integerTokens i).head? ≠ some (.sign '=') := by
    intro i
    cases i <;> simp [integerTokens]
  cases v with
  | bool b => cases b <;> decide
  | int i | bigint i => exact hinteger i.toInt
  | _ => exact fun h => nomatch h

theorem condition?_tokens {c : Comparison} (hc : c.value.isFractional = false)
    (values : List Value) :
    condition? c.tokens (boundOf c.value ++ values) = some (c.condition, values) := by
  simp only [Comparison.tokens, condition?, relation?_tokens c.relation (head?_tokens c.value),
    Option.bind_eq_bind, Option.bind_some, constant?_tokens hc values]
  rfl

/-- The pieces of comparisons: a piece for each, with the conjunction between two. -/
def conditionPieces (comparisons : List Comparison) : List (List Token) :=
  (comparisons.map Comparison.tokens).intersperse [.word "AND"]

theorem conditionPieces_cons_cons (c d : Comparison) (rest : List Comparison) :
    conditionPieces (c :: d :: rest) =
      c.tokens :: [.word "AND"] :: conditionPieces (d :: rest) := rfl

/-- All comparisons are read in order, each with its value; what follows is left. -/
theorem conditions?_conditionPieces {comparisons : List Comparison} (hne : comparisons ≠ [])
    (hvalues : ∀ c ∈ comparisons, c.value.isFractional = false) {rest : List (List Token)}
    (hrest : rest.head? ≠ some [.word "AND"]) :
    conditions? (conditionPieces comparisons ++ rest)
        (comparisons.flatMap fun c => boundOf c.value) =
      some (comparisons.map Comparison.condition, rest) := by
  induction comparisons with
  | nil => exact absurd rfl hne
  | cons c comparisons ih =>
    obtain ⟨hc, hvalues⟩ := List.forall_mem_cons.1 hvalues
    cases comparisons with
    | nil =>
      have hread := condition?_tokens hc []
      rw [List.append_nil] at hread
      cases rest with
      | nil => simp [conditionPieces, conditions?, hread]
      | cons piece rest =>
        have hpiece : piece ≠ [.word "AND"] := by simpa using hrest
        simp [conditionPieces, conditions?, hread, hpiece]
    | cons d comparisons =>
      rw [conditionPieces_cons_cons, List.flatMap_cons, List.cons_append, List.cons_append]
      simp only [conditions?, condition?_tokens hc, Option.bind_eq_bind, Option.bind_some,
        ↓reduceIte, ih (List.cons_ne_nil _ _) hvalues]
      rfl

/-- Comparisons without anything after them. -/
theorem conditions?_all {comparisons : List Comparison} (hne : comparisons ≠ [])
    (hvalues : ∀ c ∈ comparisons, c.value.isFractional = false) :
    conditions? (conditionPieces comparisons) (comparisons.flatMap fun c => boundOf c.value) =
      some (comparisons.map Comparison.condition, []) := by
  have hread := @conditions?_conditionPieces comparisons hne hvalues [] (by simp)
  rwa [List.append_nil] at hread

end SliceReading

end WideColumn
