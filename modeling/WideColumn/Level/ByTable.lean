import WideColumn.Level
import WideColumn.Text.Split

/-!
# Levels by table

A map from table names to levels and its text form, entries `table:LEVEL` separated by commas.
Main statement: `find?_insert`, what a look-up sees after an insertion.
-/

namespace WideColumn

/-- Levels by table name. -/
abbrev TableLevels := List (String × Level)

namespace TableLevels

/-- Give a table its level, replacing the one it had. -/
def insert (table : String) (level : Level) : TableLevels → TableLevels
  | [] => [(table, level)]
  | (t, l) :: rest =>
    if t = table then (table, level) :: rest else (t, l) :: TableLevels.insert table level rest

/-- The level of a table. -/
def find? (levels : TableLevels) (table : String) : Option Level :=
  levels.lookup table

/-- Read one trimmed entry `table:LEVEL`, cut at its first colon. -/
def parseEntry (entry : List Char) : Except Error (String × Level) :=
  match Text.cut ':' entry with
  | none =>
    .error (.ofConfig
      s!"Invalid consistency map entry '{String.ofList entry}', expected 'table:LEVEL'")
  | some (table, level) =>
    let table := Text.trimChars table
    if table.isEmpty then
      .error (.ofConfig
        s!"Invalid consistency map entry '{String.ofList entry}', table name is blank")
    else (Level.parse level).map fun level => (String.ofList table, level)

/-- Read the entries in order; a later entry for a table replaces an earlier one. -/
def parseEntries (levels : TableLevels) : List (List Char) → Except Error TableLevels
  | [] => .ok levels
  | entry :: rest => do
    let (table, level) ← parseEntry entry
    parseEntries (levels.insert table level) rest

/-- Read a map written as `table1:QUORUM,table2:ONE`. Blank pieces are skipped, so a blank text is
the empty map. -/
def parse (text : String) : Except Error TableLevels :=
  parseEntries [] (((Text.pieces ',' text.toList).map Text.trimChars).filter fun e => !e.isEmpty)

/-- The text of a map. -/
def render (levels : TableLevels) : String :=
  ",".intercalate (levels.map fun (table, level) => s!"{table}:{level.name}")

/-- An inserted level is found, and no other table changes. -/
theorem find?_insert (levels : TableLevels) (table other : String) (level : Level) :
    (levels.insert table level).find? other =
      if other = table then some level else levels.find? other := by
  induction levels with
  | nil =>
    by_cases h : other = table
    · simp [insert, find?, h]
    · simp [insert, find?, h, List.lookup_cons, beq_eq_false_iff_ne.2 h]
  | cons entry rest ih =>
    obtain ⟨t, l⟩ := entry
    simp only [find?] at ih ⊢
    by_cases ht : t = table
    · subst ht
      by_cases h : other = t
      · simp [insert, h]
      · simp [insert, h, List.lookup_cons, beq_eq_false_iff_ne.2 h]
    · by_cases h : other = t
      · subst h
        simp [insert, ht]
      · simp [insert, ht, List.lookup_cons, beq_eq_false_iff_ne.2 h, ih]

end TableLevels

end WideColumn
