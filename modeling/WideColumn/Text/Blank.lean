/-!
# Blank characters

The characters with the Unicode `White_Space` property, trimming by them, and the test for a
blank text. The set is a table of the standard; `isBlankChar_of_isWhitespace` states that it
contains the blanks that the core library knows.
-/

namespace WideColumn.Text

/-- Closed ranges of code points with the `White_Space` property. -/
def blankRanges : List (Nat × Nat) :=
  [(0x9, 0xD), (0x20, 0x20), (0x85, 0x85), (0xA0, 0xA0), (0x1680, 0x1680), (0x2000, 0x200A),
   (0x2028, 0x2029), (0x202F, 0x202F), (0x205F, 0x205F), (0x3000, 0x3000)]

/-- Whether a character is white space. -/
def isBlankChar (c : Char) : Bool :=
  blankRanges.any fun (lo, hi) => lo ≤ c.toNat && c.toNat ≤ hi

/-- Drop the blanks at both ends. -/
def trimChars (cs : List Char) : List Char :=
  ((cs.dropWhile isBlankChar).reverse.dropWhile isBlankChar).reverse

/-- The text without the blanks at its two ends. -/
def trim (s : String) : String :=
  String.ofList (trimChars s.toList)

/-- Whether the text has no character other than blanks. -/
def isBlank (s : String) : Bool :=
  s.toList.all isBlankChar

/-- Every blank of the core library is a blank here. -/
theorem isBlankChar_of_isWhitespace (c : Char) (h : c.isWhitespace = true) :
    isBlankChar c = true := by
  simp only [Char.isWhitespace, Bool.or_eq_true, decide_eq_true_eq] at h
  rcases h with ((h | h) | h) | h <;> subst h <;> decide

private theorem dropWhile_blank_eq_nil_iff (cs : List Char) :
    cs.dropWhile isBlankChar = [] ↔ cs.all isBlankChar = true := by
  induction cs with
  | nil => simp
  | cons c rest ih => cases h : isBlankChar c <;> simp_all

/-- A text is blank exactly when trimming leaves nothing. -/
theorem trimChars_eq_nil_iff (cs : List Char) :
    trimChars cs = [] ↔ cs.all isBlankChar = true := by
  rw [trimChars, List.reverse_eq_nil_iff, dropWhile_blank_eq_nil_iff, List.all_reverse]
  constructor
  · intro h
    rw [← dropWhile_blank_eq_nil_iff]
    cases hd : cs.dropWhile isBlankChar with
    | nil => rfl
    | cons c rest =>
      have hne : cs.dropWhile isBlankChar ≠ [] := by simp [hd]
      have hhead := List.head_dropWhile_not isBlankChar hne
      rw [List.all_eq_true] at h
      rw [h _ (List.head_mem hne)] at hhead
      exact absurd hhead (by simp)
  · intro h
    rw [(dropWhile_blank_eq_nil_iff cs).2 h]
    rfl

end WideColumn.Text
