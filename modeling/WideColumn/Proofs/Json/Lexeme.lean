import Mathlib.Tactic.Common
import WideColumn.Json.Reader
import WideColumn.Json.Writer

/-!
# Strings and integers of a document

A written string is read back whatever follows it (`takeString_flatMap_escape`), and so is a
written integer, if what follows does not go on with a number (`takeNumeral_toString`). An integer
of 64 bits, signed or not, stays an integer (`value?_integerNumeral`).
-/

namespace WideColumn.Json

/-! ### Strings -/

theorem takeEscape_hexDigit {c : Char} (hc : c.toNat < 0x20) (rest : List Char) :
    takeEscape ('u' :: '0' :: '0' :: Text.hexDigit (c.toNat / 16) ::
      Text.hexDigit (c.toNat % 16) :: rest) = some (c, rest) := by
  have hhigh := Text.hexValue?_hexDigit (c.toNat / 16) (by omega)
  have hlow := Text.hexValue?_hexDigit (c.toNat % 16) (by omega)
  have hzero : Text.hexValue? '0' = some 0 := by decide
  have hvalue : ((0 * 16 + 0) * 16 + c.toNat / 16) * 16 + c.toNat % 16 = c.toNat := by omega
  have hunit : c.toNat < 0xD800 := by omega
  simp only [takeEscape, takeHex4, hzero, hhigh, hlow, Option.bind_eq_bind, Option.bind_some,
    Option.pure_def, hvalue, hunit, decide_true, Bool.true_or, if_true, Char.ofNat_toNat]

/-- A character is written as it is, or as a backslash and a mark that is read as the character. -/
theorem escape_cases (c : Char) :
    (escape c = [c] ∧ c ≠ '"' ∧ c ≠ '\\' ∧ ¬ c.toNat < 0x20) ∨
      ∃ mark, escape c = '\\' :: mark ∧ ∀ rest, takeEscape (mark ++ rest) = some (c, rest) := by
  have hcontrol : ∀ n : Nat, c.toNat = n → c = Char.ofNat n := by
    rintro n rfl
    exact (Char.ofNat_toNat c).symm
  unfold escape
  by_cases hquote : c = '"'
  · subst hquote
    exact .inr ⟨['"'], rfl, fun _ => rfl⟩
  by_cases hslash : c = '\\'
  · subst hslash
    exact .inr ⟨['\\'], rfl, fun _ => rfl⟩
  rw [if_neg hquote, if_neg hslash]
  by_cases hplain : 0x20 ≤ c.toNat
  · exact .inl ⟨if_pos hplain, hquote, hslash, by omega⟩
  rw [if_neg hplain]
  right
  -- five control characters have a letter of their own, the others are written by number
  split
  · next h => exact ⟨['b'], rfl, fun _ => by rw [hcontrol 8 h]; rfl⟩
  split
  · next h => exact ⟨['t'], rfl, fun _ => by rw [hcontrol 9 h]; rfl⟩
  split
  · next h => exact ⟨['n'], rfl, fun _ => by rw [hcontrol 10 h]; rfl⟩
  split
  · next h => exact ⟨['f'], rfl, fun _ => by rw [hcontrol 12 h]; rfl⟩
  split
  · next h => exact ⟨['r'], rfl, fun _ => by rw [hcontrol 13 h]; rfl⟩
  · exact ⟨_, rfl, takeEscape_hexDigit (by omega)⟩

theorem takeString_escape (c : Char) (fuel : Nat) (rest : List Char) :
    takeString (fuel + 1) (escape c ++ rest) =
      (takeString fuel rest).map fun (cs, rest) => (c :: cs, rest) := by
  rcases escape_cases c with ⟨hc, hquote, hslash, hplain⟩ | ⟨mark, hmark, hread⟩
  · rw [hc, List.singleton_append, takeString, if_neg hplain]
    · simpa using hquote
    · simpa using hslash
  · rw [hmark, List.cons_append, takeString, hread]
    simp only [Option.bind_eq_bind, Option.bind_some]
    cases takeString fuel rest <;> rfl

/-- A written string is read back up to its closing quote. -/
theorem takeString_flatMap_escape (s rest : List Char) {fuel : Nat} (hfuel : s.length < fuel) :
    takeString fuel (s.flatMap escape ++ '"' :: rest) = some (s, rest) := by
  induction s generalizing fuel with
  | nil =>
    cases fuel with
    | zero => cases hfuel
    | succ fuel => simp [takeString]
  | cons c s ih =>
    cases fuel with
    | zero => cases hfuel
    | succ fuel =>
      have hrest := ih (Nat.lt_of_succ_lt_succ hfuel)
      rw [List.flatMap_cons, List.append_assoc, takeString_escape, hrest, Option.map_some]

theorem length_le_length_flatMap_escape (s : List Char) :
    s.length ≤ (s.flatMap escape).length := by
  induction s with
  | nil => simp
  | cons c s ih =>
    have hc : 0 < (escape c).length := by
      rcases escape_cases c with ⟨hc, -⟩ | ⟨mark, hmark, -⟩
      · simp [hc]
      · simp [hmark]
    rw [List.flatMap_cons, List.length_append, List.length_cons]
    omega

theorem length_lt_length_stringChars (s : String) :
    s.toList.length < (stringChars s).length := by
  have hlength := length_le_length_flatMap_escape s.toList
  rw [stringChars, List.length_append, List.length_cons]
  omega

/-! ### Integers -/

/-- What follows does not go on with a number. -/
def EndsNumber (rest : List Char) : Prop :=
  ∀ c ∈ rest.head?, c.isDigit = false ∧ c ≠ '.' ∧ c ≠ 'e' ∧ c ≠ 'E'

/-- An integer of 64 bits, signed or unsigned. -/
def FitsWord (i : Int) : Prop := -(Nat.pow 2 63 : Int) ≤ i ∧ i < (Nat.pow 2 64 : Int)

theorem fitsWord_iff {i : Int} :
    FitsWord i ↔ -9223372036854775808 ≤ i ∧ i < 18446744073709551616 := Iff.rfl

instance (i : Int) : Decidable (FitsWord i) := inferInstanceAs (Decidable (_ ∧ _))

theorem toList_toString_ofNat (n : Nat) :
    (toString (Int.ofNat n)).toList = Nat.toDigits 10 n := Nat.toList_repr

theorem toList_toString_negSucc (n : Nat) :
    (toString (Int.negSucc n)).toList = '-' :: Nat.toDigits 10 (n + 1) := by
  show ("-" ++ (n + 1).repr).toList = _
  rw [String.toList_append, Nat.toList_repr]
  rfl

theorem isDigit_of_mem_toDigits {n : Nat} {c : Char} (h : c ∈ Nat.toDigits 10 n) :
    c.isDigit = true :=
  Nat.isDigit_of_mem_toDigits (by decide) (by decide) h

theorem exists_toDigits_eq_cons (n : Nat) :
    ∃ c digits, Nat.toDigits 10 n = c :: digits ∧ c.isDigit = true := by
  cases hdigits : Nat.toDigits 10 n with
  | nil => exact absurd hdigits Nat.toDigits_ne_nil
  | cons c digits =>
    have hmem : c ∈ Nat.toDigits 10 n := by simp [hdigits]
    exact ⟨c, digits, rfl, isDigit_of_mem_toDigits hmem⟩

/-- The text of an integer begins with a digit or with a sign. -/
theorem exists_toString_eq_cons (i : Int) :
    ∃ c rest, (toString i).toList = c :: rest ∧ (c.isDigit = true ∨ c = '-') := by
  cases i with
  | ofNat n =>
    obtain ⟨c, digits, hdigits, hc⟩ := exists_toDigits_eq_cons n
    exact ⟨c, digits, by rw [toList_toString_ofNat, hdigits], .inl hc⟩
  | negSucc n => exact ⟨'-', _, toList_toString_negSucc n, .inr rfl⟩

theorem takeDigits_append {digits rest : List Char} (hdigits : ∀ c ∈ digits, c.isDigit = true)
    (hrest : EndsNumber rest) : Decimal.takeDigits (digits ++ rest) = (digits, rest) := by
  have hspan : rest.takeWhile Char.isDigit = [] ∧ rest.dropWhile Char.isDigit = rest := by
    cases rest with
    | nil => exact ⟨rfl, rfl⟩
    | cons c rest => simp [(hrest c rfl).1]
  rw [Decimal.takeDigits, List.takeWhile_append_of_pos hdigits,
    List.dropWhile_append_of_pos hdigits, hspan.1, hspan.2, List.append_nil]

/-- Only zero has a leading zero. -/
theorem head?_toDigits_ne_zero {n : Nat} (hn : 0 < n) :
    (Nat.toDigits 10 n).head? ≠ some '0' := by
  induction n using Nat.strongRecOn with
  | ind n ih =>
    by_cases h : n < 10
    · have hdigit : ∀ k < 10, 0 < k → [Nat.digitChar k].head? ≠ some '0' := by decide
      rw [Nat.toDigits_of_lt_base h]
      exact hdigit n h hn
    · have hleading := ih (n / 10) (by omega) (by omega)
      obtain ⟨c, digits, hdigits, -⟩ := exists_toDigits_eq_cons (n / 10)
      rw [Nat.toDigits_of_base_le (by decide) (by omega), hdigits]
      simpa [hdigits] using hleading

theorem takeWhole_toDigits (n : Nat) {rest : List Char} (hrest : EndsNumber rest) :
    takeWhole (Nat.toDigits 10 n ++ rest) = some (Nat.toDigits 10 n, rest) := by
  have hdigits : ∀ c ∈ Nat.toDigits 10 n, c.isDigit = true := fun _ => isDigit_of_mem_toDigits
  have htake : takeDigits1 (Nat.toDigits 10 n ++ rest) = some (Nat.toDigits 10 n, rest) := by
    rw [takeDigits1, takeDigits_append hdigits hrest]
    split
    · next heq => exact absurd (congrArg Prod.fst heq) Nat.toDigits_ne_nil
    · next heq => rw [heq]
  rw [takeWhole, htake]
  split
  · next c digits _ heq =>
    have hzero : Nat.toDigits 10 n = '0' :: c :: digits := congrArg Prod.fst (Option.some.inj heq)
    rcases Nat.eq_zero_or_pos n with rfl | hn
    · rw [Nat.toDigits_zero] at hzero
      cases hzero
    · exact absurd (by rw [hzero]; rfl) (head?_toDigits_ne_zero hn)
  · rfl

theorem takeFraction_of_endsNumber {rest : List Char} (hrest : EndsNumber rest) :
    takeFraction rest = some (none, rest) := by
  cases rest with
  | nil => rfl
  | cons c rest => simp [takeFraction, (hrest c rfl).2.1]

theorem takeExponent_of_endsNumber {rest : List Char} (hrest : EndsNumber rest) :
    takeExponent rest = some (none, rest) := by
  cases rest with
  | nil => rfl
  | cons c rest =>
    obtain ⟨-, -, hlower, hupper⟩ := hrest c rfl
    simp [takeExponent, hlower, hupper]

/-- A number that begins with a digit has no sign. -/
theorem takeNumeral_of_isDigit {c : Char} (hc : c.isDigit = true) (rest : List Char) :
    takeNumeral (c :: rest) = do
      let (whole, rest) ← takeWhole (c :: rest)
      let (fraction, rest) ← takeFraction rest
      let (exponent, rest) ← takeExponent rest
      return (⟨false, whole, fraction, exponent⟩, rest) := by
  have hsign : c ≠ '-' := by
    rintro rfl
    exact absurd hc (by decide)
  simp [takeNumeral, hsign]

/-- The numeral that an integer is written as. -/
def integerNumeral (i : Int) : Numeral :=
  ⟨decide (i < 0), Nat.toDigits 10 i.natAbs, none, none⟩

/-- A written integer is read back as its digits. -/
theorem takeNumeral_toString (i : Int) {rest : List Char} (hrest : EndsNumber rest) :
    takeNumeral ((toString i).toList ++ rest) = some (integerNumeral i, rest) := by
  have hwhole := takeWhole_toDigits i.natAbs hrest
  have hfraction := takeFraction_of_endsNumber hrest
  have hexponent := takeExponent_of_endsNumber hrest
  cases i with
  | ofNat n =>
    obtain ⟨c, digits, hdigits, hc⟩ := exists_toDigits_eq_cons n
    rw [Int.ofNat_eq_natCast, Int.natAbs_natCast, hdigits, List.cons_append] at hwhole
    rw [toList_toString_ofNat, hdigits, List.cons_append, takeNumeral_of_isDigit hc]
    simp [hwhole, hfraction, hexponent, integerNumeral, hdigits]
  | negSucc n =>
    rw [Int.natAbs_negSucc] at hwhole
    rw [toList_toString_negSucc, List.cons_append, takeNumeral]
    simp [hwhole, hfraction, hexponent, integerNumeral]

theorem le_ofDigitChars (acc : Nat) (digits : List Char) :
    acc ≤ Nat.ofDigitChars 10 digits acc := by
  induction digits generalizing acc with
  | nil => simp
  | cons c digits ih =>
    have hrest := ih (10 * acc + (c.toNat - '0'.toNat))
    rw [Nat.ofDigitChars_cons]
    omega

/-- No digit is dropped if the whole number fits. -/
theorem clampDigits_eq {acc : Nat} {digits : List Char}
    (h : Nat.ofDigitChars 10 digits acc < UInt64.size) :
    clampDigits acc digits = (Nat.ofDigitChars 10 digits acc, 0) := by
  induction digits generalizing acc with
  | nil => simp [clampDigits]
  | cons c digits ih =>
    rw [Nat.ofDigitChars_cons] at h ⊢
    have hnext : 10 * acc + (c.toNat - '0'.toNat) < UInt64.size :=
      Nat.lt_of_le_of_lt (le_ofDigitChars _ _) h
    rw [clampDigits]
    simp only [hnext, if_true]
    exact ih h

theorem value?_integerNumeral {i : Int} (hi : FitsWord i) :
    (integerNumeral i).value? = some (.int i) := by
  obtain ⟨hlow, hhigh⟩ := fitsWord_iff.1 hi
  have hsize : UInt64.size = 18446744073709551616 ∧ Nat.pow 2 63 = 9223372036854775808 :=
    ⟨rfl, rfl⟩
  have hclamp : clampDigits 0 (Nat.toDigits 10 i.natAbs) = (i.natAbs, 0) := by
    rw [clampDigits_eq] <;> rw [Nat.ofDigitChars_ten_toDigits]
    omega
  simp only [integerNumeral, Numeral.value?, hclamp]
  by_cases hneg : i < 0
  · have hsigned : i.natAbs ≤ Nat.pow 2 63 := by omega
    have hpos : i.natAbs ≠ 0 := by omega
    have hvalue : -(i.natAbs : Int) = i := by omega
    simp only [hneg, decide_true, Bool.not_true, Bool.false_eq_true, ↓reduceIte, Nat.pow_eq,
      Nat.reducePow, hsigned, Bool.and_true, bne_iff_ne, ne_eq, hpos, not_false_eq_true, hvalue]
  · have hvalue : (i.natAbs : Int) = i := by omega
    simp only [hneg, decide_false, Bool.not_false, ↓reduceIte, hvalue]

end WideColumn.Json
