import WideColumn.Proofs.Json.Lexeme
import WideColumn.Query.Clause

/-!
# Literals of the query language

A number or a truth value is one token of the query language: digits with an optional sign, fraction
and exponent, or one of a few words. A value that is written into a statement is such a token unless
it is infinite or a decimal with some other text (`isToken_literal_iff`), and a token has none of
the characters that separate or quote (`isTokenChar_of_isToken`).
-/

namespace WideColumn

/-! ### Tokens -/

/-- How far a number has been read. -/
inductive NumberState where
  | start
  | sign
  | whole
  | fraction
  /-- After the letter that begins the exponent. -/
  | mark
  | exponentSign
  | exponent
deriving Repr, DecidableEq

namespace NumberState

/-- The next character of a number. -/
def next : NumberState → Char → Option NumberState
  | start, c => if c = '-' then some sign else if c.isDigit then some whole else none
  | sign, c => if c.isDigit then some whole else none
  | whole, c =>
    if c.isDigit then some whole
    else if c = '.' then some fraction
    else if c = 'e' ∨ c = 'E' then some mark
    else none
  | fraction, c =>
    if c.isDigit then some fraction
    else if c = 'e' ∨ c = 'E' then some mark
    else none
  | mark, c =>
    if c = '+' ∨ c = '-' then some exponentSign
    else if c.isDigit then some exponent
    else none
  | exponentSign, c | exponent, c => if c.isDigit then some exponent else none

/-- Whether a number may end here. -/
def isEnd : NumberState → Bool
  | whole | fraction | exponent => true
  | _ => false

/-- Whether the characters complete a number. -/
def accepts : NumberState → List Char → Bool
  | s, [] => s.isEnd
  | s, c :: rest =>
    match s.next c with
    | some s => s.accepts rest
    | none => false

end NumberState

/-- The constants that are words, in lower case. -/
def constantWords : List String :=
  ["true", "false", "nan", "-nan", "infinity", "-infinity"]

/-- Whether the text is a number or a truth value of the query language. Words may be written in
either case. -/
def isToken (text : String) : Bool :=
  NumberState.start.accepts text.toList ||
    constantWords.any fun word => text.toList.map Char.toLower == word.toList

/-- A letter, a digit, a sign or a point. -/
def isTokenChar (c : Char) : Bool := c.isAlphanum || ['+', '-', '.'].contains c

namespace NumberState

theorem isTokenChar_of_next {s s' : NumberState} {c : Char} (h : s.next c = some s') :
    isTokenChar c = true := by
  have hdigit : c.isDigit = true → isTokenChar c = true := fun h => by
    simp [isTokenChar, Char.isAlphanum, h]
  have hother : ∀ d : Char, isTokenChar d = true → c = d → isTokenChar c = true := by
    rintro d hd rfl
    exact hd
  have hsign := hother '-' (by decide)
  have hplus := hother '+' (by decide)
  have hpoint := hother '.' (by decide)
  have hlower := hother 'e' (by decide)
  have hupper := hother 'E' (by decide)
  cases s <;> simp only [next] at h <;> grind

theorem isTokenChar_of_accepts {s : NumberState} {cs : List Char} (h : s.accepts cs = true) :
    ∀ c ∈ cs, isTokenChar c = true := by
  induction cs generalizing s with
  | nil => simp
  | cons c rest ih =>
    rw [accepts] at h
    cases hnext : s.next c with
    | none => simp [hnext] at h
    | some s' =>
      rw [hnext] at h
      exact List.forall_mem_cons.2 ⟨isTokenChar_of_next hnext, ih h⟩

end NumberState

theorem isUpper_or_toLower_eq (c : Char) : c.isUpper = true ∨ c.toLower = c := by
  unfold Char.toLower
  split
  · next hupper => exact .inl (decide_eq_true hupper)
  · exact .inr rfl

/-- A token has none of the characters that separate or quote. -/
theorem isTokenChar_of_isToken {text : String} (h : isToken text = true) :
    ∀ c ∈ text.toList, isTokenChar c = true := by
  rcases Bool.or_eq_true_iff.1 h with h | h
  · exact NumberState.isTokenChar_of_accepts h
  · intro c hc
    obtain ⟨word, hword, htext⟩ := List.any_eq_true.1 h
    have hall : constantWords.all (fun word => word.toList.all isTokenChar) = true := by decide
    have hlower : c.toLower ∈ word.toList := by
      rw [← eq_of_beq htext]
      exact List.mem_map_of_mem hc
    rcases isUpper_or_toLower_eq c with hupper | hsame
    · have halpha : c.isAlpha = true := Bool.or_eq_true_iff.2 (.inl hupper)
      simp [isTokenChar, Char.isAlphanum, halpha]
    · rw [hsame] at hlower
      exact List.all_eq_true.1 (List.all_eq_true.1 hall word hword) c hlower

example : ["-1.50e3", "1.", "TRUE", "NaN"].all isToken = true ∧
    ["+5", ".5", "1e", "inf", "1 AND b=2"].any isToken = false := by decide

/-! ### Numbers -/

/-- Digits, at least one, which may be followed by a point and more digits. -/
inductive IsUnsigned : List Char → Prop
  | whole {ds : List Char} (hne : ds ≠ []) (hds : ∀ c ∈ ds, c.isDigit = true) : IsUnsigned ds
  | fraction {ds fs : List Char} (hne : ds ≠ []) (hds : ∀ c ∈ ds, c.isDigit = true)
    (hfs : ∀ c ∈ fs, c.isDigit = true) : IsUnsigned (ds ++ '.' :: fs)

namespace NumberState

variable {ds rest : List Char}

theorem accepts_digits {s : NumberState} (hs : s = whole ∨ s = fraction)
    (hds : ∀ c ∈ ds, c.isDigit = true) (rest : List Char) :
    s.accepts (ds ++ rest) = s.accepts rest := by
  induction ds with
  | nil => rfl
  | cons c ds ih =>
    obtain ⟨hc, hds⟩ := List.forall_mem_cons.1 hds
    have hnext : s.next c = some s := by rcases hs with rfl | rfl <;> simp [next, hc]
    rw [List.cons_append, accepts, hnext]
    exact ih hds

theorem accepts_first_digits {s : NumberState} (hs : s = start ∨ s = sign) (hne : ds ≠ [])
    (hds : ∀ c ∈ ds, c.isDigit = true) (rest : List Char) :
    s.accepts (ds ++ rest) = whole.accepts rest := by
  cases ds with
  | nil => exact absurd rfl hne
  | cons c ds =>
    obtain ⟨hc, hds⟩ := List.forall_mem_cons.1 hds
    have hsign : c ≠ '-' := by
      rintro rfl
      exact absurd hc (by decide)
    have hnext : s.next c = some whole := by rcases hs with rfl | rfl <;> simp [next, hc, hsign]
    rw [List.cons_append, accepts, hnext]
    exact accepts_digits (.inl rfl) hds rest

theorem accepts_unsigned {s : NumberState} (hs : s = start ∨ s = sign) {cs : List Char}
    (h : IsUnsigned cs) : s.accepts cs = true := by
  cases h with
  | whole hne hds =>
    have hread := accepts_first_digits hs hne hds []
    rw [List.append_nil] at hread
    rw [hread]
    rfl
  | @fraction ds fs hne hds hfs =>
    have hread := accepts_digits (.inr rfl) hfs []
    rw [List.append_nil] at hread
    rw [accepts_first_digits hs hne hds]
    show accepts fraction fs = true
    rw [hread]
    rfl

end NumberState

/-- A number may have a sign. -/
theorem isToken_signed {text : String} (negative : Bool) (h : IsUnsigned text.toList) :
    isToken (if negative then "-" ++ text else text) = true := by
  cases negative with
  | false => exact Bool.or_eq_true_iff.2 (.inl (NumberState.accepts_unsigned (.inl rfl) h))
  | true =>
    refine Bool.or_eq_true_iff.2 (.inl ?_)
    have hchars : ("-" ++ text).toList = '-' :: text.toList := by simp
    rw [if_pos rfl, hchars]
    exact NumberState.accepts_unsigned (.inr rfl) h

theorem isUnsigned_digits (n : Nat) : IsUnsigned (Nat.toDigits 10 n) :=
  .whole Nat.toDigits_ne_nil fun _ hc => Json.isDigit_of_mem_toDigits hc

theorem isToken_integer (i : Int) : isToken (toString i) = true := by
  cases i with
  | ofNat n =>
    apply isToken_signed false
    rw [Json.toList_toString_ofNat]
    exact isUnsigned_digits n
  | negSucc n =>
    have hdigits : (toString (n + 1)).toList = Nat.toDigits 10 (n + 1) := Nat.toList_repr
    show isToken (if true then "-" ++ toString (n + 1) else toString (n + 1)) = true
    apply isToken_signed
    rw [hdigits]
    exact isUnsigned_digits (n + 1)

/-! ### Floating point numbers -/

namespace Decimal

/-- Whether a bit pattern stands for one of the two infinities. -/
def Parts.isInfinite : Parts → Bool
  | .infinite _ => true
  | _ => false

theorem isDigit_of_mem_zeros {n : Nat} {c : Char} (h : c ∈ List.replicate n '0') :
    c.isDigit = true := by
  rw [List.eq_of_mem_replicate h]
  rfl

/-- Positional form is a number without a sign. -/
theorem isUnsigned_writePositional (d : Digits) :
    IsUnsigned (Value.numberLayout.writePositional d).toList := by
  have hne : Nat.toDigits 10 d.coefficient ≠ [] := Nat.toDigits_ne_nil
  have hdigits : ∀ c ∈ Nat.toDigits 10 d.coefficient, c.isDigit = true := fun _ hc =>
    Json.isDigit_of_mem_toDigits hc
  unfold Layout.writePositional
  dsimp only
  split
  · simp only [digitText, zeros, Value.numberLayout, Bool.false_eq_true, if_false,
      String.toList_append, String.toList_ofList, String.toList_empty, List.append_nil]
    refine .whole (List.append_ne_nil_of_left_ne_nil hne _) ?_
    exact List.forall_mem_append.2 ⟨hdigits, fun _ hc => isDigit_of_mem_zeros hc⟩
  · have hpoint : (".").toList = ['.'] := by decide
    split
    · next hplaces =>
      simp only [String.toList_append, String.toList_ofList, hpoint, List.append_assoc,
        List.cons_append, List.nil_append]
      refine .fraction ?_ (fun c hc => hdigits c (List.mem_of_mem_take hc))
        fun c hc => hdigits c (List.mem_of_mem_drop hc)
      rw [ne_eq, List.take_eq_nil_iff, not_or]
      exact ⟨by omega, hne⟩
    · have hzero : ("0.").toList = ['0'] ++ ['.'] := by decide
      simp only [zeros, String.toList_append, String.toList_ofList, hzero,
        List.cons_append, List.nil_append]
      have hdigit : ∀ c ∈ ['0'], c.isDigit = true := List.all_eq_true.1 (by decide)
      refine .fraction (List.cons_ne_nil _ _) hdigit ?_
      exact List.forall_mem_append.2 ⟨fun _ hc => isDigit_of_mem_zeros hc, hdigits⟩

/-- A finite number is written in positional form, after its sign. -/
theorem exists_write_eq {f : BinaryFormat} {bits significand : Nat} {negative : Bool}
    {exponent : Int} (h : parts f bits = .finite negative significand exponent) :
    ∃ d, Value.numberLayout.write f bits =
      if negative then "-" ++ Value.numberLayout.writePositional d
      else Value.numberLayout.writePositional d := by
  unfold Layout.write
  rw [h]
  cases significand with
  | zero => exact ⟨⟨0, 0⟩, rfl⟩
  | succ n => exact ⟨shortest f .up (n + 1) exponent, rfl⟩

/-- A floating point number is written as one token unless it is infinite. -/
theorem isToken_write_iff (f : BinaryFormat) (bits : Nat) :
    isToken (Value.numberLayout.write f bits) = true ↔ (parts f bits).isInfinite = false := by
  cases hparts : parts f bits with
  | nan =>
    have hword : isToken "NaN" = true := by decide
    simp [Layout.write, hparts, Value.numberLayout, hword, Parts.isInfinite]
  | infinite negative =>
    have hword : isToken "inf" = false ∧ isToken "-inf" = false := by decide
    cases negative <;> simp [Layout.write, hparts, Value.numberLayout, hword, Parts.isInfinite]
  | finite negative significand exponent =>
    obtain ⟨d, hwrite⟩ := exists_write_eq hparts
    rw [hwrite, isToken_signed negative (isUnsigned_writePositional d)]
    exact iff_of_true rfl rfl

theorem isTokenChar_write (f : BinaryFormat) (bits : Nat) :
    ∀ c ∈ (Value.numberLayout.write f bits).toList, isTokenChar c = true := by
  cases hinfinite : (parts f bits).isInfinite with
  | false => exact isTokenChar_of_isToken ((isToken_write_iff f bits).2 hinfinite)
  | true =>
    have hwords : "inf".toList.all isTokenChar = true ∧
        ("-" ++ "inf").toList.all isTokenChar = true := by decide
    unfold Parts.isInfinite at hinfinite
    split at hinfinite
    · next negative hparts =>
      simp only [Layout.write, hparts, Value.numberLayout]
      split
      · exact List.all_eq_true.1 hwords.2
      · exact List.all_eq_true.1 hwords.1
    · cases hinfinite

end Decimal

/-! ### Values -/

namespace Value

/-- Whether a value is written as one token, if it is written: an infinite number is not, and a
decimal only if its text is one. -/
def isOneToken : Value → Bool
  | .float x => !(Decimal.parts .single x.toBits.toNat).isInfinite
  | .double x => !(Decimal.parts .double x.toBits.toNat).isInfinite
  | .decimal s => isToken s
  | _ => true

/-- The literal of a value is a token exactly if the value is written as one. -/
theorem isToken_literal_iff {v : Value} {text : String} (h : v.literal? = some text) :
    isToken text = true ↔ v.isOneToken = true := by
  cases v with
  | bool b =>
    have hwords : isToken "true" = true ∧ isToken "false" = true := by decide
    cases b
    · obtain rfl := Option.some.inj h
      exact iff_of_true hwords.2 rfl
    · obtain rfl := Option.some.inj h
      exact iff_of_true hwords.1 rfl
  | int i | bigint i =>
    obtain rfl := Option.some.inj h
    exact iff_of_true (isToken_integer _) rfl
  | float x | double x =>
    obtain rfl := Option.some.inj h
    rw [isOneToken, Bool.not_eq_true']
    exact Decimal.isToken_write_iff _ _
  | decimal s =>
    obtain rfl := Option.some.inj h
    rfl
  | _ => cases h

/-- Whether this is a decimal with a text that is not a number. -/
def isLoose : Value → Bool
  | .decimal s => !isToken s
  | _ => false

/-- Only a loose decimal brings other characters into a statement than those of numbers and
words. -/
theorem isTokenChar_literal {v : Value} {text : String} (h : v.literal? = some text)
    (hloose : v.isLoose = false) : ∀ c ∈ text.toList, isTokenChar c = true := by
  cases v with
  | float x | double x =>
    obtain rfl := Option.some.inj h
    exact Decimal.isTokenChar_write _ _
  | decimal s =>
    obtain rfl := Option.some.inj h
    exact isTokenChar_of_isToken (by simpa [isLoose] using hloose)
  | _ => exact isTokenChar_of_isToken ((isToken_literal_iff h).2 rfl)

end Value

end WideColumn
