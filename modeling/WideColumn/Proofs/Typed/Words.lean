import Mathlib.Data.List.Basic
import WideColumn.Proofs.Marker.Scan
import WideColumn.Text.Blank
import WideColumn.Text.Word

/-!
# Words of a text

What the searches for words find, told by the parts of the text: a pattern is found as a word
where the text splits into what is before it, the word, which folds like the pattern, and what is
after it, and no word character stands next to it (`containsWord_iff`). A word of a text that is cut
between words is a word of one of the two parts (`HasWord.of_append`).
-/

namespace WideColumn.Text

/-- The texts are equal in any case. -/
def Folds (pattern cs : List Char) : Prop := cs.map foldChar = pattern.map foldChar

/-- No word goes on past the end of a text. -/
def EndsWord (cs : List Char) : Prop := cs.getLast?.any isWordChar = false

/-- No word goes on before the front of a text. -/
def StartsWord (cs : List Char) : Prop := cs.head?.any isWordChar = false

instance (pattern cs : List Char) : Decidable (Folds pattern cs) :=
  inferInstanceAs (Decidable (cs.map foldChar = pattern.map foldChar))

instance (cs : List Char) : Decidable (EndsWord cs) :=
  inferInstanceAs (Decidable (cs.getLast?.any isWordChar = false))

instance (cs : List Char) : Decidable (StartsWord cs) :=
  inferInstanceAs (Decidable (cs.head?.any isWordChar = false))

/-- The text has the pattern as a whole word, in any case. -/
def HasWord (pattern cs : List Char) : Prop :=
  ∃ before word after, cs = before ++ word ++ after ∧ Folds pattern word ∧ EndsWord before ∧
    StartsWord after

/-- The text has the two patterns as words, in any case, with nothing but blanks between them. -/
def HasWords (first second cs : List Char) : Prop :=
  ∃ before word blanks next after, cs = before ++ word ++ blanks ++ next ++ after ∧
    Folds first word ∧ Folds second next ∧ blanks ≠ [] ∧ (∀ c ∈ blanks, isBlankChar c = true) ∧
    EndsWord before ∧ StartsWord after

/-- A pattern of letters, digits and underscores. -/
structure IsWord (pattern : List Char) : Prop where
  nonempty : pattern ≠ []
  letters : ∀ p ∈ pattern, isNameChar p = true

/-! ### Characters -/

/-- No run reaches from the characters beyond ASCII back into ASCII, apart from the long s and the
Kelvin sign. -/
theorem low_of_mem_foldRuns : ∀ run ∈ foldRuns, run.2.1 < 0x80 ∨
    0x80 ≤ (run.1 : Int) + run.2.2.2 ∨ run.1 = run.2.1 ∧ (run.1 = 0x17F ∨ run.1 = 0x212A) := by
  decide +kernel

/-- Of the characters beyond ASCII, only the long s and the Kelvin sign fold into ASCII. -/
theorem eq_of_moveBy_foldRuns {n : Nat} (hn : 0x80 ≤ n) (hlow : moveBy foldRuns n < 0x80) :
    n = 0x17F ∨ n = 0x212A := by
  unfold moveBy at hlow
  split at hlow
  · next lo hi step delta hfind =>
    have hrun := List.find?_some hfind
    simp only [Bool.and_eq_true, decide_eq_true_eq] at hrun
    have hcases := low_of_mem_foldRuns _ (List.mem_of_find?_eq_some hfind)
    dsimp only at hcases
    omega
  · omega

/-- Folding keeps the letters, digits and underscores of ASCII among themselves. -/
theorem ascii_fold : ∀ n < 0x80, isNameChar (Char.ofNat n).toLower = isNameChar (Char.ofNat n) ∧
    (isNameChar (Char.ofNat n) = true →
      0 < (Char.ofNat n).toLower.toNat ∧ (Char.ofNat n).toLower.toNat < 0x80) := by
  decide +kernel

theorem toNat_lt_of_isNameChar {c : Char} (h : isNameChar c = true) : c.toNat < 0x80 := by
  have hbound {last : UInt32} (hlast : last.toNat < 0x80) (hle : c.val ≤ last) : c.toNat < 0x80 :=
    Nat.lt_of_le_of_lt (UInt32.le_iff_toNat_le.1 hle) hlast
  rcases Bool.or_eq_true_iff.1 h with halphanum | hunderscore
  · rcases Bool.or_eq_true_iff.1 halphanum with halpha | hdigit
    · rcases Bool.or_eq_true_iff.1 halpha with hupper | hlower
      · exact hbound (by decide) (of_decide_eq_true hupper).2
      · exact hbound (by decide) (of_decide_eq_true (Bool.and_eq_true_iff.1 hlower).2)
    · exact hbound (by decide) (of_decide_eq_true (Bool.and_eq_true_iff.1 hdigit).2)
  · rw [of_decide_eq_true hunderscore]
    decide

/-- Whatever folds like a letter, a digit or an underscore is a word character. -/
theorem isWordChar_of_foldChar_eq {p c : Char} (hp : isNameChar p = true)
    (h : foldChar c = foldChar p) : isWordChar c = true := by
  have hpLow := toNat_lt_of_isNameChar hp
  obtain ⟨hpKept, hpBounds⟩ := ascii_fold p.toNat hpLow
  rw [Char.ofNat_toNat] at hpKept hpBounds
  rw [show foldChar p = p.toLower from if_pos hpLow] at h
  by_cases hc : c.toNat < 0x80
  · rw [show foldChar c = c.toLower from if_pos hc] at h
    have hcKept := (ascii_fold c.toNat hc).1
    rw [Char.ofNat_toNat, h, hpKept, hp] at hcKept
    have hname : c.isAlphanum = true ∨ c = '_' := by simpa [isNameChar] using hcKept.symm
    rcases hname with halphanum | rfl
    · exact isWordChar_of_isAlphanum c halphanum
    · rfl
  · rw [show foldChar c = Char.ofNat (moveBy foldRuns c.toNat) from if_neg hc] at h
    have hcode : moveBy foldRuns c.toNat = p.toLower.toNat := by
      by_cases hvalid : (moveBy foldRuns c.toNat).isValidChar
      · rw [← h, show Char.ofNat _ = Char.ofNatAux _ hvalid from dif_pos hvalid]
        rfl
      · -- what is no character stands for the null character, which is no letter
        have hnull : p.toLower = Char.ofNat 0 := by
          rw [← h]
          exact dif_neg hvalid
        exact absurd (hpBounds hp).1 (by rw [hnull]; decide)
    have hlow : moveBy foldRuns c.toNat < 0x80 := hcode ▸ (hpBounds hp).2
    rw [← Char.ofNat_toNat c]
    rcases eq_of_moveBy_foldRuns (Nat.not_lt.1 hc) hlow with hcode | hcode <;> rw [hcode] <;>
      decide +kernel

theorem isWordChar_of_folds {pattern word : List Char} (hpattern : IsWord pattern)
    (h : Folds pattern word) : ∀ c ∈ word, isWordChar c = true := by
  intro c hc
  have hmem : foldChar c ∈ pattern.map foldChar := h ▸ List.mem_map_of_mem hc
  obtain ⟨p, hp, hfold⟩ := List.mem_map.1 hmem
  exact isWordChar_of_foldChar_eq (hpattern.letters p hp) hfold.symm

theorem Folds.ne_nil {pattern word : List Char} (hpattern : IsWord pattern)
    (h : Folds pattern word) : word ≠ [] := by
  rintro rfl
  exact hpattern.nonempty (List.map_eq_nil_iff.1 h.symm)

/-- No blank belongs to a word. -/
theorem isWordChar_of_isBlankChar {c : Char} (h : isBlankChar c = true) : isWordChar c = false := by
  have hblanks : ∀ range ∈ blankRanges, ∀ n ∈ List.range' range.1 (range.2 + 1 - range.1),
      isWordChar (Char.ofNat n) = false := by
    decide +kernel
  obtain ⟨⟨lo, hi⟩, hmem, hrange⟩ := List.any_eq_true.1 h
  simp only [Bool.and_eq_true, decide_eq_true_eq] at hrange
  rw [← Char.ofNat_toNat c]
  exact hblanks _ hmem _ (List.mem_range'_1.2 ⟨hrange.1, by dsimp only; omega⟩)

/-! ### Searches -/

/-- A search finds a cut of the text after which the rest is accepted. -/
theorem anyPosition_iff {holds : Option Char → List Char → Bool} {before : Option Char}
    {cs : List Char} : anyPosition holds before cs = true ↔
      ∃ front rest, cs = front ++ rest ∧ holds (front.getLast?.or before) rest = true := by
  induction cs generalizing before with
  | nil => simp [anyPosition]
  | cons c cs ih =>
    rw [anyPosition, Bool.or_eq_true, ih]
    constructor
    · rintro (h | ⟨front, rest, rfl, h⟩)
      · exact ⟨[], c :: cs, rfl, h⟩
      · exact ⟨c :: front, rest, rfl, by simpa [List.getLast?_cons] using h⟩
    · rintro ⟨front, rest, hcs, h⟩
      cases front with
      | nil =>
        obtain rfl : c :: cs = rest := hcs
        exact .inl h
      | cons d front =>
        obtain ⟨rfl, rfl⟩ := List.cons.inj hcs
        exact .inr ⟨front, rest, rfl, by simpa [List.getLast?_cons] using h⟩

/-- The pattern stands at the front of the text when the text begins with a word that folds like
it. -/
theorem matchFolded_eq_some_iff {pattern cs rest : List Char} {before last : Option Char} :
    matchFolded before pattern cs = some (last, rest) ↔
      ∃ word, cs = word ++ rest ∧ Folds pattern word ∧ last = word.getLast?.or before := by
  induction pattern generalizing before cs with
  | nil =>
    simp only [matchFolded, Option.some.injEq, Prod.mk.injEq, Folds, List.map_nil,
      List.map_eq_nil_iff]
    constructor
    · rintro ⟨rfl, rfl⟩
      exact ⟨[], rfl, rfl, rfl⟩
    · rintro ⟨word, rfl, rfl, rfl⟩
      exact ⟨rfl, rfl⟩
  | cons p pattern ih =>
    cases cs with
    | nil =>
      simp only [matchFolded, reduceCtorEq, false_iff]
      rintro ⟨word, hcs, hfolds, -⟩
      obtain ⟨rfl, -⟩ := List.append_eq_nil_iff.1 hcs.symm
      cases hfolds
    | cons c cs =>
      rw [matchFolded]
      constructor
      · intro h
        split at h
        · next hpc =>
          obtain ⟨word, rfl, hfolds, rfl⟩ := ih.1 h
          refine ⟨c :: word, rfl, ?_, by simp [List.getLast?_cons]⟩
          rw [Folds, List.map_cons, List.map_cons, hfolds, hpc]
        · cases h
      · rintro ⟨word, hcs, hfolds, hlast⟩
        cases word with
        | nil => cases hfolds
        | cons d word =>
          obtain ⟨rfl, rfl⟩ := List.cons.inj hcs
          obtain ⟨hpc, hfolds⟩ := List.cons.inj hfolds
          rw [if_pos hpc.symm]
          exact ih.2 ⟨word, rfl, hfolds, by simpa [List.getLast?_cons] using hlast⟩

section

variable {pattern first second word cs : List Char} {before : Option Char}

theorem getLast?_any_of_folds (hpattern : IsWord pattern) (h : Folds pattern word) :
    (word.getLast?.or before).any isWordChar = true := by
  have hlast := List.getLast?_eq_some_getLast (h.ne_nil hpattern)
  rw [hlast]
  exact isWordChar_of_folds hpattern h _ (List.getLast_mem _)

theorem head?_any_of_folds (hpattern : IsWord pattern) (h : Folds pattern word)
    (after : List Char) : (word ++ after).head?.any isWordChar = true := by
  obtain ⟨c, rest, rfl⟩ := List.exists_cons_of_ne_nil (h.ne_nil hpattern)
  exact isWordChar_of_folds hpattern h c List.mem_cons_self

/-- A word ends where no word character follows it. -/
theorem startsWithWordEnd_iff (hpattern : IsWord pattern) :
    startsWithWordEnd before pattern cs = true ↔
      ∃ word after, cs = word ++ after ∧ Folds pattern word ∧ StartsWord after := by
  unfold startsWithWordEnd
  constructor
  · intro h
    split at h
    · next last rest hmatch =>
      obtain ⟨word, rfl, hfolds, rfl⟩ := matchFolded_eq_some_iff.1 hmatch
      rw [isBoundary, getLast?_any_of_folds hpattern hfolds] at h
      exact ⟨word, rest, rfl, hfolds, by simpa [StartsWord] using h⟩
    · cases h
  · rintro ⟨word, after, rfl, hfolds, hafter⟩
    rw [matchFolded_eq_some_iff.2 ⟨word, rfl, hfolds, rfl⟩]
    dsimp only
    rw [isBoundary, getLast?_any_of_folds hpattern hfolds, hafter]
    rfl

/-- A word begins where no word character is before it. -/
theorem isBoundary_iff_of_folds (hpattern : IsWord pattern) (h : Folds pattern word)
    (front after : List Char) :
    isBoundary (front.getLast?.or none) (word ++ after).head? = true ↔ EndsWord front := by
  rw [isBoundary, head?_any_of_folds hpattern h, Option.or_none, EndsWord]
  simp

/-- The search for a word finds exactly the words of the text. -/
theorem containsWord_iff (hpattern : IsWord pattern) :
    containsWord pattern cs = true ↔ HasWord pattern cs := by
  rw [containsWord, anyPosition_iff]
  constructor
  · rintro ⟨front, rest, rfl, h⟩
    obtain ⟨hbegin, hend⟩ := Bool.and_eq_true_iff.1 h
    obtain ⟨word, after, rfl, hfolds, hafter⟩ := (startsWithWordEnd_iff hpattern).1 hend
    exact ⟨front, word, after, (List.append_assoc _ _ _).symm, hfolds,
      (isBoundary_iff_of_folds hpattern hfolds front after).1 hbegin, hafter⟩
  · rintro ⟨front, word, after, rfl, hfolds, hfront, hafter⟩
    refine ⟨front, word ++ after, List.append_assoc _ _ _, Bool.and_eq_true_iff.2 ⟨?_, ?_⟩⟩
    · exact (isBoundary_iff_of_folds hpattern hfolds front after).2 hfront
    · exact (startsWithWordEnd_iff hpattern).2 ⟨word, after, rfl, hfolds, hafter⟩

theorem startsWithBlanksAnd_iff (hpattern : IsWord pattern) :
    startsWithBlanksAnd pattern cs = true ↔
      ∃ blanks word after, cs = blanks ++ word ++ after ∧ Folds pattern word ∧ blanks ≠ [] ∧
        (∀ c ∈ blanks, isBlankChar c = true) ∧ StartsWord after := by
  induction cs with
  | nil =>
    simp only [startsWithBlanksAnd, Bool.false_eq_true, false_iff]
    rintro ⟨blanks, word, after, hcs, -, hblanks, -⟩
    exact hblanks (List.append_eq_nil_iff.1 (List.append_eq_nil_iff.1 hcs.symm).1).1
  | cons c cs ih =>
    rw [startsWithBlanksAnd, Bool.and_eq_true, Bool.or_eq_true, startsWithWordEnd_iff hpattern, ih]
    constructor
    · rintro ⟨hc, ⟨word, after, rfl, hfolds, hafter⟩ |
        ⟨blanks, word, after, rfl, hfolds, -, h, hafter⟩⟩
      · exact ⟨[c], word, after, rfl, hfolds, List.cons_ne_nil _ _, by simpa using hc, hafter⟩
      · exact ⟨c :: blanks, word, after, rfl, hfolds, List.cons_ne_nil _ _,
          List.forall_mem_cons.2 ⟨hc, h⟩, hafter⟩
    · rintro ⟨blanks, word, after, hcs, hfolds, hne, hblanks, hafter⟩
      obtain ⟨b, blanks, rfl⟩ := List.exists_cons_of_ne_nil hne
      obtain ⟨rfl, rfl⟩ := List.cons.inj hcs
      obtain ⟨hc, hblanks⟩ := List.forall_mem_cons.1 hblanks
      refine ⟨hc, ?_⟩
      by_cases hnil : blanks = []
      · subst hnil
        exact .inl ⟨word, after, rfl, hfolds, hafter⟩
      · exact .inr ⟨blanks, word, after, rfl, hfolds, hnil, hblanks, hafter⟩

/-- The search for two words finds exactly those that follow one another. -/
theorem containsWords_iff (hfirst : IsWord first) (hsecond : IsWord second) :
    containsWords first second cs = true ↔ HasWords first second cs := by
  rw [containsWords, anyPosition_iff]
  constructor
  · rintro ⟨front, rest, rfl, h⟩
    obtain ⟨hbegin, hend⟩ := Bool.and_eq_true_iff.1 h
    split at hend
    · next last rest' hmatch =>
      obtain ⟨word, rfl, hfolds, -⟩ := matchFolded_eq_some_iff.1 hmatch
      obtain ⟨blanks, next, after, rfl, hnext, hne, hblanks, hafter⟩ :=
        (startsWithBlanksAnd_iff hsecond).1 hend
      exact ⟨front, word, blanks, next, after, by simp, hfolds, hnext, hne, hblanks,
        (isBoundary_iff_of_folds hfirst hfolds front _).1 hbegin, hafter⟩
    · cases hend
  · rintro ⟨front, word, blanks, next, after, rfl, hfolds, hnext, hne, hblanks, hfront, hafter⟩
    refine ⟨front, word ++ (blanks ++ next ++ after), by simp, Bool.and_eq_true_iff.2 ⟨?_, ?_⟩⟩
    · exact (isBoundary_iff_of_folds hfirst hfolds front _).2 hfront
    · rw [matchFolded_eq_some_iff.2 ⟨word, rfl, hfolds, rfl⟩]
      exact (startsWithBlanksAnd_iff hsecond).2
        ⟨blanks, next, after, rfl, hnext, hne, hblanks, hafter⟩

/-! ### Cuts between words -/

theorem EndsWord.of_append {a b : List Char} (h : EndsWord (a ++ b)) : EndsWord b := by
  cases hb : b.getLast? with
  | none => simp [EndsWord, hb]
  | some c => simpa [EndsWord, hb] using h

theorem StartsWord.of_append {a b : List Char} (h : StartsWord (a ++ b)) : StartsWord a := by
  cases a with
  | nil => rfl
  | cons c a => exact h

theorem not_endsWord (hne : word ≠ []) (hletters : ∀ c ∈ word, isWordChar c = true)
    (front : List Char) : ¬ EndsWord (front ++ word) := by
  intro hends
  have hword := hends.of_append
  rw [EndsWord, List.getLast?_eq_some_getLast hne, Option.any_some,
    hletters _ (List.getLast_mem hne)] at hword
  cases hword

theorem not_startsWord (hne : word ≠ []) (hletters : ∀ c ∈ word, isWordChar c = true)
    (after : List Char) : ¬ StartsWord (word ++ after) := by
  intro hstarts
  obtain ⟨c, rest, rfl⟩ := List.exists_cons_of_ne_nil hne
  rw [StartsWord, List.cons_append, List.head?_cons, Option.any_some,
    hletters c List.mem_cons_self] at hstarts
  cases hstarts

variable {a b : List Char}

theorem HasWord.append_left (hpattern : IsWord pattern) (h : HasWord pattern a)
    (hcut : EndsWord a ∨ StartsWord b) : HasWord pattern (a ++ b) := by
  obtain ⟨front, word, after, rfl, hfolds, hfront, hafter⟩ := h
  refine ⟨front, word, after ++ b, by simp, hfolds, hfront, ?_⟩
  cases after with
  | nil =>
    rw [List.append_nil] at hcut
    exact hcut.resolve_left
      (not_endsWord (hfolds.ne_nil hpattern) (isWordChar_of_folds hpattern hfolds) front)
  | cons c after => exact hafter

theorem HasWord.append_right (hpattern : IsWord pattern) (h : HasWord pattern b)
    (hcut : EndsWord a ∨ StartsWord b) : HasWord pattern (a ++ b) := by
  obtain ⟨front, word, after, rfl, hfolds, hfront, hafter⟩ := h
  refine ⟨a ++ front, word, after, by simp, hfolds, ?_, hafter⟩
  cases hlast : front.getLast? with
  | none =>
    obtain rfl := List.getLast?_eq_none_iff.1 hlast
    rw [List.append_nil]
    exact hcut.resolve_right
      (not_startsWord (hfolds.ne_nil hpattern) (isWordChar_of_folds hpattern hfolds) after)
  | some c => simpa [EndsWord, hlast] using hfront

/-- A word of a text that is cut between words lies in one of the two parts. -/
theorem HasWord.of_append (hpattern : IsWord pattern) (h : HasWord pattern (a ++ b))
    (hcut : EndsWord a ∨ StartsWord b) : HasWord pattern a ∨ HasWord pattern b := by
  obtain ⟨front, word, after, hcs, hfolds, hfront, hafter⟩ := h
  rcases List.append_eq_append_iff.1 hcs with ⟨past, hpast, rfl⟩ | ⟨past, rfl, rfl⟩
  · rcases List.append_eq_append_iff.1 hpast with ⟨inner, rfl, rfl⟩ | ⟨inner, rfl, rfl⟩
    · -- the word begins in the first part; if it goes on in the second one, it crosses the cut
      have hletters := isWordChar_of_folds hpattern hfolds
      by_cases hinner : inner = []
      · subst hinner
        exact .inr ⟨[], past, after, rfl, hfolds, rfl, hafter⟩
      by_cases hpast : past = []
      · subst hpast
        rw [List.append_nil] at hfolds
        exact .inl ⟨front, inner, [], by simp, hfolds, hfront, rfl⟩
      obtain ⟨hinnerLetters, hpastLetters⟩ := List.forall_mem_append.1 hletters
      exact absurd hcut (not_or.2
        ⟨not_endsWord hinner hinnerLetters front, not_startsWord hpast hpastLetters after⟩)
    · exact .inr ⟨inner, word, after, by simp, hfolds, hfront.of_append, hafter⟩
  · exact .inl ⟨front, word, past, rfl, hfolds, hfront, hafter.of_append⟩

theorem hasWord_append_iff (hpattern : IsWord pattern) (hcut : EndsWord a ∨ StartsWord b) :
    HasWord pattern (a ++ b) ↔ HasWord pattern a ∨ HasWord pattern b :=
  ⟨fun h => h.of_append hpattern hcut, fun h => h.elim (fun h => h.append_left hpattern hcut)
    fun h => h.append_right hpattern hcut⟩

/-- A text of word characters alone has no other word than itself. -/
theorem hasWord_iff_of_letters (hletters : ∀ c ∈ cs, isWordChar c = true) :
    HasWord pattern cs ↔ Folds pattern cs := by
  constructor
  · rintro ⟨front, word, after, rfl, hfolds, hfront, hafter⟩
    obtain ⟨hleft, hafterLetters⟩ := List.forall_mem_append.1 hletters
    obtain ⟨hfrontLetters, -⟩ := List.forall_mem_append.1 hleft
    have hfrontNil : front = [] := by
      by_contra hne
      exact not_endsWord hne hfrontLetters [] hfront
    have hafterNil : after = [] := by
      by_contra hne
      refine not_startsWord hne hafterLetters [] ?_
      rwa [List.append_nil]
    simpa [hfrontNil, hafterNil] using hfolds
  · intro h
    exact ⟨[], cs, [], by simp, h, rfl, rfl⟩

theorem endsWord_of_blanks (hblanks : ∀ c ∈ cs, isBlankChar c = true) : EndsWord cs := by
  unfold EndsWord
  cases hlast : cs.getLast? with
  | none => rfl
  | some c => exact isWordChar_of_isBlankChar (hblanks c (List.mem_of_getLast? hlast))

/-- Blanks have no word. -/
theorem not_hasWord_of_blanks (hpattern : IsWord pattern)
    (hblanks : ∀ c ∈ cs, isBlankChar c = true) : ¬ HasWord pattern cs := by
  rintro ⟨front, word, after, rfl, hfolds, -, -⟩
  obtain ⟨c, rest, rfl⟩ := List.exists_cons_of_ne_nil (hfolds.ne_nil hpattern)
  have hletter := isWordChar_of_folds hpattern hfolds c List.mem_cons_self
  rw [isWordChar_of_isBlankChar (hblanks c (by simp))] at hletter
  cases hletter

end

end WideColumn.Text
