import Mathlib.Algebra.BigOperators.Group.List.Basic
import Mathlib.Algebra.GroupWithZero.Nat
import WideColumn.Proofs.Slice.Faithful
import WideColumn.Proofs.Slice.Literal

/-!
# The structure of a slice statement

A condition is taken apart at its conjunctions, from the left. What the values bring into the text
decides whether the parts are the comparisons again: numbers, words and question marks always keep
them apart, and a decimal is written as it is given, whatever its text. Main statement:
`SliceSpec.structure_contract`.
-/

namespace WideColumn

/-! ### Conjuncts -/

/-- What stands between two comparisons. -/
def conjunction : List Char := [' ', 'A', 'N', 'D', ' ']

/-- The parts of a condition between conjunctions, which are found from the left. -/
def conjuncts : List Char → List (List Char)
  | ' ' :: 'A' :: 'N' :: 'D' :: ' ' :: rest => [] :: conjuncts rest
  | c :: rest => (conjuncts rest).modifyHead (c :: ·)
  | [] => [[]]

/-- Whether texts keep apart when they are joined by conjunctions: none of them contains one, also
not together with the blank that follows it. -/
def Apart : List (List Char) → Prop
  | [] => True
  | [text] => ¬ conjunction <:+: text
  | text :: texts => ¬ conjunction <:+: text ++ [' '] ∧ Apart texts

section

variable {c : Char} {text rest : List Char} {texts : List (List Char)}

theorem conjuncts_conjunction (rest : List Char) :
    conjuncts (conjunction ++ rest) = [] :: conjuncts rest := rfl

theorem conjuncts_cons (h : ¬ conjunction <+: c :: rest) :
    conjuncts (c :: rest) = (conjuncts rest).modifyHead (c :: ·) := by
  rw [conjuncts]
  rintro rest' rfl rfl
  exact h (List.prefix_append conjunction rest')

theorem modifyHead_cons_eq_iff {l : List (List Char)} (hne : l ≠ []) :
    l.modifyHead (c :: ·) = (c :: text) :: texts ↔ l = text :: texts := by
  cases l with
  | nil => exact absurd rfl hne
  | cons head l => simp

theorem conjuncts_ne_nil (text : List Char) : conjuncts text ≠ [] := by
  fun_induction conjuncts text with
  | case1 => simp
  | case2 c rest h ih => simpa using ih
  | case3 => simp

/-- A conjunction that begins before another one ends with the blank of that one at the latest. -/
theorem conjunction_prefix_append_iff :
    conjunction <+: c :: text ++ conjunction ++ rest ↔ conjunction <+: c :: text ++ [' '] := by
  have hsplit : c :: text ++ conjunction ++ rest =
      (c :: text ++ [' ']) ++ (['A', 'N', 'D', ' '] ++ rest) := by simp [conjunction]
  rw [hsplit]
  constructor
  · intro h
    obtain h | h := List.prefix_or_prefix_of_prefix h (List.prefix_append _ _)
    · exact h
    · -- only as a whole does a conjunction end with a blank after other characters
      have hlength := h.length_le
      rcases text with _ | ⟨a, _ | ⟨b, _ | ⟨d, _ | ⟨e, text⟩⟩⟩⟩
      all_goals simp [conjunction, List.cons_prefix_cons] at h hlength ⊢
      simp [h]
  · exact fun h => h.trans (List.prefix_append _ _)

/-- A text ends at the first conjunction if it does not run into it. -/
theorem conjuncts_append_conjunction :
    conjuncts (text ++ conjunction ++ rest) = text :: texts ↔
      ¬ conjunction <:+: text ++ [' '] ∧ conjuncts rest = texts := by
  induction text with
  | nil =>
    have hblank : ¬ conjunction <:+: [' '] := by decide
    rw [List.nil_append, conjuncts_conjunction, List.cons.injEq]
    simp [hblank]
  | cons c text ih =>
    rw [show c :: text ++ [' '] = c :: (text ++ [' ']) from rfl, List.infix_cons_iff, not_or,
      and_assoc, ← ih]
    have hiff : conjunction <+: c :: (text ++ conjunction ++ rest) ↔
        conjunction <+: c :: (text ++ [' ']) := conjunction_prefix_append_iff
    rw [← hiff, List.cons_append, List.cons_append]
    by_cases hprefix : conjunction <+: c :: (text ++ conjunction ++ rest)
    · obtain ⟨rest', hrest⟩ := id hprefix
      rw [← hrest, conjuncts_conjunction]
      simp
    · rw [conjuncts_cons hprefix, modifyHead_cons_eq_iff (conjuncts_ne_nil _), and_iff_right hprefix]

/-- A text without conjunctions is its only part. -/
theorem conjuncts_eq_singleton_iff : conjuncts text = [text] ↔ ¬ conjunction <:+: text := by
  induction text with
  | nil =>
    have hempty : ¬ conjunction <:+: [] := by decide
    simp [hempty, conjuncts]
  | cons c text ih =>
    rw [List.infix_cons_iff, not_or, ← ih]
    by_cases hprefix : conjunction <+: c :: text
    · obtain ⟨rest, hrest⟩ := id hprefix
      have hparts : conjuncts (c :: text) = [] :: conjuncts rest := by
        rw [← hrest, conjuncts_conjunction]
      simp [hparts, hprefix]
    · rw [conjuncts_cons hprefix, modifyHead_cons_eq_iff (conjuncts_ne_nil _), and_iff_right hprefix]

/-- Joined texts are taken apart again exactly if they keep apart. -/
theorem conjuncts_intercalate_iff (hne : texts ≠ []) :
    conjuncts (conjunction.intercalate texts) = texts ↔ Apart texts := by
  induction texts with
  | nil => exact absurd rfl hne
  | cons text texts ih =>
    cases texts with
    | nil => simpa [Apart] using conjuncts_eq_singleton_iff
    | cons next texts =>
      rw [List.intercalate_cons_cons, conjuncts_append_conjunction, ih (List.cons_ne_nil _ _)]
      rfl

/-- A conjunction cannot begin in a text without blanks. -/
theorem conjunction_infix_append_iff {before : List Char} (hblank : ' ' ∉ before) :
    conjunction <:+: before ++ text ↔ conjunction <:+: text := by
  induction before with
  | nil => rfl
  | cons c before ih =>
    obtain ⟨hc, hbefore⟩ := List.ne_and_not_mem_of_not_mem_cons hblank
    rw [List.cons_append, List.infix_cons_iff, ih hbefore, or_iff_right]
    intro hprefix
    exact hc (List.cons_prefix_cons.1 hprefix).1

theorem not_conjunction_infix (hblank : ' ' ∉ text) : ¬ conjunction <:+: text :=
  fun h => hblank (h.subset (List.mem_cons_self ..))

/-- Texts without blanks keep apart. -/
theorem apart_of_forall_not_mem (h : ∀ text ∈ texts, ' ' ∉ text) : Apart texts := by
  induction texts with
  | nil => trivial
  | cons text texts ih =>
    obtain ⟨htext, htexts⟩ := List.forall_mem_cons.1 h
    cases texts with
    | nil => exact not_conjunction_infix htext
    | cons next texts =>
      have hblank : ¬ conjunction <:+: [' '] := by decide
      exact ⟨fun h => hblank ((conjunction_infix_append_iff htext).1 h), ih htexts⟩

/-- What stands before the blanks of texts does not matter. -/
theorem apart_map_append_iff {α : Type} {before after : α → List Char} {xs : List α}
    (h : ∀ x ∈ xs, ' ' ∉ before x) :
    Apart (xs.map fun x => before x ++ after x) ↔ Apart (xs.map after) := by
  induction xs with
  | nil => rfl
  | cons x xs ih =>
    obtain ⟨hx, hxs⟩ := List.forall_mem_cons.1 h
    cases xs with
    | nil => exact not_congr (conjunction_infix_append_iff hx)
    | cons y xs =>
      refine and_congr ?_ (ih hxs)
      rw [List.append_assoc]
      exact not_congr (conjunction_infix_append_iff hx)

end

/-! ### Right-hand sides -/

namespace Comparison

variable {c : Comparison}

theorem operandText_eq (c : Comparison) : c.predicate.operandText = c.value.literal?.getD "?" := by
  unfold predicate Predicate.ofValue
  cases c.value.literal? <;> rfl

/-- A right-hand side is a question mark or one token exactly if its value is written as one, if it
is written. -/
theorem operand_iff (c : Comparison) :
    (c.value.isInline = false ∧ c.predicate.operandText = "?") ∨
        isToken c.predicate.operandText = true ↔ c.value.isOneToken = true := by
  rw [operandText_eq, ← Value.isSome_literal?]
  cases hliteral : c.value.literal? with
  | none =>
    have htoken : c.value.isOneToken = true := by
      cases hvalue : c.value <;> simp_all [Value.literal?, Value.isOneToken]
    simp [htoken]
  | some text =>
    have htoken := Value.isToken_literal_iff hliteral
    simpa using htoken

/-- Only a loose decimal brings blanks into a condition. -/
theorem blank_not_mem_operandText (hloose : c.value.isLoose = false) :
    ' ' ∉ c.predicate.operandText.toList := by
  rw [operandText_eq]
  cases hliteral : c.value.literal? with
  | none => decide
  | some text =>
    intro hmem
    exact absurd (Value.isTokenChar_literal hliteral hloose _ hmem) (by decide)

end Comparison

/-! ### Question marks of values -/

/-- The question marks that a value brings into a condition without being bound. -/
def Value.strayMarks : Value → Nat
  | .decimal s => questionMarks s
  | _ => 0

theorem questionMarks_of_isTokenChar {text : String}
    (h : ∀ c ∈ text.toList, isTokenChar c = true) : questionMarks text = 0 := by
  apply List.count_eq_zero.2
  intro hmem
  exact absurd (h _ hmem) (by decide)

theorem Value.strayMarks_eq_zero {v : Value} (hloose : v.isLoose = false) : v.strayMarks = 0 := by
  cases v with
  | decimal s => exact questionMarks_of_isTokenChar (isTokenChar_literal rfl hloose)
  | _ => rfl

theorem Comparison.questionMarks_operandText (c : Comparison) :
    questionMarks c.predicate.operandText =
      (SliceReading.boundOf c.value).length + c.value.strayMarks := by
  have hmark : questionMarks "?" = 1 := by decide
  rw [operandText_eq, SliceReading.boundOf, ← Value.isSome_literal?]
  cases hliteral : c.value.literal? with
  | none =>
    have hloose : c.value.isLoose = false := by
      cases hvalue : c.value <;> simp_all [Value.literal?, Value.isLoose]
    simp [Value.strayMarks_eq_zero hloose, hmark]
  | some text =>
    cases hvalue : c.value with
    | decimal s =>
      rw [hvalue] at hliteral
      obtain rfl := Option.some.inj hliteral
      simp [Value.strayMarks]
    | _ =>
      have hloose : c.value.isLoose = false := by rw [hvalue]; rfl
      have hnone := questionMarks_of_isTokenChar (Value.isTokenChar_literal hliteral hloose)
      simp [hnone, Value.strayMarks]

/-! ### Conditions -/

section

variable {comparisons : List Comparison}

/-- The text of comparisons has a question mark for every value that is bound for them, and those
that the values bring along. -/
theorem questionMarks_condition (hnames : ∀ c ∈ comparisons, IsPlainName c.column) :
    questionMarks (WhereClause.text (comparisons.map Comparison.predicate)) =
      (WhereClause.values (comparisons.map Comparison.predicate)).length +
        (comparisons.map fun c => c.value.strayMarks).sum := by
  -- a question mark that a value brings along counts like one more value
  have hcomparison : ∀ c ∈ comparisons, questionMarks c.predicate.text =
      (SliceReading.boundOf c.value ++ List.replicate c.value.strayMarks Value.null).length := by
    intro c hc
    have hsign : questionMarks c.relation.sign = 0 := by cases c.relation <;> decide
    rw [c.text_predicate, questionMarks_append, questionMarks_append,
      questionMarks_of_isPlainName (hnames c hc), hsign, c.questionMarks_operandText]
    simp
  have hconjunction : questionMarks " AND " = 0 := by decide
  have hcount := questionMarks_intercalate hconjunction hcomparison
  rw [WhereClause.text, List.map_map]
  refine hcount.trans ?_
  rw [SliceSpec.values_predicates, List.length_flatMap, List.length_flatMap, ← List.sum_map_add]
  simp

/-- A condition is taken apart into its comparisons exactly if their right-hand sides keep apart. -/
theorem conjuncts_condition_iff (hne : comparisons ≠ [])
    (hnames : ∀ c ∈ comparisons, IsPlainName c.column) :
    conjuncts (WhereClause.text (comparisons.map Comparison.predicate)).toList =
        comparisons.map (fun c => c.predicate.text.toList) ↔
      Apart (comparisons.map fun c => c.predicate.operandText.toList) := by
  have hconjunction : " AND ".toList = conjunction := by decide
  have htexts : (comparisons.map Comparison.predicate).map (String.toList ∘ Predicate.text) =
      comparisons.map fun c => c.predicate.text.toList := by
    rw [List.map_map]
    rfl
  have hbefore : (comparisons.map fun c => c.predicate.text.toList) = comparisons.map fun c =>
      (c.column ++ c.relation.sign).toList ++ c.predicate.operandText.toList := by
    simp [Comparison.text_predicate]
  have hblank : ∀ c ∈ comparisons, ' ' ∉ (c.column ++ c.relation.sign).toList := by
    intro c hc hmem
    have hsign : ' ' ∉ c.relation.sign.toList := by cases c.relation <;> decide
    rw [String.toList_append, List.mem_append] at hmem
    exact absurd ((hnames c hc).2 _ (hmem.resolve_right hsign)) (by decide)
  rw [WhereClause.text, String.toList_intercalate, List.map_map, htexts, hconjunction,
    conjuncts_intercalate_iff (by simpa using hne), hbefore, apart_map_append_iff hblank]

end

/-! ### The contract -/

/-- The characters that separate or quote, other than blanks. -/
def delimiters : List Char := ['\'', '"', '?', ':', ';', '=', '<', '>']

theorem not_delimiter_of_isTokenChar {c : Char} (h : isTokenChar c = true) :
    c.isWhitespace = false ∧ c ∉ delimiters := by
  have hother : ∀ d : Char, isTokenChar d = false → c ≠ d := by
    rintro d hd rfl
    rw [h] at hd
    cases hd
  have hdelimiters : delimiters.all (fun d => !isTokenChar d) = true := by decide
  have hmember : c ∉ delimiters := by
    intro hmem
    have hc := List.all_eq_true.1 hdelimiters c hmem
    rw [h] at hc
    cases hc
  refine ⟨?_, hmember⟩
  have hblank := hother ' ' (by decide)
  have htab := hother '\t' (by decide)
  have hreturn := hother '\r' (by decide)
  have hline := hother '\n' (by decide)
  simp [Char.isWhitespace, hblank, htab, hreturn, hline]

/-- What a statement with these comparisons as its condition looks like, whatever their values. -/
structure SliceStatement.Structured (s : SliceStatement) (comparisons : List Comparison) :
    Prop where
  /-- A right-hand side is one mark or token unless its value is infinite or a loose decimal. -/
  operands : ∀ c ∈ comparisons,
    (c.value.isInline = false ∧ c.predicate.operandText = "?") ∨
      isToken c.predicate.operandText = true ↔ c.value.isOneToken = true
  /-- The parts are the comparisons unless the right-hand sides run into the conjunctions. -/
  parts : conjuncts s.predicate.toList = comparisons.map (fun c => c.predicate.text.toList) ↔
    Apart (comparisons.map fun c => c.predicate.operandText.toList)
  marks : questionMarks s.predicate =
    s.values.length + (comparisons.map fun c => c.value.strayMarks).sum
  /-- Without loose decimals the structure is that of the comparisons. -/
  intact : (∀ c ∈ comparisons, c.value.isLoose = false) →
    conjuncts s.predicate.toList = comparisons.map (fun c => c.predicate.text.toList) ∧
      questionMarks s.predicate = s.values.length

theorem structured_of_condition {s : SliceStatement} {comparisons : List Comparison}
    (hne : comparisons ≠ []) (hnames : ∀ c ∈ comparisons, IsPlainName c.column)
    (hpredicate : s.predicate = WhereClause.text (comparisons.map Comparison.predicate))
    (hvalues : s.values = WhereClause.values (comparisons.map Comparison.predicate)) :
    s.Structured comparisons := by
  have hparts := conjuncts_condition_iff hne hnames
  have hmarks := questionMarks_condition hnames
  rw [← hpredicate] at hparts hmarks
  rw [← hvalues] at hmarks
  refine ⟨fun c _ => c.operand_iff, hparts, hmarks, fun hloose => ⟨hparts.2 ?_, ?_⟩⟩
  · apply apart_of_forall_not_mem
    intro text htext
    obtain ⟨c, hc, rfl⟩ := List.mem_map.1 htext
    exact Comparison.blank_not_mem_operandText (hloose c hc)
  · have hstray : (comparisons.map fun c => c.value.strayMarks).sum = 0 := by
      apply List.sum_eq_zero
      intro n hn
      obtain ⟨c, hc, rfl⟩ := List.mem_map.1 hn
      exact Value.strayMarks_eq_zero (hloose c hc)
    rw [hmarks, hstray, Nat.add_zero]

namespace SliceSpec

variable {spec : SliceSpec}

theorem fixedComparisons_ne_nil (h : spec.Deletable) : spec.fixedComparisons ≠ [] := by
  simpa [fixedComparisons] using h.nonempty

/-- There is a comparison for each fixed column and each end that is set. -/
theorem length_comparisons (h : spec.Selectable) :
    spec.comparisons.length =
      spec.fixed.length + spec.start.toList.length + spec.stop.toList.length := by
  have hrange : spec.rangeComparisons.length =
      spec.start.toList.length + spec.stop.toList.length := by
    unfold rangeComparisons
    cases hvarying : spec.varying with
    | none =>
      have hends : ¬ (spec.start.isSome ∨ spec.stop.isSome) := by
        intro hends
        obtain ⟨column, hcolumn, -⟩ := h.varying hends
        rw [hvarying] at hcolumn
        cases hcolumn
      obtain ⟨hstart, hstop⟩ := not_or.1 hends
      rw [Option.not_isSome_iff_eq_none] at hstart hstop
      simp [hstart, hstop]
    | some column => simp [bounds, Option.toList_map]
  rw [comparisons, List.length_append, hrange, fixedComparisons, List.length_map, Nat.add_assoc]

/-- Numbers, truth values and bound values never change the structure of a slice: for plain names
the condition of a read or a delete falls apart into one comparison for each fixed column and each
end that is set, with a question mark for each bound value. Only a decimal whose text is not a
number can change it, exactly as its text runs into the conjunctions or brings question marks. -/
theorem structure_contract (hnames : spec.PlainNames) :
    (∀ s, spec.select = .ok s → s.Structured spec.comparisons ∧
      spec.comparisons.length =
        spec.fixed.length + spec.start.toList.length + spec.stop.toList.length) ∧
    (∀ s, spec.delete = .ok s → s.Structured spec.fixedComparisons ∧
      spec.fixedComparisons.length = spec.fixed.length) ∧
    ∀ text, isToken text = true →
      text ≠ "" ∧ ∀ c ∈ text.toList, c.isWhitespace = false ∧ c ∉ delimiters := by
  refine ⟨fun s hs => ?_, fun s hs => ?_, fun text htoken => ⟨?_, fun c hc => ?_⟩⟩
  · obtain ⟨hselectable, rfl⟩ := select_eq_ok_iff.1 hs
    have hne : spec.comparisons ≠ [] :=
      List.append_ne_nil_of_left_ne_nil (fixedComparisons_ne_nil hselectable.toDeletable) _
    exact ⟨structured_of_condition hne hnames.comparisons rfl rfl, length_comparisons hselectable⟩
  · obtain ⟨hdeletable, rfl⟩ := delete_eq_ok_iff.1 hs
    exact ⟨structured_of_condition (fixedComparisons_ne_nil hdeletable) hnames.fixedComparisons rfl
      rfl, by simp [fixedComparisons]⟩
  · rintro rfl
    revert htoken
    decide
  · exact not_delimiter_of_isTokenChar (isTokenChar_of_isToken htoken c hc)

/-- The bills of a shop with a price, from a day on. The name of the shop reads like a condition. -/
def billed : SliceSpec :=
  { ofTable "bills" with
    fixed := [("shop", .text "a AND b=?"), ("price", .decimal "-1.50e3")]
    varying := some "day"
    start := some (.bigint 9) }

/-- The bills are read under three conditions, and the name of the shop is bound. -/
theorem structure_contract_billed :
    ∃ s, billed.select = .ok s ∧
      (conjuncts s.predicate.toList).map String.ofList = ["shop=?", "price=-1.50e3", "day>=9"] ∧
      questionMarks s.predicate = s.values.length ∧ s.values.length = 1 := by
  have hnames : billed.PlainNames := by decide
  obtain ⟨hselect, -, -⟩ := structure_contract hnames
  have hselected : billed.select = .ok billed.selection := by rfl
  obtain ⟨hstructured, -⟩ := hselect _ hselected
  have hloose : ∀ c ∈ billed.comparisons, c.value.isLoose = false := by
    have hall : ∀ loose ∈ billed.comparisons.map (fun c => c.value.isLoose), loose = false := by
      decide
    exact fun c hc => hall _ (List.mem_map_of_mem hc)
  obtain ⟨hparts, hmarks⟩ := hstructured.intact hloose
  refine ⟨billed.selection, hselected, ?_, hmarks, by rfl⟩
  rw [hparts]
  rfl

/-- A sensor that is a decimal with the text of two conditions. -/
def forged : SliceSpec :=
  { ofTable "samples" with fixed := [("sensor", .decimal "1 AND unit=?")] }

/-- Not every value leaves the structure of a slice as it is: the text of a decimal is not
looked at. -/
theorem not_structured_of_loose_decimal :
    ¬ ∀ (spec : SliceSpec) (s : SliceStatement), spec.PlainNames → spec.select = .ok s →
      (∀ c ∈ spec.comparisons,
        c.predicate.operandText = "?" ∨ isToken c.predicate.operandText = true) ∧
      (conjuncts s.predicate.toList).length = spec.comparisons.length ∧
      questionMarks s.predicate = s.values.length := by
  intro h
  obtain ⟨-, hparts, -⟩ := h forged forged.selection (by decide) (by rfl)
  revert hparts
  decide

end SliceSpec

end WideColumn
