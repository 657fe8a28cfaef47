import WideColumn.Proofs.Slice.Reading

/-!
# Slices are read as they were written

For plain names and values without fractions, the text of a slice together with its values says
exactly what the slice is: the reader finds the comparisons in their order, each with its value, and
the order and the limit of the read. Main statement: `faithful_contract`.
-/

namespace WideColumn

namespace SliceReading

/-! ### Parts of a statement -/

/-- A part of a statement with its tokens, none of which is a blank. -/
def IsPart (part : String × List Token) : Prop :=
  ScansBefore part.1 part.2 ∧ .sign ' ' ∉ part.2

theorem isPart_word {name : String} (hname : IsPlainName name) : IsPart (name, [.word name]) :=
  ⟨.word hname, by simp⟩

/-- A text of parts with blanks between them is cut into these parts. -/
theorem statement?_parts {parts : List (String × List Token)} (hne : parts ≠ [])
    (h : ∀ part ∈ parts, IsPart part) :
    statement? (" ".intercalate (parts.map Prod.fst) ++ ";") = some (parts.map Prod.snd) := by
  have hblank : Scans " " [.sign ' '] := fun _ => rfl
  have hend : Scans ";" [.sign ';'] := fun _ => rfl
  have hapart : BeginsApart " " := by rfl
  have hend' : BeginsApart ";" := by rfl
  have hscan := ((ScansBefore.intercalate hblank hapart
    fun part hpart => (h part hpart).1).followed hend' hend).scan_eq
  have hsplit : pieces ([.sign ' '].intercalate (parts.map Prod.snd)) = parts.map Prod.snd := by
    apply List.splitOn_intercalate
    · intro tokens htokens
      obtain ⟨part, hpart, rfl⟩ := List.mem_map.1 htokens
      exact (h part hpart).2
    · simpa using hne
  rw [statement?, hscan, List.getLast?_concat, if_pos rfl, List.dropLast_concat, hsplit]

theorem map_intersperse {α β : Type} (f : α → β) (separator : α) (items : List α) :
    (items.intersperse separator).map f = (items.map f).intersperse (f separator) := by
  induction items with
  | nil => rfl
  | cons a items ih =>
    cases items with
    | nil => rfl
    | cons b items => simpa using ih

theorem forall_mem_intersperse {α : Type} {P : α → Prop} {separator : α}
    (hseparator : P separator) {items : List α} (hitems : ∀ a ∈ items, P a) :
    ∀ a ∈ items.intersperse separator, P a := by
  induction items with
  | nil => simp
  | cons a items ih =>
    obtain ⟨ha, hitems⟩ := List.forall_mem_cons.1 hitems
    cases items with
    | nil => simpa using ha
    | cons b items =>
      rw [List.intersperse_cons_cons, List.forall_mem_cons, List.forall_mem_cons]
      exact ⟨ha, hseparator, ih hitems⟩

theorem intercalate_and (texts : List String) :
    " ".intercalate (texts.intersperse "AND") = " AND ".intercalate texts := by
  have hand : " AND " = " " ++ "AND" ++ " " := by decide
  induction texts with
  | nil => rfl
  | cons a texts ih =>
    cases texts with
    | nil => rfl
    | cons b texts =>
      have hne : (b :: texts).intersperse "AND" ≠ [] := by cases texts <;> simp
      rw [List.intersperse_cons_cons, String.intercalate_cons_cons,
        String.intercalate_cons_of_ne_nil hne, ih, String.intercalate_cons_cons, hand]
      simp only [String.append_assoc]

/-- The parts of comparisons. -/
def conditionParts (comparisons : List Comparison) : List (String × List Token) :=
  (comparisons.map fun c => (c.predicate.text, c.tokens)).intersperse ("AND", [.word "AND"])

theorem conditionParts_ne_nil {comparisons : List Comparison} (hne : comparisons ≠ []) :
    conditionParts comparisons ≠ [] := by
  cases comparisons with
  | nil => exact absurd rfl hne
  | cons c comparisons => cases comparisons <;> simp [conditionParts]

theorem text_conditionParts (comparisons : List Comparison) :
    " ".intercalate ((conditionParts comparisons).map Prod.fst) =
      WhereClause.text (comparisons.map Comparison.predicate) := by
  rw [conditionParts, map_intersperse, intercalate_and, List.map_map, WhereClause.text,
    List.map_map]
  rfl

theorem tokens_conditionParts (comparisons : List Comparison) :
    (conditionParts comparisons).map Prod.snd = conditionPieces comparisons := by
  rw [conditionParts, map_intersperse, List.map_map]
  rfl

theorem isPart_comparison {c : Comparison} (hname : IsPlainName c.column)
    (hvalue : c.value.isFractional = false) : IsPart (c.predicate.text, c.tokens) := by
  refine ⟨c.scansBefore hname hvalue, ?_⟩
  have hrelation : Token.sign ' ' ∉ c.relation.tokens := by cases c.relation <;> decide
  have hinteger : ∀ i : Int, Token.sign ' ' ∉ integerTokens i := by
    intro i
    cases i <;> simp [integerTokens]
  have htokens : Token.sign ' ' ∉ c.value.tokens := by
    cases c.value with
    | bool b => cases b <;> decide
    | int i | bigint i => exact hinteger i.toInt
    | _ => simp [Value.tokens]
  simp [Comparison.tokens, hrelation, htokens]

theorem isPart_conditionParts {comparisons : List Comparison}
    (hnames : ∀ c ∈ comparisons, IsPlainName c.column)
    (hvalues : ∀ c ∈ comparisons, c.value.isFractional = false) :
    ∀ part ∈ conditionParts comparisons, IsPart part := by
  have hand : IsPlainName "AND" := by decide
  apply forall_mem_intersperse (isPart_word hand)
  intro part hpart
  obtain ⟨c, hc, rfl⟩ := List.mem_map.1 hpart
  exact isPart_comparison (hnames c hc) (hvalues c hc)

/-- What the last parts of a statement add to its text. -/
def suffix : List (String × List Token) → String
  | [] => ""
  | part :: parts => " " ++ " ".intercalate ((part :: parts).map Prod.fst)

theorem intercalate_append_suffix {texts : List String} (hne : texts ≠ [])
    (parts : List (String × List Token)) :
    " ".intercalate (texts ++ parts.map Prod.fst) = " ".intercalate texts ++ suffix parts := by
  cases parts with
  | nil => simp [suffix]
  | cons part parts =>
    have hparts : (part :: parts).map Prod.fst ≠ [] := List.cons_ne_nil _ _
    rw [String.intercalate_append_of_ne_nil hne hparts, suffix, String.append_assoc]

theorem suffix_append (parts parts' : List (String × List Token)) :
    suffix (parts ++ parts') = suffix parts ++ suffix parts' := by
  cases parts with
  | nil => simp [suffix]
  | cons part parts =>
    have hparts : (part :: parts).map Prod.fst ≠ [] := List.cons_ne_nil _ _
    rw [List.cons_append, suffix, ← List.cons_append, List.map_append,
      intercalate_append_suffix hparts, suffix, String.append_assoc]

/-! ### Columns, order and limit -/

/-- The tokens of a column list, or of a star for the empty one. -/
def columnsTokens (columns : List String) : List Token :=
  if columns.isEmpty then [.sign '*'] else [.sign ','].intercalate (columns.map fun c => [.word c])

theorem isPart_columns {columns : List String} (hcolumns : ∀ c ∈ columns, IsPlainName c) :
    IsPart (Template.columnsOrStar columns, columnsTokens columns) := by
  have hstar : Scans "*" [.sign '*'] := fun _ => rfl
  unfold Template.columnsOrStar columnsTokens
  cases columns with
  | nil => exact ⟨⟨fun _ hafter => hstar.append hafter⟩, by decide⟩
  | cons c columns =>
    refine ⟨Template.scansBefore_names hcolumns, ?_⟩
    have hcomma : ∀ names : List String,
        Token.sign ' ' ∉ [Token.sign ','].intercalate (names.map fun c => [Token.word c]) := by
      intro names
      induction names with
      | nil => simp
      | cons a names ih =>
        cases names with
        | nil => simp
        | cons b names =>
          rw [List.map_cons, List.map_cons, List.intercalate_cons_cons]
          simpa using ih
    exact hcomma _

theorem names?_tokens {columns : List String} (hne : columns ≠ []) :
    names? ([.sign ','].intercalate (columns.map fun c => [.word c])) = some columns := by
  induction columns with
  | nil => exact absurd rfl hne
  | cons a columns ih =>
    cases columns with
    | nil => rfl
    | cons b columns =>
      rw [List.map_cons, List.map_cons, List.intercalate_cons_cons]
      have hrest := ih (List.cons_ne_nil _ _)
      rw [List.map_cons] at hrest
      simp only [List.cons_append, List.nil_append, names?, hrest, Option.map_some]

theorem columns?_columnsTokens (columns : List String) :
    columns? (columnsTokens columns) = some columns := by
  cases columns with
  | nil => rfl
  | cons a columns =>
    have hstar : columnsTokens (a :: columns) ≠ [.sign '*'] := by
      cases columns <;> simp [columnsTokens, List.intercalate_cons_cons]
    rw [columns?, if_neg hstar]
    exact names?_tokens (List.cons_ne_nil _ _)

/-- The parts of a descending order. -/
def orderParts : Option String → List (String × List Token)
  | none => []
  | some column =>
    [("ORDER", [.word "ORDER"]), ("BY", [.word "BY"]), (column, [.word column]),
      ("DESC", [.word "DESC"])]

/-- The parts of a limit. -/
def limitParts : Option Nat → List (String × List Token)
  | none => []
  | some limit => [("LIMIT", [.word "LIMIT"]), (toString limit, [.word (toString limit)])]

theorem isPart_orderParts {column : Option String} (hcolumn : ∀ c ∈ column, IsPlainName c) :
    ∀ part ∈ orderParts column, IsPart part := by
  cases column with
  | none => simp [orderParts]
  | some c =>
    have horder : IsPlainName "ORDER" ∧ IsPlainName "BY" ∧ IsPlainName "DESC" := by decide
    simp only [orderParts, List.forall_mem_cons]
    exact ⟨isPart_word horder.1, isPart_word horder.2.1, isPart_word (hcolumn c rfl),
      isPart_word horder.2.2, by simp⟩

theorem isPart_limitParts (limit : Option Nat) : ∀ part ∈ limitParts limit, IsPart part := by
  cases limit with
  | none => simp [limitParts]
  | some n =>
    have hlimit : IsPlainName "LIMIT" := by decide
    simp only [limitParts, List.forall_mem_cons]
    exact ⟨isPart_word hlimit, ⟨scansBefore_nat n, by simp⟩, by simp⟩

theorem order_parts (column : Option String) (limit : Option Nat) :
    order ((orderParts column ++ limitParts limit).map Prod.snd) =
      (column, (limitParts limit).map Prod.snd) := by
  cases column <;> cases limit <;> rfl

theorem limit?_parts (limit : Option Nat) :
    limit? ((limitParts limit).map Prod.snd) = some limit := by
  cases limit with
  | none => rfl
  | some n =>
    show (number? (toString n)).map some = _
    rw [number?_toString]
    rfl

end SliceReading

namespace SliceSpec

open SliceReading

variable {spec : SliceSpec}

/-- The column that the rows are ordered by from the last one to the first, if they are. -/
def descendingBy (spec : SliceSpec) : Option String :=
  match spec.ordering with
  | .ascending => none
  | .descending => spec.orderColumn.or spec.varying

/-- The parts after the condition of a read. -/
def tailParts (spec : SliceSpec) : List (String × List Token) :=
  orderParts spec.descendingBy ++ limitParts spec.limit

theorem text_order (column : String) :
    " " ++ OrderBy.text ⟨column, true⟩ = suffix (orderParts (some column)) := by
  have hby : "ORDER BY " = "ORDER" ++ " " ++ "BY" ++ " " := by decide
  have hdesc : " " ++ "DESC" = " DESC" := by decide
  simp only [OrderBy.text, toString, suffix, orderParts, List.map_cons, List.map_nil,
    String.intercalate_cons_cons, String.intercalate_singleton, hby, String.append_assoc,
    if_true, hdesc]

theorem text_limit (limit : Nat) : " " ++ limitText limit = suffix (limitParts (some limit)) := by
  have hlimit : "LIMIT " = "LIMIT" ++ " " := by decide
  show " " ++ ("LIMIT " ++ toString limit) = _
  simp only [suffix, limitParts, List.map_cons, List.map_nil, String.intercalate_cons_cons,
    String.intercalate_singleton, hlimit]

theorem tail_eq : spec.tail = suffix spec.tailParts := by
  rw [tailParts, suffix_append]
  unfold tail descendingBy
  dsimp only
  congr 1
  · cases spec.ordering with
    | ascending => rfl
    | descending =>
      cases spec.orderColumn.or spec.varying with
      | none => rfl
      | some column => exact text_order column
  · cases spec.limit with
    | none => rfl
    | some limit => exact text_limit limit

/-- The parts of a read. -/
def selectParts (spec : SliceSpec) : List (String × List Token) :=
  [("SELECT", [.word "SELECT"]),
    (Template.columnsOrStar spec.columns, columnsTokens spec.columns), ("FROM", [.word "FROM"]),
    (spec.table, [.word spec.table]), ("WHERE", [.word "WHERE"])] ++
      conditionParts spec.comparisons ++ spec.tailParts

/-- The parts of a delete. -/
def deleteParts (spec : SliceSpec) : List (String × List Token) :=
  [("DELETE", [.word "DELETE"]), ("FROM", [.word "FROM"]), (spec.table, [.word spec.table]),
    ("WHERE", [.word "WHERE"])] ++ conditionParts spec.fixedComparisons

theorem query_selection (hne : spec.comparisons ≠ []) :
    spec.selection.query = " ".intercalate (spec.selectParts.map Prod.fst) ++ ";" := by
  have hparts : (conditionParts spec.comparisons).map Prod.fst ≠ [] := by
    simpa using conditionParts_ne_nil hne
  have hselect : "SELECT " = "SELECT" ++ " " := by decide
  have hfrom : " FROM " = " " ++ "FROM" ++ " " := by decide
  have hwhere : " WHERE " = " " ++ "WHERE" ++ " " := by decide
  rw [selectParts, List.map_append, List.map_append, intercalate_append_suffix (by simp),
    String.intercalate_append_of_ne_nil (by simp) hparts, text_conditionParts, ← tail_eq]
  simp only [selection, toString, List.map_cons, List.map_nil, String.intercalate_cons_cons,
    String.intercalate_singleton, hselect, hfrom, hwhere, String.append_assoc]

theorem query_deletion (hne : spec.fixedComparisons ≠ []) :
    spec.deletion.query = " ".intercalate (spec.deleteParts.map Prod.fst) ++ ";" := by
  have hparts : (conditionParts spec.fixedComparisons).map Prod.fst ≠ [] := by
    simpa using conditionParts_ne_nil hne
  have hdelete : "DELETE FROM " = "DELETE" ++ " " ++ "FROM" ++ " " := by decide
  have hwhere : " WHERE " = " " ++ "WHERE" ++ " " := by decide
  rw [deleteParts, List.map_append, String.intercalate_append_of_ne_nil (by simp) hparts,
    text_conditionParts]
  simp only [deletion, toString, List.map_cons, List.map_nil, String.intercalate_cons_cons,
    String.intercalate_singleton, hdelete, hwhere, String.append_assoc]

/-- The names that stand in the statements of a slice are plain. -/
structure PlainNames (spec : SliceSpec) : Prop where
  table : IsPlainName spec.table
  columns : ∀ column ∈ spec.columns, IsPlainName column
  fixed : ∀ column v, (column, v) ∈ spec.fixed → IsPlainName column
  varying : ∀ column ∈ spec.varying, IsPlainName column
  orderColumn : ∀ column ∈ spec.orderColumn, IsPlainName column

theorem plainNames_iff : spec.PlainNames ↔
    IsPlainName spec.table ∧ (∀ column ∈ spec.columns, IsPlainName column) ∧
      (∀ column ∈ spec.fixed.map Prod.fst, IsPlainName column) ∧
      (∀ column ∈ spec.varying, IsPlainName column) ∧
      ∀ column ∈ spec.orderColumn, IsPlainName column := by
  have hfixed : (∀ column ∈ spec.fixed.map Prod.fst, IsPlainName column) ↔
      ∀ column v, (column, v) ∈ spec.fixed → IsPlainName column := by
    simp
  rw [hfixed]
  exact ⟨fun h => ⟨h.table, h.columns, h.fixed, h.varying, h.orderColumn⟩,
    fun ⟨htable, hcolumns, hfixed, hvarying, horder⟩ =>
      ⟨htable, hcolumns, hfixed, hvarying, horder⟩⟩

instance : Decidable spec.PlainNames := decidable_of_iff _ plainNames_iff.symm

theorem PlainNames.fixedComparisons (h : spec.PlainNames) :
    ∀ c ∈ spec.fixedComparisons, IsPlainName c.column := by
  intro c hc
  obtain ⟨⟨column, v⟩, hmem, rfl⟩ := List.mem_map.1 hc
  exact h.fixed column v hmem

theorem PlainNames.comparisons (h : spec.PlainNames) :
    ∀ c ∈ spec.comparisons, IsPlainName c.column := by
  intro c hc
  rcases List.mem_append.1 hc with hc | hc
  · exact h.fixedComparisons c hc
  · obtain ⟨column, hcolumn, hc⟩ := List.mem_flatMap.1 hc
    rw [(of_mem_bounds hc).1]
    exact h.varying column (Option.mem_toList.1 hcolumn)

theorem PlainNames.descendingBy (h : spec.PlainNames) :
    ∀ column ∈ spec.descendingBy, IsPlainName column := by
  intro column hcolumn
  unfold SliceSpec.descendingBy at hcolumn
  cases hordering : spec.ordering with
  | ascending => simp [hordering] at hcolumn
  | descending =>
    simp only [hordering, Option.mem_def, Option.or_eq_some_iff] at hcolumn
    rcases hcolumn with hcolumn | ⟨-, hcolumn⟩
    · exact h.orderColumn column hcolumn
    · exact h.varying column hcolumn

theorem PlainNames.isPart_selectParts (h : spec.PlainNames)
    (hvalues : ∀ c ∈ spec.comparisons, c.value.isFractional = false) :
    ∀ part ∈ spec.selectParts, IsPart part := by
  have hwords : IsPlainName "SELECT" ∧ IsPlainName "FROM" ∧ IsPlainName "WHERE" := by decide
  have hhead : ∀ part ∈ [("SELECT", [Token.word "SELECT"]),
      (Template.columnsOrStar spec.columns, columnsTokens spec.columns),
      ("FROM", [.word "FROM"]), (spec.table, [.word spec.table]), ("WHERE", [.word "WHERE"])],
      IsPart part := by
    simp only [List.forall_mem_cons]
    exact ⟨isPart_word hwords.1, isPart_columns h.columns, isPart_word hwords.2.1,
      isPart_word h.table, isPart_word hwords.2.2, by simp⟩
  have htail : ∀ part ∈ spec.tailParts, IsPart part :=
    List.forall_mem_append.2 ⟨isPart_orderParts h.descendingBy, isPart_limitParts _⟩
  exact List.forall_mem_append.2
    ⟨List.forall_mem_append.2 ⟨hhead, isPart_conditionParts h.comparisons hvalues⟩, htail⟩

theorem PlainNames.isPart_deleteParts (h : spec.PlainNames)
    (hvalues : ∀ c ∈ spec.fixedComparisons, c.value.isFractional = false) :
    ∀ part ∈ spec.deleteParts, IsPart part := by
  have hwords : IsPlainName "DELETE" ∧ IsPlainName "FROM" ∧ IsPlainName "WHERE" := by decide
  have hhead : ∀ part ∈ [("DELETE", [Token.word "DELETE"]), ("FROM", [.word "FROM"]),
      (spec.table, [.word spec.table]), ("WHERE", [.word "WHERE"])], IsPart part := by
    simp only [List.forall_mem_cons]
    exact ⟨isPart_word hwords.1, isPart_word hwords.2.1, isPart_word h.table,
      isPart_word hwords.2.2, by simp⟩
  exact List.forall_mem_append.2 ⟨hhead, isPart_conditionParts h.fixedComparisons hvalues⟩

/-- What a read of the slice should say. -/
def reading (spec : SliceSpec) : SliceReading where
  columns := spec.columns
  table := spec.table
  conditions := spec.comparisons.map Comparison.condition
  descendingBy := spec.descendingBy
  limit := spec.limit

theorem values_predicates (comparisons : List Comparison) :
    WhereClause.values (comparisons.map Comparison.predicate) =
      comparisons.flatMap fun c => boundOf c.value := by
  have hvalue : ∀ c : Comparison, c.predicate.value?.toList = boundOf c.value := by
    intro c
    unfold Comparison.predicate Predicate.ofValue boundOf
    rw [← Value.isSome_literal?]
    cases c.value.literal? <;> rfl
  unfold WhereClause.values
  induction comparisons with
  | nil => rfl
  | cons c comparisons ih =>
    rw [List.map_cons, List.filterMap_cons, List.flatMap_cons, ← hvalue, ← ih]
    cases c.predicate.value? <;> rfl

theorem tokens_selectParts : spec.selectParts.map Prod.snd =
    [.word "SELECT"] :: columnsTokens spec.columns :: [.word "FROM"] :: [.word spec.table] ::
      [.word "WHERE"] :: (conditionPieces spec.comparisons ++ spec.tailParts.map Prod.snd) := by
  rw [selectParts, List.map_append, List.map_append, tokens_conditionParts]
  rfl

theorem tokens_deleteParts : spec.deleteParts.map Prod.snd =
    [.word "DELETE"] :: [.word "FROM"] :: [.word spec.table] :: [.word "WHERE"] ::
      conditionPieces spec.fixedComparisons := by
  rw [deleteParts, List.map_append, tokens_conditionParts]
  rfl

theorem ofPredicate?_text {comparisons : List Comparison} (hne : comparisons ≠ [])
    (hnames : ∀ c ∈ comparisons, IsPlainName c.column)
    (hvalues : ∀ c ∈ comparisons, c.value.isFractional = false) :
    ofPredicate? (WhereClause.text (comparisons.map Comparison.predicate))
        (WhereClause.values (comparisons.map Comparison.predicate)) =
      some (comparisons.map Comparison.condition) := by
  have hstatement := statement?_parts (conditionParts_ne_nil hne)
    (isPart_conditionParts hnames hvalues)
  rw [text_conditionParts, tokens_conditionParts] at hstatement
  rw [ofPredicate?, hstatement, values_predicates]
  simp only [Option.bind_eq_bind, Option.bind_some, conditions?_all hne hvalues]
  rfl

theorem ofSelect?_selection (h : spec.PlainNames) (hne : spec.comparisons ≠ [])
    (hvalues : ∀ c ∈ spec.comparisons, c.value.isFractional = false) :
    ofSelect? spec.selection.query spec.selection.values = some spec.reading := by
  have hparts : spec.selectParts ≠ [] := List.cons_ne_nil _ _
  have hstatement := statement?_parts hparts (h.isPart_selectParts hvalues)
  have hrest : (spec.tailParts.map Prod.snd).head? ≠ some [.word "AND"] := by
    unfold tailParts
    cases spec.descendingBy <;> cases spec.limit <;> simp [orderParts, limitParts]
  have hconditions := conditions?_conditionPieces hne hvalues hrest
  have htail : order (spec.tailParts.map Prod.snd) =
      (spec.descendingBy, (limitParts spec.limit).map Prod.snd) := order_parts _ _
  have hboundValues : spec.selection.values = spec.comparisons.flatMap fun c => boundOf c.value :=
    values_predicates _
  rw [ofSelect?, query_selection hne, hstatement, tokens_selectParts, hboundValues]
  simp only [Option.bind_eq_bind, Option.bind_some, columns?_columnsTokens, hconditions, htail,
    limit?_parts]
  rfl

theorem ofDelete?_deletion (h : spec.PlainNames) (hne : spec.fixedComparisons ≠ [])
    (hvalues : ∀ c ∈ spec.fixedComparisons, c.value.isFractional = false) :
    ofDelete? spec.deletion.query spec.deletion.values =
      some (spec.table, spec.fixedComparisons.map Comparison.condition) := by
  have hparts : spec.deleteParts ≠ [] := List.cons_ne_nil _ _
  have hstatement := statement?_parts hparts (h.isPart_deleteParts hvalues)
  have hboundValues : spec.deletion.values =
      spec.fixedComparisons.flatMap fun c => boundOf c.value := values_predicates _
  rw [ofDelete?, query_deletion hne, hstatement, tokens_deleteParts, hboundValues]
  simp only [Option.bind_eq_bind, Option.bind_some, conditions?_all hne hvalues]
  rfl

end SliceSpec

/-! ### Question marks -/

/-- The number of question marks in a text. -/
def questionMarks (text : String) : Nat := text.toList.count '?'

@[simp] theorem questionMarks_append (text text' : String) :
    questionMarks (text ++ text') = questionMarks text + questionMarks text' := by
  simp [questionMarks]

theorem questionMarks_of_isPlainName {name : String} (hname : IsPlainName name) :
    questionMarks name = 0 := by
  apply List.count_eq_zero.2
  intro hmem
  exact absurd (hname.2 _ hmem) (by decide)

theorem questionMarks_nat (n : Nat) : questionMarks (toString n) = 0 := by
  apply List.count_eq_zero.2
  intro hmem
  exact absurd (SliceReading.isDigit_of_mem_toString hmem) (by decide)

/-- The question marks of a list of texts are those of its texts, if there are none between them. -/
theorem questionMarks_intercalate {α β : Type} {separator : String}
    (hseparator : questionMarks separator = 0) {text : α → String} {bound : α → List β}
    {xs : List α} (h : ∀ x ∈ xs, questionMarks (text x) = (bound x).length) :
    questionMarks (separator.intercalate (xs.map text)) = (xs.flatMap bound).length := by
  induction xs with
  | nil => rfl
  | cons x xs ih =>
    obtain ⟨hx, hxs⟩ := List.forall_mem_cons.1 h
    rw [List.flatMap_cons, List.length_append, ← hx, ← ih hxs]
    cases xs with
    | nil => simp [questionMarks]
    | cons y xs =>
      rw [List.map_cons, List.map_cons, String.intercalate_cons_cons, questionMarks_append,
        questionMarks_append, hseparator, Nat.add_zero]

theorem questionMarks_intercalate_eq_zero {separator : String}
    (hseparator : questionMarks separator = 0) {texts : List String}
    (h : ∀ text ∈ texts, questionMarks text = 0) :
    questionMarks (separator.intercalate texts) = 0 := by
  have hnone : ∀ text ∈ texts, questionMarks (id text) = ([] : List Value).length := h
  rw [← List.map_id texts, questionMarks_intercalate hseparator hnone,
    List.flatMap_eq_nil_iff.2 fun _ _ => rfl, List.length_nil]

theorem questionMarks_operand {column : String} {relation : Relation} {v : Value}
    (hv : v.isFractional = false) :
    questionMarks (Predicate.ofValue column relation v).operandText =
      (SliceReading.boundOf v).length := by
  have hinteger : ∀ i : Int, questionMarks (toString i) = 0 := by
    intro i
    cases i with
    | ofNat n => exact questionMarks_nat n
    | negSucc n =>
      show questionMarks ("-" ++ toString (n + 1)) = 0
      rw [questionMarks_append, questionMarks_nat]
      rfl
  have htruth : questionMarks "true" = 0 ∧ questionMarks "false" = 0 := by decide
  have hmark : questionMarks "?" = 1 := by decide
  cases v with
  | bool b =>
    cases b
    · exact htruth.2
    · exact htruth.1
  | int i | bigint i => exact hinteger i.toInt
  | float | double | decimal => cases hv
  | _ => exact hmark

/-- A statement has a question mark for every value, in its condition and in its whole text. -/
structure SliceStatement.Marked (s : SliceStatement) : Prop where
  predicate : questionMarks s.predicate = s.values.length
  query : questionMarks s.query = s.values.length

namespace SliceSpec

open SliceReading

variable {spec : SliceSpec}

/-- The text of comparisons has a question mark for every value that is bound for them. -/
theorem questionMarks_text {comparisons : List Comparison}
    (hnames : ∀ c ∈ comparisons, IsPlainName c.column)
    (hvalues : ∀ c ∈ comparisons, c.value.isFractional = false) :
    questionMarks (WhereClause.text (comparisons.map Comparison.predicate)) =
      (WhereClause.values (comparisons.map Comparison.predicate)).length := by
  have hcomparison : ∀ c ∈ comparisons,
      questionMarks c.predicate.text = (SliceReading.boundOf c.value).length := by
    intro c hc
    have hsign : questionMarks c.relation.sign = 0 := by cases c.relation <;> decide
    rw [c.text_predicate, questionMarks_append, questionMarks_append,
      questionMarks_of_isPlainName (hnames c hc), hsign,
      ← questionMarks_operand (hvalues c hc), Nat.zero_add, Nat.zero_add]
    rfl
  rw [WhereClause.text, List.map_map, values_predicates]
  exact questionMarks_intercalate (by decide) hcomparison

theorem PlainNames.questionMarks_columns (h : spec.PlainNames) :
    questionMarks (Template.columnsOrStar spec.columns) = 0 := by
  unfold Template.columnsOrStar Template.commaList
  split
  · decide
  · exact questionMarks_intercalate_eq_zero (by decide)
      fun c hc => questionMarks_of_isPlainName (h.columns c hc)

theorem PlainNames.questionMarks_tail (h : spec.PlainNames) : questionMarks spec.tail = 0 := by
  have hwords : questionMarks "ORDER" = 0 ∧ questionMarks "BY" = 0 ∧ questionMarks "DESC" = 0 ∧
    questionMarks "LIMIT" = 0 := by decide
  have hparts : ∀ part ∈ spec.tailParts, questionMarks part.1 = 0 := by
    have hcolumn := h.descendingBy
    refine List.forall_mem_append.2 ⟨?_, ?_⟩
    · cases hdescending : spec.descendingBy with
      | none => simp [orderParts]
      | some column =>
        simp [orderParts, hwords, questionMarks_of_isPlainName (hcolumn column hdescending)]
    · cases spec.limit with
      | none => simp [limitParts]
      | some limit =>
        have hlimit := questionMarks_nat limit
        simpa [limitParts, hwords] using hlimit
  rw [tail_eq]
  cases htail : spec.tailParts with
  | nil => rfl
  | cons part parts =>
    rw [htail] at hparts
    have hblank : questionMarks " " = 0 := by decide
    rw [SliceReading.suffix, questionMarks_append, hblank, Nat.zero_add]
    apply questionMarks_intercalate_eq_zero hblank
    intro text htext
    obtain ⟨part', hpart', rfl⟩ := List.mem_map.1 htext
    exact hparts part' hpart'

theorem PlainNames.marked_selection (h : spec.PlainNames)
    (hvalues : ∀ c ∈ spec.comparisons, c.value.isFractional = false) : spec.selection.Marked := by
  have hpredicate := questionMarks_text h.comparisons hvalues
  have hwords : questionMarks "SELECT " = 0 ∧ questionMarks " FROM " = 0 ∧
    questionMarks " WHERE " = 0 ∧ questionMarks ";" = 0 := by decide
  refine ⟨hpredicate, ?_⟩
  show questionMarks ("SELECT " ++ Template.columnsOrStar spec.columns ++ " FROM " ++ spec.table ++
    " WHERE " ++ spec.selection.predicate ++ spec.tail ++ ";") = _
  simp only [questionMarks_append, hwords, h.questionMarks_columns,
    questionMarks_of_isPlainName h.table, h.questionMarks_tail, Nat.add_zero, Nat.zero_add]
  exact hpredicate

theorem PlainNames.marked_deletion (h : spec.PlainNames)
    (hvalues : ∀ c ∈ spec.fixedComparisons, c.value.isFractional = false) :
    spec.deletion.Marked := by
  have hpredicate := questionMarks_text h.fixedComparisons hvalues
  have hwords : questionMarks "DELETE FROM " = 0 ∧ questionMarks " WHERE " = 0 ∧
    questionMarks ";" = 0 := by decide
  refine ⟨hpredicate, ?_⟩
  show questionMarks ("DELETE FROM " ++ spec.table ++ " WHERE " ++ spec.deletion.predicate ++ ";") = _
  simp only [questionMarks_append, hwords, questionMarks_of_isPlainName h.table, Nat.add_zero,
    Nat.zero_add]
  exact hpredicate

/-! ### The contract -/

/-- A read says what the slice is. -/
structure ReadAs (spec : SliceSpec) (s : SliceStatement) : Prop where
  predicate : ofPredicate? s.predicate s.values = some (spec.comparisons.map Comparison.condition)
  query : ofSelect? s.query s.values = some spec.reading
  marked : s.Marked
  fetchSize : s.fetchSize = spec.batchSize

/-- A delete says which columns are fixed, and nothing else. -/
structure DeletedAs (spec : SliceSpec) (s : SliceStatement) : Prop where
  predicate :
    ofPredicate? s.predicate s.values = some (spec.fixedComparisons.map Comparison.condition)
  query : ofDelete? s.query s.values =
    some (spec.table, spec.fixedComparisons.map Comparison.condition)
  marked : s.Marked
  fetchSize : s.fetchSize = none

/-- The signs of the comparisons with the two ends. -/
theorem relations (bounding : Bounding) :
    startRelation .ascending bounding = (if bounding.includesStart then .ge else .gt) ∧
    startRelation .descending bounding = (if bounding.includesStart then .le else .lt) ∧
    stopRelation .ascending bounding = (if bounding.includesEnd then .le else .lt) ∧
    stopRelation .descending bounding = (if bounding.includesEnd then .ge else .gt) := by
  cases bounding <;> decide

/-- The statements of a slice are faithful to it. A slice has a read, or a delete, exactly if what
the statement needs is there, and is refused with an error of the configuration otherwise. With
plain names and values without fractions, a text and its values are read as the comparisons of the
slice in their order, with one question mark for each value, and a read as its columns, its table,
its order and its limit. -/
theorem faithful_contract (spec : SliceSpec) :
    ((∃ s, spec.select = .ok s) ↔ spec.Selectable) ∧
    ((∃ s, spec.delete = .ok s) ↔ spec.Deletable) ∧
    (∀ fault, spec.select = .error fault ∨ spec.delete = .error fault →
      fault.toError.isConfig = true) ∧
    (∀ s, spec.select = .ok s → spec.PlainNames →
      (∀ c ∈ spec.comparisons, c.value.isFractional = false) → spec.ReadAs s) ∧
    (∀ s, spec.delete = .ok s → spec.PlainNames →
      (∀ c ∈ spec.fixedComparisons, c.value.isFractional = false) → spec.DeletedAs s) ∧
    ∀ bounding : Bounding,
      startRelation .ascending bounding = (if bounding.includesStart then .ge else .gt) ∧
      startRelation .descending bounding = (if bounding.includesStart then .le else .lt) ∧
      stopRelation .ascending bounding = (if bounding.includesEnd then .le else .lt) ∧
      stopRelation .descending bounding = (if bounding.includesEnd then .ge else .gt) := by
  have hne : spec.Deletable → spec.fixedComparisons ≠ [] := fun h => by
    simpa [fixedComparisons] using h.nonempty
  refine ⟨?_, ?_, fun fault _ => fault.isConfig_toError, ?_, ?_, relations⟩
  · simp only [select_eq_ok_iff, exists_and_left, exists_eq, and_true]
  · simp only [delete_eq_ok_iff, exists_and_left, exists_eq, and_true]
  · intro s hs hnames hvalues
    obtain ⟨hselectable, rfl⟩ := select_eq_ok_iff.1 hs
    have hsome : spec.comparisons ≠ [] :=
      List.append_ne_nil_of_left_ne_nil (hne hselectable.toDeletable) _
    exact ⟨ofPredicate?_text hsome hnames.comparisons hvalues,
      ofSelect?_selection hnames hsome hvalues, hnames.marked_selection hvalues, rfl⟩
  · intro s hs hnames hvalues
    obtain ⟨hdeletable, rfl⟩ := delete_eq_ok_iff.1 hs
    exact ⟨ofPredicate?_text (hne hdeletable) hnames.fixedComparisons hvalues,
      ofDelete?_deletion hnames (hne hdeletable) hvalues, hnames.marked_deletion hvalues, rfl⟩

/-- Ten values of a column, from the last one to the first. -/
def latest : SliceSpec :=
  { ofTable "samples" with
    fixed := [("sensor", .text "door"), ("unit", .int 3)]
    varying := some "taken"
    start := some (.bigint 9)
    stop := some (.bigint (-2))
    ordering := .descending
    bounding := .inclusiveStart
    limit := some 10 }

theorem plainNames_latest : latest.PlainNames := by decide

/-- The latest samples are read as they are described. -/
theorem faithful_contract_latest :
    latest.PlainNames ∧ (∀ c ∈ latest.comparisons, c.value.isFractional = false) ∧
      ∃ s, latest.select = .ok s ∧ latest.ReadAs s := by
  obtain ⟨hselect, -, -, hread, -⟩ := faithful_contract latest
  have hvalues : ∀ c ∈ latest.comparisons, c.value.isFractional = false := by
    have hall : ∀ fractional ∈ latest.comparisons.map (fun c => c.value.isFractional),
        fractional = false := by decide
    exact fun c hc => hall _ (List.mem_map_of_mem hc)
  have hselectable : latest.Selectable := by
    refine ⟨⟨by decide, by simp [latest], ?_⟩, fun _ => ⟨"taken", rfl, by decide⟩⟩
    intro column v hmem
    have hall : ∀ pair ∈ latest.fixed.map (fun f => (Text.isBlank f.1, f.2.isNull)),
        pair = (false, false) := by decide
    simpa using hall _ (List.mem_map_of_mem hmem)
  obtain ⟨s, hs⟩ := hselect.2 hselectable
  exact ⟨plainNames_latest, hvalues, s, hs, hread s hs plainNames_latest hvalues⟩

example : latest.select.toOption.map SliceStatement.query =
    some ("SELECT * FROM samples WHERE sensor=? AND unit=3 AND taken<=9 AND taken>-2 " ++
      "ORDER BY taken DESC LIMIT 10;") := by
  rfl

end SliceSpec

end WideColumn
