import WideColumn.Proofs.Reachable
import WideColumn.Proofs.Typed.Words
import WideColumn.Query.Typed

/-!
# What a typed query mentions

A hand-written query is accepted when it reads from the table of the class and either selects
everything or mentions every key column. Where a column is mentioned does not matter: one that
stands after the first FROM is as good as one that is selected (`TypedQuery.typed_contract`), and so
a query is accepted whose rows come without their key
(`User.not_projected_of_condition`).
-/

namespace WideColumn

namespace TypedQuery

open Text

variable {em : EntityMeta} {query : String}

/-- The query reads from the table: the name follows FROM. -/
def ReadsFrom (em : EntityMeta) (query : String) : Prop :=
  HasWords "from".toList em.tableName.toList query.toList

/-- The query begins with SELECT and an asterisk, after any blanks. -/
def SelectsAll (query : String) : Prop :=
  ∃ lead select blanks rest, query.toList = lead ++ select ++ blanks ++ '*' :: rest ∧
    (∀ c ∈ lead, isBlankChar c = true) ∧ Folds "select".toList select ∧ blanks ≠ [] ∧
    ∀ c ∈ blanks, isBlankChar c = true

/-- The query mentions the column. -/
def Mentions (query column : String) : Prop := HasWord column.toList query.toList

/-- A text cut before and after its leading SELECT and its first FROM. -/
structure Clauses where
  lead : List Char
  select : List Char
  /-- What is selected. -/
  projection : List Char
  origin : List Char
  /-- The table and everything that follows it. -/
  rest : List Char

/-- The clauses of a query. -/
structure Clauses.Of (c : Clauses) (query : String) : Prop where
  text : query.toList = c.lead ++ (c.select ++ (c.projection ++ (c.origin ++ c.rest)))
  lead : ∀ x ∈ c.lead, isBlankChar x = true
  select : Folds "select".toList c.select
  selectEnd : StartsWord (c.projection ++ (c.origin ++ c.rest))
  origin : Folds "from".toList c.origin
  originBegin : EndsWord c.projection
  originEnd : StartsWord c.rest
  /-- It is the first FROM. -/
  first : ¬ HasWord "from".toList c.projection

/-! ### Keywords and names -/

theorem isWord_select : IsWord "select".toList := ⟨by decide, List.all_eq_true.1 (by decide)⟩

theorem isWord_from : IsWord "from".toList := ⟨by decide, List.all_eq_true.1 (by decide)⟩

theorem isWord_of_isPlainName {name : String} (h : IsPlainName name) : IsWord name.toList := by
  refine ⟨fun hnil => ?_, h.2⟩
  have hhead := h.1
  rw [hnil] at hhead
  cases hhead

/-! ### The checks -/

/-- The front of a text up to its first character that is not blank. -/
theorem blanks_takeWhile (cs : List Char) : ∀ c ∈ cs.takeWhile isBlankChar, isBlankChar c = true :=
  List.all_eq_true.1 List.all_takeWhile

theorem dropWhile_blanks_append {blanks : List Char} (h : ∀ c ∈ blanks, isBlankChar c = true)
    {c : Char} (hc : isBlankChar c = false) (cs : List Char) :
    (blanks ++ c :: cs).dropWhile isBlankChar = c :: cs := by
  rw [List.dropWhile_append_of_pos h, List.dropWhile_cons_of_neg (by simp [hc])]

theorem selectsAll_iff : selectsAll query.toList = true ↔ SelectsAll query := by
  unfold selectsAll
  constructor
  · intro h
    split at h
    · next last rest hmatch =>
      obtain ⟨select, hselect, hfolds, -⟩ := matchFolded_eq_some_iff.1 hmatch
      obtain ⟨hblank, hstar⟩ := Bool.and_eq_true_iff.1 h
      obtain ⟨tail, htail⟩ := List.head?_eq_some_iff.1 (beq_iff_eq.1 hstar)
      refine ⟨query.toList.takeWhile isBlankChar, select, rest.takeWhile isBlankChar, tail, ?_,
        blanks_takeWhile _, hfolds, ?_, blanks_takeWhile _⟩
      · calc query.toList
            = query.toList.takeWhile isBlankChar ++ query.toList.dropWhile isBlankChar :=
              List.takeWhile_append_dropWhile.symm
          _ = query.toList.takeWhile isBlankChar ++
                (select ++ (rest.takeWhile isBlankChar ++ rest.dropWhile isBlankChar)) := by
              rw [hselect, List.takeWhile_append_dropWhile]
          _ = _ := by rw [htail]; simp only [List.append_assoc]
      · intro hnil
        cases rest with
        | nil => cases hblank
        | cons c rest => simp [show isBlankChar c = true from hblank] at hnil
    · cases h
  · rintro ⟨lead, select, blanks, rest, htext, hlead, hselect, hne, hblanks⟩
    obtain ⟨s, ss, rfl⟩ := List.exists_cons_of_ne_nil (hselect.ne_nil isWord_select)
    obtain ⟨b, bs, rfl⟩ := List.exists_cons_of_ne_nil hne
    have hs : isBlankChar s = false := by
      have hletter := isWordChar_of_folds isWord_select hselect s List.mem_cons_self
      by_contra hblank
      rw [isWordChar_of_isBlankChar (by simpa using hblank)] at hletter
      cases hletter
    have hdrop : query.toList.dropWhile isBlankChar = s :: ss ++ (b :: bs ++ '*' :: rest) := by
      rw [htext, List.append_assoc, List.append_assoc]
      exact dropWhile_blanks_append hlead hs _
    rw [hdrop, matchFolded_eq_some_iff.2 ⟨s :: ss, rfl, hselect, rfl⟩]
    dsimp only
    rw [dropWhile_blanks_append hblanks (by decide) rest]
    simpa using hblanks b List.mem_cons_self

theorem validateRaw_eq_ok_iff (htable : IsPlainName em.tableName) :
    validateRaw em query = .ok () ↔ ReadsFrom em query := by
  rw [ReadsFrom, ← containsWords_iff isWord_from (isWord_of_isPlainName htable), validateRaw]
  split <;> simp_all

/-- The first key column that the query does not mention. -/
theorem find?_missing (hcolumns : ∀ column ∈ em.idColumns, IsPlainName column) :
    (em.idColumns.find? fun column => !containsWord column.toList query.toList) = none ↔
      ∀ column ∈ em.idColumns, Mentions query column := by
  rw [List.find?_eq_none]
  refine forall₂_congr fun column hcolumn => ?_
  rw [Mentions, ← containsWord_iff (isWord_of_isPlainName (hcolumns column hcolumn))]
  simp

theorem validate_eq_ok_iff (htable : IsPlainName em.tableName)
    (hcolumns : ∀ column ∈ em.idColumns, IsPlainName column) :
    validate em query = .ok () ↔ ReadsFrom em query ∧
      (SelectsAll query ∨ ∀ column ∈ em.idColumns, Mentions query column) := by
  rw [← validateRaw_eq_ok_iff htable, ← selectsAll_iff, ← find?_missing hcolumns]
  unfold validate
  cases hraw : validateRaw em query with
  | error error => simp [bind, Except.bind]
  | ok u =>
    by_cases hall : selectsAll query.toList = true
    · simp [hall, bind, Except.bind, pure, Except.pure]
    · cases em.idColumns.find? fun column => !containsWord column.toList query.toList <;>
        simp [hall, bind, Except.bind, pure, Except.pure, throw, throwThe, MonadExceptOf.throw]

/-- A refused query either does not read from the table, or there is a first key column that it does
not mention; the error says which. -/
theorem refused_of_validate (htable : IsPlainName em.tableName)
    (hcolumns : ∀ column ∈ em.idColumns, IsPlainName column) {error : Error}
    (h : validate em query = .error error) :
    (¬ ReadsFrom em query ∧ validateRaw em query = .error error) ∨
      (ReadsFrom em query ∧ ¬ SelectsAll query ∧ ∃ before column after,
        em.idColumns = before ++ column :: after ∧ (∀ other ∈ before, Mentions query other) ∧
          ¬ Mentions query column ∧ error = missingColumn em query column) := by
  rw [← validateRaw_eq_ok_iff htable, ← selectsAll_iff]
  unfold validate at h
  cases hraw : validateRaw em query with
  | error rawError =>
    rw [hraw] at h
    exact .inl ⟨by simp, h⟩
  | ok u =>
    simp only [hraw, bind, Except.bind, pure, Except.pure] at h
    split at h
    · cases h
    · next hall =>
      split at h
      · next column hfind =>
        obtain ⟨hmissing, before, after, hsplit, hbefore⟩ := List.find?_eq_some_iff_append.1 hfind
        have hmentions : ∀ other ∈ em.idColumns,
            (containsWord other.toList query.toList = true ↔ Mentions query other) :=
          fun other hother => containsWord_iff (isWord_of_isPlainName (hcolumns other hother))
        refine .inr ⟨rfl, hall, before, column, after, hsplit, fun other hother => ?_, ?_, ?_⟩
        · rw [← hmentions other (by simp [hsplit, hother])]
          simpa using hbefore other hother
        · rw [← hmentions column (by simp [hsplit])]
          simpa using hmissing
        · exact (Except.error.inj h).symm
      · cases h

/-! ### The clauses -/

/-- A column is mentioned if it stands in what is selected, or after the first FROM; only a column
that is called like one of the two keywords is mentioned by these. -/
theorem Clauses.Of.mentions_iff {c : Clauses} (h : c.Of query) {column : String}
    (hcolumn : IsPlainName column) :
    Mentions query column ↔ HasWord column.toList c.projection ∨ HasWord column.toList c.rest ∨
      Folds column.toList "select".toList ∨ Folds column.toList "from".toList := by
  have hword := isWord_of_isPlainName hcolumn
  have hselect := isWordChar_of_folds isWord_select h.select
  have horigin := isWordChar_of_folds isWord_from h.origin
  have hlead := endsWord_of_blanks h.lead
  have hkeyword : ∀ {keyword cs : List Char}, Folds keyword cs →
      (Folds column.toList cs ↔ Folds column.toList keyword) := by
    intro keyword cs hfolds
    rw [Folds, Folds, hfolds]
  rw [Mentions, h.text, hasWord_append_iff hword (.inl hlead),
    hasWord_append_iff hword (.inr h.selectEnd), hasWord_append_iff hword (.inl h.originBegin),
    hasWord_append_iff hword (.inr h.originEnd), hasWord_iff_of_letters hselect,
    hasWord_iff_of_letters horigin, hkeyword h.select, hkeyword h.origin]
  have hblank := not_hasWord_of_blanks hword h.lead
  tauto

/-- Which queries are accepted. A query needs to read from the table and, unless it selects
everything, to mention the key columns; a refusal tells what is missing first. A column that is not
selected counts as well if it stands anywhere after the first FROM. -/
theorem typed_contract (htable : IsPlainName em.tableName)
    (hcolumns : ∀ column ∈ em.idColumns, IsPlainName column) (query : String) :
    (validateRaw em query = .ok () ↔ ReadsFrom em query) ∧
    (validate em query = .ok () ↔ ReadsFrom em query ∧
      (SelectsAll query ∨ ∀ column ∈ em.idColumns, Mentions query column)) ∧
    (∀ error, validate em query = .error error →
      (¬ ReadsFrom em query ∧ validateRaw em query = .error error) ∨
      (ReadsFrom em query ∧ ¬ SelectsAll query ∧ ∃ before column after,
        em.idColumns = before ++ column :: after ∧ (∀ other ∈ before, Mentions query other) ∧
          ¬ Mentions query column ∧ error = missingColumn em query column)) ∧
    ∀ c : Clauses, c.Of query → ¬ SelectsAll query →
      (validate em query = .ok () ↔ ReadsFrom em query ∧ ∀ column ∈ em.idColumns,
        HasWord column.toList c.projection ∨ HasWord column.toList c.rest ∨
          Folds column.toList "select".toList ∨ Folds column.toList "from".toList) := by
  refine ⟨validateRaw_eq_ok_iff htable, validate_eq_ok_iff htable hcolumns,
    fun error => refused_of_validate htable hcolumns, fun c hc hall => ?_⟩
  rw [validate_eq_ok_iff htable hcolumns, or_iff_right hall]
  exact and_congr_right fun _ => forall₂_congr fun column hcolumn =>
    hc.mentions_iff (hcolumns column hcolumn)

end TypedQuery

namespace User

open Text TypedQuery

/-- A class of users with a numeric key and a name. -/
def draft : EntityDraft where
  className := "User"
  tableName := "users"
  properties := [.ofKind "id" .id .bigint, .ofKind "name" .simple .text]
  readLevel := none
  writeLevel := none
  isClusteredCounter := false

/-- The checked class. -/
def entity : EntityMeta where
  className := "User"
  tableName := "users"
  id := { PropertyDraft.ofKind "id" .id .bigint with entityClass := "User" }
  properties :=
    [{ PropertyDraft.ofKind "id" .id .bigint with entityClass := "User" },
      { PropertyDraft.ofKind "name" .simple .text with entityClass := "User" }]
  declaredReadLevel := none
  declaredWriteLevel := none
  readLevel := Level.standard
  writeLevel := Level.standard
  isClusteredCounter := false

theorem built : entity.Built := ⟨draft, entity, Level.standard, Level.standard, by rfl, rfl⟩

/-- The key column stands in the condition, not among what is selected. -/
def query : String := "SELECT name FROM users WHERE id=1"

/-- The query, cut at its keywords. -/
def clauses : Clauses where
  lead := []
  select := "SELECT".toList
  projection := " name ".toList
  origin := "FROM".toList
  rest := " users WHERE id=1".toList

theorem clauses_of : clauses.Of query where
  text := by decide
  lead := List.all_eq_true.1 (by decide)
  select := by decide
  selectEnd := by decide
  origin := by decide
  originBegin := by decide
  originEnd := by decide
  first := by
    rw [← containsWord_iff isWord_from]
    decide

theorem not_selectsAll : ¬ SelectsAll query := by
  rw [← selectsAll_iff]
  decide

theorem plainNames : ∀ column ∈ entity.idColumns, IsPlainName column := by decide

theorem isWord_id : IsWord "id".toList := ⟨by decide, List.all_eq_true.1 (by decide)⟩

/-- The query that mentions the key in its condition alone is accepted. -/
theorem typed_contract_condition :
    IsPlainName entity.tableName ∧ (∀ column ∈ entity.idColumns, IsPlainName column) ∧
      validate entity query = .ok () ∧ HasWord "id".toList clauses.rest := by
  have htable : IsPlainName entity.tableName := by decide
  obtain ⟨hraw, -, -, hclauses⟩ := typed_contract htable plainNames query
  have hrest : HasWord "id".toList clauses.rest := (containsWord_iff isWord_id).1 (by decide)
  refine ⟨htable, plainNames, (hclauses clauses clauses_of not_selectsAll).2 ⟨hraw.1 ?_, ?_⟩, hrest⟩
  · decide +kernel
  · intro column hcolumn
    rw [List.mem_singleton.1 hcolumn]
    exact .inr (.inl hrest)

/-- So a query can be accepted whose rows come without their key. -/
theorem not_projected_of_condition :
    ¬ ∀ (em : EntityMeta) (query : String) (c : Clauses), em.Built → IsPlainName em.tableName →
      (∀ column ∈ em.idColumns, IsPlainName column) → validate em query = .ok () →
      ¬ SelectsAll query → c.Of query →
      ∀ column ∈ em.idColumns, HasWord column.toList c.projection := by
  intro h
  have hprojected := h entity query clauses built (by decide) plainNames (by decide +kernel)
    not_selectsAll clauses_of "id" (List.mem_singleton_self _)
  rw [← containsWord_iff isWord_id] at hprojected
  revert hprojected
  decide

end User

end WideColumn
