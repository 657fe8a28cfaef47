import Mathlib.Data.List.DropRight
import WideColumn.Level.ByTable

/-!
# The text form of levels by table

The text is cut at its commas. A blank piece means nothing; every other piece has to be a table, a
colon and the name of a level, the name in any case and blanks around either of them as one likes.
Of several pieces for one table the last counts. Main statement: `grammar_contract`.
-/

namespace WideColumn

/-! ### Cutting and trimming -/

namespace Text

/-- Texts that differ at most in the case of ASCII letters. -/
def SameButCase (cs ds : List Char) : Prop := cs.map Char.toUpper = ds.map Char.toUpper

theorem pieces_eq_splitOn (sep : Char) (cs : List Char) : pieces sep cs = cs.splitOn sep := by
  induction cs with
  | nil => rfl
  | cons c rest ih =>
    rw [List.splitOn_eq_splitOnP, List.splitOnP_cons_eq_if_modifyHead,
      ← List.splitOn_eq_splitOnP, ← ih]
    cases hrest : pieces sep rest with
    | nil => exact absurd hrest (pieces_ne_nil sep rest)
    | cons piece more => by_cases h : c = sep <;> simp [pieces, h, hrest]

theorem cut_append_cons {sep : Char} {before : List Char} (h : sep ∉ before) (after : List Char) :
    cut sep (before ++ sep :: after) = some (before, after) := by
  induction before with
  | nil => simp [cut]
  | cons c rest ih =>
    have hc : c ≠ sep := fun heq => h (by simp [heq])
    have hrest : sep ∉ rest := fun hmem => h (by simp [hmem])
    simp [cut, hc, ih hrest]

theorem cut_eq_none_iff {sep : Char} {cs : List Char} : cut sep cs = none ↔ sep ∉ cs := by
  induction cs with
  | nil => simp [cut]
  | cons c rest ih =>
    by_cases h : c = sep
    · simp [cut, h]
    · simp [cut, h, ih, Ne.symm h]

/-- Nothing is dropped from behind what is not to be dropped. -/
theorem dropWhile_append_cons {p : Char → Bool} {c : Char} (h : p c = false)
    (before after : List Char) :
    (before ++ c :: after).dropWhile p = before.dropWhile p ++ c :: after := by
  rw [List.dropWhile_append]
  split
  · next hempty => simp [List.isEmpty_iff.1 hempty, h]
  · rfl

theorem rdropWhile_append_cons {p : Char → Bool} {c : Char} (h : p c = false)
    (before after : List Char) :
    (before ++ c :: after).rdropWhile p = before ++ c :: after.rdropWhile p := by
  simp [List.rdropWhile, dropWhile_append_cons h]

/-- It does not matter at which end one begins to drop. -/
theorem dropWhile_rdropWhile (p : Char → Bool) (cs : List Char) :
    (cs.rdropWhile p).dropWhile p = (cs.dropWhile p).rdropWhile p := by
  induction cs with
  | nil => rfl
  | cons c rest ih =>
    cases hc : p c with
    | false =>
      have hkept := rdropWhile_append_cons hc [] rest
      rw [List.nil_append, List.nil_append] at hkept
      simp [hkept, hc]
    | true =>
      rw [List.dropWhile_cons_of_pos hc, ← ih]
      unfold List.rdropWhile
      rw [List.reverse_cons, List.dropWhile_append]
      split
      · next hempty => simp [List.isEmpty_iff.1 hempty, hc]
      · simp [hc]

theorem trimChars_dropWhile (cs : List Char) :
    trimChars (cs.dropWhile isBlankChar) = trimChars cs := by
  unfold trimChars
  rw [List.dropWhile_idempotent]

theorem trimChars_rdropWhile (cs : List Char) :
    trimChars (cs.rdropWhile isBlankChar) = trimChars cs := by
  show ((cs.rdropWhile isBlankChar).dropWhile isBlankChar).rdropWhile isBlankChar = _
  rw [dropWhile_rdropWhile, List.rdropWhile_idempotent]
  rfl

/-- Trimming a text does not move its first separator. -/
theorem cut_trimChars {sep : Char} (hsep : isBlankChar sep = false) (cs : List Char) :
    cut sep (trimChars cs) = (cut sep cs).map fun (before, after) =>
      (before.dropWhile isBlankChar, after.rdropWhile isBlankChar) := by
  cases hcut : cut sep cs with
  | none =>
    have hsub : (trimChars cs).Sublist cs :=
      (List.rdropWhile_prefix _ _).sublist.trans (List.dropWhile_sublist _)
    exact cut_eq_none_iff.2 fun hmem => cut_eq_none_iff.1 hcut (hsub.subset hmem)
  | some parts =>
    obtain ⟨before, after⟩ := parts
    obtain ⟨rfl, hbefore⟩ := cut_eq_some hcut
    have htrim : trimChars (before ++ sep :: after) =
        before.dropWhile isBlankChar ++ sep :: after.rdropWhile isBlankChar := by
      show ((before ++ sep :: after).dropWhile isBlankChar).rdropWhile isBlankChar = _
      rw [dropWhile_append_cons hsep, rdropWhile_append_cons hsep]
    have hfront : sep ∉ before.dropWhile isBlankChar :=
      fun hmem => hbefore ((List.dropWhile_sublist _).subset hmem)
    rw [htrim, cut_append_cons hfront]
    rfl

end Text

open Text

/-! ### Names of levels -/

namespace Level

theorem ofName?_eq_some_iff {name : String} {level : Level} :
    ofName? name = some level ↔ name = level.name := by
  constructor
  · intro h
    unfold ofName? at h
    have hname := List.find?_some h
    exact (eq_of_beq hname).symm
  · rintro rfl
    exact ofName?_name level

theorem upperChars_name (level : Level) : upperChars level.name.toList = level.name.toList := by
  cases level <;> decide +kernel

/-- A level is read off its name, whatever the case and the blanks around it. -/
theorem parse_eq_ok_iff {cs : List Char} {level : Level} :
    parse cs = .ok level ↔ SameButCase (trimChars cs) level.name.toList := by
  have hname : String.ofList (upperChars (trimChars cs)) = level.name ↔
      SameButCase (trimChars cs) level.name.toList := by
    unfold SameButCase
    rw [show level.name.toList.map Char.toUpper = level.name.toList from upperChars_name level,
      ← String.toList_inj, String.toList_ofList]
    rfl
  rw [← hname, ← ofName?_eq_some_iff]
  unfold parse
  cases hfound : ofName? (String.ofList (upperChars (trimChars cs))) with
  | none => simp [hfound]
  | some found => simp [hfound]

end Level

namespace TableLevels

/-! ### Pieces -/

/-- The piece is a table, a colon and the name of a level. -/
def IsEntry (piece : List Char) (table : String) (level : Level) : Prop :=
  ∃ before after, piece = before ++ ':' :: after ∧ ':' ∉ before ∧
    trimChars before = table.toList ∧ table ≠ "" ∧
    SameButCase (trimChars after) level.name.toList

/-- The last piece for the table gives it the level. -/
def LastEntry (pieces : List (List Char)) (table : String) (level : Level) : Prop :=
  ∃ earlier piece later, pieces = earlier ++ piece :: later ∧ IsEntry piece table level ∧
    ∀ other ∈ later, ∀ l, ¬ IsEntry other table l

/-- A name that can stand for a table in the text form. -/
structure PlainTable (table : String) : Prop where
  trimmed : trim table = table
  notBlank : isBlank table = false
  noComma : ',' ∉ table.toList
  noColon : ':' ∉ table.toList

/-- The trimmed pieces that are not blank. -/
def entriesIn (pieces : List (List Char)) : List (List Char) :=
  (pieces.map trimChars).filter fun e => !e.isEmpty

theorem parse_eq (text : String) :
    parse text = parseEntries [] (entriesIn (text.toList.splitOn ',')) := by
  unfold parse
  rw [pieces_eq_splitOn]
  rfl

variable {piece : List Char} {table : String} {level : Level} {levels result : TableLevels}
  {pieces : List (List Char)}

theorem isEntry_append_cons {before : List Char} (h : ':' ∉ before) (after : List Char) :
    IsEntry (before ++ ':' :: after) table level ↔ trimChars before = table.toList ∧ table ≠ "" ∧
      SameButCase (trimChars after) level.name.toList := by
  refine ⟨?_, fun hparts => ⟨before, after, rfl, h, hparts⟩⟩
  rintro ⟨before', after', heq, h', hparts⟩
  have hcut := cut_append_cons h' after'
  rw [← heq, cut_append_cons h] at hcut
  obtain ⟨rfl, rfl⟩ := Prod.mk.inj (Option.some.inj hcut)
  exact hparts

/-- An entry is read off a piece if and only if the piece is one. -/
theorem parseEntry_trimChars_eq_ok_iff :
    parseEntry (trimChars piece) = .ok (table, level) ↔ IsEntry piece table level := by
  unfold parseEntry
  rw [cut_trimChars (by decide)]
  cases hcut : cut ':' piece with
  | none =>
    refine iff_of_false nofun ?_
    rintro ⟨before, after, rfl, -⟩
    exact cut_eq_none_iff.1 hcut (by simp)
  | some parts =>
    obtain ⟨before, after⟩ := parts
    obtain ⟨rfl, hbefore⟩ := cut_eq_some hcut
    have hlevel : Level.parse (after.rdropWhile isBlankChar) = .ok level ↔
        SameButCase (trimChars after) level.name.toList := by
      rw [Level.parse_eq_ok_iff, trimChars_rdropWhile]
    rw [isEntry_append_cons hbefore, ← hlevel]
    simp only [Option.map_some, trimChars_dropWhile]
    by_cases hempty : trimChars before = []
    · rw [if_pos (by simp [hempty]), hempty]
      refine iff_of_false nofun ?_
      rintro ⟨htable, hne, -⟩
      exact hne (String.toList_inj.1 htable.symm)
    · rw [if_neg (by simp [hempty])]
      cases Level.parse (after.rdropWhile isBlankChar) with
      | error e => simp [Except.map]
      | ok l =>
        simp only [Except.map, Except.ok.injEq, Prod.mk.injEq]
        constructor
        · rintro ⟨rfl, rfl⟩
          exact ⟨String.toList_ofList.symm, fun h => hempty (by simpa using h), rfl⟩
        · rintro ⟨htable, -, rfl⟩
          exact ⟨by rw [htable, String.ofList_toList], rfl⟩

theorem IsEntry.unique {table' : String} {level' : Level} (h : IsEntry piece table level)
    (h' : IsEntry piece table' level') : table' = table ∧ level' = level := by
  rw [← parseEntry_trimChars_eq_ok_iff] at h h'
  exact Prod.mk.inj (Except.ok.inj (h'.symm.trans h))

/-- No blank piece is an entry. -/
theorem IsEntry.not_blank (h : IsEntry piece table level) : ¬ piece.all isBlankChar := by
  obtain ⟨before, after, rfl, -⟩ := h
  simp [show isBlankChar ':' = false by decide]

theorem lastEntry_cons : LastEntry (piece :: pieces) table level ↔
    LastEntry pieces table level ∨
      (IsEntry piece table level ∧ ∀ other ∈ pieces, ∀ l, ¬ IsEntry other table l) := by
  constructor
  · rintro ⟨_ | ⟨first, earlier⟩, last, later, heq, hlast, hlater⟩
    · obtain ⟨rfl, rfl⟩ := List.cons.inj heq
      exact .inr ⟨hlast, hlater⟩
    · obtain ⟨rfl, rfl⟩ := List.cons.inj heq
      exact .inl ⟨earlier, last, later, rfl, hlast, hlater⟩
  · rintro (⟨earlier, last, later, rfl, hlast, hlater⟩ | ⟨hpiece, hlater⟩)
    · exact ⟨piece :: earlier, last, later, rfl, hlast, hlater⟩
    · exact ⟨[], piece, pieces, rfl, hpiece, hlater⟩

/-! ### Reading all pieces -/

theorem entriesIn_cons_of_blank (h : piece.all isBlankChar) (pieces : List (List Char)) :
    entriesIn (piece :: pieces) = entriesIn pieces := by
  simp [entriesIn, (trimChars_eq_nil_iff piece).2 h]

theorem entriesIn_cons_of_not_blank (h : ¬ piece.all isBlankChar) (pieces : List (List Char)) :
    entriesIn (piece :: pieces) = trimChars piece :: entriesIn pieces := by
  have hne : trimChars piece ≠ [] := fun hnil => h ((trimChars_eq_nil_iff piece).1 hnil)
  simp [entriesIn, hne]

theorem parseEntries_cons_of_ok (h : IsEntry piece table level) (levels : TableLevels)
    (rest : List (List Char)) : parseEntries levels (trimChars piece :: rest) =
      parseEntries (levels.insert table level) rest := by
  rw [parseEntries, parseEntry_trimChars_eq_ok_iff.2 h]
  rfl

theorem isEntry_of_parseEntries (h : parseEntries levels (trimChars piece :: pieces) = .ok result) :
    ∃ table level, IsEntry piece table level := by
  rw [parseEntries] at h
  cases hentry : parseEntry (trimChars piece) with
  | error e => rw [hentry] at h; exact nomatch h
  | ok entry => exact ⟨entry.1, entry.2, parseEntry_trimChars_eq_ok_iff.1 hentry⟩

/-- Reading succeeds exactly if every piece that is not blank is an entry. -/
theorem exists_parseEntries_iff (levels : TableLevels) (pieces : List (List Char)) :
    (∃ result, parseEntries levels (entriesIn pieces) = .ok result) ↔
      ∀ piece ∈ pieces, ¬ piece.all isBlankChar → ∃ table level, IsEntry piece table level := by
  induction pieces generalizing levels with
  | nil => simp [entriesIn, parseEntries]
  | cons piece rest ih =>
    rw [List.forall_mem_cons]
    by_cases hblank : piece.all isBlankChar
    · rw [entriesIn_cons_of_blank hblank, ih]
      exact ⟨fun h => ⟨fun hnot => absurd hblank hnot, h⟩, And.right⟩
    · rw [entriesIn_cons_of_not_blank hblank]
      constructor
      · rintro ⟨result, hresult⟩
        obtain ⟨table, level, hentry⟩ := isEntry_of_parseEntries hresult
        rw [parseEntries_cons_of_ok hentry] at hresult
        exact ⟨fun _ => ⟨table, level, hentry⟩, (ih _).1 ⟨result, hresult⟩⟩
      · rintro ⟨hpiece, hrest⟩
        obtain ⟨table, level, hentry⟩ := hpiece hblank
        rw [parseEntries_cons_of_ok hentry]
        exact (ih _).2 hrest

/-- What a look-up sees after reading: the last entry of the table, or what was there before. -/
theorem find?_of_parseEntries (h : parseEntries levels (entriesIn pieces) = .ok result) :
    result.find? table = some level ↔ LastEntry pieces table level ∨
      ((∀ piece ∈ pieces, ∀ l, ¬ IsEntry piece table l) ∧ levels.find? table = some level) := by
  induction pieces generalizing levels with
  | nil =>
    obtain rfl := Except.ok.inj h
    simp [LastEntry]
  | cons piece rest ih =>
    rw [lastEntry_cons, List.forall_mem_cons]
    by_cases hblank : piece.all isBlankChar
    · rw [entriesIn_cons_of_blank hblank] at h
      have hpiece (l : Level) : ¬ IsEntry piece table l := fun hentry => hentry.not_blank hblank
      simp [ih h, hpiece]
    · rw [entriesIn_cons_of_not_blank hblank] at h
      obtain ⟨own, given, hentry⟩ := isEntry_of_parseEntries h
      rw [parseEntries_cons_of_ok hentry] at h
      rw [ih h, find?_insert]
      by_cases htable : table = own
      · subst htable
        have hpiece : IsEntry piece table level ↔ given = level :=
          ⟨fun hother => (hother.unique hentry).2, fun heq => heq ▸ hentry⟩
        have hsome : ¬ ∀ l, ¬ IsEntry piece table l := fun hnone => hnone given hentry
        simp [hpiece, hsome, and_comm]
      · have hpiece (l : Level) : ¬ IsEntry piece table l :=
          fun hother => htable (hentry.unique hother).1
        simp [hpiece, htable]

/-! ### Tables occur once -/

theorem insert_of_notMem (h : table ∉ levels.map Prod.fst) :
    levels.insert table level = levels ++ [(table, level)] := by
  induction levels with
  | nil => rfl
  | cons entry rest ih =>
    obtain ⟨t, l⟩ := entry
    rw [List.map_cons, List.mem_cons, not_or] at h
    simp [insert, Ne.symm h.1, ih h.2]

theorem map_fst_insert_of_mem (h : table ∈ levels.map Prod.fst) :
    (levels.insert table level).map Prod.fst = levels.map Prod.fst := by
  induction levels with
  | nil => exact absurd h List.not_mem_nil
  | cons entry rest ih =>
    obtain ⟨t, l⟩ := entry
    by_cases ht : t = table
    · simp [insert, ht]
    · have hrest : table ∈ rest.map Prod.fst := by simpa [Ne.symm ht] using h
      simp [insert, ht, ih hrest]

theorem nodup_insert (h : (levels.map Prod.fst).Nodup) (table : String) (level : Level) :
    ((levels.insert table level).map Prod.fst).Nodup := by
  by_cases hmem : table ∈ levels.map Prod.fst
  · rw [map_fst_insert_of_mem hmem]
    exact h
  · rw [insert_of_notMem hmem, List.map_append]
    refine List.nodup_append.2 ⟨h, by simp, fun t ht t' ht' heq => hmem ?_⟩
    obtain rfl := List.mem_singleton.1 ht'
    exact heq ▸ ht

theorem nodup_of_parseEntries {entries : List (List Char)}
    (h : parseEntries levels entries = .ok result) (hlevels : (levels.map Prod.fst).Nodup) :
    (result.map Prod.fst).Nodup := by
  induction entries generalizing levels with
  | nil =>
    obtain rfl := Except.ok.inj h
    exact hlevels
  | cons entry rest ih =>
    rw [parseEntries] at h
    cases hentry : parseEntry entry with
    | error e => rw [hentry] at h; exact nomatch h
    | ok row =>
      rw [hentry] at h
      exact ih h (nodup_insert hlevels row.1 row.2)

/-- Where no table occurs twice, the look-up sees every entry. -/
theorem find?_eq_some_iff (h : (levels.map Prod.fst).Nodup) :
    levels.find? table = some level ↔ (table, level) ∈ levels := by
  induction levels with
  | nil => simp [find?]
  | cons entry rest ih =>
    obtain ⟨t, l⟩ := entry
    rw [List.map_cons, List.nodup_cons] at h
    have hrest := ih h.2
    unfold find? at hrest ⊢
    by_cases ht : table = t
    · subst ht
      have hout : (table, level) ∉ rest := fun hmem => h.1 (List.mem_map.2 ⟨_, hmem, rfl⟩)
      simp [hout, eq_comm]
    · simp [List.lookup_cons, beq_eq_false_iff_ne.2 ht, hrest, ht]

theorem find?_of_perm {entries order : TableLevels} (h : (entries.map Prod.fst).Nodup)
    (hperm : order.Perm entries) (table : String) : order.find? table = entries.find? table := by
  have horder : (order.map Prod.fst).Nodup := (hperm.map Prod.fst).nodup_iff.2 h
  refine Option.ext fun level => ?_
  rw [find?_eq_some_iff horder, find?_eq_some_iff h]
  exact hperm.mem_iff

/-! ### Reading what was written -/

/-- The text of one entry. -/
def entryText (entry : String × Level) : List Char := entry.1.toList ++ ':' :: entry.2.name.toList

theorem toList_render (levels : TableLevels) :
    (render levels).toList = [','].intercalate (levels.map entryText) := by
  unfold render
  rw [String.toList_intercalate, List.map_map]
  congr 1
  refine List.map_congr_left fun entry _ => ?_
  simp [entryText, toString]

theorem comma_notMem_name (level : Level) : ',' ∉ level.name.toList := by
  cases level <;> decide +kernel

theorem trimChars_name (level : Level) : trimChars level.name.toList = level.name.toList := by
  cases level <;> decide +kernel

theorem PlainTable.isEntry (h : PlainTable table) (level : Level) :
    IsEntry (entryText (table, level)) table level := by
  have htrim : trimChars table.toList = table.toList := by
    simpa [trim] using congrArg String.toList h.trimmed
  refine (isEntry_append_cons h.noColon _).2 ⟨htrim, ?_, ?_⟩
  · rintro rfl
    exact absurd h.notBlank (by decide)
  · rw [trimChars_name]
    rfl

theorem parseEntries_entryText {order : TableLevels}
    (hnodup : ((levels ++ order).map Prod.fst).Nodup) (hplain : ∀ e ∈ order, PlainTable e.1) :
    parseEntries levels (entriesIn (order.map entryText)) = .ok (levels ++ order) := by
  induction order generalizing levels with
  | nil =>
    rw [List.append_nil]
    rfl
  | cons entry rest ih =>
    obtain ⟨table, level⟩ := entry
    rw [List.forall_mem_cons] at hplain
    have hentry := hplain.1.isEntry level
    have hfresh : table ∉ levels.map Prod.fst := by
      rw [List.map_append, List.nodup_append] at hnodup
      exact fun hmem => hnodup.2.2 table hmem table (by simp) rfl
    rw [List.map_cons, entriesIn_cons_of_not_blank hentry.not_blank,
      parseEntries_cons_of_ok hentry, insert_of_notMem hfresh, ih (by simpa using hnodup) hplain.2,
      List.append_assoc]
    rfl

theorem parse_render {order : TableLevels} (hnodup : (order.map Prod.fst).Nodup)
    (hplain : ∀ e ∈ order, PlainTable e.1) : parse (render order) = .ok order := by
  rw [parse_eq, toList_render]
  by_cases hempty : order = []
  · subst hempty
    rfl
  · rw [List.splitOn_intercalate ',' _ (by simpa using hempty)]
    · exact parseEntries_entryText hnodup hplain
    · intro text htext
      obtain ⟨entry, hentry, rfl⟩ := List.mem_map.1 htext
      simp [entryText, (hplain entry hentry).noComma, comma_notMem_name]

/-! ### The contract -/

/-- A text is read exactly if each of its pieces is blank or an entry, and then every table has the
level of its last entry and no other table has one. The text of any levels of plain tables, in
whatever order, is read as these levels. -/
theorem grammar_contract :
    (∀ text : String, (∃ levels, parse text = .ok levels) ↔
      ∀ piece ∈ text.toList.splitOn ',', ¬ piece.all isBlankChar →
        ∃ table level, IsEntry piece table level) ∧
    (∀ (text : String) (levels : TableLevels), parse text = .ok levels →
      (levels.map Prod.fst).Nodup ∧ ∀ table level,
        levels.find? table = some level ↔ LastEntry (text.toList.splitOn ',') table level) ∧
    (∀ entries order : TableLevels, (entries.map Prod.fst).Nodup →
      (∀ e ∈ entries, PlainTable e.1) → order.Perm entries →
        parse (render order) = .ok order ∧
          ∀ table, order.find? table = entries.find? table) := by
  refine ⟨fun text => ?_, fun text levels hparse => ?_, fun entries order hnodup hplain hperm => ?_⟩
  · rw [parse_eq]
    exact exists_parseEntries_iff [] _
  · rw [parse_eq] at hparse
    refine ⟨nodup_of_parseEntries hparse List.nodup_nil, fun table level => ?_⟩
    rw [find?_of_parseEntries hparse]
    simp [find?]
  · have horder : (order.map Prod.fst).Nodup := (hperm.map Prod.fst).nodup_iff.2 hnodup
    exact ⟨parse_render horder fun e he => hplain e (hperm.mem_iff.1 he),
      find?_of_perm hnodup hperm⟩

/-- Blank pieces mean nothing, and the last entry of a table counts. -/
example : parse " , users:one,,users: Two" = .ok [("users", .two)] := by decide +kernel

/-- The levels of two tables. -/
def users : TableLevels := [("users", .quorum), ("tweets", .localOne)]

theorem plainTable_of_mem_users : ∀ e ∈ users, PlainTable e.1 := by
  have hplain (table : String) (h : table = "users" ∨ table = "tweets") : PlainTable table := by
    rcases h with rfl | rfl <;>
      exact ⟨by decide +kernel, by decide +kernel, by decide +kernel, by decide +kernel⟩
  simp [users, hplain]

/-- Two tables with blanks around them, read as they are and in the other order. -/
theorem grammar_contract_users :
    parse "users:QUORUM, tweets : Local_One" = .ok users ∧ (users.map Prod.fst).Nodup ∧
      (∀ table level, users.find? table = some level ↔
        LastEntry ("users:QUORUM, tweets : Local_One".toList.splitOn ',') table level) ∧
      (∀ e ∈ users, PlainTable e.1) ∧ users.reverse.Perm users ∧
      parse (render users.reverse) = .ok users.reverse ∧
        ∀ table, find? users.reverse table = users.find? table := by
  have hparse : parse "users:QUORUM, tweets : Local_One" = .ok users := by decide +kernel
  have hnodup : (users.map Prod.fst).Nodup := by decide
  exact ⟨hparse, hnodup, (grammar_contract.2.1 _ _ hparse).2, plainTable_of_mem_users,
    List.reverse_perm users,
    grammar_contract.2.2 users users.reverse hnodup plainTable_of_mem_users
      (List.reverse_perm users)⟩

end TableLevels

end WideColumn
