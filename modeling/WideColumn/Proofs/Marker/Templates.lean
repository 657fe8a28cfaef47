import WideColumn.Proofs.Marker.Place
import WideColumn.Query.Template

/-!
# Markers of the templates

What the markers of the templates stand for when the table, the properties and the key components
have plain names. The markers are read off the texts, so a template that swaps two columns, or puts
a value into another clause, breaks these statements.
-/

namespace WideColumn

/-- The table, the properties and the key columns have plain names. -/
structure EntityMeta.PlainNames (em : EntityMeta) : Prop where
  table : IsPlainName em.tableName
  property : ∀ pm ∈ em.properties, IsPlainName pm.name
  keyColumn : ∀ column ∈ em.idColumns, IsPlainName column

namespace Template

variable {em : EntityMeta}

/-- The marker of the time to live. -/
def ttlMarker : Marker := ⟨some "ttl", .timeToLive⟩

/-- The marker of a key column in a condition. -/
def keyMarker (column : String) : Marker := ⟨some column, .compared column⟩

/-- The markers before the condition of a counter statement. -/
def deltaMarkers (action : CounterAction) (name : Option String) (column : String) : List Marker :=
  match action with
  | .incr => [⟨name, .added column⟩]
  | .decr => [⟨name, .subtracted column⟩]
  | .select | .delete => []

/-! ### Parts of texts -/

theorem scansBefore_names {names : List String} (hnames : ∀ c ∈ names, IsPlainName c) :
    ScansBefore (commaList names) ([.sign ','].intercalate (names.map fun c => [.word c])) := by
  have hitem : ∀ c ∈ names, ScansBefore (id c) [.word c] := fun c hc => .word (hnames c hc)
  have hcomma : Scans "," [.sign ','] := fun _ => rfl
  have hlist := ScansBefore.intercalate hcomma rfl hitem
  rwa [List.map_id] at hlist

theorem scansBefore_markers {names : List String} (hnames : ∀ c ∈ names, IsPlainName c) :
    ScansBefore (commaList (names.map fun c => ":" ++ c))
      ([.sign ','].intercalate (names.map fun c => [.named c])) :=
  .intercalate (fun _ => rfl) (by rfl) fun c hc => .named (hnames c hc)

/-- A name and the marker named like it, with a sign between them. -/
theorem scansBefore_equality {name : String} (hname : IsPlainName name) :
    ScansBefore (name ++ ("=" ++ (":" ++ name))) [.word name, .sign '=', .named name] := by
  have hsign : Scans "=" [.sign '='] := fun _ => rfl
  exact (ScansBefore.word hname).append (.append (by rfl) _) (.prepend hsign (.named hname))

theorem scansBefore_assignments {names : List String} (hnames : ∀ c ∈ names, IsPlainName c) :
    ScansBefore (assignments names)
      ([.sign ','].intercalate (names.map fun c => [.word c, .sign '=', .named c])) := by
  refine .intercalate (fun _ => rfl) (by rfl) fun c hc => ?_
  have htext : s!"{c}=:{c}" = c ++ ("=" ++ (":" ++ c)) := by
    have hsign : "=:" = "=" ++ ":" := by decide
    simp only [toString, hsign, String.append_assoc]
  rw [htext]
  exact scansBefore_equality (hnames c hc)

/-- The tokens of the condition that selects the row of a key. -/
def conditionTokens (em : EntityMeta) : List Token :=
  [.sign ' ', .word "AND", .sign ' '].intercalate
    (em.idColumns.map fun c => [.word c, .sign '=', .named c])

theorem scansBefore_keyCondition (h : em.PlainNames) :
    ScansBefore (keyCondition em) (conditionTokens em) := by
  unfold keyCondition WhereClause.text WhereClause.namedEqualities
  rw [List.map_map]
  refine .intercalate (fun _ => rfl) (by rfl) fun c hc => ?_
  have htext : (Predicate.text ∘ fun column => Predicate.named column .eq) c =
      c ++ ("=" ++ (":" ++ c)) := String.append_assoc
  rw [htext]
  exact scansBefore_equality (h.keyColumn c hc)

/-- The markers before a condition, then those of the condition. -/
theorem markersIn_append_where {before condition : String} {tokens tokens' : List Token}
    {markers : List Marker} (hbefore : ScansBefore before tokens)
    (hcondition : Scans condition tokens')
    (hmarkers : ∀ r : Reading,
      (r.after [.sign ' ', .word "WHERE", .sign ' ']).markers tokens' = markers) :
    markersIn (before ++ (" WHERE " ++ condition)) = Reading.start.markers tokens ++ markers := by
  have hwhere : Scans " WHERE " [.sign ' ', .word "WHERE", .sign ' '] := fun _ => rfl
  have hscan := hbefore.followed (.append (by rfl) _) (hwhere.append hcondition)
  rw [markersIn, hscan.scan_eq, Reading.markers_append, Reading.markers_append, hmarkers]
  rfl

/-- The condition at the end of a statement compares every key column with its own marker. -/
theorem markersIn_where (h : em.PlainNames) {before : String} {tokens : List Token}
    (hbefore : ScansBefore before tokens) :
    markersIn (before ++ (" WHERE " ++ (keyCondition em ++ ";"))) =
      Reading.start.markers tokens ++ em.idColumns.map keyMarker := by
  have hcondition : Scans (keyCondition em ++ ";") (conditionTokens em ++ [.sign ';']) :=
    (scansBefore_keyCondition h).followed rfl fun _ => rfl
  refine markersIn_append_where hbefore hcondition fun r => ?_
  have hequalities := ReadsAs.intercalate readsAs_and readsAs_equality em.idColumns _
    r.within_where
  rw [Reading.markers_append, conditionTokens, hequalities.1]
  exact List.append_nil _

/-- A statement without values before its condition. -/
theorem markersIn_where_of_plain (h : em.PlainNames) {before : String} {tokens : List Token}
    (hbefore : ScansBefore before tokens) (hplain : ∀ token ∈ tokens, token.isMarker = false) :
    markersIn (before ++ (" WHERE " ++ (keyCondition em ++ ";"))) = em.idColumns.map keyMarker := by
  rw [markersIn_where h hbefore, Reading.markers_eq_nil _ hplain, List.nil_append]

/-! ### Templates -/

theorem isPlainName_insertColumns (h : em.PlainNames) :
    ∀ c ∈ insertColumns em, IsPlainName c := by
  intro c hc
  rcases List.mem_append.1 hc with hc | hc
  · exact h.keyColumn c hc
  · obtain ⟨pm, hpm, rfl⟩ := List.mem_map.1 hc
    exact h.property pm (List.mem_filter.1 hpm).1

/-- The values of a row go to the key columns and the plain properties one by one; the last value
is the time to live. -/
theorem markersIn_insert (h : em.PlainNames) :
    markersIn (insert em) =
      (insertColumns em).map (fun c => ⟨some c, .inserted c⟩) ++ [ttlMarker] := by
  have hcolumns := isPlainName_insertColumns h
  have hinsert : Scans "INSERT INTO " [.word "INSERT", .sign ' ', .word "INTO", .sign ' '] :=
    fun _ => rfl
  have hopen : Scans "(" [.sign '('] := fun _ => rfl
  have hvalues : Scans ") VALUES (" [.sign ')', .sign ' ', .word "VALUES", .sign ' ', .sign '('] :=
    fun _ => rfl
  have husing : Scans ") USING TTL :ttl;" [.sign ')', .sign ' ', .word "USING", .sign ' ',
    .word "TTL", .sign ' ', .named "ttl", .sign ';'] := fun _ => rfl
  have hrow := (scansBefore_markers hcolumns).followed (by rfl) husing
  have hlist := (scansBefore_names hcolumns).followed (.append (by rfl) _) (hvalues.append hrow)
  have hscan := hinsert.append
    ((ScansBefore.word h.table).followed (.append (by rfl) _) (hopen.append hlist))
  have htext : insert em = "INSERT INTO " ++ (em.tableName ++ ("(" ++
      (commaList (insertColumns em) ++ (") VALUES (" ++
        (commaList ((insertColumns em).map fun c => ":" ++ c) ++ ") USING TTL :ttl;"))))) := by
    unfold insert
    generalize commaList ((insertColumns em).map fun c => ":" ++ c) = markers
    simp only [toString, String.append_assoc]
  have hlisted := Reading.listed_after_words
    ⟨.head, [.sign '(', .word em.tableName], [], em.tableName, '('⟩ (.inl rfl) (insertColumns em)
  have hhead : ((Reading.start.after [.word "INSERT", .sign ' ', .word "INTO", .sign ' ']).after
      [.word em.tableName]).after [.sign '('] =
        ⟨.head, [.sign '(', .word em.tableName], [], em.tableName, '('⟩ := rfl
  have hwords := fun r => Reading.markers_eq_nil r (@isMarker_words (insertColumns em))
  rw [htext, markersIn, hscan.scan_eq]
  simp only [Reading.markers_append, hhead, hwords, Reading.markers_ttl]
  generalize Reading.after _ ([Token.sign ','].intercalate _) = r at hlisted ⊢
  obtain ⟨hclause, hlisted'⟩ := r.row_after_values
  have hinserted := Reading.markers_row _ hclause (insertColumns em) (hlisted'.trans hlisted)
  rw [hinserted]
  rfl

/-- A read of columns compares the key columns. -/
theorem markersIn_select (h : em.PlainNames) {columns : String} {tokens : List Token}
    (hcolumns : ScansBefore columns tokens) (hplain : ∀ token ∈ tokens, token.isMarker = false) :
    markersIn s!"SELECT {columns} FROM {em.tableName} WHERE {keyCondition em};" =
      em.idColumns.map keyMarker := by
  have hselect : Scans "SELECT " [.word "SELECT", .sign ' '] := fun _ => rfl
  have hfrom : Scans " FROM " [.sign ' ', .word "FROM", .sign ' '] := fun _ => rfl
  have hscan : ScansBefore ("SELECT " ++ (columns ++ (" FROM " ++ em.tableName))) _ :=
    .prepend hselect (hcolumns.append (.append (by rfl) _) (.prepend hfrom (.word h.table)))
  have hmarkers := markersIn_where_of_plain h hscan (by
    simpa [or_imp, forall_and] using hplain)
  simpa only [toString, String.append_assoc] using hmarkers

theorem scansBefore_columnsOrStar {columns : List String}
    (hcolumns : ∀ c ∈ columns, IsPlainName c) :
    ∃ tokens, ScansBefore (columnsOrStar columns) tokens ∧
      ∀ token ∈ tokens, token.isMarker = false := by
  unfold columnsOrStar
  split
  · exact ⟨[.sign '*'], ⟨fun _ hafter => Scans.append (fun _ => rfl) hafter⟩, by decide⟩
  · exact ⟨_, scansBefore_names hcolumns, isMarker_words⟩

theorem markersIn_selectEntity (h : em.PlainNames) :
    markersIn (selectEntity em) = em.idColumns.map keyMarker := by
  have hcolumns : ∀ c ∈ entityColumns em, IsPlainName c := by
    intro c hc
    unfold entityColumns at hc
    split at hc
    · cases hc
    · rcases List.mem_append.1 hc with hc | hc
      · exact h.keyColumn c hc
      · obtain ⟨pm, hpm, rfl⟩ := List.mem_map.1 hc
        exact h.property pm (List.mem_filter.1 (List.mem_filter.1 hpm).1).1
  obtain ⟨tokens, hscan, hplain⟩ := scansBefore_columnsOrStar hcolumns
  exact markersIn_select h hscan hplain

theorem markersIn_selectField (h : em.PlainNames) {pm : PropertyMeta} {text : String}
    (hcolumns : ∀ c ∈ pm.columnNames, IsPlainName c) (htext : selectField em pm = .ok text) :
    markersIn text = em.idColumns.map keyMarker := by
  unfold selectField at htext
  split at htext
  · cases htext
  · rw [← Except.ok.inj htext]
    exact markersIn_select h (scansBefore_names hcolumns) isMarker_words

theorem markersIn_deletes (h : em.PlainNames) {table text : String}
    (hmem : (table, text) ∈ deletes em) : markersIn text = em.idColumns.map keyMarker := by
  have hdelete : Scans "DELETE FROM " [.word "DELETE", .sign ' ', .word "FROM", .sign ' '] :=
    fun _ => rfl
  obtain ⟨-, rfl⟩ : table = em.tableName ∧
      text = s!"DELETE FROM {em.tableName} WHERE {keyCondition em};" := by
    simpa [deletes] using hmem
  have hscan : ScansBefore ("DELETE FROM " ++ em.tableName) _ := .prepend hdelete (.word h.table)
  have hmarkers := markersIn_where_of_plain h hscan (by simp)
  simpa only [toString, String.append_assoc] using hmarkers

/-- The first value of an update is the time to live; then come the changed columns, each with the
marker named like it, and the key. -/
theorem markersIn_update (h : em.PlainNames) {names : List String}
    (hnames : ∀ c ∈ names, IsPlainName c) :
    markersIn
        s!"UPDATE {em.tableName} USING TTL :ttl SET {assignments names} WHERE {keyCondition em};" =
      ttlMarker :: names.map (fun c => ⟨some c, .assigned c⟩) ++ em.idColumns.map keyMarker := by
  have hupdate : Scans "UPDATE " [.word "UPDATE", .sign ' '] := fun _ => rfl
  have husing : ScansBefore " USING TTL :ttl" [.sign ' ', .word "USING", .sign ' ', .word "TTL",
      .sign ' ', .named "ttl"] := by
    have hblanks : Scans " USING TTL " [.sign ' ', .word "USING", .sign ' ', .word "TTL",
      .sign ' '] := fun _ => rfl
    have hname : IsPlainName "ttl" := by decide
    exact .prepend hblanks (.named hname)
  have hset : Scans " SET " [.sign ' ', .word "SET", .sign ' '] := fun _ => rfl
  have hscan : ScansBefore
      ("UPDATE " ++ (em.tableName ++ (" USING TTL :ttl" ++ (" SET " ++ assignments names)))) _ :=
    .prepend hupdate ((ScansBefore.word h.table).append (.append (by rfl) _)
      (husing.append (.append (by rfl) _) (.prepend hset (scansBefore_assignments hnames))))
  have hchanges := fun r : Reading => ReadsAs.intercalate readsAs_comma readsAs_assignment names _
    r.within_set
  have hmarkers := markersIn_where h hscan
  simp only [Reading.markers_append, hchanges, Reading.markers_using] at hmarkers
  have htext : " USING TTL :ttl SET " = " USING TTL :ttl" ++ " SET " := by decide
  simp only [toString, htext, String.append_assoc] at hmarkers ⊢
  exact hmarkers

/-- A statement that changes a counter column. -/
theorem markersIn_change (h : em.PlainNames) {name : String} (hname : IsPlainName name)
    {sign : String} {c : Char} (hsign : Scans sign [.sign c]) (hapart : BeginsApart sign)
    {marker : Marker} (hmarker : ReadsAs .changes
      [.word name, .sign '=', .word name, .sign c, .named name] [marker]) :
    markersIn ("UPDATE " ++ (em.tableName ++ (" SET " ++ (name ++ ("=" ++ (name ++ (sign ++
      (":" ++ (name ++ (" WHERE " ++ (keyCondition em ++ ";")))))))))) ) =
      marker :: em.idColumns.map keyMarker := by
  have hupdate : Scans "UPDATE " [.word "UPDATE", .sign ' '] := fun _ => rfl
  have hset : Scans " SET " [.sign ' ', .word "SET", .sign ' '] := fun _ => rfl
  have hequals : Scans "=" [.sign '='] := fun _ => rfl
  have hword : ScansBefore name [.word name] := .word hname
  have hchange : ScansBefore (name ++ ("=" ++ (name ++ (sign ++ (":" ++ name)))))
      [.word name, .sign '=', .word name, .sign c, .named name] :=
    hword.append (.append (by rfl) _) (.prepend hequals
      (hword.append (hapart.append _) (.prepend hsign (.named hname))))
  have hscan : ScansBefore ("UPDATE " ++ (em.tableName ++ (" SET " ++ _))) _ :=
    .prepend hupdate ((ScansBefore.word h.table).append (.append (by rfl) _)
      (.prepend hset hchange))
  have hmarkers := markersIn_where h hscan
  have hread := fun r : Reading => (hmarker _ r.within_set).1
  simp only [Reading.markers_append, hread] at hmarkers
  simp only [String.append_assoc] at hmarkers
  exact hmarkers

/-- A counter column to which the marker named like it is added, or from which it is subtracted. -/
theorem readsAs_delta (name : String) :
    ReadsAs .changes [.word name, .sign '=', .word name, .sign '+', .named name]
        [⟨some name, .added name⟩] ∧
      ReadsAs .changes [.word name, .sign '=', .word name, .sign '-', .named name]
        [⟨some name, .subtracted name⟩] := by
  refine ⟨fun r hr => ⟨?_, hr.clause_eq, rfl⟩, fun r hr => ⟨?_, hr.clause_eq, rfl⟩⟩ <;>
    simp [Reading.markers, Reading.marker?, Reading.next, Reading.place, hr.clause_eq]

/-- A statement of a counter changes the column of the counter, or none, and compares the key. -/
theorem markersIn_clusteredCounters (h : em.PlainNames) {action : CounterAction}
    {name text : String} (hmem : ((action, name), text) ∈ clusteredCounters em) :
    markersIn text = deltaMarkers action (some name) name ++ em.idColumns.map keyMarker := by
  have hplus : Scans "+" [.sign '+'] := fun _ => rfl
  have hminus : Scans "-" [.sign '-'] := fun _ => rfl
  have hstar : ScansBefore "*" [.sign '*'] := ⟨fun _ hafter => Scans.append (fun _ => rfl) hafter⟩
  simp only [clusteredCounters, clusteredCounter, List.mem_append, List.mem_flatMap,
    List.mem_cons, List.not_mem_nil, or_false, Prod.mk.injEq] at hmem
  rcases hmem with ⟨pm, hpm, hcases⟩ | ⟨⟨rfl, rfl⟩, rfl⟩ | ⟨⟨rfl, rfl⟩, rfl⟩
  · have hname : IsPlainName pm.name := h.property pm (List.mem_filter.1 hpm).1
    obtain ⟨hadd, hsubtract⟩ := readsAs_delta pm.name
    rcases hcases with ⟨⟨rfl, rfl⟩, rfl⟩ | ⟨⟨rfl, rfl⟩, rfl⟩ | ⟨⟨rfl, rfl⟩, rfl⟩
    · have hsigns : "+:" = "+" ++ ":" := by decide
      have hmarkers := markersIn_change h hname hplus rfl hadd
      simp only [toString, hsigns, String.append_assoc]
      exact hmarkers
    · have hsigns : "-:" = "-" ++ ":" := by decide
      have hmarkers := markersIn_change h hname hminus rfl hsubtract
      simp only [toString, hsigns, String.append_assoc]
      exact hmarkers
    · exact markersIn_select h (.word hname) (by simp)
  · have hselect : "SELECT * FROM " = "SELECT " ++ "*" ++ " FROM " := by decide
    rw [hselect]
    exact markersIn_select h hstar (by simp)
  · exact markersIn_deletes h List.mem_cons_self

/-- The tokens of the condition that selects a counter of the shared table. -/
def counterConditionTokens : List Token :=
  [.word counterClass, .sign ' ', .sign '=', .sign ' ', .positional, .sign ' ', .word "AND",
    .sign ' ', .word counterKey, .sign ' ', .sign '=', .sign ' ', .positional, .sign ' ',
    .word "AND", .sign ' ', .word counterProperty, .sign ' ', .sign '=', .sign ' ', .positional]

theorem scans_counterCondition : Scans counterCondition counterConditionTokens := by
  have hmarker : Scans " = ?" [.sign ' ', .sign '=', .sign ' ', .positional] := fun _ => rfl
  have hand : Scans " = ? AND " [.sign ' ', .sign '=', .sign ' ', .positional, .sign ' ',
    .word "AND", .sign ' '] := fun _ => rfl
  have hclass : ScansBefore counterClass [.word counterClass] := .word (by decide)
  have hkey : ScansBefore counterKey [.word counterKey] := .word (by decide)
  have hproperty : ScansBefore counterProperty [.word counterProperty] := .word (by decide)
  have hscan := hclass.followed (.append (by rfl) _) (hand.append
    (hkey.followed (.append (by rfl) _) (hand.append (hproperty.followed (by rfl) hmarker))))
  unfold counterCondition
  simp only [toString, String.append_assoc]
  exact hscan

/-- The condition compares the class, the key and the property with positional markers. -/
theorem markers_counterCondition (r : Reading) :
    (r.after [.sign ' ', .word "WHERE", .sign ' ']).markers counterConditionTokens =
      [⟨none, .compared counterClass⟩, ⟨none, .compared counterKey⟩,
        ⟨none, .compared counterProperty⟩] := rfl

/-- The statements of the shared table change its column of values, or none, and compare the class,
the key and the property. -/
theorem markersIn_sharedCounters {action : CounterAction} {text : String}
    (hmem : (action, text) ∈ sharedCounters) :
    markersIn text = deltaMarkers action none counterValue ++
      [⟨none, .compared counterClass⟩, ⟨none, .compared counterKey⟩,
        ⟨none, .compared counterProperty⟩] := by
  have htable : ScansBefore counterTable [.word counterTable] := .word (by decide)
  have hvalue : ScansBefore counterValue [.word counterValue] := .word (by decide)
  have hupdate : Scans "UPDATE " [.word "UPDATE", .sign ' '] := fun _ => rfl
  have hset : Scans " SET " [.sign ' ', .word "SET", .sign ' '] := fun _ => rfl
  have hequals : Scans " = " [.sign ' ', .sign '=', .sign ' '] := fun _ => rfl
  have hselect : Scans "SELECT " [.word "SELECT", .sign ' '] := fun _ => rfl
  have hfrom : Scans " FROM " [.sign ' ', .word "FROM", .sign ' '] := fun _ => rfl
  have hdelete : Scans "DELETE FROM " [.word "DELETE", .sign ' ', .word "FROM", .sign ' '] :=
    fun _ => rfl
  have hchange {sign : String} {tokens : List Token} (hsign : ScansBefore sign tokens)
      (hapart : BeginsApart sign) := ScansBefore.prepend hupdate (htable.append (.append (by rfl) _)
        (.prepend hset (hvalue.append (.append (by rfl) _)
          (.prepend hequals (hvalue.append hapart hsign)))))
  have hplus : ScansBefore " + ?" [.sign ' ', .sign '+', .sign ' ', .positional] :=
    ⟨fun _ hafter => Scans.append (fun _ => rfl) hafter⟩
  have hminus : ScansBefore " - ?" [.sign ' ', .sign '-', .sign ' ', .positional] :=
    ⟨fun _ hafter => Scans.append (fun _ => rfl) hafter⟩
  have hcondition {before : String} {tokens : List Token} (hbefore : ScansBefore before tokens) :=
    markersIn_append_where hbefore scans_counterCondition markers_counterCondition
  simp only [sharedCounters, List.mem_cons, List.not_mem_nil, or_false, Prod.mk.injEq] at hmem
  rcases hmem with ⟨rfl, rfl⟩ | ⟨rfl, rfl⟩ | ⟨rfl, rfl⟩ | ⟨rfl, rfl⟩
  · have hmarkers := hcondition (hchange hplus rfl)
    have htext : " + ? WHERE " = " + ?" ++ " WHERE " := by decide
    simp only [toString, htext, String.append_assoc] at hmarkers ⊢
    exact hmarkers
  · have hmarkers := hcondition (hchange hminus rfl)
    have htext : " - ? WHERE " = " - ?" ++ " WHERE " := by decide
    simp only [toString, htext, String.append_assoc] at hmarkers ⊢
    exact hmarkers
  · have hmarkers := hcondition (.prepend hselect (hvalue.append (.append (by rfl) _)
      (.prepend hfrom htable)))
    simp only [toString, String.append_assoc] at hmarkers ⊢
    exact hmarkers
  · have hmarkers := hcondition (.prepend hdelete htable)
    simp only [toString, String.append_assoc] at hmarkers ⊢
    exact hmarkers

end Template

end WideColumn
