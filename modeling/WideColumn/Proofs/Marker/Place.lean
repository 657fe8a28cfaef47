import WideColumn.Proofs.Marker.Scan

/-!
# Where the values of a statement go

What the markers of a text stand for, as a reader of the query language sees it: the values of a
row go to the listed columns one by one, a time to live is one, and anywhere else a marker belongs
to the column named last, which it changes or is compared with. Keywords count only where they
stand alone between blanks, so that columns and tables may be named like them.
-/

namespace WideColumn

/-- What the value of a marker is for. -/
inductive Place where
  /-- The value of a column in a new row. -/
  | inserted (column : String)
  | timeToLive
  /-- The new value of a column. -/
  | assigned (column : String)
  | added (column : String)
  | subtracted (column : String)
  /-- The value that a column is compared with. -/
  | compared (column : String)
  /-- Before any clause that takes values. -/
  | unknown
deriving Repr, DecidableEq

/-- A marker of a statement. -/
structure Marker where
  /-- None for a positional marker. -/
  name : Option String
  place : Place
deriving Repr, DecidableEq

/-- The clauses of a statement that take values. -/
inductive Clause where
  | head
  | row
  | timeToLive
  | changes
  | condition
deriving Repr, DecidableEq

/-- The clause that a keyword standing alone opens. `piece` is what stands between two blanks. -/
def Clause.opening? : List Token → Option Clause
  | [.word "VALUES"] => some row
  | [.word "TTL"] => some timeToLive
  | [.word "SET"] => some changes
  | [.word "WHERE"] => some condition
  | _ => none

/-- How far a statement was read. -/
structure Reading where
  clause : Clause
  /-- What was read since the last blank, latest first. -/
  piece : List Token
  /-- The columns listed in parentheses for which no value was read. -/
  listed : List String
  /-- The word read last. -/
  column : String
  /-- The sign read last besides blanks. -/
  sign : Char
deriving Repr, DecidableEq

namespace Reading

/-- Before a statement. -/
def start : Reading := ⟨.head, [], [], "", ' '⟩

/-- Read one token. -/
def next (r : Reading) (token : Token) : Reading :=
  match token with
  | .word name =>
    { r with
      piece := token :: r.piece
      listed := if r.sign = '(' ∨ r.sign = ',' then r.listed ++ [name] else r.listed
      column := name }
  | .named _ | .positional => { r with piece := token :: r.piece, listed := r.listed.tail }
  | .sign c =>
    if c = ' ' then { r with clause := (Clause.opening? r.piece).getD r.clause, piece := [] }
    else { r with piece := token :: r.piece, sign := c }

/-- What a marker is for that is read next. -/
def place (r : Reading) : Place :=
  match r.clause with
  | .head => .unknown
  | .row => .inserted (r.listed.headD "")
  | .timeToLive => .timeToLive
  | .changes =>
    if r.sign = '+' then .added r.column
    else if r.sign = '-' then .subtracted r.column
    else .assigned r.column
  | .condition => .compared r.column

/-- The marker that a token is. -/
def marker? (r : Reading) : Token → Option Marker
  | .named name => some ⟨some name, r.place⟩
  | .positional => some ⟨none, r.place⟩
  | .word _ | .sign _ => none

/-- Read tokens. -/
def after (r : Reading) (tokens : List Token) : Reading := tokens.foldl next r

/-- The markers among the tokens that are read next. -/
def markers : Reading → List Token → List Marker
  | _, [] => []
  | r, token :: rest => (r.marker? token).toList ++ markers (r.next token) rest

end Reading

/-- The markers of a text in order, with what they are for. -/
def markersIn (text : String) : List Marker := Reading.start.markers (scan text)

namespace Reading

theorem markers_append (r : Reading) (tokens tokens' : List Token) :
    r.markers (tokens ++ tokens') = r.markers tokens ++ (r.after tokens).markers tokens' := by
  induction tokens generalizing r with
  | nil => rfl
  | cons token rest ih => simp [markers, ih, after]

theorem after_append (r : Reading) (tokens tokens' : List Token) :
    r.after (tokens ++ tokens') = (r.after tokens).after tokens' :=
  List.foldl_append

theorem length_markers (r : Reading) (tokens : List Token) :
    (r.markers tokens).length = tokens.countP Token.isMarker := by
  induction tokens generalizing r with
  | nil => rfl
  | cons token rest ih =>
    rw [markers, List.length_append, ih, List.countP_cons, Nat.add_comm]
    cases token <;> rfl

end Reading

/-- A prepared statement takes one value for each marker of its text. -/
theorem length_markersIn (p : Prepared) : (markersIn p.query).length = p.markerCount := by
  rw [markersIn, Reading.length_markers, countP_isMarker_scan]

/-- Without a marker among the tokens nothing is found. -/
theorem Reading.markers_eq_nil (r : Reading) {tokens : List Token}
    (h : ∀ token ∈ tokens, token.isMarker = false) : r.markers tokens = [] := by
  rw [← List.length_eq_zero_iff, length_markers, List.countP_eq_zero]
  simpa using h

/-! ### Lists of names -/

/-- Words with signs between them have no marker. -/
theorem isMarker_words {names : List String} :
    ∀ token ∈ [Token.sign ','].intercalate (names.map fun c => [.word c]),
      token.isMarker = false := by
  intro token htoken
  induction names with
  | nil => simp at htoken
  | cons a rest ih =>
    cases rest with
    | nil =>
      obtain rfl : token = .word a := by simpa using htoken
      rfl
    | cons b rest =>
      rw [List.map_cons, List.map_cons, List.intercalate_cons_cons, ← List.map_cons (f := fun c =>
        [Token.word c])] at htoken
      rcases List.mem_append.1 htoken with hfirst | hrest
      · rcases List.mem_append.1 hfirst with hword | hsign
        · obtain rfl : token = .word a := by simpa using hword
          rfl
        · obtain rfl : token = .sign ',' := by simpa using hsign
          rfl
      · exact ih hrest

/-- In the middle of a clause, after anything but a keyword. -/
structure Reading.Within (r : Reading) (clause : Clause) : Prop where
  clause_eq : r.clause = clause
  noKeyword : Clause.opening? r.piece = none

/-- Read anywhere within the clause, the tokens have these markers and do not leave the clause. -/
def ReadsAs (clause : Clause) (tokens : List Token) (markers : List Marker) : Prop :=
  ∀ r : Reading, r.Within clause →
    r.markers tokens = markers ∧ (r.after tokens).Within clause

/-- What a list has as markers if its items have one each and its separator none. -/
theorem ReadsAs.intercalate {clause : Clause} {separator : List Token}
    (hseparator : ReadsAs clause separator []) {α : Type} {item : α → List Token}
    {marker : α → Marker} (hitem : ∀ a, ReadsAs clause (item a) [marker a]) (items : List α) :
    ReadsAs clause (separator.intercalate (items.map item)) (items.map marker) := by
  induction items with
  | nil => exact fun r hr => ⟨rfl, hr⟩
  | cons a rest ih =>
    cases rest with
    | nil => simpa using hitem a
    | cons b rest =>
      intro r hr
      obtain ⟨hmarker, hwithin⟩ := hitem a r hr
      obtain ⟨hnone, hwithin⟩ := hseparator _ hwithin
      obtain ⟨hrest, hwithin⟩ := ih _ hwithin
      rw [List.map_cons, List.map_cons, List.intercalate_cons_cons, ← List.map_cons]
      refine ⟨?_, ?_⟩
      · rw [Reading.markers_append, Reading.markers_append, hmarker, Reading.after_append, hnone,
          hrest]
        rfl
      · rwa [Reading.after_append, Reading.after_append]

theorem readsAs_comma {clause : Clause} : ReadsAs clause [.sign ','] [] :=
  fun _ hr => ⟨rfl, hr.clause_eq, rfl⟩

theorem readsAs_and {clause : Clause} : ReadsAs clause [.sign ' ', .word "AND", .sign ' '] [] := by
  intro r hr
  have hclause : (r.next (.sign ' ')).clause = clause := by
    show (Clause.opening? r.piece).getD r.clause = clause
    rw [hr.noKeyword]
    exact hr.clause_eq
  exact ⟨rfl, hclause, rfl⟩

/-- A column that is set to a marker named like it. -/
theorem readsAs_assignment (column : String) :
    ReadsAs .changes [.word column, .sign '=', .named column]
      [⟨some column, .assigned column⟩] := by
  intro r hr
  refine ⟨?_, hr.clause_eq, rfl⟩
  simp [Reading.markers, Reading.marker?, Reading.next, Reading.place, hr.clause_eq]

/-- A column that is compared with a marker named like it. -/
theorem readsAs_equality (column : String) :
    ReadsAs .condition [.word column, .sign '=', .named column]
      [⟨some column, .compared column⟩] := by
  intro r hr
  refine ⟨?_, hr.clause_eq, rfl⟩
  simp [Reading.markers, Reading.marker?, Reading.next, Reading.place, hr.clause_eq]

/-- Columns in parentheses are remembered for the values of the row. -/
theorem Reading.listed_after_words (r : Reading) (hsign : r.sign = '(' ∨ r.sign = ',')
    (columns : List String) :
    (r.after ([.sign ','].intercalate (columns.map fun c => [.word c]))).listed =
      r.listed ++ columns := by
  induction columns generalizing r with
  | nil => simp [after]
  | cons a rest ih =>
    cases rest with
    | nil => simp [after, next, hsign]
    | cons b rest =>
      have hrest := ih ((r.next (.word a)).next (.sign ',')) (.inr rfl)
      rw [List.map_cons, List.map_cons, List.intercalate_cons_cons, after_append, after_append,
        ← List.map_cons (f := fun c => [Token.word c])]
      refine hrest.trans ?_
      simp [next, hsign]

/-- The values of a row go to the listed columns. -/
theorem Reading.markers_row (r : Reading) (hr : r.clause = .row) (columns : List String)
    (hlisted : r.listed = columns) :
    r.markers ([.sign ','].intercalate (columns.map fun c => [.named c])) =
      columns.map fun c => ⟨some c, .inserted c⟩ := by
  induction columns generalizing r with
  | nil => rfl
  | cons a rest ih =>
    cases rest with
    | nil => simp [markers, marker?, place, hr, hlisted]
    | cons b rest =>
      have hrest := ih ((r.next (.named a)).next (.sign ',')) hr (by simp [next, hlisted])
      rw [List.map_cons, List.map_cons, List.intercalate_cons_cons, markers_append, markers_append,
        after_append, ← List.map_cons (f := fun c => [Token.named c])]
      refine (congrArg _ hrest).trans ?_
      simp [markers, marker?, place, hr, hlisted]

/-- The parenthesis after the keyword of a row opens its values. -/
theorem Reading.row_after_values (r : Reading) :
    (r.after [.sign ')', .sign ' ', .word "VALUES", .sign ' ', .sign '(']).clause = .row ∧
      (r.after [.sign ')', .sign ' ', .word "VALUES", .sign ' ', .sign '(']).listed = r.listed :=
  ⟨rfl, rfl⟩

/-- A time to live after a row. -/
theorem Reading.markers_ttl (r : Reading) :
    r.markers [.sign ')', .sign ' ', .word "USING", .sign ' ', .word "TTL", .sign ' ', .named "ttl",
      .sign ';'] = [⟨some "ttl", .timeToLive⟩] := rfl

/-- What follows the keyword of changes is read within them. -/
theorem Reading.within_set (r : Reading) :
    (r.after [.sign ' ', .word "SET", .sign ' ']).Within .changes := ⟨rfl, rfl⟩

/-- A time to live before the changes. -/
theorem Reading.markers_using (r : Reading) :
    r.markers [.sign ' ', .word "USING", .sign ' ', .word "TTL", .sign ' ', .named "ttl"] =
      [⟨some "ttl", .timeToLive⟩] := rfl

/-- What follows the keyword of a condition is read within it. -/
theorem Reading.within_where (r : Reading) :
    (r.after [.sign ' ', .word "WHERE", .sign ' ']).Within .condition := ⟨rfl, rfl⟩

end WideColumn
