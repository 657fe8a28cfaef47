import WideColumn.Proofs.Json.Lexeme

/-!
# Documents are read as they were written

A document whose numbers are integers of 64 bits, and whose containers nest no deeper than the
reader goes, is read back from its text (`readDocument_render`), so that different documents have
different texts (`render_injective`). The fields of an object come back sorted (`read_render`).
-/

namespace WideColumn.Json

mutual

/-- How deep the containers of a document nest. -/
def depth : Json → Nat
  | .arr items => depthItems items + 1
  | .obj fields => depthFields fields + 1
  | _ => 0

/-- The depth of the deepest item. -/
def depthItems : List Json → Nat
  | [] => 0
  | j :: rest => max (depth j) (depthItems rest)

/-- The depth of the deepest value of a field. -/
def depthFields : List (String × Json) → Nat
  | [] => 0
  | (_, j) :: rest => max (depth j) (depthFields rest)

end

mutual

/-- Whether all numbers of a document are integers of 64 bits. -/
def isIntegral : Json → Bool
  | .int i => decide (FitsWord i)
  | .float _ => false
  | .arr items => isIntegralItems items
  | .obj fields => isIntegralFields fields
  | _ => true

/-- Whether all items are integral. -/
def isIntegralItems : List Json → Bool
  | [] => true
  | j :: rest => isIntegral j && isIntegralItems rest

/-- Whether the values of all fields are integral. -/
def isIntegralFields : List (String × Json) → Bool
  | [] => true
  | (_, j) :: rest => isIntegral j && isIntegralFields rest

end

/-- A document that the reader can read back from its text. -/
structure Legible (j : Json) : Prop where
  integral : j.isIntegral = true
  depth : j.depth ≤ maxDepth

/-! ### Values at the front of a text -/

theorem skipSpace_cons {c : Char} (hc : isSpace c = false) (rest : List Char) :
    skipSpace (c :: rest) = c :: rest := by
  simp [skipSpace, hc]

theorem isSpace_of_startsNumber {c : Char} (hc : c.isDigit = true ∨ c = '-') :
    isSpace c = false := by
  have hother : ∀ d : Char, d.isDigit = false → d ≠ '-' → c ≠ d := by
    rintro d hdigit hsign rfl
    simp [hdigit, hsign] at hc
  simp [isSpace, hother ' ', hother '\n', hother '\t', hother '\r']

/-- Neither a word, nor a quote, nor a bracket begins like a number. -/
theorem takeValue_number {c : Char} (hc : c.isDigit = true ∨ c = '-') (fuel depth : Nat)
    (rest : List Char) :
    takeValue (fuel + 1) depth (c :: rest) = do
      let (n, rest) ← takeNumeral (c :: rest)
      return (← n.value?, rest) := by
  have hother : ∀ d : Char, d.isDigit = false ∧ d ≠ '-' → c ≠ d := by
    rintro d hd rfl
    simp [hd] at hc
  have hn : c ≠ 'n' := hother 'n' (by decide)
  have ht : c ≠ 't' := hother 't' (by decide)
  have hf : c ≠ 'f' := hother 'f' (by decide)
  have hquote : c ≠ '"' := hother '"' (by decide)
  have hbracket : c ≠ '[' := hother '[' (by decide)
  have hbrace : c ≠ '\x7b' := hother '\x7b' (by decide)
  rw [takeValue, skipSpace_cons (isSpace_of_startsNumber hc)]
  split <;> simp_all

theorem takeValue_integer {i : Int} (hi : FitsWord i) (fuel depth : Nat) {rest : List Char}
    (hrest : EndsNumber rest) :
    takeValue (fuel + 1) depth ((toString i).toList ++ rest) = some (.int i, rest) := by
  obtain ⟨c, text, htext, hc⟩ := exists_toString_eq_cons i
  have hread := takeNumeral_toString i hrest
  rw [htext, List.cons_append] at hread ⊢
  rw [takeValue_number hc, hread]
  simp [value?_integerNumeral hi]

theorem takeValue_string (fuel depth : Nat) (s : String) (rest : List Char)
    (hfuel : s.toList.length < fuel) :
    takeValue (fuel + 1) depth (stringChars s ++ rest) = some (.str s, rest) := by
  have hread := takeString_flatMap_escape s.toList rest hfuel
  rw [stringChars, List.cons_append, List.cons_append, List.append_assoc, takeValue]
  simp [skipSpace, isSpace, hread]

/-- A bracket before anything but a closing one begins the first item. -/
theorem takeValue_bracket (fuel depth : Nat) {c : Char} (hspace : isSpace c = false)
    (hclose : c ≠ ']') (rest : List Char) :
    takeValue (fuel + 1) (depth + 1) ('[' :: c :: rest) =
      (takeItems fuel depth (c :: rest)).map fun (items, rest) => (.arr items, rest) := by
  rw [takeValue, skipSpace_cons (by decide)]
  simp [skipSpace_cons hspace, hclose]

/-- A brace before a quote begins the first field. -/
theorem takeValue_brace (fuel depth : Nat) (rest : List Char) :
    takeValue (fuel + 1) (depth + 1) ('\x7b' :: '"' :: rest) =
      (takeFields fuel depth ('"' :: rest)).map fun (fields, rest) => (.obj fields, rest) := by
  have hquote : isSpace '"' = false := by decide
  rw [takeValue, skipSpace_cons (by decide)]
  simp [skipSpace_cons hquote]

section

variable {fuel depth : Nat} {name : String} {j : Json} {text more rest : List Char}

theorem takeItems_last (hj : takeValue fuel depth text = some (j, ']' :: rest)) :
    takeItems (fuel + 1) depth text = some ([j], rest) := by
  have hclose : isSpace ']' = false := by decide
  simp [takeItems, hj, skipSpace_cons hclose]

theorem takeItems_cons {items : List Json} (hj : takeValue fuel depth text = some (j, ',' :: more))
    (hitems : takeItems fuel depth more = some (items, rest)) :
    takeItems (fuel + 1) depth text = some (j :: items, rest) := by
  have hcomma : isSpace ',' = false := by decide
  simp [takeItems, hj, skipSpace_cons hcomma, hitems]

theorem takeFields_last (hname : name.toList.length < fuel)
    (hj : takeValue fuel depth text = some (j, '\x7d' :: rest)) :
    takeFields (fuel + 1) depth (stringChars name ++ ':' :: text) = some ([(name, j)], rest) := by
  have hread := takeString_flatMap_escape name.toList (':' :: text) hname
  have hcolon : isSpace ':' = false := by decide
  have hclose : isSpace '\x7d' = false := by decide
  rw [stringChars, List.cons_append, List.cons_append, List.append_assoc, takeFields,
    skipSpace_cons (by decide)]
  simp [hread, skipSpace_cons hcolon, hj, skipSpace_cons hclose]

theorem takeFields_cons {fields : List (String × Json)} (hname : name.toList.length < fuel)
    (hj : takeValue fuel depth text = some (j, ',' :: more))
    (hfields : takeFields fuel depth more = some (fields, rest)) :
    takeFields (fuel + 1) depth (stringChars name ++ ':' :: text) =
      some ((name, j) :: fields, rest) := by
  have hread := takeString_flatMap_escape name.toList (':' :: text) hname
  have hcolon : isSpace ':' = false := by decide
  have hcomma : isSpace ',' = false := by decide
  rw [stringChars, List.cons_append, List.cons_append, List.append_assoc, takeFields,
    skipSpace_cons (by decide)]
  simp [hread, skipSpace_cons hcolon, hj, skipSpace_cons hcomma, hfields]

end

/-- A written document begins with neither a blank nor a closing bracket. -/
theorem exists_chars_eq_cons {j : Json} (hj : j.isIntegral = true) :
    ∃ c rest, j.chars = c :: rest ∧ isSpace c = false ∧ c ≠ ']' := by
  cases j with
  | null => exact ⟨'n', _, rfl, by decide, by decide⟩
  | bool b => cases b <;> exact ⟨_, _, rfl, by decide, by decide⟩
  | int i =>
    obtain ⟨c, rest, hchars, hc⟩ := exists_toString_eq_cons i
    refine ⟨c, rest, by rw [chars, hchars], isSpace_of_startsNumber hc, ?_⟩
    rintro rfl
    simp at hc
  | float x => simp [isIntegral] at hj
  | str s => exact ⟨'"', _, rfl, by decide, by decide⟩
  | arr items => cases items <;> exact ⟨'[', _, rfl, by decide, by decide⟩
  | obj fields => cases fields <;> exact ⟨'\x7b', _, rfl, by decide, by decide⟩

theorem endsNumber_itemChars (items : List Json) (rest : List Char) :
    EndsNumber (itemChars items ++ rest) := by
  cases items <;> simp [itemChars, EndsNumber]

theorem endsNumber_fieldChars (fields : List (String × Json)) (rest : List Char) :
    EndsNumber (fieldChars fields ++ rest) := by
  cases fields <;> simp [fieldChars, EndsNumber]

theorem length_itemChars_pos (items : List Json) : 0 < (itemChars items).length := by
  cases items <;> simp [itemChars]

theorem length_fieldChars_pos (fields : List (String × Json)) :
    0 < (fieldChars fields).length := by
  cases fields <;> simp [fieldChars]

/-- Items, without the bracket or the comma before them. -/
def itemsText : List Json → List Char
  | [] => []
  | j :: rest => j.chars ++ itemChars rest

/-- Fields, without the brace or the comma before them. -/
def fieldsText : List (String × Json) → List Char
  | [] => []
  | (name, j) :: rest => stringChars name ++ ':' :: (j.chars ++ fieldChars rest)

theorem chars_arr {items : List Json} (hne : items ≠ []) :
    (arr items).chars = '[' :: itemsText items := by
  cases items with
  | nil => exact absurd rfl hne
  | cons j items => rw [chars, itemsText, List.cons_append]

theorem chars_obj {fields : List (String × Json)} (hne : fields ≠ []) :
    (obj fields).chars = '\x7b' :: fieldsText fields := by
  cases fields with
  | nil => exact absurd rfl hne
  | cons field fields => simp [chars, fieldsText]

theorem itemChars_eq {items : List Json} (hne : items ≠ []) :
    itemChars items = ',' :: itemsText items := by
  cases items with
  | nil => exact absurd rfl hne
  | cons j items => rw [itemChars, itemsText, List.cons_append]

theorem fieldChars_eq {fields : List (String × Json)} (hne : fields ≠ []) :
    fieldChars fields = ',' :: fieldsText fields := by
  cases fields with
  | nil => exact absurd rfl hne
  | cons field fields => simp [fieldChars, fieldsText]

/-- A bracket before written items is followed by a value. -/
theorem takeValue_bracket_itemsText (fuel depth : Nat) {items : List Json} (hne : items ≠ [])
    (hintegral : isIntegralItems items = true) (rest : List Char) :
    takeValue (fuel + 1) (depth + 1) ('[' :: (itemsText items ++ rest)) =
      (takeItems fuel depth (itemsText items ++ rest)).map fun (items, rest) => (.arr items, rest) := by
  cases items with
  | nil => exact absurd rfl hne
  | cons j items =>
    obtain ⟨c, text, htext, hspace, hclose⟩ :=
      exists_chars_eq_cons (Bool.and_eq_true_iff.1 hintegral).1
    rw [itemsText, htext, List.cons_append, List.cons_append]
    exact takeValue_bracket fuel depth hspace hclose _

theorem takeValue_brace_fieldsText (fuel depth : Nat) {fields : List (String × Json)}
    (hne : fields ≠ []) (rest : List Char) :
    takeValue (fuel + 1) (depth + 1) ('\x7b' :: (fieldsText fields ++ rest)) =
      (takeFields fuel depth (fieldsText fields ++ rest)).map
        fun (fields, rest) => (.obj fields, rest) := by
  cases fields with
  | nil => exact absurd rfl hne
  | cons field fields => exact takeValue_brace fuel depth _

/-! ### Whole documents -/

mutual

/-- A written value is read back with two steps of fuel for each of its characters. -/
theorem takeValue_chars : ∀ (j : Json) {fuel depth : Nat} {rest : List Char},
    j.isIntegral = true → j.depth ≤ depth → 2 * j.chars.length ≤ fuel + 1 → EndsNumber rest →
    takeValue (fuel + 1) depth (j.chars ++ rest) = some (j, rest)
  | .null, _, _, _, _, _, _, _ => by rw [chars]; rfl
  | .bool true, _, _, _, _, _, _, _ => by rw [chars]; rfl
  | .bool false, _, _, _, _, _, _, _ => by rw [chars]; rfl
  | .int i, fuel, depth, _, hintegral, _, _, hrest => by
    rw [isIntegral, decide_eq_true_eq] at hintegral
    rw [chars]
    exact takeValue_integer hintegral fuel depth hrest
  | .float _, _, _, _, hintegral, _, _, _ => by simp [isIntegral] at hintegral
  | .str s, fuel, depth, rest, _, _, hfuel, _ => by
    have hlength := length_lt_length_stringChars s
    rw [chars] at hfuel ⊢
    exact takeValue_string fuel depth s rest (by omega)
  | .arr items, fuel, _, rest, hintegral, hdepth, hfuel, _ => by
    rw [isIntegral] at hintegral
    rw [Json.depth] at hdepth
    obtain ⟨depth, rfl⟩ := Nat.exists_eq_add_of_le' (Nat.le_of_add_left_le hdepth)
    by_cases hne : items = []
    · subst hne
      rw [chars]
      rfl
    · rw [chars_arr hne, List.length_cons] at hfuel
      obtain ⟨fuel, rfl⟩ := Nat.exists_eq_add_of_le' (show 1 ≤ fuel by omega)
      have hread := @takeItems_chars items fuel depth rest hne hintegral (by omega) (by omega)
      rw [chars_arr hne, List.cons_append, takeValue_bracket_itemsText _ _ hne hintegral, hread]
      rfl
  | .obj fields, fuel, _, rest, hintegral, hdepth, hfuel, _ => by
    rw [isIntegral] at hintegral
    rw [Json.depth] at hdepth
    obtain ⟨depth, rfl⟩ := Nat.exists_eq_add_of_le' (Nat.le_of_add_left_le hdepth)
    by_cases hne : fields = []
    · subst hne
      rw [chars]
      rfl
    · rw [chars_obj hne, List.length_cons] at hfuel
      obtain ⟨fuel, rfl⟩ := Nat.exists_eq_add_of_le' (show 1 ≤ fuel by omega)
      have hread := @takeFields_chars fields fuel depth rest hne hintegral (by omega) (by omega)
      rw [chars_obj hne, List.cons_append, takeValue_brace_fieldsText _ _ hne, hread]
      rfl

/-- Written items are read back up to their closing bracket. -/
theorem takeItems_chars : ∀ (items : List Json) {fuel depth : Nat} {rest : List Char},
    items ≠ [] → isIntegralItems items = true → depthItems items ≤ depth →
    2 * (itemsText items).length ≤ fuel + 1 →
    takeItems (fuel + 1) depth (itemsText items ++ rest) = some (items, rest)
  | [], _, _, _, hne, _, _, _ => absurd rfl hne
  | j :: items, fuel, depth, rest, _, hintegral, hdepth, hfuel => by
    obtain ⟨hj, hitems⟩ := Bool.and_eq_true_iff.1 hintegral
    obtain ⟨hdepthj, hdepthItems⟩ := Nat.max_le.1 hdepth
    have hpos := length_itemChars_pos items
    rw [itemsText, List.length_append] at hfuel
    obtain ⟨fuel, rfl⟩ := Nat.exists_eq_add_of_le' (show 1 ≤ fuel by omega)
    have hread := @takeValue_chars j fuel depth _ hj hdepthj (by omega)
      (endsNumber_itemChars items rest)
    rw [itemsText, List.append_assoc]
    by_cases hne : items = []
    · subst hne
      rw [itemChars] at hread ⊢
      exact takeItems_last hread
    · rw [itemChars_eq hne] at hread hfuel ⊢
      rw [List.length_cons] at hfuel
      exact takeItems_cons hread (takeItems_chars items hne hitems hdepthItems (by omega))

/-- Written fields are read back up to their closing brace. -/
theorem takeFields_chars : ∀ (fields : List (String × Json)) {fuel depth : Nat} {rest : List Char},
    fields ≠ [] → isIntegralFields fields = true → depthFields fields ≤ depth →
    2 * (fieldsText fields).length ≤ fuel + 1 →
    takeFields (fuel + 1) depth (fieldsText fields ++ rest) = some (fields, rest)
  | [], _, _, _, hne, _, _, _ => absurd rfl hne
  | (name, j) :: fields, fuel, depth, rest, _, hintegral, hdepth, hfuel => by
    obtain ⟨hj, hfields⟩ := Bool.and_eq_true_iff.1 hintegral
    obtain ⟨hdepthj, hdepthFields⟩ := Nat.max_le.1 hdepth
    have hpos := length_fieldChars_pos fields
    have hname := length_lt_length_stringChars name
    rw [fieldsText, List.length_append, List.length_cons, List.length_append] at hfuel
    obtain ⟨fuel, rfl⟩ := Nat.exists_eq_add_of_le' (show 1 ≤ fuel by omega)
    have hread := @takeValue_chars j fuel depth _ hj hdepthj (by omega)
      (endsNumber_fieldChars fields rest)
    rw [fieldsText, List.append_assoc, List.cons_append, List.append_assoc]
    by_cases hne : fields = []
    · subst hne
      rw [fieldChars] at hread ⊢
      exact takeFields_last (by omega) hread
    · rw [fieldChars_eq hne] at hread hfuel ⊢
      rw [List.length_cons] at hfuel
      exact takeFields_cons (by omega) hread
        (takeFields_chars fields hne hfields hdepthFields (by omega))

end

/-! ### Texts -/

variable {j k : Json}

theorem toList_render (j : Json) : j.render.toList = j.chars := by
  rw [render, String.toList_ofList]

/-- A document is read back from its text. -/
theorem readDocument_render (hj : j.Legible) : readDocument j.render = some j := by
  have hend : EndsNumber [] := by simp [EndsNumber]
  have hread := @takeValue_chars j (2 * j.chars.length + 1) maxDepth [] hj.integral hj.depth
    (by omega) hend
  rw [List.append_nil] at hread
  rw [readDocument, readWhole, takeDocument, toList_render, hread]
  rfl

theorem read_render (hj : j.Legible) : read j.render = some j.canonical := by
  rw [read, readDocument_render hj, Option.map_some]

/-- Different documents have different texts. -/
theorem render_injective (hj : j.Legible) (hk : k.Legible) (h : j.render = k.render) : j = k := by
  have hread := readDocument_render hj
  rw [h, readDocument_render hk] at hread
  exact (Option.some.inj hread).symm

end WideColumn.Json
