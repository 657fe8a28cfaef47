import WideColumn.Json.Reader

/-!
# Skipping JSON

A reader that knows the fields of an object skips those of other names. What is skipped has to
follow the grammar, but it is not evaluated: containers nest to any depth, a number may be of any
size, and an escaped surrogate may stand alone. `skipString_of_takeString` states that whatever
string can be read can be skipped, with the same rest.
-/

namespace WideColumn.Json

/-! ## Strings and other plain documents -/

/-- Whether a backslash and this character are an escape on their own. -/
def isShortEscape (c : Char) : Bool :=
  ['"', '\\', '/', 'b', 'f', 'n', 'r', 't'].contains c

/-- What follows a string, from after its opening quote. -/
def skipString : List Char → Option (List Char)
  | [] => none
  | '"' :: rest => some rest
  | '\\' :: 'u' :: a :: b :: c :: d :: rest =>
    if [a, b, c, d].all fun x => (Text.hexValue? x).isSome then skipString rest else none
  | '\\' :: c :: rest => if isShortEscape c then skipString rest else none
  | c :: rest => if c = '\\' || c.toNat < 0x20 then none else skipString rest

/-- The escape of a code unit can be skipped, whatever the unit. -/
private theorem skipString_unit {cs rest : List Char} {n : Nat} (h : takeHex4 cs = some (n, rest)) :
    skipString ('\\' :: 'u' :: cs) = skipString rest := by
  unfold takeHex4 at h
  split at h
  · simp only [Option.bind_eq_bind, Option.bind_eq_some_iff, Option.pure_def, Option.some.injEq,
      Prod.mk.injEq] at h
    obtain ⟨_, ha, _, hb, _, hc, _, hd, _, rfl⟩ := h
    simp [skipString, ha, hb, hc, hd]
  · simp at h

/-- An escape that can be read can be skipped. -/
theorem skipString_of_takeEscape {c : Char} {cs rest : List Char}
    (h : takeEscape cs = some (c, rest)) : skipString ('\\' :: cs) = skipString rest := by
  unfold takeEscape at h
  split at h
  case h_9 =>
    simp only [Option.bind_eq_bind, Option.bind_eq_some_iff] at h
    obtain ⟨⟨n, mid⟩, hn, h⟩ := h
    rw [skipString_unit hn]
    dsimp only at h
    split at h
    · simp at h; simp [h]
    · split at h
      · simp at h
      · split at h
        · simp only [Option.bind_eq_some_iff] at h
          obtain ⟨⟨m, low⟩, hm, h⟩ := h
          rw [skipString_unit hm]
          split at h
          · simp at h; simp [h]
          · simp at h
        · simp at h
  case h_10 => simp at h
  all_goals
    simp only [Option.some.injEq, Prod.mk.injEq] at h
    rw [h.2]
    simp [skipString, isShortEscape]

/-- Whatever string can be read can be skipped, with the same rest. -/
theorem skipString_of_takeString {fuel : Nat} {s cs rest : List Char}
    (h : takeString fuel cs = some (s, rest)) : skipString cs = some rest := by
  fun_induction takeString fuel cs generalizing s rest with
  | case1 => simp at h
  | case2 => simp at h
  | case3 => simp_all [skipString]
  | case4 _ cs ih =>
    simp only [Option.bind_eq_bind, Option.bind_eq_some_iff, Option.pure_def, Option.some.injEq,
      Prod.mk.injEq] at h
    obtain ⟨_, hescape, _, htail, _, rfl⟩ := h
    rw [skipString_of_takeEscape hescape, ih _ htail]
  | case5 => simp at h
  | case6 _ c cs hquote hslash hcontrol ih =>
    simp only [Option.map_eq_some_iff, Prod.mk.injEq] at h
    obtain ⟨_, htail, _, rfl⟩ := h
    rw [skipString]
    · simp [hcontrol, show c ≠ '\\' from hslash, ih htail]
    all_goals simp_all

/-- What follows a name and its colon. -/
def skipName (cs : List Char) : Option (List Char) :=
  match skipSpace cs with
  | '"' :: rest =>
    match (skipString rest).map skipSpace with
    | some (':' :: rest) => some rest
    | _ => none
  | _ => none

/-- What follows a document that is no container. -/
def skipPlain : List Char → Option (List Char)
  | 'n' :: 'u' :: 'l' :: 'l' :: rest => some rest
  | 't' :: 'r' :: 'u' :: 'e' :: rest => some rest
  | 'f' :: 'a' :: 'l' :: 's' :: 'e' :: rest => some rest
  | '"' :: rest => skipString rest
  | cs => (takeNumeral cs).map Prod.snd

/-! ## Containers -/

/-- A container whose end is still to come. -/
inductive Container where
  | array
  | object
deriving DecidableEq, Repr

/-- From the end of a document to the start of the next: the containers around it, innermost
first, and the text there. No container is left when the outermost document has ended. -/
def skipEnds : List Container → List Char → Option (List Container × List Char)
  | [], cs => some ([], cs)
  | container :: outer, cs =>
    match container, skipSpace cs with
    | .array, ',' :: rest => some (.array :: outer, rest)
    | .object, ',' :: rest => (skipName rest).map fun rest => (.object :: outer, rest)
    | .array, ']' :: rest => skipEnds outer rest
    | .object, '\x7d' :: rest => skipEnds outer rest
    | _, _ => none

/-- From the start of a document to the start of the next, which is its first item if it is a
container with items. -/
def skipStart (outer : List Container) (cs : List Char) : Option (List Container × List Char) :=
  match skipSpace cs with
  | '[' :: rest =>
    match skipSpace rest with
    | ']' :: rest => skipEnds outer rest
    | rest => some (.array :: outer, rest)
  | '\x7b' :: rest =>
    match skipSpace rest with
    | '\x7d' :: rest => skipEnds outer rest
    | rest => (skipName rest).map fun rest => (.object :: outer, rest)
  | cs => (skipPlain cs).bind (skipEnds outer)

/-- What follows the outermost document, from the start of one inside the given containers. -/
def skipWithin : Nat → List Container → List Char → Option (List Char)
  | 0, _, _ => none
  | fuel + 1, outer, cs =>
    match skipStart outer cs with
    | some ([], rest) => some rest
    | some (outer, rest) => skipWithin fuel outer rest
    | none => none

/-- What follows the document at the front of the text. Each document inside it takes at least one
character. -/
def skipValue (cs : List Char) : Option (List Char) :=
  skipWithin (cs.length + 1) [] cs

/-! ## Objects with known fields -/

/-- The field of a name with the value at the front of the text; no field if the name is none of
`names`. -/
def takeKnown (names : List String) (name : String) (cs : List Char) :
    Option (List (String × Json) × List Char) :=
  if names.contains name then
    (takeValue (2 * cs.length + 2) (maxDepth - 1) cs).map fun (value, rest) =>
      ([(name, value)], rest)
  else (skipValue cs).map fun rest => ([], rest)

/-- The fields of `names` up to the closing brace, the others skipped. -/
def takeKnownFields (names : List String) :
    Nat → List Char → Option (List (String × Json) × List Char)
  | 0, _ => none
  | fuel + 1, cs =>
    match skipSpace cs with
    | '"' :: rest => do
      let (name, rest) ← takeString fuel rest
      match skipSpace rest with
      | ':' :: rest =>
        let (known, rest) ← takeKnown names (String.ofList name) rest
        match skipSpace rest with
        | ',' :: rest =>
          let (fields, rest) ← takeKnownFields names fuel rest
          return (known ++ fields, rest)
        | '\x7d' :: rest => return (known, rest)
        | _ => none
      | _ => none
    | _ => none

/-- An object at the front of the text with its fields of `names` only, or another document. -/
def takeRecord (names : List String) (cs : List Char) : Option (Json × List Char) :=
  match skipSpace cs with
  | '\x7b' :: rest =>
    match skipSpace rest with
    | '\x7d' :: rest => some (.obj [], rest)
    | rest =>
      (takeKnownFields names (rest.length + 1) rest).map fun (fields, rest) => (.obj fields, rest)
  | cs => takeDocument cs

/-- The document that the whole text denotes. If it is an object, its fields of other names than
`names` are left out. -/
def readRecord (names : List String) (s : String) : Option Json :=
  readWhole (takeRecord names) s

end WideColumn.Json
