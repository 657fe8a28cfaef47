import WideColumn.Edit.View

/-!
# Editing maps

A map attribute under edit, its keys and values as views of their own, and cursors that walk over
the entries it had when they were made. A map is a list of entries without repeated keys.
-/

namespace WideColumn

/-- Set the value of a key: in place if the key is there, else at the end. -/
def putEntry {K V : Type} [BEq K] (key : K) (value : V) : List (K × V) → List (K × V)
  | [] => [(key, value)]
  | (k, v) :: rest => if k == key then (k, value) :: rest else (k, v) :: putEntry key value rest

/-- A map attribute under edit. -/
abbrev MapView (K V : Type) := View (List (K × V))

namespace MapView

variable {K V : Type} [BEq K]

/-- The value of a key. -/
def get? (m : MapView K V) (key : K) : Option V :=
  (m.container.find? fun (k, _) => k == key).map Prod.snd

/-- Whether a key is there. -/
def contains (m : MapView K V) (key : K) : Bool := m.container.any fun (k, _) => k == key

/-- Set the value of a key and return the previous one. -/
def insert (m : MapView K V) (key : K) (value : V) : Option V × MapView K V :=
  (m.get? key, m.edit (putEntry key value))

/-- Remove a key and return its value. -/
def remove (m : MapView K V) (key : K) : Option V × MapView K V :=
  (m.get? key, m.edit (·.filter fun (k, _) => !(k == key)))

/-- Set the values of several keys, one after the other. -/
def extend (m : MapView K V) (entries : List (K × V)) : MapView K V :=
  m.edit (entries.foldl (fun es (k, v) => putEntry k v es) ·)

/-- Keep the entries for which `keep` gives a value, with that value. -/
def retain (m : MapView K V) (keep : K → V → Option V) : MapView K V :=
  m.edit (·.filterMap fun (k, v) => (keep k v).map fun v => (k, v))

/-- Remove all entries. -/
def clear (m : MapView K V) : MapView K V := m.edit fun _ => []

/-- Change the value of a key, if the key is there; only then does the property count as changed. -/
def modify (m : MapView K V) (key : K) (f : V → V) : Bool × MapView K V :=
  match m.get? key with
  | some v => (true, m.edit (putEntry key (f v)))
  | none => (false, m)

/-- What a look-up sees after an insertion. -/
theorem get?_insert [EquivBEq K] (m : MapView K V) (key other : K) (value : V) :
    (m.insert key value).2.get? other = if key == other then some value else m.get? other := by
  simp only [insert, get?, View.container_edit]
  induction m.container with
  | nil => cases h : key == other <;> simp [putEntry, h]
  | cons entry rest ih =>
    obtain ⟨k, v⟩ := entry
    simp only [putEntry]
    cases hk : k == key with
    | true =>
      have hsame : (k == other) = (key == other) := BEq.congr_left hk
      cases h : key == other <;> simp [hsame, h]
    | false =>
      cases h : key == other with
      | true =>
        have hout : (k == other) = false := (BEq.congr_right h).symm.trans hk
        simpa [hout, h] using ih
      | false =>
        cases hother : k == other with
        | true => simp [hother]
        | false => simpa [hother, h] using ih

/-- What a look-up sees after a removal. -/
theorem get?_remove [EquivBEq K] (m : MapView K V) (key other : K) :
    (m.remove key).2.get? other = if key == other then none else m.get? other := by
  simp only [remove, get?, View.container_edit]
  induction m.container with
  | nil => simp
  | cons entry rest ih =>
    obtain ⟨k, v⟩ := entry
    cases hk : k == key with
    | true =>
      have hsame : (k == other) = (key == other) := BEq.congr_left hk
      cases h : key == other with
      | true => simpa [hk, h] using ih
      | false => simpa [hk, hsame, h] using ih
    | false =>
      cases h : key == other with
      | true =>
        have hout : (k == other) = false := (BEq.congr_right h).symm.trans hk
        simpa [hk, hout, h] using ih
      | false =>
        cases hother : k == other with
        | true => simp [hk, hother]
        | false => simpa [hk, hother, h] using ih

/-- Remove a key; whether it was there. -/
def removeKey (m : MapView K V) (key : K) : Bool × MapView K V :=
  (m.contains key, (m.remove key).2)

/-- Keep the entries whose key satisfies `keep`. -/
def retainKeys (m : MapView K V) (keep : K → Bool) : MapView K V :=
  m.retain fun k v => if keep k then some v else none

/-- Whether some key has the value. -/
def containsValue [BEq V] (m : MapView K V) (value : V) : Bool :=
  m.container.any fun (_, v) => v == value

/-- Remove one entry that holds the value; whether there was one. -/
def removeValue [BEq V] (m : MapView K V) (value : V) : Bool × MapView K V :=
  match m.container.find? fun (_, v) => v == value with
  | some (key, _) => m.removeKey key
  | none => (false, m.mark)

/-- Keep the entries whose value satisfies `keep`. -/
def retainValues (m : MapView K V) (keep : V → Bool) : MapView K V :=
  m.retain fun _ v => if keep v then some v else none

end MapView

/-- A cursor over the entries of a map under edit. -/
structure EntryCursor (K V : Type) where
  map : MapView K V
  /-- The keys still to visit. -/
  ahead : List K
  /-- The key of the entry last returned. -/
  current : Option K

/-- A cursor over the present entries. -/
def MapView.cursor {K V : Type} (m : MapView K V) : EntryCursor K V :=
  ⟨m, m.container.map Prod.fst, none⟩

namespace EntryCursor

variable {K V : Type} [BEq K]

/-- The first of the keys that is still in the map, with its value and the keys after it. -/
def firstPresent (m : MapView K V) : List K → Option (K × V × List K)
  | [] => none
  | key :: rest =>
    match m.get? key with
    | some v => some (key, v, rest)
    | none => firstPresent m rest

/-- Move past the next entry that is still there and return it. At the end the entry last returned
stays the current one. -/
def next (c : EntryCursor K V) : Option (K × V) × EntryCursor K V :=
  match firstPresent c.map c.ahead with
  | some (key, v, rest) => (some (key, v), { c with ahead := rest, current := some key })
  | none => (none, { c with ahead := [] })

/-- Remove the entry last returned, and return its value. -/
def remove (c : EntryCursor K V) : Except Error V × EntryCursor K V :=
  let fail := Except.error (noCurrentElement c.map.property "remove")
  match c.current with
  | some key =>
    match c.map.get? key with
    | some v => (.ok v, { c with map := (c.map.remove key).2, current := none })
    | none => (fail, { c with current := none })
  | none => (fail, c)

/-- Set the value of the entry last returned, and return the previous one. -/
def setValue (c : EntryCursor K V) (value : V) : Except Error V × EntryCursor K V :=
  match c.current.bind fun key => (c.map.get? key).map fun v => (key, v) with
  | some (key, old) => (.ok old, { c with map := (c.map.insert key value).2 })
  | none => (.error (noCurrentElement c.map.property "set a value"), c)

/-- Move to the end in at most `fuel` moves. Entries whose key satisfies `p` are removed, the others
get the new value, if there is one. -/
def sweepFor (p : K → Bool) (value : Option V) :
    Nat → EntryCursor K V → List K × List V × EntryCursor K V
  | 0, c => ([], [], c)
  | fuel + 1, c =>
    match c.next with
    | (none, c) => ([], [], c)
    | (some (key, _), c) =>
      let (removed, c) : List V × EntryCursor K V :=
        if p key then
          match c.remove with
          | (.ok v, c) => ([v], c)
          | (.error _, c) => ([], c)
        else
          match value with
          | some v => ([], (c.setValue v).2)
          | none => ([], c)
      let (seen, more, c) := sweepFor p value fuel c
      (key :: seen, removed ++ more, c)

/-- Move to the end, removing the entries whose key satisfies `p` and setting the values of the
others, if a value is given: the keys returned on the way, and the values removed. -/
def sweep (p : K → Bool) (value : Option V) (c : EntryCursor K V) :
    List K × List V × EntryCursor K V :=
  c.sweepFor p value (c.ahead.length + 1)

end EntryCursor

end WideColumn
