import WideColumn.Edit.Script
import WideColumn.Json.Codec

/-!
# Edits as documents

Each edit reads from an object that names it in the field `op` and has its arguments beside it.
-/

namespace WideColumn

variable {V : Type} [Readable V]

/-- The error for an edit of an unknown name. -/
def unknownEdit {α : Type} (name : String) : Except String α :=
  .error ("unknown edit " ++ name)

instance : Readable (WindowEdit V) where
  read j := do
    match ← j.get "op" with
    | "len" => return .length
    | "get" => return .get (← j.get "index")
    | "iter" | "slice" => return .items
    | "push" => return .push (← j.get "value")
    | "insert" => return .insert (← j.get "index") (← j.get "value")
    | "remove" => return .remove (← j.get "index")
    | "set" => return .set (← j.get "index") (← j.get "value")
    | "clear" => return .clear
    | "sort" => return .sort
    | name => unknownEdit name

instance : Readable (ListMove V) where
  read j := do
    match ← j.get "op" with
    | "has_next" => return .place
    | "next" => return .next
    | "remove" => return .remove
    | "set" => return .set (← j.get "value")
    | "add" => return .add (← j.get "value")
    | name => unknownEdit name

instance : Readable (ListEdit V) where
  read j := do
    match ← j.get "op" with
    | "len" => return .length
    | "get" => return .get (← j.get "index")
    | "first" => return .first
    | "last" => return .last
    | "pop" => return .pop
    | "set" => return .set (← j.get "index") (← j.get "value")
    | "iter" | "slice" => return .items
    | "contains" => return .contains (← j.get "value")
    | "remove_item" => return .removeItem (← j.get "value")
    | "index_of" => return .indexOf (← j.get "value")
    | "remove" => return .remove (← j.get "index")
    | "push" => return .push (← j.get "value")
    | "insert" => return .insert (← j.get "index") (← j.get "value")
    | "extend" => return .extend (← j.get "values")
    | "insert_all" => return .insertAll (← j.get "index") (← j.get "values")
    | "retain" => return .retain (← j.get "values")
    | "clear" => return .clear
    | "truncate" => return .truncate (← j.get "len")
    | "sort" => return .sort
    | "sort_desc" => return .sortDescending
    | "sub_list" => return .window (← j.get "start") (← j.get "end") (← j.get "actions")
    | "cursor" => return .walk (← j.get "actions")
    | name => unknownEdit name

instance : Readable (SetMove V) where
  read j := do
    match ← j.get "op" with
    | "next" => return .next
    | "remove" => return .remove
    | "sweep" => return .sweep (← j.get "values")
    | name => unknownEdit name

instance : Readable (SetEdit V) where
  read j := do
    match ← j.get "op" with
    | "len" => return .length
    | "iter" => return .items
    | "contains" => return .contains (← j.get "value")
    | "insert" => return .insert (← j.get "value")
    | "remove" => return .remove (← j.get "value")
    | "take" => return .take (← j.get "value")
    | "extend" => return .extend (← j.get "values")
    | "retain" => return .retain (← j.get "values")
    | "clear" => return .clear
    | "cursor" => return .walk (← j.get "actions")
    | name => unknownEdit name

instance : Readable (SideEdit V) where
  read j := do
    match ← j.get "op" with
    | "len" => return .length
    | "iter" => return .items
    | "contains" => return .contains (← j.get "value")
    | "remove" => return .remove (← j.get "value")
    | "retain" => return .retain (← j.get "values")
    | "clear" => return .clear
    | name => unknownEdit name

instance : Readable (EntryMove V) where
  read j := do
    match ← j.get "op" with
    | "next" => return .next
    | "remove" => return .remove
    | "set_value" => return .setValue (← j.get "value")
    | "sweep" => return .sweep (← j.get "keys") (← j.get "value")
    | name => unknownEdit name

instance : Readable (MapEdit V) where
  read j := do
    match ← j.get "op" with
    | "len" => return .length
    | "iter" => return .entries
    | "get" => return .get (← j.get "key")
    | "insert" => return .insert (← j.get "key") (← j.get "value")
    | "remove" => return .remove (← j.get "key")
    | "contains_key" => return .contains (← j.get "key")
    | "extend" => return .extend (← j.get "entries")
    | "retain" => return .retain (← j.get "keys") (← j.get "value")
    | "clear" => return .clear
    | "get_mut" => return .modify (← j.get "key") (← j.get "value")
    | "key_set" => return .keys (← j.get "actions")
    | "values" => return .values (← j.get "actions")
    | "cursor" => return .walk (← j.get "actions")
    | name => unknownEdit name

end WideColumn
