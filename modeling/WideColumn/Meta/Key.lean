import WideColumn.CqlType
import WideColumn.Error

/-!
# Compound keys

A compound key is a run of partition components followed by clustering components, of which the
last may be stored in reversed order. `CompoundKey.fault?` finds the first rule that a key breaks.
-/

namespace WideColumn

/-- What a key component decides: where a row lives, or its place within the partition. -/
inductive KeyRole where
  | partition
  | clustering
deriving Repr, DecidableEq

/-- One component of a compound key. -/
structure KeyComponent where
  name : String
  type : CqlType
  role : KeyRole
  /-- Whether rows are stored in the opposite order of this component. -/
  reversed : Bool
deriving Repr, DecidableEq

/-- The components of a key in declared order. -/
structure CompoundKey where
  components : List KeyComponent
deriving Repr, DecidableEq

/-- How the layout of a compound key can be wrong. -/
inductive KeyFault where
  | tooFewComponents
  | duplicateComponent (name : String)
  | noPartition
  | partitionAfterClustering
  | manyReversed
  | reversedNotLast
deriving Repr, DecidableEq

/-- The text of a fault in the key of the given entity. -/
def KeyFault.message (entity : String) : KeyFault → String
  | .tooFewComponents =>
    s!"There should be at least 2 components for the compound key of entity '{entity}'"
  | .duplicateComponent name =>
    s!"The component '{name}' is duplicated in the compound key of entity '{entity}'"
  | .noPartition =>
    s!"The compound key of entity '{entity}' should have at least one partition component"
  | .partitionAfterClustering =>
    s!"The partition components of entity '{entity}' should come before any clustering component"
  | .manyReversed =>
    s!"There should be at most 1 reversed component in the compound key of entity '{entity}'"
  | .reversedNotLast =>
    s!"The reversed component of entity '{entity}' must be the last clustering component"

/-- The first element that occurs among the elements before it, or in `seen`. -/
def firstRepeated (seen : List String) : List String → Option String
  | [] => none
  | name :: rest => if seen.contains name then some name else firstRepeated (name :: seen) rest

namespace CompoundKey

/-- The names of the columns, in declared order. -/
def columnNames (key : CompoundKey) : List String := key.components.map KeyComponent.name

/-- The components that decide where a row lives. -/
def partition (key : CompoundKey) : List KeyComponent :=
  key.components.filter fun c => c.role == .partition

/-- The components that order the rows of a partition. -/
def clustering (key : CompoundKey) : List KeyComponent :=
  key.components.filter fun c => c.role == .clustering

/-- Whether partitions have more than one row. -/
def isClustered (key : CompoundKey) : Bool := !key.clustering.isEmpty

/-- The first component stored in reversed order. -/
def reversed? (key : CompoundKey) : Option KeyComponent :=
  key.components.find? KeyComponent.reversed

/-- The first broken rule among: at least two components, distinct names, a partition component,
partition components first, at most one reversed component, and that one last and clustering. -/
def fault? (key : CompoundKey) : Option KeyFault :=
  if key.components.length < 2 then some .tooFewComponents
  else
    match firstRepeated [] key.columnNames with
    | some name => some (.duplicateComponent name)
    | none =>
      if key.partition.isEmpty then some .noPartition
      else if (key.components.take key.partition.length).any (fun c => c.role != .partition) then
        some .partitionAfterClustering
      else if 1 < (key.components.filter KeyComponent.reversed).length then some .manyReversed
      else
        match key.components.reverse with
        | [] => none
        | last :: others =>
          if others.any KeyComponent.reversed then some .reversedNotLast
          else if last.reversed && last.role != .clustering then some .reversedNotLast
          else none

/-- Succeeds when the layout is right; a fault is told as an error of the entity's metadata. -/
def validate (key : CompoundKey) (entity : String) : Except Error Unit :=
  match key.fault? with
  | some fault => .error (.mapping .compoundKey entity (fault.message entity))
  | none => .ok ()

end CompoundKey

/-- No element is repeated exactly when the elements are pairwise distinct and none was seen. -/
theorem firstRepeated_eq_none_iff (seen names : List String) :
    firstRepeated seen names = none ↔ names.Nodup ∧ ∀ n ∈ names, n ∉ seen := by
  induction names generalizing seen with
  | nil => simp [firstRepeated]
  | cons n rest ih =>
    simp only [firstRepeated, List.contains_eq_mem, decide_eq_true_eq, List.nodup_cons,
      List.mem_cons, forall_eq_or_imp]
    split
    · next h => simp [h]
    · next h =>
      rw [ih]
      constructor
      · rintro ⟨hnd, hmem⟩
        exact ⟨⟨fun hn => hmem n hn (by simp), hnd⟩, h,
          fun m hm hs => hmem m hm (List.mem_cons_of_mem _ hs)⟩
      · rintro ⟨⟨hn, hnd⟩, -, hmem⟩
        refine ⟨hnd, fun m hm hs => ?_⟩
        rcases List.mem_cons.1 hs with rfl | hs
        · exact hn hm
        · exact hmem m hm hs

end WideColumn
