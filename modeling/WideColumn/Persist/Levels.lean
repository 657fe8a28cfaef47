import WideColumn.Meta.Entity
import WideColumn.Options

/-!
# Choice of levels

Which level a statement is sent with. The level of an open batch window comes first, then the level
of the call, then that of the property, then that of the entity class. A call with a level inside a
batch window is an error, because the window is sent as one group at one level.
-/

namespace WideColumn.Levels

/-- The error for a call with a level inside a batch window. -/
def batchConflict : Error :=
  .ofConfig
    "Runtime custom Consistency Level cannot be set for batch mode. Please set the Consistency Levels at batch start with 'start_batch_with(level)'"

/-- The level of the window, of the call, or the fallback. -/
def resolve (options : Options) (batch : Option Level) (fallback : Level) : Except Error Level :=
  match batch, options.level with
  | some _, some _ => .error batchConflict
  | some level, none | none, some level => .ok level
  | none, none => .ok fallback

/-- Only a call with a level inside a window is refused. -/
theorem resolve_eq_error_iff (options : Options) (batch : Option Level) (fallback : Level)
    (e : Error) :
    resolve options batch fallback = .error e ↔
      batch.isSome ∧ options.hasLevel ∧ e = batchConflict := by
  cases batch <;> cases h : options.level <;> simp [resolve, h, Options.hasLevel, eq_comm]

/-- The options of a call with the level of the window, if one is open. -/
def applyWindow (options : Options) (batch : Option Level) : Except Error Options :=
  match batch with
  | none => .ok options
  | some level => if options.hasLevel then .error batchConflict else .ok (options.withLevel level)

/-- The level of a read of an entity. -/
def read (options : Options) (em : EntityMeta) : Level :=
  options.level.getD em.readLevel

/-- The level of a write of an entity. -/
def write (options : Options) (em : EntityMeta) : Level :=
  options.level.getD em.writeLevel

/-- The level of a read of one property. -/
def readProperty (options : Options) (pm : PropertyMeta) (em : EntityMeta) : Level :=
  (options.level.or pm.readLevel).getD em.readLevel

/-- The level of a write of one property. -/
def writeProperty (options : Options) (pm : PropertyMeta) (em : EntityMeta) : Level :=
  (options.level.or pm.writeLevel).getD em.writeLevel

end WideColumn.Levels
