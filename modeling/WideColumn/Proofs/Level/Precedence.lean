import WideColumn.Proofs.Registry.Complete

/-!
# Precedence of levels

The level of a statement is the first one that is given: by the call, by the property, by the
configuration for the table, by the declaration of the class; the last resort is the default of the
configuration. The metadata of a registered class has been resolved, so that this holds for the
choice that an operation makes. Main statement: `Reachable.decides`.
-/

namespace WideColumn

open Op

/-- The first level that is given, or the last resort. -/
def firstLevel (levels : List (Option Level)) (last : Level) : Level :=
  (levels.findSome? id).getD last

/-- The levels chosen for a class are those that the precedence dictates. -/
structure Config.Decides (config : Config) (em : EntityMeta) : Prop where
  read (options : Options) : Levels.read options em =
    firstLevel [options.level, TableLevels.find? config.readByTable em.tableName,
      em.declaredReadLevel] config.readLevel
  write (options : Options) : Levels.write options em =
    firstLevel [options.level, TableLevels.find? config.writeByTable em.tableName,
      em.declaredWriteLevel] config.writeLevel
  readProperty (options : Options) (pm : PropertyMeta) : Levels.readProperty options pm em =
    firstLevel [options.level, pm.readLevel, TableLevels.find? config.readByTable em.tableName,
      em.declaredReadLevel] config.readLevel
  writeProperty (options : Options) (pm : PropertyMeta) : Levels.writeProperty options pm em =
    firstLevel [options.level, pm.writeLevel, TableLevels.find? config.writeByTable em.tableName,
      em.declaredWriteLevel] config.writeLevel

theorem firstLevel_cons (level : Option Level) (levels : List (Option Level)) (last : Level) :
    firstLevel (level :: levels) last = level.getD (firstLevel levels last) := by
  cases level <;> rfl

theorem Config.decides_resolve (config : Config) (em : EntityMeta) :
    config.Decides (config.resolve em) := by
  have entity (byTable declared : Option Level) (last : Level) :
      (byTable.or declared).getD last = firstLevel [byTable, declared] last := by
    cases byTable <;> cases declared <;> rfl
  have property (given chosen : Option Level) (last : Level) :
      (given.or chosen).getD last = given.getD (chosen.getD last) := by
    cases given <;> rfl
  constructor
  case read =>
    intro options
    rw [firstLevel_cons, ← entity]
    rfl
  case write =>
    intro options
    rw [firstLevel_cons, ← entity]
    rfl
  case readProperty =>
    intro options pm
    rw [firstLevel_cons, firstLevel_cons, ← entity, ← property]
    rfl
  case writeProperty =>
    intro options pm
    rw [firstLevel_cons, firstLevel_cons, ← entity, ← property]
    rfl

variable {σ E : Type} [Session σ]

/-- Registering a class resolves its levels. -/
theorem Manager.decides_register {s : Site σ E} (T : EntityType E)
    (hs : ∀ x ∈ s.types, s.config.Decides x.2) :
    ∀ x ∈ (Manager.register T s).2.types, (Manager.register T s).2.config.Decides x.2 := by
  rcases register_cases T s with ⟨em, -, hrun⟩ | ⟨-, ⟨e, -, hfailed⟩ | ⟨em, -, hdone⟩⟩
  · rw [hrun]
    exact hs
  · rw [hfailed.types, hfailed.config]
    exact hs
  · obtain ⟨checked, -, rfl⟩ := hdone.resolved
    rw [hdone.types, hdone.config]
    intro x hx
    rcases List.mem_cons.1 hx with rfl | hx
    · exact s.config.decides_resolve checked
    · exact hs x hx

/-- In every reachable state the levels chosen for a registered class are those that the precedence
dictates. -/
theorem Reachable.decides {b : Batching σ E} (h : Reachable b) :
    ∀ x ∈ b.site.types, b.site.config.Decides x.2 := by
  refine h.of_moves (P := fun b => ∀ x ∈ b.site.types, b.site.config.Decides x.2)
    (fun session config x hx => absurd hx List.not_mem_nil) fun b c _ hmove ih => ?_
  rcases hmove.sameStatements_or_register with hsame | ⟨T, -, rfl⟩
  · rw [hsame.types, hsame.config]
    exact ih
  · exact Manager.decides_register T ih

end WideColumn
