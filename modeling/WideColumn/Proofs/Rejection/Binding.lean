import WideColumn.Proofs.Counter.Statement
import WideColumn.Proofs.Rejection.Rejected

/-!
# Values that cannot be bound

On account of which values the binding of a write fails. Once the statements of a class are there,
an insert and an update fail for an attribute or a key without encoding, a delta for a magnitude
beyond 64 bits; every other failure is that of a statement that is missing, and no rejection.
-/

namespace WideColumn

open Op

variable {E : Type}

/-! ### Encodings -/

/-- A list of values is encoded when each of them is. -/
theorem isOk_mapM {α β : Type} {f : α → Except Error β} {xs : List α} :
    (xs.mapM f).isOk = true ↔ ∀ x ∈ xs, (f x).isOk = true := by
  induction xs with
  | nil => simp [Except.isOk, Except.toBool, pure, Except.pure]
  | cons x xs ih =>
    rw [List.mapM_cons, List.forall_mem_cons, ← ih]
    cases f x with
    | error e => simp [Except.isOk, Except.toBool, bind, Except.bind]
    | ok y =>
      cases xs.mapM f <;>
        simp [Except.isOk, Except.toBool, bind, Except.bind, pure, Except.pure]

theorem isOk_of_eq_ok {α β : Type} {x : Except α β} {b : β} (h : x = .ok b) : x.isOk = true := by
  rw [h]
  rfl

theorem exists_eq_ok_of_isOk {α β : Type} {x : Except α β} (h : x.isOk = true) :
    ∃ b, x = .ok b := by
  cases x with
  | error e => cases h
  | ok b => exact ⟨b, rfl⟩

theorem not_isOk_of_eq_error {α β : Type} {x : Except α β} {e : α} (h : x = .error e) :
    ¬ x.isOk = true := by
  rw [h]
  exact Bool.false_ne_true

/-- The key of an entity has an encoding. -/
def EntityMeta.KeyEncodes (em : EntityMeta) (key : List Value) : Prop :=
  (em.id.encodeComponents key).isOk = true

/-- The attributes of a new entity have encodings. -/
def EntityMeta.RowEncodes (em : EntityMeta) (T : EntityType E) (entity : E) : Prop :=
  ∀ pm ∈ em.plain, (pm.encode (Registry.insertValue T entity pm.name)).isOk = true

/-- The changed attributes of an entity have encodings. -/
def EntityType.ChangesEncode (T : EntityType E) (entity : E) (properties : List PropertyMeta) :
    Prop :=
  ∀ pm ∈ properties, (pm.encode (Registry.updateValue T entity pm.name)).isOk = true

/-! ### Binding -/

namespace Registry

variable {r : Registry} {em : EntityMeta} {T : EntityType E} {entity : E} {key : List Value}
  {options : Options} {level : Level}

theorem statements_of_isRegistered (h : r.isRegistered em.className = true) :
    ∃ statements, r.statements em = .ok statements := by
  obtain ⟨found, hfound⟩ := Option.isSome_iff_exists.1 h
  exact ⟨found, by rw [statements, hfound]⟩

theorem not_rejection_of_orMissing {what : String} {found : Option Prepared} {e : Error}
    (h : orMissing em what found = .error e) : e.isRejection = false := by
  cases found with
  | none =>
    rw [← Except.error.inj h]
    rfl
  | some p => cases h

theorem rowEncodes_of_bindInsert {request : Request}
    (h : r.bindInsert T em entity options level = .ok request) : em.RowEncodes T entity := by
  obtain ⟨statements, -, h⟩ := except_bind_eq_ok h
  obtain ⟨p, -, h⟩ := except_bind_eq_ok h
  obtain ⟨encoded, -, h⟩ := except_bind_eq_ok h
  obtain ⟨attributes, hattributes, -⟩ := except_bind_eq_ok h
  exact isOk_mapM.1 (isOk_of_eq_ok hattributes)

/-- An insert whose key has an encoding is rejected for an attribute. -/
theorem not_rowEncodes_of_bindInsert (hr : r.isRegistered em.className = true)
    (hkey : em.KeyEncodes (T.key entity)) {e : Error}
    (h : r.bindInsert T em entity options level = .error e) (he : e.isRejection = true) :
    ¬ em.RowEncodes T entity := by
  intro hrow
  obtain ⟨statements, hstatements⟩ := statements_of_isRegistered hr
  rcases except_bind_eq_error h with h | ⟨_, -, h⟩
  · rw [hstatements] at h
    cases h
  · rcases except_bind_eq_error h with h | ⟨p, -, h⟩
    · rw [not_rejection_of_orMissing h] at he
      cases he
    · rcases except_bind_eq_error h with h | ⟨encoded, -, h⟩
      · exact not_isOk_of_eq_error h hkey
      · rcases except_bind_eq_error h with h | ⟨attributes, -, h⟩
        · exact not_isOk_of_eq_error h (isOk_mapM.2 hrow)
        · cases h

theorem isOk_updateValues (options : Options) {properties : List PropertyMeta} :
    (updateValues T em entity properties options).isOk = true ↔
      T.ChangesEncode entity properties ∧ em.KeyEncodes (T.key entity) := by
  unfold updateValues EntityType.ChangesEncode EntityMeta.KeyEncodes encodedKey
  rw [← isOk_mapM]
  cases properties.mapM fun pm => pm.encode (updateValue T entity pm.name) with
  | error e => simp [Except.isOk, Except.toBool, bind, Except.bind]
  | ok attributes =>
    cases em.id.encodeComponents (T.key entity) <;>
      simp [Except.isOk, Except.toBool, bind, Except.bind, pure, Except.pure]

end Registry

theorem counterDelta_eq_error {em : EntityMeta} {pm : PropertyMeta} {delta : Int} {e : Error}
    (h : counterDelta em pm delta = .error e) : ¬ MagnitudeFits delta := by
  unfold counterDelta at h
  split at h
  · cases h
  · next hlarge => exact hlarge

namespace Call

variable {c : Call E} {r : Registry} {pm : PropertyMeta} {key : List Value} {delta : Int}

theorem magnitude_of_bindDelta {request : Request} (h : c.bindDelta r pm key delta = .ok request) :
    MagnitudeFits delta := by
  unfold bindDelta at h
  dsimp only at h
  split at h
  all_goals
    obtain ⟨_, hdelta, -⟩ := except_bind_eq_ok h
    exact (counterDelta_eq_ok hdelta).1

/-- A delta of a key that has an encoding is rejected for its magnitude. -/
theorem not_magnitude_of_bindDelta (hr : r.isRegistered c.entityMeta.className = true)
    (hkey : c.entityMeta.KeyEncodes key) {e : Error}
    (h : c.bindDelta r pm key delta = .error e) (he : e.isRejection = true) :
    ¬ MagnitudeFits delta := by
  obtain ⟨statements, hstatements⟩ := Registry.statements_of_isRegistered hr
  have hmissing {what : String} {found : Option Prepared} {error : Error}
      (hfound : Registry.orMissing c.entityMeta what found = .error error) : error ≠ e := by
    rintro rfl
    rw [Registry.not_rejection_of_orMissing hfound] at he
    cases he
  unfold bindDelta at h
  dsimp only at h
  split at h
  · rcases except_bind_eq_error h with h | ⟨_, -, h⟩
    · exact counterDelta_eq_error h
    · rcases except_bind_eq_error h with h | ⟨p, -, h⟩
      · unfold Registry.clusteredCounter at h
        rw [hstatements] at h
        exact absurd rfl (hmissing h)
      · rcases except_bind_eq_error h with h | ⟨_, -, h⟩
        · exact absurd hkey (not_isOk_of_eq_error h)
        · cases h
  · rcases except_bind_eq_error h with h | ⟨_, -, h⟩
    · exact counterDelta_eq_error h
    · rcases except_bind_eq_error h with h | ⟨p, -, h⟩
      · unfold Registry.sharedCounter at h
        rw [hstatements] at h
        exact absurd rfl (hmissing h)
      · rcases except_bind_eq_error h with h | ⟨_, -, h⟩
        · rcases except_bind_eq_error h with h | ⟨_, -, h⟩
          · exact absurd hkey (not_isOk_of_eq_error h)
          · cases h
        · cases h

end Call

end WideColumn
