import WideColumn.Proofs.Encoding.Key

/-!
# Documents inside collections

A document may stand at any depth of a value, and the type of its position is found by following the
collection types down through the value. Encoding looks at the value itself, at the items of a
collection property and at the components of a compound key, and no deeper. So documents are written
as text exactly if each of these single values is `IsShallow`.
-/

namespace WideColumn

namespace Value

mutual

/-- The documents in a value, at any depth, each with the type of its position if it is known. -/
def documents (type : Option CqlType) : Value → List (Option CqlType × Json)
  | .json document => [(type, document)]
  | .list items => documentsItems (type.bind CqlType.element?) items
  | .set items => documentsItems (type.bind CqlType.element?) items
  | .map entries =>
    documentsEntries (type.bind CqlType.key?) (type.bind CqlType.element?) entries
  | _ => []

def documentsItems (type : Option CqlType) : List Value → List (Option CqlType × Json)
  | [] => []
  | x :: rest => documents type x ++ documentsItems type rest

def documentsEntries (key element : Option CqlType) :
    List (Value × Value) → List (Option CqlType × Json)
  | [] => []
  | (k, x) :: rest => documents key k ++ documents element x ++ documentsEntries key element rest

end

mutual

/-- The value with every document that stands where a custom type is expected written as text. -/
def writtenAs (type : Option CqlType) : Value → Value
  | .json document => encodeAs type (.json document)
  | .list items => .list (writtenItems (type.bind CqlType.element?) items)
  | .set items => .set (writtenItems (type.bind CqlType.element?) items)
  | .map entries =>
    .map (writtenEntries (type.bind CqlType.key?) (type.bind CqlType.element?) entries)
  | v => v

def writtenItems (type : Option CqlType) : List Value → List Value
  | [] => []
  | x :: rest => writtenAs type x :: writtenItems type rest

def writtenEntries (key element : Option CqlType) : List (Value × Value) → List (Value × Value)
  | [] => []
  | (k, x) :: rest => (writtenAs key k, writtenAs element x) :: writtenEntries key element rest

end

/-- No document stands in the value, at any depth. -/
def IsPlain (v : Value) : Prop := v.documents none = []

/-- Documents stand only where a custom type is expected. -/
def AreCustom (documents : List (Option CqlType × Json)) : Prop :=
  ∀ p ∈ documents, p.1.any CqlType.isCustom = true

theorem documentsItems_eq_flatMap (type : Option CqlType) (items : List Value) :
    documentsItems type items = items.flatMap (documents type) := by
  induction items with
  | nil => rfl
  | cons x rest ih => rw [documentsItems, ih, List.flatMap_cons]

theorem documentsEntries_eq_flatMap (key element : Option CqlType)
    (entries : List (Value × Value)) :
    documentsEntries key element entries =
      entries.flatMap fun (k, x) => documents key k ++ documents element x := by
  induction entries with
  | nil => rfl
  | cons e rest ih => rw [documentsEntries, ih, List.flatMap_cons]

/-! ### Plain values -/

mutual

/-- Which documents there are does not depend on the type. -/
theorem documents_eq_nil_congr (type other : Option CqlType) :
    ∀ v : Value, v.documents type = [] ↔ v.documents other = []
  | .json _ => by simp [documents]
  | .list items | .set items => documentsItems_eq_nil_congr _ _ items
  | .map entries => documentsEntries_eq_nil_congr _ _ _ _ entries
  | .null | .bool _ | .int _ | .bigint _ | .float _ | .double _ | .decimal _ | .text _ | .blob _
  | .uuid _ | .timestamp _ => Iff.rfl

theorem documentsItems_eq_nil_congr (type other : Option CqlType) :
    ∀ items : List Value, documentsItems type items = [] ↔ documentsItems other items = []
  | [] => Iff.rfl
  | x :: rest => by
    simp only [documentsItems, List.append_eq_nil_iff]
    rw [documents_eq_nil_congr type other x, documentsItems_eq_nil_congr type other rest]

theorem documentsEntries_eq_nil_congr (key element key' element' : Option CqlType) :
    ∀ entries : List (Value × Value),
      documentsEntries key element entries = [] ↔ documentsEntries key' element' entries = []
  | [] => Iff.rfl
  | (k, x) :: rest => by
    simp only [documentsEntries, List.append_eq_nil_iff]
    rw [documents_eq_nil_congr key key' k, documents_eq_nil_congr element element' x,
      documentsEntries_eq_nil_congr key element key' element' rest]

end

theorem documents_eq_nil_iff (type : Option CqlType) (v : Value) :
    v.documents type = [] ↔ v.IsPlain := documents_eq_nil_congr type none v

@[simp] theorem isPlain_list_iff (items : List Value) :
    (Value.list items).IsPlain ↔ ∀ x ∈ items, x.IsPlain := by
  unfold IsPlain
  rw [documents, documentsItems_eq_flatMap, List.flatMap_eq_nil_iff]
  rfl

@[simp] theorem isPlain_set_iff (items : List Value) :
    (Value.set items).IsPlain ↔ ∀ x ∈ items, x.IsPlain := by
  unfold IsPlain
  rw [documents, documentsItems_eq_flatMap, List.flatMap_eq_nil_iff]
  rfl

@[simp] theorem isPlain_map_iff (entries : List (Value × Value)) :
    (Value.map entries).IsPlain ↔ ∀ e ∈ entries, e.1.IsPlain ∧ e.2.IsPlain := by
  unfold IsPlain
  rw [documents, documentsEntries_eq_flatMap, List.flatMap_eq_nil_iff]
  simp only [Option.bind_none, List.append_eq_nil_iff]

mutual

/-- A plain value is written as it is. -/
theorem writtenAs_of_isPlain (type : Option CqlType) :
    ∀ v : Value, v.IsPlain → v.writtenAs type = v
  | .json _, h => by simp [IsPlain, documents] at h
  | .list items, h => by
    rw [writtenAs, writtenItems_of_isPlain _ items ((isPlain_list_iff items).1 h)]
  | .set items, h => by
    rw [writtenAs, writtenItems_of_isPlain _ items ((isPlain_set_iff items).1 h)]
  | .map entries, h => by
    rw [writtenAs, writtenEntries_of_isPlain _ _ entries ((isPlain_map_iff entries).1 h)]
  | .null, _ | .bool _, _ | .int _, _ | .bigint _, _ | .float _, _ | .double _, _ | .decimal _, _
  | .text _, _ | .blob _, _ | .uuid _, _ | .timestamp _, _ => rfl

theorem writtenItems_of_isPlain (type : Option CqlType) :
    ∀ items : List Value, (∀ x ∈ items, x.IsPlain) → writtenItems type items = items
  | [], _ => rfl
  | x :: rest, h => by
    obtain ⟨hx, hrest⟩ := List.forall_mem_cons.1 h
    rw [writtenItems, writtenAs_of_isPlain type x hx, writtenItems_of_isPlain type rest hrest]

theorem writtenEntries_of_isPlain (key element : Option CqlType) :
    ∀ entries : List (Value × Value), (∀ e ∈ entries, e.1.IsPlain ∧ e.2.IsPlain) →
      writtenEntries key element entries = entries
  | [], _ => rfl
  | (k, x) :: rest, h => by
    obtain ⟨⟨hk, hx⟩, hrest⟩ := List.forall_mem_cons.1 h
    rw [writtenEntries, writtenAs_of_isPlain key k hk, writtenAs_of_isPlain element x hx,
      writtenEntries_of_isPlain key element rest hrest]

end

mutual

/-- No document is left where all of them stand at custom types. -/
theorem isPlain_writtenAs (type : Option CqlType) :
    ∀ v : Value, AreCustom (v.documents type) → (v.writtenAs type).IsPlain
  | .json document, h => by
    have hcustom : type.any CqlType.isCustom = true :=
      h (type, document) (List.mem_singleton_self _)
    cases type with
    | none => cases hcustom
    | some t =>
      have htype : t.isCustom = true := hcustom
      simp [writtenAs, encodeAs, CqlType.encode, htype, IsPlain, documents]
  | .list items, h => by
    rw [writtenAs, isPlain_list_iff]
    exact isPlain_writtenItems _ items h
  | .set items, h => by
    rw [writtenAs, isPlain_set_iff]
    exact isPlain_writtenItems _ items h
  | .map entries, h => by
    rw [writtenAs, isPlain_map_iff]
    exact isPlain_writtenEntries _ _ entries h
  | .null, _ | .bool _, _ | .int _, _ | .bigint _, _ | .float _, _ | .double _, _ | .decimal _, _
  | .text _, _ | .blob _, _ | .uuid _, _ | .timestamp _, _ => rfl

theorem isPlain_writtenItems (type : Option CqlType) :
    ∀ items : List Value, AreCustom (documentsItems type items) →
      ∀ y ∈ writtenItems type items, y.IsPlain
  | [], _ => by simp [writtenItems]
  | x :: rest, h => by
    obtain ⟨hx, hrest⟩ := List.forall_mem_append.1 h
    rw [writtenItems, List.forall_mem_cons]
    exact ⟨isPlain_writtenAs type x hx, isPlain_writtenItems type rest hrest⟩

theorem isPlain_writtenEntries (key element : Option CqlType) :
    ∀ entries : List (Value × Value), AreCustom (documentsEntries key element entries) →
      ∀ e ∈ writtenEntries key element entries, e.1.IsPlain ∧ e.2.IsPlain
  | [], _ => by simp [writtenEntries]
  | (k, x) :: rest, h => by
    obtain ⟨hentry, hrest⟩ := List.forall_mem_append.1 h
    obtain ⟨hk, hx⟩ := List.forall_mem_append.1 hentry
    rw [writtenEntries, List.forall_mem_cons]
    exact ⟨⟨isPlain_writtenAs key k hk, isPlain_writtenAs element x hx⟩,
      isPlain_writtenEntries key element rest hrest⟩

end

/-- The value is a document, or has none. -/
def IsShallow (v : Value) : Prop := (∃ document, v = .json document) ∨ v.IsPlain

/-- A shallow value is written in full by looking at the value alone. -/
theorem encodeAs_of_isShallow {v : Value} (h : v.IsShallow) (type : Option CqlType) :
    encodeAs type v = v.writtenAs type := by
  rcases h with ⟨document, rfl⟩ | hplain
  · rfl
  · rw [writtenAs_of_isPlain type v hplain]
    cases type with
    | none => rfl
    | some t =>
      cases v with
      | json document => simp [IsPlain, documents] at hplain
      | _ => rfl

/-- Looking at the value alone finds no document inside it. -/
theorem isShallow_of_isPlain_encodeAs {type : Option CqlType} {v : Value}
    (h : (encodeAs type v).IsPlain) : v.IsShallow := by
  cases v with
  | json document => exact .inl ⟨document, rfl⟩
  | _ => cases type <;> exact .inr h

end Value

/-! ### Types inside types -/

namespace CqlType

/-- Whether a custom type occurs in a type. -/
def holdsCustom : CqlType → Bool
  | custom _ => true
  | list element | set element => element.holdsCustom
  | map key value => key.holdsCustom || value.holdsCustom
  | _ => false

/-- A custom type occurs in a collection type but is not the type itself. -/
def Nests (type : CqlType) : Prop := type.isCustom = false ∧ type.holdsCustom = true

theorem holdsCustom_of_element? {type element : CqlType} (h : type.element? = some element)
    (hcustom : element.holdsCustom = true) : type.holdsCustom = true := by
  cases type with
  | list | set | map => simp_all [element?, holdsCustom]
  | _ => cases h

theorem holdsCustom_of_key? {type key : CqlType} (h : type.key? = some key)
    (hcustom : key.holdsCustom = true) : type.holdsCustom = true := by
  cases type with
  | map => simp_all [key?, holdsCustom]
  | _ => cases h

theorem any_holdsCustom_of_bind {type : Option CqlType} {part : CqlType → Option CqlType}
    (hpart : ∀ {t u : CqlType}, part t = some u → u.holdsCustom = true → t.holdsCustom = true)
    (h : (type.bind part).any holdsCustom = true) : type.any holdsCustom = true := by
  cases type with
  | none => cases h
  | some t =>
    rw [Option.bind_some] at h
    cases hu : part t with
    | none =>
      rw [hu] at h
      cases h
    | some u =>
      rw [hu] at h
      exact hpart hu h

theorem any_holdsCustom_of_isCustom {type : Option CqlType}
    (h : type.any isCustom = true) : type.any holdsCustom = true := by
  cases type with
  | none => cases h
  | some t => cases t <;> simp_all [isCustom, holdsCustom]

end CqlType

namespace Value

mutual

/-- A document stands at a custom type only if one occurs in the type of the whole value. -/
theorem holdsCustom_of_mem_documents (type : Option CqlType) :
    ∀ v : Value, ∀ p ∈ v.documents type, p.1.any CqlType.isCustom = true →
      type.any CqlType.holdsCustom = true
  | .json document, p, hp, hcustom => by
    rw [documents, List.mem_singleton] at hp
    subst hp
    exact CqlType.any_holdsCustom_of_isCustom hcustom
  | .list items, p, hp, hcustom | .set items, p, hp, hcustom =>
    CqlType.any_holdsCustom_of_bind CqlType.holdsCustom_of_element?
      (holdsCustom_of_mem_documentsItems _ items p hp hcustom)
  | .map entries, p, hp, hcustom => by
    rcases holdsCustom_of_mem_documentsEntries _ _ entries p hp hcustom with hkey | helement
    · exact CqlType.any_holdsCustom_of_bind CqlType.holdsCustom_of_key? hkey
    · exact CqlType.any_holdsCustom_of_bind CqlType.holdsCustom_of_element? helement
  | .null, _, hp, _ | .bool _, _, hp, _ | .int _, _, hp, _ | .bigint _, _, hp, _
  | .float _, _, hp, _ | .double _, _, hp, _ | .decimal _, _, hp, _ | .text _, _, hp, _
  | .blob _, _, hp, _ | .uuid _, _, hp, _ | .timestamp _, _, hp, _ => by simp [documents] at hp

theorem holdsCustom_of_mem_documentsItems (type : Option CqlType) :
    ∀ items : List Value, ∀ p ∈ documentsItems type items, p.1.any CqlType.isCustom = true →
      type.any CqlType.holdsCustom = true
  | [], _, hp, _ => by cases hp
  | x :: rest, p, hp, hcustom => by
    rcases List.mem_append.1 hp with hx | hrest
    · exact holdsCustom_of_mem_documents type x p hx hcustom
    · exact holdsCustom_of_mem_documentsItems type rest p hrest hcustom

theorem holdsCustom_of_mem_documentsEntries (key element : Option CqlType) :
    ∀ entries : List (Value × Value), ∀ p ∈ documentsEntries key element entries,
      p.1.any CqlType.isCustom = true →
      key.any CqlType.holdsCustom = true ∨ element.any CqlType.holdsCustom = true
  | [], _, hp, _ => by cases hp
  | (k, x) :: rest, p, hp, hcustom => by
    rcases List.mem_append.1 hp with hentry | hrest
    · rcases List.mem_append.1 hentry with hk | hx
      · exact .inl (holdsCustom_of_mem_documents key k p hk hcustom)
      · exact .inr (holdsCustom_of_mem_documents element x p hx hcustom)
    · exact holdsCustom_of_mem_documentsEntries key element rest p hrest hcustom

end

/-- A value of a type without nesting is shallow if its documents stand at custom types. -/
theorem isShallow_of_not_nests {type : Option CqlType} {v : Value}
    (hnests : ∀ t ∈ type, ¬ t.Nests) (h : AreCustom (v.documents type)) : v.IsShallow := by
  by_cases hplain : v.IsPlain
  · exact .inr hplain
  rw [← documents_eq_nil_iff type] at hplain
  obtain ⟨p, hp⟩ := List.exists_mem_of_ne_nil _ hplain
  have hholds := holdsCustom_of_mem_documents type v p hp (h p hp)
  cases type with
  | none => cases hholds
  | some t =>
    have hcustom : t.isCustom = true := by
      by_contra hno
      exact hnests t rfl ⟨by simpa using hno, hholds⟩
    -- No type is known inside a custom type, so the value itself is the document.
    cases v with
    | json document => exact .inl ⟨document, rfl⟩
    | list items =>
      have hinside := holdsCustom_of_mem_documentsItems _ items p hp (h p hp)
      cases t <;> simp_all [CqlType.isCustom, CqlType.element?]
    | set items =>
      have hinside := holdsCustom_of_mem_documentsItems _ items p hp (h p hp)
      cases t <;> simp_all [CqlType.isCustom, CqlType.element?]
    | map entries =>
      have hinside := holdsCustom_of_mem_documentsEntries _ _ entries p hp (h p hp)
      cases t <;> simp_all [CqlType.isCustom, CqlType.element?, CqlType.key?]
    | _ => cases hp

end Value

end WideColumn
