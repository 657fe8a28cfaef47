import WideColumn.Proofs.Encoding.Depth

/-!
# How documents travel

A property encodes its single values one by one: the value itself, the items of a collection, or the
components of a compound key. Each of them is looked at from outside only, so a document inside one
of them travels as a document. Main statement: `PropertyMeta.travel_contract`.
-/

namespace WideColumn

open Op Value

namespace PropertyMeta

variable {pm : PropertyMeta} {v w : Value}

/-- The documents of a value of the property, each with the type of its position. The components of
a compound key have the types of their columns. -/
def documents (pm : PropertyMeta) (v : Value) : List (Option CqlType × Json) :=
  match pm.encoding, v with
  | .compound, .list components =>
    (pm.columnTypes.zip components).flatMap fun (type, x) => x.documents (some type)
  | _, v => v.documents (some pm.type)

/-- The single values that are encoded one by one, those of a key included. -/
def singles (pm : PropertyMeta) (v : Value) : List (Option CqlType × Value) :=
  match pm.encoding, v with
  | .compound, .list components =>
    (pm.columnTypes.zip components).map fun (type, x) => (some type, x)
  | _, v => pm.positions v

/-- The types of the single values of the property. -/
def singleTypes (pm : PropertyMeta) : List CqlType :=
  match pm.encoding with
  | .simple => [pm.type]
  | .list | .set => pm.type.element?.toList
  | .map => pm.type.key?.toList ++ pm.type.element?.toList
  | .compound => pm.columnTypes

/-- The value of the property with its single values changed one by one. -/
def rebuild (pm : PropertyMeta) (f : Option CqlType → Value → Value) (v : Value) : Value :=
  match pm.encoding, v with
  | .simple, v => f (some pm.type) v
  | .list, .list items => .list (items.map (f pm.type.element?))
  | .set, .list items | .set, .set items => .set (items.map (f pm.type.element?))
  | .map, .map entries =>
    .map (entries.map fun (k, x) => (f pm.type.key? k, f pm.type.element? x))
  | .compound, .list components =>
    .list ((pm.columnTypes.zip components).map fun (type, x) => f (some type) x)
  | _, v => v

/-- The value of the property with every document at a custom type written as text. -/
def written (pm : PropertyMeta) (v : Value) : Value := pm.rebuild writtenAs v

/-- The shapes of values that the property encodes, by how it encodes them. -/
inductive Fits (pm : PropertyMeta) : Value → Prop
  | null : pm.encoding ≠ .simple → Fits pm .null
  | single (v : Value) : pm.encoding = .simple → Fits pm v
  | list (items : List Value) : pm.encoding = .list → Fits pm (.list items)
  | setOfList (items : List Value) : pm.encoding = .set → Fits pm (.list items)
  | set (items : List Value) : pm.encoding = .set → Fits pm (.set items)
  | map (entries : List (Value × Value)) : pm.encoding = .map → Fits pm (.map entries)
  | components (components : List Value) : pm.encoding = .compound → Fits pm (.list components)

theorem fits_of_encode (h : pm.encode v = .ok w) : pm.Fits v := by
  unfold encode at h
  cases hencoding : pm.encoding with
  | simple => exact .single v hencoding
  | compound =>
    rw [hencoding] at h
    cases v with
    | null => exact .null (by simp [hencoding])
    | list components => exact .components components hencoding
    | _ => cases h
  | list =>
    rw [hencoding] at h
    cases v with
    | null => exact .null (by simp [hencoding])
    | list items => exact .list items hencoding
    | _ => cases h
  | set =>
    rw [hencoding] at h
    cases v with
    | null => exact .null (by simp [hencoding])
    | list items => exact .setOfList items hencoding
    | set items => exact .set items hencoding
    | _ => cases h
  | map =>
    rw [hencoding] at h
    cases v with
    | null => exact .null (by simp [hencoding])
    | map entries => exact .map entries hencoding
    | _ => cases h

/-- Encoding changes the single values one by one. -/
theorem eq_rebuild_of_encode (h : pm.encode v = .ok w) : w = pm.rebuild encodeAs v := by
  cases fits_of_encode h with
  | null hencoding =>
    rw [encode_null] at h
    obtain rfl := Except.ok.inj h
    unfold rebuild
    cases hkind : pm.encoding <;> simp_all
  | single v hencoding =>
    unfold rebuild
    rw [hencoding]
    cases v with
    | null =>
      rw [encode_null] at h
      exact (Except.ok.inj h).symm
    | _ =>
      simp only [encode, hencoding] at h
      exact (Except.ok.inj h).symm
  | list items hencoding | setOfList items hencoding | set items hencoding
  | map entries hencoding =>
    simp only [encode, hencoding] at h
    simpa [rebuild, hencoding] using (Except.ok.inj h).symm
  | components components hencoding =>
    obtain ⟨-, -, rfl⟩ := (encode_list_eq_ok_iff (encoding_eq_compound_iff.1 hencoding)).1 h
    simp only [rebuild, hencoding, sent, List.map_zip_eq_zipWith]
    rfl

/-- Changes that agree on every single value agree on the whole. -/
theorem rebuild_congr (hfits : pm.Fits v) {f g : Option CqlType → Value → Value}
    (h : ∀ p ∈ pm.singles v, f p.1 p.2 = g p.1 p.2) : pm.rebuild f v = pm.rebuild g v := by
  cases hfits with
  | null hencoding => cases hkind : pm.encoding <;> simp_all [rebuild]
  | single v hencoding => simp_all [rebuild, singles, positions]
  | list items hencoding | setOfList items hencoding | set items hencoding =>
    simp only [singles, positions, hencoding, List.forall_mem_map] at h
    simp only [rebuild, hencoding, List.map_inj_left.2 h]
  | map entries hencoding =>
    simp only [singles, positions, hencoding, List.forall_mem_flatMap] at h
    simp only [rebuild, hencoding, Value.map.injEq, List.map_inj_left]
    rintro ⟨k, x⟩ hmem
    have hentry := h (k, x) hmem
    simp only [List.forall_mem_cons] at hentry
    rw [hentry.1, hentry.2.1]
  | components components hencoding =>
    simp only [singles, hencoding, List.forall_mem_map] at h
    simp only [rebuild, hencoding, List.map_inj_left.2 h]

theorem isPlain_rebuild_iff (hfits : pm.Fits v) (f : Option CqlType → Value → Value) :
    (pm.rebuild f v).IsPlain ↔ ∀ p ∈ pm.singles v, (f p.1 p.2).IsPlain := by
  cases hfits with
  | null hencoding =>
    cases hkind : pm.encoding <;> simp_all [rebuild, singles, positions, IsPlain, Value.documents]
  | single v hencoding => simp [rebuild, singles, positions, hencoding]
  | list items hencoding | setOfList items hencoding | set items hencoding =>
    simp [rebuild, singles, positions, hencoding]
  | map entries hencoding =>
    simp only [rebuild, singles, positions, hencoding, isPlain_map_iff, List.forall_mem_map,
      List.forall_mem_flatMap]
    simp
  | components components hencoding =>
    simp only [rebuild, singles, hencoding, isPlain_list_iff, List.forall_mem_map]

theorem documents_eq_flatMap (hfits : pm.Fits v) :
    pm.documents v = (pm.singles v).flatMap fun p => p.2.documents p.1 := by
  cases hfits with
  | null hencoding =>
    cases hkind : pm.encoding <;> simp_all [documents, singles, positions, Value.documents]
  | single v hencoding => simp [documents, singles, positions, hencoding]
  | list items hencoding | setOfList items hencoding | set items hencoding =>
    simp [documents, singles, positions, hencoding, Value.documents, documentsItems_eq_flatMap,
      List.flatMap_map]
  | map entries hencoding =>
    simp [documents, singles, positions, hencoding, Value.documents, documentsEntries_eq_flatMap,
      List.flatMap_assoc]
  | components components hencoding =>
    simp [documents, singles, hencoding, List.flatMap_map]

theorem mem_singleTypes_of_mem_singles (hfits : pm.Fits v) {p : Option CqlType × Value}
    (hp : p ∈ pm.singles v) {type : CqlType} (htype : p.1 = some type) :
    type ∈ pm.singleTypes := by
  obtain ⟨known, x⟩ := p
  obtain rfl : known = some type := htype
  cases hfits with
  | null hencoding =>
    cases hkind : pm.encoding <;> simp_all [singles, positions]
  | single v hencoding => simp_all [singleTypes, singles, positions]
  | list items hencoding | setOfList items hencoding | set items hencoding =>
    simp_all [singleTypes, singles, positions]
  | map entries hencoding =>
    simp only [singles, positions, hencoding, List.mem_flatMap] at hp
    obtain ⟨⟨k, x⟩, -, hp⟩ := hp
    simp only [List.mem_cons, Prod.mk.injEq, List.not_mem_nil, or_false] at hp
    rcases hp with ⟨hkey, -⟩ | ⟨helement, -⟩
    · simp [singleTypes, hencoding, ← hkey]
    · simp [singleTypes, hencoding, ← helement]
  | components components hencoding =>
    simp only [singles, hencoding, List.mem_map] at hp
    obtain ⟨⟨t, x⟩, hmem, hp⟩ := hp
    obtain rfl := Option.some.inj (Prod.mk.inj hp).1
    simpa only [singleTypes, hencoding] using (List.of_mem_zip hmem).1

/-! ### The contract -/

/-- Given documents only where a custom type is expected, at any depth, a property writes every one
of them as text exactly if none stands inside a single value. This is so for every value if no type
of a single value has a custom type inside. -/
theorem travel_contract (hcustom : AreCustom (pm.documents v)) (hencode : pm.encode v = .ok w) :
    (pm.written v).IsPlain ∧
    (w.IsPlain ↔ ∀ p ∈ pm.singles v, p.2.IsShallow) ∧
    (w = pm.written v ↔ ∀ p ∈ pm.singles v, p.2.IsShallow) ∧
    ((∀ type ∈ pm.singleTypes, ¬ type.Nests) → w = pm.written v) := by
  have hfits := fits_of_encode hencode
  obtain rfl := eq_rebuild_of_encode hencode
  have hsingles : ∀ p ∈ pm.singles v, AreCustom (p.2.documents p.1) := by
    rw [documents_eq_flatMap hfits] at hcustom
    exact List.forall_mem_flatMap.1 hcustom
  have hwritten : (pm.written v).IsPlain :=
    (isPlain_rebuild_iff hfits _).2 fun p hp => isPlain_writtenAs p.1 p.2 (hsingles p hp)
  have hfull (hshallow : ∀ p ∈ pm.singles v, p.2.IsShallow) :
      pm.rebuild encodeAs v = pm.written v :=
    rebuild_congr hfits fun p hp => encodeAs_of_isShallow (hshallow p hp) p.1
  have hshallow (hplain : (pm.rebuild encodeAs v).IsPlain) :
      ∀ p ∈ pm.singles v, p.2.IsShallow := by
    intro p hp
    exact isShallow_of_isPlain_encodeAs ((isPlain_rebuild_iff hfits _).1 hplain p hp)
  refine ⟨hwritten, ⟨hshallow, fun h => hfull h ▸ hwritten⟩,
    ⟨fun h => hshallow (h ▸ hwritten), hfull⟩, fun hnests => hfull fun p hp => ?_⟩
  apply isShallow_of_not_nests _ (hsingles p hp)
  intro type htype
  exact hnests type (mem_singleTypes_of_mem_singles hfits hp htype)

end PropertyMeta

namespace Note

open PropertyMeta

/-- Bundles of parts, a list of lists. -/
def partsDraft : PropertyDraft := .ofKind "parts" .list (.list (.list (.custom "Part")))

def partsMeta : PropertyMeta := { partsDraft with entityClass := "Note" }

/-- A document with one field. -/
def part : Json := .obj [("a", .int 1)]

/-- One bundle with one part. -/
def bundles : Value := .list [.list [.json part]]

theorem areCustom_bundles : AreCustom (partsMeta.documents bundles) := by
  intro p hp
  obtain rfl : p = (some (.custom "Part"), part) := List.mem_singleton.1 hp
  rfl

theorem not_isPlain_bundles : ¬ bundles.IsPlain :=
  List.cons_ne_nil (none, part) []

/-- The part travels as a document, not as its text. -/
theorem travel_contract_parts :
    partsMeta.encode bundles = .ok bundles ∧ ¬ bundles.IsPlain ∧
      partsMeta.written bundles = .list [.list [.text "\x7b\"a\":1\x7d"]] ∧
      (partsMeta.written bundles).IsPlain ∧
      ¬ ∀ p ∈ partsMeta.singles bundles, p.2.IsShallow := by
  obtain ⟨hwritten, hplain, -, -⟩ := travel_contract areCustom_bundles (by rfl)
  exact ⟨by rfl, not_isPlain_bundles, by rfl, hwritten, fun h => not_isPlain_bundles (hplain.2 h)⟩

/-- Not every value travels without documents whose documents stand at custom types. -/
theorem not_isPlain_of_nested :
    ¬ ∀ (draft : PropertyDraft) (entityClass : String) (pm : PropertyMeta) (v w : Value),
      draft.build entityClass = .ok pm → AreCustom (pm.documents v) → pm.encode v = .ok w →
        w.IsPlain := by
  intro h
  exact not_isPlain_bundles
    (h partsDraft "Note" partsMeta bundles bundles rfl areCustom_bundles rfl)

end Note

end WideColumn
