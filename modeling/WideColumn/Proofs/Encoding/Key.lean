import WideColumn.Proofs.Encoding.RoundTrip
import WideColumn.Proofs.Operation.Run

/-!
# Decoding a compound key

A compound key is encoded component by component, each with the type of its own column. It is
decoded as a single value, which leaves every component as it travels: a document that was given for
a column of a custom type stays the text that it was written as. Main statement:
`PropertyMeta.compound_contract`.
-/

namespace WideColumn

open Op

/-- A value travels as it is unless it is a document of a custom type. -/
theorem CqlType.encode_eq_self_iff {type : CqlType} {v : Value} :
    type.encode v = v ↔ ∀ document, v = .json document → type.isCustom = false := by
  cases v <;> simp [CqlType.encode]

/-- A list is as it was if every item is. -/
theorem zipWith_eq_right_iff {α β : Type} {f : α → β → β} {xs : List α} {ys : List β}
    (hlength : ys.length = xs.length) :
    List.zipWith f xs ys = ys ↔ ∀ x y, (x, y) ∈ xs.zip ys → f x y = y := by
  induction xs generalizing ys with
  | nil =>
    obtain rfl := List.length_eq_zero_iff.1 hlength
    simp
  | cons x xs ih =>
    obtain ⟨y, rest, rfl⟩ := List.exists_cons_of_length_eq_add_one hlength
    rw [List.zipWith_cons_cons, List.cons.injEq, ih (by simpa using hlength)]
    simp [or_imp, forall_and]

namespace PropertyMeta

variable {pm : PropertyMeta} {components encoded : List Value} {w : Value}

/-- The components as they travel, each encoded with the type of its column. -/
def sent (pm : PropertyMeta) (components : List Value) : List Value :=
  List.zipWith CqlType.encode pm.columnTypes components

theorem sent_eq_map (pm : PropertyMeta) (components : List Value) :
    pm.sent components =
      ((pm.columnNames.zip pm.columnTypes).zip components).map fun p => p.1.2.encode p.2 := by
  have htypes : (pm.columnNames.zip pm.columnTypes).map Prod.snd = pm.columnTypes :=
    List.map_snd_zip pm.length_columnTypes.le
  calc pm.sent components
    _ = List.zipWith CqlType.encode ((pm.columnNames.zip pm.columnTypes).map Prod.snd)
          components := by rw [htypes, sent]
    _ = _ := by
      rw [List.zipWith_map_left, List.map_zip_eq_zipWith]
      rfl

/-- The columns and the components are encoded side by side, up to a null. -/
theorem encodeEach_eq_ok_iff {columns : List (String × CqlType)}
    (hlength : components.length = columns.length) :
    pm.encodeEach columns components = .ok encoded ↔
      (∀ v ∈ components, v.isNull = false) ∧
        encoded = (columns.zip components).map fun p => p.1.2.encode p.2 := by
  induction columns generalizing components encoded with
  | nil =>
    obtain rfl := List.length_eq_zero_iff.1 hlength
    rw [encodeEach, Except.ok.injEq, eq_comm]
    · simp
    · simp
  | cons column columns ih =>
    obtain ⟨v, rest, rfl⟩ := List.exists_cons_of_length_eq_add_one hlength
    rw [List.length_cons, List.length_cons, Nat.add_right_cancel_iff] at hlength
    obtain ⟨name, type⟩ := column
    cases hnull : v.isNull with
    | true => simp [encodeEach, hnull]
    | false =>
      simp only [encodeEach, hnull, Bool.false_eq_true, if_false, List.forall_mem_cons, true_and,
        List.zip_cons_cons, List.map_cons]
      constructor
      · intro h
        obtain ⟨encoded', hrest, h⟩ := except_bind_eq_ok h
        obtain ⟨hnulls, rfl⟩ := (ih hlength).1 hrest
        exact ⟨hnulls, (Except.ok.inj h).symm⟩
      · rintro ⟨hnulls, rfl⟩
        rw [(ih hlength).2 ⟨hnulls, rfl⟩]
        rfl

/-- A key is accepted if it has a value for every column and none of them is null. -/
theorem encodeComponents_eq_ok_iff :
    pm.encodeComponents components = .ok encoded ↔
      components.length = pm.columnNames.length ∧ (∀ v ∈ components, v.isNull = false) ∧
        encoded = pm.sent components := by
  have hcolumns : (pm.columnNames.zip pm.columnTypes).length = pm.columnNames.length := by
    rw [List.length_zip, pm.length_columnTypes, Nat.min_self]
  by_cases hlength : components.length = pm.columnNames.length
  · have heach := @encodeEach_eq_ok_iff pm components encoded _ (hlength.trans hcolumns.symm)
    rw [← sent_eq_map] at heach
    simpa [encodeComponents, hlength] using heach
  · simp [encodeComponents, hlength]

theorem encode_list_eq_ok_iff (hkind : pm.kind = .embeddedId) :
    pm.encode (.list components) = .ok w ↔
      components.length = pm.columnNames.length ∧ (∀ v ∈ components, v.isNull = false) ∧
        w = .list (pm.sent components) := by
  have hencoding := encoding_eq_compound_iff.2 hkind
  have hencode : pm.encode (.list components) = (pm.encodeComponents components).map .list := by
    simp only [encode, hencoding]
  rw [hencode]
  constructor
  · intro h
    cases hsent : pm.encodeComponents components with
    | error e =>
      rw [hsent] at h
      cases h
    | ok encoded =>
      rw [hsent] at h
      obtain ⟨hlength, hnulls, rfl⟩ := encodeComponents_eq_ok_iff.1 hsent
      exact ⟨hlength, hnulls, (Except.ok.inj h).symm⟩
  · rintro ⟨hlength, hnulls, rfl⟩
    rw [encodeComponents_eq_ok_iff.2 ⟨hlength, hnulls, rfl⟩]
    rfl

/-- Decoding leaves the components of a compound key as they travel. -/
theorem decode_list (hkind : pm.kind = .embeddedId) (encoded : List Value) :
    pm.decode (.list encoded) = .ok (.list encoded) := by
  have hencoding := encoding_eq_compound_iff.2 hkind
  simp only [decode, hencoding, CqlType.decode]

/-- Decoding each component with the type of its column undoes the encoding. -/
theorem mapM_decode_sent (hlength : components.length = pm.columnTypes.length)
    (hlike : ∀ type x, (type, x) ∈ pm.columnTypes.zip components → type.isCustom = true →
      x.IsDocumentLike) :
    (pm.columnTypes.zip (pm.sent components)).mapM (fun p => p.1.decode p.2) =
      .ok components := by
  unfold sent
  generalize pm.columnTypes = types at hlength hlike
  induction types generalizing components with
  | nil =>
    obtain rfl := List.length_eq_zero_iff.1 hlength
    rfl
  | cons type types ih =>
    obtain ⟨v, rest, rfl⟩ := List.exists_cons_of_length_eq_add_one hlength
    have hv := CqlType.decode_encode (hlike type v (List.mem_cons_self ..))
    have hrest := ih (by simpa using hlength) fun t x hmem =>
      hlike t x (List.mem_cons_of_mem _ hmem)
    rw [List.zipWith_cons_cons, List.zip_cons_cons, List.mapM_cons, hv, hrest]
    rfl

/-- What a compound key encodes is decoded to the components as they travel. These are the
components that were given if and only if no column of a custom type was given a document, though
each document could be read back with the type of its column. -/
theorem compound_contract (hkind : pm.kind = .embeddedId)
    (hencode : pm.encode (.list components) = .ok w) :
    pm.decode w = .ok (.list (pm.sent components)) ∧
    (pm.decode w = .ok (.list components) ↔
      ∀ type document, (type, .json document) ∈ pm.columnTypes.zip components →
        type.isCustom = false) ∧
    ((∀ type x, (type, x) ∈ pm.columnTypes.zip components → type.isCustom = true →
        x.IsDocumentLike) →
      (pm.columnTypes.zip (pm.sent components)).mapM (fun p => p.1.decode p.2) =
        .ok components) := by
  obtain ⟨hlength, -, rfl⟩ := (encode_list_eq_ok_iff hkind).1 hencode
  rw [← pm.length_columnTypes] at hlength
  refine ⟨decode_list hkind _, ?_, mapM_decode_sent hlength⟩
  rw [decode_list hkind, Except.ok.injEq, Value.list.injEq, sent, zipWith_eq_right_iff hlength]
  simp only [CqlType.encode_eq_self_iff]
  exact ⟨fun h type document hmem => h type _ hmem document rfl,
    fun h type x hmem document hx => h type document (hx ▸ hmem)⟩

end PropertyMeta

namespace Booking

open PropertyMeta

/-- The key of a booking, with a document for the guest. -/
def keyDraft : PropertyDraft :=
  { PropertyDraft.ofKind "id" .embeddedId .text with
    key := some
      { components :=
          [{ name := "guest", type := .custom "Guest", role := .partition, reversed := false },
            { name := "day", type := .bigint, role := .clustering, reversed := false }] } }

def keyMeta : PropertyMeta := { keyDraft with entityClass := "Booking" }

/-- A document without fields other than an array. -/
def guest : Json := .obj [("a", .arr [.int 1, .int 2])]

/-- The third day of the guest. -/
def key : List Value := [.json guest, .bigint 3]

/-- The key as it travels. -/
def sentKey : List Value := [.text "\x7b\"a\":[1,2]\x7d", .bigint 3]

theorem encode_key : keyMeta.encode (.list key) = .ok (.list sentKey) := by
  rfl

theorem isDocumentLike_key (type : CqlType) (x : Value)
    (hmem : (type, x) ∈ keyMeta.columnTypes.zip key) : x.IsDocumentLike := by
  have hx : x ∈ key := (List.of_mem_zip hmem).2
  obtain rfl | rfl : x = .json guest ∨ x = .bigint 3 := by simpa [key] using hx
  · exact ⟨⟨by decide, by decide⟩, by rfl⟩
  · trivial

/-- The guest comes back as a text, and could be read from it with the type of the column. -/
theorem compound_contract_guest :
    keyMeta.decode (.list sentKey) = .ok (.list sentKey) ∧
      keyMeta.decode (.list sentKey) ≠ .ok (.list key) ∧
      (keyMeta.columnTypes.zip sentKey).mapM (fun p => p.1.decode p.2) =
        .ok key := by
  obtain ⟨hdecode, hback, heach⟩ := compound_contract (by rfl) encode_key
  refine ⟨hdecode, fun h => ?_, heach fun type x hmem _ => isDocumentLike_key type x hmem⟩
  have hcustom := hback.1 h (.custom "Guest") guest (List.mem_cons_self ..)
  exact absurd hcustom (by decide)

/-- Not every key comes back whose documents are of custom types. -/
theorem not_decode_of_custom_component :
    ¬ ∀ (draft : PropertyDraft) (entityClass : String) (pm : PropertyMeta)
      (components : List Value) (w : Value),
      draft.build entityClass = .ok pm → pm.kind = .embeddedId →
      (∀ v ∈ components, v.isNull = false) →
      (∀ type x, (type, x) ∈ pm.columnTypes.zip components → type.isCustom = true →
        ∃ document, x = .json document ∧ document.Legible ∧ document.canonical = document) →
      pm.encode (.list components) = .ok w → pm.decode w = .ok (.list components) := by
  intro h
  have hcustom : ∀ type x, (type, x) ∈ keyMeta.columnTypes.zip key →
      type.isCustom = true →
      ∃ document, x = .json document ∧ document.Legible ∧ document.canonical = document := by
    intro type x hmem htype
    have hpair : type = .custom "Guest" ∧ x = .json guest ∨ type = .bigint ∧ x = .bigint 3 := by
      simpa [keyMeta, keyDraft, key, columnTypes] using hmem
    obtain ⟨-, rfl⟩ | ⟨rfl, -⟩ := hpair
    · exact ⟨guest, rfl, ⟨by decide, by decide⟩, by rfl⟩
    · exact absurd htype (by decide)
  have hdecode := h keyDraft "Booking" keyMeta _ _ rfl rfl (by simp [key, Value.isNull]) hcustom
    encode_key
  rw [decode_list rfl, Except.ok.injEq, Value.list.injEq] at hdecode
  cases hdecode

end Booking

end WideColumn
