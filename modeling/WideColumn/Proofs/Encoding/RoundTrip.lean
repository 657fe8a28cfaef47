import WideColumn.Meta.Encoding
import WideColumn.Proofs.Json.Canonical
import WideColumn.Proofs.Json.RoundTrip

/-!
# Decoding undoes encoding

The value of a property other than a compound key comes back from its encoded form: null, single
values, and collections item by item. A text where a document is expected cannot come back, as it
would be read as one. Main statement: `PropertyMeta.decode_contract`.
-/

namespace WideColumn

/-- Whether a value of a custom type comes back from its encoded form. A document has to be in the
form in which documents are held, with its fields sorted; every document that was read is. -/
def Value.IsDocumentLike : Value → Prop
  | .text _ => False
  | .json document => document.Legible ∧ document.canonical = document
  | _ => True

theorem Value.isDocumentLike_of_read {s : String} {document : Json}
    (h : Json.read s = some document) (hlegible : document.Legible) :
    (Value.json document).IsDocumentLike :=
  ⟨hlegible, Json.canonical_of_read h⟩

namespace CqlType

variable {type : CqlType} {v : Value}

theorem encode_of_not_isCustom (h : type.isCustom = false) (v : Value) : type.encode v = v := by
  cases v <;> simp [encode, h]

theorem decode_of_not_isCustom (h : type.isCustom = false) (v : Value) :
    type.decode v = .ok v := by
  cases v <;> simp [decode, h]

/-- A single value comes back. -/
theorem decode_encode (h : type.isCustom = true → v.IsDocumentLike) :
    type.decode (type.encode v) = .ok v := by
  cases htype : type.isCustom with
  | false => rw [encode_of_not_isCustom htype, decode_of_not_isCustom htype]
  | true =>
    have hlike := h htype
    cases v with
    | text s => exact absurd hlike id
    | json document =>
      obtain ⟨hlegible, hcanonical⟩ := hlike
      simp [encode, decode, htype, Json.read_render hlegible, hcanonical]
    | _ => rfl

end CqlType

/-- A value of a type that may be unknown comes back. -/
theorem decodeAs_encodeAs {type : Option CqlType} {v : Value}
    (h : ∀ t ∈ type, t.isCustom = true → v.IsDocumentLike) :
    decodeAs type (encodeAs type v) = .ok v := by
  cases type with
  | none => rfl
  | some t => exact CqlType.decode_encode (h t rfl)

/-- A run over a list undoes a map over it if it undoes it for each item. -/
theorem mapM_map_eq_ok {α β ε : Type} {f : α → β} {g : β → Except ε α} {xs : List α}
    (h : ∀ x ∈ xs, g (f x) = .ok x) : (xs.map f).mapM g = .ok xs := by
  induction xs with
  | nil => rfl
  | cons x xs ih =>
    obtain ⟨hx, hxs⟩ := List.forall_mem_cons.1 h
    rw [List.map_cons, List.mapM_cons, hx, ih hxs]
    rfl

namespace PropertyMeta

variable {pm : PropertyMeta} {v w : Value}

/-- The single values that are encoded one by one, each with its type if it is known. -/
def positions (pm : PropertyMeta) (v : Value) : List (Option CqlType × Value) :=
  match pm.encoding, v with
  | .simple, v => [(some pm.type, v)]
  | .list, .list items | .set, .list items | .set, .set items =>
    items.map fun x => (pm.type.element?, x)
  | .map, .map entries => entries.flatMap fun (k, x) => [(pm.type.key?, k), (pm.type.element?, x)]
  | _, _ => []

/-- The value as the property holds it: a list that is given for a set is the set of its items. -/
def held (pm : PropertyMeta) (v : Value) : Value :=
  match pm.encoding, v with
  | .set, .list items => .set items
  | _, v => v

theorem encoding_eq_compound_iff : pm.encoding = .compound ↔ pm.kind = .embeddedId := by
  unfold encoding
  cases pm.kind <;> simp [Encoding.ofKind]

theorem encode_null (pm : PropertyMeta) : pm.encode .null = .ok .null := by
  simp only [encode]

theorem decode_null (pm : PropertyMeta) : pm.decode .null = .ok .null := by
  simp only [decode]

theorem held_null (pm : PropertyMeta) : pm.held .null = .null := by
  unfold held
  cases pm.encoding <;> rfl

/-- The items of a collection come back one by one. -/
theorem mapM_decodeAs_encodeAs {type : Option CqlType} {items : List Value}
    (h : ∀ t, ∀ x ∈ items, type = some t → t.isCustom = true → x.IsDocumentLike) :
    (items.map (encodeAs type)).mapM (decodeAs type) = .ok items :=
  mapM_map_eq_ok fun x hx => decodeAs_encodeAs fun t ht => h t x hx ht

/-- The entries of a map come back one by one. -/
theorem mapM_decode_encode_entries {key element : Option CqlType} {entries : List (Value × Value)}
    (hkey : ∀ t, ∀ e ∈ entries, key = some t → t.isCustom = true → e.1.IsDocumentLike)
    (helement : ∀ t, ∀ e ∈ entries, element = some t → t.isCustom = true → e.2.IsDocumentLike) :
    ((entries.map fun (k, x) => (encodeAs key k, encodeAs element x)).mapM
      fun (k, x) => do return (← decodeAs key k, ← decodeAs element x)) =
      (.ok entries : Except Error _) := by
  apply mapM_map_eq_ok
  rintro ⟨k, x⟩ hmem
  have hk := decodeAs_encodeAs fun t ht => hkey t (k, x) hmem ht
  have hx := decodeAs_encodeAs fun t ht => helement t (k, x) hmem ht
  show (do return (← decodeAs key (encodeAs key k), ← decodeAs element (encodeAs element x))) = _
  rw [hk, hx]
  rfl

/-! ### Whole values -/

section

variable {items : List Value} {entries : List (Value × Value)}

theorem decode_encode_of_simple (h : pm.encoding = .simple)
    (hv : pm.type.isCustom = true → v.IsDocumentLike) :
    pm.decode (pm.type.encode v) = .ok v := by
  have hsingle : ∀ w, pm.decode w = pm.type.decode w := by
    intro w
    cases w <;> simp [decode, h, CqlType.decode]
  rw [hsingle, CqlType.decode_encode hv]

theorem decode_items_of_list (h : pm.encoding = .list)
    (hitems : ∀ t, ∀ x ∈ items, pm.type.element? = some t → t.isCustom = true →
      x.IsDocumentLike) :
    pm.decode (.list (items.map (encodeAs pm.type.element?))) = .ok (.list items) := by
  simp only [decode, h, mapM_decodeAs_encodeAs hitems]
  rfl

theorem decode_items_of_set (h : pm.encoding = .set)
    (hitems : ∀ t, ∀ x ∈ items, pm.type.element? = some t → t.isCustom = true →
      x.IsDocumentLike) :
    pm.decode (.set (items.map (encodeAs pm.type.element?))) = .ok (.set items) := by
  simp only [decode, h, mapM_decodeAs_encodeAs hitems]
  rfl

theorem decode_entries_of_map (h : pm.encoding = .map)
    (hkey : ∀ t, ∀ e ∈ entries, pm.type.key? = some t → t.isCustom = true →
      e.1.IsDocumentLike)
    (helement : ∀ t, ∀ e ∈ entries, pm.type.element? = some t → t.isCustom = true →
      e.2.IsDocumentLike) :
    pm.decode (.map (entries.map fun (k, x) =>
      (encodeAs pm.type.key? k, encodeAs pm.type.element? x))) = .ok (.map entries) := by
  simp only [decode, h, mapM_decode_encode_entries hkey helement]
  rfl

end

/-- What a property other than a compound key encodes, it decodes to the value that was given. -/
theorem decode_contract (hkind : pm.kind ≠ .embeddedId)
    (hv : ∀ type x, (some type, x) ∈ pm.positions v → type.isCustom = true → x.IsDocumentLike)
    (hencode : pm.encode v = .ok w) : pm.decode w = .ok (pm.held v) := by
  by_cases hnull : v = .null
  · subst hnull
    rw [encode_null] at hencode
    obtain rfl := Except.ok.inj hencode
    rw [decode_null, held_null]
  unfold encode at hencode
  unfold positions at hv
  unfold held
  cases hencoding : pm.encoding with
  | simple =>
    have hsingle := decode_encode_of_simple hencoding (hv pm.type v (by simp [hencoding]))
    rw [hencoding] at hencode
    cases v with
    | null => exact absurd rfl hnull
    | _ =>
      obtain rfl := Except.ok.inj hencode
      exact hsingle
  | compound => exact absurd (encoding_eq_compound_iff.1 hencoding) hkind
  | list =>
    rw [hencoding] at hv hencode
    cases v with
    | null => exact absurd rfl hnull
    | list items =>
      obtain rfl := Except.ok.inj hencode
      exact decode_items_of_list hencoding fun t x hx ht => hv t x (by simpa [ht] using hx)
    | _ => cases hencode
  | set =>
    rw [hencoding] at hv hencode
    cases v with
    | null => exact absurd rfl hnull
    | list items | set items =>
      obtain rfl := Except.ok.inj hencode
      exact decode_items_of_set hencoding fun t x hx ht => hv t x (by simpa [ht] using hx)
    | _ => cases hencode
  | map =>
    rw [hencoding] at hv hencode
    cases v with
    | null => exact absurd rfl hnull
    | map entries =>
      obtain rfl := Except.ok.inj hencode
      exact decode_entries_of_map hencoding
        (fun t e he ht => hv t e.1 (by simpa [ht] using ⟨_, _, he, .inl rfl⟩))
        (fun t e he ht => hv t e.2 (by simpa [ht] using ⟨_, _, he, .inr rfl⟩))
    | _ => cases hencode

end PropertyMeta

namespace Photo

open PropertyMeta

/-- Labels of a type of the program. -/
def labels : PropertyMeta :=
  { PropertyDraft.ofKind "labels" .set (.set (.custom "Label")) with entityClass := "Photo" }

/-- A document with a quote, a line break and a nested array. -/
def quotedLabel : Json :=
  .obj [("at", .arr [.int (-1), .null]), ("text", .str "say \"hi\"\n")]

theorem legible_quotedLabel : quotedLabel.Legible where
  integral := by decide
  depth := by decide

/-- A quoted label and a null, encoded. -/
def encodedLabels : Value :=
  .set [.text "\x7b\"at\":[-1,null],\"text\":\"say \\\"hi\\\"\\n\"\x7d", .null]

/-- A list of labels comes back as their set. -/
theorem decode_contract_labels :
    labels.encode (.list [.json quotedLabel, .null]) = .ok encodedLabels ∧
      labels.decode encodedLabels = .ok (.set [.json quotedLabel, .null]) := by
  have hencode : labels.encode (.list [.json quotedLabel, .null]) = .ok encodedLabels := by rfl
  refine ⟨hencode, decode_contract (by decide) (fun type x hmem _ => ?_) hencode⟩
  have hx : x = .json quotedLabel ∨ x = .null := by
    obtain ⟨y, hy, hpair⟩ := List.mem_map.1 hmem
    obtain rfl := (Prod.mk.inj hpair).2
    simpa using hy
  obtain rfl | rfl := hx
  · exact ⟨legible_quotedLabel, by rfl⟩
  · trivial

end Photo

end WideColumn
