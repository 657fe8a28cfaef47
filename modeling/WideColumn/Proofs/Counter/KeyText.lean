import Mathlib.Data.List.Forall2
import WideColumn.Persist.Registry
import WideColumn.Proofs.Json.RoundTrip

/-!
# The text of a key tells rows apart

The counters of a row are found in the shared table by the text of its key. Keys whose components
are of the same kinds, one by one, have the same text only if they are equal: the text is read back
as the document of the key, and the document holds every component. Main statement:
`Registry.sharedKey_contract`.
-/

namespace WideColumn

/-! ### Legible documents -/

namespace Json

theorem isIntegralItems_iff {items : List Json} :
    isIntegralItems items = true ↔ ∀ j ∈ items, j.isIntegral = true := by
  induction items with
  | nil => simp [isIntegralItems]
  | cons j rest ih => simp [isIntegralItems, ih]

theorem depthItems_le_iff {items : List Json} {n : Nat} :
    depthItems items ≤ n ↔ ∀ j ∈ items, j.depth ≤ n := by
  induction items with
  | nil => simp [depthItems]
  | cons j rest ih => rw [depthItems, Nat.max_le, ih, List.forall_mem_cons]

theorem fitsWord_int32 (i : Int32) : FitsWord i.toInt := by
  have hle := i.le_toInt
  have hlt := i.toInt_lt
  rw [fitsWord_iff]
  omega

theorem fitsWord_int64 (i : Int64) : FitsWord i.toInt := by
  have hle := i.le_toInt
  have hlt := i.toInt_lt
  rw [fitsWord_iff]
  omega

theorem fitsWord_byte (b : UInt8) : FitsWord b.toNat := by
  have hlt := b.toNat_lt
  rw [fitsWord_iff]
  omega

end Json

/-! ### The document of a component -/

theorem Text.hex_injective {a b : List UInt8} (h : Text.hex a = Text.hex b) : a = b := by
  have hchars : Text.hexChars a = Text.hexChars b := String.ofList_injective h
  have hread := Text.ofHexChars?_hexChars a
  rw [hchars, Text.ofHexChars?_hexChars b] at hread
  exact (Option.some.inj hread).symm

theorem Uuid.toList_injective {a b : Uuid} (h : a.toList = b.toList) : a = b := by
  obtain ⟨a⟩ := a
  obtain ⟨b⟩ := b
  rw [Uuid.mk.injEq]
  exact Vector.toArray_inj.1 (Array.toList_inj.1 h)

namespace Value

/-- Two values of one kind, of those that keys are made of. -/
inductive SameKind : Value → Value → Prop
  | bool (a b : Bool) : SameKind (.bool a) (.bool b)
  | int (a b : Int32) : SameKind (.int a) (.int b)
  | bigint (a b : Int64) : SameKind (.bigint a) (.bigint b)
  | timestamp (a b : Int64) : SameKind (.timestamp a) (.timestamp b)
  | decimal (a b : String) : SameKind (.decimal a) (.decimal b)
  | text (a b : String) : SameKind (.text a) (.text b)
  | blob (a b : List UInt8) : SameKind (.blob a) (.blob b)
  | uuid (a b : Uuid) : SameKind (.uuid a) (.uuid b)

variable {v w : Value} {keys others : List Value}

theorem SameKind.symm (h : v.SameKind w) : w.SameKind v := by
  cases h <;> constructor

theorem plainItems_eq_map (items : List Value) : plainItems items = items.map plainJson := by
  induction items with
  | nil => rw [plainItems, List.map_nil]
  | cons v rest ih => rw [plainItems, List.map_cons, ih]

/-- The document of a component is integral; only a blob is a container. -/
theorem SameKind.plainJson_integral (h : v.SameKind w) : v.plainJson.isIntegral = true := by
  cases h with
  | int a b => simp [plainJson, Json.isIntegral, Json.fitsWord_int32]
  | bigint a b | timestamp a b => simp [plainJson, Json.isIntegral, Json.fitsWord_int64]
  | blob a b =>
    rw [plainJson, Json.isIntegral, Json.isIntegralItems_iff]
    simp [Json.isIntegral, Json.fitsWord_byte]
  | _ => simp only [plainJson, Json.isIntegral]

theorem SameKind.depth_plainJson_le (h : v.SameKind w) : v.plainJson.depth ≤ 1 := by
  cases h with
  | blob a b =>
    rw [plainJson, Json.depth]
    refine Nat.succ_le_succ (Json.depthItems_le_iff.2 ?_)
    simp [Json.depth]
  | _ => simp [plainJson, Json.depth]

/-- Components of one kind have the same document only if they are equal. -/
theorem SameKind.eq_of_plainJson_eq (h : v.SameKind w) (hjson : v.plainJson = w.plainJson) :
    v = w := by
  cases h with
  | bool a b =>
    simp only [plainJson, Json.bool.injEq] at hjson
    rw [hjson]
  | int a b =>
    simp only [plainJson, Json.int.injEq] at hjson
    rw [Int32.toInt_inj.1 hjson]
  | bigint a b | timestamp a b =>
    simp only [plainJson, Json.int.injEq] at hjson
    rw [Int64.toInt_inj.1 hjson]
  | decimal a b | text a b =>
    simp only [plainJson, Json.str.injEq] at hjson
    rw [hjson]
  | blob a b =>
    simp only [plainJson, Json.arr.injEq] at hjson
    have hinj : Function.Injective fun b : UInt8 => Json.int b.toNat := by
      intro a b hab
      exact UInt8.toNat_inj.1 (Int.ofNat.inj (Json.int.inj hab))
    rw [List.map_injective_iff.2 hinj hjson]
  | uuid a b =>
    simp only [plainJson, Json.str.injEq] at hjson
    rw [Uuid.toList_injective (Text.hex_injective hjson)]

theorem eq_of_plainItems_eq (hsame : List.Forall₂ SameKind keys others)
    (hjson : keys.map plainJson = others.map plainJson) : keys = others := by
  induction hsame with
  | nil => rfl
  | cons hhead _ ih =>
    obtain ⟨hv, hrest⟩ := List.cons.inj hjson
    rw [hhead.eq_of_plainJson_eq hv, ih hrest]

end Value

/-! ### The document and the text of a key -/

open Value

variable {keys others : List Value}

/-- The document of a key can be read back from its text. -/
theorem legible_keyJson (hsame : List.Forall₂ SameKind keys others) : (keyJson keys).Legible := by
  have hmem : ∀ v ∈ keys, ∃ w, v.SameKind w := by
    induction hsame with
    | nil => simp
    | cons hhead _ ih => exact List.forall_mem_cons.2 ⟨⟨_, hhead⟩, ih⟩
  have hintegral : ∀ v ∈ keys, v.plainJson.isIntegral = true := fun v hv =>
    (hmem v hv).elim fun _ h => h.plainJson_integral
  have hdepth : ∀ v ∈ keys, v.plainJson.depth ≤ 1 := fun v hv =>
    (hmem v hv).elim fun _ h => h.depth_plainJson_le
  unfold keyJson
  split
  · next v =>
    have hv : v ∈ [v] := List.mem_singleton_self v
    exact ⟨hintegral v hv, Nat.le_trans (hdepth v hv) (by decide)⟩
  · refine ⟨?_, ?_⟩
    · rw [Json.isIntegral, plainItems_eq_map, Json.isIntegralItems_iff]
      simpa using hintegral
    · have hitems : Json.depthItems (plainItems keys) ≤ 1 := by
        rw [plainItems_eq_map, Json.depthItems_le_iff]
        simpa using hdepth
      rw [Json.depth]
      exact Nat.le_trans (Nat.succ_le_succ hitems) (by decide)

theorem eq_of_keyJson_eq (hsame : List.Forall₂ SameKind keys others)
    (hjson : keyJson keys = keyJson others) : keys = others := by
  cases hsame with
  | nil => rfl
  | cons hhead htail =>
    cases htail with
    | nil => rw [hhead.eq_of_plainJson_eq hjson]
    | cons hnext htail =>
      simp only [keyJson, Json.arr.injEq, plainItems_eq_map] at hjson
      exact eq_of_plainItems_eq (.cons hhead (.cons hnext htail)) hjson

/-- Keys of the same kinds have the same text only if they are equal. -/
theorem eq_of_keyText_eq (hsame : List.Forall₂ SameKind keys others)
    (htext : keyText keys = keyText others) : keys = others := by
  have hother : List.Forall₂ SameKind others keys :=
    (hsame.imp fun _ _ h => h.symm).flip
  exact eq_of_keyJson_eq hsame
    (Json.render_injective (legible_keyJson hsame) (legible_keyJson hother) htext)

namespace Registry

variable {em : EntityMeta} {key otherKey encoded otherEncoded : List Value}

theorem sharedCounterKey_eq_ok (h : encodedKey em key = .ok encoded) (pm : PropertyMeta) :
    sharedCounterKey em pm key =
      .ok [.text em.className, .text (keyText encoded), .text pm.name] := by
  rw [sharedCounterKey, h]
  rfl

/-- Two keys of an entity class have the same text if and only if they are encoded alike, and a
counter of the one row has the key of a counter of the other in the shared table if and only if it
is the counter of the same row and of the same name. -/
theorem sharedKey_contract (h : encodedKey em key = .ok encoded)
    (hother : encodedKey em otherKey = .ok otherEncoded)
    (hsame : List.Forall₂ SameKind encoded otherEncoded) :
    (keyText encoded = keyText otherEncoded ↔ encoded = otherEncoded) ∧
      ∀ pm other : PropertyMeta,
        sharedCounterKey em pm key = sharedCounterKey em other otherKey ↔
          encoded = otherEncoded ∧ pm.name = other.name := by
  have htext : keyText encoded = keyText otherEncoded ↔ encoded = otherEncoded :=
    ⟨eq_of_keyText_eq hsame, congrArg keyText⟩
  refine ⟨htext, fun pm other => ?_⟩
  rw [sharedCounterKey_eq_ok h, sharedCounterKey_eq_ok hother]
  simp [htext]

end Registry

namespace Track

/-- The key of a track: its artist and its title. -/
def idMeta : PropertyMeta :=
  { PropertyDraft.ofKind "id" .embeddedId .text with
    key := some ⟨[⟨"artist", .text, .partition, false⟩, ⟨"title", .text, .clustering, false⟩]⟩
    entityClass := "Track" }

/-- How often a track was played. -/
def playsMeta : PropertyMeta :=
  { PropertyDraft.ofKind "plays" .counter .counter with entityClass := "Track" }

/-- The class of tracks. -/
def entity : EntityMeta where
  className := "Track"
  tableName := "tracks"
  id := idMeta
  properties := [idMeta, playsMeta]
  declaredReadLevel := none
  declaredWriteLevel := none
  readLevel := .standard
  writeLevel := .standard
  isClusteredCounter := false

/-- A separator in the name of the artist. -/
def quotedArtist : List Value := [.text "a\",\"b", .text "c"]

/-- A separator in the title. -/
def quotedTitle : List Value := [.text "a", .text "b\",\"c"]

/-- A separator within a component is not taken for one between components. -/
theorem sharedKey_contract_quoted :
    Registry.encodedKey entity quotedArtist = .ok quotedArtist ∧
      Registry.encodedKey entity quotedTitle = .ok quotedTitle ∧
      keyText quotedArtist ≠ keyText quotedTitle ∧
      Registry.sharedCounterKey entity playsMeta quotedArtist ≠
        Registry.sharedCounterKey entity playsMeta quotedTitle := by
  have hartist : Registry.encodedKey entity quotedArtist = .ok quotedArtist := by rfl
  have htitle : Registry.encodedKey entity quotedTitle = .ok quotedTitle := by rfl
  have hne : quotedArtist ≠ quotedTitle := by simp [quotedArtist, quotedTitle]
  obtain ⟨htext, hcell⟩ := Registry.sharedKey_contract hartist htitle
    (.cons (.text _ _) (.cons (.text _ _) .nil))
  exact ⟨hartist, htitle, fun h => hne (htext.1 h),
    fun h => hne ((hcell playsMeta playsMeta).1 h).1⟩

end Track

end WideColumn
