import WideColumn.Statement

/-!
# Cache of prepared updates

Which update an entity needs depends on the set of its changed properties, so updates are prepared
on first use and kept under the class and the sorted property names. A full cache gives up the
entry that was not used for the longest time. Every use stamps its entry with the reading of a
clock that never stands still. Main statement: `size_insert_le`, the cache never grows beyond its
capacity.
-/

namespace WideColumn

/-- What a prepared update is kept under. -/
structure StatementKey where
  className : String
  /-- Sorted. -/
  properties : List String
deriving Repr, DecidableEq

namespace StatementKey

/-- The key of a class and a set of property names given in any order. -/
def ofProperties (className : String) (properties : List String) : StatementKey :=
  { className, properties := properties.mergeSort fun a b => decide (a ≤ b) }

/-- The text of a key. -/
def text (key : StatementKey) : String :=
  let properties := ",".intercalate key.properties
  s!"{key.className}[{properties}]"

end StatementKey

/-- One entry of the cache. -/
structure CacheEntry where
  key : StatementKey
  prepared : Prepared
  lastUsed : Nat
deriving Repr, DecidableEq

/-- Prepared statements, at most `capacity` of them. -/
structure StatementCache where
  capacity : Nat
  /-- One entry per key. -/
  entries : List CacheEntry
  /-- The next reading of the clock. -/
  clock : Nat
deriving Repr, DecidableEq

namespace StatementCache

/-- The capacity of a cache that nobody chose one for. -/
def defaultCapacity : Nat := 1000

/-- A cache with room for the given number of entries. -/
def ofCapacity (capacity : Nat) : StatementCache := ⟨capacity, [], 0⟩

/-- The number of entries. -/
def size (cache : StatementCache) : Nat := cache.entries.length

/-- The entry kept under a key. -/
def entry? (cache : StatementCache) (key : StatementKey) : Option CacheEntry :=
  cache.entries.find? fun e => e.key == key

theorem key_of_entry?_eq_some {cache : StatementCache} {key : StatementKey} {found : CacheEntry}
    (h : cache.entry? key = some found) : found.key = key := by
  simpa using List.find?_some h

/-- Whether a statement is kept under the key. -/
def contains (cache : StatementCache) (key : StatementKey) : Bool :=
  (cache.entry? key).isSome

/-- The statement kept under the key, which counts as a use. -/
def get (cache : StatementCache) (key : StatementKey) : Option Prepared × StatementCache :=
  match cache.entry? key with
  | none => (none, cache)
  | some found =>
    let touch (e : CacheEntry) := if e.key == key then { e with lastUsed := cache.clock } else e
    (some found.prepared,
      { cache with entries := cache.entries.map touch, clock := cache.clock + 1 })

/-- The entry whose last use is the longest ago. -/
def leastRecent : List CacheEntry → Option CacheEntry
  | [] => none
  | e :: rest =>
    match leastRecent rest with
    | none => some e
    | some other => if other.lastUsed < e.lastUsed then some other else some e

/-- Give up the entry whose last use is the longest ago. -/
def evict (cache : StatementCache) : StatementCache :=
  match leastRecent cache.entries with
  | none => cache
  | some old => { cache with entries := cache.entries.filter fun e => e.key != old.key }

/-- Keep a statement under a key, which counts as a use; a full cache makes room for a new key. -/
def insert (cache : StatementCache) (key : StatementKey) (prepared : Prepared) : StatementCache :=
  if cache.capacity == 0 then cache
  else
    let cache :=
      if !cache.contains key && cache.capacity ≤ cache.size then cache.evict else cache
    { cache with
      entries := ⟨key, prepared, cache.clock⟩ :: cache.entries.filter fun e => e.key != key
      clock := cache.clock + 1 }

/-- Give up all entries. -/
def clear (cache : StatementCache) : StatementCache := { cache with entries := [] }

/-- The least recent entry is one of the entries. -/
theorem mem_of_leastRecent {entries : List CacheEntry} {e : CacheEntry}
    (h : leastRecent entries = some e) : e ∈ entries := by
  induction entries generalizing e with
  | nil => simp [leastRecent] at h
  | cons first rest ih =>
    simp only [leastRecent] at h
    cases hrest : leastRecent rest with
    | none => simp_all
    | some other =>
      rw [hrest] at h
      simp only at h
      split at h
      · obtain rfl := Option.some.inj h
        exact List.mem_cons_of_mem _ (ih hrest)
      · obtain rfl := Option.some.inj h
        exact List.mem_cons_self

/-- Only an empty list has no least recent entry. -/
theorem leastRecent_eq_none_iff (entries : List CacheEntry) :
    leastRecent entries = none ↔ entries = [] := by
  cases entries with
  | nil => simp [leastRecent]
  | cons first rest =>
    simp only [leastRecent]
    split
    · simp
    · split <;> simp

private theorem length_filter_key_lt {entries : List CacheEntry} {e : CacheEntry}
    (h : e ∈ entries) : (entries.filter fun x => x.key != e.key).length < entries.length := by
  refine List.length_filter_lt_length_iff_exists.2 ⟨e, h, ?_⟩
  simp

/-- Looking up a statement keeps the number of entries. -/
theorem size_get (cache : StatementCache) (key : StatementKey) :
    (cache.get key).2.size = cache.size := by
  simp only [get]
  split <;> simp [size]

/-- A cache that is not empty gets smaller. -/
theorem size_evict_lt (cache : StatementCache) (h : cache.entries ≠ []) :
    cache.evict.size < cache.size := by
  simp only [evict]
  split
  · next hnone => exact absurd ((leastRecent_eq_none_iff _).1 hnone) h
  · next old hold => exact length_filter_key_lt (mem_of_leastRecent hold)

/-- Keeping a statement never brings the cache beyond its capacity. -/
theorem size_insert_le (cache : StatementCache) (key : StatementKey) (prepared : Prepared)
    (h : cache.size ≤ cache.capacity) : (cache.insert key prepared).size ≤ cache.capacity := by
  simp only [insert]
  split
  · exact h
  · next hpos =>
    simp only [beq_iff_eq] at hpos
    cases hc : cache.contains key with
    | true =>
      obtain ⟨e, he⟩ := Option.isSome_iff_exists.1 (show (cache.entry? key).isSome = true from hc)
      have hkey := key_of_entry?_eq_some he
      have hlt := length_filter_key_lt (List.mem_of_find?_eq_some he)
      rw [hkey] at hlt
      simp only [size, Bool.not_true, Bool.false_and, Bool.false_eq_true, if_false,
        List.length_cons] at h ⊢
      omega
    | false =>
      have hle (c : StatementCache) :
          (c.entries.filter fun e => e.key != key).length ≤ c.entries.length :=
        List.length_filter_le _ _
      split
      · next hfull =>
        have hle' : cache.capacity ≤ cache.size := by simpa using hfull
        have hne : cache.entries ≠ [] := by
          intro he
          simp [size, he] at hle'
          exact hpos hle'
        have hev := size_evict_lt cache hne
        have := hle cache.evict
        simp only [size, List.length_cons] at h hev ⊢
        omega
      · next hfull =>
        have hlt : cache.size < cache.capacity := by simpa using hfull
        have := hle cache
        simp only [size, List.length_cons] at hlt ⊢
        omega

end StatementCache

end WideColumn
