import WideColumn.Proofs.Cache.RecentList
import WideColumn.Proofs.Simulation.Payload
import WideColumn.Proofs.Update.Cached

/-!
# Recency of prepared updates

The cache keeps no order of its entries. It stamps each with the clock whenever it is used, and
looks for the least stamp when it is full. Read by their stamps, the last first, the entries are
the list that a cache keeping them in order would have. Main statement: `lru_contract`.
-/

namespace WideColumn

/-! ### Entries by their stamps -/

/-- An entry after a key was looked up: the entry of the key is stamped anew. -/
def CacheEntry.lookedUp (key : StatementKey) (clock : Nat) (e : CacheEntry) : CacheEntry :=
  if e.key == key then { e with lastUsed := clock } else e

theorem CacheEntry.map_lookedUp_of_ne {key : StatementKey} {entries : List CacheEntry}
    (h : ∀ e ∈ entries, e.key ≠ key) (clock : Nat) : entries.map (lookedUp key clock) = entries :=
  (List.map_congr_left fun e he => if_neg (by simpa using h e he)).trans (List.map_id entries)

namespace StatementCache

/-- The entries, the last used first. -/
def byUse (cache : StatementCache) : List CacheEntry :=
  cache.entries.mergeSort fun a b => decide (b.lastUsed ≤ a.lastUsed)

/-- The list in the order of use that the stamps stand for. -/
def recent (cache : StatementCache) : RecentList := cache.byUse.map fun e => (e.key, e.prepared)

/-- No two entries share a key or a stamp, and the clock is past every stamp. -/
structure WellStamped (cache : StatementCache) : Prop where
  keys : (cache.entries.map CacheEntry.key).Nodup
  stamps : (cache.entries.map CacheEntry.lastUsed).Nodup
  past : ∀ e ∈ cache.entries, e.lastUsed < cache.clock

/-- The same entries in any order, at the same reading of the clock. -/
structure SameEntries (cache other : StatementCache) : Prop where
  capacity : cache.capacity = other.capacity
  clock : cache.clock = other.clock
  entries : cache.entries.Perm other.entries

variable {cache other : StatementCache} {key : StatementKey} {p : Prepared}

theorem byUse_perm : cache.byUse.Perm cache.entries := List.mergeSort_perm ..

theorem WellStamped.nodup_byUse (h : cache.WellStamped) :
    (cache.byUse.map CacheEntry.lastUsed).Nodup :=
  ((byUse_perm.map _).nodup_iff).2 h.stamps

/-- The stamps fall. -/
theorem WellStamped.pairwise_byUse (h : cache.WellStamped) :
    cache.byUse.Pairwise fun a b => b.lastUsed < a.lastUsed := by
  have hsorted : cache.byUse.Pairwise fun a b => decide (b.lastUsed ≤ a.lastUsed) = true := by
    refine List.pairwise_mergeSort ?_ ?_ cache.entries
    · intro a b c hab hbc
      simp only [decide_eq_true_eq] at hab hbc ⊢
      exact Nat.le_trans hbc hab
    · intro a b
      simp only [Bool.or_eq_true, decide_eq_true_eq]
      exact Nat.le_total b.lastUsed a.lastUsed
  have hne := List.pairwise_map.1 h.nodup_byUse
  refine (hsorted.and hne).imp fun hab => ?_
  simp only [decide_eq_true_eq] at hab
  exact Nat.lt_of_le_of_ne hab.1 (Ne.symm hab.2)

/-- There is one way to list the entries with falling stamps. -/
theorem byUse_eq {entries : List CacheEntry} (h : cache.WellStamped)
    (hperm : entries.Perm cache.entries)
    (hfalling : entries.Pairwise fun a b => b.lastUsed < a.lastUsed) : cache.byUse = entries :=
  List.Perm.eq_of_pairwise (fun _ _ _ _ hab hba => absurd hab (Nat.lt_asymm hba))
    h.pairwise_byUse hfalling (byUse_perm.trans hperm.symm)

theorem SameEntries.wellStamped (h : cache.SameEntries other) (hother : other.WellStamped) :
    cache.WellStamped where
  keys := ((h.entries.map _).nodup_iff).2 hother.keys
  stamps := ((h.entries.map _).nodup_iff).2 hother.stamps
  past e he := h.clock ▸ hother.past e (h.entries.mem_iff.1 he)

theorem SameEntries.recent_eq (h : cache.SameEntries other) (hother : other.WellStamped) :
    cache.recent = other.recent := by
  have heq := byUse_eq (h.wellStamped hother) (byUse_perm.trans h.entries.symm)
    hother.pairwise_byUse
  exact congrArg (List.map _) heq

theorem keys_recent_perm :
    (cache.recent.map Prod.fst).Perm (cache.entries.map CacheEntry.key) := by
  have hkeys : cache.recent.map Prod.fst = cache.byUse.map CacheEntry.key := by
    unfold recent
    rw [List.map_map]
    rfl
  rw [hkeys]
  exact byUse_perm.map _

theorem WellStamped.nodup_recent (h : cache.WellStamped) : (cache.recent.map Prod.fst).Nodup :=
  keys_recent_perm.nodup_iff.2 h.keys

theorem length_recent : cache.recent.length = cache.size := by
  unfold recent
  rw [List.length_map, byUse_perm.length_eq]
  rfl

theorem contains_iff : cache.contains key = true ↔ key ∈ cache.recent.map Prod.fst := by
  rw [keys_recent_perm.mem_iff]
  simp [contains, entry?]

theorem not_contains_iff : cache.contains key = false ↔ key ∉ cache.recent.map Prod.fst := by
  rw [← contains_iff, Bool.not_eq_true]

/-- Looking an entry up finds what the list has. -/
theorem WellStamped.find_recent (h : cache.WellStamped) (key : StatementKey) :
    RecentList.find key cache.recent = (cache.entry? key).map CacheEntry.prepared := by
  cases hentry : cache.entry? key with
  | none =>
    have hnot : cache.contains key = false := by
      unfold contains
      rw [hentry]
      rfl
    refine Option.not_isSome_iff_eq_none.1 fun hsome => ?_
    exact not_contains_iff.1 hnot (RecentList.find_isSome_iff.1 hsome)
  | some found =>
    refine (RecentList.find_eq_some_iff h.nodup_recent).2 ?_
    refine List.mem_map.2 ⟨found, byUse_perm.mem_iff.2 (List.mem_of_find?_eq_some hentry), ?_⟩
    rw [key_of_entry?_eq_some hentry]

/-! ### Keeping and giving up -/

/-- What is left when entries are given up keeps its order. -/
theorem WellStamped.filter (h : cache.WellStamped) (keep : CacheEntry → Bool) :
    ({ cache with entries := cache.entries.filter keep } : StatementCache).WellStamped ∧
      ({ cache with entries := cache.entries.filter keep } : StatementCache).byUse =
        cache.byUse.filter keep := by
  have hstamped :
      ({ cache with entries := cache.entries.filter keep } : StatementCache).WellStamped :=
    ⟨h.keys.sublist (List.filter_sublist.map _), h.stamps.sublist (List.filter_sublist.map _),
      fun e he => h.past e (List.mem_of_mem_filter he)⟩
  exact ⟨hstamped, byUse_eq hstamped (byUse_perm.filter _) (h.pairwise_byUse.filter _)⟩

/-- What is kept goes to the front. -/
theorem WellStamped.put (h : cache.WellStamped) (key : StatementKey) (p : Prepared) :
    (cache.put key p).WellStamped ∧
      (cache.put key p).recent = (key, p) :: RecentList.without key cache.recent := by
  obtain ⟨hothers, -⟩ := h.filter fun e => e.key != key
  have hstamped : (cache.put key p).WellStamped := by
    refine ⟨List.nodup_cons.2 ⟨?_, hothers.keys⟩, List.nodup_cons.2 ⟨?_, hothers.stamps⟩, ?_⟩
    · simp
    · intro hmem
      obtain ⟨e, he, hstamp⟩ := List.mem_map.1 hmem
      exact absurd hstamp (Nat.ne_of_lt (hothers.past e he))
    · intro e he
      rcases List.mem_cons.1 he with rfl | he
      · exact Nat.lt_succ_self _
      · exact Nat.lt_succ_of_lt (hothers.past e he)
  refine ⟨hstamped, ?_⟩
  have heq : (cache.put key p).byUse =
      ⟨key, p, cache.clock⟩ :: cache.byUse.filter fun e => e.key != key := by
    refine byUse_eq hstamped ((byUse_perm.filter _).cons _) (List.pairwise_cons.2 ⟨?_, ?_⟩)
    · intro e he
      exact h.past e (byUse_perm.mem_iff.1 (List.mem_of_mem_filter he))
    · exact h.pairwise_byUse.filter _
  unfold recent RecentList.without
  rw [heq, List.map_cons, List.filter_map]
  rfl

/-- The entry of a key stands alone. -/
theorem WellStamped.split (h : cache.WellStamped) {found : CacheEntry}
    (hfound : cache.entry? key = some found) : ∃ before after,
      cache.entries = before ++ found :: after ∧ ∀ e ∈ before ++ after, e.key ≠ key := by
  have hkey := key_of_entry?_eq_some hfound
  obtain ⟨before, after, hsplit⟩ := List.append_of_mem (List.mem_of_find?_eq_some hfound)
  refine ⟨before, after, hsplit, fun e he heq => ?_⟩
  have hkeys := h.keys
  rw [hsplit, List.map_append, List.map_cons, hkey, List.nodup_append, List.nodup_cons] at hkeys
  obtain ⟨-, ⟨hafter, -⟩, hcross⟩ := hkeys
  rcases List.mem_append.1 he with he | he
  · exact hcross e.key (List.mem_map_of_mem he) key List.mem_cons_self heq
  · exact hafter (heq ▸ List.mem_map_of_mem he)

theorem get_of_entry?_eq_some {found : CacheEntry} (hfound : cache.entry? key = some found) :
    cache.get key = (some found.prepared, { cache with
      entries := cache.entries.map (CacheEntry.lookedUp key cache.clock)
      clock := cache.clock + 1 }) := by
  unfold get
  rw [hfound]
  rfl

/-- Using an entry is keeping its statement once more. -/
theorem WellStamped.get_sameEntries (h : cache.WellStamped) {found : CacheEntry}
    (hfound : cache.entry? key = some found) :
    (cache.get key).2.SameEntries (cache.put key found.prepared) := by
  have hkey := key_of_entry?_eq_some hfound
  obtain ⟨before, after, hsplit, hothers⟩ := h.split hfound
  have hlookedUp : cache.entries.map (CacheEntry.lookedUp key cache.clock) =
      before ++ ⟨key, found.prepared, cache.clock⟩ :: after := by
    have hfront : found.lookedUp key cache.clock = ⟨key, found.prepared, cache.clock⟩ := by
      simp only [CacheEntry.lookedUp, hkey, beq_self_eq_true, if_true]
    rw [hsplit, List.map_append, List.map_cons, hfront,
      CacheEntry.map_lookedUp_of_ne fun e he => hothers e (List.mem_append_left _ he),
      CacheEntry.map_lookedUp_of_ne fun e he => hothers e (List.mem_append_right _ he)]
  have hfilter : cache.entries.filter (fun e => e.key != key) = before ++ after := by
    rw [hsplit, List.filter_append, List.filter_cons_of_neg (by simp [hkey]),
      ← List.filter_append]
    exact List.filter_eq_self.2 fun e he => by simpa using hothers e he
  rw [get_of_entry?_eq_some hfound]
  refine ⟨rfl, rfl, ?_⟩
  -- One list has the entry where it was, the other has it in front.
  show (cache.entries.map _).Perm (_ :: cache.entries.filter _)
  rw [hlookedUp, hfilter]
  exact List.perm_middle

/-- What is used goes to the front; what is not there leaves the cache alone. -/
theorem WellStamped.get (h : cache.WellStamped) (key : StatementKey) :
    (cache.get key).2.WellStamped ∧ (cache.get key).1 = (RecentList.get key cache.recent).1 ∧
      (cache.get key).2.recent = (RecentList.get key cache.recent).2 := by
  have hfind := h.find_recent key
  cases hentry : cache.entry? key with
  | none =>
    rw [hentry] at hfind
    have hget : cache.get key = (none, cache) := by
      unfold StatementCache.get
      rw [hentry]
    rw [hget, RecentList.get_of_find_eq_none hfind]
    exact ⟨h, rfl, rfl⟩
  | some found =>
    rw [hentry] at hfind
    obtain ⟨hstamped, hfront⟩ := h.put key found.prepared
    have hsame := h.get_sameEntries hentry
    rw [RecentList.get_of_find_eq_some hfind]
    refine ⟨hsame.wellStamped hstamped, ?_, (hsame.recent_eq hstamped).trans hfront⟩
    rw [get_of_entry?_eq_some hentry]

/-- No entry was last used before the least recent one. -/
theorem leastRecent_le {entries : List CacheEntry} {old : CacheEntry}
    (h : leastRecent entries = some old) : ∀ e ∈ entries, old.lastUsed ≤ e.lastUsed := by
  induction entries generalizing old with
  | nil => simp
  | cons first rest ih =>
    simp only [leastRecent] at h
    cases hrest : leastRecent rest with
    | none =>
      rw [hrest] at h
      obtain rfl := Option.some.inj h
      obtain rfl := (leastRecent_eq_none_iff rest).1 hrest
      simp
    | some other =>
      rw [hrest] at h
      have hother := ih hrest
      simp only at h
      intro e he
      split at h <;> obtain rfl := Option.some.inj h <;> rcases List.mem_cons.1 he with rfl | he
      · omega
      · exact hother e he
      · exact Nat.le_refl _
      · have := hother e he
        omega

/-- The entry with the least stamp is the last of the list. -/
theorem WellStamped.exists_byUse_eq (h : cache.WellStamped) {old : CacheEntry}
    (hold : leastRecent cache.entries = some old) :
    ∃ initial, cache.byUse = initial ++ [old] := by
  have hmem : old ∈ cache.byUse := byUse_perm.mem_iff.2 (mem_of_leastRecent hold)
  obtain hnil | ⟨initial, last, hlist⟩ := List.eq_nil_or_concat' cache.byUse
  · rw [hnil] at hmem
    exact absurd hmem List.not_mem_nil
  · refine ⟨initial, ?_⟩
    have hfalling := h.pairwise_byUse
    rw [hlist] at hfalling hmem
    rcases List.mem_append.1 hmem with hinitial | hlast
    · have hlt : last.lastUsed < old.lastUsed :=
        (List.pairwise_append.1 hfalling).2.2 old hinitial last (List.mem_singleton_self _)
      have hle := leastRecent_le hold last (byUse_perm.mem_iff.1 (hlist ▸ by simp))
      exact absurd hlt (Nat.not_lt.2 hle)
    · rw [hlist, List.mem_singleton.1 hlast]

/-- What is given up is the last of the list. -/
theorem WellStamped.evict (h : cache.WellStamped) :
    cache.evict.WellStamped ∧ cache.evict.recent = cache.recent.dropLast := by
  cases hleast : leastRecent cache.entries with
  | none =>
    have hempty := (leastRecent_eq_none_iff _).1 hleast
    have hevict : cache.evict = cache := by
      unfold StatementCache.evict
      rw [hleast]
    have hrecent : cache.recent = [] := by
      rw [← List.length_eq_zero_iff, length_recent, size, hempty]
      rfl
    rw [hevict, hrecent]
    exact ⟨h, rfl⟩
  | some old =>
    have hevict : cache.evict =
        { cache with entries := cache.entries.filter fun e => e.key != old.key } := by
      unfold StatementCache.evict
      rw [hleast]
    obtain ⟨hstamped, hothers⟩ := h.filter fun e => e.key != old.key
    rw [hevict]
    refine ⟨hstamped, ?_⟩
    obtain ⟨initial, hlist⟩ := h.exists_byUse_eq hleast
    have hkeys := (byUse_perm.map CacheEntry.key).nodup_iff.2 h.keys
    rw [hlist, List.map_append, List.nodup_append] at hkeys
    have hinitial : cache.byUse.filter (fun e => e.key != old.key) = initial := by
      rw [hlist, List.filter_append, List.filter_cons_of_neg (by simp), List.filter_nil,
        List.append_nil]
      refine List.filter_eq_self.2 fun e he => ?_
      have hne := hkeys.2.2 e.key (List.mem_map_of_mem he) old.key (by simp)
      simpa using hne
    unfold recent
    rw [hothers, hinitial, hlist, List.map_append, List.map_singleton, List.dropLast_concat]

/-- Keeping a statement puts it at the front; a full cache gives up the last of the list for it. -/
theorem WellStamped.insert (h : cache.WellStamped) (hroom : cache.size ≤ cache.capacity)
    (key : StatementKey) (p : Prepared) : (cache.insert key p).WellStamped ∧
      (cache.insert key p).recent =
        RecentList.insert cache.capacity key p cache.recent := by
  rw [insert_eq_put]
  split
  · next hzero =>
    have hcapacity : cache.capacity = 0 := by simpa using hzero
    have hrecent : cache.recent = [] := by
      rw [← List.length_eq_zero_iff, length_recent]
      omega
    rw [hrecent, hcapacity]
    exact ⟨h, rfl⟩
  · next hpos =>
    have hcapacity : 0 < cache.capacity := Nat.pos_of_ne_zero (by simpa using hpos)
    split
    · next hfull =>
      rw [Bool.and_eq_true, Bool.not_eq_true', decide_eq_true_eq] at hfull
      have hnew := not_contains_iff.1 hfull.1
      obtain ⟨hevicted, hlast⟩ := h.evict
      obtain ⟨hstamped, hfront⟩ := hevicted.put key p
      refine ⟨hstamped, hfront.trans ?_⟩
      have hnew' : key ∉ cache.recent.dropLast.map Prod.fst := fun hmem =>
        hnew (((List.dropLast_sublist _).map _).subset hmem)
      rw [hlast, RecentList.without_of_not_mem hnew',
        RecentList.insert_of_full (length_recent.trans (Nat.le_antisymm hroom hfull.2)) hcapacity
          hnew]
    · next hfit =>
      obtain ⟨hstamped, hfront⟩ := h.put key p
      refine ⟨hstamped, hfront.trans ?_⟩
      cases hcontains : cache.contains key with
      | true =>
        have hlength : cache.recent.length ≤ cache.capacity := length_recent ▸ hroom
        rw [RecentList.insert_of_mem h.nodup_recent hlength (contains_iff.1 hcontains)]
      | false =>
        have hlt : cache.recent.length < cache.capacity := by
          rw [length_recent]
          simpa [hcontains] using hfit
        have hnew := not_contains_iff.1 hcontains
        rw [RecentList.insert_of_lt hlt hnew, RecentList.without_of_not_mem hnew]

/-- Nothing is there to keep in order. -/
theorem wellStamped_of_nil (h : cache.entries = []) : cache.WellStamped ∧ cache.recent = [] := by
  constructor
  · constructor <;> simp [h]
  · rw [← List.length_eq_zero_iff, length_recent, size, h, List.length_nil]

theorem capacity_get : (cache.get key).2.capacity = cache.capacity := by
  unfold StatementCache.get
  split <;> rfl

theorem capacity_evict : cache.evict.capacity = cache.capacity := by
  unfold StatementCache.evict
  split <;> rfl

theorem capacity_insert : (cache.insert key p).capacity = cache.capacity := by
  rw [insert_eq_put]
  split
  · rfl
  · split
    · exact capacity_evict
    · rfl

end StatementCache

/-! ### Histories -/

/-- The cache stands for the list. -/
structure StatementCache.Follows (cache : StatementCache) (capacity : Nat)
    (recent : RecentList) : Prop where
  stamped : cache.WellStamped
  capacity_eq : cache.capacity = capacity
  room : cache.size ≤ cache.capacity
  recent_eq : cache.recent = recent

namespace StatementCache.Follows

variable {cache : StatementCache} {capacity : Nat} {recent : RecentList}

theorem nodup (h : cache.Follows capacity recent) : (recent.map Prod.fst).Nodup :=
  h.recent_eq ▸ h.stamped.nodup_recent

theorem length_le (h : cache.Follows capacity recent) : recent.length ≤ capacity := by
  rw [← h.recent_eq, length_recent, ← h.capacity_eq]
  exact h.room

/-- One use tells the same on both sides, and leaves them together. -/
theorem run (h : cache.Follows capacity recent) (use : CacheUse) :
    (use.run cache).1 = (use.runRecent capacity recent).1 ∧
      (use.run cache).2.Follows capacity (use.runRecent capacity recent).2 := by
  obtain ⟨hstamped, rfl, hroom, rfl⟩ := h
  cases use with
  | get key =>
    obtain ⟨hgot, hfound, hrecent⟩ := hstamped.get key
    refine ⟨congrArg CacheAnswer.found hfound, hgot, capacity_get, ?_, hrecent⟩
    show (cache.get key).2.size ≤ (cache.get key).2.capacity
    rw [size_get, capacity_get]
    exact hroom
  | insert key p =>
    obtain ⟨hkept, hrecent⟩ := hstamped.insert hroom key p
    refine ⟨rfl, hkept, capacity_insert, ?_, hrecent⟩
    show (cache.insert key p).size ≤ (cache.insert key p).capacity
    rw [capacity_insert]
    exact size_insert_le cache key p hroom
  | contains key =>
    have hiff : cache.contains key = (RecentList.find key cache.recent).isSome :=
      Bool.eq_iff_iff.2 (contains_iff.trans RecentList.find_isSome_iff.symm)
    exact ⟨congrArg CacheAnswer.held hiff, hstamped, rfl, hroom, rfl⟩
  | clear =>
    obtain ⟨hempty, hrecent⟩ := wellStamped_of_nil (show cache.clear.entries = [] from rfl)
    exact ⟨rfl, hempty, rfl, Nat.zero_le _, hrecent⟩
  | wait ticks =>
    have hpast : ∀ e ∈ cache.entries, e.lastUsed < cache.clock + ticks :=
      fun e he => Nat.lt_add_right ticks (hstamped.past e he)
    exact ⟨rfl, ⟨hstamped.keys, hstamped.stamps, hpast⟩, rfl, hroom, rfl⟩

/-- So does a series of uses. -/
theorem runUses (h : cache.Follows capacity recent) (uses : List CacheUse) :
    (runUses CacheUse.run uses cache).1 = (runUses (CacheUse.runRecent capacity) uses recent).1 ∧
      (WideColumn.runUses CacheUse.run uses cache).2.Follows capacity
        (WideColumn.runUses (CacheUse.runRecent capacity) uses recent).2 := by
  induction uses generalizing cache recent with
  | nil => exact ⟨rfl, h⟩
  | cons use rest ih =>
    obtain ⟨hanswer, hnext⟩ := h.run use
    obtain ⟨hanswers, hlast⟩ := ih hnext
    exact ⟨congrArg₂ List.cons hanswer hanswers, hlast⟩

end StatementCache.Follows

/-- The cache starts as an empty list. -/
theorem StatementCache.follows_ofCapacity (capacity : Nat) :
    (StatementCache.ofCapacity capacity).Follows capacity [] := by
  obtain ⟨hstamped, hrecent⟩ :=
    StatementCache.wellStamped_of_nil (show (ofCapacity capacity).entries = [] from rfl)
  exact ⟨hstamped, rfl, Nat.zero_le _, hrecent⟩

theorem StatementCache.follows_after (capacity : Nat) (history : List CacheUse) :
    (StatementCache.after capacity history).Follows capacity (RecentList.after capacity history) :=
  ((StatementCache.follows_ofCapacity capacity).runUses history).2

/-- What is kept under a key after a use: what the use kept, or what was kept before and is not
displaced. -/
theorem StatementCache.Follows.find_run_eq_some_iff {cache : StatementCache} {capacity : Nat}
    {recent : RecentList} (h : cache.Follows capacity recent) (use : CacheUse)
    (key : StatementKey) (p : Prepared) :
    RecentList.find key (use.runRecent capacity recent).2 = some p ↔
      (0 < capacity ∧ use = .insert key p) ∨
        (RecentList.find key recent = some p ∧ ¬ use.Displaces capacity key recent) := by
  have hnodup := h.nodup
  rw [RecentList.find_eq_some_iff (h.run use).2.nodup, RecentList.find_eq_some_iff hnodup]
  cases use with
  | get other =>
    have hmem : (key, p) ∈ (RecentList.get other recent).2 ↔ (key, p) ∈ recent :=
      RecentList.mem_get hnodup
    simpa [CacheUse.runRecent, CacheUse.Displaces] using hmem
  | insert other q =>
    rw [CacheUse.insert.injEq, ← Prod.mk.injEq]
    exact RecentList.mem_insert hnodup h.length_le
  | contains other => simp [CacheUse.runRecent, CacheUse.Displaces]
  | clear => simp [CacheUse.runRecent, CacheUse.Displaces]
  | wait ticks => simp [CacheUse.runRecent, CacheUse.Displaces]

/-- What stands is what the list has. -/
theorem find_after_eq_some_iff (capacity : Nat) (history : List CacheUse) (key : StatementKey)
    (p : Prepared) : RecentList.find key (RecentList.after capacity history) = some p ↔
      Stands capacity history key p := by
  -- Which use displaces depends on the list that the uses before it left, so by the last use.
  induction history using List.reverseRecOn generalizing key p with
  | nil =>
    refine iff_of_false (by simp [RecentList.after, runUses, RecentList.find]) fun h => ?_
    generalize hnil : ([] : List CacheUse) = history at h
    cases h <;> exact absurd hnil (by simp)
  | append_singleton history use ih =>
    rw [RecentList.after_append,
      (StatementCache.follows_after capacity history).find_run_eq_some_iff]
    constructor
    · rintro (⟨hpos, rfl⟩ | ⟨hfind, hnot⟩)
      · exact .kept hpos
      · exact .still ((ih key p).1 hfind) hnot
    · intro h
      generalize hlist : history ++ [use] = longer at h
      cases h with
      | kept hpos =>
        obtain ⟨-, hlast⟩ := List.append_inj' hlist rfl
        exact .inl ⟨hpos, List.singleton_inj.1 hlast⟩
      | still hstands hnot =>
        obtain ⟨rfl, hlast⟩ := List.append_inj' hlist rfl
        obtain rfl := List.singleton_inj.1 hlast
        exact .inr ⟨(ih key p).2 hstands, hnot⟩

/-! ### The contract -/

/-- What the next use does to a cache read in the order of use. -/
structure StatementCache.KeepsOrder (cache : StatementCache) : Prop where
  /-- What is found goes to the front. -/
  hit : ∀ key p, (cache.get key).1 = some p →
    (cache.get key).2.recent = (key, p) :: RecentList.without key cache.recent
  miss : ∀ key, (cache.get key).1 = none → (cache.get key).2 = cache
  /-- A key that is held gets the statement and goes to the front; nothing is given up for it. -/
  replaced : ∀ key p, cache.contains key = true →
    (cache.insert key p).recent = (key, p) :: RecentList.without key cache.recent ∧
      (cache.insert key p).size = cache.size
  added : ∀ key p, cache.contains key = false → cache.size < cache.capacity →
    (cache.insert key p).recent = (key, p) :: cache.recent
  /-- For a new key a full cache gives up the least recently used entry, and no other. -/
  evicted : ∀ key p, cache.contains key = false → cache.size = cache.capacity →
    0 < cache.capacity → (cache.insert key p).recent = (key, p) :: cache.recent.dropLast
  asked : ∀ key, ((CacheUse.contains key).run cache).2 = cache
  cleared : cache.clear.recent = []

/-- What a cache is after a history of uses. -/
structure LruContract (capacity : Nat) (history : List CacheUse) : Prop where
  /-- Every use tells what it tells about the list in the order of use. -/
  answers : (runUses CacheUse.run history (.ofCapacity capacity)).1 =
    (runUses (CacheUse.runRecent capacity) history []).1
  /-- Read by its stamps, the cache is this list. -/
  recent : (StatementCache.after capacity history).recent = RecentList.after capacity history
  size : (StatementCache.after capacity history).size = (RecentList.after capacity history).length
  capacity_eq : (StatementCache.after capacity history).capacity = capacity
  bounded : (StatementCache.after capacity history).size ≤ capacity
  /-- Found is what was kept last under the key, unless it was given up since. -/
  found : ∀ key p, ((StatementCache.after capacity history).get key).1 = some p ↔
    Stands capacity history key p
  held : ∀ key, (StatementCache.after capacity history).contains key = true ↔
    ∃ p, Stands capacity history key p
  keepsOrder : (StatementCache.after capacity history).KeepsOrder

theorem StatementCache.Follows.keepsOrder {cache : StatementCache} {capacity : Nat}
    {recent : RecentList} (h : cache.Follows capacity recent) : cache.KeepsOrder where
  hit key p hfound := by
    obtain ⟨-, hget, hrecent⟩ := h.stamped.get key
    rw [hfound, RecentList.get_fst] at hget
    rw [hrecent, RecentList.get_of_find_eq_some hget.symm]
  miss key hmiss := by
    have hnot : cache.contains key = false := by
      by_contra hheld
      obtain ⟨p, hp, -⟩ := get_of_contains (Bool.not_eq_false _ ▸ hheld)
      rw [hmiss] at hp
      exact nomatch hp
    rw [get_of_not_contains hnot]
  replaced key p hheld := by
    have hmem := contains_iff.1 hheld
    have hlength : cache.recent.length ≤ cache.capacity := length_recent ▸ h.room
    have hrecent := (h.stamped.insert h.room key p).2
    rw [RecentList.insert_of_mem h.stamped.nodup_recent hlength hmem] at hrecent
    refine ⟨hrecent, ?_⟩
    rw [← length_recent, hrecent, List.length_cons,
      RecentList.length_without h.stamped.nodup_recent hmem, length_recent]
  added key p hnew hfit := by
    rw [(h.stamped.insert h.room key p).2,
      RecentList.insert_of_lt (length_recent ▸ hfit) (not_contains_iff.1 hnew)]
  evicted key p hnew hfull hpos := by
    rw [(h.stamped.insert h.room key p).2,
      RecentList.insert_of_full (length_recent.trans hfull) hpos (not_contains_iff.1 hnew)]
  asked _ := rfl
  cleared := (wellStamped_of_nil rfl).2

/-- Over every history of uses, at whatever readings of the clock, a cache is the list of its keys
and statements in the order of use, cut to its capacity. Keys are the same exactly when the classes
are and the properties are up to their order. -/
theorem StatementCache.lru_contract (capacity : Nat) (history : List CacheUse) :
    LruContract capacity history ∧
      ∀ className className' properties properties',
        StatementKey.ofProperties className properties =
            StatementKey.ofProperties className' properties' ↔
          className = className' ∧ properties.Perm properties' := by
  have hfollows := follows_after capacity history
  have hfound (key : StatementKey) (p : Prepared) :
      ((after capacity history).get key).1 = some p ↔ Stands capacity history key p := by
    rw [(hfollows.stamped.get key).2.1, RecentList.get_fst, hfollows.recent_eq]
    exact find_after_eq_some_iff capacity history key p
  refine ⟨?_, fun className className' properties properties' => ?_⟩
  · exact {
      answers := ((follows_ofCapacity capacity).runUses history).1
      recent := hfollows.recent_eq
      size := by rw [← hfollows.recent_eq, length_recent]
      capacity_eq := hfollows.capacity_eq
      bounded := Nat.le_trans hfollows.room (Nat.le_of_eq hfollows.capacity_eq)
      found := hfound
      held := fun key => by
        rw [contains_iff, hfollows.recent_eq, ← RecentList.find_isSome_iff,
          Option.isSome_iff_exists]
        exact exists_congr (find_after_eq_some_iff capacity history key)
      keepsOrder := hfollows.keepsOrder }
  · unfold StatementKey.ofProperties
    rw [StatementKey.mk.injEq, mergeSort_names_eq_iff]

/-- A use keeps an entry from being the next to go. -/
example :
    let key (name : String) : StatementKey := ⟨"User", [name]⟩
    (runUses CacheUse.run [.insert (key "age") ⟨1, "a"⟩, .insert (key "name") ⟨2, "b"⟩,
      .get (key "age"), .insert (key "mail") ⟨3, "c"⟩] (.ofCapacity 2)).2.entries =
        [⟨key "mail", ⟨3, "c"⟩, 3⟩, ⟨key "age", ⟨1, "a"⟩, 2⟩] := by
  decide

end WideColumn
