import Mathlib.Data.List.Induction
import WideColumn.StatementCache

/-!
# Lists in the order of use

A cache that keeps its entries in a list, the last used first: a use moves an entry to the front,
and what does not fit falls off the end. Next to it the uses of a cache as data, the histories of
uses, and which statement stands under a key after a history. Main statement: `mem_insert`.
-/

namespace WideColumn

/-! ### Uses -/

/-- A use of the cache. -/
inductive CacheUse where
  | get (key : StatementKey)
  | insert (key : StatementKey) (prepared : Prepared)
  | contains (key : StatementKey)
  | clear
  /-- The clock moves on between two uses. -/
  | wait (ticks : Nat)

/-- What a use of the cache tells. -/
inductive CacheAnswer where
  | nothing
  | found (prepared : Option Prepared)
  | held (b : Bool)

/-- Run a use of the cache. -/
def CacheUse.run (use : CacheUse) (cache : StatementCache) : CacheAnswer × StatementCache :=
  match use with
  | .get key => (cache.get key).map .found id
  | .insert key p => (.nothing, cache.insert key p)
  | .contains key => (.held (cache.contains key), cache)
  | .clear => (.nothing, cache.clear)
  | .wait ticks => (.nothing, { cache with clock := cache.clock + ticks })

/-- Keys and what is kept under them, the last used first. -/
abbrev RecentList := List (StatementKey × Prepared)

namespace RecentList

/-- What is kept under other keys. -/
def without (key : StatementKey) (recent : RecentList) : RecentList :=
  recent.filter fun e => e.1 != key

/-- What is kept under a key. -/
def find (key : StatementKey) (recent : RecentList) : Option Prepared :=
  (recent.find? fun e => e.1 == key).map Prod.snd

/-- What is kept under a key, which goes to the front. -/
def get (key : StatementKey) (recent : RecentList) : Option Prepared × RecentList :=
  match find key recent with
  | none => (none, recent)
  | some p => (some p, (key, p) :: without key recent)

/-- Keep a statement at the front; what is beyond the capacity falls off the end. -/
def insert (capacity : Nat) (key : StatementKey) (p : Prepared) (recent : RecentList) :
    RecentList := ((key, p) :: without key recent).take capacity

end RecentList

/-- Run a use of a list in the order of use. -/
def CacheUse.runRecent (capacity : Nat) (use : CacheUse) (recent : RecentList) :
    CacheAnswer × RecentList :=
  match use with
  | .get key => (RecentList.get key recent).map .found id
  | .insert key p => (.nothing, RecentList.insert capacity key p recent)
  | .contains key => (.held (RecentList.find key recent).isSome, recent)
  | .clear => (.nothing, [])
  | .wait _ => (.nothing, recent)

/-- Run uses one after the other. -/
def runUses {S : Type} (run : CacheUse → S → CacheAnswer × S) :
    List CacheUse → S → List CacheAnswer × S
  | [], s => ([], s)
  | use :: rest, s =>
    let (answer, s) := run use s
    let (answers, s) := runUses run rest s
    (answer :: answers, s)

theorem runUses_append {S : Type} (run : CacheUse → S → CacheAnswer × S)
    (uses more : List CacheUse) (s : S) : runUses run (uses ++ more) s =
      ((runUses run uses s).1 ++ (runUses run more (runUses run uses s).2).1,
        (runUses run more (runUses run uses s).2).2) := by
  induction uses generalizing s with
  | nil => rfl
  | cons use rest ih => simp only [List.cons_append, runUses, ih]

/-- The cache after a history of uses. -/
def StatementCache.after (capacity : Nat) (history : List CacheUse) : StatementCache :=
  (runUses CacheUse.run history (.ofCapacity capacity)).2

/-- The list in the order of use after a history of uses. -/
def RecentList.after (capacity : Nat) (history : List CacheUse) : RecentList :=
  (runUses (CacheUse.runRecent capacity) history []).2

/-- Whether a use takes away what is kept under a key: it keeps something else under it, it needs
the room of the least recent entry, or it gives up everything. -/
def CacheUse.Displaces (capacity : Nat) (key : StatementKey) (recent : RecentList) :
    CacheUse → Prop
  | .insert other _ => other = key ∨
      (other ∉ recent.map Prod.fst ∧ recent.length = capacity ∧
        recent.getLast?.map Prod.fst = some key)
  | .clear => True
  | _ => False

/-- A statement was kept under the key and nothing took it away since. -/
inductive Stands (capacity : Nat) : List CacheUse → StatementKey → Prepared → Prop where
  | kept {history key p} : 0 < capacity → Stands capacity (history ++ [.insert key p]) key p
  | still {history key p use} : Stands capacity history key p →
      ¬ use.Displaces capacity key (RecentList.after capacity history) →
      Stands capacity (history ++ [use]) key p

/-! ### Lists in the order of use -/

namespace RecentList

variable {capacity : Nat} {key other : StatementKey} {p : Prepared} {recent : RecentList}

theorem mem_keys_iff : key ∈ recent.map Prod.fst ↔ ∃ p, (key, p) ∈ recent := by
  simp

theorem find_eq_some_iff (h : (recent.map Prod.fst).Nodup) :
    find key recent = some p ↔ (key, p) ∈ recent := by
  induction recent with
  | nil => simp [find]
  | cons first rest ih =>
    obtain ⟨firstKey, firstPrepared⟩ := first
    obtain ⟨hfirst, hrest⟩ := List.nodup_cons.1 h
    by_cases hkey : firstKey = key
    · subst hkey
      have hnot (q : Prepared) : (firstKey, q) ∉ rest := fun hq =>
        hfirst (mem_keys_iff.2 ⟨q, hq⟩)
      simp [find, hnot, eq_comm]
    · have hne : (key, p) ≠ (firstKey, firstPrepared) := fun heq =>
        hkey (congrArg Prod.fst heq).symm
      rw [List.mem_cons, or_iff_right hne, ← ih hrest]
      simp [find, hkey]

theorem find_isSome_iff : (find key recent).isSome = true ↔ key ∈ recent.map Prod.fst := by
  simp [find]

theorem without_of_not_mem (h : key ∉ recent.map Prod.fst) : without key recent = recent := by
  refine List.filter_eq_self.2 fun e he => ?_
  have hne : e.1 ≠ key := fun heq => h (heq ▸ List.mem_map_of_mem he)
  simpa using hne

/-- One key, one place. -/
theorem length_without (h : (recent.map Prod.fst).Nodup) (hmem : key ∈ recent.map Prod.fst) :
    (without key recent).length + 1 = recent.length := by
  have hkeys : (without key recent).map Prod.fst = (recent.map Prod.fst).erase key := by
    rw [h.erase_eq_filter, List.filter_map]
    rfl
  have hlength := congrArg List.length hkeys
  rw [List.length_map, List.length_erase_of_mem hmem, List.length_map] at hlength
  have hpos := List.length_pos_of_mem hmem
  rw [List.length_map] at hpos
  omega

theorem mem_without : (other, p) ∈ without key recent ↔ (other, p) ∈ recent ∧ other ≠ key := by
  simp [without]

/-- A key that is there keeps its room. -/
theorem insert_of_mem (h : (recent.map Prod.fst).Nodup) (hroom : recent.length ≤ capacity)
    (hmem : key ∈ recent.map Prod.fst) :
    insert capacity key p recent = (key, p) :: without key recent := by
  refine List.take_of_length_le ?_
  rw [List.length_cons, length_without h hmem]
  exact hroom

/-- A new key takes free room. -/
theorem insert_of_lt (hroom : recent.length < capacity) (h : key ∉ recent.map Prod.fst) :
    insert capacity key p recent = (key, p) :: recent := by
  unfold insert
  rw [without_of_not_mem h]
  exact List.take_of_length_le hroom

/-- A new key takes the room of the least recent one. -/
theorem insert_of_full (hfull : recent.length = capacity) (hpos : 0 < capacity)
    (h : key ∉ recent.map Prod.fst) :
    insert capacity key p recent = (key, p) :: recent.dropLast := by
  obtain ⟨n, rfl⟩ := Nat.exists_eq_succ_of_ne_zero (Nat.pos_iff_ne_zero.1 hpos)
  unfold insert
  rw [without_of_not_mem h, List.take_succ_cons, List.dropLast_eq_take, hfull, Nat.succ_sub_one]

/-- What is among all but the least recent. -/
theorem mem_dropLast_iff (h : (recent.map Prod.fst).Nodup) :
    (key, p) ∈ recent.dropLast ↔
      (key, p) ∈ recent ∧ recent.getLast?.map Prod.fst ≠ some key := by
  cases recent using List.reverseRecOn with
  | nil => simp
  | append_singleton initial last =>
    obtain ⟨lastKey, lastPrepared⟩ := last
    rw [List.map_append, List.nodup_append] at h
    have hlast : ∀ q, (lastKey, q) ∉ initial := fun q hq =>
      h.2.2 lastKey (List.mem_map_of_mem hq) lastKey (by simp) rfl
    rw [List.dropLast_concat, List.getLast?_concat]
    constructor
    · intro hmem
      refine ⟨List.mem_append_left _ hmem, ?_⟩
      rintro heq
      obtain rfl : lastKey = key := by simpa using heq
      exact hlast p hmem
    · rintro ⟨hmem, hne⟩
      rcases List.mem_append.1 hmem with hmem | hmem
      · exact hmem
      · obtain ⟨rfl, -⟩ := Prod.mk.inj (List.mem_singleton.1 hmem)
        exact absurd rfl hne

theorem get_of_find_eq_none (h : find key recent = none) : get key recent = (none, recent) := by
  unfold get
  rw [h]

theorem get_of_find_eq_some (h : find key recent = some p) :
    get key recent = (some p, (key, p) :: without key recent) := by
  unfold get
  rw [h]

theorem get_fst (key : StatementKey) (recent : RecentList) :
    (get key recent).1 = find key recent := by
  cases hfind : find key recent with
  | none => rw [get_of_find_eq_none hfind]
  | some p => rw [get_of_find_eq_some hfind]

/-- A use takes nothing away. -/
theorem mem_get (h : (recent.map Prod.fst).Nodup) :
    (key, p) ∈ (get other recent).2 ↔ (key, p) ∈ recent := by
  cases hfind : find other recent with
  | none => rw [get_of_find_eq_none hfind]
  | some q =>
    have hq := (find_eq_some_iff h).1 hfind
    rw [get_of_find_eq_some hfind, List.mem_cons, mem_without]
    constructor
    · rintro (heq | ⟨hmem, -⟩)
      · exact heq ▸ hq
      · exact hmem
    · intro hmem
      by_cases hkey : key = other
      · subst hkey
        have hp := (find_eq_some_iff h).2 hmem
        rw [hfind] at hp
        exact .inl (congrArg (Prod.mk key) (Option.some.inj hp).symm)
      · exact .inr ⟨hmem, hkey⟩

/-- What is kept after a statement was kept: this statement, and what was not displaced by it. -/
theorem mem_insert {q : Prepared} (h : (recent.map Prod.fst).Nodup)
    (hroom : recent.length ≤ capacity) : (key, p) ∈ insert capacity other q recent ↔
      (0 < capacity ∧ (other, q) = (key, p)) ∨ ((key, p) ∈ recent ∧
        ¬ (CacheUse.insert other q).Displaces capacity key recent) := by
  obtain rfl | hpos := Nat.eq_zero_or_pos capacity
  · obtain rfl := List.length_eq_zero_iff.1 (Nat.le_zero.1 hroom)
    simp [insert]
  have hcons : ∀ rest : RecentList, (key, p) ∈ (other, q) :: rest ↔
      (0 < capacity ∧ (other, q) = (key, p)) ∨ (key, p) ∈ rest := fun rest => by
    rw [List.mem_cons, and_iff_right hpos, eq_comm (a := (key, p))]
  by_cases hheld : other ∈ recent.map Prod.fst
  · have hdisplaces : (CacheUse.insert other q).Displaces capacity key recent ↔ other = key :=
      or_iff_left fun hnew => hnew.1 hheld
    rw [insert_of_mem h hroom hheld, hcons, mem_without, hdisplaces, ne_comm]
  · have hne : (key, p) ∈ recent → other ≠ key := fun hmem heq =>
      hheld (heq ▸ List.mem_map_of_mem hmem)
    obtain hlt | hfull := Nat.lt_or_eq_of_le hroom
    · have hdisplaces : (CacheUse.insert other q).Displaces capacity key recent ↔ other = key :=
        or_iff_left fun hnew => Nat.ne_of_lt hlt hnew.2.1
      rw [insert_of_lt hlt hheld, hcons, hdisplaces, and_iff_left_of_imp hne]
    · have hdisplaces : (CacheUse.insert other q).Displaces capacity key recent ↔
          other = key ∨ recent.getLast?.map Prod.fst = some key :=
        or_congr_right ⟨fun hnew => hnew.2.2, fun hlast => ⟨hheld, hfull, hlast⟩⟩
      rw [insert_of_full hfull hpos hheld, hcons, mem_dropLast_iff h, hdisplaces, not_or]
      refine or_congr_right (and_congr_right fun hmem => ?_)
      rw [and_iff_right (hne hmem)]

theorem after_append (capacity : Nat) (history : List CacheUse) (use : CacheUse) :
    after capacity (history ++ [use]) =
      (use.runRecent capacity (after capacity history)).2 := by
  unfold after
  rw [runUses_append]
  rfl

end RecentList

end WideColumn
