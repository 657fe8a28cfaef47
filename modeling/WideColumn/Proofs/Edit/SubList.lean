import WideColumn.Proofs.Edit.Runs

/-!
# Windows on lists

Positions in a window count from its start, and its end moves with what is inserted and removed.
To its user the window is a list of its own: every edit tells what the same edit of a separate list
tells, and the underlying list stays what was before the window, followed by that list, followed by
what was behind the window. Main statement: `subList_contract`.
-/

namespace WideColumn

variable {V : Type}

/-- The same edit of a whole list. -/
def WindowEdit.onList : WindowEdit V → ListEdit V
  | .length => .length
  | .get index => .get index
  | .items => .items
  | .push x => .push x
  | .insert index x => .insert index x
  | .remove index => .remove index
  | .set index x => .set index x
  | .clear => .clear
  | .sort => .sort

/-- The elements from `start` up to `stop` as a list of its own. -/
def ListView.part (l : ListView V) (start stop : Nat) : ListView V :=
  { l with container := (l.container.take stop).drop start }

/-- An insertion within the list or at its end. -/
theorem ListView.insert_of_le (l : ListView V) (index : Nat) (x : V)
    (h : index ≤ l.container.length) :
    l.insert index x = (.ok (), l.edit (·.insertIdx index x)) := by
  simp [insert, h]

/-- A replacement within the list returns the element that it replaces. -/
theorem ListView.set_of_lt (l : ListView V) (index : Nat) (x : V)
    (h : index < l.container.length) :
    l.set index x = (some l.container[index], l.edit (·.set index x)) := by
  simp [set, h]

/-! ### What a window shows -/

namespace SubList

/-- The window shows `items` of a list, between what is in front of it and what is behind it. -/
structure Shows (w : SubList V) (front items back : List V) : Prop where
  container : w.list.container = front ++ items ++ back
  start : w.start = front.length
  stop : w.stop = front.length + items.length

namespace Shows

variable {w : SubList V} {front items back : List V}

theorem start_le_stop (h : w.Shows front items back) : w.start ≤ w.stop := by
  rw [h.start, h.stop]
  exact Nat.le_add_right ..

theorem stop_le (h : w.Shows front items back) : w.stop ≤ w.list.container.length := by
  rw [h.stop, h.container, List.length_append, List.length_append]
  exact Nat.le_add_right ..

theorem length_eq (h : w.Shows front items back) : w.length = items.length := by
  unfold SubList.length
  rw [h.start, h.stop, Nat.add_sub_cancel_left]

theorem take_start (h : w.Shows front items back) : w.list.container.take w.start = front := by
  rw [h.container, h.start, List.append_assoc, List.take_left]

theorem drop_stop (h : w.Shows front items back) : w.list.container.drop w.stop = back := by
  rw [h.container, h.stop, ← List.length_append, List.drop_left]

theorem items_eq (h : w.Shows front items back) : w.items = items := by
  unfold SubList.items
  rw [h.container, h.start, h.stop, ← List.length_append, List.take_left, List.drop_left]

/-- What an edit of the list beyond the front part does to the parts. -/
theorem edited (h : w.Shows front items back) {edit : List V → List V} {stop : Nat}
    {items' : List V} (hedit : edit (front ++ items ++ back) = front ++ items' ++ back)
    (hstop : stop = front.length + items'.length) :
    (⟨w.list.edit edit, w.start, stop⟩ : SubList V).Shows front items' back where
  container := (congrArg edit h.container).trans hedit
  start := h.start
  stop := hstop

theorem insertIdx (h : w.Shows front items back) {index : Nat} (hindex : index ≤ items.length)
    (x : V) : (⟨w.list.edit (·.insertIdx (w.start + index) x), w.start, w.stop + 1⟩ :
      SubList V).Shows front (items.insertIdx index x) back := by
  refine h.edited ?_ ?_
  -- Cut at the place of the insertion, on both sides the front part and `shown` stand before it.
  · obtain ⟨shown, rest, rfl, rfl⟩ : ∃ shown rest, items = shown ++ rest ∧ shown.length = index :=
      ⟨items.take index, items.drop index, (List.take_append_drop ..).symm,
        List.length_take_of_le hindex⟩
    have hitems : (shown ++ rest).insertIdx shown.length x = shown ++ x :: rest :=
      insertIdx_append shown rest 0 x
    rw [h.start, hitems, List.append_assoc, insertIdx_append, List.append_assoc,
      show shown.length = shown.length + 0 from rfl, insertIdx_append]
    simp
  · rw [h.stop, List.length_insertIdx_of_le_length hindex, Nat.add_assoc]

theorem push (h : w.Shows front items back) (x : V) :
    (w.push x).Shows front (items ++ [x]) back := by
  have hinsert := h.insertIdx (Nat.le_refl items.length) x
  rw [List.insertIdx_length_self] at hinsert
  have hstop : w.stop = w.start + items.length := by rw [h.start, h.stop]
  unfold SubList.push
  rw [hstop] at hinsert ⊢
  exact hinsert

theorem eraseIdx (h : w.Shows front items back) {index : Nat} (hindex : index < items.length) :
    (⟨w.list.edit (·.eraseIdx (w.start + index)), w.start, w.stop - 1⟩ : SubList V).Shows
      front (items.eraseIdx index) back := by
  refine h.edited ?_ ?_
  · rw [h.start, List.append_assoc, List.eraseIdx_append_of_length_le (Nat.le_add_right ..),
      Nat.add_sub_cancel_left, List.eraseIdx_append_of_lt_length hindex, List.append_assoc]
  · rw [h.stop, List.length_eraseIdx_of_lt hindex]
    omega

theorem set (h : w.Shows front items back) {index : Nat} (hindex : index < items.length) (x : V) :
    (⟨w.list.edit (·.set (w.start + index) x), w.start, w.stop⟩ : SubList V).Shows
      front (items.set index x) back := by
  refine h.edited ?_ ?_
  · rw [h.start, List.append_assoc, List.set_append_right _ _ (Nat.le_add_right ..),
      Nat.add_sub_cancel_left, List.set_append_left _ _ hindex, List.append_assoc]
  · rw [h.stop, List.length_set]

theorem clear (h : w.Shows front items back) : w.clear.Shows front [] back := by
  refine h.edited ?_ ?_
  · rw [← h.container, h.take_start, h.drop_stop, List.append_nil]
  · rw [h.start]
    rfl

theorem sortBy (h : w.Shows front items back) (cmp : V → V → Ordering) :
    (w.sortBy cmp).Shows front (items.mergeSort fun a b => cmp a b != .gt) back := by
  refine h.edited ?_ ?_
  · rw [← h.container, h.take_start, h.drop_stop, h.items_eq]
  · rw [h.stop, List.length_mergeSort]

/-! ### Edits -/

theorem insert_of_le (h : w.Shows front items back) {index : Nat} (hindex : index ≤ items.length)
    (x : V) : w.insert index x =
      (.ok (), ⟨w.list.edit (·.insertIdx (w.start + index) x), w.start, w.stop + 1⟩) := by
  unfold SubList.insert
  rw [if_pos (by rwa [h.length_eq])]

theorem insert_of_gt (h : w.Shows front items back) {index : Nat} (hindex : items.length < index)
    (x : V) : w.insert index x = (.error .outOfBounds, w) := by
  unfold SubList.insert
  rw [if_neg (by rw [h.length_eq]; exact Nat.not_le.2 hindex)]

theorem remove_of_lt (h : w.Shows front items back) {index : Nat} (hindex : index < items.length) :
    w.remove index = (.ok items[index],
      ⟨w.list.edit (·.eraseIdx (w.start + index)), w.start, w.stop - 1⟩) := by
  unfold SubList.remove
  rw [h.items_eq, List.getElem?_eq_getElem hindex]

theorem remove_of_ge (h : w.Shows front items back) {index : Nat} (hindex : items.length ≤ index) :
    w.remove index = (.error .outOfBounds, w) := by
  unfold SubList.remove
  rw [h.items_eq, List.getElem?_eq_none hindex]

theorem set_of_lt (h : w.Shows front items back) {index : Nat} (hindex : index < items.length)
    (x : V) : w.set index x = (some items[index],
      ⟨w.list.edit (·.set (w.start + index) x), w.start, w.stop⟩) := by
  unfold SubList.set
  rw [h.items_eq, List.getElem?_eq_getElem hindex]

theorem set_of_ge (h : w.Shows front items back) {index : Nat} (hindex : items.length ≤ index)
    (x : V) : w.set index x = (none, w) := by
  unfold SubList.set
  rw [h.items_eq, List.getElem?_eq_none hindex]

/-- An edit tells what it tells of a separate list, and the window goes on showing that list. -/
theorem run [BEq V] [Ord V] {s : ListView V} (h : w.Shows front s.container back)
    (edit : WindowEdit V) : (edit.run w).1 = (edit.onList.run s).1 ∧
      (edit.run w).2.Shows front (edit.onList.run s).2.container back := by
  cases edit with
  | length => exact ⟨congrArg Reply.size h.length_eq, h⟩
  | get index => exact ⟨congrArg (fun items => Reply.found items[index]?) h.items_eq, h⟩
  | items => exact ⟨congrArg Reply.items h.items_eq, h⟩
  | push x => exact ⟨rfl, h.push x⟩
  | insert index x =>
    show Reply.bounded _ (w.insert index x).1 = Reply.bounded _ (s.insert index x).1 ∧
      (w.insert index x).2.Shows front (s.insert index x).2.container back
    obtain hle | hgt := (Nat.lt_or_ge s.container.length index).symm
    · rw [h.insert_of_le hle, ListView.insert_of_le _ _ _ hle]
      exact ⟨rfl, h.insertIdx hle x⟩
    · rw [h.insert_of_gt hgt, ListView.insert_of_length_lt _ _ _ hgt]
      exact ⟨rfl, h⟩
  | remove index =>
    show Reply.bounded _ (w.remove index).1 = Reply.bounded _ (s.remove index).1 ∧
      (w.remove index).2.Shows front (s.remove index).2.container back
    obtain hlt | hge := Nat.lt_or_ge index s.container.length
    · rw [h.remove_of_lt hlt, ListView.remove_of_lt _ _ hlt]
      exact ⟨rfl, h.eraseIdx hlt⟩
    · rw [h.remove_of_ge hge, ListView.remove_of_length_le _ _ hge]
      exact ⟨rfl, h⟩
  | set index x =>
    show Reply.found (w.set index x).1 = Reply.found (s.set index x).1 ∧
      (w.set index x).2.Shows front (s.set index x).2.container back
    obtain hlt | hge := Nat.lt_or_ge index s.container.length
    · rw [h.set_of_lt hlt, ListView.set_of_lt _ _ _ hlt]
      exact ⟨rfl, h.set hlt x⟩
    · rw [h.set_of_ge hge, ListView.set_of_length_le _ _ _ hge]
      exact ⟨rfl, h⟩
  | clear => exact ⟨rfl, h.clear⟩
  | sort => exact ⟨rfl, h.sortBy compare⟩

/-- So does a series of edits. -/
theorem runEdits [BEq V] [Ord V] {s : ListView V} (h : w.Shows front s.container back)
    (edits : List (WindowEdit V)) :
    (runEdits WindowEdit.run edits w).1 =
        (WideColumn.runEdits ListEdit.run (edits.map WindowEdit.onList) s).1 ∧
      (WideColumn.runEdits WindowEdit.run edits w).2.Shows front
        (WideColumn.runEdits ListEdit.run (edits.map WindowEdit.onList) s).2.container back := by
  rw [runEdits_map]
  have hedit (edit : WindowEdit V) (w : SubList V) (s : ListView V)
      (h : w.Shows front s.container back) : (edit.run w).1 = (edit.onList.run s).1 ∧
        (edit.run w).2.Shows front (edit.onList.run s).2.container back := h.run edit
  exact runEdits_follow hedit edits h

end Shows

end SubList

/-! ### The contract -/

namespace ListView

/-- What a window from `start` up to `stop` of a list is after a series of edits, next to what the
separate list `s` is after the same edits. -/
structure SubListContract (l : ListView V) (start stop : Nat) (w : SubList V) (s : ListView V) :
    Prop where
  /-- What is in front of the window and behind it stays, with the separate list in between. -/
  container : w.list.container =
    l.container.take start ++ s.container ++ l.container.drop stop
  items : w.items = s.container
  length : w.length = s.container.length
  start_eq : w.start = start
  inside : w.start ≤ w.stop ∧ w.stop ≤ w.list.container.length
  /-- Beyond the end nothing is inserted and nothing changes, not even the marks. -/
  refusesInsert : ∀ index x, s.container.length < index →
    w.insert index x = (.error .outOfBounds, w)
  inserts : ∀ index x, index ≤ s.container.length → (w.insert index x).1 = .ok ()
  refusesRemove : ∀ index, s.container.length ≤ index →
    w.remove index = (.error .outOfBounds, w)
  removes : ∀ index (h : index < s.container.length),
    (w.remove index).1 = .ok s.container[index]
  refusesSet : ∀ index x, s.container.length ≤ index → w.set index x = (none, w)
  sets : ∀ index x (h : index < s.container.length), (w.set index x).1 = some s.container[index]

theorem SubListContract.of_shows {l : ListView V} {start stop : Nat} {w : SubList V}
    {s : ListView V} (hstart : start ≤ l.container.length)
    (h : w.Shows (l.container.take start) s.container (l.container.drop stop)) :
    SubListContract l start stop w s where
  container := h.container
  items := h.items_eq
  length := h.length_eq
  start_eq := h.start.trans (List.length_take_of_le hstart)
  inside := ⟨h.start_le_stop, h.stop_le⟩
  refusesInsert _ x hindex := h.insert_of_gt hindex x
  inserts _ x hindex := congrArg Prod.fst (h.insert_of_le hindex x)
  refusesRemove _ hindex := h.remove_of_ge hindex
  removes _ hindex := congrArg Prod.fst (h.remove_of_lt hindex)
  refusesSet _ x hindex := h.set_of_ge hindex x
  sets _ x hindex := congrArg Prod.fst (h.set_of_lt hindex x)

/-- Over every list, every range within it and every series of edits, a window does what a separate
list of its elements does, and leaves the rest of the list alone. -/
theorem subList_contract [BEq V] [Ord V] (l : ListView V) (start stop : Nat)
    (hstart : start ≤ stop) (hstop : stop ≤ l.container.length) :
    ∃ w, l.subList start stop = .ok w ∧ ∀ edits : List (WindowEdit V),
      (runEdits WindowEdit.run edits w).1 =
          (runEdits ListEdit.run (edits.map WindowEdit.onList) (l.part start stop)).1 ∧
        SubListContract l start stop (runEdits WindowEdit.run edits w).2
          (runEdits ListEdit.run (edits.map WindowEdit.onList) (l.part start stop)).2 := by
  refine ⟨⟨l, start, stop⟩, ?_, fun edits => ?_⟩
  · unfold subList
    rw [if_pos (by simp [hstart, hstop])]
  · have hshows : (⟨l, start, stop⟩ : SubList V).Shows (l.container.take start)
        (l.part start stop).container (l.container.drop stop) := by
      have hfront : (l.container.take start).length = start :=
        List.length_take_of_le (Nat.le_trans hstart hstop)
      have hpart : (l.part start stop).container.length = stop - start := by
        unfold part
        rw [List.length_drop, List.length_take_of_le hstop]
      refine ⟨?_, hfront.symm, ?_⟩
      · have htake : l.container.take start = (l.container.take stop).take start := by
          rw [List.take_take, Nat.min_eq_left hstart]
        show l.container = _
        rw [htake, part, List.take_append_drop, List.take_append_drop]
      · rw [hfront, hpart, Nat.add_sub_cancel' hstart]
    obtain ⟨hreplies, hlast⟩ := hshows.runEdits edits
    exact ⟨hreplies, .of_shows (Nat.le_trans hstart hstop) hlast⟩

/-- The friends of a user. -/
def friends : ListView String where
  container := ["a", "b", "c", "d"]
  property := { PropertyDraft.ofKind "friends" .list (.list .text) with entityClass := "User" }
  dirty := .empty

/-- A window on the friends in the middle. -/
theorem subList_contract_friends : 1 ≤ 3 ∧ 3 ≤ friends.container.length ∧
    ∃ w, friends.subList 1 3 = .ok w ∧ ∀ edits : List (WindowEdit String),
      (runEdits WindowEdit.run edits w).1 =
          (runEdits ListEdit.run (edits.map WindowEdit.onList) (friends.part 1 3)).1 ∧
        SubListContract friends 1 3 (runEdits WindowEdit.run edits w).2
          (runEdits ListEdit.run (edits.map WindowEdit.onList) (friends.part 1 3)).2 :=
  ⟨by decide, by decide, subList_contract friends 1 3 (by decide) (by decide)⟩

/-- What is put at the end of the window stays before what is behind it. -/
example : (runEdits WindowEdit.run [.push "e", .remove 0, .set 0 "C"]
    ⟨friends, 1, 3⟩).2.list.container = ["a", "C", "e", "d"] := by
  decide

end ListView

end WideColumn
