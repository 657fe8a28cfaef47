import WideColumn.Proofs.Edit.Walk

/-!
# Cursors over sets and maps

A cursor over a set or a map walks over the elements that were there when it was made, while what it
removes leaves the container under it. It moves as the gap of an open list does, and all that is
behind the gap is still in the container, so every element comes by once and a removal finds its
element. The two kinds differ in one point: at the end a cursor over a map keeps the entry that it
returned last, a cursor over a set gives its element up. Main statement: `snapshot_contract`.
-/

namespace WideColumn

/-! ### Cursors over sets -/

/-- Make a call of a cursor over a set. -/
def SetCursor.call {V : Type} [BEq V] (call : CursorCall Empty) (c : SetCursor V) :
    CursorAnswer V V × SetCursor V :=
  match call with
  | .next => c.next.map .returned id
  | .remove => c.remove.map .acted id
  | .setValue x => x.elim

/-- What a cursor over a set does after a series of calls. -/
structure SetView.WalkContract {V : Type} [BEq V] (atEnd : Bool) (s : SetView V)
    (log : List (CursorCall Empty × CursorAnswer V V)) (c : SetCursor V) : Prop where
  once : ComeByOnce s.container log
  /-- Moving on neither changes the set nor marks its property. -/
  moves : c.next.2.set = c.set
  /-- The element returned last is still there, and a removal removes it and nothing else. -/
  removes : ∀ x, LastReturned atEnd log x → x ∈ c.set.container ∧ c.remove.1 = .ok x ∧
    c.remove.2.set = c.set.edit (·.filter (· != x))
  /-- Where there is no such element a removal fails, changes nothing and marks nothing. -/
  refuses : (∀ x, ¬ LastReturned atEnd log x) →
    c.remove = (.error (noCurrentElement s.property "remove"), c)

namespace SetCursor

variable {V : Type} {property : PropertyMeta} {c : SetCursor V} {z : Zipper V}

/-- The cursor over a set with the property stands at the gap. -/
structure IsAt [BEq V] (property : PropertyMeta) (c : SetCursor V) (z : Zipper V) : Prop where
  property : c.set.property = property
  container : c.set.container = z.items
  distinct : DistinctBy id z.items
  ahead : c.ahead = z.after
  current : c.current = z.returned

theorem IsAt.next_of_cons [BEq V] (h : IsAt property c z) {x : V} {rest : List V}
    (hafter : z.after = x :: rest) : c.next = (some x, ⟨c.set, rest, some x⟩) := by
  unfold SetCursor.next
  rw [h.ahead, hafter]

theorem IsAt.next_of_nil [BEq V] (h : IsAt property c z) (hafter : z.after = []) :
    c.next = (none, ⟨c.set, [], none⟩) := by
  obtain ⟨set, ahead, current⟩ := c
  obtain rfl : ahead = [] := h.ahead.trans hafter
  rfl

theorem set_next (c : SetCursor V) : c.next.2.set = c.set := by
  unfold SetCursor.next
  split <;> rfl

theorem IsAt.remove_of_none [BEq V] (h : IsAt property c z) (hnone : z.returned = none) :
    c.remove = (.error (noCurrentElement c.set.property "remove"), c) := by
  unfold SetCursor.remove
  rw [h.current, hnone]

variable [BEq V] [EquivBEq V]

theorem IsAt.remove_of_some (h : IsAt property c z) {x : V} (hsome : z.returned = some x) :
    c.remove = (.ok x, ⟨c.set.edit (·.filter (· != x)), c.ahead, none⟩) := by
  have hdistinct := h.distinct
  rw [Zipper.items_of_returned hsome] at hdistinct
  have hfound : c.set.container.find? (· == x) = some x := by
    rw [h.container, Zipper.items_of_returned hsome]
    exact hdistinct.find?
  unfold SetCursor.remove
  rw [h.current, hsome]
  show (Except.ok ((c.set.container.find? (· == x)).getD x), _) = _
  rw [hfound]
  rfl

/-- A call keeps the cursor at a gap that the log recounts. -/
theorem IsAt.call {elements : List V} {log : List (CursorCall Empty × CursorAnswer V V)}
    (h : IsAt property c z) (hlog : z.Recounts id true elements log) (call : CursorCall Empty) :
    ∃ z', IsAt property (c.call call).2 z' ∧
      z'.Recounts id true elements (log ++ [(call, (c.call call).1)]) := by
  cases call with
  | next =>
    show ∃ z', IsAt property c.next.2 z' ∧
      z'.Recounts id true elements (log ++ [(.next, .returned c.next.1)])
    cases hafter : z.after with
    | nil =>
      have hitems := z.items_release
      rw [h.next_of_nil hafter]
      refine ⟨⟨z.passed, none, z.after⟩, ⟨h.property, ?_, ?_, hafter.symm, rfl⟩,
        hlog.atLast hafter hafter rfl⟩
      · rw [hitems]
        exact h.container
      · rw [hitems]
        exact h.distinct
    | cons x rest =>
      have hitems := Zipper.items_over hafter
      rw [h.next_of_cons hafter]
      refine ⟨⟨z.passed, some x, rest⟩, ⟨h.property, ?_, ?_, rfl, rfl⟩, hlog.next hafter⟩
      · rw [hitems]
        exact h.container
      · rw [hitems]
        exact h.distinct
  | remove =>
    show ∃ z', IsAt property c.remove.2 z' ∧
      z'.Recounts id true elements (log ++ [(.remove, .acted c.remove.1)])
    cases hreturned : z.returned with
    | none =>
      rw [h.remove_of_none hreturned]
      exact ⟨z, h, hlog.kept rfl rfl id⟩
    | some x =>
      have hdistinct := h.distinct
      rw [Zipper.items_of_returned hreturned] at hdistinct
      have hitems := z.items_drop
      rw [h.remove_of_some hreturned]
      refine ⟨⟨z.before, none, z.after⟩, ⟨h.property, ?_, ?_, h.ahead, rfl⟩, hlog.removed x⟩
      · rw [View.container_edit, h.container, Zipper.items_of_returned hreturned, hitems]
        exact hdistinct.filter
      · rw [hitems]
        exact hdistinct.remove
  | setValue x => exact x.elim

/-- A cursor at a gap that the log recounts keeps the contract. -/
theorem IsAt.walkContract {s : SetView V} {log : List (CursorCall Empty × CursorAnswer V V)}
    (h : IsAt s.property c z) (hlog : z.Recounts id true s.container log) :
    s.WalkContract true log c where
  once := hlog.once
  moves := c.set_next
  removes x hx := by
    obtain ⟨x, hreturned, rfl⟩ := hlog.exists_returned hx
    rw [h.remove_of_some hreturned, h.container, Zipper.items_of_returned hreturned]
    exact ⟨by simp, rfl, rfl⟩
  refuses hnone := by
    rw [h.remove_of_none (hlog.returned_eq_none hnone), h.property]

end SetCursor

/-! ### Cursors over maps -/

/-- Make a call of a cursor over a map. -/
def EntryCursor.call {K V : Type} [BEq K] (call : CursorCall V) (c : EntryCursor K V) :
    CursorAnswer (K × V) V × EntryCursor K V :=
  match call with
  | .next => c.next.map .returned id
  | .remove => c.remove.map .acted id
  | .setValue x => (c.setValue x).map .acted id

/-- `m'` is `m` with the value for the key, or without the key, and with its property marked. -/
structure MapView.Changes {K V : Type} [BEq K] (m : MapView K V) (key : K) (value : Option V)
    (m' : MapView K V) : Prop where
  get? : ∀ other, m'.get? other = if key == other then value else m.get? other
  property : m'.property = m.property
  dirty : m'.dirty = m.dirty.mark m.property

/-- What a cursor over a map does after a series of calls. -/
structure MapView.WalkContract {K V : Type} [BEq K] (atEnd : Bool) (m : MapView K V)
    (log : List (CursorCall V × CursorAnswer (K × V) V)) (c : EntryCursor K V) : Prop where
  once : ComeByOnce m.container log
  /-- Moving on neither changes the map nor marks its property. -/
  moves : c.next.2.map = c.map
  /-- The entry returned last is still there, and a removal removes it and nothing else. -/
  removes : ∀ e, LastReturned atEnd log e → ∃ v, c.map.get? e.1 = some v ∧ c.remove.1 = .ok v ∧
    c.map.Changes e.1 none c.remove.2.map
  /-- A value is given to it and to nothing else. -/
  sets : ∀ e x, LastReturned atEnd log e → ∃ v, c.map.get? e.1 = some v ∧
    (c.setValue x).1 = .ok v ∧ c.map.Changes e.1 (some x) (c.setValue x).2.map
  /-- Where there is no such entry both fail, change nothing and mark nothing. -/
  refuses : (∀ e, ¬ LastReturned atEnd log e) →
    c.remove = (.error (noCurrentElement m.property "remove"), c) ∧
      ∀ x, c.setValue x = (.error (noCurrentElement m.property "set a value"), c)

namespace EntryCursor

variable {K V : Type} [BEq K] {property : PropertyMeta} {c : EntryCursor K V}
  {z : Zipper (K × V)}

/-- The cursor over a map with the property stands at the gap. -/
structure IsAt (property : PropertyMeta) (c : EntryCursor K V) (z : Zipper (K × V)) : Prop where
  property : c.map.property = property
  container : c.map.container = z.items
  distinct : DistinctBy Prod.fst z.items
  ahead : c.ahead = z.after.map Prod.fst
  current : c.current = z.returned.map Prod.fst

theorem IsAt.next_of_nil (h : IsAt property c z) (hafter : z.after = []) : c.next = (none, c) := by
  obtain ⟨map, ahead, current⟩ := c
  obtain rfl : ahead = [] := by
    have hahead := h.ahead
    rwa [hafter] at hahead
  rfl

theorem map_next (c : EntryCursor K V) : c.next.2.map = c.map := by
  unfold EntryCursor.next
  split <;> rfl

theorem IsAt.remove_of_none (h : IsAt property c z) (hnone : z.returned = none) :
    c.remove = (.error (noCurrentElement c.map.property "remove"), c) := by
  unfold EntryCursor.remove
  rw [h.current, hnone]
  rfl

theorem IsAt.setValue_of_none (h : IsAt property c z) (hnone : z.returned = none) (x : V) :
    c.setValue x = (.error (noCurrentElement c.map.property "set a value"), c) := by
  unfold EntryCursor.setValue
  rw [h.current, hnone]
  rfl

variable [EquivBEq K]

/-- A look-up finds the entry wherever it stands. -/
theorem IsAt.get? {front back : List (K × V)} {e : K × V} (h : IsAt property c z)
    (hitems : z.items = front ++ e :: back) : c.map.get? e.1 = some e.2 := by
  have hdistinct := h.distinct
  rw [hitems] at hdistinct
  have hfound : c.map.container.find? (fun a => a.1 == e.1) = some e := by
    rw [h.container, hitems]
    exact hdistinct.find?
  show (c.map.container.find? fun a => a.1 == e.1).map Prod.snd = some e.2
  rw [hfound]
  rfl

theorem IsAt.next_of_cons (h : IsAt property c z) {e : K × V} {rest : List (K × V)}
    (hafter : z.after = e :: rest) :
    c.next = (some e, ⟨c.map, rest.map Prod.fst, some e.1⟩) := by
  have hitems : z.items = z.passed ++ e :: rest := by rw [Zipper.items, hafter]
  have hfirst : firstPresent c.map c.ahead = some (e.1, e.2, rest.map Prod.fst) := by
    rw [h.ahead, hafter, List.map_cons, firstPresent, h.get? hitems]
  unfold EntryCursor.next
  rw [hfirst]

theorem IsAt.remove_of_some (h : IsAt property c z) {e : K × V} (hsome : z.returned = some e) :
    c.remove = (.ok e.2, ⟨(c.map.remove e.1).2, c.ahead, none⟩) := by
  have hfound := h.get? (Zipper.items_of_returned hsome)
  simp [EntryCursor.remove, h.current, hsome, hfound]

theorem IsAt.setValue_of_some (h : IsAt property c z) {e : K × V} (hsome : z.returned = some e)
    (x : V) : c.setValue x = (.ok e.2, ⟨(c.map.insert e.1 x).2, c.ahead, c.current⟩) := by
  have hfound : (c.current.bind fun key => (c.map.get? key).map fun v => (key, v)) =
      some (e.1, e.2) := by
    rw [h.current, hsome]
    show (c.map.get? e.1).map (fun v => (e.1, v)) = _
    rw [h.get? (Zipper.items_of_returned hsome)]
    rfl
  unfold EntryCursor.setValue
  rw [hfound]

/-- A value is put where the key stands. -/
theorem putEntry_of_distinct {front back : List (K × V)} {e : K × V}
    (h : DistinctBy Prod.fst (front ++ e :: back)) (x : V) :
    putEntry e.1 x (front ++ e :: back) = front ++ (e.1, x) :: back := by
  induction front with
  | nil => simp [putEntry]
  | cons first rest ih =>
    have hfirst : (first.1 == e.1) = false := h.before List.mem_cons_self
    have hrest : DistinctBy Prod.fst (rest ++ e :: back) := (List.pairwise_cons.1 h).2
    simp [putEntry, hfirst, ih hrest]

/-- A call keeps the cursor at a gap that the log recounts. -/
theorem IsAt.call {elements : List (K × V)} {log : List (CursorCall V × CursorAnswer (K × V) V)}
    (h : IsAt property c z) (hlog : z.Recounts Prod.fst false elements log) (call : CursorCall V) :
    ∃ z', IsAt property (c.call call).2 z' ∧
      z'.Recounts Prod.fst false elements (log ++ [(call, (c.call call).1)]) := by
  cases call with
  | next =>
    show ∃ z', IsAt property c.next.2 z' ∧
      z'.Recounts Prod.fst false elements (log ++ [(.next, .returned c.next.1)])
    cases hafter : z.after with
    | nil =>
      rw [h.next_of_nil hafter]
      exact ⟨z, h, hlog.atLast hafter hafter rfl⟩
    | cons e rest =>
      have hitems := Zipper.items_over hafter
      rw [h.next_of_cons hafter]
      refine ⟨⟨z.passed, some e, rest⟩, ⟨h.property, ?_, ?_, rfl, rfl⟩, hlog.next hafter⟩
      · rw [hitems]
        exact h.container
      · rw [hitems]
        exact h.distinct
  | remove =>
    show ∃ z', IsAt property c.remove.2 z' ∧
      z'.Recounts Prod.fst false elements (log ++ [(.remove, .acted c.remove.1)])
    cases hreturned : z.returned with
    | none =>
      rw [h.remove_of_none hreturned]
      exact ⟨z, h, hlog.kept rfl rfl id⟩
    | some e =>
      have hdistinct := h.distinct
      rw [Zipper.items_of_returned hreturned] at hdistinct
      have hitems := z.items_drop
      rw [h.remove_of_some hreturned]
      refine ⟨⟨z.before, none, z.after⟩, ⟨h.property, ?_, ?_, h.ahead, rfl⟩, hlog.removed e.2⟩
      · rw [hitems, ← hdistinct.filter, ← Zipper.items_of_returned hreturned, ← h.container]
        rfl
      · rw [hitems]
        exact hdistinct.remove
  | setValue x =>
    show ∃ z', IsAt property (c.setValue x).2 z' ∧
      z'.Recounts Prod.fst false elements (log ++ [(.setValue x, .acted (c.setValue x).1)])
    cases hreturned : z.returned with
    | none =>
      rw [h.setValue_of_none hreturned]
      exact ⟨z, h, hlog.kept rfl rfl id⟩
    | some e =>
      have hdistinct := h.distinct
      rw [Zipper.items_of_returned hreturned] at hdistinct
      have hitems : (⟨z.before, some (e.1, x), z.after⟩ : Zipper (K × V)).items =
          z.before ++ (e.1, x) :: z.after := Zipper.items_of_returned rfl
      have hkey : z.returned.map Prod.fst = some e.1 := by rw [hreturned]; rfl
      rw [h.setValue_of_some hreturned]
      refine ⟨⟨z.before, some (e.1, x), z.after⟩, ⟨h.property, ?_, ?_, h.ahead, ?_⟩,
        hlog.kept rfl hkey.symm id⟩
      · rw [hitems, ← putEntry_of_distinct hdistinct, ← Zipper.items_of_returned hreturned,
          ← h.container]
        rfl
      · rw [hitems]
        exact hdistinct.replace rfl
      · exact h.current.trans hkey

/-- A cursor at a gap that the log recounts keeps the contract. -/
theorem IsAt.walkContract {m : MapView K V}
    {log : List (CursorCall V × CursorAnswer (K × V) V)} (h : IsAt m.property c z)
    (hlog : z.Recounts Prod.fst false m.container log) : m.WalkContract false log c := by
  have hsome (e : K × V) (he : LastReturned false log e) :
      ∃ v, z.returned = some (e.1, v) := by
    obtain ⟨⟨k, v⟩, hreturned, rfl⟩ := hlog.exists_returned he
    exact ⟨v, hreturned⟩
  exact {
    once := hlog.once
    moves := c.map_next
    removes := fun e he => by
      obtain ⟨v, hreturned⟩ := hsome e he
      rw [h.remove_of_some hreturned]
      exact ⟨v, h.get? (Zipper.items_of_returned hreturned), rfl,
        fun other => MapView.get?_remove c.map e.1 other, rfl, rfl⟩
    sets := fun e x he => by
      obtain ⟨v, hreturned⟩ := hsome e he
      rw [h.setValue_of_some hreturned]
      exact ⟨v, h.get? (Zipper.items_of_returned hreturned), rfl,
        fun other => MapView.get?_insert c.map e.1 other x, rfl, rfl⟩
    refuses := fun hnone => by
      have hreturned := hlog.returned_eq_none hnone
      rw [h.remove_of_none hreturned, h.property]
      refine ⟨rfl, fun x => ?_⟩
      rw [h.setValue_of_none hreturned, h.property] }

end EntryCursor

/-! ### The contract -/

/-- Over every set and every map, whatever is called of a cursor: each element comes by once; the
element returned last can be edited until it is removed, and nothing else can; all other calls fail
and leave no trace. Over a map the end changes nothing in this; over a set it releases the
element. -/
theorem snapshot_contract {V K W : Type} [BEq V] [EquivBEq V] [BEq K] [EquivBEq K]
    (s : SetView V) (m : MapView K W) (hs : DistinctBy id s.container)
    (hm : DistinctBy Prod.fst m.container) :
    (∀ calls, s.WalkContract true (runCalls SetCursor.call calls s.cursor).1
      (runCalls SetCursor.call calls s.cursor).2) ∧
    ∀ calls, m.WalkContract false (runCalls EntryCursor.call calls m.cursor).1
      (runCalls EntryCursor.call calls m.cursor).2 := by
  constructor
  · intro calls
    have hstart : SetCursor.IsAt s.property s.cursor (.atStart s.container) :=
      ⟨rfl, rfl, hs, rfl, rfl⟩
    have hcall (c : SetCursor V) (z : Zipper V) (call : CursorCall Empty)
        (log : List (CursorCall Empty × CursorAnswer V V)) (hat : SetCursor.IsAt s.property c z)
        (hlog : z.Recounts id true s.container log) := hat.call hlog call
    obtain ⟨z, hat, hlog⟩ := Zipper.Recounts.runCalls hcall calls hstart
    exact hat.walkContract hlog
  · intro calls
    have hstart : EntryCursor.IsAt m.property m.cursor (.atStart m.container) :=
      ⟨rfl, rfl, hm, rfl, rfl⟩
    have hcall (c : EntryCursor K W) (z : Zipper (K × W)) (call : CursorCall W)
        (log : List (CursorCall W × CursorAnswer (K × W) W))
        (hat : EntryCursor.IsAt m.property c z)
        (hlog : z.Recounts Prod.fst false m.container log) := hat.call hlog call
    obtain ⟨z, hat, hlog⟩ := Zipper.Recounts.runCalls hcall calls hstart
    exact hat.walkContract hlog

/-- The one follower of a user. -/
def SetView.followers : SetView String where
  container := ["ann"]
  property := { PropertyDraft.ofKind "followers" .set (.set .text) with entityClass := "User" }
  dirty := .empty

/-- What a user prefers. -/
def MapView.preferences : MapView Nat String where
  container := [(1, "FR"), (2, "Paris")]
  property := { PropertyDraft.ofKind "preferences" .map (.map .int .text) with
    entityClass := "User" }
  dirty := .empty

open SetView MapView

/-- Cursors over the followers and the preferences of a user. -/
theorem snapshot_contract_user :
    DistinctBy id followers.container ∧ DistinctBy Prod.fst preferences.container ∧
    (∀ calls, followers.WalkContract true (runCalls SetCursor.call calls followers.cursor).1
      (runCalls SetCursor.call calls followers.cursor).2) ∧
    ∀ calls, preferences.WalkContract false
      (runCalls EntryCursor.call calls preferences.cursor).1
      (runCalls EntryCursor.call calls preferences.cursor).2 := by
  have hs : DistinctBy id followers.container := List.pairwise_singleton ..
  have hm : DistinctBy Prod.fst preferences.container := by
    simp [DistinctBy, preferences]
  exact ⟨hs, hm, snapshot_contract followers preferences hs hm⟩

/-- After the end the entry returned last still takes a value. -/
example : (runCalls EntryCursor.call [.next, .remove, .next, .next, .setValue "Lyon"]
    preferences.cursor).2.map.container = [(2, "Lyon")] := by
  decide

/-- A follower that was returned and is still there cannot be removed once the end was met. -/
theorem not_removes_at_end :
    ¬ ∀ calls, followers.WalkContract false (runCalls SetCursor.call calls followers.cursor).1
      (runCalls SetCursor.call calls followers.cursor).2 := by
  intro h
  have hlast : LastReturned false (runCalls SetCursor.call [.next, .next] followers.cursor).1
      "ann" := ⟨[], [(.next, .returned none)], rfl, by simp [Releases]⟩
  have hremoved := ((h [.next, .next]).removes "ann" hlast).2.1
  cases hremoved

end WideColumn
