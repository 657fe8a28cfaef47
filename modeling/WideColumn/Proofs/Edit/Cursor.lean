import Mathlib.Data.List.Basic
import Mathlib.Data.List.Induction
import WideColumn.Proofs.Edit.Runs

/-!
# Cursors over lists

A cursor keeps two positions: before which element it stands, and which element it returned last.
It moves like a gap through a list that is open at the gap. The element last returned, if it can
still be edited, is the one before the gap; so no position is ever beyond the list. What the cursor
has not edited keeps its order, and on the way to the end every element of the list comes by once.
Main statement: `cursor_contract`.
-/

namespace WideColumn

/-! ### The gap -/

/-- A list that is open at a gap, with the element last returned as far as it can be edited. -/
structure Zipper (V : Type) where
  /-- The elements before the one last returned, or before the gap. -/
  before : List V
  returned : Option V
  after : List V

namespace Zipper

variable {V : Type}

/-- The elements before the gap. -/
def passed (z : Zipper V) : List V := z.before ++ z.returned.toList

/-- The elements before the gap followed by those after it. -/
def items (z : Zipper V) : List V := z.passed ++ z.after

/-- The gap before all elements. -/
def atStart (xs : List V) : Zipper V := ⟨[], none, xs⟩

/-- Run a move of a cursor on the open list. -/
def run (property : PropertyMeta) (move : ListMove V) (z : Zipper V) : Reply V × Zipper V :=
  match move, z.returned, z.after with
  | .place, _, after => (.place (!after.isEmpty) z.passed.length, z)
  | .next, _, x :: rest => (.found (some x), ⟨z.passed, some x, rest⟩)
  | .next, _, [] => (.found none, z)
  | .remove, some x, after => (.value x, ⟨z.before, none, after⟩)
  | .remove, none, _ => (.failed (noCurrentElement property "remove"), z)
  | .set y, some x, after => (.value x, ⟨z.before, some y, after⟩)
  | .set _, none, _ => (.failed (noCurrentElement property "set"), z)
  | .add y, _, after => (.nothing, ⟨z.passed ++ [y], none, after⟩)

end Zipper

/-! ### What a log says -/

section Log

variable {V : Type}

/-- After this entry of a log there is no element to remove or replace. -/
def Forgets : ListMove V × Reply V → Prop
  | (.add _, _) => True
  | (.remove, .value _) => True
  | _ => False

/-- A move returned an element, and no element was removed or added since. -/
def HasCurrent (log : List (ListMove V × Reply V)) : Prop :=
  ∃ earlier x later, log = earlier ++ (.next, .found (some x)) :: later ∧
    ∀ entry ∈ later, ¬ Forgets entry

/-- The elements that the moves of a log returned. -/
def returnedIn (log : List (ListMove V × Reply V)) : List V :=
  log.filterMap fun
    | (.next, .found x) => x
    | _ => none

/-- Elements that were returned and never edited. -/
structure Spared (V : Type) where
  /-- Those that can no more be edited. -/
  settled : List V
  /-- The one last returned. -/
  current : Option V

/-- The elements that one more entry of a log spares. -/
def Spared.step (spared : Spared V) : ListMove V × Reply V → Spared V
  | (.next, .found (some x)) => ⟨spared.settled ++ spared.current.toList, some x⟩
  | (.remove, _) => ⟨spared.settled, none⟩
  | (.set _, _) => ⟨spared.settled, none⟩
  | (.add _, _) => ⟨spared.settled ++ spared.current.toList, none⟩
  | _ => spared

/-- All of them. -/
def Spared.items (spared : Spared V) : List V := spared.settled ++ spared.current.toList

/-- The elements that the moves of a log returned and neither removed nor replaced. -/
def sparedIn (log : List (ListMove V × Reply V)) : Spared V := log.foldl Spared.step ⟨[], none⟩

end Log

/-! ### Cursors at a gap -/

namespace ListCursor

variable {V : Type} {c : ListCursor V} {z : Zipper V}

/-- The cursor stands at the gap, and its element last returned is the one before the gap. -/
structure IsAt (c : ListCursor V) (z : Zipper V) : Prop where
  container : c.list.container = z.items
  position : c.position = z.passed.length
  last : c.last = z.returned.map fun _ => z.before.length

/-- No position is beyond the list. -/
theorem IsAt.inside (h : c.IsAt z) :
    c.position ≤ c.list.container.length ∧ ∀ i, c.last = some i → i + 1 = c.position := by
  constructor
  · rw [h.position, h.container]
    exact (List.sublist_append_left ..).length_le
  · intro i hi
    obtain ⟨before, _ | x, after⟩ := z
    · exact absurd (h.last.symm.trans hi) nofun
    · obtain rfl := Option.some.inj (h.last.symm.trans hi)
      rw [h.position, Zipper.passed, List.length_append]
      rfl

/-- A removal and a replacement find their element where the cursor says, or there is none. -/
theorem IsAt.current (h : c.IsAt z) :
    (c.last.bind fun i => (c.list.container[i]?).map fun x => (i, x)) =
      z.returned.map fun x => (z.before.length, x) := by
  obtain ⟨before, returned, after⟩ := z
  rw [h.last, h.container]
  cases returned with
  | none => rfl
  | some x => simp [Zipper.items, Zipper.passed]

/-- An element follows exactly if there is one after the gap. -/
theorem IsAt.hasNext (h : c.IsAt z) : c.hasNext = !z.after.isEmpty := by
  unfold ListCursor.hasNext
  rw [h.position, h.container, Zipper.items, List.length_append]
  cases z.after <;> simp

theorem IsAt.next (h : c.IsAt z) : c.next.1 = z.after.head? ∧
    c.next.2.IsAt (z.run c.list.property .next).2 ∧ c.next.2.list = c.list := by
  obtain ⟨before, returned, after⟩ := z
  have hat : c.list.container[c.position]? = after.head? := by
    rw [h.container, h.position, Zipper.items, List.getElem?_append_right (Nat.le_refl _),
      Nat.sub_self, List.head?_eq_getElem?]
  cases after with
  | nil =>
    have hnext : c.next = (none, c) := by
      unfold ListCursor.next
      rw [hat]
      rfl
    rw [hnext]
    exact ⟨rfl, h, rfl⟩
  | cons x rest =>
    have hnext : c.next =
        (some x, { c with last := some c.position, position := c.position + 1 }) := by
      unfold ListCursor.next
      rw [hat]
      rfl
    rw [hnext]
    refine ⟨rfl, ⟨?_, ?_, ?_⟩, rfl⟩
    · simp [h.container, Zipper.run, Zipper.items, Zipper.passed]
    · simp [h.position, Zipper.run, Zipper.passed, Nat.add_assoc]
    · simp [h.position, Zipper.run, Zipper.passed]

theorem IsAt.remove_of_none (h : c.IsAt z) (hnone : z.returned = none) :
    c.remove = (.error (noCurrentElement c.list.property "remove"), c) := by
  unfold ListCursor.remove
  rw [h.current, hnone]
  rfl

theorem IsAt.remove_of_some (h : c.IsAt z) {x : V} (hsome : z.returned = some x) :
    c.remove = (.ok x, ⟨c.list.edit (·.eraseIdx z.before.length), z.before.length, none⟩) := by
  unfold ListCursor.remove
  rw [h.current, hsome]
  rfl

theorem IsAt.remove (h : c.IsAt z) :
    Reply.orFailed c.remove.1 = (z.run c.list.property .remove).1 ∧
      c.remove.2.IsAt (z.run c.list.property .remove).2 ∧
      c.remove.2.list.property = c.list.property := by
  obtain ⟨before, _ | x, after⟩ := z
  · rw [h.remove_of_none rfl]
    exact ⟨rfl, h, rfl⟩
  · rw [h.remove_of_some rfl]
    refine ⟨rfl, ⟨?_, ?_, rfl⟩, rfl⟩
    · simp [h.container, Zipper.run, Zipper.items, Zipper.passed, List.eraseIdx_append]
    · simp [Zipper.run, Zipper.passed]

theorem IsAt.set_of_none (h : c.IsAt z) (hnone : z.returned = none) (y : V) :
    c.set y = (.error (noCurrentElement c.list.property "set"), c) := by
  unfold ListCursor.set
  rw [h.current, hnone]
  rfl

theorem IsAt.set_of_some (h : c.IsAt z) {x : V} (hsome : z.returned = some x) (y : V) :
    c.set y = (.ok x, { c with list := c.list.edit (·.set z.before.length y) }) := by
  unfold ListCursor.set
  rw [h.current, hsome]
  rfl

theorem IsAt.set (h : c.IsAt z) (y : V) :
    Reply.orFailed (c.set y).1 = (z.run c.list.property (.set y)).1 ∧
      (c.set y).2.IsAt (z.run c.list.property (.set y)).2 ∧
      (c.set y).2.list.property = c.list.property := by
  obtain ⟨before, _ | x, after⟩ := z
  · rw [h.set_of_none rfl]
    exact ⟨rfl, h, rfl⟩
  · rw [h.set_of_some rfl]
    refine ⟨rfl, ⟨?_, ?_, ?_⟩, rfl⟩
    · simp [h.container, Zipper.run, Zipper.items, Zipper.passed]
    · simp [h.position, Zipper.run, Zipper.passed]
    · simp [h.last, Zipper.run]

theorem IsAt.add (h : c.IsAt z) (y : V) :
    (c.add y).IsAt (z.run c.list.property (.add y)).2 := by
  refine ⟨?_, ?_, rfl⟩
  · have hinsert : c.list.container.insertIdx c.position y = z.passed ++ y :: z.after := by
      rw [h.container, h.position]
      exact insertIdx_append z.passed z.after 0 y
    simp [ListCursor.add, hinsert, Zipper.run, Zipper.items, Zipper.passed]
  · simp [ListCursor.add, h.position, Zipper.run, Zipper.passed, Nat.add_assoc]

/-- One move tells the same on both sides, and leaves the cursor at the gap. -/
theorem IsAt.run (h : c.IsAt z) (move : ListMove V) :
    (move.run c).1 = (z.run c.list.property move).1 ∧
      (move.run c).2.IsAt (z.run c.list.property move).2 ∧
      (move.run c).2.list.property = c.list.property := by
  cases move with
  | place =>
    refine ⟨?_, h, rfl⟩
    show Reply.place c.hasNext c.position = Reply.place (!z.after.isEmpty) z.passed.length
    rw [h.hasNext, h.position]
  | next =>
    obtain ⟨hfound, hat, hlist⟩ := h.next
    refine ⟨?_, hat, congrArg View.property hlist⟩
    show Reply.found c.next.1 = _
    rw [hfound]
    obtain ⟨before, returned, _ | ⟨x, rest⟩⟩ := z <;> rfl
  | remove => exact h.remove
  | set y => exact h.set y
  | add y => exact ⟨rfl, h.add y, rfl⟩

/-- So does a series of moves. -/
theorem IsAt.runEdits {property : PropertyMeta} (h : c.IsAt z)
    (hproperty : c.list.property = property) (moves : List (ListMove V)) :
    (runEdits ListMove.run moves c).1 = (WideColumn.runEdits (Zipper.run property) moves z).1 ∧
      (WideColumn.runEdits ListMove.run moves c).2.IsAt
        (WideColumn.runEdits (Zipper.run property) moves z).2 ∧
      (WideColumn.runEdits ListMove.run moves c).2.list.property = property := by
  have hmove (move : ListMove V) (c : ListCursor V) (z : Zipper V)
      (h : c.IsAt z ∧ c.list.property = property) :
      (move.run c).1 = (z.run property move).1 ∧ (move.run c).2.IsAt (z.run property move).2 ∧
        (move.run c).2.list.property = property := by
    obtain ⟨hat, rfl⟩ := h
    exact hat.run move
  exact runEdits_follow hmove moves ⟨h, hproperty⟩

/-- The logs of both sides are the same. -/
theorem IsAt.editLog {property : PropertyMeta} (h : c.IsAt z)
    (hproperty : c.list.property = property) (moves : List (ListMove V)) :
    editLog ListMove.run moves c = WideColumn.editLog (Zipper.run property) moves z :=
  congrArg moves.zip (h.runEdits hproperty moves).1

end ListCursor

/-! ### Logs of a gap -/

section Log

variable {V : Type} {log : List (ListMove V × Reply V)} {entry : ListMove V × Reply V}

theorem returnedIn_append (log more : List (ListMove V × Reply V)) :
    returnedIn (log ++ more) = returnedIn log ++ returnedIn more := List.filterMap_append ..

theorem sparedIn_append (log : List (ListMove V × Reply V)) (entry : ListMove V × Reply V) :
    sparedIn (log ++ [entry]) = (sparedIn log).step entry := by
  unfold sparedIn
  rw [List.foldl_append]
  rfl

theorem hasCurrent_iff :
    HasCurrent log ↔ ∃ x, HeldSince (fun e => ¬ Forgets e) (.next, .found (some x)) log :=
  exists_comm

theorem hasCurrent_append : HasCurrent (log ++ [entry]) ↔
    (∃ x, entry = (.next, .found (some x))) ∨ (HasCurrent log ∧ ¬ Forgets entry) := by
  simp only [hasCurrent_iff, heldSince_append, exists_or, exists_and_right]

theorem not_hasCurrent_append (h : Forgets entry) : ¬ HasCurrent (log ++ [entry]) := by
  intro hhas
  rcases hasCurrent_append.1 hhas with ⟨x, rfl⟩ | ⟨-, hkeeps⟩
  · exact h
  · exact hkeeps h

/-- What the log of a run from the start of a list says about the open list. -/
structure Zipper.Tells (xs : List V) (log : List (ListMove V × Reply V)) (z : Zipper V) :
    Prop where
  /-- What was returned and what is to come is the list that the run began with. -/
  returned : returnedIn log ++ z.after = xs
  current : z.returned.isSome = true ↔ HasCurrent log
  settled : (sparedIn log).settled.Sublist z.before
  spared : (sparedIn log).current = none ∨ (sparedIn log).current = z.returned
  sublist : (sparedIn log).items.Sublist (returnedIn log)

namespace Zipper.Tells

variable {xs : List V} {z : Zipper V}

theorem start (xs : List V) : Tells xs [] (.atStart xs) where
  returned := rfl
  current := by simp [HasCurrent, atStart]
  settled := List.nil_sublist _
  spared := .inl rfl
  sublist := List.nil_sublist _

/-- The spared elements stand before the gap. -/
theorem items_sublist (h : z.Tells xs log) : (sparedIn log).items.Sublist z.passed := by
  refine h.settled.append ?_
  rcases h.spared with hnone | hsame
  · rw [hnone]
    exact List.nil_sublist _
  · rw [hsame]

/-- Where nothing is returned, and nothing can be edited that could not be edited before, the log
says what it said before. -/
theorem idle (h : z.Tells xs log) (hreturned : returnedIn [entry] = [])
    (hspared : (sparedIn log).step entry = sparedIn log)
    (hnext : ∀ x, entry ≠ (.next, .found (some x))) (hkeeps : ¬ Forgets entry) :
    z.Tells xs (log ++ [entry]) where
  returned := by
    rw [returnedIn_append, hreturned, List.append_nil]
    exact h.returned
  current := by
    rw [hasCurrent_append, h.current]
    exact ⟨fun hhas => .inr ⟨hhas, hkeeps⟩,
      fun hhas => hhas.elim (fun ⟨x, hx⟩ => absurd hx (hnext x)) And.left⟩
  settled := by
    rw [sparedIn_append, hspared]
    exact h.settled
  spared := by
    rw [sparedIn_append, hspared]
    exact h.spared
  sublist := by
    rw [sparedIn_append, hspared, returnedIn_append, hreturned, List.append_nil]
    exact h.sublist

/-- There is nothing to spare where nothing was returned. -/
theorem forget_current (h : z.Tells xs log) (hnone : z.returned = none) :
    (⟨(sparedIn log).settled, none⟩ : Spared V) = sparedIn log := by
  have hcurrent : (sparedIn log).current = none := h.spared.elim id fun hsame => hsame.trans hnone
  rw [← hcurrent]

/-- What was settled was returned. -/
theorem settled_returned (h : z.Tells xs log) :
    (sparedIn log).settled.Sublist (returnedIn log) :=
  (List.sublist_append_left ..).trans h.sublist

/-- An edit at the gap: nothing is returned by it, and what was last returned is spared no more or
can be edited no more. -/
theorem edited (h : z.Tells xs log) {z' : Zipper V} {settled : List V}
    (hafter : z'.after = z.after) (hreturned : returnedIn [entry] = [])
    (hcurrent : z'.returned.isSome = true ↔ HasCurrent (log ++ [entry]))
    (hstep : (sparedIn log).step entry = ⟨settled, none⟩) (hbefore : settled.Sublist z'.before)
    (hsublist : settled.Sublist (returnedIn log)) : z'.Tells xs (log ++ [entry]) where
  returned := by
    rw [returnedIn_append, hreturned, List.append_nil, hafter]
    exact h.returned
  current := hcurrent
  settled := by
    rw [sparedIn_append, hstep]
    exact hbefore
  spared := by
    rw [sparedIn_append, hstep]
    exact .inl rfl
  sublist := by
    rw [sparedIn_append, hstep, returnedIn_append, hreturned, List.append_nil, Spared.items,
      Option.toList_none, List.append_nil]
    exact hsublist

/-- A move keeps the log truthful. -/
theorem run (h : z.Tells xs log) (property : PropertyMeta) (move : ListMove V) :
    (z.run property move).2.Tells xs (log ++ [(move, (z.run property move).1)]) := by
  have hitems := h.items_sublist
  obtain ⟨before, returned, after⟩ := z
  cases move with
  | place => exact h.idle rfl rfl nofun id
  | next =>
    cases after with
    | nil => exact h.idle rfl rfl nofun id
    | cons x rest =>
      refine ⟨?_, ?_, ?_, .inr ?_, ?_⟩
      · rw [returnedIn_append]
        simpa [returnedIn, Zipper.run] using h.returned
      · exact iff_of_true rfl (hasCurrent_append.2 (.inl ⟨x, rfl⟩))
      · rw [sparedIn_append]
        exact hitems
      · rw [sparedIn_append]
        rfl
      · rw [sparedIn_append, returnedIn_append]
        exact h.sublist.append (List.Sublist.refl _)
  | remove =>
    cases returned with
    | none => exact h.idle rfl (h.forget_current rfl) nofun id
    | some x =>
      have hgone : ¬ HasCurrent (log ++ [(ListMove.remove, Reply.value x)]) :=
        not_hasCurrent_append trivial
      exact h.edited rfl rfl (iff_of_false Bool.false_ne_true hgone) rfl h.settled
        h.settled_returned
  | set y =>
    cases returned with
    | none => exact h.idle rfl (h.forget_current rfl) nofun id
    | some x =>
      -- The element that replaces another can be edited again, but it was never returned.
      have hstill : HasCurrent (log ++ [(ListMove.set y, Reply.value x)]) :=
        hasCurrent_append.2 (.inr ⟨h.current.1 rfl, id⟩)
      exact h.edited rfl rfl (iff_of_true rfl hstill) rfl h.settled h.settled_returned
  | add y =>
    have hgone : ¬ HasCurrent (log ++ [(ListMove.add y, Reply.nothing)]) :=
      not_hasCurrent_append trivial
    exact h.edited rfl rfl (iff_of_false Bool.false_ne_true hgone) rfl
      (hitems.trans (List.sublist_append_left ..)) h.sublist

/-- So does a series of moves. -/
theorem runEdits (h : z.Tells xs log) (property : PropertyMeta) (moves : List (ListMove V)) :
    (WideColumn.runEdits (Zipper.run property) moves z).2.Tells xs
      (log ++ editLog (Zipper.run property) moves z) := by
  induction moves generalizing z log with
  | nil =>
    have hlog : log ++ editLog (Zipper.run property) [] z = log := List.append_nil log
    rw [hlog]
    exact h
  | cons move rest ih =>
    have hrest := ih (h.run property move)
    rw [List.append_assoc] at hrest
    exact hrest

end Zipper.Tells

/-- As many moves as there are elements after the gap bring it to the end. -/
theorem Zipper.after_runEdits_next (property : PropertyMeta) (n : Nat) (z : Zipper V) :
    (runEdits (Zipper.run property) (List.replicate n .next) z).2.after = z.after.drop n := by
  induction n generalizing z with
  | zero => rfl
  | succ n ih =>
    obtain ⟨before, returned, after⟩ := z
    have hrest := ih (run property .next ⟨before, returned, after⟩).2
    cases after with
    | nil =>
      rw [List.drop_nil]
      exact hrest.trans List.drop_nil
    | cons x rest => exact hrest

end Log

/-! ### The contract -/

namespace ListView

variable {V : Type}

/-- What a cursor over a list and the open list are to each other after a series of moves. -/
structure CursorContract (l : ListView V) (log : List (ListMove V × Reply V)) (c : ListCursor V)
    (z : Zipper V) : Prop where
  /-- The list is what stands before the gap followed by what stands after it. -/
  container : c.list.container = z.items
  position : c.position = z.passed.length
  /-- No position is beyond the list, and the element last returned is right before the cursor. -/
  inside : c.position ≤ c.list.container.length ∧ ∀ i, c.last = some i → i + 1 = c.position
  /-- A removal succeeds exactly if an element was returned and neither removed since nor followed
  by an addition. -/
  removes : (∃ x, c.remove.1 = .ok x) ↔ HasCurrent log
  /-- Otherwise it fails, and neither changes the list nor marks its property. -/
  refusesRemove : ¬ HasCurrent log →
    c.remove = (.error (noCurrentElement l.property "remove"), c)
  sets : ∀ y, (∃ x, (c.set y).1 = .ok x) ↔ HasCurrent log
  refusesSet : ∀ y, ¬ HasCurrent log → c.set y = (.error (noCurrentElement l.property "set"), c)
  /-- What was returned and what is to come is the list of the beginning. -/
  returned : returnedIn log ++ z.after = l.container
  /-- What was not edited is where it was among the others. -/
  spared : ((sparedIn log).items ++ z.after).Sublist c.list.container ∧
    ((sparedIn log).items ++ z.after).Sublist l.container
  /-- On the way to the end every element of the list of the beginning is returned once. -/
  toEnd : ∀ n, z.after.length ≤ n →
    returnedIn (log ++ editLog ListMove.run (List.replicate n .next) c) = l.container

variable {l : ListView V} {log : List (ListMove V × Reply V)} {c : ListCursor V} {z : Zipper V}

/-- What fails in all other cases succeeds only in these. -/
theorem exists_ok_iff {α : Type} {P : Prop} {r : Except Error α} {e : Error}
    (hok : P → ∃ x, r = .ok x) (herror : ¬ P → r = .error e) : (∃ x, r = .ok x) ↔ P := by
  refine ⟨fun ⟨x, hx⟩ => ?_, hok⟩
  by_contra hnot
  rw [herror hnot] at hx
  exact nomatch hx

/-- A cursor at the gap of an open list keeps the contract, if the log is that of the gap. -/
theorem CursorContract.of_isAt (hat : c.IsAt z) (hproperty : c.list.property = l.property)
    (htells : z.Tells l.container log) : CursorContract l log c z := by
  have hnone (hnot : ¬ HasCurrent log) : z.returned = none :=
    Option.not_isSome_iff_eq_none.1 fun hsome => hnot (htells.current.1 hsome)
  have hsome (hhas : HasCurrent log) : ∃ x, z.returned = some x :=
    Option.isSome_iff_exists.1 (htells.current.2 hhas)
  have hrefusesRemove (hnot : ¬ HasCurrent log) :
      c.remove = (.error (noCurrentElement l.property "remove"), c) :=
    hproperty ▸ hat.remove_of_none (hnone hnot)
  have hrefusesSet (y : V) (hnot : ¬ HasCurrent log) :
      c.set y = (.error (noCurrentElement l.property "set"), c) :=
    hproperty ▸ hat.set_of_none (hnone hnot) y
  exact {
    container := hat.container
    position := hat.position
    inside := hat.inside
    removes := by
      refine exists_ok_iff (fun hhas => ?_) fun hnot => congrArg Prod.fst (hrefusesRemove hnot)
      obtain ⟨x, hx⟩ := hsome hhas
      exact ⟨x, congrArg Prod.fst (hat.remove_of_some hx)⟩
    refusesRemove := hrefusesRemove
    sets := fun y => by
      refine exists_ok_iff (fun hhas => ?_) fun hnot => congrArg Prod.fst (hrefusesSet y hnot)
      obtain ⟨x, hx⟩ := hsome hhas
      exact ⟨x, congrArg Prod.fst (hat.set_of_some hx y)⟩
    refusesSet := hrefusesSet
    returned := htells.returned
    spared := by
      constructor
      · rw [hat.container]
        exact htells.items_sublist.append (List.Sublist.refl _)
      · rw [← htells.returned]
        exact htells.sublist.append (List.Sublist.refl _)
    toEnd := fun n hn => by
      have hend := (htells.runEdits l.property (List.replicate n .next)).returned
      rw [Zipper.after_runEdits_next, List.drop_eq_nil_of_le hn, List.append_nil] at hend
      rw [hat.editLog hproperty]
      exact hend }

/-- Over every list and every series of moves, a cursor does what the gap of an open list does. -/
theorem cursor_contract (l : ListView V) (moves : List (ListMove V)) :
    (runEdits ListMove.run moves l.cursor).1 =
        (runEdits (Zipper.run l.property) moves (.atStart l.container)).1 ∧
      CursorContract l (editLog ListMove.run moves l.cursor)
        (runEdits ListMove.run moves l.cursor).2
        (runEdits (Zipper.run l.property) moves (.atStart l.container)).2 := by
  have hstart : l.cursor.IsAt (.atStart l.container) := ⟨rfl, rfl, rfl⟩
  have hproperty : l.cursor.list.property = l.property := rfl
  obtain ⟨hreplies, hat, hlast⟩ := hstart.runEdits hproperty moves
  refine ⟨hreplies, .of_isAt hat hlast ?_⟩
  rw [hstart.editLog hproperty]
  exact (Zipper.Tells.start l.container).runEdits l.property moves

end ListView

end WideColumn
