import WideColumn.Proofs.Edit.Cursor

/-!
# Walks over a snapshot

Calls of a cursor that walks over the elements of a container while it edits the container, what the
log of such calls says, and the open list that goes with it: before the gap stands what has come by
and was not removed, right before it the element returned last, after it what is still to come.
Every element comes by once (`ComeByOnce`), and the log tells which element can be edited
(`LastReturned`). Main statement: `Zipper.Recounts.runCalls`, from one call to a series of calls.
-/

namespace WideColumn

/-! ### Calls -/

/-- A call of a cursor over a container whose elements can be given values of type `S`. The elements
of a set can be given none. -/
inductive CursorCall (S : Type) where
  | next
  | remove
  | setValue (x : S)

/-- What a call answers: the element that `next` returned, or what came of the other calls. -/
inductive CursorAnswer (E R : Type) where
  | returned (e : Option E)
  | acted (r : Except Error R)

/-- Make calls one after the other: the calls with their answers, and what they leave. -/
def runCalls {A B S : Type} (call : A → S → B × S) : List A → S → List (A × B) × S
  | [], s => ([], s)
  | a :: rest, s =>
    let (answer, s) := call a s
    let (log, s) := runCalls call rest s
    ((a, answer) :: log, s)

/-- What every call keeps true of the log and the state, a series of calls keeps true. -/
theorem runCalls_induction {A B S : Type} {call : A → S → B × S} {P : List (A × B) → S → Prop}
    (hcall : ∀ log s a, P log s → P (log ++ [(a, (call a s).1)]) (call a s).2) (calls : List A)
    {log : List (A × B)} {s : S} (h : P log s) :
    P (log ++ (runCalls call calls s).1) (runCalls call calls s).2 := by
  induction calls generalizing log s with
  | nil =>
    rw [runCalls, List.append_nil]
    exact h
  | cons a rest ih =>
    have hrest := ih (hcall log s a h)
    rw [List.append_assoc] at hrest
    exact hrest

/-! ### What a log says -/

section Log

variable {S E R : Type} {atEnd : Bool} {elements : List E}
  {log : List (CursorCall S × CursorAnswer E R)} {entry : CursorCall S × CursorAnswer E R} {e : E}

/-- What the calls of `next` in a log returned. -/
def nextAnswers (log : List (CursorCall S × CursorAnswer E R)) : List (Option E) :=
  log.filterMap fun
    | (.next, .returned e) => some e
    | _ => none

/-- The calls of `next` return the elements one after the other, each once, and then nothing. -/
def ComeByOnce (elements : List E) (log : List (CursorCall S × CursorAnswer E R)) : Prop :=
  nextAnswers log = (List.range (nextAnswers log).length).map fun i => elements[i]?

/-- After this entry of a log the element returned before can no more be edited: another one was
returned or it was removed, or, with `atEnd`, nothing was returned. -/
def Releases (atEnd : Bool) : CursorCall S × CursorAnswer E R → Prop
  | (.next, .returned (some _)) => True
  | (.next, .returned none) => atEnd = true
  | (.remove, .acted (.ok _)) => True
  | _ => False

/-- The element was returned, and nothing released it since. -/
def LastReturned (atEnd : Bool) (log : List (CursorCall S × CursorAnswer E R)) (e : E) : Prop :=
  HeldSince (fun entry => ¬ Releases atEnd entry) (.next, .returned (some e)) log

theorem lastReturned_append : LastReturned atEnd (log ++ [entry]) e ↔
    entry = (.next, .returned (some e)) ∨ (LastReturned atEnd log e ∧ ¬ Releases atEnd entry) :=
  heldSince_append

theorem nextAnswers_append_next (a : Option E) :
    nextAnswers (log ++ [(.next, .returned a)]) = nextAnswers log ++ [a] := List.filterMap_append ..

theorem nextAnswers_append_acted (call : CursorCall S) (r : Except Error R) :
    nextAnswers (log ++ [(call, .acted r)]) = nextAnswers log := by
  unfold nextAnswers
  rw [List.filterMap_append]
  cases call <;> exact List.append_nil _

theorem ComeByOnce.next (h : ComeByOnce elements log) :
    ComeByOnce elements (log ++ [(.next, .returned elements[(nextAnswers log).length]?)]) := by
  unfold ComeByOnce at h ⊢
  rw [nextAnswers_append_next, List.length_append, List.length_singleton, List.range_succ,
    List.map_append, ← h]
  rfl

end Log

/-! ### The gap -/

section Gap

variable {S E R K : Type} {key : E → K} {atEnd : Bool} {elements : List E} {z z' : Zipper E}
  {log : List (CursorCall S × CursorAnswer E R)} {e : E} {rest : List E}

/-- Where an element was returned, it stands before the gap. -/
theorem Zipper.items_of_returned (h : z.returned = some e) :
    z.items = z.before ++ e :: z.after := by
  simp [items, passed, h]

/-- The gap moves over an element. -/
theorem Zipper.items_over (h : z.after = e :: rest) :
    (⟨z.passed, some e, rest⟩ : Zipper E).items = z.items := by
  simp [items, passed, h]

theorem Zipper.items_release (z : Zipper E) :
    (⟨z.passed, none, z.after⟩ : Zipper E).items = z.items := by
  simp [items, passed]

theorem Zipper.items_drop (z : Zipper E) :
    (⟨z.before, none, z.after⟩ : Zipper E).items = z.before ++ z.after := by
  simp [items, passed]

/-- What the log of a cursor over `elements` says about the open list. -/
structure Zipper.Recounts (key : E → K) (atEnd : Bool) (elements : List E)
    (log : List (CursorCall S × CursorAnswer E R)) (z : Zipper E) : Prop where
  once : ComeByOnce elements log
  /-- What is to come is what has not come by. -/
  after : z.after = elements.drop (nextAnswers log).length
  /-- The element before the gap is the one returned last, as far as its key goes. -/
  current : ∀ k, z.returned.map key = some k ↔ ∃ e, LastReturned atEnd log e ∧ key e = k

namespace Zipper.Recounts

theorem start (key : E → K) (atEnd : Bool) (elements : List E) : (atStart elements).Recounts key
    atEnd elements ([] : List (CursorCall S × CursorAnswer E R)) where
  once := rfl
  after := rfl
  current k := by simp [atStart, LastReturned, HeldSince]

/-- The next answer is the first element that is to come. -/
theorem head?_after (h : z.Recounts key atEnd elements log) :
    elements[(nextAnswers log).length]? = z.after.head? := by
  rw [h.after, List.head?_drop]

theorem exists_returned (h : z.Recounts key atEnd elements log) (he : LastReturned atEnd log e) :
    ∃ x, z.returned = some x ∧ key x = key e :=
  Option.map_eq_some_iff.1 ((h.current (key e)).2 ⟨e, he, rfl⟩)

theorem returned_eq_none (h : z.Recounts key atEnd elements log)
    (hnone : ∀ e, ¬ LastReturned atEnd log e) : z.returned = none := by
  refine Option.eq_none_iff_forall_ne_some.2 fun x hx => ?_
  obtain ⟨e, he, -⟩ := (h.current (key x)).1 (by rw [hx]; rfl)
  exact hnone e he

theorem next (h : z.Recounts key atEnd elements log) (hafter : z.after = e :: rest) :
    (⟨z.passed, some e, rest⟩ : Zipper E).Recounts key atEnd elements
      (log ++ [(.next, .returned (some e))]) where
  once := by
    have honce := h.once.next
    rwa [h.head?_after, hafter] at honce
  after := by
    rw [nextAnswers_append_next, List.length_append, List.length_singleton, ← List.tail_drop,
      ← h.after, hafter]
    rfl
  current k := by simp [lastReturned_append, Releases]

theorem atLast (h : z.Recounts key atEnd elements log) (hafter : z.after = [])
    (hafter' : z'.after = []) (hreturned : z'.returned = if atEnd then none else z.returned) :
    z'.Recounts key atEnd elements (log ++ [(.next, .returned none)]) where
  once := by
    have honce := h.once.next
    rwa [h.head?_after, hafter] at honce
  after := by
    rw [nextAnswers_append_next, List.length_append, List.length_singleton, ← List.tail_drop,
      ← h.after, hafter, hafter']
    rfl
  current k := by
    rw [hreturned]
    cases atEnd with
    | false => simp [lastReturned_append, Releases, h.current]
    | true => simp [lastReturned_append, Releases]

theorem removed (h : z.Recounts key atEnd elements log) (r : R) :
    (⟨z.before, none, z.after⟩ : Zipper E).Recounts key atEnd elements
      (log ++ [(.remove, .acted (.ok r))]) where
  once := by
    unfold ComeByOnce
    rw [nextAnswers_append_acted]
    exact h.once
  after := by
    rw [nextAnswers_append_acted]
    exact h.after
  current k := by simp [lastReturned_append, Releases]

/-- A call that fails, or gives the element last returned a value, releases nothing. -/
theorem kept {call : CursorCall S} {r : Except Error R} (h : z.Recounts key atEnd elements log)
    (hafter : z'.after = z.after) (hreturned : z'.returned.map key = z.returned.map key)
    (hkeeps : ¬ Releases atEnd (E := E) (call, .acted r)) :
    z'.Recounts key atEnd elements (log ++ [(call, .acted r)]) where
  once := by
    unfold ComeByOnce
    rw [nextAnswers_append_acted]
    exact h.once
  after := by
    rw [nextAnswers_append_acted, hafter]
    exact h.after
  current k := by
    rw [hreturned, h.current]
    simp [lastReturned_append, hkeeps]

/-- A cursor that every call keeps at a gap which the log recounts stays at one. -/
theorem runCalls {C : Type} {call : CursorCall S → C → CursorAnswer E R × C}
    {IsAt : C → Zipper E → Prop}
    (hcall : ∀ c z a (log : List (CursorCall S × CursorAnswer E R)), IsAt c z →
      z.Recounts key atEnd elements log → ∃ z', IsAt (call a c).2 z' ∧
        z'.Recounts key atEnd elements (log ++ [(a, (call a c).1)]))
    (calls : List (CursorCall S)) {c : C} (hstart : IsAt c (atStart elements)) :
    ∃ z, IsAt (WideColumn.runCalls call calls c).2 z ∧
      z.Recounts key atEnd elements (WideColumn.runCalls call calls c).1 := by
  have hkeeps (log : List (CursorCall S × CursorAnswer E R)) (c : C) (a : CursorCall S)
      (h : ∃ z, IsAt c z ∧ z.Recounts key atEnd elements log) :
      ∃ z, IsAt (call a c).2 z ∧
        z.Recounts key atEnd elements (log ++ [(a, (call a c).1)]) := by
    obtain ⟨z, hat, hlog⟩ := h
    exact hcall c z a log hat hlog
  exact runCalls_induction hkeeps calls ⟨_, hstart, start key atEnd elements⟩

end Zipper.Recounts

end Gap

/-! ### Distinct keys -/

section Distinct

variable {E K : Type} [BEq K] {key : E → K} {front back : List E} {x : E}

/-- No two elements have the same key. -/
def DistinctBy (key : E → K) (elements : List E) : Prop :=
  elements.Pairwise fun a b => (key a == key b) = false

theorem DistinctBy.before (h : DistinctBy key (front ++ x :: back)) {a : E} (ha : a ∈ front) :
    (key a == key x) = false :=
  (List.pairwise_append.1 h).2.2 a ha x List.mem_cons_self

theorem DistinctBy.remove (h : DistinctBy key (front ++ x :: back)) :
    DistinctBy key (front ++ back) :=
  h.sublist ((List.sublist_cons_self x back).append_left front)

theorem DistinctBy.replace {y : E} (h : DistinctBy key (front ++ x :: back)) (hy : key y = key x) :
    DistinctBy key (front ++ y :: back) := by
  have hkeys (elements : List E) : DistinctBy key elements ↔
      (elements.map key).Pairwise fun a b => (a == b) = false := by
    unfold DistinctBy
    rw [List.pairwise_map]
  rw [hkeys] at h ⊢
  simpa [hy] using h

variable [EquivBEq K]

theorem DistinctBy.behind (h : DistinctBy key (front ++ x :: back)) {a : E} (ha : a ∈ back) :
    (key a == key x) = false :=
  BEq.symm_false ((List.pairwise_cons.1 (List.pairwise_append.1 h).2.1).1 a ha)

/-- A search by the key of an element finds this element. -/
theorem DistinctBy.find? (h : DistinctBy key (front ++ x :: back)) :
    (front ++ x :: back).find? (fun a => key a == key x) = some x := by
  have hfront : front.find? (fun a => key a == key x) = none :=
    List.find?_eq_none.2 fun a ha => by simp [h.before ha]
  simp [List.find?_append, hfront]

/-- Dropping what has the key of an element drops this element. -/
theorem DistinctBy.filter (h : DistinctBy key (front ++ x :: back)) :
    (front ++ x :: back).filter (fun a => !(key a == key x)) = front ++ back := by
  have hfront : front.filter (fun a => !(key a == key x)) = front :=
    List.filter_eq_self.2 fun a ha => by simp [h.before ha]
  have hback : back.filter (fun a => !(key a == key x)) = back :=
    List.filter_eq_self.2 fun a ha => by simp [h.behind ha]
  simp [List.filter_append, hfront, hback]

end Distinct

end WideColumn
