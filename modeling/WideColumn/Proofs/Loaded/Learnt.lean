import WideColumn.Proofs.Edit.Tracking
import WideColumn.Proofs.Loaded.Operations

/-!
# What is learnt about a proxy

The answers to what was read for a proxy, the attributes that were written, and those whose
containers were opened are what is learnt about it (`Learnt`). A call of the proxy makes loaded
what it writes or opens (`ProxyCall.loadsTo_run`), so that what counts as loaded stays covered.
-/

namespace WideColumn

variable {E : Type}

/-! ### What is learnt -/

/-- The attribute whose container the call takes out of the entity. -/
def ProxyCall.opens : ProxyCall E → Option String
  | list property _ | setAttr property _ | map property _ => some property
  | _ => none

/-- The attribute whose container is open. -/
def Opened.property? : Opened E → Option String
  | .view _ v => some v.property.name
  | _ => Option.none

/-- What was learnt of the attributes of a proxy since it was obtained or last read again. -/
structure Learnt where
  /-- The row of a query that the proxy was made of. -/
  row : Option Row
  /-- The answers to what was read for the proxy. -/
  answers : List Answer
  /-- The attributes that were written. -/
  written : List String
  /-- The attributes whose containers were opened. -/
  opened : List String

namespace Learnt

/-- Nothing was read. -/
def nothing : Learnt := ⟨none, [], [], []⟩

/-- These answers were given. -/
def ofAnswers (answers : List Answer) : Learnt := ⟨none, answers, [], []⟩

/-- The row was answered. -/
def ofRow (row : Option Row) : Learnt := ⟨row, [], [], []⟩

/-- More answers were given. -/
def reading (k : Learnt) (answers : List Answer) : Learnt :=
  { k with answers := k.answers ++ answers }

/-- An attribute was written, or none. -/
def writing (k : Learnt) (name : Option String) : Learnt :=
  { k with written := k.written ++ name.toList }

/-- A container was opened, or none. -/
def opening (k : Learnt) (name : Option String) : Learnt :=
  { k with opened := k.opened ++ name.toList }

/-- A refresh that finds the row starts anew. -/
def refreshing (k : Learnt) (answers : List Answer) : Except Stop Refresh → Learnt
  | .ok .refreshed => ofAnswers answers
  | _ => k

/-- The attribute was read. -/
def Reads (types : List (String × EntityMeta)) (T : EntityType E) (p : Proxy) (k : Learnt)
    (name : String) : Prop :=
  (∃ row, k.row = some row ∧ row.hasColumn name = true) ∨
    ∃ a ∈ k.answers, a.Reads types T p.entityMeta p.key name

/-- The attribute was read or written. -/
def Knows (types : List (String × EntityMeta)) (T : EntityType E) (p : Proxy) (k : Learnt)
    (name : String) : Prop :=
  name ∈ k.written ∨ k.Reads types T p name

end Learnt

/-! ### What is covered -/

/-- The loaded attributes are accounted for by what was learnt. -/
structure Learnt.Covers (types : List (String × EntityMeta)) (T : EntityType E) (p : Proxy)
    (k : Learnt) (loaded : List String) : Prop where
  learnt : ∀ name ∈ loaded,
    name = p.entityMeta.id.name ∨ k.Knows types T p name ∨ name ∈ k.opened
  counted : ∀ name, name ∈ k.written ∨ name ∈ k.opened → name ∈ loaded

namespace Learnt

variable {types : List (String × EntityMeta)} {T : EntityType E} {p : Proxy} {k : Learnt}
  {loaded : List String}


theorem Knows.reading {name : String} (h : k.Knows types T p name) (answers : List Answer) :
    (k.reading answers).Knows types T p name := by
  rcases h with hwritten | hrow | ⟨a, ha, hreads⟩
  · exact .inl hwritten
  · exact .inr (.inl hrow)
  · exact .inr (.inr ⟨a, List.mem_append_left _ ha, hreads⟩)

theorem Knows.writing {name : String} (h : k.Knows types T p name) (more : Option String) :
    (k.writing more).Knows types T p name := by
  rcases h with hwritten | hreads
  · exact .inl (List.mem_append_left _ hwritten)
  · exact .inr hreads

/-- Nothing was written or opened yet. -/
theorem Covers.of_new (h : ∀ name ∈ loaded,
    name = p.entityMeta.id.name ∨ k.Knows types T p name) (hwritten : k.written = [])
    (hopened : k.opened = []) : k.Covers types T p loaded where
  learnt name hname := (h name hname).imp id .inl
  counted name hname := by
    rw [hwritten, hopened] at hname
    exact absurd hname (by simp)

/-- All that counts as loaded was read just now. -/
theorem Covers.ofAnswers {answers : List Answer} (h : ∀ name ∈ loaded,
    ∃ a ∈ answers, a.Reads types T p.entityMeta p.key name) :
    (ofAnswers answers).Covers types T p loaded :=
  .of_new (fun name hname => .inr (.inr (.inr (h name hname)))) rfl rfl

/-- All that counts as loaded has a column in the row. -/
theorem Covers.ofRow {found : Option Row} {row : Row} (hrow : found = some row)
    (h : ∀ name ∈ loaded, name = p.entityMeta.id.name ∨ row.hasColumn name = true) :
    (ofRow found).Covers types T p loaded :=
  .of_new (fun name hname => (h name hname).imp id fun hcolumn =>
    .inr (.inl ⟨row, hrow, hcolumn⟩)) rfl rfl

/-- What counts as loaded already may be written. -/
theorem Covers.writing (h : k.Covers types T p loaded) {written : Option String}
    (hwritten : ∀ name, written = some name → name ∈ loaded) :
    (k.writing written).Covers types T p loaded where
  learnt name hname := by
    rcases h.learnt name hname with hid | hknows | hopened
    · exact .inl hid
    · exact .inr (.inl (hknows.writing written))
    · exact .inr (.inr hopened)
  counted name hname := by
    rcases hname with hname | hopened
    · rcases List.mem_append.1 hname with hold | hnew
      · exact h.counted name (.inl hold)
      · exact hwritten name (by simpa using hnew)
    · exact h.counted name (.inr hopened)

/-- What was written or opened is added to what counts as loaded. -/
theorem Covers.called (h : k.Covers types T p loaded) {written opened : Option String}
    {loaded' : List String}
    (hloaded : ∀ name, name ∈ loaded' ↔ name ∈ loaded ∨ written = some name ∨ opened = some name) :
    ((k.writing written).opening opened).Covers types T p loaded' where
  learnt name hname := by
    rcases (hloaded name).1 hname with hold | hwritten | hopened
    · rcases h.learnt name hold with hid | hknows | hopened
      · exact .inl hid
      · exact .inr (.inl (hknows.writing written))
      · exact .inr (.inr (List.mem_append_left _ hopened))
    · exact .inr (.inl (.inl (List.mem_append_right _ (by simp [hwritten]))))
    · exact .inr (.inr (List.mem_append_right _ (by simp [hopened])))
  counted name hname := by
    rcases hname with hwritten | hopened
    · rcases List.mem_append.1 hwritten with hold | hnew
      · exact (hloaded name).2 (.inl (h.counted name (.inl hold)))
      · exact (hloaded name).2 (.inr (.inl (by simpa using hnew)))
    · rcases List.mem_append.1 hopened with hold | hnew
      · exact (hloaded name).2 (.inl (h.counted name (.inr hold)))
      · exact (hloaded name).2 (.inr (.inr (by simpa using hnew)))

end Learnt

/-! ### Calls of the proxy -/

namespace ProxyCall

variable {T : EntityType E} {p : Proxy} {w : Workspace E} {cell : Cell E}

/-- What counts as loaded after a call, and what is open. -/
def LoadsTo (p : Proxy) (cell : Cell E) (written opened : Option String) (stage : Stage E) : Prop :=
  stage.opened.property? = opened ∧
    ∃ cell', stage.workspace.cell? p.handle = some cell' ∧
      ∀ name, name ∈ cell'.loaded ↔ name ∈ cell.loaded ∨ written = some name ∨ opened = some name


theorem loadsTo_touch (hcell : w.cell? p.handle = some cell) {property : String}
    {pm : PropertyMeta} {access : Access} (hpm : p.writable property access = .ok pm) (entity : E) :
    LoadsTo p cell (some property) none
      ⟨w.modify p.handle fun c => Proxy.touch pm { c with entity }, .none⟩ := by
  obtain ⟨rfl, -⟩ := Proxy.changeable_of_writable hpm
  refine ⟨rfl, _, Workspace.cell?_modify_self hcell _, fun name => ?_⟩
  have hmem : name ∈ addName pm.name cell.loaded ↔ name = pm.name ∨ name ∈ cell.loaded :=
    mem_addName
  show name ∈ addName pm.name cell.loaded ↔ _
  rw [hmem]
  simp [or_comm, eq_comm]

theorem loadsTo_openView (hcell : w.cell? p.handle = some cell) {C : Type} {w' : Workspace E}
    {property : String} {access : Access} {accessor : Accessor E C} {vacant : C} {v : View C}
    (hopen : p.openView w property access accessor vacant = .ok (v, w')) :
    LoadsTo p cell none (some property) ⟨w', .view accessor v⟩ := by
  obtain ⟨pm, found, hpm, hfound, rfl, rfl⟩ := Proxy.openView_eq_ok hopen
  obtain ⟨rfl, -⟩ := Proxy.changeable_of_writable hpm
  refine ⟨rfl, _, Workspace.cell?_modify_self hcell _, fun name => ?_⟩
  simp [mem_addName, or_comm, eq_comm]

/-- A call of a proxy makes loaded what it writes or opens. -/
theorem loadsTo_run (hcell : w.cell? p.handle = some cell) {call : ProxyCall E} {stage : Stage E}
    (hrun : call.run T p w = .ok stage) : LoadsTo p cell call.changes call.opens stage := by
  cases call with
  | set property change =>
    obtain ⟨⟨answer, w'⟩, hset, rfl⟩ := except_map_eq_ok hrun
    obtain ⟨pm, found, hpm, -, rfl⟩ := Proxy.set_eq_ok hset
    exact loadsTo_touch hcell hpm _
  | setValue property v =>
    obtain ⟨w', hset, rfl⟩ := except_map_eq_ok hrun
    obtain ⟨pm, found, entity, hpm, -, -, rfl⟩ := Proxy.setValue_eq_ok hset
    exact loadsTo_touch hcell hpm _
  | list property accessor =>
    obtain ⟨⟨v, w'⟩, hopen, rfl⟩ := except_map_eq_ok hrun
    exact loadsTo_openView hcell hopen
  | setAttr property accessor =>
    obtain ⟨⟨v, w'⟩, hopen, rfl⟩ := except_map_eq_ok hrun
    exact loadsTo_openView hcell hopen
  | map property accessor =>
    obtain ⟨⟨v, w'⟩, hopen, rfl⟩ := except_map_eq_ok hrun
    exact loadsTo_openView hcell hopen
  | counter property =>
    obtain ⟨⟨counter, w'⟩, hopen, rfl⟩ := except_map_eq_ok hrun
    obtain ⟨pm, found, -, -, -, -, rfl⟩ := Proxy.openCounter_eq_ok hopen
    exact ⟨rfl, _, Workspace.cell?_modify_self hcell _, fun name => by simp [changes, opens]⟩

end ProxyCall

/-- What is open goes back, and what counts as loaded stays. -/
theorem Stage.loaded_settled (T : EntityType E) {p : Proxy} (stage : Stage E) {cell : Cell E}
    (hcell : stage.workspace.cell? p.handle = some cell) :
    ∃ cell', (stage.settled T p).cell? p.handle = some cell' ∧ cell'.loaded = cell.loaded := by
  obtain ⟨w, opened⟩ := stage
  cases opened with
  | none => exact ⟨cell, hcell, rfl⟩
  | view accessor v => exact ⟨_, Workspace.cell?_modify_self hcell _, rfl⟩
  | counter property counter => exact ⟨_, Workspace.cell?_modify_self hcell _, rfl⟩

end WideColumn
