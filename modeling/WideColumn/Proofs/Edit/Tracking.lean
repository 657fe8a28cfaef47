import WideColumn.Proofs.Edit.Inversion
import WideColumn.Proofs.Edit.Methods
import WideColumn.Proofs.Update.Steps

/-!
# What the record of changes says

Along any calls on a proxy, an attribute whose value changed is in the record of changes, and an
attribute gets into the record only by a call that may change it. While a container is edited it is
out of the entity; then the entity is looked at as it is once the container is put back. The
invariant at such a moment is about the entity from which the container was taken, and about the
container: either it is still what was taken out, or its property is marked. Main statement:
`dirty_contract`.
-/

namespace WideColumn

open Op

variable {E : Type}

/-! ### What is asked of a class and of the calls -/

/-- Two entities differ at most in the attribute of a name. -/
structure EntityType.ChangesOnly (T : EntityType E) (name : String) (entity entity' : E) :
    Prop where
  key : T.key entity' = T.key entity
  value? {other : String} : other ≠ name → T.value? entity' other = T.value? entity other

/-- Writing an attribute changes no other, and so does setting a counter cell. -/
structure EntityType.Faithful (T : EntityType E) : Prop where
  write {entity entity' : E} {name : String} {v : Value} :
    T.write entity name v = .ok entity' → T.ChangesOnly name entity entity'
  setCounter (entity : E) (name : String) (counter : Counter) :
    T.ChangesOnly name entity (T.setCounter entity name counter)

/-- An accessor reaches the attribute of a name and no other. -/
structure Accessor.Reaches {C : Type} (accessor : Accessor E C) (T : EntityType E)
    (name : String) : Prop where
  only (entity : E) (container : C) : T.ChangesOnly name entity (accessor.set entity container)
  restores (entity : E) (container : C) :
    T.value? (accessor.set (accessor.set entity container) (accessor.get entity)) name =
      T.value? entity name

/-- The attribute of a name may be changed through the proxy. -/
def Proxy.Changeable (p : Proxy) (name : String) : Prop :=
  ∃ pm, p.entityMeta.property name = .ok pm ∧ pm.isId = false ∧ pm.isCounter = false ∧
    pm.hasSetter = true

/-- A counter has the name. -/
def Proxy.HasCounter (p : Proxy) (name : String) : Prop :=
  ∃ pm, p.entityMeta.property name = .ok pm ∧ pm.isCounter = true

/-! ### Calls -/

/-- What is open on a proxy. -/
inductive Opened (E : Type) : Type 1 where
  | none
  | view {C : Type} (accessor : Accessor E C) (view : View C)
  | counter (property : String) (counter : Counter)

/-- The entities, and what is open on the proxy. -/
structure Stage (E : Type) : Type 1 where
  workspace : Workspace E
  opened : Opened E

/-- The entities once what is open is put back. -/
def Stage.settled (T : EntityType E) (p : Proxy) (s : Stage E) : Workspace E :=
  match s.opened with
  | .none => s.workspace
  | .view accessor view => p.closeView s.workspace accessor view
  | .counter property counter => p.closeCounter T s.workspace property counter

/-- A call of a proxy on which nothing is open. -/
inductive ProxyCall (E : Type) : Type 1 where
  | set {α : Type} (property : String) (change : E → α × E)
  | setValue (property : String) (v : Value)
  | list {V : Type} (property : String) (accessor : Accessor E (List V))
  | setAttr {V : Type} (property : String) (accessor : Accessor E (List V))
  | map {K V : Type} (property : String) (accessor : Accessor E (List (K × V)))
  | counter (property : String)

namespace ProxyCall

/-- The attribute that the call writes; to open a container or a counter writes none. -/
def changes : ProxyCall E → Option String
  | set property _ | setValue property _ => some property
  | _ => none

/-- The call. -/
def run (T : EntityType E) (p : Proxy) (w : Workspace E) : ProxyCall E → Except Error (Stage E)
  | set property change => (p.set w property change).map fun (_, w) => ⟨w, .none⟩
  | setValue property v => (p.setValue T w property v).map fun w => ⟨w, .none⟩
  | list property accessor =>
    (p.openList w property accessor).map fun (view, w) => ⟨w, .view accessor view⟩
  | setAttr property accessor =>
    (p.openSet w property accessor).map fun (view, w) => ⟨w, .view accessor view⟩
  | map property accessor =>
    (p.openMap w property accessor).map fun (view, w) => ⟨w, .view accessor view⟩
  | counter property =>
    (p.openCounter T w property).map fun (cell, w) => ⟨w, .counter property cell⟩

/-- The closure of the call changes only the named attribute, or its accessor reaches that. -/
def Lawful (T : EntityType E) : ProxyCall E → Prop
  | set property change => ∀ entity, T.ChangesOnly property entity (change entity).2
  | list property accessor | setAttr property accessor => accessor.Reaches T property
  | map property accessor => accessor.Reaches T property
  | setValue _ _ | counter _ => True

end ProxyCall

/-- What is to be said of a call: the attribute that it may change, and the error it returned. -/
structure Report where
  changes : Option String
  error : Option Error

/-- A call that may change the attribute of a name succeeded. -/
def Report.Marks (r : Report) (name : String) : Prop := r.changes = some name ∧ r.error = none

/-- One call: of the proxy, or on what is open on it. -/
inductive ProxyStep (T : EntityType E) (p : Proxy) : Stage E → Report → Stage E → Prop
  | done {w : Workspace E} {s : Stage E} (call : ProxyCall E) : call.Lawful T →
      call.run T p w = .ok s → ProxyStep T p ⟨w, .none⟩ ⟨call.changes, none⟩ s
  | refused {w : Workspace E} {e : Error} (call : ProxyCall E) : call.run T p w = .error e →
      ProxyStep T p ⟨w, .none⟩ ⟨call.changes, some e⟩ ⟨w, .none⟩
  | method {C : Type} {w : Workspace E} {accessor : Accessor E C} {v v' : View C} {mutates : Bool}
      {error : Option Error} : v.Called mutates error v' →
      ProxyStep T p ⟨w, .view accessor v⟩
        ⟨if mutates then some v.property.name else none, error⟩ ⟨w, .view accessor v'⟩
  | count {w : Workspace E} {property : String} (counter counter' : Counter) :
      ProxyStep T p ⟨w, .counter property counter⟩ ⟨none, none⟩ ⟨w, .counter property counter'⟩
  | close (s : Stage E) : ProxyStep T p s ⟨none, none⟩ ⟨s.settled T p, .none⟩

/-- Calls one after the other. -/
inductive ProxySteps (T : EntityType E) (p : Proxy) (s : Stage E) :
    List Report → Stage E → Prop
  | nil : ProxySteps T p s [] s
  | snoc {reports : List Report} {report : Report} {t u : Stage E} :
      ProxySteps T p s reports t → ProxyStep T p t report u →
      ProxySteps T p s (reports ++ [report]) u

/-! ### What is preserved -/

/-- An entity and the record of its changes, some calls after those of a cell. -/
structure Tracks (T : EntityType E) (p : Proxy) (start : Cell E) (reports : List Report)
    (entity : E) (dirty : DirtySet) : Prop where
  key : T.key entity = T.key start.entity
  changed {name : String} : ¬ p.HasCounter name →
    T.value? entity name ≠ T.value? start.entity name → name ∈ dirty.names
  kept {name : String} : name ∈ start.dirty.names → name ∈ dirty.names
  only {name : String} : name ∈ dirty.names →
    name ∈ start.dirty.names ∨ p.Changeable name ∧ ∃ r ∈ reports, r.Marks name

variable {T : EntityType E} {p : Proxy} {start : Cell E} {reports : List Report}

namespace Tracks

variable {entity entity' : E} {dirty : DirtySet}

theorem refl : Tracks T p start [] start.entity start.dirty :=
  ⟨rfl, fun _ hne => absurd rfl hne, id, .inl⟩

theorem report (h : Tracks T p start reports entity dirty) (r : Report) :
    Tracks T p start (reports ++ [r]) entity dirty where
  key := h.key
  changed := h.changed
  kept := h.kept
  only hname := (h.only hname).imp id fun ⟨hchangeable, x, hx, hmarks⟩ =>
    ⟨hchangeable, x, List.mem_append_left _ hx, hmarks⟩

/-- An entity with other values only where the record says so. -/
theorem change (h : Tracks T p start reports entity dirty)
    (hkey : T.key entity' = T.key entity)
    (hvalues : ∀ name, ¬ p.HasCounter name →
      T.value? entity' name = T.value? entity name ∨ name ∈ dirty.names) :
    Tracks T p start reports entity' dirty where
  key := hkey.trans h.key
  changed {name} hname hne := by
    rcases hvalues name hname with heq | hmem
    · exact h.changed hname (heq ▸ hne)
    · exact hmem
  kept := h.kept
  only := h.only

/-- A call that may change an attribute marks it. -/
theorem mark (h : Tracks T p start reports entity dirty) {pm : PropertyMeta} {r : Report}
    (hpm : p.Changeable pm.name) (hr : r.Marks pm.name) :
    Tracks T p start (reports ++ [r]) entity (dirty.mark pm) where
  key := h.key
  changed hname hne := (DirtySet.mem_names_mark _ _ _).2 (.inr (h.changed hname hne))
  kept hname := (DirtySet.mem_names_mark _ _ _).2 (.inr (h.kept hname))
  only {name} hname := by
    rcases (DirtySet.mem_names_mark _ _ _).1 hname with heq | hmem
    · subst heq
      exact .inr ⟨hpm, r, by simp, hr⟩
    · exact (h.report r).only hmem

end Tracks

/-- What is preserved by calls. Where a container is open, the account is of the entity from which
it was taken. -/
def Stage.Tracks (T : EntityType E) (p : Proxy) (start : Cell E) (reports : List Report)
    (s : Stage E) : Prop :=
  ∃ cell, s.workspace.cell? p.handle = some cell ∧
    match s.opened with
    | .none => WideColumn.Tracks T p start reports cell.entity cell.dirty
    | .view accessor v =>
      ∃ entity vacant, cell.entity = accessor.set entity vacant ∧
        WideColumn.Tracks T p start reports entity v.dirty ∧
        accessor.Reaches T v.property.name ∧ p.Changeable v.property.name ∧
        (v.container = accessor.get entity ∨ v.property.name ∈ v.dirty.names)
    | .counter property _ =>
      WideColumn.Tracks T p start reports cell.entity cell.dirty ∧ p.HasCounter property

/-! ### What the calls of a proxy do -/

/-- An attribute that may be written is one that the calls of the proxy may change. -/
theorem Proxy.changeable_of_writable {property : String} {access : Access} {pm : PropertyMeta}
    (h : p.writable property access = .ok pm) : pm.name = property ∧ p.Changeable property := by
  obtain ⟨hpm, hsetter, hid, hcounter⟩ := Proxy.writable_eq_ok h
  exact ⟨EntityMeta.name_of_property hpm, pm, hpm, hid, hcounter, hsetter⟩

/-- A closure or a written value changes one attribute, which is marked. -/
theorem Tracks.write {w : Workspace E} {cell : Cell E} (hcell : w.cell? p.handle = some cell)
    (h : Tracks T p start reports cell.entity cell.dirty) {property : String} {pm : PropertyMeta}
    {access : Access} (hpm : p.writable property access = .ok pm) {entity : E}
    (honly : T.ChangesOnly property cell.entity entity) :
    Stage.Tracks T p start (reports ++ [⟨some property, none⟩])
      ⟨w.modify p.handle fun c => Proxy.touch pm { c with entity }, .none⟩ := by
  obtain ⟨hname, hchangeable⟩ := Proxy.changeable_of_writable hpm
  subst hname
  refine ⟨_, Workspace.cell?_modify_self hcell _, ?_⟩
  apply (h.mark hchangeable ⟨rfl, rfl⟩).change honly.key
  intro name _
  by_cases heq : name = pm.name
  · exact .inr ((DirtySet.mem_names_mark _ _ _).2 (.inl heq))
  · exact .inl (honly.value? heq)

/-- A container taken out of the entity is as it was, and its property is not marked by that. -/
theorem Tracks.openView {C : Type} {w w' : Workspace E} {cell : Cell E}
    (hcell : w.cell? p.handle = some cell)
    (h : Tracks T p start reports cell.entity cell.dirty) {property : String} {access : Access}
    {accessor : Accessor E C} {vacant : C} {v : View C}
    (hopen : p.openView w property access accessor vacant = .ok (v, w'))
    (hreaches : accessor.Reaches T property) :
    Stage.Tracks T p start (reports ++ [⟨none, none⟩]) ⟨w', .view accessor v⟩ := by
  obtain ⟨pm, found, hpm, hfound, rfl, rfl⟩ := Proxy.openView_eq_ok hopen
  obtain rfl : cell = found := Option.some.inj (hcell.symm.trans hfound)
  obtain ⟨rfl, hchangeable⟩ := Proxy.changeable_of_writable hpm
  exact ⟨_, Workspace.cell?_modify_self hcell _, cell.entity, vacant, rfl, h.report _, hreaches,
    hchangeable, .inl rfl⟩

/-- Setting the cell of a counter changes nothing that is tracked. -/
theorem Tracks.setCounter (hT : T.Faithful) {entity : E} {dirty : DirtySet}
    (h : Tracks T p start reports entity dirty) {property : String}
    (hcounter : p.HasCounter property) (counter : Counter) :
    Tracks T p start reports (T.setCounter entity property counter) dirty := by
  have honly := hT.setCounter entity property counter
  apply h.change honly.key
  intro name hname
  have hne : name ≠ property := by
    intro heq
    exact hname (heq ▸ hcounter)
  exact .inl (honly.value? hne)

theorem except_map_eq_ok {α : Type} {β : Type 1} {f : α → β} {x : Except Error α} {b : β}
    (h : x.map f = .ok b) : ∃ a, x = .ok a ∧ b = f a := by
  cases x with
  | error e => cases h
  | ok a => exact ⟨a, rfl, (Except.ok.inj h).symm⟩

/-- A call of the proxy that succeeds. -/
theorem Stage.Tracks.done (hT : T.Faithful) {w : Workspace E} {s : Stage E} (call : ProxyCall E)
    (hlawful : call.Lawful T) (hrun : call.run T p w = .ok s)
    (h : Stage.Tracks T p start reports ⟨w, .none⟩) :
    Stage.Tracks T p start (reports ++ [⟨call.changes, none⟩]) s := by
  obtain ⟨cell, hcell, htracks⟩ := h
  cases call with
  | set property change =>
    obtain ⟨⟨answer, w'⟩, hset, rfl⟩ := except_map_eq_ok hrun
    obtain ⟨pm, found, hpm, hfound, rfl⟩ := Proxy.set_eq_ok hset
    obtain rfl : cell = found := Option.some.inj (hcell.symm.trans hfound)
    exact htracks.write hcell hpm (hlawful cell.entity)
  | setValue property v =>
    obtain ⟨w', hset, rfl⟩ := except_map_eq_ok hrun
    obtain ⟨pm, found, entity, hpm, hfound, hwrite, rfl⟩ := Proxy.setValue_eq_ok hset
    obtain rfl : cell = found := Option.some.inj (hcell.symm.trans hfound)
    rw [(Proxy.changeable_of_writable hpm).1] at hwrite
    exact htracks.write hcell hpm (hT.write hwrite)
  | list property accessor =>
    obtain ⟨⟨v, w'⟩, hopen, rfl⟩ := except_map_eq_ok hrun
    exact htracks.openView hcell hopen hlawful
  | setAttr property accessor =>
    obtain ⟨⟨v, w'⟩, hopen, rfl⟩ := except_map_eq_ok hrun
    exact htracks.openView hcell hopen hlawful
  | map property accessor =>
    obtain ⟨⟨v, w'⟩, hopen, rfl⟩ := except_map_eq_ok hrun
    exact htracks.openView hcell hopen hlawful
  | counter property =>
    obtain ⟨⟨counter, w'⟩, hopen, rfl⟩ := except_map_eq_ok hrun
    obtain ⟨pm, found, hpm, htrue, -, -, rfl⟩ := Proxy.openCounter_eq_ok hopen
    have hcounter : p.HasCounter property := ⟨pm, hpm, htrue⟩
    exact ⟨_, Workspace.cell?_modify_self hcell _,
      (htracks.report _).setCounter hT hcounter .empty, hcounter⟩

/-! ### Steps and runs -/

/-- What is open goes back into the entity. -/
theorem Stage.Tracks.settled (hT : T.Faithful) {s : Stage E}
    (h : Stage.Tracks T p start reports s) :
    ∃ cell, (s.settled T p).cell? p.handle = some cell ∧
      WideColumn.Tracks T p start reports cell.entity cell.dirty := by
  obtain ⟨w, opened⟩ := s
  obtain ⟨cell, hcell, h⟩ := h
  cases opened with
  | none => exact ⟨cell, hcell, h⟩
  | view accessor v =>
    obtain ⟨entity, vacant, hentity, htracks, hreaches, -, hcontainer⟩ := h
    refine ⟨_, Workspace.cell?_modify_self hcell _, ?_⟩
    dsimp only
    rw [hentity]
    have hout := hreaches.only entity vacant
    have hback := hreaches.only (accessor.set entity vacant) v.container
    apply htracks.change (hback.key.trans hout.key)
    intro name _
    -- another attribute is as before; that of the container is restored, or a method marked it
    by_cases hname : name = v.property.name
    · subst hname
      rcases hcontainer with heq | hmarked
      · rw [heq]
        exact .inl (hreaches.restores entity vacant)
      · exact .inr hmarked
    · exact .inl ((hback.value? hname).trans (hout.value? hname))
  | counter property counter =>
    exact ⟨_, Workspace.cell?_modify_self hcell _, h.1.setCounter hT h.2 counter⟩

/-- A method of what is open. -/
theorem Stage.Tracks.method {C : Type} {w : Workspace E} {accessor : Accessor E C} {v v' : View C}
    {mutates : Bool} {error : Option Error} (hcall : v.Called mutates error v')
    (h : Stage.Tracks T p start reports ⟨w, .view accessor v⟩) :
    Stage.Tracks T p start
      (reports ++ [⟨if mutates then some v.property.name else none, error⟩])
      ⟨w, .view accessor v'⟩ := by
  obtain ⟨cell, hcell, entity, vacant, hentity, htracks, hreaches, hchangeable, hcontainer⟩ := h
  refine ⟨cell, hcell, entity, vacant, hentity, ?_⟩
  rcases hcall.follows with heq | ⟨hmutates, herror, hproperty, hdirty⟩
  · rw [heq]
    exact ⟨htracks.report _, hreaches, hchangeable, hcontainer⟩
  · rw [hproperty, hdirty]
    refine ⟨htracks.mark hchangeable ?_, hreaches, hchangeable, .inr ?_⟩
    · rw [if_pos hmutates]
      exact ⟨rfl, herror⟩
    · exact (DirtySet.mem_names_mark _ _ _).2 (.inl rfl)

theorem Stage.Tracks.report {s : Stage E} (h : Stage.Tracks T p start reports s) (r : Report) :
    Stage.Tracks T p start (reports ++ [r]) s := by
  obtain ⟨w, opened⟩ := s
  obtain ⟨cell, hcell, h⟩ := h
  refine ⟨cell, hcell, ?_⟩
  cases opened with
  | none => exact WideColumn.Tracks.report h r
  | view accessor v =>
    obtain ⟨entity, vacant, hentity, htracks, hrest⟩ := h
    exact ⟨entity, vacant, hentity, htracks.report r, hrest⟩
  | counter property counter => exact ⟨h.1.report r, h.2⟩

/-- One call preserves the account. -/
theorem ProxyStep.tracks (hT : T.Faithful) {s t : Stage E} {r : Report}
    (hstep : ProxyStep T p s r t) (h : Stage.Tracks T p start reports s) :
    Stage.Tracks T p start (reports ++ [r]) t := by
  cases hstep with
  | done call hlawful hrun => exact h.done hT call hlawful hrun
  | refused call hrun => exact h.report _
  | method hcall => exact h.method hcall
  | count counter counter' => exact h.report _
  | close s =>
    obtain ⟨cell, hcell, htracks⟩ := h.settled hT
    exact ⟨cell, hcell, htracks.report _⟩

/-- A call that returns an error changes nothing. -/
theorem ProxyStep.settled_of_error {s t : Stage E} {r : Report} {e : Error}
    (hstep : ProxyStep T p s r t) (he : r.error = some e) : t.settled T p = s.settled T p := by
  cases hstep with
  | done call hlawful hrun => cases he
  | refused call hrun => rfl
  | method hcall =>
    obtain rfl : _ = some e := he
    rw [hcall.follows.eq_of_error]
  | count counter counter' => cases he
  | close s => cases he

/-- Calls preserve the account, one after the other. -/
theorem ProxySteps.tracks (hT : T.Faithful) {s t : Stage E} (hstart : Stage.Tracks T p start [] s)
    (h : ProxySteps T p s reports t) : Stage.Tracks T p start reports t := by
  induction h with
  | nil => exact hstart
  | snoc _ hstep ih => exact hstep.tracks hT ih

/-! ### The contract -/

/-- The record of changes after calls on a proxy: the account of the entity and its record, and what
holds of one call more that returns an error. -/
structure DirtyContract (T : EntityType E) (p : Proxy) (start : Cell E) (reports : List Report)
    (s : Stage E) : Prop where
  tracked : ∃ cell, (s.settled T p).cell? p.handle = some cell ∧
    Tracks T p start reports cell.entity cell.dirty
  refused {r : Report} {e : Error} {t : Stage E} :
    ProxyStep T p s r t → r.error = some e → t.settled T p = s.settled T p

/-- After any calls on a proxy, also amid the calls on a container, the attributes that changed are
recorded as changed. An attribute gets into the record only by a successful call that may change it,
and never if it is a key, a counter, without setter or unmapped. A call that returns an error
changes nothing. -/
theorem dirty_contract (hT : T.Faithful) {w : Workspace E} (hstart : w.cell? p.handle = some start)
    {s : Stage E} (h : ProxySteps T p ⟨w, .none⟩ reports s) :
    DirtyContract T p start reports s where
  tracked := (h.tracks hT ⟨start, hstart, Tracks.refl⟩).settled hT
  refused hstep he := hstep.settled_of_error he

/-! ### Albums -/

/-- An album with tags, which counts how often it was played. -/
structure Album where
  id : Value
  tags : List String
  plays : Counter

namespace Album

/-- The declaration of albums. -/
def draft : EntityDraft where
  className := "Album"
  tableName := "albums"
  properties :=
    [.ofKind "id" .id .bigint, .ofKind "tags" .list (.list .text),
      .ofKind "plays" .counter .counter]
  readLevel := none
  writeLevel := none
  isClusteredCounter := false

/-- How albums are read and written; their tags are written through a wrapper only. -/
def type : EntityType Album where
  typeName := "music.Album"
  shortName := "Album"
  entityMeta := draft.build
  interceptors := []
  values album := [("tags", .list (album.tags.map .text))]
  write _ _ _ := .error (.invalidState "No attribute")
  key album := [album.id]
  ofKey key := .ok ⟨key.headD .null, [], .empty⟩
  ofRow row := .ok ⟨(row.find? "id").getD .null, [], .empty⟩
  counter? album name := if name = "plays" then some album.plays else none
  setCounter album name counter := if name = "plays" then { album with plays := counter } else album

/-- The tags of an album. -/
def tagsAccessor : Accessor Album (List String) := ⟨tags, fun album tags => { album with tags }⟩

/-- The proxy of the only album. -/
def proxy : Proxy where
  handle := ⟨0⟩
  entityMeta :=
    { className := "Album", tableName := "albums"
      id := { PropertyDraft.ofKind "id" .id .bigint with entityClass := "Album" }
      properties := draft.properties.map fun x => { x with entityClass := "Album" }
      declaredReadLevel := none, declaredWriteLevel := none
      readLevel := .standard, writeLevel := .standard, isClusteredCounter := false }
  key := [.bigint 1]

/-- The cell of an album without tags. -/
def cell : Cell Album := ⟨⟨.bigint 1, [], .empty⟩, .empty, [], .none⟩

theorem faithful_type : type.Faithful where
  write h := by cases h
  setCounter album name counter := by
    simp only [type]
    split
    · exact ⟨rfl, fun _ => rfl⟩
    · exact ⟨rfl, fun _ => rfl⟩

theorem reaches_tags : tagsAccessor.Reaches type "tags" where
  only album tags := by
    refine ⟨rfl, fun {other} hne => ?_⟩
    have hbeq : (other == "tags") = false := beq_eq_false_iff_ne.2 hne
    simp [EntityType.value?, type, List.lookup_cons, hbeq]
  restores album tags := rfl

/-- The key is refused, the tags are extended, a cursor without an element fails. -/
theorem dirty_contract_tags : ∃ reports s,
    ProxySteps type proxy ⟨⟨#[cell]⟩, .none⟩ reports s ∧
      (s.settled type proxy).dirtyNames proxy.handle = ["tags"] ∧
        DirtyContract type proxy cell reports s := by
  have hrefused := ProxySteps.nil.snoc
    (.refused (T := type) (p := proxy) (w := ⟨#[cell]⟩) (.setValue "id" .null) rfl)
  have hopened := hrefused.snoc (.done (.list "tags" tagsAccessor) reaches_tags rfl)
  have hpushed := hopened.snoc (.method (.list _ (.push "jazz")))
  have hfailed := hpushed.snoc (.method (.listCursor (ListView.cursor _) .remove))
  exact ⟨_, _, hfailed, rfl, dirty_contract faithful_type rfl hfailed⟩

end Album

end WideColumn
