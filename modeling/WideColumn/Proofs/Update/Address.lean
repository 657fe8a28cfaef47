import WideColumn.Proofs.Edit.Tracking
import WideColumn.Proofs.Event.Deferred
import WideColumn.Proofs.Marker.Binding
import WideColumn.Proofs.Marker.Columns
import WideColumn.Proofs.Update.Immediate
import WideColumn.Proofs.Window.Pending

/-!
# The row that an update writes

An update takes keys from two places. The statements of counters have the key that the proxy is
bound to; the statement of the changed properties has the key that the entity has when they are
written, after the interceptors that run before an update, or as it stands when these are put off.
Whoever changes the key of the entity sends the update to another row than the counters. Main
statement: `address_contract`.
-/

namespace WideColumn

open Op

variable {σ E : Type}

/-! ### Addresses -/

/-- The last values of the statement are the key, encoded. -/
def Request.OnRow (r : Request) (em : EntityMeta) (key : List Value) : Prop :=
  ∃ front encoded, Registry.encodedKey em key = .ok encoded ∧ r.values = front ++ encoded

/-- The last values of the statement say which counter is meant. -/
def Request.OnCounter (r : Request) (em : EntityMeta) (pm : PropertyMeta) (key : List Value) :
    Prop :=
  ∃ front encoded, Registry.encodedKey em key = .ok encoded ∧
    r.values = front ++ counterTarget em pm encoded

/-- What the columns are compared with that say which counter is meant. -/
def EntityMeta.counterSlots (em : EntityMeta) (pm : PropertyMeta) (key : List Value) :
    List Slot :=
  if em.isClusteredCounter then em.keySlots .compared key else em.sharedSlots pm key

/-- The text of a statement compares the columns of the slots with their values, and no others. -/
def Request.Compares (r : Request) (slots : List Slot) : Prop :=
  ∃ front, r.Fits (front ++ slots) ∧ ∀ slot ∈ front, slot.marker.place.filter? = none

/-- There is one value for each key column. -/
theorem Registry.length_of_encodedKey {em : EntityMeta} {key encoded : List Value}
    (h : encodedKey em key = .ok encoded) : encoded.length = em.idColumns.length := by
  have hmarkers := congrArg List.length (EntityMeta.markers_keySlots h .compared)
  have hvalues := congrArg List.length (EntityMeta.values_keySlots h .compared)
  simp only [List.length_map] at hmarkers hvalues
  exact hvalues.trans hmarkers

/-- On which row a statement is, is known by the encoded key. -/
theorem Request.OnRow.encodedKey_eq {r : Request} {em : EntityMeta} {key other : List Value}
    (h : r.OnRow em key) (hother : r.OnRow em other) :
    Registry.encodedKey em key = Registry.encodedKey em other := by
  obtain ⟨front, encoded, hkey, hvalues⟩ := h
  obtain ⟨front', encoded', hkey', hvalues'⟩ := hother
  have hsame := List.append_inj' (hvalues.symm.trans hvalues')
    ((Registry.length_of_encodedKey hkey).trans (Registry.length_of_encodedKey hkey').symm)
  rw [hkey, hkey', hsame.2]

/-- Values that fit slots end with what the last slots stand for. -/
theorem exists_front_of_values {values last : List Value} (front : List Slot) {slots : List Slot}
    (h : values.map Except.ok = (front ++ slots).map Slot.value)
    (hlast : last.map Except.ok = slots.map Slot.value) : ∃ first, values = first ++ last := by
  rw [List.map_append] at h
  obtain ⟨first, rest, rfl, -, hrest⟩ := List.map_eq_append_iff.1 h
  refine ⟨first, congrArg _ ?_⟩
  exact List.map_injective_iff.2 (fun _ _ h => Except.ok.inj h) (hrest.trans hlast.symm)

section

variable {em : EntityMeta} {T : EntityType E} {level : Level} {types : List (String × EntityMeta)}

/-- What the target of a counter is encoded from. -/
theorem EntityMeta.values_counterSlots {key encoded : List Value}
    (h : Registry.encodedKey em key = .ok encoded) (pm : PropertyMeta) :
    (counterTarget em pm encoded).map Except.ok = (em.counterSlots pm key).map Slot.value := by
  unfold counterTarget counterSlots
  split
  · exact values_keySlots h .compared
  · simp [sharedSlots, h, Except.map]

variable [Session σ] {s t : Site σ E} {entity : E} {properties : List PropertyMeta}
  {options : Options} {request : Request}

/-- An update is on the row of the key of the entity. -/
theorem Request.onRow_of_bindUpdate
    (h : Op.bindUpdate T em entity properties options level s = (.ok request, t)) :
    request.OnRow em (T.key entity) := by
  obtain ⟨⟨encoded, hencoded⟩, hvalues⟩ := Binding.values_of_bindUpdate h
  obtain ⟨front, hfront⟩ := exists_front_of_values (ttlSlot options ::
    T.attributeSlots .assigned (sortedByName properties) entity) hvalues
    (EntityMeta.values_keySlots hencoded .compared)
  exact ⟨front, encoded, hencoded, hfront⟩

/-- An update compares the key columns with the key of the entity. -/
theorem Request.compares_of_bindUpdate [LawfulSession σ] (hs : s.registry.Sound types)
    (hrules : em.Rules) (hsole : SoleClass types em) (hplain : em.PlainNames)
    (hproperties : ∀ pm ∈ properties, pm ∈ em.plain)
    (h : Op.bindUpdate T em entity properties options level s = (.ok request, t)) :
    request.Compares (em.keySlots .compared (T.key entity)) := by
  have hbinds := Binding.binds_of_bindUpdate hs hrules hplain hproperties h
  refine ⟨ttlSlot options :: T.attributeSlots .assigned (sortedByName properties) entity,
    hbinds.fits hsole, fun slot hslot => ?_⟩
  rcases List.mem_cons.1 hslot with rfl | hslot
  · rfl
  · obtain ⟨pm, -, rfl⟩ := List.mem_map.1 hslot
    rfl

omit [Session σ] in
/-- What binds the deltas of a counter. -/
def Call.deltaBinding (c : Call E) (pm : PropertyMeta) (key : List Value) (delta : Int) :
    Binding E :=
  if c.entityMeta.isClusteredCounter then .clusteredDelta pm key delta
  else .sharedDelta pm key delta

end

section

variable {c : Call E} {r : Registry} {pm : PropertyMeta} {key : List Value} {delta : Int}
  {request : Request} {types : List (String × EntityMeta)}

theorem Call.slots_deltaBinding (c : Call E) (pm : PropertyMeta) (key : List Value) (delta : Int)
    (T : EntityType E) : ∃ slot : Slot,
    slot.marker.place.filter? = none ∧ (c.deltaBinding pm key delta).slots T c.entityMeta =
      [slot] ++ c.entityMeta.counterSlots pm key := by
  have hplace (name : Option String) (column : String) :
      (deltaSlot name column delta).marker.place.filter? = none := by
    unfold deltaSlot
    dsimp only
    split <;> rfl
  unfold deltaBinding EntityMeta.counterSlots
  split
  · exact ⟨_, hplace _ _, rfl⟩
  · exact ⟨_, hplace _ _, rfl⟩

theorem Call.fromRegistry_deltaBinding (T : EntityType E)
    (h : c.bindDelta r pm key delta = .ok request) :
    (c.deltaBinding pm key delta).fromRegistry r T c.entityMeta
      (Levels.writeProperty c.options pm c.entityMeta) = .ok [request] := by
  unfold bindDelta at h
  unfold deltaBinding
  split
  · next hclustered =>
    rw [hclustered] at h
    exact congrArg Binding.single h
  · next hshared =>
    rw [Bool.not_eq_true _ |>.mp hshared] at h
    exact congrArg Binding.single h

/-- A delta is on the counter of the key that it is bound for. -/
theorem Request.onCounter_of_bindDelta (h : c.bindDelta r pm key delta = .ok request) :
    request.OnCounter c.entityMeta pm key := by
  obtain ⟨slot, -, hslots⟩ := c.slots_deltaBinding pm key delta c.type
  have hlawful : (c.deltaBinding pm key delta).Lawful c.type c.entityMeta := by
    unfold Call.deltaBinding
    split <;> trivial
  have hkey : (c.deltaBinding pm key delta).key c.type = key := by
    unfold Call.deltaBinding
    split <;> rfl
  obtain ⟨⟨encoded, hencoded⟩, hvalues⟩ := Binding.values_of_fromRegistry hlawful
    (Call.fromRegistry_deltaBinding c.type h) (List.mem_singleton_self request)
  rw [hkey] at hencoded
  rw [hslots] at hvalues
  obtain ⟨front, hfront⟩ :=
    exists_front_of_values [slot] hvalues (EntityMeta.values_counterSlots hencoded pm)
  exact ⟨front, encoded, hencoded, hfront⟩

/-- A delta compares the columns that say which counter is meant. -/
theorem Request.compares_of_bindDelta (hr : r.Sound types) (hrules : c.entityMeta.Rules)
    (hsole : SoleClass types c.entityMeta) (hplain : c.entityMeta.PlainNames)
    (h : c.bindDelta r pm key delta = .ok request) :
    request.Compares (c.entityMeta.counterSlots pm key) := by
  obtain ⟨slot, hplace, hslots⟩ := c.slots_deltaBinding pm key delta c.type
  have hlawful : (c.deltaBinding pm key delta).Lawful c.type c.entityMeta := by
    unfold Call.deltaBinding
    split <;> trivial
  have hbound := Call.fromRegistry_deltaBinding c.type h
  obtain ⟨⟨encoded, hencoded⟩, hvalues⟩ :=
    Binding.values_of_fromRegistry hlawful hbound (List.mem_singleton_self request)
  have hbinds : request.Binds types c.entityMeta (c.deltaBinding pm key delta)
      ((c.deltaBinding pm key delta).slots c.type c.entityMeta) :=
    ⟨hvalues, fun text htext => Binding.markersIn_of_says hrules hplain hlawful hencoded htext,
      Binding.says_of_fromRegistry hr hbound (List.mem_singleton_self request)⟩
  rw [hslots] at hbinds
  refine ⟨[slot], hbinds.fits hsole, fun other hother => ?_⟩
  rw [List.mem_singleton.1 hother]
  exact hplace

end

/-! ### Handing over -/

/-- Only writes with `W` are handed over, and nothing but these is executed or sent. -/
structure HandsOver (W : BatchKind → Request → Prop) (acts : List Act) : Prop where
  handed : ∀ kind, ∀ r ∈ pushedIn kind acts, W kind r
  executed : ∀ statement ∈ executedIn acts, ∃ kind, ∃ r ∈ pushedIn kind acts,
    r.statement = statement
  groups : groupsIn acts = []

theorem HandsOver.of_quiet {W : BatchKind → Request → Prop} {acts : List Act} (h : Quiet acts) :
    HandsOver W acts := by
  refine ⟨fun kind r hr => ?_, fun statement hstatement => ?_, h.2.1⟩
  · rw [h.1] at hr
    cases hr
  · rw [h.2.2] at hstatement
    cases hstatement

theorem HandsOver.append {W : BatchKind → Request → Prop} {acts more : List Act}
    (h : HandsOver W acts) (hmore : HandsOver W more) : HandsOver W (acts ++ more) where
  handed kind r hr := by
    rw [pushedIn_append] at hr
    rcases List.mem_append.1 hr with hr | hr
    · exact h.handed kind r hr
    · exact hmore.handed kind r hr
  executed statement hstatement := by
    rw [executedIn_append] at hstatement
    rcases List.mem_append.1 hstatement with hstatement | hstatement
    · obtain ⟨kind, r, hr, heq⟩ := h.executed statement hstatement
      exact ⟨kind, r, by simp [hr], heq⟩
    · obtain ⟨kind, r, hr, heq⟩ := hmore.executed statement hstatement
      exact ⟨kind, r, by simp [hr], heq⟩
  groups := by rw [groupsIn_append, h.groups, hmore.groups, List.append_nil]

theorem handsOver_of_pushed {W : BatchKind → Request → Prop} {kind : BatchKind} {r : Request}
    (h : W kind r) : HandsOver W [.pushed kind r] where
  handed k r' hr := by
    obtain ⟨rfl, rfl⟩ := Act.pushed.inj (List.mem_singleton.1 (mem_pushedIn.1 hr))
    exact h
  executed _ hstatement := nomatch hstatement
  groups := rfl

theorem handsOver_sending {W : BatchKind → Request → Prop} {kind : BatchKind} {r : Request}
    (h : W kind r) : HandsOver W (sending kind r) where
  handed k r' hr := by
    have hr : Act.pushed k r' = .pushed kind r := by
      simpa [sending] using mem_pushedIn.1 hr
    obtain ⟨rfl, rfl⟩ := Act.pushed.inj hr
    exact h
  executed statement hstatement := by
    rw [executedIn_sending, List.mem_singleton] at hstatement
    exact ⟨kind, r, mem_pushedIn.2 List.mem_cons_self, hstatement.symm⟩
  groups := rfl

/-- On a site with a sound registry the run leaves it sound, and hands over writes with `W`. -/
def HandsOn (types : List (String × EntityMeta)) (W : BatchKind → Request → Prop)
    (s t : Site σ E) : Prop :=
  s.registry.Sound types →
    t.registry.Sound types ∧ ∃ acts, t.trace = s.trace ++ acts ∧ HandsOver W acts

section

variable {types : List (String × EntityMeta)} {W : BatchKind → Request → Prop}

theorem HandsOn.of_registry {s t : Site σ E} {acts : List Act} (h : t.registry = s.registry)
    (htrace : t.trace = s.trace ++ acts) (hacts : HandsOver W acts) : HandsOn types W s t :=
  fun hs => ⟨h ▸ hs, acts, htrace, hacts⟩

theorem composes_handsOn : Composes (HandsOn (σ := σ) (E := E) types W) where
  refl s := .of_registry rfl (List.append_nil _).symm (.of_quiet quiet_nil)
  trans hst htu hs := by
    obtain ⟨ht, acts, htrace, hacts⟩ := hst hs
    obtain ⟨hu, more, hmore, hhands⟩ := htu ht
    exact ⟨hu, acts ++ more, by rw [hmore, htrace, List.append_assoc], hacts.append hhands⟩

theorem handsOn_trigger (T : EntityType E) (h : Handle) (event : Event) :
    Keeps (HandsOn (σ := σ) types W) (trigger T h event) := by
  intro s
  rcases trigger_cases T h event s with ⟨-, hrun⟩ | hrun | ⟨-, hrun⟩ <;> rw [hrun]
  · exact composes_handsOn.refl s
  · obtain ⟨acts, htrace, hquiet⟩ := (looksOn_fire T h event s).trace
    exact .of_registry (sameStore_fire T h event s).registry htrace (.of_quiet hquiet)
  · exact .of_registry rfl (List.append_nil _).symm (.of_quiet quiet_nil)

variable [Session σ]

theorem handsOn_handOver {kind : BatchKind} {r : Request} (h : W kind r) :
    Keeps (HandsOn (σ := σ) (E := E) types W) (handOver kind r) := by
  intro s
  rcases handOver_cases kind r s with ⟨-, hrun⟩ | ⟨-, hrun⟩ <;> rw [hrun]
  · exact .of_registry rfl rfl (handsOver_sending h)
  · exact .of_registry rfl rfl (handsOver_of_pushed h)

theorem writes_handsOn : UpholdsWrites (fun s : Site σ E => s.registry.Sound types)
    (HandsOn types W) W where
  toComposes := composes_handsOn
  assuming himp hs := himp hs hs
  push := handsOn_handOver
  pushCounter := handsOn_handOver
  modifyCell _ _ _ _ _ _ := .of_registry rfl (List.append_nil _).symm (.of_quiet quiet_nil)

theorem handsOn_bindUpdate [LawfulSession σ] {name : String} {em : EntityMeta}
    (hmem : (name, em) ∈ types) (T : EntityType E) (entity : E) (properties : List PropertyMeta)
    (options : Options) (level : Level) :
    Keeps (HandsOn (σ := σ) types W) (Op.bindUpdate T em entity properties options level) := by
  intro s hs
  obtain ⟨texts, htrace, -⟩ := (prepares_bindUpdate T em entity properties options level s).asked
  exact ⟨keepsSound_bindUpdate hmem T entity properties options level s hs, _, htrace,
    .of_quiet (quiet_map_prepared texts)⟩

end

/-! ### Updates -/

/-- The entity that is left to work on after an event: interceptors run at once, unless they are put
off. -/
def EntityType.after (T : EntityType E) (event : Event) (mode : OutboxMode) (entity : E) : E :=
  match mode with
  | .immediate => (T.intercept entity event).2.1
  | .batching => entity

/-- An event other than loading leaves this entity in its cell. -/
theorem Op.cell?_of_trigger [Session σ] {T : EntityType E} {h : Handle} {event : Event}
    (hload : event ≠ .postLoad) {s t : Site σ E} {cell : Cell E} {u : Unit}
    (hcell : s.workspace.cell? h = some cell) (htrigger : trigger T h event s = (.ok u, t)) :
    t.workspace.cell? h = some { cell with entity := T.after event s.outbox.mode cell.entity } := by
  cases hmode : s.outbox.mode with
  | immediate =>
    have hsteps := (trigger_spec (T := T) event hcell hmode).2
    rw [htrigger] at hsteps
    exact hsteps.cell
  | batching =>
    have hdefers := trigger_deferring (T := T) h hload hmode
    rw [htrigger] at hdefers
    obtain ⟨-, rfl⟩ := Prod.mk.inj hdefers
    exact hcell

/-- The entity whose changed properties are written: interceptors run before, unless they are put
off. -/
def EntityType.written (T : EntityType E) (mode : OutboxMode) (entity : E) : E :=
  match mode with
  | .immediate => (T.intercept entity .preUpdate).2.1
  | .batching => entity

/-- What an update hands over, whether it is executed at once or in a window. -/
theorem Call.handsOn_update [Session σ] [LawfulSession σ] {c : Call E} {name : String}
    {types : List (String × EntityMeta)} {W : BatchKind → Request → Prop} {p : Proxy}
    {s : Site σ E} {cell : Cell E}
    (hmem : (name, c.entityMeta) ∈ types) (hcell : s.workspace.cell? p.handle = some cell)
    (hrow : ∀ t u : Site σ E, ∀ request, t.registry.Sound types →
      Op.bindUpdate c.type c.entityMeta (c.type.written s.outbox.mode cell.entity)
        (cell.dirty.properties.filter fun pm => !pm.isCounter) c.options
        (Levels.write c.options c.entityMeta) t = (.ok request, u) → W .logged request)
    (hdelta : ∀ r pm delta request, Registry.Sound r types → pm ∈ c.entityMeta.counters →
      c.bindDelta r pm p.key delta = .ok request → W .counter request) :
    HandsOn types W s (c.update p s).2 := by
  have hR : Composes (HandsOn (σ := σ) (E := E) types W) := composes_handsOn
  refine hR.bind_at (handsOn_trigger _ _ _ s) fun _ t htrigger => ?_
  -- The interceptors changed the entity of the cell, or were put off.
  have hcell' : t.workspace.cell? p.handle =
      some { cell with entity := c.type.written s.outbox.mode cell.entity } :=
    cell?_of_trigger (by decide) hcell htrigger
  refine hR.bind_at ?_ fun _ u _ => hR.bind ?_ (fun _ => hR.bind (handsOn_trigger _ _ _)
    fun _ _ => .of_registry rfl (List.append_nil _).symm (.of_quiet quiet_nil)) u
  · refine writes_handsOn.assuming fun ht => c.upholds_writeDirty_at writes_handsOn ?_ ?_
    · intro u found request hfound _ hbind
      obtain rfl := Option.some.inj (hcell'.symm.trans hfound)
      exact hrow t u request ht hbind
    · exact fun entity properties => handsOn_bindUpdate hmem _ _ _ _ _ t
  · exact c.upholds_writeCounters_of_key writes_handsOn
      (fun s pm delta request hs => hdelta s.registry pm delta request hs) p.handle

/-! ### The contract -/

/-- The interceptors that run before an update keep the key. -/
def EntityType.KeepsKey (T : EntityType E) : Prop :=
  ∀ entity, T.key (T.intercept entity .preUpdate).2.1 = T.key entity

/-- The texts that are bound are those of the class: no other registered type has its name, its
names are plain, and what changed are plain properties of it. -/
structure Known (types : List (String × EntityMeta)) (em : EntityMeta) (dirty : DirtySet) :
    Prop where
  sole : SoleClass types em
  names : em.PlainNames
  dirty : ∀ pm ∈ dirty.properties, pm ∈ em.plain

/-- A regular write is on the row of one key, a counter write on a counter of another. -/
def Addressed (em : EntityMeta) (known : Prop) (row key : List Value) :
    BatchKind → Request → Prop
  | .logged, r => r.OnRow em row ∧ (known → r.Compares (em.keySlots .compared row))
  | .counter, r => ∃ pm ∈ em.counters, r.OnCounter em pm key ∧
      (known → r.Compares (em.counterSlots pm key))

/-- What an update does that writes the changed properties to the row of a key. -/
structure AddressedUpdate (types : List (String × EntityMeta)) (em : EntityMeta) (p : Proxy)
    (dirty : DirtySet) (row : List Value) (acts : List Act) : Prop where
  /-- The changed properties are written to that row, the deltas to the counters of the key that
  the proxy is bound to; nothing else is executed, and no group is sent. -/
  hands : HandsOver (Addressed em (Known types em dirty) row p.key) acts
  /-- All of it is on the row that the proxy is bound to, if and only if no property is written or
  the two keys are the same, as they are sent. -/
  own : (∀ r ∈ pushedIn .logged acts, r.OnRow em p.key) ↔
    pushedIn .logged acts = [] ∨ Registry.encodedKey em row = Registry.encodedKey em p.key

theorem HandsOver.addressedUpdate {types : List (String × EntityMeta)} {em : EntityMeta}
    {p : Proxy} {dirty : DirtySet} {row : List Value} {acts : List Act}
    (h : HandsOver (Addressed em (Known types em dirty) row p.key) acts) :
    AddressedUpdate types em p dirty row acts := by
  have hrow {r : Request} (hr : r ∈ pushedIn .logged acts) : r.OnRow em row :=
    (h.handed .logged r hr).1
  refine ⟨h, fun hown => ?_, fun hsame r hr => ?_⟩
  · rcases List.eq_nil_or_concat (pushedIn .logged acts) with hnone | ⟨_, r, hlast⟩
    · exact .inl hnone
    · have hr : r ∈ pushedIn .logged acts := by simp [hlast]
      exact .inr ((hrow hr).encodedKey_eq (hown r hr))
  · rcases hsame with hnone | hsame
    · rw [hnone] at hr
      cases hr
    · obtain ⟨front, encoded, hencoded, hvalues⟩ := hrow hr
      exact ⟨front, encoded, hsame ▸ hencoded, hvalues⟩

/-- What a call hands over for an update, with the entity that it writes. -/
theorem Call.addressed_update [Session σ] [LawfulSession σ] {c : Call E} {p : Proxy}
    {s : Site σ E} {cell : Cell E} (hs : s.Sound)
    (hmem : s.types.lookup c.type.typeName = some c.entityMeta)
    (hcell : s.workspace.cell? p.handle = some cell) :
    ∃ acts, (c.update p s).2.trace = s.trace ++ acts ∧
      AddressedUpdate s.types c.entityMeta p cell.dirty
        (c.type.key (c.type.written s.outbox.mode cell.entity)) acts := by
  have hrules := (hs.built (mem_of_lookup hmem)).rules
  obtain ⟨-, acts, htrace, hacts⟩ := Call.handsOn_update (c := c) (mem_of_lookup hmem) hcell
    (W := Addressed c.entityMeta (Known s.types c.entityMeta cell.dirty)
      (c.type.key (c.type.written s.outbox.mode cell.entity)) p.key)
    (fun t u request ht hbind => by
      refine ⟨Request.onRow_of_bindUpdate hbind, fun hknown => ?_⟩
      exact Request.compares_of_bindUpdate ht hrules hknown.sole hknown.names
        (fun pm hpm => hknown.dirty pm (List.mem_filter.1 hpm).1) hbind)
    (fun r pm delta request hr hpm hbind => by
      refine ⟨pm, hpm, Request.onCounter_of_bindDelta hbind, fun hknown => ?_⟩
      exact Request.compares_of_bindDelta hr hrules hknown.sole hknown.names hbind)
    hs.registry
  exact ⟨acts, htrace, hacts.addressedUpdate⟩

/-- The rows that an update of a proxy writes. -/
structure AddressContract [Session σ] (b : Batching σ E) (T : EntityType E) (em : EntityMeta)
    (p : Proxy) (cell : Cell E) (options : Options) : Prop where
  /-- At once the changed properties go to the row of the key that the interceptors left. -/
  atOnce : ∃ acts, (Manager.update T p options b.site).2.trace = b.site.trace ++ acts ∧
    AddressedUpdate b.site.types em p cell.dirty (T.key (T.intercept cell.entity .preUpdate).2.1)
      acts
  /-- In a window they go to the row of the key that the entity has, whatever the interceptors do
  later. What is pending afterwards was pending before, or is part of the update. -/
  inWindow (now : Int) : ∃ acts,
    (Batching.update now T p options b).2.site.trace = b.site.trace ++ acts ∧
      AddressedUpdate b.site.types em p cell.dirty (T.key cell.entity) acts ∧
      ∀ kind, ∀ r ∈ (Batching.update now T p options b).2.site.outbox.pending kind,
        r ∈ b.site.outbox.pending kind ∨ r ∈ pushedIn kind acts
  /-- Both keys are the one that the proxy is bound to, if it was so before any calls on the proxy,
  the closures of the calls changed no more than what they were called for, and the interceptors
  keep the key. -/
  kept {start : Cell E} {w : Workspace E} {reports : List Report} {stage : Stage E} :
    T.Faithful → T.KeepsKey → w.cell? p.handle = some start → T.key start.entity = p.key →
      ProxySteps T p ⟨w, .none⟩ reports stage → b.site.workspace = stage.settled T p →
        T.key cell.entity = p.key ∧ T.key (T.intercept cell.entity .preUpdate).2.1 = p.key

section

variable [Session σ] [LawfulSession σ] {b : Batching σ E} (hb : Reachable b) {T : EntityType E}
  {em : EntityMeta} (hem : b.site.types.lookup T.typeName = some em) {p : Proxy} {cell : Cell E}
  (hcell : b.site.workspace.cell? p.handle = some cell)
include hb hem hcell

theorem Reachable.addressed_update (options : Options) : ∃ acts,
    (Manager.update T p options b.site).2.trace = b.site.trace ++ acts ∧
      AddressedUpdate b.site.types em p cell.dirty
        (T.key (T.intercept cell.entity .preUpdate).2.1) acts := by
  have hsound : (Manager.atOnce b.site).Sound := hb.sound.congr rfl rfl rfl
  rw [Manager.update_apply hem]
  exact Call.addressed_update (c := Manager.callOf T em options) hsound hem hcell

theorem Reachable.addressed_updateIn (options : Options) : ∃ acts,
    (Manager.updateIn T p options b.site).2.trace = b.site.trace ++ acts ∧
      AddressedUpdate b.site.types em p cell.dirty (T.key cell.entity) acts := by
  rcases Manager.updateIn_cases T p options b.site with ⟨e, hrun⟩ | ⟨c, hc, hrun⟩
  · rw [hrun]
    exact ⟨[], by simp, HandsOver.addressedUpdate (.of_quiet quiet_nil)⟩
  · obtain rfl := hc.type_eq
    obtain rfl : em = c.entityMeta := Option.some.inj (hem.symm.trans hc.lookup_eq)
    rw [hrun]
    have hupdate := Call.addressed_update (c := c) hb.sound hem hcell
    rw [hb.isWindow.mode] at hupdate
    exact hupdate

theorem Reachable.addressed_window (options : Options) (now : Int) : ∃ acts,
    (Batching.update now T p options b).2.site.trace = b.site.trace ++ acts ∧
      AddressedUpdate b.site.types em p cell.dirty (T.key cell.entity) acts ∧
      ∀ kind, ∀ r ∈ (Batching.update now T p options b).2.site.outbox.pending kind,
        r ∈ b.site.outbox.pending kind ∨ r ∈ pushedIn kind acts := by
  unfold Batching.update
  cases hlevel : options.hasLevel with
  | true =>
    -- The window is given up, and nothing is written.
    rw [Batching.site_of_level hlevel]
    refine ⟨[], by simp, HandsOver.addressedUpdate (.of_quiet quiet_nil), fun kind r hr => ?_⟩
    cases kind <;> cases hr
  | false =>
    obtain ⟨options', last, hrun⟩ :=
      Batching.unleveled_bind_apply hlevel now (fun o => Manager.updateIn T p o) b
    rw [hrun]
    obtain ⟨acts, htrace, haddressed⟩ := hb.addressed_updateIn hem hcell options'
    obtain ⟨acts', hcollects⟩ := collects_updateIn T options' hb.isWindow.mode
      hb.sound.registry.selects p
    obtain rfl := List.append_cancel_left (htrace.symm.trans hcollects.trace)
    refine ⟨acts, htrace, haddressed, fun kind r hr => ?_⟩
    have hr : r ∈ (Manager.updateIn T p options' b.site).2.outbox.pending kind := hr
    rw [hcollects.pending] at hr
    exact List.mem_append.1 hr

/-- In every reachable state, and whatever was done to the entity of a proxy, an update writes the
counters of the key that the proxy is bound to, and the changed properties of the row whose key the
entity has by then. -/
theorem address_contract (options : Options) : AddressContract b T em p cell options := by
  refine ⟨hb.addressed_update hem hcell options, hb.addressed_window hem hcell options, ?_⟩
  intro start w reports stage hfaithful hkeeps hstart hkey hsteps hworkspace
  obtain ⟨found, hfound, htracks⟩ :=
    (hsteps.tracks hfaithful ⟨start, hstart, Tracks.refl⟩).settled hfaithful
  rw [← hworkspace, hcell] at hfound
  obtain rfl := Option.some.inj hfound
  have hsame : T.key cell.entity = p.key := htracks.key.trans hkey
  exact ⟨hsame, (hkeeps cell.entity).trans hsame⟩

end

/-! ### Pages -/

namespace Page

/-- The update of a page without interceptors is on its own row. -/
theorem address_contract_edited : ∃ cell,
    edited.site.workspace.cell? first.handle = some cell ∧
      AddressContract edited plain (entityMeta "pages") first cell .none ∧
      plain.key (plain.intercept cell.entity .preUpdate).2.1 = first.key := by
  have hcell : (edited.site.workspace.cell? first.handle).map
      (fun cell => plain.key (plain.intercept cell.entity .preUpdate).2.1) = some first.key := rfl
  obtain ⟨cell, hc, hkey⟩ := Option.map_eq_some_iff.1 hcell
  exact ⟨cell, hc, address_contract reachable_edited (by decide +kernel) hc .none, hkey⟩

/-- An interceptor that moves every page to the second one before an update. -/
def mover : Interceptor Page :=
  ⟨"mover", "site.Page", [.preUpdate], fun page _ => ({ page with id := .bigint 2 }, none)⟩

/-- Pages that are moved. -/
def moved : EntityType Page := type "site.Page" "pages" [mover]

/-- A page with a new title and a queued delta, that will be moved. -/
def moving : Batching Script Page :=
  visited (titled (opened (manager .empty [moved]) moved first) moved first "Start") moved first 2

theorem reachable_moving : Reachable moving := by
  have hb : Reachable (manager .empty [moved]) := reachable_manager_type _ _ _ _
  exact reachable_visited (reachable_titled (reachable_opened hb moved first) _ _ _) _ _ _

/-- Not every update of an entity with the key of its proxy is on the row of the proxy. -/
theorem not_onRow_of_moved :
    ¬ ∀ (b : Batching Script Page) (T : EntityType Page) (em : EntityMeta) (p : Proxy)
      (cell : Cell Page) (options : Options) (acts : List Act),
      Reachable b → b.site.types.lookup T.typeName = some em →
      b.site.workspace.cell? p.handle = some cell → T.key cell.entity = p.key →
      (Manager.update T p options b.site).2.trace = b.site.trace ++ acts →
      ∀ r ∈ pushedIn .logged acts, r.OnRow em p.key := by
  intro h
  have hcell : (moving.site.workspace.cell? first.handle).map (fun cell => moved.key cell.entity) =
      some first.key := rfl
  obtain ⟨cell, hc, hkey⟩ := Option.map_eq_some_iff.1 hcell
  have hem : moving.site.types.lookup moved.typeName = some (entityMeta "pages") := by
    decide +kernel
  obtain ⟨acts, htrace, -⟩ := reachable_moving.addressed_update hem hc .none
  have hvalues : (pushedIn .logged ((Manager.update moved first .none moving.site).2.trace.drop
      moving.site.trace.length)).map (fun r => r.values.map Value.int?) =
        [[some 0, none, some 2]] := by decide +kernel
  rw [acts_eq htrace] at hvalues
  obtain ⟨r, hpushed, hr⟩ := List.map_eq_singleton_iff.1 hvalues
  obtain ⟨front, encoded, hencoded, heq⟩ := h moving moved _ first cell .none acts reachable_moving
    hem hc hkey htrace r (by simp [hpushed])
  obtain rfl : [.bigint 1] = encoded := Except.ok.inj hencoded
  rw [heq, List.map_append] at hr
  have hsplit : front.map Value.int? ++ [some 1] = [some 0, none] ++ [some 2] := hr
  have hlast : [some (1 : Int64)] = [some 2] := (List.append_inj' hsplit rfl).2
  cases hlast

end Page

end WideColumn
