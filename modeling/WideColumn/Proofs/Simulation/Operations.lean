import WideColumn.Proofs.Simulation.Alike

/-!
# Writes on alike sites

The writes of entities agree: at once and inside a window they give the same outcome, hand over the
same texts and values, and leave the same behind. A call may have other options on the second site,
as long as the time to live is the same; a delete by key does not use it.
-/

namespace WideColumn

open Op

variable {σ E : Type}

/-- Draining counters takes the same deltas off entities with the same mapped data. -/
theorem SameMapped.drainCounters {types : List (EntityType E)} (hcounters : MappedCounters types)
    {T : EntityType E} (hT : T ∈ types) (properties : List PropertyMeta) {e e' : E}
    (he : SameMapped types e e') :
    (Call.drainCounters T properties e').1 = (Call.drainCounters T properties e).1 ∧
      SameMapped types (Call.drainCounters T properties e).2
        (Call.drainCounters T properties e').2 := by
  induction properties generalizing e e' with
  | nil => exact ⟨rfl, he⟩
  | cons pm rest ih =>
    have hcounter := (he T hT).2.2 pm.name
    unfold Call.drainCounters Call.drainCounter
    rw [hcounter]
    cases T.counter? e pm.name with
    | none => exact ih he
    | some counter =>
      obtain ⟨hdrained, hrest⟩ :=
        ih (hcounters T hT e e' pm.name counter.takePending.2 he)
      exact ⟨congrArg ((pm, counter.takePending.1) :: ·) hdrained, hrest⟩

/-- The call with other options. -/
def Call.withOptions (c : Call E) (options proxyOptions : Options) : Call E :=
  { c with options, proxyOptions }

variable [Session σ] {types : List (EntityType E)} {start : List Act} {n : Nat}

namespace Call

variable (c : Call E) (options proxyOptions : Options)

theorem payload_bindDelta {r r' : Registry} (h : Registry.SameTexts r r') (pm : PropertyMeta)
    (key : List Value) (delta : Int) :
    ((c.withOptions options proxyOptions).bindDelta r' pm key delta).map Request.payload =
      (c.bindDelta r pm key delta).map Request.payload := by
  unfold bindDelta
  show Except.map _ (if c.entityMeta.isClusteredCounter then _ else _) =
    Except.map _ (if c.entityMeta.isClusteredCounter then _ else _)
  split
  · exact h.payload_bindClusteredDelta
  · exact h.payload_bindSharedDelta

theorem agree_sendDelta (key : List Value) (pm : PropertyMeta) (delta : Int) :
    Agree (σ := σ) types start n Anything (c.sendDelta key pm delta)
      ((c.withOptions options proxyOptions).sendDelta key pm delta) :=
  .get_bind fun _ _ halike => .bind
    (.lift (.of_map_eq (c.payload_bindDelta options proxyOptions halike.registry pm key delta)))
    fun _ _ hr => .andThen (.handOver .counter hr) fun _ _ => .pure trivial

section

variable (hcounters : MappedCounters types) (hmem : c.type ∈ types)
include hcounters hmem

theorem agree_writeCounters (h : Handle) (key : List Value) :
    Agree (σ := σ) types start n Anything (c.writeCounters h key)
      ((c.withOptions options proxyOptions).writeCounters h key) := by
  refine .bind (.cell h) fun cell cell' hcell => ?_
  obtain ⟨hdrained, hentity⟩ := hcell.entity.drainCounters hcounters hmem c.entityMeta.counters
  refine .andThen (.modifyCell h fun _ _ hsame => ⟨hentity, hsame.dirty, hsame.loaded⟩) fun _ _ => ?_
  show Agree _ _ _ _ (c.sendDeltas key (drainCounters c.type c.entityMeta.counters cell.entity).1)
    ((c.withOptions options proxyOptions).sendDeltas key
      (drainCounters c.type c.entityMeta.counters cell'.entity).1)
  rw [hdrained]
  exact .forM fun _ _ => .forM fun delta _ => c.agree_sendDelta options proxyOptions key _ delta

variable (hharmless : Harmless types)
include hharmless

theorem agree_persist (httl : options.ttl = c.options.ttl) (entity : E) :
    Agree (σ := σ) types start n (fun p p' => p' = p) (c.persist entity)
      ((c.withOptions options proxyOptions).persist entity) := by
  refine .addEntity_bind (.refl entity) fun h _ => ?_
  have hlt := Nat.lt_succ_self h.index
  have rest {key key' : List Value} (hkey : key' = key) :
      Agree (σ := σ) types start (h.index + 1) (fun p p' => p' = p) (do
        c.writeCounters h key
        Op.trigger c.type h .postPersist
        c.manage h key (c.entityMeta.properties.map fun pm => pm.name)) (do
        (c.withOptions options proxyOptions).writeCounters h key'
        Op.trigger c.type h .postPersist
        (c.withOptions options proxyOptions).manage h key'
          (c.entityMeta.properties.map fun pm => pm.name)) := by
    rw [hkey]
    exact .andThen (c.agree_writeCounters options proxyOptions hcounters hmem h key) fun _ _ =>
      .andThen (.trigger hharmless hmem hlt (by decide)) fun _ _ =>
        .andThen (.modifyCell h fun _ _ hsame => ⟨hsame.entity, hsame.dirty, rfl⟩) fun _ _ =>
          .pure rfl
  refine .andThen (.trigger hharmless hmem hlt (by decide)) fun _ _ => ?_
  refine .bind (.cell h) fun cell cell' hcell => ?_
  have hkey : c.type.key cell'.entity = c.type.key cell.entity := (hcell.entity c.type hmem).2.1
  dsimp only
  show Agree _ _ _ _ (if !c.entityMeta.isClusteredCounter then _ else _)
    (if !c.entityMeta.isClusteredCounter then _ else _)
  split
  · refine .bind (.cell h) fun cell₂ cell₂' hcell₂ => .get_bind fun s t halike => ?_
    obtain ⟨hvalues, hkey₂, -⟩ := hcell₂.entity c.type hmem
    refine .bind (.lift (.of_map_eq (halike.registry.payload_bindInsert hkey₂ hvalues httl)))
      fun _ _ hr => .andThen (.handOver .logged hr) fun _ _ => rest hkey
  · exact rest hkey

omit hcounters hharmless in
/-- The changed properties of a proxy are written, and its record of changes is given up. -/
theorem agree_writeDirty [LawfulSession σ] (httl : options.ttl = c.options.ttl) (p : Proxy) :
    Agree (σ := σ) types start n Anything (c.writeDirty p)
      ((c.withOptions options proxyOptions).writeDirty p) := by
  refine .bind (.cell p.handle) fun cell cell' hcell => ?_
  dsimp only
  rw [hcell.dirty]
  split
  · exact .bind (.bindUpdate hmem c.entityMeta hcell.entity _ httl _ _) fun _ _ hr =>
      .andThen (.handOver .logged hr) fun _ _ =>
        .modifyCell p.handle fun _ _ hsame => ⟨hsame.entity, rfl, hsame.loaded⟩
  · exact .pure trivial

theorem agree_update [LawfulSession σ] (httl : options.ttl = c.options.ttl) {p : Proxy}
    (hp : p.handle.index < n) :
    Agree (σ := σ) types start n Anything (c.update p)
      ((c.withOptions options proxyOptions).update p) :=
  .andThen (.trigger hharmless hmem hp (by decide)) fun _ _ =>
    .andThen (c.agree_writeDirty options proxyOptions hmem httl p) fun _ _ =>
      .andThen (c.agree_writeCounters options proxyOptions hcounters hmem p.handle p.key) fun _ _ =>
        .andThen (.trigger hharmless hmem hp (by decide)) fun _ _ =>
          .modifyCell p.handle fun _ _ hsame => ⟨hsame.entity, hsame.dirty, hsame.loaded⟩

end

theorem agree_removeByKey (key : List Value) :
    Agree (σ := σ) types start n Anything (c.removeByKey key)
      ((c.withOptions options proxyOptions).removeByKey key) := by
  unfold removeByKey
  dsimp only
  show Agree _ _ _ _ (if c.entityMeta.isClusteredCounter then _ else _)
    (if c.entityMeta.isClusteredCounter then _ else _)
  split
  · exact .get_bind fun _ _ halike =>
      .bind (.lift (.of_map_eq halike.registry.payload_bindClustered)) fun _ _ hr =>
        .andThen (.handOver .counter hr) fun _ _ => .pure trivial
  · refine .get_bind fun _ _ halike =>
      .bind (.lift (.of_map_eq halike.registry.payload_bindRemoval)) fun _ _ hrequests => ?_
    refine .andThen (.forM_of_map_eq hrequests fun _ _ hr =>
      .andThen (.handOver .logged hr) fun _ _ => .pure trivial) fun _ _ => ?_
    exact .forM fun pm _ => .get_bind fun _ _ halike =>
      .bind (.lift (.of_map_eq halike.registry.payload_bindShared)) fun _ _ hr =>
        .andThen (.handOver .counter hr) fun _ _ => .pure trivial

/-- An entity is removed under a handle of its own. -/
theorem agree_remove (hharmless : Harmless types) (hmem : c.type ∈ types) {e e' : E}
    (he : SameMapped types e e') :
    Agree (σ := σ) types start n Anything (c.remove e)
      ((c.withOptions options proxyOptions).remove e') := by
  refine .addEntity_bind he fun h _ => ?_
  have hlt := Nat.lt_succ_self h.index
  refine .andThen (.trigger hharmless hmem hlt (by decide)) fun _ _ =>
    .bind (.cell h) fun cell cell' hcell => ?_
  have hkey : c.type.key cell'.entity = c.type.key cell.entity := (hcell.entity c.type hmem).2.1
  have rest {key key' : List Value} (hkey : key' = key) :
      Agree (σ := σ) types start (h.index + 1) Anything (do
        c.removeByKey key
        Op.trigger c.type h .postRemove) (do
        (c.withOptions options proxyOptions).removeByKey key'
        Op.trigger c.type h .postRemove) := by
    rw [hkey]
    exact .andThen (c.agree_removeByKey options proxyOptions key) fun _ _ =>
      .trigger hharmless hmem hlt (by decide)
  exact rest hkey

end Call

/-! ### Operations of the manager -/

namespace Manager

theorem agree_entityMeta (T : EntityType E) :
    Agree (σ := σ) types start n (fun em em' => em' = em) (entityMeta T) (entityMeta T) := by
  intro s t halike
  have htypes := halike.types_eq
  cases hem : s.types.lookup T.typeName with
  | none =>
    exact .of_eq (entityMeta_of_no_lookup hem) (entityMeta_of_no_lookup (by rw [htypes, hem]))
      (.error _) halike
  | some em =>
    exact .of_eq (entityMeta_of_lookup hem) (entityMeta_of_lookup (by rw [htypes, hem]))
      (.ok rfl) halike

/-- The calls that are made on alike sites, with options that may differ. -/
structure SameCall (T : EntityType E) (options options' : Options) (c c' : Call E) : Prop where
  type_eq : c.type = T
  ttl_eq : c.options.ttl = options.ttl
  other : ∃ effective proxyOptions, effective.ttl = options'.ttl ∧
    c' = c.withOptions effective proxyOptions

/-- In a window a call gets the level of the window, unless it has one. -/
theorem agree_call (T : EntityType E) {options options' : Options}
    (hlevel : options'.hasLevel = false) :
    Agree (σ := σ) types start n (SameCall T options options') (call T options)
      (call T options') := by
  intro s t halike
  have htypes := halike.types_eq
  have hwindow : Levels.applyWindow options s.outbox.batchLevel = .ok options := by
    unfold Outbox.batchLevel Outbox.isBatching
    rw [halike.immediate]
    rfl
  have hwindow' : Levels.applyWindow options' t.outbox.batchLevel =
      .ok (options'.withLevel t.outbox.level) := by
    unfold Outbox.batchLevel Outbox.isBatching Levels.applyWindow
    rw [halike.batching]
    show (if options'.hasLevel then _ else _) = _
    rw [hlevel]
    rfl
  cases hem : s.types.lookup T.typeName with
  | none =>
    exact .of_eq (call_of_no_lookup hem) (call_of_no_lookup (by rw [htypes, hem])) (.error _) halike
  | some em =>
    exact .of_eq (call_of_lookup hem hwindow) (call_of_lookup (by rw [htypes, hem]) hwindow')
      (.ok ⟨rfl, rfl, options'.withLevel t.outbox.level, options', rfl, rfl⟩) halike

section

variable (hcounters : MappedCounters types) (hharmless : Harmless types) {T : EntityType E}
  (hT : T ∈ types) {options options' : Options} (hlevel : options'.hasLevel = false)

include hlevel in
theorem agree_removeByIdIn (key : List Value) :
    Agree (σ := σ) types start n Anything (removeByIdIn T key options)
      (removeByIdIn T key options') := by
  refine .bind (agree_call T hlevel) fun c c' hc => ?_
  obtain ⟨effective, proxyOptions, -, rfl⟩ := hc.other
  exact c.agree_removeByKey effective proxyOptions key

include hharmless hT hlevel

theorem agree_removeIn (entity : Tracked E) :
    Agree (σ := σ) types start n Anything (removeIn T entity options)
      (removeIn T entity options') := by
  refine .bind (agree_call T hlevel) fun c c' hc => ?_
  obtain ⟨effective, proxyOptions, -, rfl⟩ := hc.other
  have hmem : c.type ∈ types := hc.type_eq ▸ hT
  cases entity with
  | bare e => exact c.agree_remove effective proxyOptions hharmless hmem (.refl e)
  | proxy p =>
    exact .bind (.cell p.handle) fun _ _ hcell =>
      c.agree_remove effective proxyOptions hharmless hmem hcell.entity

include hcounters

variable (httl : options'.ttl = options.ttl)
include httl

theorem agree_persistIn (entity : Tracked E) :
    Agree (σ := σ) types start n (fun p p' => p' = p) (persistIn T entity options)
      (persistIn T entity options') := by
  refine .bind (agree_entityMeta T) fun em em' hem => ?_
  rw [hem]
  cases entity with
  | proxy p => exact .throw _
  | bare e =>
    have hcheck : checkCounterRow T em e options' = checkCounterRow T em e options := by
      unfold checkCounterRow
      rw [httl]
    dsimp only
    rw [hcheck]
    refine .bind (.lift (.refl _)) fun _ _ _ => .bind (.lift (.refl _)) fun _ _ _ => ?_
    refine .bind (agree_call T hlevel) fun c c' hc => ?_
    obtain ⟨effective, proxyOptions, hsame, rfl⟩ := hc.other
    exact c.agree_persist effective proxyOptions hcounters (hc.type_eq ▸ hT) hharmless
      (hsame.trans (httl.trans hc.ttl_eq.symm)) e

theorem agree_updateIn [LawfulSession σ] {p : Proxy} (hp : p.handle.index < n) :
    Agree (σ := σ) types start n Anything (updateIn T p options) (updateIn T p options') := by
  refine .bind (agree_call T hlevel) fun c c' hc => ?_
  obtain ⟨effective, proxyOptions, hsame, rfl⟩ := hc.other
  exact c.agree_update effective proxyOptions hcounters (hc.type_eq ▸ hT) hharmless
    (hsame.trans (httl.trans hc.ttl_eq.symm)) hp

end

end Manager

end WideColumn
