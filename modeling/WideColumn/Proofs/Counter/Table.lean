import WideColumn.Proofs.Edit.Records
import WideColumn.Proofs.Meta.Row
import WideColumn.Proofs.Registry.Texts
import WideColumn.Proofs.Window.History

/-!
# Counter tables

The row of a class of counters is written by increments, decrements and deletes of the whole row
alone. The checks of its declaration leave no plain property, and a proxy marks neither keys nor
counters, so nothing is ever recorded as changed on its entities (`Ran.changed_eq_nil`): no update is
bound, and each operation takes the way of the counters. Main statement: `counterTable_contract`.
-/

namespace WideColumn

open Op

variable {σ E : Type}

/-! ### Texts -/

/-- The texts that write a counter table: an increment or decrement of one of its counters, or the
delete of a row. -/
inductive Template.CounterWrite (em : EntityMeta) : String → Prop
  | incr {pm : PropertyMeta} : pm ∈ em.counters → CounterWrite em
      s!"UPDATE {em.tableName} SET {pm.name}={pm.name}+:{pm.name} WHERE {keyCondition em};"
  | decr {pm : PropertyMeta} : pm ∈ em.counters → CounterWrite em
      s!"UPDATE {em.tableName} SET {pm.name}={pm.name}-:{pm.name} WHERE {keyCondition em};"
  | delete : CounterWrite em s!"DELETE FROM {em.tableName} WHERE {keyCondition em};"

/-- The text writes to the table. -/
def Template.WritesTo (table text : String) : Prop :=
  ∃ rest, text = "UPDATE " ++ table ++ " " ++ rest ∨ text = "DELETE FROM " ++ table ++ " " ++ rest

namespace Template

variable {em : EntityMeta} {text : String}

/-- What the templates of a counter table give, besides reads. -/
theorem counterWrite_of_mem {action : CounterAction} {name : String}
    (h : ((action, name), text) ∈ clusteredCounters em) (haction : action ≠ .select) :
    CounterWrite em text := by
  simp only [clusteredCounters, clusteredCounter, List.mem_append, List.mem_flatMap,
    List.mem_cons, List.not_mem_nil, or_false, Prod.mk.injEq] at h
  rcases h with ⟨pm, hpm, ⟨-, rfl⟩ | ⟨-, rfl⟩ | ⟨⟨rfl, -⟩, -⟩⟩ | ⟨⟨rfl, -⟩, -⟩ | ⟨-, rfl⟩
  · exact .incr hpm
  · exact .decr hpm
  · exact absurd rfl haction
  · exact absurd rfl haction
  · exact .delete

/-- The text up to the table, and its end. -/
theorem CounterWrite.shape (h : CounterWrite em text) : ∃ middle,
    text = "UPDATE " ++ em.tableName ++ " " ++ ("SET " ++ middle) ++ ";" ∨
      text = "DELETE FROM " ++ em.tableName ++ " " ++ middle ++ ";" := by
  have hset : " SET " = " " ++ "SET " := by decide
  have hwhere : " WHERE " = " " ++ "WHERE " := by decide
  cases h with
  | @incr pm _ =>
    refine ⟨s!"{pm.name}={pm.name}+:{pm.name} WHERE {keyCondition em}", .inl ?_⟩
    simp only [toString, hset, String.append_assoc]
  | @decr pm _ =>
    refine ⟨s!"{pm.name}={pm.name}-:{pm.name} WHERE {keyCondition em}", .inl ?_⟩
    simp only [toString, hset, String.append_assoc]
  | delete =>
    refine ⟨s!"WHERE {keyCondition em}", .inr ?_⟩
    simp only [toString, hwhere, String.append_assoc]

theorem CounterWrite.writesTo (h : CounterWrite em text) : WritesTo em.tableName text := by
  obtain ⟨middle, h | h⟩ := h.shape
  · exact ⟨"SET " ++ middle ++ ";", .inl (by rw [h]; simp only [String.append_assoc])⟩
  · exact ⟨middle ++ ";", .inr (by rw [h]; simp only [String.append_assoc])⟩

/-- No statement of the shared counter table ends with a semicolon. -/
theorem not_isShared_of_getLast? (h : text.toList.getLast? = some ';') : ¬ IsShared text := by
  have hshared : ∀ text ∈ sharedCounters.map Prod.snd, text.toList.getLast? ≠ some ';' := by
    decide +kernel
  exact fun hmem => hshared text hmem h

theorem CounterWrite.getLast? (h : CounterWrite em text) : text.toList.getLast? = some ';' := by
  obtain ⟨middle, rfl | rfl⟩ := h.shape <;> rw [String.toList_append] <;>
    exact List.getLast?_concat

/-- No statement of the shared counter table writes a counter table of its own. -/
theorem CounterWrite.not_isShared (h : CounterWrite em text) : ¬ IsShared text :=
  not_isShared_of_getLast? h.getLast?

/-- An update of plain properties goes on with its time to live. -/
theorem CounterWrite.not_update (h : CounterWrite em text) (properties : List PropertyMeta) :
    text ≠ update em properties := by
  rintro rfl
  have hupdate : ∃ rest, update em properties =
      "UPDATE " ++ (em.tableName ++ (" " ++ ("U" ++ rest))) := by
    have husing : " USING TTL :ttl SET " = " " ++ ("U" ++ "SING TTL :ttl SET ") := by decide
    refine ⟨"SING TTL :ttl SET " ++ (assignments (properties.map fun pm => pm.name) ++
      (" WHERE " ++ (keyCondition em ++ ";"))), ?_⟩
    simp only [update, toString, husing, String.append_assoc]
  obtain ⟨rest, hrest⟩ := hupdate
  obtain ⟨middle, h | h⟩ := h.shape
  · rw [hrest] at h
    simp only [String.append_assoc, String.append_right_inj] at h
    simpa using congrArg (fun t => t.toList.head?) h
  · rw [hrest] at h
    simpa using congrArg (fun t => t.toList.head?) h

theorem WritesTo.not_insert {table : String} (h : WritesTo table text) :
    ¬ ∃ rest, text = "INSERT " ++ rest := by
  rintro ⟨rest, rfl⟩
  obtain ⟨rest', h | h⟩ := h
  · simpa using congrArg (fun t => t.toList.head?) h
  · simpa using congrArg (fun t => t.toList.head?) h

/-- Names without blanks are told apart by what stands before the first blank. -/
theorem eq_of_no_blank {name other rest rest' : String} (hname : ' ' ∉ name.toList)
    (hother : ' ' ∉ other.toList) (h : name ++ (" " ++ rest) = other ++ (" " ++ rest')) :
    name = other := by
  have hword {name rest : String} (hname : ' ' ∉ name.toList) :
      (name ++ (" " ++ rest)).toList.takeWhile (fun c => c != ' ') = name.toList := by
    have hall : ∀ c ∈ name.toList, (c != ' ') = true := fun c hc => by
      rw [bne_iff_ne]
      rintro rfl
      exact hname hc
    rw [String.toList_append, List.takeWhile_append_of_pos hall, String.toList_append]
    exact List.append_nil _
  rw [← String.toList_inj, ← hword hname, h, hword hother]

/-- A text writes to one table, where names of tables have no blanks. -/
theorem WritesTo.eq {table other : String} (h : WritesTo table text) (hother : WritesTo other text)
    (htable : ' ' ∉ table.toList) (hblank : ' ' ∉ other.toList) : table = other := by
  have hverbs (rest rest' : String) : "UPDATE " ++ rest ≠ "DELETE FROM " ++ rest' := fun h => by
    simpa using congrArg (fun t => t.toList.head?) h
  obtain ⟨rest, rfl | rfl⟩ := h <;> obtain ⟨rest', h | h⟩ := hother <;>
    simp only [String.append_assoc] at h
  · exact eq_of_no_blank htable hblank ((String.append_right_inj _).1 h)
  · exact absurd h (hverbs _ _)
  · exact absurd h.symm (hverbs _ _)
  · exact eq_of_no_blank htable hblank ((String.append_right_inj _).1 h)

end Template

/-- What a write of a class of counters may say: a write of the counter table of a registered type
with the class name. -/
def CounterText (types : List (String × EntityMeta)) (em : EntityMeta) (text : String) : Prop :=
  ∃ name em', (name, em') ∈ types ∧ em'.className = em.className ∧ Template.CounterWrite em' text

/-- Without another type of its class name, it is a write of its own counter table. -/
theorem CounterText.own {types : List (String × EntityMeta)} {em : EntityMeta} {text : String}
    (hsole : SoleClass types em) (h : CounterText types em text) : Template.CounterWrite em text := by
  obtain ⟨name, em', hmem, hclass, hwrite⟩ := h
  obtain rfl := hsole _ hmem hclass
  exact hwrite

theorem CounterText.mono {types types' : List (String × EntityMeta)} {em : EntityMeta}
    (htypes : ∀ x ∈ types, x ∈ types') {text : String} (h : CounterText types em text) :
    CounterText types' em text := by
  obtain ⟨name, em', hmem, hwrite⟩ := h
  exact ⟨name, em', htypes _ hmem, hwrite⟩

/-! ### What is recorded -/

/-- An edit through a proxy of the class of the entity; `owner` tells the metadata of the class. -/
def OwnEdit (owner : Handle → EntityMeta) (w w' : Workspace E) : Prop :=
  ∃ p : Proxy, p.entityMeta = owner p.handle ∧ p.Edits w w'

theorem OwnEdit.proxyEdit {owner : Handle → EntityMeta} {w w' : Workspace E}
    (h : OwnEdit owner w w') : ProxyEdit w w' := by
  obtain ⟨p, -, hedits⟩ := h
  exact hedits.proxyEdit

/-- A proxy writes only properties of its class. -/
theorem Proxy.mem_of_writable {p : Proxy} {property : String} {access : Access} {pm : PropertyMeta}
    (h : p.writable property access = .ok pm) : pm ∈ p.entityMeta.properties := by
  have hfound := (Proxy.writable_eq_ok h).1
  unfold EntityMeta.property EntityMeta.find? at hfound
  split at hfound
  · next found hfind =>
    rw [← Except.ok.inj hfound]
    exact List.mem_of_find?_eq_some hfind
  · cases hfound

variable [Session σ] {owner : Handle → EntityMeta} {b : Batching σ E} {made : List (Made σ E)}

theorem frames_records (P : Handle → PropertyMeta → Prop) :
    Frames fun s t : Site σ E => s.workspace.Records P → t.workspace.Records P :=
  .of_sameStore_prepares (composes_of_invariant fun s : Site σ E => s.workspace.Records P)
    (fun _ _ h hs => .of_sameStore h hs) fun _ _ h hs => h.workspace ▸ hs

/-- When entities are edited through proxies of their classes, only properties of the class are
recorded as changed on an entity. -/
theorem Ran.records (h : Ran (OwnEdit owner) b made) :
    b.site.workspace.Records fun handle pm => pm ∈ (owner handle).properties := by
  have hframes := frames_records (σ := σ) (E := E) fun handle pm => pm ∈ (owner handle).properties
  induction h with
  | start session config =>
    intro handle c hc
    simp [Batching.ofSite, Site.ofConfig, Workspace.empty, Workspace.cell?] at hc
  | restart _ ih => exact ih
  | call call _ ih => exact call.keeps_run hframes _ ih
  | manager call _ _ ih =>
    cases hregister : call.isRegister with
    | false => exact call.keeps_run hframes.admitsCalls hregister _ ih
    | true =>
      cases call with
      | register T =>
        show ((do let _ ← Manager.register T : Op σ E Unit) _).2.workspace.Records _
        rw [discard_apply, (Manager.same_register T _).1]
        exact ih
      | _ => cases hregister
  | complete T p _ ih => exact Manager.keeps_complete_of_admits hframes.admitsCalls T p _ ih
  | edit _ hedit ih =>
    obtain ⟨p, hp, hedits⟩ := hedit
    exact hedits.records (fun _ _ _ hpm => hp ▸ Proxy.mem_of_writable hpm) ih

/-- Nothing is recorded as changed on an entity of a class of counters. -/
theorem Ran.changed_eq_nil [LawfulSession σ] (h : Ran (OwnEdit owner) b made) {handle : Handle}
    (hbuilt : (owner handle).Built) (hcounter : (owner handle).isClusteredCounter = true) :
    b.site.workspace.changed handle = [] := by
  have hsound := (h.mono fun _ _ => OwnEdit.proxyEdit).reachable.sound
  unfold Workspace.changed
  cases hc : b.site.workspace.cell? handle with
  | none => rfl
  | some c =>
    refine List.filter_eq_nil_iff.2 fun pm hpm _ => ?_
    have hplain : pm ∈ (owner handle).plain :=
      List.mem_filter.2 ⟨h.records handle c hc pm hpm, by simpa using hsound.dirty hc pm hpm⟩
    rw [hbuilt.rules.plain_eq_nil hcounter] at hplain
    cases hplain

/-! ### Requests -/

omit [Session σ] in
theorem ne_select_of_counterDelta {em : EntityMeta} {pm : PropertyMeta} {delta : Int}
    {action : CounterAction} {magnitude : Value}
    (h : counterDelta em pm delta = .ok (action, magnitude)) : action ≠ .select := by
  unfold counterDelta at h
  split at h
  · rw [← (Prod.mk.inj (Except.ok.inj h)).1]
    split <;> simp
  · cases h

namespace Registry.Sound

variable {r : Registry} {types : List (String × EntityMeta)} (hr : r.Sound types)
  {em : EntityMeta} {key : List Value} {request : Request}
include hr

theorem counterText_of_clusteredCounter {action : CounterAction} {name : String} {p : Prepared}
    (h : r.clusteredCounter em action name = .ok p) (haction : action ≠ .select) :
    CounterText types em p.query := by
  obtain ⟨statements, hstatements, hp⟩ := except_bind_eq_ok h
  obtain ⟨typeName, em', hmem, hclass, hcarry⟩ := hr.exists_carry hstatements
  have htext := hcarry.clusteredCounter (mem_of_lookup (Registry.orMissing_eq_ok hp))
  exact ⟨typeName, em', hmem, hclass, Template.counterWrite_of_mem htext haction⟩

theorem counterText_of_bindDelta {c : Call E} (hcounter : c.entityMeta.isClusteredCounter = true)
    {pm : PropertyMeta} {delta : Int} (h : c.bindDelta r pm key delta = .ok request) :
    CounterText types c.entityMeta request.query := by
  unfold Call.bindDelta at h
  dsimp only at h
  rw [if_pos hcounter] at h
  obtain ⟨⟨action, magnitude⟩, hdelta, h⟩ := except_bind_eq_ok h
  obtain ⟨p, hp, h⟩ := except_bind_eq_ok h
  obtain ⟨_, -, h⟩ := except_bind_eq_ok h
  rw [← Except.ok.inj h]
  exact hr.counterText_of_clusteredCounter hp (ne_select_of_counterDelta hdelta)

theorem counterText_of_bindClustered {name : String} {level : Level}
    (h : r.bindClustered .delete name em key level = .ok request) :
    CounterText types em request.query := by
  obtain ⟨p, hp, h⟩ := except_bind_eq_ok h
  obtain ⟨_, -, rfl⟩ := Registry.bindKey_eq_ok h
  exact hr.counterText_of_clusteredCounter hp (by simp)

end Registry.Sound

/-! ### Writes -/

/-- The act hands over, or executes, the write of a counter whose text has the property. It reads
nothing and sends no group. -/
def Act.Counts (P : String → Prop) : Act → Prop :=
  Act.Carries (fun kind r => kind = .counter ∧ P r.query) fun _ => False

section

variable {c : Call E} (hcounter : c.entityMeta.isClusteredCounter = true) {start : Site σ E}
include hcounter

omit [Session σ] in
/-- No insert, no delete from the tables of the class and none from the shared counter table is
bound for a class of counters. -/
theorem Call.writesOn_counts : c.WritesOn (Since start)
    (AllowsWrite (Act.Counts (CounterText start.types c.entityMeta))) where
  insert _ h := by
    rw [hcounter] at h
    cases h
  delta hs _ h := allowsWrite_carries
    ⟨rfl, (hs.types ▸ hs.sound.registry).counterText_of_bindDelta hcounter h⟩
  removal _ h := by
    rw [hcounter] at h
    cases h
  removeRow hs _ h := allowsWrite_carries
    ⟨rfl, (hs.types ▸ hs.sound.registry).counterText_of_bindClustered h⟩
  removeCounter _ h := by
    rw [hcounter] at h
    cases h

end

/-- Where nothing is recorded as changed, no update is bound. -/
theorem Call.updatesOn_of_unchanged {c : Call E} {start : Site σ E} {p : Proxy}
    (h : start.workspace.changed p.handle = []) (W : BatchKind → Request → Prop) :
    c.UpdatesOn (Since start) p W :=
  fun _ _ _ _ hs hcell hne _ => absurd ((hs.changed hcell hne).trans h) hne

/-- The entity that a write updates is one of the class. -/
def Write.Of (owner : Handle → EntityMeta) (em : EntityMeta) : Write E → Prop
  | update p => owner p.handle = em
  | _ => True

/-- The type has the metadata, if it is registered. -/
def EntityType.Has (T : EntityType E) (types : List (String × EntityMeta)) (em : EntityMeta) : Prop :=
  ∀ em', types.lookup T.typeName = some em' → em' = em

/-- A write of a class of counters does nothing but writes of counters. -/
theorem Write.emits_counts [LawfulSession σ] {w : Write E} {T : EntityType E} {em : EntityMeta}
    {start : Site σ E} (hem : T.Has start.types em)
    (hcounter : em.isClusteredCounter = true)
    (hunchanged : ∀ p, w = .update p → start.workspace.changed p.handle = [])
    (options : Options) :
    Emits (Since start) (Act.Counts (CounterText start.types em)) start
      (w.runIn T options start).2 := by
  have hI : ∀ s t : Site σ E, SameStore s t → Since start s → Since start t :=
    fun _ _ h hs => hs.of_sameStore h
  show Emits _ _ start ((EntityCall.write w options).runIn T start).2
  refine EntityCall.upholds_runIn (upholds_emits hI allowsQuiet_carries) (emits_immediately hI) ?_
  have meta_eq {c : Call E} (hc : Manager.IsCall T options start c) : em = c.entityMeta :=
    (hem _ hc.lookup_eq).symm
  have hwrites (c : Call E) (hc : Manager.IsCall T options start c) : c.WritesOn (Since start)
      (AllowsWrite (Act.Counts (CounterText start.types em))) := by
    obtain rfl := meta_eq hc
    exact Call.writesOn_counts hcounter
  cases w with
  | update p =>
    intro c hc
    exact ⟨trivial, hwrites c hc, Call.updatesOn_of_unchanged (hunchanged p rfl) _,
      Call.emits_bindUpdate (mem_of_lookup hc.lookup_eq) allowsQuiet_carries⟩
  | _ => exact hwrites

section

variable [LawfulSession σ] {w : Write E} {T : EntityType E} {em : EntityMeta}
  (hcounter : em.isClusteredCounter = true)
include hcounter

theorem Write.counts_atOnce {s : Site σ E} (hs : s.Sound)
    (hem : T.Has s.types em)
    (hunchanged : ∀ p, w = .update p → s.workspace.changed p.handle = []) (options : Options) :
    ∃ acts, ((w.atOnce T options).run s).2.trace = s.trace ++ acts ∧
      ∀ act ∈ acts, act.Counts (CounterText s.types em) := by
  have hsound : (Manager.atOnce s).Sound := hs.congr rfl rfl rfl
  have hhas : T.Has (Manager.atOnce s).types em := hem
  obtain ⟨-, hacts⟩ := w.emits_counts hhas hcounter hunchanged options (.refl hsound)
  rw [w.run_atOnce]
  exact hacts

theorem Write.counts_inWindow {b : Batching σ E} (hs : b.site.Sound)
    (hem : T.Has b.site.types em)
    (hunchanged : ∀ p, w = .update p → b.site.workspace.changed p.handle = [])
    (options : Options) (now : Int) :
    ((w.inWindow now T options).run b).2.site.trace =
        b.site.trace ++ (w.inWindow now T options).acts b ∧
      ∀ act ∈ (w.inWindow now T options).acts b, act.Counts (CounterText b.site.types em) := by
  have hexists : ∃ acts, ((w.inWindow now T options).run b).2.site.trace = b.site.trace ++ acts ∧
      ∀ act ∈ acts, act.Counts (CounterText b.site.types em) := by
    rcases w.run_inWindow_cases now T options b with ⟨-, hrun⟩ | ⟨-, options', last, -, hrun⟩
    · rw [hrun]
      exact ⟨[], by simp, nofun⟩
    · rw [hrun]
      exact (w.emits_counts hem hcounter hunchanged options' (.refl hs)).2
  obtain ⟨acts, htrace, hacts⟩ := hexists
  rw [show (w.inWindow now T options).acts b = acts from acts_eq htrace]
  exact ⟨htrace, hacts⟩

end

/-! ### The contract -/

/-- What a write of a class of counters does in a state, and what the end of a window does that had
writes of the class only. -/
structure CounterTableContract (b : Batching σ E) (made : List (Made σ E))
    (owner : Handle → EntityMeta) (T : EntityType E) (em : EntityMeta) (w : Write E)
    (options : Options) (now : Int) : Prop where
  /-- At once, every write that is executed, before an error or not, is one of a counter. -/
  atOnce : ∃ acts, ((w.atOnce T options).run b.site).2.trace = b.site.trace ++ acts ∧
    ∀ act ∈ acts, act.Counts (CounterText b.site.types em)
  /-- In a window, every write that is handed over is one of a counter, for the group of
  counters. -/
  inWindow : ((w.inWindow now T options).run b).2.site.trace =
      b.site.trace ++ (w.inWindow now T options).acts b ∧
    ∀ act ∈ (w.inWindow now T options).acts b, act.Counts (CounterText b.site.types em)
  /-- The regular group of the window does not grow. -/
  regular : ((w.inWindow now T options).run b).2.site.outbox.regular = b.site.outbox.regular ∨
    ((w.inWindow now T options).run b).2.site.outbox.regular = []
  /-- A window with writes of the class only sends no regular group. -/
  ended : (∀ m ∈ windowOf made, ∃ (w : Write E) (now : Int) (options : Options),
      m.call = w.inWindow now T options ∧ w.Of owner em) →
    ∀ g ∈ groupsIn (WindowCall.endBatch.acts b), g.kind = .counter ∧
      ∀ s ∈ g.statements, CounterText b.site.types em s.query
  /-- Without another type of the class name the statements are those of its own table. -/
  own : SoleClass b.site.types em →
    ∀ text, CounterText b.site.types em text → Template.CounterWrite em text
  /-- A write of a counter table is no insert, no update with a time to live, and no statement of
  the shared counter table; it writes to the table of its class and to no other. -/
  texts : ∀ em' text, Template.CounterWrite em' text →
    (¬ ∃ rest, text = "INSERT " ++ rest) ∧
    (∀ properties, text ≠ Template.update em' properties) ∧
    ¬ Template.IsShared text ∧
    Template.WritesTo em'.tableName text ∧
    ∀ table, Template.WritesTo table text → ' ' ∉ table.toList → ' ' ∉ em'.tableName.toList →
      table = em'.tableName

omit [Session σ] in
theorem Template.CounterWrite.texts {em : EntityMeta} {text : String}
    (h : Template.CounterWrite em text) :
    (¬ ∃ rest, text = "INSERT " ++ rest) ∧
    (∀ properties, text ≠ Template.update em properties) ∧
    ¬ Template.IsShared text ∧
    Template.WritesTo em.tableName text ∧
    ∀ table, Template.WritesTo table text → ' ' ∉ table.toList → ' ' ∉ em.tableName.toList →
      table = em.tableName :=
  ⟨h.writesTo.not_insert, h.not_update, h.not_isShared, h.writesTo,
    fun _ hother htable hblank => hother.eq h.writesTo htable hblank⟩

section

variable [LawfulSession σ] {T : EntityType E} {em : EntityMeta} (hbuilt : em.Built)
  (hcounter : em.isClusteredCounter = true)
include hbuilt hcounter

/-- On the entities that are written nothing is recorded as changed. -/
theorem Ran.unchanged_of_write (h : Ran (OwnEdit owner) b made) {w : Write E} (hw : w.Of owner em) :
    ∀ p, w = .update p → b.site.workspace.changed p.handle = [] := by
  rintro p rfl
  obtain rfl : owner p.handle = em := hw
  exact h.changed_eq_nil hbuilt hcounter

/-- What the writes of a window hand over. -/
theorem Ran.counts_of_window (h : Ran (OwnEdit owner) b made) (hem : T.Has b.site.types em)
    {m : Made σ E} (hm : m ∈ made) {w : Write E} {now : Int} {options : Options}
    (hcall : m.call = w.inWindow now T options) (hw : w.Of owner em) {kind : BatchKind}
    {r : Request} (hr : r ∈ m.pushed kind) :
    kind = .counter ∧ CounterText b.site.types em r.query := by
  obtain ⟨earlier, hbefore⟩ := h.before hm
  have hgrown := ((h.mono fun _ _ => OwnEdit.proxyEdit).later hm).grown
  have hsound := (hbefore.mono fun _ _ => OwnEdit.proxyEdit).reachable.sound
  -- a registered type keeps its metadata
  have hthen : T.Has m.manager.site.types em := fun em' hlookup => hem em' (hgrown.lookup hlookup)
  have hacts := (Write.counts_inWindow hcounter hsound hthen
    (hbefore.unchanged_of_write hbuilt hcounter hw) options now).2
  unfold Made.pushed at hr
  rw [hcall] at hr
  obtain ⟨hkind, htext⟩ := hacts _ (mem_pushedIn.1 hr)
  exact ⟨hkind, htext.mono hgrown.types⟩

/-- Whatever was done before, each entity being edited through proxies of its class: the operations
on a class of counters, registered or not, write nothing but counters, in the table of the class if
no other registered type has its class name. -/
theorem counterTable_contract (h : Ran (OwnEdit owner) b made) (hem : T.Has b.site.types em)
    {w : Write E} (hw : w.Of owner em) (options : Options) (now : Int) : CounterTableContract b made owner T em w options now := by
  have hran : Ran ProxyEdit b made := h.mono fun _ _ => OwnEdit.proxyEdit
  have hsound := hran.reachable.sound
  have hunchanged := h.unchanged_of_write hbuilt hcounter hw
  have hwindow := Write.counts_inWindow hcounter hsound hem hunchanged options now
  constructor
  case atOnce => exact Write.counts_atOnce hcounter hsound hem hunchanged options
  case inWindow => exact hwindow
  case regular =>
    have hnone : pushedIn .logged ((w.inWindow now T options).acts b) = [] := by
      rw [List.eq_nil_iff_forall_not_mem]
      intro r hr
      exact absurd (hwindow.2 _ (mem_pushedIn.1 hr)).1 (by simp)
    have hpending := (w.inWindow now T options).pending_run hran.reachable .logged
    rw [hnone, List.append_nil] at hpending
    split at hpending
    · exact .inr hpending
    · exact .inl hpending
  case ended =>
    intro hcalls g hg
    have hpushed {kind : BatchKind} {r : Request} (hr : r ∈ b.site.outbox.pending kind) :
        kind = .counter ∧ CounterText b.site.types em r.query := by
      rw [hran.pending] at hr
      obtain ⟨m, hm, hr⟩ := List.mem_flatMap.1 hr
      obtain ⟨w', now', options', hcall, hw'⟩ := hcalls m hm
      exact h.counts_of_window hbuilt hcounter hem ((windowOf_suffix made).subset hm) hcall hw' hr
    obtain ⟨hne, hstatements⟩ := WindowCall.group_pending hran.reachable hg
    obtain ⟨r, hr⟩ := List.exists_mem_of_ne_nil _ hne
    refine ⟨(hpushed hr).1, fun s hs => ?_⟩
    rw [hstatements] at hs
    obtain ⟨r, hr, rfl⟩ := List.mem_map.1 hs
    rw [r.query_statement]
    exact (hpushed hr).2
  case own => exact fun hsole text htext => htext.own hsole
  case texts => exact fun _ _ h => h.texts

end

/-! ### Visits -/

/-- How often a site was visited on a day. -/
structure Visits where
  site : Value
  day : Value
  hits : Counter

namespace Visits

/-- The key of visits: one partition for each site, by day. -/
def idDraft : PropertyDraft :=
  { PropertyDraft.ofKind "id" .embeddedId .text with
    key := some ⟨[⟨"site", .text, .partition, false⟩, ⟨"day", .bigint, .clustering, false⟩]⟩ }

/-- The declaration of visits counted in a table. -/
def draft (tableName : String) : EntityDraft where
  className := "Visits"
  tableName
  properties := [idDraft, .ofKind "hits" .counter .counter]
  readLevel := none
  writeLevel := none
  isClusteredCounter := true

/-- Visits counted in a table, under the name of a type. -/
def type (typeName tableName : String) : EntityType Visits where
  typeName
  shortName := "Visits"
  entityMeta := (draft tableName).build
  interceptors := []
  values _ := []
  write _ _ _ := .error (.invalidState "No attribute")
  key visits := [visits.site, visits.day]
  ofKey key := .ok ⟨key.headD .null, (key.drop 1).headD .null, .empty⟩
  ofRow row := .ok ⟨(row.find? "site").getD .null, (row.find? "day").getD .null, .empty⟩
  counter? visits name := if name = "hits" then some visits.hits else none
  setCounter visits name counter :=
    if name = "hits" then { visits with hits := counter } else visits

/-- The metadata of visits counted in a table. -/
def entityMeta (tableName : String) : EntityMeta where
  className := "Visits"
  tableName
  id := { idDraft with entityClass := "Visits" }
  properties := [{ idDraft with entityClass := "Visits" },
    { PropertyDraft.ofKind "hits" .counter .counter with entityClass := "Visits" }]
  declaredReadLevel := none
  declaredWriteLevel := none
  readLevel := .standard
  writeLevel := .standard
  isClusteredCounter := true

theorem built_type (typeName tableName : String) : (type typeName tableName).Built := by
  intro em hem
  exact ⟨draft tableName, em, em.readLevel, em.writeLevel, hem, rfl⟩

/-- Visits by site. -/
def bySite : EntityType Visits := type "stats.Visits" "visits_by_site"

/-- Visits by day, of a type with the same class name. -/
def byDay : EntityType Visits := type "archive.Visits" "visits_by_day"

/-- A manager with registered types. -/
def manager (types : List (EntityType Visits)) : Batching Script Visits :=
  types.foldl (fun b T => { b with site := ((ManagerCall.register T).run b.site).2 })
    (.ofSite (.ofConfig .empty .standard))

theorem ran_manager (owner : Handle → EntityMeta) {types : List (EntityType Visits)}
    (h : ∀ T ∈ types, T.Built) : Ran (OwnEdit owner) (manager types) [] :=
  (Ran.start Script.empty .standard).register_all h

/-- Count five visits of a site on a day. -/
def counted : Write Visits := .persist (.bare ⟨.text "home", .bigint 1, Counter.empty.incrBy 5⟩)

theorem of_counted (owner : Handle → EntityMeta) (em : EntityMeta) : counted.Of owner em := trivial

/-- The texts that a write executes at once. -/
def executedTexts (b : Batching Script Visits) (T : EntityType Visits) (w : Write Visits)
    (options : Options) : List String :=
  (executedIn (((w.atOnce T options).run b.site).2.trace.drop b.site.trace.length)).map
    Statement.query

/-- With one type of visits they are counted in its table. -/
theorem counterTable_contract_counted :
    CounterTableContract (manager [bySite]) [] (fun _ => entityMeta "visits_by_site") bySite
        (entityMeta "visits_by_site") counted .none 7 ∧
      (manager [bySite]).site.types.lookup bySite.typeName = some (entityMeta "visits_by_site") ∧
      SoleClass (manager [bySite]).site.types (entityMeta "visits_by_site") ∧
      executedTexts (manager [bySite]) bySite counted .none =
        ["UPDATE visits_by_site SET hits=hits+:hits WHERE site=:site AND day=:day;"] := by
  have hran : Ran (OwnEdit fun _ => entityMeta "visits_by_site") (manager [bySite]) [] := by
    apply ran_manager
    intro T hT
    rw [List.mem_singleton.1 hT]
    exact built_type _ _
  have hbuilt : (entityMeta "visits_by_site").Built :=
    ⟨draft "visits_by_site", _, .standard, .standard, rfl, rfl⟩
  have hlookup : (manager [bySite]).site.types.lookup bySite.typeName =
      some (entityMeta "visits_by_site") := by
    decide +kernel
  have hhas : bySite.Has (manager [bySite]).site.types (entityMeta "visits_by_site") :=
    fun em hem => Option.some.inj (hem.symm.trans hlookup)
  refine ⟨counterTable_contract hbuilt (by decide) hran hhas (of_counted _ _) .none 7, hlookup, ?_,
    by decide +kernel⟩
  unfold SoleClass
  decide +kernel

/-- When two types of visits share a class name, the visits of one are counted in the table of the
other. -/
theorem not_counterWrite_of_shared_name :
    ¬ ∀ (owner : Handle → EntityMeta) (b : Batching Script Visits) (made : List (Made Script Visits))
      (T : EntityType Visits) (em : EntityMeta) (w : Write Visits) (options : Options),
      Ran (OwnEdit owner) b made → b.site.types.lookup T.typeName = some em →
      em.isClusteredCounter = true → w.Of owner em →
      ∀ text ∈ executedTexts b T w options, Template.CounterWrite em text := by
  intro h
  have hran : Ran (OwnEdit fun _ => entityMeta "visits_by_day") (manager [bySite, byDay]) [] := by
    apply ran_manager
    intro T hT
    simp only [List.mem_cons, List.not_mem_nil, or_false] at hT
    rcases hT with rfl | rfl
    · exact built_type _ _
    · exact built_type _ _
  have hexecuted : executedTexts (manager [bySite, byDay]) byDay counted .none =
      ["UPDATE " ++ "visits_by_site" ++ " " ++
        "SET hits=hits+:hits WHERE site=:site AND day=:day;"] := by
    decide +kernel
  have hwrite := h _ _ _ byDay (entityMeta "visits_by_day") counted .none hran (by decide +kernel)
    (by decide) (of_counted _ _) _ (by rw [hexecuted]; exact List.mem_singleton_self _)
  have hother : Template.WritesTo "visits_by_site" ("UPDATE " ++ "visits_by_site" ++ " " ++
      "SET hits=hits+:hits WHERE site=:site AND day=:day;") := ⟨_, .inl rfl⟩
  have hsame : "visits_by_day" = "visits_by_site" :=
    hwrite.writesTo.eq hother (by decide) (by decide)
  revert hsame
  decide

end Visits

end WideColumn
