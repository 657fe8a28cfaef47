import WideColumn.Proofs.Operation.Emits
import WideColumn.Proofs.Update.Immediate
import WideColumn.Proofs.Window.Pending

/-!
# What the statements of a class say

Statements are found by class name, types by their own name. So what an operation on a registered
type sends says what the templates give for a registered type of the same class name; this is the
type itself if no other type has its class name. Statements of the shared counter table are the
same for all types. Main statement: `text_contract`.
-/

namespace WideColumn

open Op

variable {σ E : Type}

/-! ### Texts of a class -/

/-- The texts that the templates give for a class; `changed` are the properties that an update
writes. -/
inductive Template.Own (em : EntityMeta) (changed : List PropertyMeta) : String → Prop
  | insert : Own em changed (Template.insert em)
  | selectEntity : Own em changed (Template.selectEntity em)
  | selectField {pm : PropertyMeta} {text : String} : pm ∈ em.plain →
      Template.selectField em pm = .ok text → Own em changed text
  | update : changed ≠ [] → Own em changed (Template.update em (sortedByName changed))
  | delete {table text : String} : (table, text) ∈ Template.deletes em → Own em changed text
  | clusteredCounter {key : CounterAction × String} {text : String} :
      (key, text) ∈ Template.clusteredCounters em → Own em changed text

/-- The text of a statement of the shared counter table. -/
def Template.IsShared (text : String) : Prop := text ∈ Template.sharedCounters.map Prod.snd

/-- The text writes to the table or reads from it. -/
def Template.NamesTable (table text : String) : Prop :=
  ∃ start after, ∃ verb ∈ ["INTO ", "FROM ", "UPDATE "], text = start ++ verb ++ table ++ after

theorem Template.namesTable_select (columns table condition : String) :
    NamesTable table s!"SELECT {columns} FROM {table} WHERE {condition};" := by
  refine ⟨"SELECT " ++ columns ++ " ", " WHERE " ++ condition ++ ";", "FROM ", by simp, ?_⟩
  have hverb : " FROM " = " " ++ "FROM " := by decide
  simp only [toString, hverb, String.append_assoc]

theorem Template.namesTable_delete (table condition : String) :
    NamesTable table s!"DELETE FROM {table} WHERE {condition};" := by
  refine ⟨"DELETE ", " WHERE " ++ condition ++ ";", "FROM ", by simp, ?_⟩
  have hverb : "DELETE FROM " = "DELETE " ++ "FROM " := by decide
  simp only [toString, hverb, String.append_assoc]

theorem Template.namesTable_update (table rest : String) :
    NamesTable table ("UPDATE " ++ table ++ rest) :=
  ⟨"", rest, "UPDATE ", by simp, by simp⟩

/-- Whatever the templates give for a class names the table of the class. -/
theorem Template.namesTable_of_own {em : EntityMeta} {changed : List PropertyMeta} {text : String}
    (h : Template.Own em changed text) : Template.NamesTable em.tableName text := by
  cases h with
  | insert =>
    refine ⟨"INSERT ", "(" ++ commaList (insertColumns em) ++ ") VALUES (" ++
      commaList ((insertColumns em).map fun c => ":" ++ c) ++ ") USING TTL :ttl;", "INTO ",
      by simp, ?_⟩
    have hverb : "INSERT INTO " = "INSERT " ++ "INTO " := by decide
    simp only [Template.insert, toString, hverb, String.append_assoc]
  | selectEntity => exact namesTable_select _ _ _
  | selectField hpm htext =>
    unfold selectField at htext
    split at htext
    · cases htext
    · rw [← Except.ok.inj htext]
      exact namesTable_select _ _ _
  | update hne =>
    unfold Template.update
    simp only [toString, String.append_assoc]
    rw [← String.append_assoc]
    exact namesTable_update _ _
  | delete hmem =>
    simp only [deletes, List.mem_singleton, Prod.mk.injEq] at hmem
    rw [hmem.2]
    exact namesTable_delete _ _
  | clusteredCounter hmem =>
    simp only [clusteredCounters, clusteredCounter, List.mem_append, List.mem_flatMap,
      List.mem_cons, List.not_mem_nil, or_false, Prod.mk.injEq] at hmem
    rcases hmem with ⟨pm, -, ⟨-, rfl⟩ | ⟨-, rfl⟩ | ⟨-, rfl⟩⟩ | ⟨-, rfl⟩ | ⟨-, rfl⟩
    · simp only [toString, String.append_assoc]
      rw [← String.append_assoc]
      exact namesTable_update _ _
    · simp only [toString, String.append_assoc]
      rw [← String.append_assoc]
      exact namesTable_update _ _
    · exact namesTable_select _ _ _
    · exact namesTable_select "*" _ _
    · exact namesTable_delete _ _

/-! ### Texts of requests -/

/-- What a statement for a class may say: a text of a registered type with the class name, or a text
of the shared counter table. -/
def StatementText (types : List (String × EntityMeta)) (em : EntityMeta)
    (changed : List PropertyMeta) (text : String) : Prop :=
  (∃ name em', (name, em') ∈ types ∧ em'.className = em.className ∧
    Template.Own em' changed text) ∨ Template.IsShared text

/-- Without another type of its class name, a class says what its own templates give. -/
theorem StatementText.own {types : List (String × EntityMeta)} {em : EntityMeta}
    {changed : List PropertyMeta} {text : String} (hsole : SoleClass types em)
    (h : StatementText types em changed text) :
    Template.Own em changed text ∨ Template.IsShared text := by
  rcases h with ⟨name, em', hmem, hclass, hown⟩ | hshared
  · obtain rfl := hsole _ hmem hclass
    exact .inl hown
  · exact .inr hshared

namespace Registry.Sound

variable {r : Registry} {types : List (String × EntityMeta)} (hr : r.Sound types)
  {em : EntityMeta} {changed : List PropertyMeta} {key : List Value} {level : Level}
  {request : Request}
include hr

/-- The statements found for a class are those of a registered type with the class name. -/
theorem exists_carry {statements : EntityStatements} (h : r.statements em = .ok statements) :
    ∃ name em', (name, em') ∈ types ∧ em'.className = em.className ∧ statements.Carry em' :=
  hr.entity (Registry.mem_entities_of_statements h)

theorem text_of_bindInsert {T : EntityType E} {entity : E} {options : Options}
    (h : r.bindInsert T em entity options level = .ok request) :
    StatementText types em changed request.query := by
  obtain ⟨statements, hstatements, h⟩ := except_bind_eq_ok h
  obtain ⟨p, hp, h⟩ := except_bind_eq_ok h
  obtain ⟨_, -, h⟩ := except_bind_eq_ok h
  obtain ⟨_, -, h⟩ := except_bind_eq_ok h
  obtain ⟨name, em', hmem, hclass, hcarry⟩ := hr.exists_carry hstatements
  refine .inl ⟨name, em', hmem, hclass, ?_⟩
  have htext : request.query = Template.insert em' := by
    rw [← Except.ok.inj h]
    exact hcarry.insert (Registry.orMissing_eq_ok hp)
  rw [htext]
  exact .insert

theorem text_of_bindRemoval {options : Options} {requests : List Request}
    (h : r.bindRemoval em key options level = .ok requests) :
    ∀ request ∈ requests, StatementText types em changed request.query := by
  obtain ⟨statements, hstatements, h⟩ := except_bind_eq_ok h
  obtain ⟨_, -, h⟩ := except_bind_eq_ok h
  obtain ⟨name, em', hmem, hclass, hcarry⟩ := hr.exists_carry hstatements
  rw [← Except.ok.inj h]
  intro request hrequest
  obtain ⟨⟨table, p⟩, hp, rfl⟩ := List.mem_map.1 hrequest
  exact .inl ⟨name, em', hmem, hclass, .delete (hcarry.delete hp)⟩

theorem text_of_bindSelect (h : r.bindSelect em key level = .ok request) :
    StatementText types em changed request.query := by
  obtain ⟨statements, hstatements, h⟩ := except_bind_eq_ok h
  obtain ⟨p, hp, h⟩ := except_bind_eq_ok h
  obtain ⟨_, -, rfl⟩ := Registry.bindKey_eq_ok h
  obtain ⟨name, em', hmem, hclass, hcarry⟩ := hr.exists_carry hstatements
  refine .inl ⟨name, em', hmem, hclass, ?_⟩
  show Template.Own em' changed p.query
  rw [hcarry.selectEntity (Registry.orMissing_eq_ok hp)]
  exact .selectEntity

theorem text_of_bindSelectField {pm : PropertyMeta}
    (h : r.bindSelectField em pm key level = .ok request) :
    StatementText types em changed request.query := by
  obtain ⟨statements, hstatements, h⟩ := except_bind_eq_ok h
  split at h
  · next p hp =>
    obtain ⟨_, -, rfl⟩ := Registry.bindKey_eq_ok h
    obtain ⟨name, em', hmem, hclass, hcarry⟩ := hr.exists_carry hstatements
    obtain ⟨pm', hpm, -, htext⟩ := hcarry.selectField (mem_of_lookup hp)
    exact .inl ⟨name, em', hmem, hclass, .selectField hpm htext⟩
  · obtain ⟨_, -, h⟩ := except_bind_eq_ok h
    cases h

theorem text_of_clusteredCounter {action : CounterAction} {name : String} {p : Prepared}
    (h : r.clusteredCounter em action name = .ok p) :
    StatementText types em changed p.query := by
  obtain ⟨statements, hstatements, hp⟩ := except_bind_eq_ok h
  obtain ⟨typeName, em', hmem, hclass, hcarry⟩ := hr.exists_carry hstatements
  exact .inl ⟨typeName, em', hmem, hclass,
    .clusteredCounter (hcarry.clusteredCounter (mem_of_lookup (Registry.orMissing_eq_ok hp)))⟩

theorem text_of_bindClustered {action : CounterAction} {name : String}
    (h : r.bindClustered action name em key level = .ok request) :
    StatementText types em changed request.query := by
  obtain ⟨p, hp, h⟩ := except_bind_eq_ok h
  obtain ⟨_, -, rfl⟩ := Registry.bindKey_eq_ok h
  exact hr.text_of_clusteredCounter hp

theorem text_of_sharedCounter {action : CounterAction} {p : Prepared}
    (h : r.sharedCounter em action = .ok p) : StatementText types em changed p.query := by
  obtain ⟨_, -, h⟩ := except_bind_eq_ok h
  have hmem := hr.sharedCounter (mem_of_lookup (Registry.orMissing_eq_ok h))
  exact .inr (List.mem_map_of_mem hmem)

theorem text_of_bindShared {action : CounterAction} {pm : PropertyMeta}
    (h : r.bindShared action em pm key level = .ok request) :
    StatementText types em changed request.query := by
  obtain ⟨p, hp, h⟩ := except_bind_eq_ok h
  obtain ⟨_, -, h⟩ := except_bind_eq_ok h
  rw [← Except.ok.inj h]
  exact hr.text_of_sharedCounter hp

theorem text_of_bindDelta {c : Call E} {pm : PropertyMeta} {delta : Int}
    (h : c.bindDelta r pm key delta = .ok request) :
    StatementText types c.entityMeta changed request.query := by
  unfold Call.bindDelta at h
  dsimp only at h
  split at h
  · obtain ⟨⟨action, magnitude⟩, -, h⟩ := except_bind_eq_ok h
    obtain ⟨p, hp, h⟩ := except_bind_eq_ok h
    obtain ⟨_, -, h⟩ := except_bind_eq_ok h
    rw [← Except.ok.inj h]
    exact hr.text_of_clusteredCounter hp
  · obtain ⟨⟨action, magnitude⟩, -, h⟩ := except_bind_eq_ok h
    obtain ⟨p, hp, h⟩ := except_bind_eq_ok h
    obtain ⟨_, -, h⟩ := except_bind_eq_ok h
    rw [← Except.ok.inj h]
    exact hr.text_of_sharedCounter hp

theorem text_of_readRequest {c : Call E} (h : c.readRequest r key = .ok request) :
    StatementText types c.entityMeta changed request.query := by
  unfold Call.readRequest at h
  split at h
  · exact hr.text_of_bindClustered h
  · exact hr.text_of_bindSelect h

theorem text_of_readCounterRequest {c : Call E} {pm : PropertyMeta}
    (h : c.readCounterRequest r pm key = .ok request) :
    StatementText types c.entityMeta changed request.query := by
  unfold Call.readCounterRequest at h
  dsimp only at h
  split at h
  · exact hr.text_of_bindClustered h
  · exact hr.text_of_bindShared h

end Registry.Sound

theorem Op.text_of_bindUpdate [Session σ] [LawfulSession σ] {types : List (String × EntityMeta)}
    {name : String} {em : EntityMeta} {T : EntityType E} {entity : E}
    {properties : List PropertyMeta} {options : Options} {level : Level} {s t : Site σ E}
    {request : Request} (hs : s.registry.Sound types) (hmem : (name, em) ∈ types)
    (hne : properties ≠ [])
    (h : bindUpdate T em entity properties options level s = (.ok request, t)) :
    StatementText types em properties request.query := by
  unfold bindUpdate at h
  rw [get_bind_apply] at h
  obtain ⟨_, u, hstatements, h⟩ := bind_eq_ok h
  obtain ⟨p, v, hp, h⟩ := bind_eq_ok h
  obtain ⟨_, w, -, h⟩ := bind_eq_ok h
  obtain ⟨hrequest, -⟩ := Prod.mk.inj h
  obtain rfl : s = u := by
    rw [lift_apply] at hstatements
    exact (Prod.mk.inj hstatements).2
  obtain ⟨em', hem', htext⟩ :=
    query_of_preparedUpdate_of_class (properties_ofProperties_sortedByName _ _) hs hp
  have hquery : request.query = Template.update em' (sortedByName properties) := by
    rw [← Except.ok.inj hrequest]
    exact htext
  rw [hquery]
  rcases hem' with rfl | ⟨name', hin, hclass⟩
  · exact .inl ⟨name, em', hmem, rfl, .update hne⟩
  · exact .inl ⟨name', em', hin, hclass, .update hne⟩

/-! ### Texts of acts -/

/-- What the act executes, or hands over to be sent, has a text with the property. It sends no
group. -/
def Act.Says (P : String → Prop) : Act → Prop
  | .pushed _ r | .logged (.sent r) => P r.query
  | .executed statement => P statement.query
  | .prepared _ | .intercepted .. => True
  | .sentBatch .. | .logged _ => False

theorem Act.Says.mono {P Q : String → Prop} (hPQ : ∀ text, P text → Q text) {act : Act}
    (h : act.Says P) : act.Says Q := by
  cases act with
  | pushed kind r => exact hPQ _ h
  | executed statement => exact hPQ _ h
  | prepared text => trivial
  | intercepted handle notice => trivial
  | sentBatch kind statements level => cases h
  | logged line =>
    cases line with
    | sent r => exact hPQ _ h
    | batchStart kind count => cases h
    | batchEnd kind level => cases h

theorem allowsQuiet_ofText (P : String → Prop) : AllowsQuiet (Act.Says P) :=
  ⟨fun _ => trivial, fun _ _ => trivial⟩

theorem allowsRead_ofText {P : String → Prop} {r : Request} (h : P r.query) :
    AllowsRead (Act.Says P) r where
  logged := h
  executed := by
    show P r.statement.query
    rwa [Request.query_statement]

theorem allowsWrite_ofText {P : String → Prop} {r : Request} (kind : BatchKind) (h : P r.query) :
    AllowsWrite (Act.Says P) kind r where
  pushed := h
  logged := h
  executed := (allowsRead_ofText h).executed

/-! ### Operations -/

/-- The changed properties of a cell that an update writes. -/
def Cell.changed (c : Cell E) : List PropertyMeta := c.dirty.properties.filter fun pm => !pm.isCounter

/-- The changed properties that an update of the cell of a handle writes. -/
def Workspace.changed (w : Workspace E) (h : Handle) : List PropertyMeta :=
  ((w.cell? h).map Cell.changed).getD []

/-- A site that an operation left: it knows the same types, is sound, and no other properties are
recorded as changed on a cell than at the start. -/
structure Since (start s : Site σ E) : Prop where
  types : s.types = start.types
  sound : s.Sound
  changed {h : Handle} {c : Cell E} : s.workspace.cell? h = some c → c.changed ≠ [] →
    c.changed = start.workspace.changed h

namespace Since

variable {start s t : Site σ E}

theorem refl (h : start.Sound) : Since start start where
  types := rfl
  sound := h
  changed hc _ := by
    unfold Workspace.changed
    rw [hc]
    rfl

theorem of_sameStore (h : SameStore s t) (hs : Since start s) : Since start t where
  types := h.types.trans hs.types
  sound := hs.sound.of_sameStore h
  changed {handle c} hc hne := by
    rcases h.dirty hc with hempty | ⟨old, hold, heq⟩
    · exact absurd (by rw [Cell.changed, hempty]; rfl) hne
    · have hsame : c.changed = old.changed := by rw [Cell.changed, heq, Cell.changed]
      rw [hsame] at hne ⊢
      exact hs.changed hold hne

end Since

theorem Call.writesOn_ofText (c : Call E) (start : Site σ E) (changed : List PropertyMeta) :
    c.WritesOn (Since start)
      (AllowsWrite (Act.Says (StatementText start.types c.entityMeta changed))) where
  insert hs _ h := allowsWrite_ofText _ ((hs.types ▸ hs.sound.registry).text_of_bindInsert h)
  delta hs _ h := allowsWrite_ofText _ ((hs.types ▸ hs.sound.registry).text_of_bindDelta h)
  removal hs _ h r hr :=
    allowsWrite_ofText _ ((hs.types ▸ hs.sound.registry).text_of_bindRemoval h r hr)
  removeRow hs _ h := allowsWrite_ofText _ ((hs.types ▸ hs.sound.registry).text_of_bindClustered h)
  removeCounter hs _ _ h :=
    allowsWrite_ofText _ ((hs.types ▸ hs.sound.registry).text_of_bindShared h)

theorem Call.rowsOn_ofText (c : Call E) (start : Site σ E) (changed : List PropertyMeta) :
    c.RowsOn (Since start)
      (AllowsRead (Act.Says (StatementText start.types c.entityMeta changed))) :=
  fun _ _ _ hs h => allowsRead_ofText ((hs.types ▸ hs.sound.registry).text_of_readRequest h)

theorem Call.fieldsOn_ofText (c : Call E) (start : Site σ E) (changed : List PropertyMeta) :
    c.FieldsOn (Since start)
      (AllowsRead (Act.Says (StatementText start.types c.entityMeta changed))) where
  field hs _ h := allowsRead_ofText ((hs.types ▸ hs.sound.registry).text_of_bindSelectField h)
  counter hs _ h := allowsRead_ofText ((hs.types ▸ hs.sound.registry).text_of_readCounterRequest h)

variable [Session σ] [LawfulSession σ] {start : Site σ E}

theorem Call.updatesOn_ofText {c : Call E} {name : String}
    (hmem : (name, c.entityMeta) ∈ start.types) (p : Proxy) :
    c.UpdatesOn (Since start) p (AllowsWrite (Act.Says
      (StatementText start.types c.entityMeta (start.workspace.changed p.handle)))) := by
  intro s t cell request hs hcell hne h
  rw [← hs.changed hcell hne]
  exact allowsWrite_ofText _ (text_of_bindUpdate (hs.types ▸ hs.sound.registry) hmem hne h)

theorem Call.emits_bindUpdate {c : Call E} {name : String}
    (hmem : (name, c.entityMeta) ∈ start.types) {P : Act → Prop} (hP : AllowsQuiet P) (entity : E)
    (properties : List PropertyMeta) :
    Keeps (Emits (Since start) P) (bindUpdate c.type c.entityMeta entity properties c.options
      (Levels.write c.options c.entityMeta)) := by
  intro s hs
  have hprepares := prepares_bindUpdate c.type c.entityMeta entity properties c.options
    (Levels.write c.options c.entityMeta) s
  have hknown := keepsKnown_bindUpdate c name entity properties s ⟨hs.types ▸ hmem, hs.sound⟩
  obtain ⟨texts, htrace, -⟩ := hprepares.asked
  refine ⟨⟨hprepares.types.trans hs.types, hknown.2, ?_⟩, _, htrace, fun act hact => ?_⟩
  · rw [hprepares.workspace]
    exact hs.changed
  · obtain ⟨text, -, rfl⟩ := List.mem_map.1 hact
    exact hP.prepared text

/-- The changed properties that a call writes. -/
def EntityCall.changed (w : Workspace E) : EntityCall E → List PropertyMeta
  | write (.update p) _ => w.changed p.handle
  | _ => []

omit [Session σ] [LawfulSession σ] in
theorem EntityCall.changed_withOptions (call : EntityCall E) (options : Options)
    (w : Workspace E) : (call.withOptions options).changed w = call.changed w := by
  cases call with
  | write write _ => cases write <;> rfl
  | _ => rfl

/-- Whatever a call on entities of a class sends says a text for the class. -/
theorem EntityCall.emits_runIn (call : EntityCall E) {T : EntityType E} {em : EntityMeta}
    (start : Site σ E) (hem : start.types.lookup T.typeName = some em) :
    Emits (Since start) (Act.Says (StatementText start.types em (call.changed start.workspace)))
      start (call.runIn T start).2 := by
  have hI : ∀ s t : Site σ E, SameStore s t → Since start s → Since start t :=
    fun _ _ h hs => hs.of_sameStore h
  refine upholds_runIn (upholds_emits hI (allowsQuiet_ofText _)) (emits_immediately hI) ?_
  have meta_eq {options : Options} {s : Site σ E} {c : Call E} (hs : s.types = start.types)
      (hc : Manager.IsCall T options s c) : em = c.entityMeta :=
    Option.some.inj (hem.symm.trans (hs ▸ hc.lookup_eq))
  cases call with
  | write w options =>
    cases w with
    | update p =>
      intro c hc
      obtain rfl := meta_eq rfl hc
      have hmem := mem_of_lookup hc.lookup_eq
      exact ⟨trivial, c.writesOn_ofText start _, Call.updatesOn_ofText hmem p,
        Call.emits_bindUpdate hmem (allowsQuiet_ofText _)⟩
    | _ =>
      intro c hc
      obtain rfl := meta_eq rfl hc
      exact c.writesOn_ofText start _
  | find key options =>
    intro c hc
    obtain rfl := meta_eq rfl hc
    exact c.rowsOn_ofText start _
  | getProxy key options => trivial
  | refresh p options =>
    intro c hc
    obtain rfl := meta_eq rfl hc
    exact c.rowsOn_ofText start _
  | complete p =>
    intro c cell _ hc
    obtain rfl := meta_eq (s := Manager.atOnce start) rfl hc
    exact c.fieldsOn_ofText start _

/-! ### The contract -/

/-- What was done says texts for the class. If no other type has its class name, these are its own,
and name its table. -/
structure SpeaksFor (types : List (String × EntityMeta)) (em : EntityMeta)
    (changed : List PropertyMeta) (acts : List Act) : Prop where
  shared : ∀ act ∈ acts, act.Says (StatementText types em changed)
  own : SoleClass types em → ∀ act ∈ acts, act.Says fun text =>
    Template.Own em changed text ∧ Template.NamesTable em.tableName text ∨ Template.IsShared text

omit [Session σ] [LawfulSession σ] in
theorem speaksFor_of_emits {t : Site σ E} {em : EntityMeta} {changed : List PropertyMeta}
    {start : Site σ E} (hs : start.Sound)
    (h : Emits (Since start) (Act.Says (StatementText start.types em changed)) start t) :
    ∃ acts, t.trace = start.trace ++ acts ∧ SpeaksFor start.types em changed acts := by
  obtain ⟨-, acts, htrace, hacts⟩ := h (.refl hs)
  exact ⟨acts, htrace, hacts, fun hsole act hact =>
    (hacts act hact).mono fun _ htext =>
      (htext.own hsole).imp_left fun hown => ⟨hown, Template.namesTable_of_own hown⟩⟩

/-- A text of some registered type, or of the shared counter table. -/
def RegisteredText (types : List (String × EntityMeta)) (text : String) : Prop :=
  (∃ name em changed, (name, em) ∈ types ∧ Template.Own em changed text) ∨ Template.IsShared text

omit [Session σ] [LawfulSession σ] in
theorem StatementText.registered {types : List (String × EntityMeta)} {em : EntityMeta}
    {changed : List PropertyMeta} {text : String} (h : StatementText types em changed text) :
    RegisteredText types text :=
  h.imp_left fun ⟨name, em', hmem, _, hown⟩ => ⟨name, em', changed, hmem, hown⟩

section

variable (call : EntityCall E) {T : EntityType E} {em : EntityMeta}

/-- At once a call on a registered type says texts for its class. -/
theorem EntityCall.speaksFor_atOnce {s : Site σ E} (hs : s.Sound)
    (hem : s.types.lookup T.typeName = some em) :
    ∃ acts, ((call.atOnce T).run s).2.trace = s.trace ++ acts ∧
      SpeaksFor s.types em (call.changed s.workspace) acts := by
  rw [call.run_atOnce]
  have hsound : (Manager.atOnce s).Sound := hs.congr rfl rfl rfl
  have hspeaks := speaksFor_of_emits hsound (call.emits_runIn (Manager.atOnce s) hem)
  exact hspeaks

/-- So it does in a window, where a call that is refused for its level does nothing. -/
theorem EntityCall.speaksFor_inWindow {b : Batching σ E} (hb : b.site.Sound)
    (hem : b.site.types.lookup T.typeName = some em) (now : Int) :
    ∃ acts, (call.runInWindow now T b).2.site.trace = b.site.trace ++ acts ∧
      SpeaksFor b.site.types em (call.changed b.site.workspace) acts := by
  rcases call.runInWindow_cases now T b with ⟨outbox, hrun⟩ | ⟨options, last, hrun⟩
  · rw [hrun]
    exact ⟨[], by simp, nofun, fun _ => nofun⟩
  · rw [hrun, ← call.changed_withOptions options]
    exact speaksFor_of_emits hb ((call.withOptions options).emits_runIn b.site hem)

end

omit [LawfulSession σ] in
/-- A call on a type that is not registered sends nothing and hands over nothing. -/
theorem EntityCall.emits_of_no_lookup (call : EntityCall E) {T : EntityType E}
    (start : Site σ E) (hnone : start.types.lookup T.typeName = none) :
    Emits (fun _ => True) (Act.Says fun _ => False) start (call.runIn T start).2 := by
  have hI : ∀ s t : Site σ E, SameStore s t → True → True := fun _ _ _ => id
  refine upholds_runIn (upholds_emits hI (allowsQuiet_ofText _)) (emits_immediately hI) ?_
  have no_call {options : Options} {s : Site σ E} {c : Call E} (hs : s.types = start.types)
      (hc : Manager.IsCall T options s c) : False := by
    have hlookup := hc.lookup_eq
    rw [hs, hnone] at hlookup
    cases hlookup
  cases call with
  | write w options => cases w <;> exact fun c hc => (no_call rfl hc).elim
  | find key options => exact fun c hc => (no_call rfl hc).elim
  | getProxy key options => trivial
  | refresh p options => exact fun c hc => (no_call rfl hc).elim
  | complete p => exact fun c cell _ hc => (no_call (s := Manager.atOnce start) rfl hc).elim

/-- In a window any call says texts of registered types. -/
theorem EntityCall.registered_inWindow (call : EntityCall E) (T : EntityType E)
    {b : Batching σ E} (hb : b.site.Sound) (now : Int) :
    ∃ acts, (call.runInWindow now T b).2.site.trace = b.site.trace ++ acts ∧
      ∀ act ∈ acts, act.Says (RegisteredText b.site.types) := by
  cases hem : b.site.types.lookup T.typeName with
  | some em =>
    obtain ⟨acts, htrace, hspeaks⟩ := call.speaksFor_inWindow hb hem now
    exact ⟨acts, htrace, fun act hact =>
      (hspeaks.shared act hact).mono fun _ htext => htext.registered⟩
  | none =>
    rcases call.runInWindow_cases now T b with ⟨outbox, hrun⟩ | ⟨options, last, hrun⟩
    · rw [hrun]
      exact ⟨[], by simp, nofun⟩
    · rw [hrun]
      obtain ⟨-, acts, htrace, hacts⟩ :=
        (call.withOptions options).emits_of_no_lookup b.site hem trivial
      exact ⟨acts, htrace, fun act hact => (hacts act hact).mono fun _ => False.elim⟩

omit [Session σ] [LawfulSession σ] in
theorem RegisteredText.mono {types types' : List (String × EntityMeta)}
    (htypes : ∀ x ∈ types, x ∈ types') {text : String} (h : RegisteredText types text) :
    RegisteredText types' text :=
  h.imp_left fun ⟨name, em, changed, hmem, hown⟩ => ⟨name, em, changed, htypes _ hmem, hown⟩

/-- Whatever is pending in a reachable state says a text of a registered type. -/
theorem Reachable.text_of_pending {b : Batching σ E} (h : Reachable b) :
    ∀ kind, ∀ r ∈ b.site.outbox.pending kind, RegisteredText b.site.types r.query := by
  refine h.of_moves (P := fun b => ∀ kind, ∀ r ∈ b.site.outbox.pending kind,
    RegisteredText b.site.types r.query)
    (fun session config kind r hr => by cases kind <;> cases hr) fun b c hb hmove ih kind r hr => ?_
  have htypes : ∀ x ∈ b.site.types, x ∈ c.site.types := (Later.refl.move hmove).grown.types
  rcases hmove.outbox_cases hb.isWindow hb.sound.registry.selects with
    hkept | ⟨level, hempty⟩ | ⟨call, acts, hresets, rfl, hacts⟩
  · rw [hkept] at hr
    exact (ih kind r hr).mono htypes
  · rw [hempty] at hr
    cases kind <;> cases hr
  · rw [hacts.pending] at hr
    rcases List.mem_append.1 hr with hr | hr
    · exact (ih kind r hr).mono htypes
    · obtain ⟨now, T, entityCall, hcall⟩ := WindowCall.run_eq_of_not_resets (σ := σ) hresets
      obtain ⟨acts', htrace, hsays⟩ := entityCall.registered_inWindow T hb.sound now
      have heq : acts = acts' := by
        have hboth := hacts.trace
        rw [hcall, htrace] at hboth
        exact (List.append_cancel_left hboth).symm
      have htext : RegisteredText b.site.types r.query :=
        hsays _ (heq ▸ mem_pushedIn.1 hr : Act.pushed kind r ∈ acts')
      exact htext.mono htypes

/-- What the end of a window sends says texts of registered types. -/
theorem Reachable.text_of_ended {b : Batching σ E} (h : Reachable b) :
    ∃ acts, (Batching.endBatch b).2.site.trace = b.site.trace ++ acts ∧
      ∀ g ∈ groupsIn acts, ∀ statement ∈ g.statements,
        RegisteredText b.site.types statement.query := by
  obtain ⟨acts, htrace, hgroups, -⟩ := (Batching.sends_endBatch h.isWindow).trace
  refine ⟨acts, htrace, fun g hg statement hstatement => ?_⟩
  rw [hgroups] at hg
  obtain ⟨kind, -, rfl⟩ := Batching.mem_endGroups hg
  obtain ⟨r, hr, rfl⟩ := List.mem_map.1 hstatement
  rw [Request.query_statement]
  exact h.text_of_pending kind r hr

/-- What a call on a registered type says, at once and in a window, and what the end of a window
says. -/
structure TextContract (b : Batching σ E) (T : EntityType E) (em : EntityMeta) (now : Int)
    (call : EntityCall E) : Prop where
  atOnce : ∃ acts, ((call.atOnce T).run b.site).2.trace = b.site.trace ++ acts ∧
    SpeaksFor b.site.types em (call.changed b.site.workspace) acts
  /-- What is handed over in the window is among the acts. -/
  inWindow : ∃ acts, (call.runInWindow now T b).2.site.trace = b.site.trace ++ acts ∧
    SpeaksFor b.site.types em (call.changed b.site.workspace) acts
  ended : ∃ acts, (Batching.endBatch b).2.site.trace = b.site.trace ++ acts ∧
    ∀ g ∈ groupsIn acts, ∀ statement ∈ g.statements,
      RegisteredText b.site.types statement.query

/-- In every reachable state a call on a registered type says texts of the registered types with its
class name; with no other type of this name these are its own. -/
theorem text_contract {b : Batching σ E} (hb : Reachable b) {T : EntityType E} {em : EntityMeta}
    (hem : b.site.types.lookup T.typeName = some em) (now : Int) (call : EntityCall E) :
    TextContract b T em now call where
  atOnce := call.speaksFor_atOnce hb.sound hem
  inWindow := call.speaksFor_inWindow hb.sound hem now
  ended := hb.text_of_ended

/-! ### Pages -/

namespace Page

/-- Write a new page. -/
def written : EntityCall Page := .write (.persist (.bare ⟨.bigint 1, .text "Start", .empty⟩)) .none

/-- The texts that a call of the manager executes. -/
def executedTexts (b : Batching Script Page) (T : EntityType Page) (call : EntityCall Page) :
    List String :=
  (executedIn (((call.atOnce T).run b.site).2.trace.drop b.site.trace.length)).map Statement.query

/-- With one type of pages the new page is inserted into its own table. -/
theorem text_contract_written :
    TextContract (manager .empty [plain]) plain (entityMeta "pages") 7 written ∧
      SoleClass (manager .empty [plain]).site.types (entityMeta "pages") ∧
      executedTexts (manager .empty [plain]) plain written = [Template.insert (entityMeta "pages")] := by
  refine ⟨text_contract (reachable_manager_type _ _ _ _) (by decide +kernel) 7 written, ?_,
    by decide +kernel⟩
  unfold SoleClass
  decide +kernel

/-- The statement that inserts a page is none of those of archived pages. -/
theorem not_own_insert :
    ¬ Template.Own (entityMeta "archive") [] (Template.insert (entityMeta "pages")) := by
  intro h
  generalize htext : Template.insert (entityMeta "pages") = text at h
  have hdelete : ∀ entry ∈ Template.deletes (entityMeta "archive"),
      Template.insert (entityMeta "pages") ≠ entry.2 := by decide +kernel
  have hcounter : ∀ entry ∈ Template.clusteredCounters (entityMeta "archive"),
      Template.insert (entityMeta "pages") ≠ entry.2 := by decide +kernel
  have hfield : ∀ pm ∈ (entityMeta "archive").plain,
      (Template.selectField (entityMeta "archive") pm).toOption ≠
        some (Template.insert (entityMeta "pages")) := by decide +kernel
  cases h with
  | insert =>
    revert htext
    decide +kernel
  | selectEntity =>
    revert htext
    decide +kernel
  | selectField hpm hselect =>
    apply hfield _ hpm
    rw [hselect, htext]
    rfl
  | update hne => exact hne rfl
  | delete hmem => exact hdelete _ hmem htext
  | clusteredCounter hmem => exact hcounter _ hmem htext

/-- When two types share a class name, a new entity of one is inserted into the table of the
other. -/
theorem not_own_text_of_shared_name :
    ¬ ∀ (b : Batching Script Page) (T : EntityType Page) (em : EntityMeta)
      (call : EntityCall Page), Reachable b → b.site.types.lookup T.typeName = some em →
      ∀ text ∈ executedTexts b T call,
        Template.Own em (call.changed b.site.workspace) text ∨ Template.IsShared text := by
  intro h
  have hexecuted : Template.insert (entityMeta "pages") ∈
      executedTexts (manager .empty [plain, archived]) archived written := by decide +kernel
  have hshared : ¬ Template.IsShared (Template.insert (entityMeta "pages")) := by
    unfold Template.IsShared
    decide +kernel
  rcases h _ archived (entityMeta "archive") written reachable_manager_archived
      (by decide +kernel) _ hexecuted with
    hown | hisShared
  · exact not_own_insert hown
  · exact hshared hisShared

end Page

end WideColumn
