import WideColumn.Proofs.Level.Sent

/-!
# Timestamps of writes

A write inside a window carries the timestamp that its call asks for, or is given one by the
manager: the reading of the clock, unless this is not later than what was given before. The regular
statements of the write carry this timestamp, and the statements of its counters carry none. Main
statements: `WindowCall.lastTimestamp_run` and `WindowCall.hands`.
-/

namespace WideColumn

open Op

variable {σ E : Type}

/-! ### Requests -/

namespace Registry

variable {r : Registry} {T : EntityType E} {em : EntityMeta} {level : Level} {key : List Value}
  {request : Request}

theorem timestamp_of_bindInsert {entity : E} {options : Options}
    (h : r.bindInsert T em entity options level = .ok request) :
    request.timestamp = options.timestamp := by
  obtain ⟨_, -, h⟩ := except_bind_eq_ok h
  obtain ⟨_, -, h⟩ := except_bind_eq_ok h
  obtain ⟨_, -, h⟩ := except_bind_eq_ok h
  obtain ⟨_, -, h⟩ := except_bind_eq_ok h
  rw [← Except.ok.inj h]
  rfl

theorem timestamp_of_bindRemoval {options : Options} {requests : List Request}
    (h : r.bindRemoval em key options level = .ok requests) :
    ∀ request ∈ requests, request.timestamp = options.timestamp := by
  obtain ⟨_, -, h⟩ := except_bind_eq_ok h
  obtain ⟨_, -, h⟩ := except_bind_eq_ok h
  rw [← Except.ok.inj h]
  intro request hmem
  obtain ⟨_, -, rfl⟩ := List.mem_map.1 hmem
  rfl

theorem timestamp_of_bindClustered {action : CounterAction} {name : String}
    (h : r.bindClustered action name em key level = .ok request) : request.timestamp = none := by
  obtain ⟨_, -, h⟩ := except_bind_eq_ok h
  obtain ⟨_, -, rfl⟩ := bindKey_eq_ok h
  rfl

theorem timestamp_of_bindShared {action : CounterAction} {pm : PropertyMeta}
    (h : r.bindShared action em pm key level = .ok request) : request.timestamp = none := by
  obtain ⟨_, -, h⟩ := except_bind_eq_ok h
  obtain ⟨_, -, h⟩ := except_bind_eq_ok h
  rw [← Except.ok.inj h]
  rfl

end Registry

theorem Call.timestamp_of_bindDelta {c : Call E} {r : Registry} {pm : PropertyMeta}
    {key : List Value} {delta : Int} {request : Request}
    (h : c.bindDelta r pm key delta = .ok request) : request.timestamp = none := by
  unfold bindDelta at h
  dsimp only at h
  -- in its own table and in the shared one the steps are the same
  split at h <;>
  · obtain ⟨_, -, h⟩ := except_bind_eq_ok h
    obtain ⟨_, -, h⟩ := except_bind_eq_ok h
    obtain ⟨_, -, h⟩ := except_bind_eq_ok h
    rw [← Except.ok.inj h]
    rfl

theorem Op.timestamp_of_bindUpdate [Session σ] {T : EntityType E} {em : EntityMeta} {entity : E}
    {properties : List PropertyMeta} {options : Options} {level : Level} {s t : Site σ E}
    {request : Request}
    (h : bindUpdate T em entity properties options level s = (.ok request, t)) :
    request.timestamp = options.timestamp := by
  unfold bindUpdate at h
  rw [get_bind_apply] at h
  obtain ⟨_, _, -, h⟩ := bind_eq_ok h
  obtain ⟨_, _, -, h⟩ := bind_eq_ok h
  obtain ⟨_, _, -, h⟩ := bind_eq_ok h
  obtain ⟨h, -⟩ := Prod.mk.inj h
  rw [← Except.ok.inj h]
  rfl

theorem Request.timestamp_statement (r : Request) : r.statement.timestamp = r.timestamp := rfl

/-! ### Writes of the site -/

/-- A request of a write with a timestamp: a regular one carries it, and a counter write none. -/
def Request.Timed (timestamp : Option Int) : BatchKind → Request → Prop
  | .logged, r => r.timestamp = timestamp
  | .counter, r => r.timestamp = none

/-- The level of a window is no timestamp. -/
theorem Outbox.timestamp_effective (o : Outbox E) (options : Options) :
    (o.effective options).timestamp = options.timestamp := by
  unfold effective
  split <;> rfl

namespace Call

variable (c : Call E) {I : Site σ E → Prop} {Q : Request → Prop}

theorem writesOn_timed :
    c.WritesOn I (AllowsWrite (Act.Carries (Request.Timed c.options.timestamp) Q)) where
  insert _ _ h := allowsWrite_carries (Registry.timestamp_of_bindInsert h)
  delta _ _ h := allowsWrite_carries (timestamp_of_bindDelta h)
  removal _ _ h r hr := allowsWrite_carries (Registry.timestamp_of_bindRemoval h r hr)
  removeRow _ _ h := allowsWrite_carries (Registry.timestamp_of_bindClustered h)
  removeCounter _ _ _ h := allowsWrite_carries (Registry.timestamp_of_bindShared h)

theorem updatesOn_timed [Session σ] (p : Proxy) :
    c.UpdatesOn I p (AllowsWrite (Act.Carries (Request.Timed c.options.timestamp) Q)) :=
  fun _ _ _ _ _ _ _ h => allowsWrite_carries (Op.timestamp_of_bindUpdate h)

end Call

namespace EntityCall

/-- What a call on entities may hand over: a write its timed requests, a read nothing. -/
def Hands : EntityCall E → BatchKind → Request → Prop
  | write _ options => Request.Timed options.timestamp
  | _ => fun _ _ => False

variable [Session σ]

theorem emits_hands (call : EntityCall E) (T : EntityType E) (start : Site σ E) :
    Emits (SameTables start) (Act.Carries call.Hands fun _ => True) start
      (call.runIn T start).2 := by
  have hI : ∀ s t : Site σ E, SameStore s t → SameTables start s → SameTables start t :=
    fun _ _ h hs => hs.of_sameStore h
  refine upholds_runIn (upholds_emits hI allowsQuiet_carries) (emits_immediately hI) ?_
  have hands_eq (w : Write E) {options : Options} {c : Call E}
      (hc : Manager.IsCall T options start c) :
      (write w options).Hands = Request.Timed c.options.timestamp := by
    rw [hc.options_eq, Outbox.timestamp_effective]
    rfl
  cases call with
  | write w options =>
    have hwrites (c : Call E) (hc : Manager.IsCall T options start c) :
        c.WritesOn (SameTables start) (AllowsWrite (Act.Carries (write w options).Hands
          fun _ => True)) := by
      rw [hands_eq w hc]
      exact c.writesOn_timed
    cases w with
    | update p =>
      intro c hc
      refine ⟨trivial, hwrites c hc, ?_, c.emits_bindUpdate_carries start⟩
      rw [hands_eq (.update p) hc]
      exact c.updatesOn_timed p
    | _ => exact hwrites
  | find key options => exact fun _ _ _ _ _ _ _ => allowsRead_carries trivial
  | getProxy key options => trivial
  | refresh p options => exact fun _ _ _ _ _ _ _ => allowsRead_carries trivial
  | complete p =>
    exact fun _ _ _ _ => ⟨fun _ _ _ => allowsRead_carries trivial,
      fun _ _ _ => allowsRead_carries trivial⟩

theorem hands_of_pushed (call : EntityCall E) {T : EntityType E} {s : Site σ E}
    {kind : BatchKind} {r : Request}
    (hr : r ∈ pushedIn kind ((call.runIn T s).2.trace.drop s.trace.length)) :
    call.Hands kind r := by
  obtain ⟨-, acts, htrace, hacts⟩ := call.emits_hands T s ⟨rfl, rfl⟩
  rw [acts_eq htrace] at hr
  exact hacts _ (mem_pushedIn.1 hr)

/-- Whether the call is a write. -/
def isWrite : EntityCall E → Bool
  | write .. => true
  | _ => false

/-- A read in a window hands nothing over. -/
theorem pushedIn_of_not_write {call : EntityCall E} (h : call.isWrite = false) (now : Int)
    (T : EntityType E) (b : Batching σ E) (kind : BatchKind) :
    pushedIn kind ((call.runInWindow now T b).2.site.trace.drop b.site.trace.length) = [] := by
  rw [List.eq_nil_iff_forall_not_mem]
  intro r hr
  rcases call.runInWindow_cases now T b with ⟨outbox, hrun⟩ | ⟨options, last, hrun⟩
  · rw [hrun, List.drop_length] at hr
    cases hr
  · rw [hrun] at hr
    have hhands := (call.withOptions options).hands_of_pushed hr
    cases call with
    | write => cases h
    | _ => exact hhands

end EntityCall

/-! ### Calls of a manager with windows -/

/-- The timestamp that is given to a write with the options; none to one that has its own. -/
def Batching.givenFor (b : Batching σ E) (now : Int) (options : Options) : Option Int :=
  if options.timestamp.isSome then none else some (max now (b.lastTimestamp + 1))

/-- The options that a write runs with. -/
def Batching.timed (b : Batching σ E) (now : Int) (options : Options) : Options :=
  { options with timestamp := options.timestamp.or (b.givenFor now options) }

theorem Batching.stamped_eq (now : Int) (options : Options) (b : Batching σ E) :
    stamped now options b =
      (.ok (b.timed now options),
        { b with lastTimestamp := (b.givenFor now options).getD b.lastTimestamp }) := by
  unfold stamped timed givenFor
  split
  · next hsome =>
    rw [Option.or_of_isSome hsome]
    rfl
  · next hnone =>
    rw [Option.not_isSome_iff_eq_none.1 hnone]
    rfl

theorem Batching.timed_ne_none (b : Batching σ E) (now : Int) (options : Options) :
    (b.timed now options).timestamp ≠ none := by
  unfold timed givenFor
  cases options.timestamp <;> simp

namespace WindowCall

/-- The reading of the clock and the options of a call that writes. -/
def write? : WindowCall E → Option (Int × Options)
  | persist now _ _ options | update now _ _ options | remove now _ _ options => some (now, options)
  | removeById now _ _ => some (now, .none)
  | _ => none

/-- The reading of the clock that a call makes. -/
def reading? (call : WindowCall E) : Option Int := call.write?.map Prod.fst

/-- The timestamp that a call asks for. -/
def asked? (call : WindowCall E) : Option Int := call.write?.bind fun (_, options) =>
  options.timestamp

/-- The timestamp that a call is given: a write that asks for none, unless it is refused for its
level. -/
def given (call : WindowCall E) (b : Batching σ E) : Option Int :=
  call.write?.bind fun (now, options) =>
    if options.hasLevel then none else b.givenFor now options

/-- The timestamp of a call. -/
def timestamp (call : WindowCall E) (b : Batching σ E) : Option Int := call.asked?.or (call.given b)

/-- A call is a write of an entity, or it does not write. -/
theorem write_or_not (call : WindowCall E) :
    (∃ (w : Write E) (now : Int) (T : EntityType E) (options : Options),
      call = w.inWindow now T options ∧ call.write? = some (now, w.windowOptions options)) ∨
    call.write? = none := by
  cases call with
  | persist now T entity options => exact .inl ⟨.persist entity, now, T, options, rfl, rfl⟩
  | update now T p options => exact .inl ⟨.update p, now, T, options, rfl, rfl⟩
  | remove now T entity options => exact .inl ⟨.remove entity, now, T, options, rfl, rfl⟩
  | removeById now T key => exact .inl ⟨.removeById key, now, T, .none, rfl, rfl⟩
  | _ => exact .inr rfl

/-- What a call is given is its reading of the clock, or one more than what was given last. -/
theorem given_eq {call : WindowCall E} {b : Batching σ E} {t : Int} (h : call.given b = some t) :
    ∃ now, call.reading? = some now ∧ t = max now (b.lastTimestamp + 1) := by
  obtain ⟨⟨now, options⟩, hwrite, h⟩ := Option.bind_eq_some_iff.1 h
  refine ⟨now, by simp [reading?, hwrite], ?_⟩
  simp only [Batching.givenFor] at h
  split at h
  · cases h
  · split at h
    · cases h
    · exact (Option.some.inj h).symm

/-- A call that asks for a timestamp is given none. -/
theorem given_of_asked {call : WindowCall E} {t : Int} (h : call.asked? = some t)
    (b : Batching σ E) : call.given b = none := by
  obtain ⟨⟨now, options⟩, hwrite, htimestamp⟩ := Option.bind_eq_some_iff.1 h
  have hsome : options.timestamp.isSome = true := by simp [htimestamp]
  unfold given
  rw [hwrite]
  simp [Batching.givenFor, hsome]

variable [Session σ]

/-- A write runs with its timestamp, and the manager remembers what it gave. -/
theorem run_inWindow_timed {w : Write E} {now : Int} {T : EntityType E} {options : Options}
    (hlevel : (w.windowOptions options).hasLevel = false) (b : Batching σ E) :
    ((w.inWindow now T options).run b).2 =
      { b with
        site := (w.runIn T (b.timed now (w.windowOptions options)) b.site).2
        lastTimestamp := (b.givenFor now (w.windowOptions options)).getD b.lastTimestamp } := by
  rw [w.run_inWindow_eq, Batching.rejectLevel_bind_of_no_level hlevel,
    bind_of_ok (Batching.stamped_eq now _ b)]
  rfl

/-- The manager remembers the timestamp given last. -/
theorem lastTimestamp_run (call : WindowCall E) (b : Batching σ E) :
    (call.run b).2.lastTimestamp = (call.given b).getD b.lastTimestamp := by
  rcases call.write_or_not with ⟨w, now, T, options, rfl, hwrite⟩ | hread
  · unfold given
    rw [hwrite]
    cases hlevel : (w.windowOptions options).hasLevel with
    | true =>
      rw [w.run_inWindow_eq, Batching.rejectLevel_bind_of_level hlevel]
      simp [hlevel]
    | false =>
      rw [run_inWindow_timed hlevel]
      simp [hlevel]
  · unfold given
    rw [hread]
    cases call with
    | startBatch => rfl
    | startBatchAt level => rfl
    | endBatch => rfl
    | cleanBatch => rfl
    | find T key options =>
      rw [show ((find T key options).run b).2 = _ from EntityCall.read_inWindow options _ b]
      split <;> rfl
    | getProxy T key options =>
      rw [show ((getProxy T key options).run b).2 = _ from EntityCall.read_inWindow options _ b]
      split <;> rfl
    | refresh T p options =>
      rw [show ((refresh T p options).run b).2 = _ from discard_apply _ b]
      unfold Batching.refresh
      split <;> rfl
    | _ => cases hread

/-- The regular statements of a call carry its timestamp, and its counter statements none. -/
theorem hands (call : WindowCall E) {b : Batching σ E} (hb : b.site.outbox.IsWindow)
    {kind : BatchKind} {r : Request} (hr : r ∈ pushedIn kind (call.acts b)) :
    call.timestamp b ≠ none ∧ r.Timed (call.timestamp b) kind := by
  rcases call.write_or_not with ⟨w, now, T, options, rfl, hwrite⟩ | hread
  · unfold acts at hr
    cases hlevel : (w.windowOptions options).hasLevel with
    | true =>
      rw [w.run_inWindow_eq, Batching.rejectLevel_bind_of_level hlevel, List.drop_length] at hr
      cases hr
    | false =>
      have htimestamp : (w.inWindow now T options).timestamp b =
          (b.timed now (w.windowOptions options)).timestamp := by
        simp [timestamp, asked?, given, hwrite, hlevel, Batching.timed]
      rw [run_inWindow_timed hlevel] at hr
      rw [htimestamp]
      exact ⟨b.timed_ne_none now _, (EntityCall.write w _).hands_of_pushed hr⟩
  · have hnot : pushedIn kind (call.acts b) = [] := by
      cases call with
      | endBatch =>
        obtain ⟨acts, htrace, -, -, hpushed⟩ := (Batching.sends_endBatch hb).trace
        rw [show endBatch.acts b = acts from acts_eq htrace]
        exact hpushed kind
      | find T key options => exact (EntityCall.find key options).pushedIn_of_not_write rfl 0 T b kind
      | getProxy T key options =>
        exact (EntityCall.getProxy key options).pushedIn_of_not_write rfl 0 T b kind
      | refresh T p options =>
        exact (EntityCall.refresh p options).pushedIn_of_not_write rfl 0 T b kind
      | startBatch | startBatchAt | cleanBatch =>
        exact congrArg (pushedIn kind) (acts_of_resets rfl rfl b)
      | _ => cases hread
    rw [hnot] at hr
    cases hr

end WindowCall

end WideColumn
