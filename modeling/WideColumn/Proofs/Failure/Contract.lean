import WideColumn.Proofs.Event.Calls
import WideColumn.Proofs.Failure.Operations
import WideColumn.Proofs.Simulation.Alike
import WideColumn.Proofs.Window.Pending

/-!
# The first refusal ends an operation

What comes of an operation when the session refuses one of its calls: the reason of the refusal is
its outcome, nothing is done after the call, and no event is put off but the first one of a write.
What was done until then is how the operation begins with any session that gives the same answers
without the refusal, in particular with one that refuses nothing. Main statement:
`failure_contract`.
-/

namespace WideColumn

open Op

variable {σ E : Type}

/-! ### Sessions that refuse less -/

/-- The second session answers what the first one answers, for as long as that one refuses
nothing. -/
def Resembles [Session σ] (x y : σ) : Prop := ∃ R : σ → σ → Prop, Echoes R ∧ R x y

/-- A script without its failures. -/
def Script.unfailing (script : Script) : Script := { script with failures := [] }

/-- A script without its failures answers the same, for as long as the script does not fail. -/
theorem Script.resembles_unfailing (script : Script) : Resembles script script.unfailing := by
  have hnone (s : Script) (sort : CallSort) (text : String) :
      s.unfailing.failure? sort text = none := rfl
  have hanswer (s : Script) (text : String) :
      s.unfailing.answer text = ((s.answer text).1, (s.answer text).2.unfailing) := by
    unfold Script.answer Script.unfailing
    dsimp only
    split <;> rfl
  refine ⟨fun x y => y = x.unfailing, ?_, rfl⟩
  constructor
  case prepare =>
    rintro x y text p rfl h
    simp only [Session.prepare, hnone] at h ⊢
    split at h
    · cases h
    · exact ⟨h, rfl⟩
  case execute =>
    rintro x y statement rows rfl h
    simp only [Session.execute, hnone, hanswer] at h ⊢
    split at h
    · cases h
    · exact ⟨h, rfl⟩
  case executeBatch =>
    rintro x y kind statements level rfl h
    simp only [Session.executeBatch, hnone] at h ⊢
    split at h
    · cases h
    · exact ⟨trivial, rfl⟩

/-- A session resembles itself. -/
theorem echoes_eq [Session σ] : Echoes (Eq : σ → σ → Prop) where
  prepare h ha := by
    subst h
    exact ⟨ha, rfl⟩
  execute h ha := by
    subst h
    exact ⟨ha, rfl⟩
  executeBatch h ha := by
    subst h
    exact ⟨ha, rfl⟩

/-- Whatever a session refuses, an operation begins with the same acts when another one resembles
it. -/
theorem HaltsWith.begins [Session σ] {R : σ → σ → Prop} {op : BatchOp σ E Unit}
    {b : Batching σ E} {acts : List Act} (h : HaltsWith R op b acts) {session : σ}
    (hsession : R b.site.session session) : ∃ more,
    (op { b with site.session := session }).2.site.trace = b.site.trace ++ acts ++ more := by
  cases h.ending with
  | cut _ _ hbegins => exact hbegins session hsession
  | accepted _ hsame =>
    obtain ⟨session', -, hop⟩ := hsame session hsession
    have hop : op { b with site.session := session } =
        ((op b).1, { (op b).2 with site.session := session' }) := hop
    refine ⟨[], ?_⟩
    rw [hop, List.append_nil]
    exact h.trace

/-- Where a session refuses nothing, an operation does and answers the same when another one
resembles it. -/
theorem HaltsWith.same [Session σ] {R : σ → σ → Prop} {op : BatchOp σ E Unit}
    {b : Batching σ E} {acts : List Act} (h : HaltsWith R op b acts)
    (haccepted : isRefused b.site.session acts = false) {session : σ}
    (hsession : R b.site.session session) :
    (op { b with site.session := session }).1 = (op b).1 ∧
      (op { b with site.session := session }).2.site.trace = b.site.trace ++ acts := by
  cases h.ending with
  | cut _ hcut _ =>
    obtain ⟨before, call, rfl, -, hcall⟩ := hcut
    have hrefused : isRefused b.site.session (before ++ [call]) = true :=
      isRefused_of_refusal hcall
    rw [hrefused] at haccepted
    cases haccepted
  | accepted _ hsame =>
    obtain ⟨session', -, hop⟩ := hsame session hsession
    have hop : op { b with site.session := session } =
        ((op b).1, { (op b).2 with site.session := session' }) := hop
    rw [hop]
    exact ⟨rfl, h.trace⟩

/-! ### Operations -/

/-- Whatever can be asked of a manager. -/
inductive Operation (E : Type) where
  | manager (call : ManagerCall E)
  | completeAll (T : EntityType E) (proxies : List Proxy)
  | window (call : WindowCall E)

namespace Operation

/-- Run an operation. What a manager runs at once does not go through the window. -/
def run [Session σ] : Operation E → BatchOp σ E Unit
  | manager call => Batching.onSite call.run
  | completeAll T proxies => Batching.onSite (Manager.completeAll T proxies)
  | window call => call.run

/-- Whether the operation gives up or sends what is pending, whatever comes of it. -/
def resets : Operation E → Bool
  | window call => call.resets
  | _ => false

/-- The events that an operation puts off before it asks anything of the session: a write in a
window its first event, on the entity of its proxy. -/
def opening (b : Batching σ E) : Operation E → List (Deferred E)
  | window (.persist _ T _ _) => T.deferring b.site.workspace.fresh [.prePersist]
  | window (.update _ T p _) => T.deferring p.handle [.preUpdate]
  | window (.remove _ T _ _) => T.deferring b.site.workspace.fresh [.preRemove]
  | _ => []

/-- What is put off before an operation, unless the operation gives it up. -/
def kept (b : Batching σ E) (op : Operation E) : List (Deferred E) :=
  if op.resets then [] else b.site.outbox.events

end Operation

section

variable [Session σ]

theorem Echoes.halts_run {R : σ → σ → Prop} (hR : Echoes R) (op : Operation E) :
    Halts R (op.run : BatchOp σ E Unit) := by
  cases op with
  | manager call => exact Batching.halts_onSite (call.halts_run hR)
  | completeAll T proxies => exact Batching.halts_onSite (Manager.halts_completeAll hR T proxies)
  | window call => exact call.halts_run hR

/-! ### Events -/

/-- Sending leaves the outbox as it is. -/
theorem outbox_sendAll (pending : Outbox E) (s : Site σ E) :
    (sendAll pending s).2.outbox = s.outbox := by
  have hR : Composes fun s t : Site σ E => t.outbox = s.outbox :=
    ⟨fun _ => rfl, fun hst htu => htu.trans hst⟩
  have hgroup (kind : BatchKind) (requests : List Request) (level : Level) :
      Keeps (fun s t : Site σ E => t.outbox = s.outbox) (sendGroup kind requests level) := by
    unfold sendGroup
    split
    · exact hR.bind (fun _ => rfl) fun _ => hR.bind (hR.forM fun _ _ _ => rfl) fun _ =>
        hR.bind (fun _ => rfl) fun _ s => by rw [executeBatch_apply]
    · exact hR.pure _
  exact hR.bind (hR.forM fun d _ s => (looksOn_fire d.type d.handle d.event s).outbox) (fun _ =>
    hR.bind (hgroup _ _ _) fun _ => hgroup _ _ _) s

/-- After a call that resets the window nothing is put off. -/
theorem WindowCall.events_of_resets {call : WindowCall E} (hresets : call.resets = true)
    (b : Batching σ E) : (call.run b).2.site.outbox.events = [] := by
  rcases call.eq_endBatch_or with rfl | hend
  · have houtbox : (WindowCall.endBatch.run b).2.site.outbox =
        b.site.outbox.reset b.defaultLevel := outbox_sendAll _ _
    rw [houtbox]
    rfl
  · obtain ⟨level, hsite⟩ := call.run_of_resets hresets hend b
    rw [hsite]
    rfl

theorem Manager.outbox_completeAll (T : EntityType E) (proxies : List Proxy) (s : Site σ E) :
    (Manager.completeAll T proxies s).2.outbox = s.outbox :=
  (⟨fun _ => rfl, fun hst htu => htu.trans hst⟩ :
    Composes fun s t : Site σ E => t.outbox = s.outbox).forM
      (fun p _ => Manager.outbox_complete T p) s

omit [Session σ] in
/-- A write that fails puts off its first event at most. -/
theorem EntityType.PutsOff.prefix_of_error {α : Type} {T : EntityType E} {h : Handle}
    {first last : Event} {answer : Except Stop α} {events : List (Deferred E)} {e : Stop}
    (hputs : T.PutsOff h first last answer events) (he : answer = .error e) :
    events <+: T.deferring h [first] := by
  subst he
  rcases hputs with rfl | rfl
  · exact List.nil_prefix
  · exact List.prefix_refl _

/-- A call that fails puts off what it puts off before it asks anything of the session, or less. -/
theorem WindowCall.events_of_error {call : WindowCall E} {b : Batching σ E} {e : Stop}
    (hmode : b.site.outbox.mode = .batching) (he : (call.run b).1 = .error e) : ∃ events,
    (call.run b).2.site.outbox.events = (Operation.window call).kept b ++ events ∧
      events <+: (Operation.window call).opening b := by
  cases hresets : call.resets with
  | true =>
    refine ⟨[], ?_, List.nil_prefix⟩
    rw [call.events_of_resets hresets]
    simp [Operation.kept, Operation.resets, hresets]
  | false =>
    obtain ⟨events, hevents, hrecords, -⟩ := call.records hresets hmode
    have hkept : (Operation.window call).kept b = b.site.outbox.events := by
      simp [Operation.kept, Operation.resets, hresets]
    refine ⟨events, by rw [hkept, hevents], ?_⟩
    cases call with
    | persist now T entity options =>
      have hrun : (WindowCall.persist now T entity options).run b =
          ((Batching.persist now T entity options b).1.map fun _ => (),
            (Batching.persist now T entity options b).2) := discard_run _ b
      rw [hrun] at he
      rcases hanswer : (Batching.persist now T entity options b).1 with e | p
      · exact hrecords.1.prefix_of_error hanswer
      · rw [hanswer] at he
        cases he
    | update now T p options => exact hrecords.prefix_of_error he
    | remove now T entity options => exact hrecords.prefix_of_error he
    | _ =>
      obtain rfl : events = [] := hrecords
      exact List.nil_prefix

/-- An operation that fails puts off what it puts off before it asks anything of the session, or
less. -/
theorem Operation.events_of_error {op : Operation E} {b : Batching σ E} {e : Stop}
    (hmode : b.site.outbox.mode = .batching) (he : (op.run b).1 = .error e) : ∃ events,
    (op.run b).2.site.outbox.events = op.kept b ++ events ∧ events <+: op.opening b := by
  have hstays {s : Site σ E} (h : s.outbox = b.site.outbox) : ∃ events,
      s.outbox.events = b.site.outbox.events ++ events ∧ events <+: ([] : List (Deferred E)) :=
    ⟨[], by rw [h, List.append_nil], List.nil_prefix⟩
  cases op with
  | manager call => exact hstays (call.outbox_run_all b.site)
  | completeAll T proxies => exact hstays (Manager.outbox_completeAll T proxies b.site)
  | window call => exact call.events_of_error hmode he

/-! ### The contract -/

/-- What an operation does, whose acts are given, when the session refuses one of its calls. -/
structure FailureContract (op : Operation E) (b : Batching σ E) (acts : List Act) : Prop where
  /-- The acts are what the operation adds to the trace. -/
  trace : (op.run b).2.site.trace = b.site.trace ++ acts
  /-- The session was asked the calls among them, and nothing else. -/
  session : (op.run b).2.site.session = replay b.site.session acts
  /-- The reason of a refusal is the outcome, whatever the call and wherever it stands. -/
  outcome : ∀ before call after e, acts = before ++ call :: after →
    call.refusal? (replay b.site.session before) = some e → (op.run b).1 = .error e
  /-- The call that is refused is the last act: no other call is made, and no interceptor runs. -/
  last : ∀ before call after e, acts = before ++ call :: after →
    call.refusal? (replay b.site.session before) = some e → after = []
  /-- Inside a window the operation put off no event but its first one. -/
  events : b.site.outbox.mode = .batching → isRefused b.site.session acts = true → ∃ events,
    (op.run b).2.site.outbox.events = op.kept b ++ events ∧ events <+: op.opening b
  /-- With a session that gives the same answers without the refusal, the operation begins with the
  same acts. -/
  begins : ∀ session, Resembles b.site.session session → ∃ more,
    (op.run { b with site.session := session }).2.site.trace = b.site.trace ++ acts ++ more
  /-- If nothing is refused, it does and answers the same. -/
  same : isRefused b.site.session acts = false → ∀ session, Resembles b.site.session session →
    (op.run { b with site.session := session }).1 = (op.run b).1 ∧
      (op.run { b with site.session := session }).2.site.trace = b.site.trace ++ acts

/-- Every operation stops at the first call that the session refuses, in every state and with every
session. -/
theorem failure_contract (b : Batching σ E) (op : Operation E) :
    ∃ acts, FailureContract op b acts := by
  obtain ⟨acts, hrun⟩ := echoes_eq.halts_run op b
  -- What was done does not depend on how another session is related to this one.
  have hother {session : σ} (h : Resembles b.site.session session) :
      ∃ R, R b.site.session session ∧ HaltsWith R op.run b acts := by
    obtain ⟨R, hR, hsessions⟩ := h
    obtain ⟨acts', hrun'⟩ := hR.halts_run op b
    obtain rfl := List.append_cancel_left (hrun.trace.symm.trans hrun'.trace)
    exact ⟨R, hsessions, hrun'⟩
  have hrefused (h : isRefused b.site.session acts = true) :
      ∃ e, (op.run b).1 = .error e ∧ CutShort b.site.session acts e := by
    cases hrun.ending with
    | accepted haccepted =>
      have haccepted : isRefused b.site.session acts = false := haccepted
      rw [haccepted] at h
      cases h
    | cut he hcut => exact ⟨_, he, hcut⟩
  have hlast {before after : List Act} {call : Act} {e : Stop}
      (hacts : acts = before ++ call :: after)
      (hcall : call.refusal? (replay b.site.session before) = some e) :
      (op.run b).1 = .error e ∧ after = [] := by
    obtain ⟨e', he, hcut⟩ := hrefused (by rw [hacts, isRefused_of_refusal hcall])
    rw [hacts] at hcut
    obtain ⟨rfl, hafter⟩ := hcut.refused_last hcall
    exact ⟨he, hafter⟩
  refine ⟨acts, ?_⟩
  constructor
  case trace => exact hrun.trace
  case session => exact hrun.session
  case outcome => exact fun _ _ _ _ hacts hcall => (hlast hacts hcall).1
  case last => exact fun _ _ _ _ hacts hcall => (hlast hacts hcall).2
  case events =>
    intro hmode h
    obtain ⟨e, he, -⟩ := hrefused h
    exact op.events_of_error hmode he
  case begins =>
    intro session hsession
    obtain ⟨R, hsessions, hrun'⟩ := hother hsession
    exact hrun'.begins hsessions
  case same =>
    intro haccepted session hsession
    obtain ⟨R, hsessions, hrun'⟩ := hother hsession
    exact hrun'.same haccepted hsessions

end

/-! ### Pages -/

namespace Page

/-- A page that was changed and visited, with a session that cancels the update of its row. -/
def cancelling : Batching Script Page :=
  let script := Script.empty.addFailure ⟨.execute, "UPDATE pages", .cancelled "Timeout"⟩
  visited (titled (opened (manager script [plain]) plain first) plain first "Start") plain first 2

/-- The same with a session that refuses nothing. -/
def uncancelled : Batching Script Page :=
  { cancelling with site.session := cancelling.site.session.unfailing }

/-- Write what changed on the page. -/
def updateFirst : Operation Page := .manager (.update plain first .none)

/-- The update of the row is cancelled, so the visits are not written. Without the failure the
update begins in the same way, and writes them. -/
theorem failure_contract_cancelling : ∃ acts more,
    FailureContract updateFirst cancelling acts ∧
      isRefused cancelling.site.session acts = true ∧
      (updateFirst.run cancelling).1 = .error (.cancelled "Timeout") ∧
      (updateFirst.run uncancelled).2.site.trace = cancelling.site.trace ++ (acts ++ more) ∧
      (executedIn acts).length = 1 ∧ (executedIn (acts ++ more)).length = 2 := by
  obtain ⟨acts, h⟩ := failure_contract cancelling updateFirst
  obtain ⟨more, hmore⟩ := h.begins _ cancelling.site.session.resembles_unfailing
  rw [List.append_assoc] at hmore
  have hacts := acts_eq h.trace
  have hall := acts_eq hmore
  refine ⟨acts, more, h, ?_, by decide +kernel, hmore, ?_, ?_⟩
  · rw [← hacts]
    decide +kernel
  · rw [← hacts]
    decide +kernel
  · rw [← hall]
    decide +kernel

end Page

end WideColumn
