import WideColumn.Proofs.Window.Pending

/-!
# The log of statements

Every statement that is sent has its line in the log, in the order of sending, and the line names
the text of the statement and the level that it is sent at; the last line of a group names the level
of the group, at which all its statements are sent. A refused statement was logged before it was
sent. Main statement: `Reachable.logAgrees`.
-/

namespace WideColumn

open Op

variable {σ E : Type}

/-- The line that the log has for a statement. -/
def Statement.logMessage (s : Statement) : String :=
  let label := if s.isPrepared then "Prepared statement" else "Simple query"
  s!"{label} : [{s.query}] with consistency level [{s.level.name}]"

/-- The line of a request is that of the statement that is sent for it. -/
theorem LogLine.message_sent (r : Request) :
    (LogLine.sent r).message = r.statement.logMessage := by
  have hlabel : r.label =
      if r.statement.isPrepared then "Prepared statement" else "Simple query" := by
    obtain ⟨source, _, _, _⟩ := r
    cases source <;> rfl
  unfold message Statement.logMessage
  dsimp only
  rw [hlabel, Request.query_statement]
  rfl

/-- The lines of statements in the log, oldest first. -/
def loggedIn (acts : List Act) : List String :=
  acts.filterMap fun
    | .logged (.sent r) => some (LogLine.sent r).message
    | _ => none

/-- The last lines of groups in the log, oldest first. -/
def endsIn (acts : List Act) : List String :=
  acts.filterMap fun
    | .logged (.batchEnd kind level) => some (LogLine.batchEnd kind level).message
    | _ => none

/-- The statements that were sent, alone or in groups, oldest first. -/
def statementsIn (acts : List Act) : List Statement :=
  acts.flatMap fun
    | .executed statement => [statement]
    | .sentBatch _ statements _ => statements
    | _ => []

/-- The log says what was sent. -/
structure LogAgrees (acts : List Act) : Prop where
  lines : loggedIn acts = (statementsIn acts).map Statement.logMessage
  ends : endsIn acts = (groupsIn acts).map fun g => (LogLine.batchEnd g.kind g.level).message
  /-- The statements of a group are sent at its level. -/
  groups : ∀ g ∈ groupsIn acts, ∀ statement ∈ g.statements, statement.level = g.level

namespace LogAgrees

theorem nil : LogAgrees [] := ⟨rfl, rfl, fun _ h => absurd h List.not_mem_nil⟩

theorem append {acts more : List Act} (h : LogAgrees acts) (hmore : LogAgrees more) :
    LogAgrees (acts ++ more) where
  lines := by
    have hlines := h.lines
    have hlines' := hmore.lines
    unfold loggedIn statementsIn at *
    rw [List.filterMap_append, List.flatMap_append, List.map_append, hlines, hlines']
  ends := by
    have hends := h.ends
    have hends' := hmore.ends
    rw [groupsIn_append, List.map_append, ← hends, ← hends']
    exact List.filterMap_append
  groups g hg := by
    rw [groupsIn_append] at hg
    rcases List.mem_append.1 hg with hg | hg
    · exact h.groups g hg
    · exact hmore.groups g hg

/-- Acts that neither log nor send. -/
inductive IsSilent : Act → Prop
  | pushed (kind : BatchKind) (r : Request) : IsSilent (.pushed kind r)
  | prepared (text : String) : IsSilent (.prepared text)
  | intercepted (h : Handle) (notice : Notice) : IsSilent (.intercepted h notice)

theorem of_silent {act : Act} (h : IsSilent act) : LogAgrees [act] := by
  cases h <;> exact ⟨rfl, rfl, fun _ h => absurd h List.not_mem_nil⟩

theorem map_silent {α : Type} (f : α → Act) (hf : ∀ x, IsSilent (f x)) (xs : List α) :
    LogAgrees (xs.map f) := by
  induction xs with
  | nil => exact nil
  | cons x xs ih => exact append (of_silent (hf x)) ih

/-- A statement that is sent alone. -/
theorem executed (r : Request) : LogAgrees [.logged (.sent r), .executed r.statement] where
  lines := congrArg (fun line => [line]) (LogLine.message_sent r)
  ends := rfl
  groups _ h := absurd h List.not_mem_nil

/-- The lines of the statements of a group, before it is sent. -/
theorem of_map_sent (requests : List Request) :
    loggedIn (requests.map fun r => .logged (.sent r)) =
        (requests.map Request.statement).map Statement.logMessage ∧
      endsIn (requests.map fun r => .logged (.sent r)) = [] ∧
      statementsIn (requests.map fun r => .logged (.sent r)) = [] := by
  induction requests with
  | nil => exact ⟨rfl, rfl, rfl⟩
  | cons r rest ih =>
    refine ⟨?_, ih.2.1, ih.2.2⟩
    rw [List.map_cons, List.map_cons, List.map_cons, ← ih.1, ← LogLine.message_sent]
    rfl

/-- A group that is sent with its lines. -/
theorem group (kind : BatchKind) {requests : List Request} {level : Level}
    (hlevel : ∀ r ∈ requests, r.level = level) :
    LogAgrees (groupLines kind requests level ++
      [.sentBatch kind (requests.map Request.statement) level]) := by
  obtain ⟨hlines, hends, hstatements⟩ := of_map_sent requests
  have hgroups : groupsIn (groupLines kind requests level ++
      [.sentBatch kind (requests.map Request.statement) level]) =
        [⟨kind, requests.map Request.statement, level⟩] := by
    rw [groupsIn_append, (quiet_groupLines kind requests level).2.1]
    rfl
  constructor
  case lines =>
    have hlogged : loggedIn (groupLines kind requests level ++
        [.sentBatch kind (requests.map Request.statement) level]) =
          loggedIn (requests.map fun r => .logged (.sent r)) := by
      simp [groupLines, loggedIn]
    have hsent : statementsIn (groupLines kind requests level ++
        [.sentBatch kind (requests.map Request.statement) level]) =
          statementsIn (requests.map fun r => .logged (.sent r)) ++
            requests.map Request.statement := by
      simp [groupLines, statementsIn]
    rw [hlogged, hsent, hlines, hstatements, List.nil_append]
  case ends =>
    have hend : endsIn (groupLines kind requests level ++
        [.sentBatch kind (requests.map Request.statement) level]) =
          endsIn (requests.map fun r => .logged (.sent r)) ++
            [(LogLine.batchEnd kind level).message] := by
      simp [groupLines, endsIn]
    rw [hend, hends, hgroups]
    rfl
  case groups =>
    intro g hg statement hstatement
    rw [hgroups] at hg
    rw [List.mem_singleton.1 hg] at hstatement ⊢
    obtain ⟨r, hr, rfl⟩ := List.mem_map.1 hstatement
    exact hlevel r hr

end LogAgrees

/-! ### Operations -/

/-- What was done in between agrees with the log. -/
def Logs (s t : Site σ E) : Prop := ∃ acts, t.trace = s.trace ++ acts ∧ LogAgrees acts

namespace Logs

theorem of_trace {s t : Site σ E} {acts : List Act} (htrace : t.trace = s.trace ++ acts)
    (hacts : LogAgrees acts) : Logs s t := ⟨acts, htrace, hacts⟩

theorem of_same_trace {s t : Site σ E} (htrace : t.trace = s.trace) : Logs s t :=
  ⟨[], by rw [htrace, List.append_nil], .nil⟩

theorem composes : Composes (Logs (σ := σ) (E := E)) where
  refl _ := of_same_trace rfl
  trans hst htu := by
    obtain ⟨acts, ht, hacts⟩ := hst
    obtain ⟨more, hu, hmore⟩ := htu
    exact ⟨acts ++ more, by rw [hu, ht, List.append_assoc], hacts.append hmore⟩

theorem fire (T : EntityType E) (h : Handle) (event : Event) :
    Keeps (Logs (σ := σ)) (fire T h event) := by
  intro s
  cases hc : s.workspace.cell? h with
  | none =>
    rw [fire_of_no_cell T event hc]
    exact composes.refl s
  | some c =>
    rw [fire_apply T event hc]
    exact of_trace rfl (.map_silent _ (.intercepted h) _)

variable [Session σ]

theorem executeRequest (r : Request) : Keeps (Logs (σ := σ) (E := E)) (executeRequest r) := by
  intro s
  rw [executeRequest_apply]
  exact of_trace rfl (.executed r)

/-- A write is logged when it is executed. -/
theorem handOver (kind : BatchKind) (r : Request) :
    Keeps (Logs (σ := σ) (E := E)) (handOver kind r) := by
  intro s
  rcases handOver_cases kind r s with ⟨-, hrun⟩ | ⟨-, hrun⟩ <;> rw [hrun]
  · exact of_trace rfl (LogAgrees.append (.of_silent (.pushed kind r)) (.executed r))
  · exact of_trace rfl (.of_silent (.pushed kind r))

theorem admits : Admits (Logs (σ := σ) (E := E)) fun _ _ => True where
  toComposes := composes
  push _ := handOver .logged _
  pushCounter _ := handOver .counter _
  trigger T h event s := by
    rcases trigger_cases T h event s with ⟨-, hrun⟩ | hrun | ⟨-, hrun⟩ <;> rw [hrun]
    · exact composes.refl s
    · exact fire T h event s
    · exact of_same_trace rfl
  addEntity _ _ := of_same_trace rfl
  modifyCell _ _ _ _ := of_same_trace rfl

theorem bindUpdate (T : EntityType E) (em : EntityMeta) (entity : E)
    (properties : List PropertyMeta) (options : Options) (level : Level) :
    Keeps (Logs (σ := σ)) (bindUpdate T em entity properties options level) := by
  intro s
  obtain ⟨texts, htrace, -⟩ := (prepares_bindUpdate T em entity properties options level s).asked
  exact of_trace htrace (.map_silent _ .prepared texts)

theorem admitsCalls : AdmitsCalls (Logs (σ := σ) (E := E)) where
  toAdmits := admits
  executeRequest := executeRequest
  fire := fire
  updateIn _ p _ _ := Manager.call_bind_at composes fun c _ =>
    c.keeps_update admits c.writes_true (fun _ _ => bindUpdate _ _ _ _ _ _) p _
  outbox _ _ := of_same_trace rfl

/-- A group is logged before it is sent, at the level of the window. -/
theorem sendGroup (kind : BatchKind) {requests : List Request} {level : Level}
    (hlevel : ∀ r ∈ requests, r.level = level) :
    Keeps (Logs (σ := σ) (E := E)) (sendGroup kind requests level) := by
  intro s
  cases hempty : requests.isEmpty with
  | true =>
    unfold Op.sendGroup
    rw [hempty]
    exact composes.refl s
  | false =>
    rw [sendGroup_apply hlevel hempty]
    exact of_trace rfl (.group kind hlevel)

theorem endBatch {b : Batching σ E} (h : b.site.outbox.IsWindow) :
    OnSites Logs b (Batching.endBatch b).2 := by
  have hsend : Keeps (Logs (σ := σ)) (sendAll b.site.outbox) :=
    composes.bind (composes.forM fun d _ => fire d.type d.handle d.event) fun _ =>
      composes.bind (sendGroup .logged (h.level .logged)) fun _ =>
        sendGroup .counter (h.level .counter)
  exact hsend { b.site with outbox := b.site.outbox.reset b.defaultLevel }

theorem register (T : EntityType E) : Keeps (Logs (σ := σ)) (Manager.register T) :=
  Manager.keeps_register composes (fun _ text _ => of_trace rfl (.of_silent (.prepared text)))
    (fun _ _ => of_same_trace rfl) (fun _ _ => of_same_trace rfl) T

end Logs

/-! ### Moves -/

variable [Session σ]

/-- Every move logs what it sends. -/
theorem Move.logs {b c : Batching σ E} (hb : b.site.outbox.IsWindow) (h : Move b c) :
    Logs b.site c.site := by
  have hR := Logs.admitsCalls (σ := σ) (E := E)
  cases h with
  | restart => exact .of_same_trace rfl
  | edit => exact .of_same_trace rfl
  | complete T p => exact Manager.keeps_complete_of_admits hR T p b.site
  | window call => exact call.keeps_run_of_endBatch hR (Logs.endBatch hb)
  | manager call =>
    cases hregister : call.isRegister with
    | false => exact call.keeps_run hR hregister b.site
    | true =>
      cases call with
      | register T =>
        show Logs b.site ((do let _ ← Manager.register T : Op σ E Unit) b.site).2
        rw [discard_apply]
        exact Logs.register T b.site
      | _ => cases hregister

/-- In every reachable state the log says what was sent since the start, and at which level. -/
theorem Reachable.logAgrees [LawfulSession σ] {b : Batching σ E} (h : Reachable b) :
    LogAgrees b.site.trace := by
  refine h.of_moves (P := fun b => LogAgrees b.site.trace) (fun _ _ => .nil)
    fun b c hb hmove ih => ?_
  obtain ⟨acts, htrace, hacts⟩ := hmove.logs hb.isWindow
  rw [htrace]
  exact ih.append hacts

end WideColumn
