import WideColumn.Proofs.Operation.Frame
import WideColumn.Proofs.Window.Write

/-!
# What operations do, act by act

A run emits acts with a property when every act that it adds to the trace has it (`Emits`). For an
operation on entities it is enough that the requests have it that the operation binds: the ones it
hands to the outbox, on the way there and when they are executed, and the ones that it reads with.
What is known of the site may be counted on, as long as the operations keep it.
-/

namespace WideColumn

open Op

variable {σ E : Type}

/-- On a site with `I` the run keeps `I`, and every act that it adds to the trace has `P`. -/
def Emits (I : Site σ E → Prop) (P : Act → Prop) (s t : Site σ E) : Prop :=
  I s → I t ∧ ∃ acts, t.trace = s.trace ++ acts ∧ ∀ act ∈ acts, P act

/-- A property that acts have for all that an operation does besides sending. -/
structure AllowsQuiet (P : Act → Prop) : Prop where
  prepared (text : String) : P (.prepared text)
  intercepted (h : Handle) (notice : Notice) : P (.intercepted h notice)

/-- A write has the property on its way and when it is executed. -/
structure AllowsWrite (P : Act → Prop) (kind : BatchKind) (r : Request) : Prop where
  pushed : P (.pushed kind r)
  logged : P (.logged (.sent r))
  executed : P (.executed r.statement)

/-- A read has the property when it is executed. -/
structure AllowsRead (P : Act → Prop) (r : Request) : Prop where
  logged : P (.logged (.sent r))
  executed : P (.executed r.statement)

variable {I : Site σ E → Prop} {P : Act → Prop}

theorem composes_emits : Composes (Emits I P) where
  refl s := fun hI => ⟨hI, [], by simp, nofun⟩
  trans hst htu hI := by
    obtain ⟨hI, acts, ht, hacts⟩ := hst hI
    obtain ⟨hI, more, hu, hmore⟩ := htu hI
    refine ⟨hI, acts ++ more, by rw [hu, ht, List.append_assoc], fun act hact => ?_⟩
    rcases List.mem_append.1 hact with hact | hact
    · exact hacts act hact
    · exact hmore act hact

section

variable (hI : ∀ s t : Site σ E, SameStore s t → I s → I t)
include hI

theorem emits_of_sameStore {s t : Site σ E} (h : SameStore s t) (acts : List Act)
    (htrace : t.trace = s.trace ++ acts) (hacts : ∀ act ∈ acts, P act) : Emits I P s t :=
  fun hs => ⟨hI s t h hs, acts, htrace, hacts⟩

/-- The outbox does not matter. -/
theorem Emits.outbox {s t : Site σ E} {before : Outbox E}
    (h : Emits I P { s with outbox := before } t) (after : Outbox E) :
    Emits I P s { t with outbox := after } := by
  intro hs
  obtain ⟨ht, acts, htrace, hacts⟩ := h (hI s _ (.of_eq rfl rfl rfl rfl) hs)
  exact ⟨hI t _ (.of_eq rfl rfl rfl rfl) ht, acts, htrace, hacts⟩

/-- What runs at once emits what it does with an outbox of its own. -/
theorem emits_immediately {α : Type} {op : Op σ E α} {s : Site σ E}
    (h : Emits I P (Manager.atOnce s) (op (Manager.atOnce s)).2) :
    Emits I P s (Manager.immediately op s).2 := by
  rw [Manager.immediately_apply]
  exact Emits.outbox hI h s.outbox

variable [Session σ]

theorem emits_executeRequest {r : Request} (hr : AllowsRead P r) :
    Keeps (Emits I P) (executeRequest r) := by
  intro s
  refine emits_of_sameStore hI (sameStore_executeRequest r s)
    [.logged (.sent r), .executed r.statement] (by rw [executeRequest_apply]) ?_
  simpa using ⟨hr.logged, hr.executed⟩

theorem emits_handOver {kind : BatchKind} {r : Request} (hr : AllowsWrite P kind r) :
    Keeps (Emits I P) (handOver kind r) := by
  intro s
  have hsame := sameStore_handOver kind r s
  rcases handOver_cases kind r s with ⟨-, hrun⟩ | ⟨-, hrun⟩ <;> rw [hrun] at hsame ⊢
  · refine emits_of_sameStore hI hsame _ rfl ?_
    simpa using ⟨hr.pushed, hr.logged, hr.executed⟩
  · refine emits_of_sameStore hI hsame _ rfl ?_
    simpa using hr.pushed

omit [Session σ]

theorem emits_fire (hP : AllowsQuiet P) (T : EntityType E) (h : Handle) (event : Event) :
    Keeps (Emits I P) (fire T h event) := by
  intro s
  cases hc : s.workspace.cell? h with
  | none =>
    rw [fire_of_no_cell T event hc]
    exact composes_emits.refl s
  | some c =>
    have hsame := sameStore_fire T h event s
    rw [fire_apply T event hc] at hsame ⊢
    refine emits_of_sameStore hI hsame _ rfl fun act hact => ?_
    obtain ⟨notice, -, rfl⟩ := List.mem_map.1 hact
    exact hP.intercepted h notice

theorem emits_trigger (hP : AllowsQuiet P) (T : EntityType E) (h : Handle) (event : Event) :
    Keeps (Emits I P) (trigger T h event) := by
  intro s
  have hsame := sameStore_trigger T h event s
  rcases trigger_cases T h event s with ⟨-, hrun⟩ | hrun | ⟨-, hrun⟩ <;> rw [hrun] at hsame ⊢
  · exact composes_emits.refl s
  · exact emits_fire hI hP T h event s
  · exact emits_of_sameStore hI hsame [] (by simp [Site.afterDefer]) nofun

variable [Session σ]

/-- The steps of the operations on entities emit what the requests have that they are given. -/
theorem upholds_emits (hP : AllowsQuiet P) :
    Upholds I (fun _ => True) (Emits I P) (AllowsWrite P) (AllowsRead P) where
  toComposes := composes_emits
  assuming himp hs := himp hs hs
  push := emits_handOver hI
  pushCounter := emits_handOver hI
  execute hr := emits_executeRequest hI hr
  trigger := emits_trigger hI hP
  addEntity entity s := emits_of_sameStore hI (sameStore_addEntity entity s) []
    (by simp) nofun
  fresh _ _ := trivial
  modifyCell h f hdirty _ _ s := emits_of_sameStore hI (admits_sameStore.modifyCell h f hdirty s)
    [] (by simp) nofun
  record {h} f _ hdirty s := emits_of_sameStore hI
    (admits_sameStore.modifyCell h f (fun c => .inl (hdirty c)) s) [] (by simp) nofun

end

end WideColumn
