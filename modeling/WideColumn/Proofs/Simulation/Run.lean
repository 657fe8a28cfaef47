import WideColumn.Proofs.Simulation.Operations

/-!
# Runs on alike sites

The writes that a program asks for, one after the other, at once and inside a window. Each has the
same outcome, and the sites stay alike (`Asked.agree_op`, `alike_runEach`).
-/

namespace WideColumn

open Op

variable {σ E : Type}

/-! ### Writes -/

/-- A write that a program asks for. Only a window reads the clock. -/
structure Asked (E : Type) where
  now : Int
  type : EntityType E
  options : Options
  write : Write E

/-- Run operations one after the other, whatever comes of each. -/
def runEach {S α : Type} : List (ExceptT Stop (StateM S) α) → S → List (Except Stop α) × S
  | [], s => ([], s)
  | op :: rest, s =>
    let (answers, t) := runEach rest (op s).2
    ((op s).1 :: answers, t)

namespace Asked

variable [Session σ]

/-- The write by a manager without windows. A new entity is answered by its proxy. -/
def atOnce (a : Asked E) : Op σ E (Option Proxy) :=
  match a.write with
  | .persist entity => do return some (← Manager.persist a.type entity a.options)
  | .update p => do
    Manager.update a.type p a.options
    return none
  | .remove entity => do
    Manager.remove a.type entity a.options
    return none
  | .removeById key => do
    Manager.removeById a.type key a.options
    return none

/-- The write by a manager with windows. -/
def inWindow (a : Asked E) : BatchOp σ E (Option Proxy) :=
  match a.write with
  | .persist entity => do return some (← Batching.persist a.now a.type entity a.options)
  | .update p => do
    Batching.update a.now a.type p a.options
    return none
  | .remove entity => do
    Batching.remove a.now a.type entity a.options
    return none
  | .removeById key => do
    Batching.removeById a.now a.type key
    return none

/-- The write with the outbox of the site. -/
def op (a : Asked E) (options : Options) : Op σ E (Option Proxy) :=
  match a.write with
  | .persist entity => do return some (← Manager.persistIn a.type entity options)
  | .update p => do
    Manager.updateIn a.type p options
    return none
  | .remove entity => do
    Manager.removeIn a.type entity options
    return none
  | .removeById key => do
    Manager.removeByIdIn a.type key options
    return none

/-- The proxy that is updated has a cell. -/
def HasCell (a : Asked E) (s : Site σ E) : Prop :=
  ∀ p, a.write = .update p → ∃ c, s.workspace.cell? p.handle = some c

theorem atOnce_apply (a : Asked E) (s : Site σ E) :
    a.atOnce s = ((a.op a.options (Manager.atOnce s)).1,
      { (a.op a.options (Manager.atOnce s)).2 with outbox := s.outbox }) := by
  unfold atOnce op
  cases a.write <;> exact congrFun (immediately_bind_pure _ _) s

/-- Without a level of its own the write is a write of the site, with a timestamp. -/
theorem inWindow_apply (a : Asked E) (hlevel : a.options.hasLevel = false) (b : Batching σ E) :
    ∃ options' last, (a.write.windowOptions a.options).Stamped options' ∧
      a.inWindow b = ((a.op options' b.site).1,
        { b with site := (a.op options' b.site).2, lastTimestamp := last }) := by
  have write {α β : Type} (f : α → β) (op : Options → Op σ E α) :
      ∃ options' last, a.options.Stamped options' ∧
        ((Batching.rejectLevel a.options >>= fun _ => Batching.stamped a.now a.options >>= fun o =>
          Batching.onSite (op o)) >>= fun x => pure (f x)) b =
            (((op options' >>= fun x => pure (f x)) b.site).1,
              { b with site := ((op options' >>= fun x => pure (f x)) b.site).2
                       lastTimestamp := last }) := by
    simp only [bind_assoc, onSite_bind_pure]
    rw [Batching.rejectLevel_bind_of_no_level hlevel]
    exact Batching.stamped_bind_options a.now a.options (fun o => op o >>= fun x => pure (f x)) b
  unfold inWindow op
  cases a.write with
  | persist entity => exact write some fun o => Manager.persistIn a.type entity o
  | update p => exact write (fun _ => none) fun o => Manager.updateIn a.type p o
  | remove entity => exact write (fun _ => none) fun o => Manager.removeIn a.type entity o
  | removeById key =>
    have hstamped := Batching.stamped_bind_options a.now .none
      (fun o => Manager.removeByIdIn a.type key o >>= fun _ => pure (none : Option Proxy)) b
    show ∃ options' last, _ ∧ ((Batching.stamped a.now .none >>= fun o =>
      Batching.onSite (Manager.removeByIdIn a.type key o)) >>= fun _ => pure none) b = _
    simp only [bind_assoc, onSite_bind_pure]
    exact hstamped

/-- In a window the write is a call of the manager; only its answer is left out there. -/
theorem inWindow_snd (a : Asked E) (b : Batching σ E) :
    (a.inWindow b).2 = ((a.write.inWindow a.now a.type a.options).run b).2 := by
  have answered {α β : Type} (op : BatchOp σ E α) (f : α → β) :
      ((op >>= fun x => pure (f x)) b).2 = (op b).2 := congrArg Prod.snd (bind_pure_apply op f b)
  unfold inWindow
  cases a.write with
  | persist entity =>
    exact (answered (Batching.persist a.now a.type entity a.options) some).trans
      (discard_apply _ b).symm
  | update p => exact answered _ _
  | remove entity => exact answered _ _
  | removeById key => exact answered _ _

/-! ### One write -/

variable [LawfulSession σ] {types : List (EntityType E)} {start : List Act} {n : Nat}
  (hcounters : MappedCounters types) (hharmless : Harmless types)
include hcounters hharmless

/-- A write without a level agrees with itself at the options of a window. -/
theorem agree_op {a : Asked E} (hT : a.type ∈ types) (hlevel : a.options.hasLevel = false)
    {options' : Options} (hstamped : (a.write.windowOptions a.options).Stamped options')
    (hcell : ∀ p, a.write = .update p → p.handle.index < n) :
    Agree (σ := σ) types start n (fun answer answer' => answer' = answer) (a.op a.options)
      (a.op options') := by
  have unleveled {options : Options} (h : options.hasLevel = false)
      (hsame : options.Stamped options') : options'.hasLevel = false := by
    unfold Options.hasLevel at *
    rw [hsame.level, h]
  unfold op
  cases hwrite : a.write with
  | persist entity =>
    rw [hwrite] at hstamped
    refine .bind (Manager.agree_persistIn hcounters hharmless hT (unleveled hlevel hstamped)
      hstamped.ttl entity) fun _ _ hp => .pure (congrArg some hp)
  | update p =>
    rw [hwrite] at hstamped
    exact .andThen (Manager.agree_updateIn hcounters hharmless hT (unleveled hlevel hstamped)
      hstamped.ttl (hcell p hwrite)) fun _ _ => .pure rfl
  | remove entity =>
    rw [hwrite] at hstamped
    exact .andThen (Manager.agree_removeIn hharmless hT (unleveled hlevel hstamped) entity)
      fun _ _ => .pure rfl
  | removeById key =>
    rw [hwrite] at hstamped
    exact .andThen (Manager.agree_removeByIdIn (unleveled rfl hstamped) key) fun _ _ => .pure rfl

/-- A write on alike sites has the same answer at once and in the window, and the sites stay
alike. -/
theorem alike_step {a : Asked E} (hT : a.type ∈ types) (hlevel : a.options.hasLevel = false)
    {s : Site σ E} (hcell : a.HasCell s) {b : Batching σ E}
    (h : Alike types start 0 (Manager.atOnce s) b.site) :
    (a.inWindow b).1 = (a.atOnce s).1 ∧
      Alike types start 0 (Manager.atOnce (a.atOnce s).2) (a.inWindow b).2.site := by
  obtain ⟨options', last, hstamped, hrun⟩ := a.inWindow_apply hlevel b
  have hlt : ∀ p, a.write = .update p → p.handle.index < s.workspace.cells.size := fun p hp => by
    obtain ⟨c, hc⟩ := hcell p hp
    exact Workspace.lt_of_cell? hc
  obtain ⟨houtcome, halike⟩ := agree_op hcounters hharmless hT hlevel hstamped hlt
    (Manager.atOnce s) b.site { h with size := Nat.le_refl _ }
  rw [hrun, a.atOnce_apply]
  exact ⟨houtcome.eq, { halike with immediate := rfl, size := Nat.zero_le _ }⟩

end Asked

/-! ### Many writes -/

variable [Session σ]

/-- Each proxy that is updated has a cell when it is updated. -/
def HaveCells : List (Asked E) → Site σ E → Prop
  | [], _ => True
  | a :: rest, s => a.HasCell s ∧ HaveCells rest (a.atOnce s).2

/-- Writes without levels have the same answers at once and in the window, and the sites stay
alike. -/
theorem alike_runEach [LawfulSession σ] {types : List (EntityType E)} {start : List Act}
    (hcounters : MappedCounters types) (hharmless : Harmless types) {calls : List (Asked E)}
    (hcalls : ∀ a ∈ calls, a.type ∈ types ∧ a.options.hasLevel = false) {s : Site σ E}
    (hcells : HaveCells calls s) {b : Batching σ E}
    (h : Alike types start 0 (Manager.atOnce s) b.site) :
    (runEach (calls.map Asked.inWindow) b).1 = (runEach (calls.map Asked.atOnce) s).1 ∧
      Alike types start 0 (Manager.atOnce (runEach (calls.map Asked.atOnce) s).2)
        (runEach (calls.map Asked.inWindow) b).2.site := by
  induction calls generalizing s b with
  | nil => exact ⟨rfl, h⟩
  | cons a rest ih =>
    obtain ⟨hT, hlevel⟩ := hcalls a List.mem_cons_self
    obtain ⟨hanswer, hstep⟩ := Asked.alike_step hcounters hharmless hT hlevel hcells.1 h
    obtain ⟨hanswers, hrest⟩ :=
      ih (fun a' ha' => hcalls a' (List.mem_cons_of_mem _ ha')) hcells.2 hstep
    refine ⟨?_, hrest⟩
    show (a.inWindow b).1 :: _ = (a.atOnce s).1 :: _
    rw [hanswer]
    exact congrArg _ hanswers

/-- Writes in a window lead to reachable states. -/
theorem Reachable.runEach {b : Batching σ E} (hb : Reachable b) (calls : List (Asked E)) :
    Reachable (runEach (calls.map Asked.inWindow) b).2 := by
  induction calls generalizing b with
  | nil => exact hb
  | cons a rest ih =>
    refine ih (b := (a.inWindow b).2) ?_
    rw [a.inWindow_snd]
    exact hb.window _

end WideColumn
