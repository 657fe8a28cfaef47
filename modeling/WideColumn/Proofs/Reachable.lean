import WideColumn.Persist.Batching
import WideColumn.Session.Scripted

/-!
# Reachable states

Everything a program can do with a manager, with or without windows, and with its proxies. A state
is reachable when such moves lead to it from a fresh manager, in any order and whatever the session
answers. The moves are wider than what a program can write: any proxy may be given to any operation,
and the value of a container or of a counter cell may change in any way while it is being edited.
-/

namespace WideColumn

/-- Sessions whose prepared statements carry the text that was prepared. -/
class LawfulSession (σ : Type) [Session σ] : Prop where
  query_of_prepare {s : σ} {text : String} {p : Prepared} :
    (Session.prepare s text).1 = .ok p → p.query = text

instance : LawfulSession Script where
  query_of_prepare {s text p} h := by
    have hprepare : (Session.prepare s text).1 = (match s.failure? .prepare text with
        | some (stop, _) => .error stop
        | none => .ok ⟨s.nextId, text⟩ : Except Stop Prepared) := by
      show (match s.failure? .prepare text with
        | some (stop, s) => (.error stop, s)
        | none => (.ok ⟨s.nextId, text⟩, { s with nextId := s.nextId + 1 }) :
          Except Stop Prepared × Script).1 = _
      cases s.failure? .prepare text <;> rfl
    rw [hprepare] at h
    split at h
    · cases h
    · rw [← Except.ok.inj h]

/-- Metadata that passed the checks of a declaration, at any levels. -/
def EntityMeta.Built (em : EntityMeta) : Prop :=
  ∃ draft checked read write,
    EntityDraft.build draft = .ok checked ∧ em = checked.withLevels read write

/-- A class whose metadata, if there is any, passed the checks of a declaration. -/
def EntityType.Built {E : Type} (T : EntityType E) : Prop :=
  ∀ em, T.entityMeta = .ok em → em.Built

/-- The container changed in any way, and the property was marked or not. -/
structure View.Edits {C : Type} (v v' : View C) : Prop where
  property : v'.property = v.property
  dirty : v'.dirty = v.dirty ∨ v'.dirty = v.dirty.mark v.property

/-- What a program does to its entities through proxies. -/
inductive ProxyEdit {E : Type} : Workspace E → Workspace E → Prop
  | set {α : Type} {p : Proxy} {w w' : Workspace E} {property : String} {change : E → α × E}
      {answer : α} : p.set w property change = .ok (answer, w') → ProxyEdit w w'
  | setValue {p : Proxy} {T : EntityType E} {w w' : Workspace E} {property : String} {v : Value} :
      p.setValue T w property v = .ok w' → ProxyEdit w w'
  | view {C : Type} {p : Proxy} {w w' : Workspace E} {property : String} {access : Access}
      {accessor : Accessor E C} {vacant : C} {v v' : View C} :
      p.openView w property access accessor vacant = .ok (v, w') → v.Edits v' →
      ProxyEdit w (p.closeView w' accessor v')
  | counter {p : Proxy} {T : EntityType E} {w w' : Workspace E} {property : String}
      {counter counter' : Counter} :
      p.openCounter T w property = .ok (counter, w') →
      ProxyEdit w (p.closeCounter T w' property counter')

/-- A call of the manager. -/
inductive ManagerCall (E : Type) where
  | register (T : EntityType E)
  | persist (T : EntityType E) (entity : Tracked E) (options : Options)
  | update (T : EntityType E) (p : Proxy) (options : Options)
  | remove (T : EntityType E) (entity : Tracked E) (options : Options)
  | removeById (T : EntityType E) (key : List Value) (options : Options)
  | find (T : EntityType E) (key : List Value) (options : Options)
  | getProxy (T : EntityType E) (key : List Value) (options : Options)
  | refresh (T : EntityType E) (p : Proxy) (options : Options)
  | complete (T : EntityType E) (p : Proxy)
  | getSlice (T : EntityType E) (slice : SliceQuery)
  | removeSlice (T : EntityType E) (slice : SliceQuery)
  | nativeQuery (query : String) (values : List Value)
  | typedQuery (T : EntityType E) (query : String) (values : List Value)
  | rawTypedQuery (T : EntityType E) (query : String) (values : List Value)
  | indexedQuery (T : EntityType E) (condition : IndexCondition)

/-- A call of a manager with windows. The calls that write read the clock. -/
inductive WindowCall (E : Type) where
  | startBatch
  | startBatchAt (level : Level)
  | endBatch
  | cleanBatch
  | persist (now : Int) (T : EntityType E) (entity : Tracked E) (options : Options)
  | update (now : Int) (T : EntityType E) (p : Proxy) (options : Options)
  | remove (now : Int) (T : EntityType E) (entity : Tracked E) (options : Options)
  | removeById (now : Int) (T : EntityType E) (key : List Value)
  | find (T : EntityType E) (key : List Value) (options : Options)
  | getProxy (T : EntityType E) (key : List Value) (options : Options)
  | refresh (T : EntityType E) (p : Proxy) (options : Options)

variable {σ E : Type} [Session σ]

/-- Run a call of the manager; what it answers is left out. -/
def ManagerCall.run : ManagerCall E → Op σ E Unit
  | register T => do let _ ← Manager.register T
  | persist T entity options => do let _ ← Manager.persist T entity options
  | update T p options => Manager.update T p options
  | remove T entity options => Manager.remove T entity options
  | removeById T key options => Manager.removeById T key options
  | find T key options => do let _ ← Manager.find T key options
  | getProxy T key options => do let _ ← Manager.getProxy T key options
  | refresh T p options => do let _ ← Manager.refresh T p options
  | complete T p => Manager.complete T p
  | getSlice T slice => do let _ ← Manager.getSlice T slice
  | removeSlice T slice => Manager.removeSlice T slice
  | nativeQuery query values => do let _ ← Manager.nativeQuery query values
  | typedQuery T query values => do let _ ← Manager.typedQuery T query values
  | rawTypedQuery T query values => do let _ ← Manager.rawTypedQuery T query values
  | indexedQuery T condition => do let _ ← Manager.indexedQuery T condition

/-- Run a call of a manager with windows; what it answers is left out. -/
def WindowCall.run : WindowCall E → BatchOp σ E Unit
  | startBatch => Batching.startBatch
  | startBatchAt level => Batching.startBatchAt level
  | endBatch => Batching.endBatch
  | cleanBatch => Batching.cleanBatch
  | persist now T entity options => do let _ ← Batching.persist now T entity options
  | update now T p options => Batching.update now T p options
  | remove now T entity options => Batching.remove now T entity options
  | removeById now T key => Batching.removeById now T key
  | find T key options => do let _ ← Batching.find T key options
  | getProxy T key options => do let _ ← Batching.getProxy T key options
  | refresh T p options => do let _ ← Batching.refresh T p options

/-- The types that a call of the manager registers have checked metadata. -/
def ManagerCall.Built : ManagerCall E → Prop
  | register T => T.Built
  | _ => True

/-- The states that a program can bring about. The site of a manager without windows is the site of
such a state: its operations use an outbox of their own. -/
inductive Reachable : Batching σ E → Prop
  | start (session : σ) (config : Config) : Reachable (.ofSite (.ofConfig session config))
  | restart {b : Batching σ E} : Reachable b → Reachable (.ofSite b.site)
  | manager {b : Batching σ E} (call : ManagerCall E) : Reachable b → call.Built →
      Reachable { b with site := (call.run b.site).2 }
  | window {b : Batching σ E} (call : WindowCall E) : Reachable b → Reachable (call.run b).2
  | complete {b : Batching σ E} (T : EntityType E) (p : Proxy) : Reachable b →
      Reachable (Batching.complete T p b).2
  | edit {b : Batching σ E} {w : Workspace E} : Reachable b → ProxyEdit b.site.workspace w →
      Reachable { b with site.workspace := w }

/-- One of these moves. -/
inductive Move : Batching σ E → Batching σ E → Prop
  | restart (b : Batching σ E) : Move b (.ofSite b.site)
  | manager (b : Batching σ E) (call : ManagerCall E) : call.Built →
      Move b { b with site := (call.run b.site).2 }
  | window (b : Batching σ E) (call : WindowCall E) : Move b (call.run b).2
  | complete (b : Batching σ E) (T : EntityType E) (p : Proxy) : Move b (Batching.complete T p b).2
  | edit (b : Batching σ E) {w : Workspace E} : ProxyEdit b.site.workspace w →
      Move b { b with site.workspace := w }

/-- The states that a program can bring about from a given one on. -/
inductive Later (b : Batching σ E) : Batching σ E → Prop
  | refl : Later b b
  | move {c d : Batching σ E} : Later b c → Move c d → Later b d

theorem Reachable.move {b c : Batching σ E} (hb : Reachable b) (h : Move b c) : Reachable c := by
  cases h with
  | restart => exact hb.restart
  | manager call hbuilt => exact hb.manager call hbuilt
  | window call => exact hb.window call
  | complete T p => exact hb.complete T p
  | edit hedit => exact hb.edit hedit

theorem Reachable.later {b c : Batching σ E} (hb : Reachable b) (h : Later b c) :
    Reachable c := by
  induction h with
  | refl => exact hb
  | move _ hmove ih => exact ih.move hmove

/-- A reachable state is a new manager, or comes from a reachable state by a move. -/
theorem Reachable.of_moves {P : Batching σ E → Prop}
    (start : ∀ session config, P (.ofSite (.ofConfig session config)))
    (move : ∀ b c, Reachable b → Move b c → P b → P c) {b : Batching σ E} (hb : Reachable b) :
    P b := by
  induction hb with
  | start session config => exact start session config
  | restart hb ih => exact move _ _ hb (.restart _) ih
  | manager call hb hbuilt ih => exact move _ _ hb (.manager _ call hbuilt) ih
  | window call hb ih => exact move _ _ hb (.window _ call) ih
  | complete T p hb ih => exact move _ _ hb (.complete _ T p) ih
  | edit hb hedit ih => exact move _ _ hb (.edit _ hedit) ih

/-- Write one attribute through a proxy; a write that is refused changes nothing. -/
def Site.setValue (s : Site σ E) (T : EntityType E) (p : Proxy) (property : String) (v : Value) :
    Site σ E :=
  match p.setValue T s.workspace property v with
  | .ok workspace => { s with workspace }
  | .error _ => s

/-- Change a counter cell through a proxy; what is refused changes nothing. -/
def Site.editCounter (s : Site σ E) (T : EntityType E) (p : Proxy) (property : String)
    (change : Counter → Counter) : Site σ E :=
  match p.openCounter T s.workspace property with
  | .ok (counter, workspace) =>
    { s with workspace := p.closeCounter T workspace property (change counter) }
  | .error _ => s

variable {b : Batching σ E} (T : EntityType E) (p : Proxy) (property : String)

theorem Reachable.setValue (hb : Reachable b) (v : Value) :
    Reachable { b with site := b.site.setValue T p property v } := by
  unfold Site.setValue
  cases hset : p.setValue T b.site.workspace property v with
  | error e => exact hb
  | ok workspace => exact hb.edit (.setValue hset)

theorem Reachable.editCounter (hb : Reachable b) (change : Counter → Counter) :
    Reachable { b with site := b.site.editCounter T p property change } := by
  unfold Site.editCounter
  rcases hopen : p.openCounter T b.site.workspace property with e | ⟨counter, workspace⟩
  · exact hb
  · exact hb.edit (.counter hopen)

end WideColumn
