import WideColumn.Proofs.Loaded.Lived

/-!
# Which attributes count as loaded

Whatever is done with a proxy, an attribute counts as loaded only if it is the key, if it was read,
if it was written, or if its container was opened, since the proxy was obtained or last read again;
and completing the proxy fetches every attribute that is read on demand but for these. To open a
container is enough, though nothing was read and nothing is written. Main statement:
`loaded_contract`.
-/

namespace WideColumn

open Op

variable {σ E : Type}

/-! ### The contract -/

/-- The attribute was read or written, or its container was opened, or it is fetched by what gives
the answers. -/
def Learnt.Serves (types : List (String × EntityMeta)) (T : EntityType E) (p : Proxy) (k : Learnt)
    (answers : List Answer) (name : String) : Prop :=
  k.Knows types T p name ∨ name ∈ k.opened ∨
    ∃ a ∈ answers, a.Fetches types T p.entityMeta p.key name

/-- Which attributes of a proxy count as loaded, and what completing it fetches, in a state of its
life. -/
structure LoadedContract [Session σ] (T : EntityType E) (p : Proxy) (b : Batching σ E)
    (k : Learnt) : Prop where
  /-- What counts as loaded is the key, or was read, written or opened. -/
  learnt : ∀ name, p.HasLoaded b.site name → name = p.entityMeta.id.name ∨
    k.Knows b.site.types T p name ∨ name ∈ k.opened
  /-- What was written or opened counts as loaded. -/
  counted : ∀ name, name ∈ k.written ∨ name ∈ k.opened → p.HasLoaded b.site name
  /-- Completing fetches all other attributes that are read on demand, the counters last. -/
  completed : (Batching.complete T p b).1 = .ok () →
    ∀ pm ∈ p.entityMeta.onDemand ++ p.entityMeta.counters, k.Serves b.site.types T p
      (answersTo b.site (Batching.complete T p b).2.site) pm.name
  /-- It goes through them in their order, so if it fails it fetched those before the one at which
  it failed. -/
  failed {e : Stop} : (Batching.complete T p b).1 = .error e → ∃ before pm after,
    p.entityMeta.onDemand ++ p.entityMeta.counters = before ++ pm :: after ∧
      (∀ other ∈ before, k.Serves b.site.types T p
        (answersTo b.site (Batching.complete T p b).2.site) other.name) ∧
      ¬ p.HasLoaded (Batching.complete T p b).2.site pm.name

/-- In every state of the life of a proxy the loaded attributes are those that were read, written
or opened, and completing it fetches the rest. -/
theorem loaded_contract [Session σ] [LawfulSession σ] {T : EntityType E} {p : Proxy}
    {b : Batching σ E} {opened : Opened E} {k : Learnt} (h : Lived T p b opened k) :
    LoadedContract T p b k := by
  have haccounts := h.accounts
  obtain ⟨cell, hcell, hcovers⟩ := haccounts.cell
  obtain ⟨options, hcompletes⟩ := haccounts.completes
  have hserves {pm : PropertyMeta} (hpm : pm ∈ p.entityMeta.onDemand ++ p.entityMeta.counters)
      (hloaded : p.HasLoaded (Manager.complete T p b.site).2 pm.name) :
      k.Serves b.site.types T p (answersTo b.site (Manager.complete T p b.site).2) pm.name := by
    obtain ⟨cell', hcell', hmem⟩ := Proxy.hasLoaded_iff.1 hloaded
    rcases hcompletes.fills.fetched haccounts.sound hcell hcell' pm.name hmem with hold | hfetched
    · rcases hcovers.learnt pm.name hold with hid | hknows | hopened
      · obtain ⟨hmem, hother⟩ := EntityMeta.besides_id hpm
        exact absurd hid (haccounts.built.name_ne_id hmem hother)
      · exact .inl hknows
      · exact .inr (.inl hopened)
    · exact .inr (.inr hfetched)
  constructor
  case learnt =>
    intro name hname
    obtain ⟨found, hfound, hmem⟩ := Proxy.hasLoaded_iff.1 hname
    obtain rfl := Option.some.inj (hcell.symm.trans hfound)
    exact hcovers.learnt name hmem
  case counted =>
    intro name hname
    exact Proxy.hasLoaded_iff.2 ⟨cell, hcell, hcovers.counted name hname⟩
  case completed =>
    intro hok pm hpm
    exact hserves hpm (hcompletes.all hok pm hpm)
  case failed =>
    intro e he
    obtain ⟨before, pm, after, hsplit, hbefore, hpm⟩ := hcompletes.failed he
    refine ⟨before, pm, after, hsplit, fun other hother => hserves ?_ (hbefore other hother), hpm⟩
    rw [hsplit]
    exact List.mem_append_left _ hother

/-! ### Notebooks -/

/-- A notebook with tags that are read on demand. -/
structure Notebook where
  id : Value
  tags : List String

namespace Notebook

/-- The tags of a notebook. -/
def tagsMeta : PropertyMeta :=
  { PropertyDraft.ofKind "tags" .list (.list .text) with isLazy := true, entityClass := "Notebook" }

/-- The declaration of notebooks. -/
def draft : EntityDraft where
  className := "Notebook"
  tableName := "notebooks"
  properties := [.ofKind "id" .id .bigint, tagsMeta.toPropertyDraft]
  readLevel := none
  writeLevel := none
  isClusteredCounter := false

/-- The tags in a value. -/
def tagsOf : Value → List String
  | .list items => items.filterMap Value.text?
  | _ => []

/-- How notebooks are read and written. -/
def type : EntityType Notebook where
  typeName := "desk.Notebook"
  shortName := "Notebook"
  entityMeta := draft.build
  interceptors := []
  values notebook := [("tags", .ofTexts notebook.tags)]
  write notebook name v :=
    if name = "tags" then .ok { notebook with tags := tagsOf v }
    else .error (.invalidState "No attribute")
  key notebook := [notebook.id]
  ofKey key := .ok ⟨key.headD .null, []⟩
  ofRow row := .ok ⟨(row.find? "id").getD .null, tagsOf ((row.find? "tags").getD .null)⟩
  counter? _ _ := none
  setCounter notebook _ _ := notebook

/-- The metadata of notebooks. -/
def entityMeta : EntityMeta where
  className := "Notebook"
  tableName := "notebooks"
  id := { PropertyDraft.ofKind "id" .id .bigint with entityClass := "Notebook" }
  properties := [{ PropertyDraft.ofKind "id" .id .bigint with entityClass := "Notebook" }, tagsMeta]
  declaredReadLevel := none
  declaredWriteLevel := none
  readLevel := .standard
  writeLevel := .standard
  isClusteredCounter := false

/-- The proxy of the first notebook. -/
def first : Proxy := ⟨⟨0⟩, entityMeta, [.bigint 1]⟩

/-- The tags of a notebook, for editing. -/
def tagsAccessor : Accessor Notebook (List String) :=
  ⟨tags, fun notebook tags => { notebook with tags }⟩

/-- A manager that knows notebooks, over a session that has tags for one. -/
def manager : Batching Script Notebook :=
  let script := Script.empty.addAnswer
    ⟨"SELECT tags FROM notebooks", [⟨["tags"], [.ofTexts ["red"]]⟩]⟩
  let b := Batching.ofSite (.ofConfig script .standard)
  { b with site := ((ManagerCall.register type).run b.site).2 }

theorem reachable_manager : Reachable manager :=
  (Reachable.start _ .standard).manager (.register type) fun em hem =>
    ⟨draft, em, em.readLevel, em.writeLevel, hem, rfl⟩

/-- After the first notebook was taken by its key. -/
def taken : Batching Script Notebook := (Timing.atOnce.getProxy type first.key .none manager).2

theorem lived_taken : Lived type first taken .none .nothing := by
  have hp : (Timing.atOnce.getProxy type first.key .none manager).1 = .ok first := rfl
  have hrun : Timing.atOnce.getProxy type first.key .none manager = (.ok first, taken) :=
    Prod.ext hp rfl
  exact .got .atOnce reachable_manager hrun

/-- Tags that were read on demand are loaded. -/
theorem loaded_contract_completed : ∃ k,
    Lived type first (Batching.complete type first taken).2 .none k ∧
      first.HasLoaded (Batching.complete type first taken).2.site "tags" ∧
        LoadedContract type first (Batching.complete type first taken).2 k := by
  have hloaded : (Batching.complete type first taken).2.site.workspace.isLoaded first.handle
      "tags" = true := by decide +kernel
  exact ⟨_, lived_taken.completed, hloaded, loaded_contract lived_taken.completed⟩

/-- After the tags of the notebook were opened, with nothing done to them, and put back. -/
def peeked : Batching Script Notebook :=
  { taken with site.workspace :=
      match ProxyCall.run type first taken.site.workspace (.list "tags" tagsAccessor) with
      | .ok stage => stage.settled type first
      | .error _ => taken.site.workspace }

theorem lived_peeked : ∃ k, Lived type first peeked .none k ∧ k.answers = [] ∧ k.row = none ∧
    k.written = [] := by
  have hopens : ∃ stage,
      ProxyCall.run type first taken.site.workspace (.list "tags" tagsAccessor) = .ok stage :=
    ⟨_, rfl⟩
  obtain ⟨stage, hrun⟩ := hopens
  have hlived := (lived_taken.called _ hrun).closed
  have hpeeked : peeked = { taken with
      site.workspace := Stage.settled type first ⟨stage.workspace, stage.opened⟩ } := by
    unfold peeked
    rw [hrun]
  rw [hpeeked]
  exact ⟨_, hlived, rfl, rfl, rfl⟩

/-- Tags that were opened, but neither read nor written, are loaded, and completing the notebook
succeeds and reads nothing. -/
theorem hasLoaded_of_peeked : ∃ k, Lived type first peeked .none k ∧
    first.HasLoaded peeked.site "tags" ∧ ¬ k.Knows peeked.site.types type first "tags" ∧
      (Batching.complete type first peeked).1 = .ok () ∧
        (Batching.complete type first peeked).2.site.trace = peeked.site.trace := by
  obtain ⟨k, hlived, hanswers, hrow, hwritten⟩ := lived_peeked
  have hloaded : peeked.site.workspace.isLoaded first.handle "tags" = true := by decide +kernel
  refine ⟨k, hlived, hloaded, ?_, rfl, rfl⟩
  rintro (hmem | ⟨row, hfound, -⟩ | ⟨a, ha, -⟩)
  · rw [hwritten] at hmem
    cases hmem
  · rw [hrow] at hfound
    cases hfound
  · rw [hanswers] at ha
    cases ha

end Notebook

end WideColumn
