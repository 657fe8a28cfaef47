import WideColumn.Proofs.Counter.Drain

/-!
# Pages

A small class of entities, to run the library on: a page has a title, and counts how often it was
read. Its counter cells are cells, and a watcher of pages leaves them alone, so there are classes as
the theorems about counters ask for.
-/

namespace WideColumn

/-- A page of a site. -/
structure Page where
  id : Value
  title : Value
  hits : Counter

namespace Page

/-- The title of a page. -/
def titleMeta : PropertyMeta :=
  { PropertyDraft.ofKind "title" .simple .text with entityClass := "Page" }

/-- The counter of a page. -/
def hitsMeta : PropertyMeta :=
  { PropertyDraft.ofKind "hits" .counter .counter with entityClass := "Page" }

/-- The declaration of pages kept in a table. -/
def draft (tableName : String) : EntityDraft where
  className := "Page"
  tableName
  properties := [.ofKind "id" .id .bigint, titleMeta.toPropertyDraft, hitsMeta.toPropertyDraft]
  readLevel := none
  writeLevel := none
  isClusteredCounter := false

/-- Pages kept in a table, under the name of a type. -/
def type (typeName tableName : String) (interceptors : List (Interceptor Page)) :
    EntityType Page where
  typeName
  shortName := "Page"
  entityMeta := (draft tableName).build
  interceptors
  values page := [("title", page.title)]
  write page name v :=
    if name = "title" then .ok { page with title := v } else .error (.invalidState "No attribute")
  key page := [page.id]
  ofKey key := .ok ⟨key.headD .null, .null, .empty⟩
  ofRow row := .ok ⟨(row.find? "id").getD .null, (row.find? "title").getD .null, .empty⟩
  counter? page name := if name = "hits" then some page.hits else none
  setCounter page name counter := if name = "hits" then { page with hits := counter } else page

/-- An interceptor that sees pages and changes nothing. -/
def watcher (target : String) (events : List Event) : Interceptor Page :=
  ⟨"watcher", target, events, fun page _ => (page, none)⟩

/-- The metadata of pages kept in a table. -/
def entityMeta (tableName : String) : EntityMeta where
  className := "Page"
  tableName
  id := { PropertyDraft.ofKind "id" .id .bigint with entityClass := "Page" }
  properties :=
    [{ PropertyDraft.ofKind "id" .id .bigint with entityClass := "Page" }, titleMeta, hitsMeta]
  declaredReadLevel := none
  declaredWriteLevel := none
  readLevel := .standard
  writeLevel := .standard
  isClusteredCounter := false

/-- The proxy of a page by the place of its cell. -/
def proxy (tableName : String) (index : Nat) (key : Value) : Proxy :=
  ⟨⟨index⟩, entityMeta tableName, [key]⟩

section

variable (typeName tableName : String) (interceptors : List (Interceptor Page))

theorem lawfulCounters_type : (type typeName tableName interceptors).LawfulCounters where
  counter?_setCounter {page name old new} h := by
    simp only [type] at h ⊢
    split
    · rfl
    · next hne => simp [hne] at h
  counter?_setCounter_of_ne {page name other} new h := by
    simp only [type]
    by_cases hother : other = "hits"
    · have hname : name ≠ "hits" := by
        rw [← hother]
        exact h
      simp [hname]
    · simp [hother]

theorem keepsCounters_type
    (h : ∀ i ∈ interceptors, ∀ page event, (i.run page event).1.hits = page.hits) :
    (type typeName tableName interceptors).KeepsCounters := by
  apply EntityType.keepsCounters_of_interceptors
  intro i hi page event name
  simp only [type, h i hi]

theorem built_type : (type typeName tableName interceptors).Built := by
  intro em hem
  exact ⟨draft tableName, em, em.readLevel, em.writeLevel, hem, rfl⟩

end

/-- A manager over a session, with registered types. -/
def manager (session : Script) (types : List (EntityType Page)) : Batching Script Page :=
  types.foldl (fun b T => { b with site := ((ManagerCall.register T).run b.site).2 })
    (.ofSite (.ofConfig session .standard))

theorem reachable_manager (session : Script) {types : List (EntityType Page)}
    (h : ∀ T ∈ types, T.Built) : Reachable (manager session types) := by
  have hrun (b : Batching Script Page) (hb : Reachable b) : Reachable
      (types.foldl (fun b T => { b with site := ((ManagerCall.register T).run b.site).2 }) b) := by
    induction types generalizing b with
    | nil => exact hb
    | cons T rest ih =>
      rw [List.foldl_cons]
      apply ih fun T' hT' => h T' (List.mem_cons_of_mem _ hT')
      exact hb.manager (.register T) (h T List.mem_cons_self)
  exact hrun _ (.start session .standard)

/-- Pages without interceptors. -/
def plain : EntityType Page := type "site.Page" "pages" []

/-- The first page. -/
def first : Proxy := proxy "pages" 0 (.bigint 1)

theorem reachable_manager_type (session : Script) (typeName tableName : String)
    (interceptors : List (Interceptor Page)) :
    Reachable (manager session [type typeName tableName interceptors]) := by
  apply reachable_manager
  intro T hT
  rw [List.mem_singleton.1 hT]
  exact built_type _ _ _

/-- Take a proxy of a page by its key. -/
def opened (b : Batching Script Page) (T : EntityType Page) (p : Proxy) : Batching Script Page :=
  { b with site := ((ManagerCall.getProxy T p.key .none).run b.site).2 }

theorem reachable_opened {b : Batching Script Page} (hb : Reachable b) (T : EntityType Page)
    (p : Proxy) : Reachable (opened b T p) :=
  hb.manager (.getProxy T p.key .none) trivial

/-- Give a page a title. -/
def titled (b : Batching Script Page) (T : EntityType Page) (p : Proxy) (title : String) :
    Batching Script Page :=
  { b with site := b.site.setValue T p "title" (.text title) }

theorem reachable_titled {b : Batching Script Page} (hb : Reachable b) (T : EntityType Page)
    (p : Proxy) (title : String) : Reachable (titled b T p title) :=
  hb.setValue T p "title" (.text title)

/-- Count reads of a page. -/
def visited (b : Batching Script Page) (T : EntityType Page) (p : Proxy) (delta : Int) :
    Batching Script Page :=
  { b with site := b.site.editCounter T p "hits" fun counter => counter.incrBy delta }

theorem reachable_visited {b : Batching Script Page} (hb : Reachable b) (T : EntityType Page)
    (p : Proxy) (delta : Int) : Reachable (visited b T p delta) :=
  hb.editCounter T p "hits" fun counter => counter.incrBy delta

/-- Write what changed on a page. -/
def updated (b : Batching Script Page) (T : EntityType Page) (p : Proxy) : Batching Script Page :=
  { b with site := ((ManagerCall.update T p .none).run b.site).2 }

end Page

end WideColumn
