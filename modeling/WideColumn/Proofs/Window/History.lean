import Mathlib.Data.List.DropRight
import WideColumn.Proofs.Window.Timestamp

/-!
# Timestamps along a run

A run of a manager with windows is told with the calls that it made, each with the manager as it was
then. Whatever the clock says, the timestamps given to calls strictly increase along the run, over
resets and failures, because the manager keeps the last one (`Ran.given_le`). What is pending was
handed over by the calls since the last reset (`Ran.pending`), so the timestamps of a group are those
of its calls, in their order. Main statement: `timestamp_contract`.
-/

namespace WideColumn

open Op

variable {σ E : Type}

/-! ### Runs -/

/-- A call of a manager with windows, and the manager that it was made on. -/
structure Made (σ E : Type) where
  manager : Batching σ E
  call : WindowCall E

namespace Made

/-- The timestamp that the call was given. -/
def given (m : Made σ E) : Option Int := m.call.given m.manager

/-- The timestamp of the call. -/
def timestamp (m : Made σ E) : Option Int := m.call.timestamp m.manager

variable [Session σ]

/-- What the call handed over. -/
def pushed (kind : BatchKind) (m : Made σ E) : List Request := pushedIn kind (m.call.acts m.manager)

end Made

/-- The calls since the window was last reset. -/
def windowOf (made : List (Made σ E)) : List (Made σ E) := made.rtakeWhile fun m => !m.call.resets

/-- A state that a manager with windows comes to, with the calls that it was given since it was made,
oldest first. In between the manager without windows may be used, and entities may be read, and
edited as `Edit` allows. -/
inductive Ran [Session σ] (Edit : Workspace E → Workspace E → Prop) :
    Batching σ E → List (Made σ E) → Prop
  | start (session : σ) (config : Config) : Ran Edit (.ofSite (.ofConfig session config)) []
  | restart {b : Batching σ E} {made : List (Made σ E)} : Ran Edit b made →
      Ran Edit (.ofSite b.site) []
  | call {b : Batching σ E} {made : List (Made σ E)} (call : WindowCall E) : Ran Edit b made →
      Ran Edit (call.run b).2 (made ++ [⟨b, call⟩])
  | manager {b : Batching σ E} {made : List (Made σ E)} (call : ManagerCall E) : Ran Edit b made →
      call.Built → Ran Edit { b with site := (call.run b.site).2 } made
  | complete {b : Batching σ E} {made : List (Made σ E)} (T : EntityType E) (p : Proxy) :
      Ran Edit b made → Ran Edit (Batching.complete T p b).2 made
  | edit {b : Batching σ E} {made : List (Made σ E)} {w : Workspace E} : Ran Edit b made →
      Edit b.site.workspace w → Ran Edit { b with site.workspace := w } made

variable [Session σ] {b : Batching σ E} {made : List (Made σ E)}
  {Edit : Workspace E → Workspace E → Prop}

theorem Ran.mono {Edit' : Workspace E → Workspace E → Prop}
    (hedit : ∀ w w', Edit w w' → Edit' w w') (h : Ran Edit b made) : Ran Edit' b made := by
  induction h with
  | start session config => exact .start session config
  | restart _ ih => exact ih.restart
  | call call _ ih => exact ih.call call
  | manager call _ hbuilt ih => exact ih.manager call hbuilt
  | complete T p _ ih => exact ih.complete T p
  | edit _ h ih => exact ih.edit (hedit _ _ h)

theorem Ran.reachable (h : Ran ProxyEdit b made) : Reachable b := by
  induction h with
  | start session config => exact .start session config
  | restart _ ih => exact ih.restart
  | call call _ ih => exact ih.window call
  | manager call _ hbuilt ih => exact ih.manager call hbuilt
  | complete T p _ ih => exact ih.complete T p
  | edit _ hedit ih => exact ih.edit hedit

/-- Types may be registered one after the other. -/
theorem Ran.register_all {types : List (EntityType E)} (hbuilt : ∀ T ∈ types, T.Built)
    (h : Ran Edit b made) : Ran Edit (types.foldl
      (fun b T => { b with site := ((ManagerCall.register T).run b.site).2 }) b) made := by
  induction types generalizing b with
  | nil => exact h
  | cons T rest ih =>
    rw [List.foldl_cons]
    apply ih fun T' hT' => hbuilt T' (List.mem_cons_of_mem _ hT')
    exact h.manager (.register T) (hbuilt T List.mem_cons_self)

/-- Every call was made in a state of the run. -/
theorem Ran.before (h : Ran Edit b made) {m : Made σ E} (hm : m ∈ made) :
    ∃ earlier, Ran Edit m.manager earlier := by
  induction h with
  | start => cases hm
  | restart => cases hm
  | call call h ih =>
    rcases List.mem_append.1 hm with hm | hm
    · exact ih hm
    · obtain rfl := List.mem_singleton.1 hm
      exact ⟨_, h⟩
  | manager _ _ _ ih => exact ih hm
  | complete _ _ _ ih => exact ih hm
  | edit _ _ ih => exact ih hm

/-- And what was done since then led to the state of the run. -/
theorem Ran.later (h : Ran ProxyEdit b made) {m : Made σ E} (hm : m ∈ made) :
    Later m.manager b := by
  induction h with
  | start => cases hm
  | restart => cases hm
  | @call b made call _ ih =>
    rcases List.mem_append.1 hm with hm | hm
    · exact (ih hm).move (.window b call)
    · obtain rfl := List.mem_singleton.1 hm
      exact Later.refl.move (.window b call)
  | @manager b _ call _ hbuilt ih => exact (ih hm).move (.manager b call hbuilt)
  | @complete b _ T p _ ih => exact (ih hm).move (.complete b T p)
  | @edit b _ _ _ hedit ih => exact (ih hm).move (.edit b hedit)

omit [Session σ] in
theorem windowOf_append (made : List (Made σ E)) (m : Made σ E) :
    windowOf (made ++ [m]) = if m.call.resets then [] else windowOf made ++ [m] := by
  unfold windowOf
  cases hresets : m.call.resets with
  | true => exact List.rtakeWhile_concat_neg _ _ _ (by simp [hresets])
  | false => exact List.rtakeWhile_concat_pos _ _ _ (by simp [hresets])

omit [Session σ] in
theorem windowOf_suffix (made : List (Made σ E)) : windowOf made <:+ made :=
  List.rtakeWhile_suffix _ made

/-! ### Timestamps that are given -/

/-- The timestamps that calls were given, oldest first. -/
def givenIn (made : List (Made σ E)) : List Int := made.filterMap Made.given

omit [Session σ] in
theorem givenIn_append (made : List (Made σ E)) (m : Made σ E) :
    givenIn (made ++ [m]) = givenIn made ++ m.given.toList := by
  unfold givenIn
  rw [List.filterMap_append]
  cases h : m.given <;> simp [h]

/-- The manager keeps the last timestamp that it gave, so the next one is later. -/
theorem Ran.given_le (h : Ran Edit b made) :
    (givenIn made).Pairwise (· < ·) ∧ ∀ t ∈ givenIn made, t ≤ b.lastTimestamp := by
  induction h with
  | start => exact ⟨.nil, nofun⟩
  | restart => exact ⟨.nil, nofun⟩
  | @call b made call _ ih =>
    obtain ⟨hincreasing, hle⟩ := ih
    have happend : givenIn (made ++ [⟨b, call⟩]) = givenIn made ++ (call.given b).toList :=
      givenIn_append _ _
    rw [call.lastTimestamp_run, happend]
    cases hgiven : call.given b with
    | none => simpa using ⟨hincreasing, hle⟩
    | some t =>
      obtain ⟨now, -, ht⟩ := WindowCall.given_eq hgiven
      have hlater : ∀ s ∈ givenIn made, s < t := fun s hs => by
        have := hle s hs
        omega
      rw [Option.toList_some, List.pairwise_append]
      refine ⟨⟨hincreasing, List.pairwise_singleton _ _, fun s hs s' hs' => ?_⟩, fun s hs => ?_⟩
      · rw [List.mem_singleton.1 hs']
        exact hlater s hs
      · rcases List.mem_append.1 hs with hs | hs
        · exact Int.le_of_lt (hlater s hs)
        · exact Int.le_of_eq (List.mem_singleton.1 hs)
  | manager => assumption
  | complete => assumption
  | edit => assumption

/-- If the clock stays below a limit, what is given exceeds it by no more than the number of
calls. -/
theorem Ran.lastTimestamp_le (h : Ran Edit b made) {limit : Int} (hlimit : 0 ≤ limit)
    (hclock : ∀ m ∈ made, ∀ now, m.call.reading? = some now → now ≤ limit) :
    b.lastTimestamp ≤ limit + made.length := by
  induction h with
  | start => simpa [Batching.ofSite] using hlimit
  | restart => simpa [Batching.ofSite] using hlimit
  | @call b made call _ ih =>
    have hbefore := ih fun m hm => hclock m (List.mem_append_left _ hm)
    rw [call.lastTimestamp_run, List.length_append, List.length_singleton]
    cases hgiven : call.given b with
    | none =>
      rw [Option.getD_none]
      omega
    | some t =>
      obtain ⟨now, hreading, ht⟩ := WindowCall.given_eq hgiven
      have hnow := hclock ⟨b, call⟩ (by simp) now hreading
      rw [Option.getD_some]
      omega
  | manager _ _ _ ih => exact ih hclock
  | complete _ _ _ ih => exact ih hclock
  | edit _ _ ih => exact ih hclock

/-! ### What is pending -/

/-- Each call hands over what its timestamp allows. -/
theorem Ran.hands [LawfulSession σ] (h : Ran ProxyEdit b made) {m : Made σ E} (hm : m ∈ made)
    {kind : BatchKind} {r : Request} (hr : r ∈ m.pushed kind) :
    m.timestamp ≠ none ∧ r.Timed m.timestamp kind := by
  obtain ⟨earlier, hbefore⟩ := h.before hm
  exact m.call.hands hbefore.reachable.isWindow hr

/-- A call empties the window, or adds to it what it hands over. -/
theorem WindowCall.pending_run [LawfulSession σ] (call : WindowCall E) (hb : Reachable b)
    (kind : BatchKind) : (call.run b).2.site.outbox.pending kind =
      if call.resets then [] else b.site.outbox.pending kind ++ pushedIn kind (call.acts b) := by
  cases hresets : call.resets with
  | true =>
    obtain ⟨level, hempty⟩ := call.empty_of_resets hresets hb.isWindow
    rw [hempty]
    cases kind <;> rfl
  | false =>
    obtain ⟨acts, hacts⟩ :=
      call.run_of_not_resets hresets hb.isWindow.mode hb.sound.registry.selects
    have heq : call.acts b = acts := acts_eq hacts.trace
    rw [hacts.pending, heq]
    rfl

/-- What is pending was handed over by the calls since the last reset. -/
theorem Ran.pending [LawfulSession σ] (h : Ran ProxyEdit b made) (kind : BatchKind) :
    b.site.outbox.pending kind = (windowOf made).flatMap (Made.pushed kind) := by
  induction h with
  | start => cases kind <;> rfl
  | restart => cases kind <;> rfl
  | @call b made call h ih =>
    rw [call.pending_run h.reachable, windowOf_append, ih]
    show _ = List.flatMap _ (if call.resets then _ else _)
    split
    · rfl
    · rw [List.flatMap_append, List.flatMap_singleton]
      rfl
  | manager call _ _ ih =>
    rw [← ih, call.outbox_run_all]
  | @complete b made T p _ ih =>
    rw [← ih]
    exact congrArg (fun o => Outbox.pending o kind) (Manager.outbox_complete T p b.site)
  | edit _ _ ih => exact ih

/-- A group that a call sends is what is pending of its kind, and that is not empty. -/
theorem WindowCall.group_pending [LawfulSession σ] {call : WindowCall E} (hb : Reachable b)
    {g : Group} (hg : g ∈ groupsIn (call.acts b)) :
    b.site.outbox.pending g.kind ≠ [] ∧
      g.statements = (b.site.outbox.pending g.kind).map Request.statement := by
  cases hresets : call.resets with
  | false =>
    obtain ⟨acts, hacts⟩ :=
      call.run_of_not_resets hresets hb.isWindow.mode hb.sound.registry.selects
    have heq : call.acts b = acts := acts_eq hacts.trace
    rw [heq, hacts.readsOnly.groups] at hg
    cases hg
  | true =>
    rcases call.eq_endBatch_or with rfl | hend
    · obtain ⟨acts, htrace, hgroups, -⟩ := (Batching.sends_endBatch hb.isWindow).trace
      have heq : WindowCall.endBatch.acts b = acts := acts_eq htrace
      rw [heq, hgroups] at hg
      obtain ⟨kind, hne, rfl⟩ := Batching.mem_endGroups hg
      exact ⟨hne, rfl⟩
    · rw [call.acts_of_resets hresets hend] at hg
      cases hg

/-- A group consists of what the calls since the last reset handed over, call by call. -/
theorem Ran.statements_of_group [LawfulSession σ] (h : Ran ProxyEdit b made) (call : WindowCall E)
    {g : Group} (hg : g ∈ groupsIn (call.acts b)) :
    g.statements = ((windowOf made).flatMap (Made.pushed g.kind)).map Request.statement := by
  rw [← h.pending]
  exact (WindowCall.group_pending h.reachable hg).2

/-! ### The order of a window -/

/-- Of two calls that were given a timestamp, the later one was given the later timestamp. -/
theorem Ran.pairwise_given (h : Ran Edit b made) :
    made.Pairwise fun m m' => ∀ t, m.given = some t → ∀ t', m'.given = some t' → t < t' := by
  simpa [givenIn, List.pairwise_filterMap] using h.given_le.1

/-- The first write has an earlier timestamp than the second. -/
def Request.Before (r r' : Request) : Prop :=
  ∃ t t', r.timestamp = some t ∧ r'.timestamp = some t' ∧ t < t'

/-- The first statement does not have a later timestamp than the second. -/
def Statement.NotAfter (s s' : Statement) : Prop :=
  ∃ t t', s.timestamp = some t ∧ s'.timestamp = some t' ∧ t ≤ t'

/-- Without timestamps of their own, the calls of a window write in the order in which they were
made. -/
theorem Ran.before_of_window [LawfulSession σ] (h : Ran ProxyEdit b made)
    (hnone : ∀ m ∈ windowOf made, m.call.asked? = none) :
    (windowOf made).Pairwise fun m m' =>
      ∀ r ∈ m.pushed .logged, ∀ r' ∈ m'.pushed .logged, r.Before r' := by
  have hgiven := h.pairwise_given.sublist (windowOf_suffix made).sublist
  have stamp {m : Made σ E} (hm : m ∈ windowOf made) {r : Request} (hr : r ∈ m.pushed .logged) :
      ∃ t, m.given = some t ∧ r.timestamp = some t := by
    obtain ⟨hne, htimed⟩ := h.hands ((windowOf_suffix made).subset hm) hr
    have htimestamp : m.timestamp = m.given := by
      unfold Made.timestamp WindowCall.timestamp
      rw [hnone m hm]
      rfl
    rw [htimestamp] at hne htimed
    obtain ⟨t, ht⟩ := Option.ne_none_iff_exists'.1 hne
    exact ⟨t, ht, htimed.trans ht⟩
  refine hgiven.imp_of_mem fun hm hm' hlt r hr r' hr' => ?_
  obtain ⟨t, ht, htime⟩ := stamp hm hr
  obtain ⟨t', ht', htime'⟩ := stamp hm' hr'
  exact ⟨t, t', htime, htime', hlt t ht t' ht'⟩

/-- So the timestamps of a group never decrease: within a call they are equal, and from one call to
the next they increase. -/
theorem Ran.notAfter_of_window [LawfulSession σ] (h : Ran ProxyEdit b made)
    (hnone : ∀ m ∈ windowOf made, m.call.asked? = none) :
    (((windowOf made).flatMap (Made.pushed .logged)).map Request.statement).Pairwise
      Statement.NotAfter := by
  rw [List.pairwise_map, List.pairwise_flatMap]
  refine ⟨fun m hm => ?_, (h.before_of_window hnone).imp fun hbefore r hr r' hr' => ?_⟩
  · refine List.pairwise_of_forall_mem_list fun r hr r' hr' => ?_
    obtain ⟨hne, htimed⟩ := h.hands ((windowOf_suffix made).subset hm) hr
    have htimed' := (h.hands ((windowOf_suffix made).subset hm) hr').2
    obtain ⟨t, ht⟩ := Option.ne_none_iff_exists'.1 hne
    exact ⟨t, t, htimed.trans ht, htimed'.trans ht, Int.le_refl t⟩
  · obtain ⟨t, t', ht, ht', hlt⟩ := hbefore r hr r' hr'
    exact ⟨t, t', ht, ht', Int.le_of_lt hlt⟩

/-! ### The contract -/

/-- What a run and one more call do about timestamps. -/
structure TimestampContract (b : Batching σ E) (made : List (Made σ E)) (call : WindowCall E) :
    Prop where
  /-- The timestamps given to calls that ask for none strictly increase along the run. -/
  increasing : (givenIn (made ++ [⟨b, call⟩])).Pairwise (· < ·)
  /-- A write that asks for no timestamp is given one, unless it is refused for its level. -/
  given : ∀ now options, call.write? = some (now, options) → options.hasLevel = false →
    options.timestamp = none → call.given b = some (max now (b.lastTimestamp + 1))
  /-- With the clock below a limit, timestamps stay as far from the end of the machine integers as
  the limit and the number of calls leave them. -/
  bounded : ∀ limit, 0 ≤ limit →
    (∀ m ∈ made, ∀ now, m.call.reading? = some now → now ≤ limit) →
    b.lastTimestamp ≤ limit + made.length
  /-- The regular statements of a call all carry its timestamp. -/
  regular : ∀ r ∈ pushedIn .logged (call.acts b), ∃ t, call.timestamp b = some t ∧
    r.timestamp = some t
  /-- The statements of counters carry none. -/
  counter : ∀ r ∈ pushedIn .counter (call.acts b), r.timestamp = none
  /-- A timestamp that the call asks for is the one that its regular statements carry. -/
  kept : ∀ t, call.asked? = some t → call.given b = none ∧
    ∀ r ∈ pushedIn .logged (call.acts b), r.timestamp = some t
  /-- What is sent in a group are the statements of the calls since the last reset, in their
  order. -/
  groups : ∀ g ∈ groupsIn (call.acts b),
    g.statements = ((windowOf made).flatMap (Made.pushed g.kind)).map Request.statement
  /-- Exactly the statements of regular groups carry a timestamp. -/
  sent : ∀ g ∈ groupsIn (call.acts b), ∀ s ∈ g.statements,
    s.timestamp.isSome = true ↔ g.kind = .logged
  /-- In a window whose calls ask for no timestamps, these never decrease along the group. -/
  ordered : (∀ m ∈ windowOf made, m.call.asked? = none) →
    ∀ g ∈ groupsIn (call.acts b), g.kind = .logged → g.statements.Pairwise Statement.NotAfter
  /-- And they increase from one call to the next. -/
  separated : (∀ m ∈ windowOf made, m.call.asked? = none) → (windowOf made).Pairwise fun m m' =>
    ∀ r ∈ m.pushed .logged, ∀ r' ∈ m'.pushed .logged, r.Before r'

/-- Whatever the clock says, and whatever was done with a manager with windows: the timestamps that
it gives strictly increase over the whole run, the regular statements of a call carry the timestamp
of the call, and no others carry one. -/
theorem timestamp_contract [LawfulSession σ] (h : Ran ProxyEdit b made) (call : WindowCall E) :
    TimestampContract b made call where
  increasing := (h.call call).given_le.1
  given now options hwrite hlevel hnone := by
    simp [WindowCall.given, hwrite, hlevel, Batching.givenFor, hnone]
  bounded limit hlimit hclock := h.lastTimestamp_le hlimit hclock
  regular r hr := by
    obtain ⟨hne, htimed⟩ := call.hands h.reachable.isWindow hr
    obtain ⟨t, ht⟩ := Option.ne_none_iff_exists'.1 hne
    exact ⟨t, ht, htimed.trans ht⟩
  counter r hr := (call.hands h.reachable.isWindow hr).2
  kept t ht := by
    refine ⟨WindowCall.given_of_asked ht b, fun r hr => ?_⟩
    have htimestamp : call.timestamp b = some t := by
      unfold WindowCall.timestamp
      rw [ht]
      rfl
    exact (call.hands h.reachable.isWindow hr).2.trans htimestamp
  groups g hg := h.statements_of_group call hg
  sent g hg s hs := by
    rw [h.statements_of_group call hg] at hs
    obtain ⟨r, hr, rfl⟩ := List.mem_map.1 hs
    obtain ⟨m, hm, hr⟩ := List.mem_flatMap.1 hr
    obtain ⟨hne, htimed⟩ := h.hands ((windowOf_suffix made).subset hm) hr
    rw [r.timestamp_statement]
    cases hkind : g.kind with
    | logged =>
      rw [hkind] at htimed
      rw [show r.timestamp = m.timestamp from htimed]
      simpa [Option.isSome_iff_ne_none] using hne
    | counter =>
      rw [hkind] at htimed
      rw [show r.timestamp = none from htimed]
      simp
  ordered hnone g hg hkind := by
    rw [h.statements_of_group call hg, hkind]
    exact h.notAfter_of_window hnone
  separated hnone := h.before_of_window hnone

/-! ### Pages -/

namespace Page

theorem ran_manager (session : Script) {types : List (EntityType Page)}
    (h : ∀ T ∈ types, T.Built) : Ran ProxyEdit (manager session types) [] :=
  (Ran.start session .standard).register_all h

/-- A manager with windows, before a page is written. -/
def idle : Batching Script Page := .ofSite (manager .empty [plain]).site

/-- A page is written when the clock says seven. -/
def early : WindowCall Page :=
  .persist 7 plain (.bare ⟨.bigint 1, .text "Start", Counter.empty.incrBy 2⟩) .none

/-- Another page is removed when the clock was set back to three. -/
def setBack : WindowCall Page := .remove 3 plain (.bare ⟨.bigint 2, .null, .empty⟩) .none

/-- The manager after both calls. -/
def setBackState : Batching Script Page := (setBack.run (early.run idle).2).2

/-- The calls that were made. -/
def setBackCalls : List (Made Script Page) := [⟨idle, early⟩, ⟨(early.run idle).2, setBack⟩]

/-- The end of the window sends the insert with the timestamp seven and the delete with eight, and
the writes of counters without a timestamp. -/
theorem timestamp_contract_setBack :
    TimestampContract setBackState setBackCalls .endBatch ∧
      (groupsIn (WindowCall.endBatch.acts setBackState)).map
          (fun g => (g.kind, g.statements.map Statement.timestamp)) =
        [(.logged, [some 7, some 8]), (.counter, [none, none])] := by
  have hidle : Ran ProxyEdit idle [] := by
    apply (ran_manager .empty ?_).restart
    intro T hT
    rw [List.mem_singleton.1 hT]
    exact built_type _ _ _
  exact ⟨timestamp_contract ((hidle.call early).call setBack) .endBatch, by decide +kernel⟩

end Page

end WideColumn
