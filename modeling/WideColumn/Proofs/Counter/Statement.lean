import WideColumn.Proofs.Registry.Reachable
import WideColumn.Proofs.Window.Collect

/-!
# Counter statements

What the statement of a delta says: an increment or a decrement by its sign, of the counter column
of the row or of the value in the shared counter table, by its magnitude. The delta can be read off
the statement again (`deltaOf_deltaContent`).
-/

namespace WideColumn

open Op

/-- What the cluster reads of a statement, whatever handle it is executed by. -/
structure Content where
  text : String
  values : List Value
  level : Level
  timestamp : Option Int

/-- What the cluster reads of the statement. -/
def Statement.content (s : Statement) : Content := ⟨s.query, s.values, s.level, s.timestamp⟩

namespace Template

/-- The text of the increments of a counter. -/
def incrText (em : EntityMeta) (name : String) : String :=
  if em.isClusteredCounter then
    s!"UPDATE {em.tableName} SET {name}={name}+:{name} WHERE {keyCondition em};"
  else s!"UPDATE {counterTable} SET {counterValue} = {counterValue} + ? WHERE {counterCondition}"

/-- The text of the decrements of a counter. -/
def decrText (em : EntityMeta) (name : String) : String :=
  if em.isClusteredCounter then
    s!"UPDATE {em.tableName} SET {name}={name}-:{name} WHERE {keyCondition em};"
  else s!"UPDATE {counterTable} SET {counterValue} = {counterValue} - ? WHERE {counterCondition}"

/-- The text of the statement of a delta: its sign decides. -/
def deltaText (em : EntityMeta) (name : String) (delta : Int) : String :=
  if 0 ≤ delta then incrText em name else decrText em name

end Template

/-- What says which counter is meant: the key of the row, or the key in the shared table. -/
def counterTarget (em : EntityMeta) (pm : PropertyMeta) (encoded : List Value) : List Value :=
  if em.isClusteredCounter then encoded
  else [.text em.className, .text (keyText encoded), .text pm.name]

/-- What the statement of a delta says, for an encoded key. -/
def deltaContent {E : Type} (c : Call E) (encoded : List Value) (pm : PropertyMeta) (delta : Int) :
    Content where
  text := Template.deltaText c.entityMeta pm.name delta
  values := .bigint (Int64.ofNat delta.natAbs) :: counterTarget c.entityMeta pm encoded
  level := Levels.writeProperty c.options pm c.entityMeta
  timestamp := none

/-- What the statements of deltas say, one statement for each. -/
def Call.deltaContents {E : Type} (c : Call E) (key : List Value)
    (deltas : List (PropertyMeta × Int)) : Except Error (List Content) :=
  deltas.mapM fun x => do
    return deltaContent c (← Registry.encodedKey c.entityMeta key) x.1 x.2

/-! ### Binding a delta -/

/-- The magnitude of a delta fits into 64 bits, with one of them for the sign. -/
def MagnitudeFits (delta : Int) : Prop := delta.natAbs < Nat.pow 2 63

theorem counterDelta_eq_ok {em : EntityMeta} {pm : PropertyMeta} {delta : Int}
    {action : CounterAction} {magnitude : Value}
    (h : counterDelta em pm delta = .ok (action, magnitude)) :
    MagnitudeFits delta ∧ action = (if 0 ≤ delta then .incr else .decr) ∧
      magnitude = .bigint (Int64.ofNat delta.natAbs) := by
  unfold counterDelta at h
  split at h
  · next hlt =>
    obtain ⟨rfl, rfl⟩ := Prod.mk.inj (Except.ok.inj h)
    exact ⟨hlt, rfl, rfl⟩
  · cases h

theorem Template.mem_sharedCounters_delta {em : EntityMeta} (hem : em.isClusteredCounter = false)
    (name : String) {delta : Int} {text : String}
    (h : ((if 0 ≤ delta then CounterAction.incr else .decr), text) ∈ Template.sharedCounters) :
    text = Template.deltaText em name delta := by
  unfold deltaText incrText decrText
  by_cases hdelta : 0 ≤ delta
  · simp only [sharedCounters, hdelta, if_true, List.mem_cons, List.not_mem_nil, or_false,
      Prod.mk.injEq, reduceCtorEq, false_and, true_and] at h
    rw [h, hem]
    simp [hdelta]
  · simp only [sharedCounters, hdelta, if_false, List.mem_cons, List.not_mem_nil, or_false,
      Prod.mk.injEq, reduceCtorEq, false_and, true_and, false_or] at h
    rw [h, hem]
    simp [hdelta]

theorem Template.mem_clusteredCounters_delta {em : EntityMeta}
    (hem : em.isClusteredCounter = true) {name : String} {delta : Int} {text : String}
    (h : (((if 0 ≤ delta then CounterAction.incr else .decr), name), text) ∈
      Template.clusteredCounters em) : text = Template.deltaText em name delta := by
  unfold deltaText incrText decrText
  by_cases hdelta : 0 ≤ delta
  · simp only [clusteredCounters, clusteredCounter, hdelta, if_true, List.mem_append,
      List.mem_flatMap, List.mem_cons, List.not_mem_nil, or_false, Prod.mk.injEq, reduceCtorEq,
      false_and, true_and] at h
    obtain ⟨pm, -, rfl, rfl⟩ := h
    simp [hem, hdelta]
  · simp only [clusteredCounters, clusteredCounter, hdelta, if_false, List.mem_append,
      List.mem_flatMap, List.mem_cons, List.not_mem_nil, or_false, Prod.mk.injEq, reduceCtorEq,
      false_and, true_and, false_or] at h
    obtain ⟨pm, -, rfl, rfl⟩ := h
    simp [hem, hdelta]

section

variable {E : Type} {c : Call E} {r : Registry} {types : List (String × EntityMeta)}
  (hr : r.Sound types) {pm : PropertyMeta} {key : List Value} {delta : Int} {request : Request}
include hr

/-- A delta of a counter table is bound to a statement of the class, if no other class has its
name. -/
theorem Call.content_of_bindClusteredDelta (hsole : SoleClass types c.entityMeta)
    (hem : c.entityMeta.isClusteredCounter = true)
    (h : r.bindClusteredDelta c.entityMeta pm key delta
      (Levels.writeProperty c.options pm c.entityMeta) = .ok request) :
    MagnitudeFits delta ∧ ∃ encoded, Registry.encodedKey c.entityMeta key = .ok encoded ∧
      request.statement.content = deltaContent c encoded pm delta := by
  obtain ⟨⟨action, magnitude⟩, haction, h⟩ := except_bind_eq_ok h
  obtain ⟨p, hp, h⟩ := except_bind_eq_ok h
  obtain ⟨encoded, hencoded, hrequest⟩ := except_bind_eq_ok h
  obtain ⟨statements, hstatements, hp⟩ := except_bind_eq_ok hp
  obtain ⟨hrange, rfl, rfl⟩ := counterDelta_eq_ok haction
  have hin := mem_of_lookup (Registry.orMissing_eq_ok hp)
  obtain ⟨name', em', hmem', hclass, hcarry⟩ :=
    hr.entity (Registry.mem_entities_of_statements hstatements)
  obtain rfl := hsole _ hmem' hclass
  have htext := Template.mem_clusteredCounters_delta hem (hcarry.clusteredCounter hin)
  refine ⟨hrange, encoded, hencoded, ?_⟩
  obtain rfl := Except.ok.inj hrequest
  simp [Statement.content, deltaContent, counterTarget, hem, Request.statement, Request.bound,
    Statement.query, htext]

/-- A delta of the shared counter table is bound to a statement of this table. -/
theorem Call.content_of_bindSharedDelta (hem : c.entityMeta.isClusteredCounter = false)
    (h : r.bindSharedDelta c.entityMeta pm key delta
      (Levels.writeProperty c.options pm c.entityMeta) = .ok request) :
    MagnitudeFits delta ∧ ∃ encoded, Registry.encodedKey c.entityMeta key = .ok encoded ∧
      request.statement.content = deltaContent c encoded pm delta := by
  obtain ⟨⟨action, magnitude⟩, haction, h⟩ := except_bind_eq_ok h
  obtain ⟨p, hp, h⟩ := except_bind_eq_ok h
  obtain ⟨target, htarget, hrequest⟩ := except_bind_eq_ok h
  obtain ⟨statements, -, hp⟩ := except_bind_eq_ok hp
  obtain ⟨encoded, hencoded, hlist⟩ := except_bind_eq_ok htarget
  obtain ⟨hrange, rfl, rfl⟩ := counterDelta_eq_ok haction
  have hin := mem_of_lookup (Registry.orMissing_eq_ok hp)
  have htext := Template.mem_sharedCounters_delta hem pm.name (hr.sharedCounter hin)
  refine ⟨hrange, encoded, hencoded, ?_⟩
  obtain rfl := Except.ok.inj hrequest
  obtain rfl := Except.ok.inj hlist
  simp [Statement.content, deltaContent, counterTarget, hem, Request.statement, Request.bound,
    Statement.query, htext]

/-- A delta of a class that shares its name with no other is bound to a statement of this class. -/
theorem Call.content_of_bindDelta (hsole : SoleClass types c.entityMeta)
    (h : c.bindDelta r pm key delta = .ok request) :
    MagnitudeFits delta ∧ ∃ encoded, Registry.encodedKey c.entityMeta key = .ok encoded ∧
      request.statement.content = deltaContent c encoded pm delta := by
  unfold Call.bindDelta at h
  dsimp only at h
  split at h
  · next hem => exact content_of_bindClusteredDelta hr hsole hem h
  · next hem => exact content_of_bindSharedDelta hr (by simpa using hem) h

end

/-! ### Reading a delta off its statement -/

namespace Template

/-- How a counter column is changed: it is set to itself and a marker named like it. -/
def assignment (name : String) (sign : Char) : List Char :=
  name.toList ++ '=' :: name.toList ++ [sign, ':'] ++ name.toList

theorem assignment_inj {name other : String} {sign sign' : Char}
    (h : assignment name sign = assignment other sign') : name = other ∧ sign = sign' := by
  have hlength : name.toList.length = other.toList.length := by
    have heq := congrArg List.length h
    simp [assignment] at heq
    omega
  unfold assignment at h
  simp only [List.append_assoc, List.cons_append] at h
  obtain ⟨hname, hrest⟩ := List.append_inj h hlength
  rw [hname] at hrest
  simp at hrest
  exact ⟨String.toList_inj.1 hname, hrest⟩

variable {em : EntityMeta}

theorem toList_incrText (hem : em.isClusteredCounter = true) (name : String) :
    (incrText em name).toList = s!"UPDATE {em.tableName} SET ".toList ++ assignment name '+' ++
      s!" WHERE {keyCondition em};".toList := by
  unfold incrText assignment
  rw [if_pos hem]
  simp [toString, String.toList_append]

theorem toList_decrText (hem : em.isClusteredCounter = true) (name : String) :
    (decrText em name).toList = s!"UPDATE {em.tableName} SET ".toList ++ assignment name '-' ++
      s!" WHERE {keyCondition em};".toList := by
  unfold decrText assignment
  rw [if_pos hem]
  simp [toString, String.toList_append]

theorem incrText_inj (hem : em.isClusteredCounter = true) {name other : String}
    (h : incrText em name = incrText em other) : name = other := by
  have heq := congrArg String.toList h
  rw [toList_incrText hem, toList_incrText hem] at heq
  exact (assignment_inj (List.append_cancel_left (List.append_cancel_right heq))).1

theorem decrText_inj (hem : em.isClusteredCounter = true) {name other : String}
    (h : decrText em name = decrText em other) : name = other := by
  have heq := congrArg String.toList h
  rw [toList_decrText hem, toList_decrText hem] at heq
  exact (assignment_inj (List.append_cancel_left (List.append_cancel_right heq))).1

/-- No increment is a decrement, of whatever counters. -/
theorem incrText_ne_decrText (em : EntityMeta) (name other : String) :
    incrText em name ≠ decrText em other := by
  intro h
  cases hem : em.isClusteredCounter with
  | true =>
    have heq := congrArg String.toList h
    rw [toList_incrText hem, toList_decrText hem] at heq
    have hsign := (assignment_inj (List.append_cancel_left (List.append_cancel_right heq))).2
    revert hsign
    decide
  | false =>
    unfold incrText decrText at h
    rw [hem, if_neg Bool.false_ne_true, if_neg Bool.false_ne_true] at h
    revert h
    decide +kernel

end Template

/-- Whether the values after the magnitude say that the counter of the given name is meant, of the
row of an encoded key. In a counter table the name is in the text. -/
def namesCounter (em : EntityMeta) (encoded : List Value) (name : String) (target : List Value) :
    Bool :=
  if em.isClusteredCounter then keyText target == keyText encoded
  else
    match target with
    | [.text className, .text key, .text property] =>
      className == em.className && key == keyText encoded && property == name
    | _ => false

/-- What a statement does to a counter of the row of a key, read off its text and its values. -/
def Content.deltaOf (em : EntityMeta) (key : List Value) (name : String) (content : Content) :
    Int :=
  match content.values, Registry.encodedKey em key with
  | .bigint magnitude :: target, .ok encoded =>
    if namesCounter em encoded name target then
      if content.text = Template.incrText em name then magnitude.toInt
      else if content.text = Template.decrText em name then -magnitude.toInt
      else 0
    else 0
  | _, _ => 0

theorem namesCounter_counterTarget (em : EntityMeta) (name : String) (pm : PropertyMeta)
    (encoded : List Value) :
    namesCounter em encoded name (counterTarget em pm encoded) =
      (em.isClusteredCounter || pm.name == name) := by
  unfold counterTarget namesCounter
  split
  · next hem => simp [hem]
  · next hem => simp [hem]

/-- The delta of a statement is the delta that it was made for. -/
theorem deltaOf_deltaContent {E : Type} {c : Call E} {key encoded : List Value}
    (hencoded : Registry.encodedKey c.entityMeta key = .ok encoded) (pm : PropertyMeta)
    (name : String) {delta : Int} (hrange : MagnitudeFits delta) :
    (deltaContent c encoded pm delta).deltaOf c.entityMeta key name =
      if pm.name = name then delta else 0 := by
  have hmagnitude : (Int64.ofNat delta.natAbs).toInt = delta.natAbs :=
    Int64.toInt_ofNat_of_lt hrange
  unfold Content.deltaOf deltaContent
  rw [hencoded]
  dsimp only
  rw [namesCounter_counterTarget, hmagnitude]
  by_cases hname : pm.name = name
  · subst hname
    rw [if_pos (by simp), if_pos rfl]
    unfold Template.deltaText
    by_cases hdelta : 0 ≤ delta
    · rw [if_pos hdelta, if_pos rfl]
      omega
    · rw [if_neg hdelta, if_neg (Template.incrText_ne_decrText _ _ _).symm, if_pos rfl]
      omega
  · rw [if_neg hname]
    cases hem : c.entityMeta.isClusteredCounter with
    | false => simp [hname]
    | true =>
      rw [Bool.true_or, if_pos rfl]
      unfold Template.deltaText
      by_cases hdelta : 0 ≤ delta
      · rw [if_pos hdelta, if_neg fun h => hname (Template.incrText_inj hem h),
          if_neg (Template.incrText_ne_decrText _ _ _)]
      · rw [if_neg hdelta, if_neg (Template.incrText_ne_decrText _ _ _).symm,
          if_neg fun h => hname (Template.decrText_inj hem h)]

end WideColumn
