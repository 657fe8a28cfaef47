import WideColumn.Session

/-!
# Scripted sessions

A session that answers from a script instead of a cluster. Rows and failures are queued together
with a text; each is given out once, to the first call whose own text contains it. A call for which
nothing is queued succeeds without rows.
-/

namespace WideColumn

/-- Whether a text occurs in another one. -/
def occursIn (part : List Char) : List Char → Bool
  | [] => part.isEmpty
  | c :: rest => part.isPrefixOf (c :: rest) || occursIn part rest

/-- The sorts of calls that a session takes. -/
inductive CallSort where
  | prepare
  | execute
  | batch
deriving Repr, DecidableEq

/-- A queued failure. -/
structure ScriptedFailure where
  sort : CallSort
  /-- What the text of the call has to contain. -/
  pattern : String
  stop : Stop

/-- Queued rows. -/
structure ScriptedAnswer where
  /-- What the text of the statement has to contain. -/
  pattern : String
  rows : List Row

/-- What a session will answer. -/
structure Script where
  /-- Oldest first. -/
  failures : List ScriptedFailure
  /-- Oldest first. -/
  answers : List ScriptedAnswer
  /-- The number of the next prepared statement. -/
  nextId : Nat

/-- The first element that satisfies `p`, and all the others. -/
def takeFirst {α : Type} (p : α → Bool) : List α → Option (α × List α)
  | [] => none
  | x :: rest =>
    if p x then some (x, rest)
    else (takeFirst p rest).map fun (found, others) => (found, x :: others)

namespace Script

/-- A script in which nothing is queued. -/
def empty : Script := ⟨[], [], 1⟩

/-- Queue a failure. -/
def addFailure (s : Script) (failure : ScriptedFailure) : Script :=
  { s with failures := s.failures ++ [failure] }

/-- Queue rows. -/
def addAnswer (s : Script) (answer : ScriptedAnswer) : Script :=
  { s with answers := s.answers ++ [answer] }

/-- The failure that is due for a call, taken off the queue. -/
def failure? (s : Script) (sort : CallSort) (text : String) : Option (Stop × Script) :=
  (takeFirst (fun f : ScriptedFailure =>
      f.sort == sort && occursIn f.pattern.toList text.toList) s.failures).map
    fun (f, failures) => (f.stop, { s with failures })

/-- The rows that are due for a statement, taken off the queue. -/
def answer (s : Script) (text : String) : List Row × Script :=
  match takeFirst (fun a : ScriptedAnswer => occursIn a.pattern.toList text.toList) s.answers with
  | some (a, answers) => (a.rows, { s with answers })
  | none => ([], s)

instance : Session Script where
  prepare s query :=
    match s.failure? .prepare query with
    | some (stop, s) => (.error stop, s)
    | none => (.ok ⟨s.nextId, query⟩, { s with nextId := s.nextId + 1 })
  execute s statement :=
    match s.failure? .execute statement.query with
    | some (stop, s) => (.error stop, s)
    | none =>
      let (rows, s) := s.answer statement.query
      (.ok rows, s)
  executeBatch s kind _ _ :=
    match s.failure? .batch kind.name with
    | some (stop, s) => (.error stop, s)
    | none => (.ok (), s)

end Script

/-- Taking an element gives one that satisfies the test, and nothing is lost. -/
theorem takeFirst_eq_some {α : Type} (p : α → Bool) (xs : List α) (x : α) (others : List α)
    (h : takeFirst p xs = some (x, others)) : p x = true ∧ (x :: others).Perm xs := by
  induction xs generalizing others with
  | nil => simp [takeFirst] at h
  | cons y rest ih =>
    simp only [takeFirst] at h
    split at h
    · next hp =>
      obtain ⟨rfl, rfl⟩ : y = x ∧ rest = others := by simpa using h
      exact ⟨hp, .refl _⟩
    · obtain ⟨⟨found, left⟩, hfound, heq⟩ := Option.map_eq_some_iff.1 h
      obtain ⟨rfl, rfl⟩ : found = x ∧ y :: left = others := by simpa using heq
      obtain ⟨hp, hperm⟩ := ih left hfound
      exact ⟨hp, (List.Perm.swap _ _ _).trans (hperm.cons y)⟩

end WideColumn
