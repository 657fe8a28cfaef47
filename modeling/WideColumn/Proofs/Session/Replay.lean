import WideColumn.Proofs.Window.Collect

/-!
# Replaying a trace

A session is a state with step functions, so what it answered can be found again from the state
before a run and from the acts of the run: which statements it accepted, and whether it refused
anything. A run is faithful when its acts account for everything that was asked of the session.
-/

namespace WideColumn

open Op

variable {σ E : Type} [Session σ]

/-- The session after an act. -/
def Act.replay (session : σ) : Act → σ
  | .prepared text => (Session.prepare session text).2
  | .executed statement => (Session.execute session statement).2
  | .sentBatch kind statements level => (Session.executeBatch session kind statements level).2
  | _ => session

/-- The session after a run. -/
def replay (session : σ) (acts : List Act) : σ := acts.foldl Act.replay session

/-- Whether the session refuses what an act asks of it. -/
def Act.isRefused (session : σ) : Act → Bool
  | .prepared text => !(Session.prepare session text).1.isOk
  | .executed statement => !(Session.execute session statement).1.isOk
  | .sentBatch kind statements level =>
    !(Session.executeBatch session kind statements level).1.isOk
  | _ => false

/-- Whether the session refuses anything in a run. -/
def isRefused (session : σ) : List Act → Bool
  | [] => false
  | act :: rest => act.isRefused session || isRefused (act.replay session) rest

/-- The statements that the session accepts in a run when they are executed on their own. -/
def acceptedIn (session : σ) : List Act → List Statement
  | [] => []
  | .executed statement :: rest =>
    let accepted := acceptedIn (Session.execute session statement).2 rest
    if (Session.execute session statement).1.isOk then statement :: accepted else accepted
  | act :: rest => acceptedIn (act.replay session) rest

@[simp] theorem replay_nil (session : σ) : replay session [] = session := rfl

@[simp] theorem replay_append (session : σ) (acts more : List Act) :
    replay session (acts ++ more) = replay (replay session acts) more := List.foldl_append

theorem isRefused_append (session : σ) (acts more : List Act) :
    isRefused session (acts ++ more) =
      (isRefused session acts || isRefused (replay session acts) more) := by
  induction acts generalizing session with
  | nil => rfl
  | cons act rest ih =>
    rw [List.cons_append, isRefused, isRefused, ih, Bool.or_assoc]
    rfl

theorem acceptedIn_cons (session : σ) (act : Act) (rest : List Act) :
    acceptedIn session (act :: rest) =
      acceptedIn session [act] ++ acceptedIn (act.replay session) rest := by
  cases act with
  | executed statement =>
    simp only [acceptedIn, Act.replay]
    split <;> rfl
  | _ => rfl

@[simp] theorem acceptedIn_append (session : σ) (acts more : List Act) :
    acceptedIn session (acts ++ more) =
      acceptedIn session acts ++ acceptedIn (replay session acts) more := by
  induction acts generalizing session with
  | nil => rfl
  | cons act rest ih =>
    rw [List.cons_append, acceptedIn_cons, acceptedIn_cons session act rest, ih, List.append_assoc]
    rfl

/-- Only what was executed was accepted. -/
theorem acceptedIn_sublist (session : σ) (acts : List Act) :
    (acceptedIn session acts).Sublist (executedIn acts) := by
  induction acts generalizing session with
  | nil => exact .refl []
  | cons act rest ih =>
    cases act with
    | executed statement =>
      unfold acceptedIn
      dsimp only
      split
      · exact (ih _).cons_cons statement
      · exact (ih _).cons statement
    | _ => exact ih _

theorem acceptedIn_of_quiet {acts : List Act} (h : Quiet acts) (session : σ) :
    acceptedIn session acts = [] := by
  have hsub := acceptedIn_sublist session acts
  rw [h.2.2] at hsub
  exact List.eq_nil_of_sublist_nil hsub

/-- Interceptors ask nothing of the session. -/
theorem replay_intercepted (session : σ) (h : Handle) (notices : List Notice) :
    replay session (notices.map (.intercepted h)) = session := by
  induction notices with
  | nil => rfl
  | cons notice rest ih => exact ih

theorem replay_prepared (session : σ) (texts : List String) :
    replay session (texts.map .prepared) = preparing session texts := by
  induction texts generalizing session with
  | nil => rfl
  | cons text rest ih => exact ih _

end WideColumn
