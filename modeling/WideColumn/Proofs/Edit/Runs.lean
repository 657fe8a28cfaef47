import Mathlib.Data.List.Basic
import Mathlib.Data.List.Induction
import WideColumn.Edit.Script

/-!
# Runs of edits

What holds of every series of edits, on whatever container: the log of a series, what a log says
since one of its entries, and that two sides stay together over a series if they do over one edit.
Main statement: `runEdits_follow`.
-/

namespace WideColumn

section Runs

variable {V A S : Type} (run : A → S → Reply V × S)

theorem runEdits_map {B : Type} (f : B → A) (edits : List B) (s : S) :
    runEdits run (edits.map f) s = runEdits (fun edit => run (f edit)) edits s := by
  induction edits generalizing s with
  | nil => rfl
  | cons edit rest ih => simp only [List.map_cons, runEdits, ih]

/-- The edits of a run, each with what it told. -/
def editLog (edits : List A) (s : S) : List (A × Reply V) := edits.zip (runEdits run edits s).1

/-- Two sides that answer an edit alike and stay together answer a series alike and stay
together. -/
theorem runEdits_follow {T : Type} {run : A → S → Reply V × S} {run' : A → T → Reply V × T}
    {Together : S → T → Prop}
    (hedit : ∀ edit s t, Together s t →
      (run edit s).1 = (run' edit t).1 ∧ Together (run edit s).2 (run' edit t).2)
    (edits : List A) {s : S} {t : T} (h : Together s t) :
    (runEdits run edits s).1 = (runEdits run' edits t).1 ∧
      Together (runEdits run edits s).2 (runEdits run' edits t).2 := by
  induction edits generalizing s t with
  | nil => exact ⟨rfl, h⟩
  | cons edit rest ih =>
    obtain ⟨hreply, hnext⟩ := hedit edit s t h
    obtain ⟨hreplies, hlast⟩ := ih hnext
    exact ⟨congr (congrArg List.cons hreply) hreplies, hlast⟩

end Runs

/-- The entry is in the log, and all that came after it satisfies `P`. -/
def HeldSince {A : Type} (P : A → Prop) (entry : A) (log : List A) : Prop :=
  ∃ earlier later, log = earlier ++ entry :: later ∧ ∀ x ∈ later, P x

/-- One more entry of a log is the one in question, or keeps what the log said before. -/
theorem heldSince_append {A : Type} {P : A → Prop} {entry last : A} {log : List A} :
    HeldSince P entry (log ++ [last]) ↔ last = entry ∨ (HeldSince P entry log ∧ P last) := by
  constructor
  · rintro ⟨earlier, later, hlog, hlater⟩
    obtain rfl | ⟨later, final, rfl⟩ := List.eq_nil_or_concat' later
    · obtain ⟨-, hlast⟩ := List.append_inj' hlog rfl
      exact .inl (List.singleton_inj.1 hlast)
    · rw [← List.cons_append, ← List.append_assoc] at hlog
      obtain ⟨rfl, hlast⟩ := List.append_inj' hlog rfl
      obtain rfl := List.singleton_inj.1 hlast
      rw [List.forall_mem_append, List.forall_mem_singleton] at hlater
      exact .inr ⟨⟨earlier, later, rfl, hlater.1⟩, hlater.2⟩
  · rintro (rfl | ⟨⟨earlier, later, rfl, hlater⟩, hlast⟩)
    · exact ⟨log, [], rfl, fun _ hx => absurd hx List.not_mem_nil⟩
    · refine ⟨earlier, later ++ [last], by simp, ?_⟩
      rw [List.forall_mem_append, List.forall_mem_singleton]
      exact ⟨hlater, hlast⟩

/-- An insertion behind the front part of a list leaves the front part alone. -/
theorem insertIdx_append {V : Type} (front back : List V) (index : Nat) (x : V) :
    (front ++ back).insertIdx (front.length + index) x = front ++ back.insertIdx index x := by
  induction front with
  | nil => rw [List.length_nil, Nat.zero_add, List.nil_append, List.nil_append]
  | cons first rest ih =>
    rw [List.length_cons, Nat.succ_add, List.cons_append, List.insertIdx_succ_cons, ih,
      List.cons_append]

end WideColumn
