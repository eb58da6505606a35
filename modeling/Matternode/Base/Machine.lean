/-
  File:      Matternode/Base/Machine.lean
  Subject:   Machines that take one event after the other, and what holds along their runs.

  * `run` -- the state after a list of events;
  * `Along P s es` -- `P` holds of every step of the run, the state before it and its event;
  * `run_invariant` -- what holds at the start and is kept by every step holds after every run;
  * `run_invariant_of_split` -- the same where a step is known with the events around it;
  * `along_of_invariant` -- what an invariant gives of a step holds all along every run;
  * `along_invariant` -- the same where only the steps that meet a condition keep it: then it holds
    in every state a run passes, as long as its steps meet the condition.
-/
import Mathlib.Logic.Basic

namespace Matternode.Base

variable {σ ε : Type} (step : σ → ε → σ)

/-- The state after the events. -/
def run (s : σ) (es : List ε) : σ := es.foldl step s

@[simp] theorem run_nil (s : σ) : run step s [] = s := rfl

@[simp] theorem run_cons (s : σ) (e : ε) (es : List ε) :
    run step s (e :: es) = run step (step s e) es := rfl

theorem run_append (s : σ) (es fs : List ε) :
    run step s (es ++ fs) = run step (run step s es) fs := List.foldl_append

/-- **What holds at the start and is kept by every step holds in every state reached.** -/
theorem run_invariant {I : σ → Prop} (hstep : ∀ s e, I s → I (step s e)) {s : σ} (hs : I s)
    (es : List ε) : I (run step s es) := by
  induction es generalizing s with
  | nil => exact hs
  | cons e es ih => exact ih (hstep s e hs)

/-- The same where a step is known with the events before and after it. -/
theorem run_invariant_of_split {I : σ → Prop} {s : σ} {es : List ε}
    (hstep : ∀ before e after, es = before ++ e :: after → I (run step s before) →
      I (step (run step s before) e)) (hs : I s) : I (run step s es) := by
  induction es generalizing s with
  | nil => exact hs
  | cons e es ih =>
    refine ih (fun before e' after hes => ?_) (hstep [] e es rfl hs)
    exact hstep (e :: before) e' after (congrArg (e :: ·) hes)

/-- Every step of the run, as the state before it and its event, meets `P`. -/
def Along (P : σ → ε → Prop) : σ → List ε → Prop
  | _, [] => True
  | s, e :: es => P s e ∧ Along P (step s e) es

theorem along_append {P : σ → ε → Prop} {s : σ} {es fs : List ε} :
    Along step P s (es ++ fs) ↔ Along step P s es ∧ Along step P (run step s es) fs := by
  induction es generalizing s with
  | nil => exact ⟨fun h => ⟨trivial, h⟩, fun h => h.2⟩
  | cons e es ih => exact (and_congr_right' ih).trans and_assoc.symm

/-- What an invariant gives of each step holds all along every run. -/
theorem along_of_invariant {I : σ → Prop} {Q : σ → ε → Prop}
    (hstep : ∀ s e, I s → I (step s e)) (hgive : ∀ s e, I s → Q s e) {s : σ} (hs : I s)
    (es : List ε) : Along step Q s es := by
  induction es generalizing s with
  | nil => trivial
  | cons e es ih => exact ⟨hgive s e hs, ih (hstep s e hs)⟩

/-- **An invariant of the steps that meet `P`** holds, with what it gives of each step, all along a
    run whose steps meet `P`. -/
theorem along_invariant {I : σ → Prop} {P Q : σ → ε → Prop}
    (hstep : ∀ s e, I s → P s e → I (step s e)) (hgive : ∀ s e, I s → P s e → Q s e)
    {s : σ} {es : List ε} (hs : I s) (h : Along step P s es) :
    Along step Q s es ∧ I (run step s es) := by
  induction es generalizing s with
  | nil => exact ⟨trivial, hs⟩
  | cons e es ih =>
    obtain ⟨hQ, hI⟩ := ih (hstep s e hs h.1) h.2
    exact ⟨⟨hgive s e hs h.1, hQ⟩, hI⟩

end Matternode.Base
