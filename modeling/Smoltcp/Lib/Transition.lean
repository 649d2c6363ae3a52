import Mathlib

/-!
# Runs of a guarded transition system

A system is a relation `step t o u` that takes a state to the next one by an operation, and a
guard `ok t o` that says which operations a run may use in which state. Safety results are stated
over all runs of a guard, and proved by `Run.invariant` from what one guarded step preserves.
-/

namespace Transition

variable {σ ο : Type*} {step : σ → ο → σ → Prop} {ok ok' : σ → ο → Prop} {s t u : σ}

/-- `Run step ok s t`: `t` is reached from `s` by finitely many steps that all meet `ok`. -/
inductive Run (step : σ → ο → σ → Prop) (ok : σ → ο → Prop) (s : σ) : σ → Prop where
  | refl : Run step ok s s
  | tail {t u : σ} (o : ο) (hrun : Run step ok s t) (hok : ok t o) (hstep : step t o u) :
      Run step ok s u

namespace Run

/-- What holds at the start and is kept by every guarded step holds at the end of every run. -/
theorem invariant {I : σ → Prop} (hkeep : ∀ t o u, I t → ok t o → step t o u → I u)
    (hrun : Run step ok s t) (hs : I s) : I t := by
  induction hrun with
  | refl => exact hs
  | tail o _ hok hstep ih => exact hkeep _ o _ ih hok hstep

/-- As `invariant`, with the facts `J` already known of every state of the run. -/
theorem invariant_of {I J : σ → Prop} (hJ : ∀ t, Run step ok s t → J t)
    (hkeep : ∀ t o u, J t → I t → ok t o → step t o u → I u)
    (hrun : Run step ok s t) (hs : I s) : I t := by
  induction hrun with
  | refl => exact hs
  | tail o hrun hok hstep ih => exact hkeep _ o _ (hJ _ hrun) ih hok hstep

theorem mono (h : ∀ t o, ok t o → ok' t o) (hrun : Run step ok s t) : Run step ok' s t := by
  induction hrun with
  | refl => exact .refl
  | tail o _ hok hstep ih => exact .tail o ih (h _ o hok) hstep

theorem trans (hst : Run step ok s t) (htu : Run step ok t u) : Run step ok s u := by
  induction htu with
  | refl => exact hst
  | tail o _ hok hstep ih => exact .tail o ih hok hstep

/-- A step in front of a run. -/
theorem head {o : ο} (hok : ok s o) (hstep : step s o t) (hrun : Run step ok t u) :
    Run step ok s u :=
  trans (.tail o .refl hok hstep) hrun

end Run

/-! ### Execution -/

variable {ε : Type*} {next : σ → ο → Except ε σ} {check : σ → ο → Bool}

/-- `exec next check os s` is the state after the operations `os`, if none of them fails and each of
them passes the check. -/
def exec (next : σ → ο → Except ε σ) (check : σ → ο → Bool) : List ο → σ → Option σ
  | [], s => some s
  | o :: os, s =>
    if check s o then
      match next s o with
      | .ok t => exec next check os t
      | .error _ => none
    else none

/-- What is executed is a run. -/
theorem Run.of_exec (hcheck : ∀ s o, check s o = true → ok s o) {os : List ο}
    (h : exec next check os s = some t) : Run (fun s o t => next s o = .ok t) ok s t := by
  induction os generalizing s with
  | nil =>
    cases h
    exact .refl
  | cons o os ih =>
    unfold exec at h
    split_ifs at h with ho
    · cases hnext : next s o with
      | error e =>
        rw [hnext] at h
        cases h
      | ok u =>
        rw [hnext] at h
        exact .head (hcheck s o ho) hnext (ih h)

end Transition
