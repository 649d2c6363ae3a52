import Mathlib

/-!
# Deterministic machines

A machine takes a state and an operation to the next state and an outcome, or fails. Two machines
whose states are related match if related states stay related and every outcome is the same;
`run_matches` carries this from one step to whole runs. A machine whose abstract counterpart may
choose among several results is compared with a specification of single steps instead
(`run_refines`).
-/

namespace Machine

variable {σ τ ο ρ ε : Type*}

/-- Run operations in order and collect their outcomes. A failure ends the run. -/
def run (step : σ → ο → Except ε (σ × ρ)) (s : σ) : List ο → Except ε (σ × List ρ)
  | [] => .ok (s, [])
  | o :: ops => do
    let (s, r) ← step s o
    let (s, rs) ← run step s ops
    return (s, r :: rs)

/-- One more operation at the end of a run. -/
lemma run_concat {step : σ → ο → Except ε (σ × ρ)} {s s' s'' : σ} {ops : List ο} {o : ο}
    {rs : List ρ} {r : ρ} (hrun : run step s ops = .ok (s', rs))
    (hstep : step s' o = .ok (s'', r)) :
    run step s (ops ++ [o]) = .ok (s'', rs ++ [r]) := by
  induction ops generalizing s rs with
  | nil =>
    cases hrun
    simp [run, hstep, bind, Except.bind, pure, Except.pure]
  | cons o' ops ih =>
    rw [run] at hrun
    cases hs₁ : step s o' with
    | error e =>
      rw [hs₁] at hrun
      cases hrun
    | ok x =>
      obtain ⟨s₁, r₁⟩ := x
      rw [hs₁] at hrun
      simp only [bind, Except.bind] at hrun
      cases hs₂ : run step s₁ ops with
      | error e =>
        rw [hs₂] at hrun
        cases hrun
      | ok y =>
        obtain ⟨s₂, rs'⟩ := y
        rw [hs₂] at hrun
        cases hrun
        simp [run, hs₁, ih hs₂, bind, Except.bind, pure, Except.pure]

/-- Two steps that end in related states with the same outcome, or fail alike. -/
inductive Matches (R : σ → τ → Prop) : Except ε (σ × ρ) → Except ε (τ × ρ) → Prop where
  | ok {s : σ} {t : τ} (r : ρ) (h : R s t) : Matches R (.ok (s, r)) (.ok (t, r))
  | error (e : ε) : Matches R (.error e) (.error e)

variable {R : σ → τ → Prop} {step : σ → ο → Except ε (σ × ρ)} {step' : τ → ο → Except ε (τ × ρ)}
  {s : σ} {t : τ}

/-- Machines that match step by step match over every run. -/
theorem run_matches {ops : List ο}
    (hstep : ∀ s t, ∀ o ∈ ops, R s t → Matches R (step s o) (step' t o)) (h : R s t) :
    Matches R (run step s ops) (run step' t ops) := by
  induction ops generalizing s t with
  | nil => exact .ok [] h
  | cons o ops ih =>
    have ho := hstep s t o (List.mem_cons_self ..) h
    unfold run
    generalize step s o = x at ho
    generalize step' t o = y at ho
    cases ho with
    | error e => exact .error e
    | @ok s' t' r h' =>
      have hrest := ih (fun s t o ho => hstep s t o (List.mem_cons_of_mem _ ho)) h'
      simp only [bind, Except.bind]
      generalize run step s' ops = x at hrest
      generalize run step' t' ops = y at hrest
      cases hrest with
      | error e => exact .error e
      | ok rs h'' => exact .ok (r :: rs) h''

/-! ### Specifications -/

/-- A result, seen through an abstraction of the state. -/
def mapState (abs : σ → τ) (x : Except ε (σ × ρ)) : Except ε (τ × ρ) :=
  x.map fun r => (abs r.1, r.2)

@[simp] lemma mapState_ok (abs : σ → τ) (s : σ) (r : ρ) :
    mapState abs (.ok (s, r) : Except ε (σ × ρ)) = .ok (abs s, r) := rfl

@[simp] lemma mapState_error (abs : σ → τ) (e : ε) :
    mapState abs (.error e : Except ε (σ × ρ)) = .error e := rfl

/-- The results that a specification of single steps allows for a list of operations. -/
inductive Runs (spec : τ → ο → Except ε (τ × ρ) → Prop) :
    τ → List ο → Except ε (τ × List ρ) → Prop where
  | nil (t : τ) : Runs spec t [] (.ok (t, []))
  | cons {t t' : τ} {o : ο} {r : ρ} {ops : List ο} {x : Except ε (τ × List ρ)}
      (h : spec t o (.ok (t', r))) (hrest : Runs spec t' ops x) :
      Runs spec t (o :: ops) (x.map fun y => (y.1, r :: y.2))
  | error {t : τ} {o : ο} {e : ε} {ops : List ο} (h : spec t o (.error e)) :
      Runs spec t (o :: ops) (.error e)

variable {spec : τ → ο → Except ε (τ × ρ) → Prop} {abs : σ → τ}

/-- A machine whose steps meet a specification meets it over every run. -/
theorem run_refines (hstep : ∀ s o, spec (abs s) o (mapState abs (step s o))) (s : σ)
    (ops : List ο) : Runs spec (abs s) ops (mapState abs (run step s ops)) := by
  induction ops generalizing s with
  | nil => exact .nil _
  | cons o ops ih =>
    have ho := hstep s o
    unfold run
    cases hx : step s o with
    | error e =>
      rw [hx] at ho
      exact .error ho
    | ok y =>
      obtain ⟨s', r⟩ := y
      rw [hx] at ho
      have hrest := ih s'
      have hcons := Runs.cons ho hrest
      simp only [bind, Except.bind]
      cases hy : run step s' ops with
      | error e =>
        rw [hy] at hcons
        exact hcons
      | ok z =>
        rw [hy] at hcons
        exact hcons

/-- Every step of a run starts in a state where its operation is admissible. -/
def Guarded (step : σ → ο → Except ε (σ × ρ)) (ok : σ → ο → Prop) (s : σ) : List ο → Prop
  | [] => True
  | o :: ops => ok s o ∧ ∀ s' r, step s o = .ok (s', r) → Guarded step ok s' ops

instance decidableGuarded (step : σ → ο → Except ε (σ × ρ)) (ok : σ → ο → Prop)
    [∀ s o, Decidable (ok s o)] : ∀ (s : σ) (ops : List ο), Decidable (Guarded step ok s ops)
  | _, [] => .isTrue trivial
  | s, o :: ops =>
    match h : step s o with
    | .error e => decidable_of_iff (ok s o) ⟨fun hok => ⟨hok, by simp [h]⟩, And.left⟩
    | .ok (s', r) =>
      have := decidableGuarded step ok s' ops
      decidable_of_iff (ok s o ∧ Guarded step ok s' ops)
        ⟨fun hok => ⟨hok.1, by simpa [h] using hok.2⟩, fun hok => ⟨hok.1, hok.2 s' r h⟩⟩

/-- A machine whose admissible steps succeed, keep an invariant and meet a specification does so
over every guarded run. -/
theorem run_refines_of_guarded {I : σ → Prop} {ok : σ → ο → Prop}
    (hstep : ∀ s o, I s → ok s o →
      ∃ s' r, step s o = .ok (s', r) ∧ I s' ∧ spec (abs s) o (.ok (abs s', r)))
    {ops : List ο} (h : Guarded step ok s ops) (hs : I s) :
    ∃ s' rs, run step s ops = .ok (s', rs) ∧ I s' ∧ Runs spec (abs s) ops (.ok (abs s', rs)) := by
  induction ops generalizing s with
  | nil => exact ⟨s, [], rfl, hs, .nil _⟩
  | cons o ops ih =>
    obtain ⟨hok, hrest⟩ := h
    obtain ⟨s', r, hs', hI, hspec⟩ := hstep s o hs hok
    obtain ⟨s'', rs, hrun, hI', hruns⟩ := ih (hrest s' r hs') hI
    refine ⟨s'', r :: rs, ?_, hI', .cons hspec hruns⟩
    simp [run, hs', hrun, bind, Except.bind, pure, Except.pure]

/-- What every admissible step keeps, beside a ghost that follows the outcomes, holds at the end of
every guarded run that does not fail. -/
theorem Guarded.invariant {γ : Type*} {I : σ → γ → Prop} {ok : σ → ο → Prop} {next : γ → ρ → γ}
    (hstep : ∀ s g o s' r, I s g → ok s o → step s o = .ok (s', r) → I s' (next g r)) {g : γ}
    {s' : σ} {ops : List ο} {rs : List ρ} (h : Guarded step ok s ops) (hs : I s g)
    (hrun : run step s ops = .ok (s', rs)) : I s' (rs.foldl next g) := by
  induction ops generalizing s g rs with
  | nil =>
    cases hrun
    exact hs
  | cons o ops ih =>
    obtain ⟨hok, hrest⟩ := h
    rw [run] at hrun
    cases hs₁ : step s o with
    | error e =>
      rw [hs₁] at hrun
      cases hrun
    | ok x =>
      obtain ⟨s₁, r⟩ := x
      rw [hs₁] at hrun
      simp only [bind, Except.bind] at hrun
      cases hs₂ : run step s₁ ops with
      | error e =>
        rw [hs₂] at hrun
        cases hrun
      | ok y =>
        obtain ⟨s₂, rs'⟩ := y
        rw [hs₂] at hrun
        cases hrun
        exact ih (g := next g r) (hrest s₁ r hs₁) (hstep s g o s₁ r hs hok hs₁) hs₂

/-- A machine whose admissible steps, when they succeed, keep an invariant and meet a specification
does so over every guarded run that does not fail. -/
theorem Guarded.refines {I : σ → Prop} {ok : σ → ο → Prop}
    (hstep : ∀ s o s' r, I s → ok s o → step s o = .ok (s', r) →
      I s' ∧ spec (abs s) o (.ok (abs s', r)))
    {s' : σ} {ops : List ο} {rs : List ρ} (h : Guarded step ok s ops) (hs : I s)
    (hrun : run step s ops = .ok (s', rs)) : I s' ∧ Runs spec (abs s) ops (.ok (abs s', rs)) := by
  induction ops generalizing s rs with
  | nil =>
    cases hrun
    exact ⟨hs, .nil _⟩
  | cons o ops ih =>
    obtain ⟨hok, hrest⟩ := h
    rw [run] at hrun
    cases hs₁ : step s o with
    | error e =>
      rw [hs₁] at hrun
      cases hrun
    | ok x =>
      obtain ⟨s₁, r⟩ := x
      obtain ⟨hI, hspec⟩ := hstep s o s₁ r hs hok hs₁
      rw [hs₁] at hrun
      simp only [bind, Except.bind] at hrun
      cases hs₂ : run step s₁ ops with
      | error e =>
        rw [hs₂] at hrun
        cases hrun
      | ok y =>
        obtain ⟨s₂, rs'⟩ := y
        rw [hs₂] at hrun
        cases hrun
        obtain ⟨hI', hruns⟩ := ih (hrest s₁ r hs₁) hI hs₂
        exact ⟨hI', .cons hspec hruns⟩

/-- A machine whose steps succeed and keep an invariant does so over every run. -/
theorem run_invariant {I : σ → Prop} (hstep : ∀ s o, I s → ∃ s' r, step s o = .ok (s', r) ∧ I s')
    (hs : I s) (ops : List ο) : ∃ s' rs, run step s ops = .ok (s', rs) ∧ I s' := by
  induction ops generalizing s with
  | nil => exact ⟨s, [], rfl, hs⟩
  | cons o ops ih =>
    obtain ⟨s', r, hs', hI⟩ := hstep s o hs
    obtain ⟨s'', rs, hrun, hI'⟩ := ih hI
    refine ⟨s'', r :: rs, ?_, hI'⟩
    simp [run, hs', hrun, bind, Except.bind, pure, Except.pure]

/-- What every allowed step keeps holds at the end of every run. -/
theorem Runs.invariant {I : τ → Prop} (hkeep : ∀ t o t' r, I t → spec t o (.ok (t', r)) → I t')
    {t u : τ} {ops : List ο} {rs : List ρ} (h : Runs spec t ops (.ok (u, rs))) (ht : I t) :
    I u := by
  generalize hx : (Except.ok (u, rs) : Except ε (τ × List ρ)) = x at h
  induction h generalizing rs with
  | nil t =>
    cases hx
    exact ht
  | @cons t t' o r ops x h hrest ih =>
    cases x with
    | error e => cases hx
    | ok y =>
      cases hx
      exact ih (hkeep t o t' r ht h) rfl
  | error h => cases hx

end Machine
