import Smoltcp.Lib.Transition

/-!
# Two parties and a network

Two parties take steps in any order and send messages to each other. The network is what each party
has sent so far: a message stays on it, so that it may be received late, twice, after a later one or
never. Which operation receives which message is said by the guard of a run, that sees both parties.
-/

namespace Duplex

variable {σ ο μ : Type*}

/-- What a party does in one operation, and the messages it sends by it. -/
structure Machine (σ ο μ : Type*) where
  step : σ → ο → σ → Prop
  sends : σ → ο → σ → List μ

/-- A party and all it has sent, the latest first. -/
structure Party (σ μ : Type*) where
  state : σ
  sent : List μ

inductive Side where
  | left
  | right
  deriving DecidableEq

def Side.other : Side → Side
  | left => right
  | right => left

@[simp] lemma Side.other_other (i : Side) : i.other.other = i := by cases i <;> rfl

lemma Side.other_ne (i : Side) : i.other ≠ i := by
  cases i <;> rintro ⟨⟩

/-- The two parties. -/
abbrev Pair (σ μ : Type*) := Side → Party σ μ

variable (m : Machine σ ο μ)

/-- A party moves by an operation. -/
structure Machine.Moves (p : Party σ μ) (o : ο) (p' : Party σ μ) : Prop where
  step : m.step p.state o p'.state
  sent : p'.sent = m.sends p.state o p'.state ++ p.sent

lemma Machine.Moves.mem {m : Machine σ ο μ} {p p' : Party σ μ} {o : ο} (h : m.Moves p o p')
    {c : μ} (hc : c ∈ p.sent) : c ∈ p'.sent := by
  rw [h.sent]
  exact List.mem_append_right _ hc

/-- One of the parties moves. -/
inductive Step : Pair σ μ → Side × ο → Pair σ μ → Prop where
  | move {l : Pair σ μ} {p' : Party σ μ} (i : Side) (o : ο) (h : m.Moves (l i) o p') :
      Step l (i, o) (Function.update l i p')

/-- A guard that sees the party that moves, its peer and the operation. -/
def Guard (ok : Party σ μ → Party σ μ → ο → Prop) (l : Pair σ μ) (o : Side × ο) : Prop :=
  ok (l o.1) (l o.1.other) o.2

abbrev Run (ok : Party σ μ → Party σ μ → ο → Prop) : Pair σ μ → Pair σ μ → Prop :=
  Transition.Run (Step m) (Guard ok)

variable {m} {ok : Party σ μ → Party σ μ → ο → Prop} {l l' : Pair σ μ}

/-- What holds of each party and its peer, and is kept by a move of the party and by a move of the
peer, is kept by every run. -/
theorem Run.invariant {I : Party σ μ → Party σ μ → Prop}
    (hself : ∀ p q o p', I p q → I q p → ok p q o → m.Moves p o p' → I p' q)
    (hpeer : ∀ p q o p', I p q → I q p → ok p q o → m.Moves p o p' → I q p')
    (hrun : Run m ok l l') (h : ∀ i, I (l i) (l i.other)) (i : Side) : I (l' i) (l' i.other) := by
  refine Transition.Run.invariant (I := fun l => ∀ i, I (l i) (l i.other)) ?_ hrun h i
  rintro l ⟨i, o⟩ l' h hok ⟨_, _, hmove⟩ j
  have hi := h i
  have hother := h i.other
  rw [Side.other_other] at hother
  by_cases hj : j = i
  · subst hj
    rw [Function.update_self, Function.update_of_ne j.other_ne]
    exact hself _ _ o _ hi hother hok hmove
  · have hj : j = i.other := by
      cases i <;> cases j <;> first | rfl | exact absurd rfl hj
    subst hj
    rw [Side.other_other, Function.update_self, Function.update_of_ne i.other_ne]
    exact hpeer _ _ o _ hi hother hok hmove

/-- What holds of one of the parties, whatever the other one does, is kept by every run. -/
theorem Run.party {I : Party σ μ → Prop} {i : Side}
    (hself : ∀ p q o p', I p → ok p q o → m.Moves p o p' → I p')
    (hrun : Run m ok l l') (h : I (l i)) : I (l' i) := by
  refine Transition.Run.invariant (I := fun l => I (l i)) ?_ hrun h
  rintro l ⟨j, o⟩ l' h hok ⟨_, _, hmove⟩
  by_cases hj : j = i
  · subst hj
    rw [Function.update_self]
    exact hself _ _ o _ h hok hmove
  · rw [Function.update_of_ne (Ne.symm hj)]
    exact h

/-- A run of one machine is a run of another, if its moves are those of the other for parties that
have an invariant. -/
theorem Run.map {σ' ο' μ' : Type*} {m' : Machine σ' ο' μ'}
    {ok' : Party σ' μ' → Party σ' μ' → ο' → Prop} {I : Party σ μ → Party σ μ → Prop}
    (f : Party σ μ → Party σ' μ')
    (hself : ∀ p q o p', I p q → I q p → ok p q o → m.Moves p o p' → I p' q)
    (hpeer : ∀ p q o p', I p q → I q p → ok p q o → m.Moves p o p' → I q p')
    (hmap : ∀ p q o p', I p q → I q p → ok p q o → m.Moves p o p' →
      ∃ o', ok' (f p) (f q) o' ∧ m'.Moves (f p) o' (f p'))
    (hrun : Run m ok l l') (h : ∀ i, I (l i) (l i.other)) : Run m' ok' (f ∘ l) (f ∘ l') := by
  refine Transition.Run.invariant_of (J := fun l => ∀ i, I (l i) (l i.other))
    (I := fun l' => Run m' ok' (f ∘ l) (f ∘ l'))
    (fun l₁ hrun => Run.invariant hself hpeer hrun h) ?_ hrun .refl
  rintro l₁ ⟨i, o⟩ l₂ hinv hrun' hok ⟨_, _, hmove⟩
  have hother := hinv i.other
  rw [Side.other_other] at hother
  obtain ⟨o', hok', hmove'⟩ := hmap _ _ o _ (hinv i) hother hok hmove
  refine .tail (i, o') hrun' hok' ?_
  rw [Function.comp_update]
  exact .move i o' hmove'

/-! ### Execution -/

def pair (p q : Party σ μ) : Pair σ μ
  | .left => p
  | .right => q

lemma update_pair_left (p q p' : Party σ μ) :
    Function.update (pair p q) .left p' = pair p' q := by
  funext i
  cases i <;> rfl

lemma update_pair_right (p q q' : Party σ μ) :
    Function.update (pair p q) .right q' = pair p q' := by
  funext i
  cases i <;> rfl

/-- `exec next as p q` are the parties after the given acts of either side, if none of them fails.
-/
def exec {α : Type*} (next : Party σ μ → Party σ μ → α → Option (Party σ μ)) :
    List (Side × α) → Party σ μ → Party σ μ → Option (Party σ μ × Party σ μ)
  | [], p, q => some (p, q)
  | (.left, a) :: as, p, q => (next p q a).bind fun p' => exec next as p' q
  | (.right, a) :: as, p, q => (next q p a).bind fun q' => exec next as p q'

/-- What is executed is a run. -/
theorem Run.of_exec {α : Type*} {next : Party σ μ → Party σ μ → α → Option (Party σ μ)}
    (hnext : ∀ p q a p', next p q a = some p' → ∃ o, ok p q o ∧ m.Moves p o p')
    {as : List (Side × α)} {p q p' q' : Party σ μ} (h : exec next as p q = some (p', q')) :
    Run m ok (pair p q) (pair p' q') := by
  induction as generalizing p q with
  | nil =>
    cases h
    exact .refl
  | cons a as ih =>
    obtain ⟨i, a⟩ := a
    cases i with
    | left =>
      obtain ⟨p₁, hp₁, h⟩ := Option.bind_eq_some_iff.mp h
      obtain ⟨o, hok, hmove⟩ := hnext p q a p₁ hp₁
      have hstep := Step.move (l := pair p q) .left o hmove
      rw [update_pair_left] at hstep
      exact .head (o := (.left, o)) hok hstep (ih h)
    | right =>
      obtain ⟨q₁, hq₁, h⟩ := Option.bind_eq_some_iff.mp h
      obtain ⟨o, hok, hmove⟩ := hnext q p a q₁ hq₁
      have hstep := Step.move (l := pair p q) .right o hmove
      rw [update_pair_right] at hstep
      exact .head (o := (.right, o)) hok hstep (ih h)

end Duplex
