import Mathlib

/-!
# Panics

A function of the source that may panic returns `Checked α`. The modelled panics are the explicit
`panic!`s, failing `assert!`s and `debug_assert!`s, indices and ranges outside a slice, unsigned
subtractions below zero, remainders by zero, `unreachable!` and `unwrap` on `None`. Plain additions,
multiplications and shifts of fixed-width integers wrap around, as they do without overflow checks.
-/

namespace Smoltcp

inductive Panic where
  /-- "attempt to add to sequence number with unsigned overflow" -/
  | seqAddOverflow
  /-- "attempt to subtract to sequence number with unsigned overflow" -/
  | seqSubOverflow
  /-- "attempt to subtract sequence numbers with underflow" -/
  | seqSubUnderflow
  | assertFailed
  | indexOutOfRange
  | sliceOutOfRange
  | remainderByZero
  | subOverflow
  | unwrapNone
  | unreachable
  /-- "IP version mismatch" -/
  | ipVersionMismatch
  /-- "the time-to-live value of a packet must not be zero" -/
  | zeroHopLimit
  /-- "receiving buffer too large, cannot exceed 1 GiB" -/
  | bufferTooLarge
  deriving DecidableEq, Repr

abbrev Checked (α : Type) := Except Panic α

namespace Checked

variable {α β : Type}

/-- `assert!` and `debug_assert!`. -/
def assert (p : Prop) [Decidable p] : Checked Unit :=
  if p then .ok () else .error .assertFailed

/-- `a - b` on `usize`. -/
def sub (a b : ℕ) : Checked ℕ :=
  if b ≤ a then .ok (a - b) else .error .subOverflow

/-- `Option::unwrap`. -/
def unwrap : Option α → Checked α
  | some a => .ok a
  | none => .error .unwrapNone

/-- The index expression `l[i]`. -/
def index (l : List α) (i : ℕ) : Checked α :=
  match l[i]? with
  | some a => .ok a
  | none => .error .indexOutOfRange

/-- The slice expression `&l[a..b]`. -/
def slice (l : List α) (a b : ℕ) : Checked (List α) :=
  if a ≤ b ∧ b ≤ l.length then .ok ((l.take b).drop a) else .error .sliceOutOfRange

lemma bind_eq_ok {x : Checked α} {f : α → Checked β} {b : β} :
    (x >>= f) = .ok b ↔ ∃ a, x = .ok a ∧ f a = .ok b := by
  cases x with
  | error p => simp [bind, Except.bind]
  | ok a => simp [bind, Except.bind]

@[simp] lemma ok_bind (a : α) (f : α → Checked β) : (Except.ok a >>= f) = f a := rfl

@[simp] lemma error_bind (p : Panic) (f : α → Checked β) :
    (Except.error p >>= f) = Except.error p := rfl

@[simp] lemma pure_eq_ok (a : α) : (pure a : Checked α) = .ok a := rfl

/-- A result that was evaluated. -/
lemma exists_of_any {x : Checked α} {p : α → Bool} (h : x.toOption.any p = true) :
    ∃ a, x = .ok a ∧ p a = true := by
  cases x with
  | error e => cases h
  | ok a => exact ⟨a, rfl, h⟩

lemma assert_of {p : Prop} [Decidable p] (h : p) : assert p = .ok () := if_pos h

lemma assert_eq_ok {p : Prop} [Decidable p] {u : Unit} : assert p = .ok u ↔ p := by
  simp [assert]

lemma sub_of_le {a b : ℕ} (h : b ≤ a) : sub a b = .ok (a - b) := if_pos h

lemma sub_eq_ok {a b n : ℕ} : sub a b = .ok n ↔ b ≤ a ∧ n = a - b := by
  unfold sub
  split_ifs with h
  · simp [h, eq_comm]
  · simp [h]

lemma index_of {l : List α} {i : ℕ} {a : α} (h : l[i]? = some a) : index l i = .ok a := by
  rw [index, h]

lemma slice_of {l : List α} {a b : ℕ} (hab : a ≤ b) (hb : b ≤ l.length) :
    slice l a b = .ok ((l.take b).drop a) := if_pos ⟨hab, hb⟩

lemma slice_eq_ok {l r : List α} {a b : ℕ} :
    slice l a b = .ok r ↔ a ≤ b ∧ b ≤ l.length ∧ r = (l.take b).drop a := by
  unfold slice
  split_ifs with h
  · simp [h, eq_comm]
  · simp only [false_iff]
    rintro ⟨hab, hb, -⟩
    exact h ⟨hab, hb⟩

end Checked

end Smoltcp
