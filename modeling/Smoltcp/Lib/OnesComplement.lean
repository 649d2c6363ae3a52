import Mathlib

/-!
# Ones' complement arithmetic of 16 bits

Numbers are added with the carry taken around to the low end. A sum is then a representative of the
sum in the integers modulo 65535. Zero has two representatives, and 0 is that of 0 alone: `fold`.
-/

namespace OnesComplement

/-- Addition with end-around carry. -/
def add (a b : ℕ) : ℕ := (a + b) % 2 ^ 16 + (a + b) / 2 ^ 16

def sum (ws : List ℕ) : ℕ := ws.foldl add 0

/-- The representative of a number: 0 for 0, and else between 1 and 65535. -/
def fold (n : ℕ) : ℕ := if n = 0 then 0 else (n - 1) % 65535 + 1

@[simp] lemma fold_zero : fold 0 = 0 := rfl

lemma fold_of_ne {n : ℕ} (h : n ≠ 0) : fold n = (n - 1) % 65535 + 1 := if_neg h

lemma fold_le (n : ℕ) : fold n ≤ 65535 := by
  unfold fold
  split_ifs <;> omega

lemma fold_mod (n : ℕ) : fold n % 65535 = n % 65535 := by
  unfold fold
  split_ifs <;> omega

lemma fold_eq_zero_iff {n : ℕ} : fold n = 0 ↔ n = 0 := by
  by_cases h : n = 0
  · simp [h]
  · simp [fold_of_ne h, h]

/-- The representative is determined by its class, its bound and being zero. -/
lemma eq_fold {m n : ℕ} (hle : m ≤ 65535) (hmod : m % 65535 = n % 65535) (hzero : m = 0 ↔ n = 0) :
    m = fold n := by
  unfold fold
  split_ifs <;> omega

lemma fold_add_fold (a b : ℕ) : fold (a + fold b) = fold (a + b) := by
  have hmod := fold_mod b
  have hzero := @fold_eq_zero_iff b
  refine eq_fold (fold_le _) ?_ ?_
  · rw [fold_mod]
    omega
  · rw [fold_eq_zero_iff]
    omega

lemma fold_fold_add (a b : ℕ) : fold (fold a + b) = fold (a + b) := by
  rw [Nat.add_comm, fold_add_fold, Nat.add_comm]

lemma fold_eq_max_iff {n : ℕ} : fold n = 65535 ↔ n ≠ 0 ∧ n % 65535 = 0 := by
  by_cases h : n = 0
  · simp [h]
  · rw [fold_of_ne h]
    constructor <;> intro hn <;> omega

/-- The complement of a sum makes the whole sum up to all ones. -/
lemma fold_add_complement {n : ℕ} (h : n ≠ 0) : fold (n + (65535 - fold n)) = 65535 := by
  have hmod := fold_mod n
  have hle := fold_le n
  rw [fold_eq_max_iff]
  omega

lemma add_eq_fold {a b : ℕ} (ha : a < 2 ^ 16) (hb : b < 2 ^ 16) : add a b = fold (a + b) := by
  unfold add
  apply eq_fold <;> omega

/-- A sum with end-around carries represents the sum. -/
theorem sum_eq_fold {ws : List ℕ} (h : ∀ w ∈ ws, w < 2 ^ 16) : sum ws = fold ws.sum := by
  -- the accumulator is the representative of what was added so far
  suffices hacc : ∀ n, ws.foldl add (fold n) = fold (n + ws.sum) by
    simpa [sum] using hacc 0
  induction ws with
  | nil => simp
  | cons w ws ih =>
    intro n
    have hw : w < 2 ^ 16 := h w List.mem_cons_self
    have hn := fold_le n
    rw [List.foldl_cons, add_eq_fold (by omega) hw, fold_fold_add,
      ih (fun v hv => h v (List.mem_cons_of_mem w hv)), List.sum_cons, Nat.add_assoc]

/-- Replacing one word by another of a different class makes a sum of zero one that is not. -/
lemma fold_set_ne {ws : List ℕ} {i w c : ℕ} (hi : i < ws.length)
    (hw : w % 65535 ≠ ws[i] % 65535) (h : fold (c + ws.sum) = 65535) :
    fold (c + (ws.set i w).sum) ≠ 65535 := by
  have hset : (ws.set i w).sum + ws[i] = ws.sum + w := by
    have hsplit := List.sum_set ws i w
    have hold := List.sum_take_add_sum_drop ws i
    rw [List.drop_eq_getElem_cons hi, List.sum_cons] at hold
    rw [hsplit, if_pos hi]
    omega
  rw [fold_eq_max_iff] at h
  rw [Ne, fold_eq_max_iff]
  omega

end OnesComplement
