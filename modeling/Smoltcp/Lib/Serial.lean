import Mathlib

/-!
# Serial-number arithmetic

Numbers of a fixed width that advance modulo `2 ^ w` and are compared by the sign of their
wrapping difference. `dist a b` is that difference, read as a signed number, and `shift a k`
advances `a` by an integer.

The comparison is only an order between numbers that lie close together. The lemmas therefore
rewrite every number of a proof to a `shift` of one base point, after which `dist` is an ordinary
integer difference (`dist_shift_shift_of_lt`) and the rest is linear arithmetic.
-/

namespace Serial

variable {w : ℕ}

/-- The wrapping difference `a - b`, read as a signed number. -/
def dist (a b : BitVec w) : ℤ := (a - b).toInt

/-- Advance `a` by `k`, wrapping around. -/
def shift (a : BitVec w) (k : ℤ) : BitVec w := a + BitVec.ofInt w k

@[simp] lemma shift_zero (a : BitVec w) : shift a 0 = a := by simp [shift]

@[simp] lemma shift_shift (a : BitVec w) (j k : ℤ) : shift (shift a j) k = shift a (j + k) := by
  simp only [shift, BitVec.ofInt_add, BitVec.add_assoc]

@[simp] lemma dist_self (a : BitVec w) : dist a a = 0 := by simp [dist]

lemma dist_shift_shift (a : BitVec w) (j k : ℤ) :
    dist (shift a j) (shift a k) = (j - k).bmod (2 ^ w) := by
  have h : shift a j - shift a k = BitVec.ofInt w j - BitVec.ofInt w k := by
    simp only [shift]
    rw [BitVec.sub_eq_add_neg, BitVec.sub_eq_add_neg, BitVec.neg_add, ← BitVec.sub_eq_add_neg]
    ring
  rw [dist, h, BitVec.toInt_sub, BitVec.toInt_ofInt, BitVec.toInt_ofInt]
  simp

/-- Between two shifts of one base that differ by less than half the circle, the wrapping
difference is the true one. -/
lemma dist_shift_shift_of_lt (a : BitVec w) {j k : ℤ} (hlo : -2 ^ w ≤ 2 * (j - k))
    (hhi : 2 * (j - k) < 2 ^ w) : dist (shift a j) (shift a k) = j - k := by
  rw [dist_shift_shift, Int.bmod_eq_of_le_mul_two]
  · push_cast; omega
  · push_cast; omega

/-- Every number is the shift of any other by their wrapping difference. -/
lemma shift_dist (a b : BitVec w) : shift b (dist a b) = a := by
  rw [shift, dist, BitVec.ofInt_toInt, BitVec.add_comm, BitVec.sub_add_cancel]

lemma dist_lt (a b : BitVec w) : 2 * dist a b < 2 ^ w :=
  BitVec.two_mul_toInt_lt

lemma le_dist (a b : BitVec w) : -2 ^ w ≤ 2 * dist a b :=
  BitVec.le_two_mul_toInt

/-- The difference changes its sign with the order, unless the numbers are half the circle apart. -/
lemma dist_swap {a b : BitVec w} (h : -2 ^ w < 2 * dist a b) : dist b a = -dist a b := by
  have hlt := dist_lt a b
  have hd := dist_shift_shift_of_lt b (j := 0) (k := dist a b) (by omega) (by omega)
  rw [shift_zero, shift_dist] at hd
  omega

lemma dist_eq_zero_iff (a b : BitVec w) : dist a b = 0 ↔ a = b := by
  constructor
  · intro h
    rw [← shift_dist a b, h, shift_zero]
  · rintro rfl
    exact dist_self a

lemma shift_eq_shift_iff (a : BitVec w) (j k : ℤ) :
    shift a j = shift a k ↔ (j - k).bmod (2 ^ w) = 0 := by
  rw [← dist_eq_zero_iff, dist_shift_shift]

end Serial
