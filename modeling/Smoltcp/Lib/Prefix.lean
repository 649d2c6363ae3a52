import Smoltcp.Lib.Octets

/-!
# Prefixes of bit vectors

Two bit vectors have a prefix in common if their most significant bits agree. A mask tells the same:
the vectors are equal after all other bits are cleared, in one number or octet by octet.
-/

namespace BitVec

variable {w : ℕ}

/-- The first `n` bits of two bit vectors agree. -/
def AgreeOn (n : ℕ) (a b : BitVec w) : Prop := ∀ i < n, a.getMsbD i = b.getMsbD i

/-- The bits that a mask for a prefix leaves. -/
lemma getMsbD_and_mask {n : ℕ} (h : n ≤ w) (a : BitVec w) (i : ℕ) :
    (a &&& allOnes w <<< (w - n)).getMsbD i = (decide (i < n) && a.getMsbD i) := by
  rw [getMsbD_and, getMsbD_shiftLeft, getMsbD_allOnes]
  by_cases hi : i < n
  · simp [hi, show i + (w - n) < w by omega]
  · simp [hi, show ¬ i + (w - n) < w by omega]

/-- Bit vectors are equal under a mask for a prefix exactly if they agree on the prefix. -/
lemma and_mask_eq_iff {n : ℕ} (h : n ≤ w) (a b : BitVec w) :
    a &&& allOnes w <<< (w - n) = b &&& allOnes w <<< (w - n) ↔ AgreeOn n a b := by
  constructor
  · intro heq i hi
    have hbit := congrArg (getMsbD · i) heq
    simpa [getMsbD_and_mask h, hi] using hbit
  · intro hagree
    apply eq_of_getMsbD_eq
    intro i _
    rw [getMsbD_and_mask h, getMsbD_and_mask h]
    by_cases hi : i < n
    · rw [hagree i hi]
    · simp [hi]

/-- Bit vectors with the same bits are equal. -/
lemma agreeOn_self_iff (a b : BitVec w) : AgreeOn w a b ↔ a = b := by
  constructor
  · intro h
    exact eq_of_getMsbD_eq h
  · rintro rfl i _
    rfl

end BitVec

namespace Octets

open BitVec (AgreeOn)

/-- The octets of a mask for less than eight bits. -/
lemma and_octetMask_eq_iff {m : ℕ} (h : m < 8) (x y : UInt8) :
    x &&& ~~~ ((0xff : UInt8) >>> .ofNat m) = y &&& ~~~ ((0xff : UInt8) >>> .ofNat m) ↔
      AgreeOn m x.toBitVec y.toBitVec := by
  have hmask : ∀ m < 8, (~~~ ((0xff : UInt8) >>> .ofNat m)).toBitVec =
      BitVec.allOnes 8 <<< (8 - m) := by decide
  rw [← UInt8.toBitVec_inj, UInt8.toBitVec_and, UInt8.toBitVec_and, hmask m h,
    BitVec.and_mask_eq_iff h.le]

lemma get_ofNatBE {n i : ℕ} (h : i < n) (v : ℕ) :
    get (ofNatBE n v) i = .ofNat (v / 256 ^ (n - 1 - i)) := by
  induction n generalizing v with
  | zero => cases h
  | succ n ih =>
    rw [ofNatBE]
    by_cases hi : i < n
    · rw [get, List.getElem?_append_left (by simpa using hi), ← get, ih hi, Nat.div_div_eq_div_mul,
        ← Nat.pow_succ', show n + 1 - 1 - i = n - 1 - i + 1 by omega]
    · obtain rfl : i = n := by omega
      rw [get, List.getElem?_append_right (by simp), length_ofNatBE]
      simp

/-- The bits of an octet are bits of the number. -/
lemma getMsbD_get_ofU128 {i j : ℕ} (hi : i < 16) (hj : j < 8) (v : BitVec 128) :
    (get (ofU128 v) i).toBitVec.getMsbD j = v.getMsbD (8 * i + j) := by
  have hpow : 256 ^ (16 - 1 - i) = 2 ^ (8 * (16 - 1 - i)) := by norm_num [pow_mul]
  rw [ofU128, get_ofNatBE hi, hpow]
  change (BitVec.ofNat 8 _).getMsbD j = _
  rw [BitVec.getMsbD_eq_getLsbD, BitVec.getMsbD_eq_getLsbD, BitVec.getLsbD_ofNat,
    Nat.testBit_div_two_pow]
  simp only [hj, show 8 * i + j < 128 by omega, show 8 - 1 - j < 8 by omega, decide_true,
    Bool.true_and, BitVec.getLsbD]
  congr 1
  omega

/-- A prefix consists of whole octets and of some bits of the octet behind them. -/
lemma agreeOn_iff_octets {n : ℕ} (h : n ≤ 128) (a b : BitVec 128) :
    AgreeOn n a b ↔ (∀ i < n / 8, get (ofU128 a) i = get (ofU128 b) i) ∧
      AgreeOn (n % 8) (get (ofU128 a) (n / 8)).toBitVec (get (ofU128 b) (n / 8)).toBitVec := by
  constructor
  · intro hagree
    constructor
    · intro i hi
      rw [← UInt8.toBitVec_inj, ← BitVec.agreeOn_self_iff]
      intro j hj
      rw [getMsbD_get_ofU128 (by omega) hj, getMsbD_get_ofU128 (by omega) hj]
      exact hagree _ (by omega)
    · intro j hj
      rw [getMsbD_get_ofU128 (by omega) (by omega), getMsbD_get_ofU128 (by omega) (by omega)]
      exact hagree _ (by omega)
  · rintro ⟨hwhole, hrest⟩ k hk
    have hbits (v : BitVec 128) :
        v.getMsbD k = (get (ofU128 v) (k / 8)).toBitVec.getMsbD (k % 8) := by
      rw [getMsbD_get_ofU128 (by omega) (by omega), Nat.div_add_mod]
    rw [hbits a, hbits b]
    by_cases hlt : k / 8 < n / 8
    · rw [hwhole _ hlt]
    · rw [show k / 8 = n / 8 by omega]
      exact hrest _ (by omega)

end Octets
