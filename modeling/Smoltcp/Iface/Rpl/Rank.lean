import Smoltcp.Panic

/-!
# Ranks of RPL nodes

A rank is a fixed-point number whose integer part is its `dag_rank`; ranks are compared by that part
alone. With objective function 0 a node adds three hops to the rank of its parent, so ranks ascend
away from the root as long as the sum fits into 16 bits (`ascends_iff`).
-/

namespace Smoltcp.Rpl

def defaultMinHopRankIncrease : UInt16 := 256

structure Rank where
  value : UInt16
  minHopRankIncrease : UInt16
  increase_pos : 0 < minHopRankIncrease

namespace Rank

def infinite : Rank := ⟨0xffff, defaultMinHopRankIncrease, by decide⟩

def root : Rank := ⟨defaultMinHopRankIncrease, defaultMinHopRankIncrease, by decide⟩

/-- `Rank::new`, which asserts that the increase is positive. -/
def new (value minHopRankIncrease : UInt16) : Checked Rank :=
  if h : 0 < minHopRankIncrease then .ok ⟨value, minHopRankIncrease, h⟩ else .error .assertFailed

/-- The integer part of a rank. -/
def dagRank (r : Rank) : UInt16 := r.value / r.minHopRankIncrease

/-- `impl PartialEq for Rank`. -/
instance : BEq Rank := ⟨fun r s => r.dagRank == s.dagRank⟩

/-- `impl PartialOrd for Rank`. -/
instance : LT Rank := ⟨fun r s => r.dagRank < s.dagRank⟩

instance (r s : Rank) : Decidable (r < s) := inferInstanceAs (Decidable (r.dagRank < s.dagRank))

lemma lt_iff {r s : Rank} : r < s ↔ r.dagRank.toNat < s.dagRank.toNat := UInt16.lt_iff_toNat_lt

lemma toNat_dagRank (r : Rank) : r.dagRank.toNat = r.value.toNat / r.minHopRankIncrease.toNat :=
  UInt16.toNat_div ..

lemma bne_iff {r s : Rank} : r != s ↔ r.dagRank ≠ s.dagRank := by
  change (!(r.dagRank == s.dagRank)) = true ↔ _
  rw [Bool.not_eq_true', beq_eq_false_iff_ne]

lemma new_self (r : Rank) (value : UInt16) :
    new value r.minHopRankIncrease = .ok { r with value } := dif_pos r.increase_pos

end Rank

namespace ObjectiveFunction0

def rankStretch : UInt16 := 0

def rankFactor : UInt16 := 1

def rankStep : UInt16 := 3

def rankIncrease (parentRank : Rank) : UInt16 :=
  (rankFactor * rankStep + rankStretch) * parentRank.minHopRankIncrease

/-- The rank of a node. Its current rank is not looked at. -/
def rank (_ parentRank : Rank) : Checked Rank := do
  Checked.assert (parentRank != Rank.infinite)
  Rank.new (parentRank.value + rankIncrease parentRank) parentRank.minHopRankIncrease

/-- The rank of a node that is `n` hops below one of rank `r`. -/
def rankBelow (r : Rank) : ℕ → Checked Rank
  | 0 => .ok r
  | n + 1 => do
    let parentRank ← rankBelow r n
    rank Rank.infinite parentRank

/-- No product and no sum of the computation leaves the 16 bits it is made in. -/
def Exact (parentRank : Rank) : Prop :=
  let increase := (rankFactor.toNat * rankStep.toNat + rankStretch.toNat) *
    parentRank.minHopRankIncrease.toNat
  increase < 2 ^ 16 ∧ parentRank.value.toNat + increase < 2 ^ 16

variable {r p c : Rank} {n k : ℕ}

/-- What a node computes from a parent whose rank is finite. -/
lemma rank_eq (hp : p != Rank.infinite) (current : Rank) :
    rank current p = .ok { p with value := p.value + rankIncrease p } := by
  rw [rank, Checked.assert_of hp, Checked.ok_bind, Rank.new_self]

lemma finite_of_rank (h : rank Rank.infinite p = .ok c) : p != Rank.infinite := by
  obtain ⟨_, hassert, -⟩ := Checked.bind_eq_ok.mp h
  exact Checked.assert_eq_ok.mp hassert

lemma exact_iff : Exact p ↔ p.value.toNat + 3 * p.minHopRankIncrease.toNat < 2 ^ 16 := by
  simp only [Exact, rankFactor, rankStep, rankStretch, UInt16.reduceToNat]
  omega

lemma toNat_rankIncrease (h : Exact p) :
    (rankIncrease p).toNat = 3 * p.minHopRankIncrease.toNat := by
  have hlt := exact_iff.mp h
  have hfactor : (rankFactor * rankStep + rankStretch).toNat = 3 := rfl
  rw [rankIncrease, UInt16.toNat_mul, hfactor, Nat.mod_eq_of_lt (by omega)]

/-- An exact computation adds three to the integer part. -/
lemma dagRank_of_exact (h : Exact p) (hc : rank Rank.infinite p = .ok c) :
    c.value.toNat = p.value.toNat + 3 * p.minHopRankIncrease.toNat ∧
      c.minHopRankIncrease = p.minHopRankIncrease ∧ c.dagRank.toNat = p.dagRank.toNat + 3 := by
  have hlt := exact_iff.mp h
  rw [rank_eq (finite_of_rank hc)] at hc
  cases hc
  have hvalue : (p.value + rankIncrease p).toNat =
      p.value.toNat + 3 * p.minHopRankIncrease.toNat := by
    rw [UInt16.toNat_add, toNat_rankIncrease h, Nat.mod_eq_of_lt hlt]
  refine ⟨hvalue, rfl, ?_⟩
  have hpos : 0 < p.minHopRankIncrease.toNat := UInt16.lt_iff_toNat_lt.mp p.increase_pos
  rw [Rank.toNat_dagRank, Rank.toNat_dagRank, hvalue, Nat.add_mul_div_right _ _ hpos]

/-- Ranks ascend over the `n` hops below a node of rank `r`: wherever a parent has a finite rank,
its child computes a greater or the infinite one without overflow, and no node is below itself. -/
def Ascends (r : Rank) (n : ℕ) : Prop :=
  (∀ k < n, ∀ p, rankBelow r k = .ok p → p != Rank.infinite →
    Exact p ∧ ∃ c, rank Rank.infinite p = .ok c ∧ (p < c ∨ c == Rank.infinite)) ∧
  ∀ j k p c, j < k → k ≤ n → rankBelow r j = .ok p → rankBelow r k = .ok c → p < c

/-- The sums over `n` hops fit into 16 bits, up to the hop whose integer part is the infinite one.
-/
def Fits (r : Rank) (n : ℕ) : Prop :=
  ∀ k < n, (∀ j ≤ k, r.dagRank.toNat + 3 * j ≠ Rank.infinite.dagRank.toNat) →
    r.value.toNat + 3 * r.minHopRankIncrease.toNat * (k + 1) < 2 ^ 16

/-- The rank `p` lies `k` hops below `r`, all of them computed without overflow. -/
structure Below (r : Rank) (k : ℕ) (p : Rank) : Prop where
  value : p.value.toNat = r.value.toNat + 3 * r.minHopRankIncrease.toNat * k
  increase : p.minHopRankIncrease = r.minHopRankIncrease
  dagRank : p.dagRank.toNat = r.dagRank.toNat + 3 * k

namespace Below

lemma zero (r : Rank) : Below r 0 r := ⟨rfl, rfl, rfl⟩

lemma exact_iff (h : Below r k p) :
    Exact p ↔ r.value.toNat + 3 * r.minHopRankIncrease.toNat * (k + 1) < 2 ^ 16 := by
  rw [ObjectiveFunction0.exact_iff, h.value, h.increase, Nat.mul_add_one]
  omega

lemma finite_iff (h : Below r k p) :
    p != Rank.infinite ↔ r.dagRank.toNat + 3 * k ≠ Rank.infinite.dagRank.toNat := by
  rw [← h.dagRank, Rank.bne_iff, ne_eq, ne_eq, UInt16.toNat_inj]

/-- One hop further. -/
lemma succ (h : Below r k p) (hexact : Exact p) (hc : rank Rank.infinite p = .ok c) :
    Below r (k + 1) c := by
  obtain ⟨hvalue, hincrease, hdag⟩ := dagRank_of_exact hexact hc
  refine ⟨?_, hincrease.trans h.increase, ?_⟩
  · rw [hvalue, h.value, h.increase, Nat.mul_add_one, Nat.add_assoc]
  · rw [hdag, h.dagRank]
    omega

end Below

/-- The hops of a chain that fits are exact, and no parent in it has the infinite rank. -/
lemma Fits.below (h : Fits r n) (hk : k ≤ n) (hp : rankBelow r k = .ok p) :
    Below r k p ∧ ∀ j < k, r.dagRank.toNat + 3 * j ≠ Rank.infinite.dagRank.toNat := by
  induction k generalizing p with
  | zero =>
    cases hp
    exact ⟨.zero r, nofun⟩
  | succ k ih =>
    obtain ⟨q, hq, hrank⟩ := Checked.bind_eq_ok.mp hp
    obtain ⟨hbelow, hfinite⟩ := ih (by omega) hq
    have hlast := hbelow.finite_iff.mp (finite_of_rank hrank)
    have hall : ∀ j ≤ k, r.dagRank.toNat + 3 * j ≠ Rank.infinite.dagRank.toNat := by
      intro j hj
      rcases Nat.lt_or_eq_of_le hj with hlt | rfl
      · exact hfinite j hlt
      · exact hlast
    refine ⟨hbelow.succ (hbelow.exact_iff.mpr (h k hk hall)) hrank, ?_⟩
    intro j hj
    exact hall j (by omega)

/-- Over hops that ascend, the chain reaches every depth before the infinite rank. -/
lemma Ascends.exists_below (h : Ascends r n) (hk : k ≤ n)
    (hfinite : ∀ j < k, r.dagRank.toNat + 3 * j ≠ Rank.infinite.dagRank.toNat) :
    ∃ p, rankBelow r k = .ok p ∧ Below r k p := by
  induction k with
  | zero => exact ⟨r, rfl, .zero r⟩
  | succ k ih =>
    obtain ⟨p, hp, hbelow⟩ := ih (by omega) fun j hj => hfinite j (by omega)
    obtain ⟨hexact, c, hc, -⟩ :=
      h.1 k (by omega) p hp (hbelow.finite_iff.mpr (hfinite k (by omega)))
    refine ⟨c, ?_, hbelow.succ hexact hc⟩
    rw [rankBelow, hp, Checked.ok_bind, hc]

/-- Ranks ascend away from a node exactly as long as they fit into 16 bits. -/
theorem ascends_iff (r : Rank) (n : ℕ) : Ascends r n ↔ Fits r n := by
  constructor
  · intro h k hk hfinite
    obtain ⟨p, hp, hbelow⟩ := h.exists_below (k := k) (by omega) fun j hj => hfinite j (by omega)
    have hexact := (h.1 k hk p hp (hbelow.finite_iff.mpr (hfinite k le_rfl))).1
    exact hbelow.exact_iff.mp hexact
  · intro h
    refine ⟨?_, ?_⟩
    · intro k hk p hp hfinite
      obtain ⟨hbelow, hbefore⟩ := h.below (by omega) hp
      have hall : ∀ j ≤ k, r.dagRank.toNat + 3 * j ≠ Rank.infinite.dagRank.toNat := by
        intro j hj
        rcases Nat.lt_or_eq_of_le hj with hlt | rfl
        · exact hbefore j hlt
        · exact hbelow.finite_iff.mp hfinite
      have hexact := hbelow.exact_iff.mpr (h k hk hall)
      have hrank := rank_eq hfinite Rank.infinite
      refine ⟨hexact, _, hrank, .inl (Rank.lt_iff.mpr ?_)⟩
      have hdag := (dagRank_of_exact hexact hrank).2.2
      omega
    · intro j k p c hjk hk hp hc
      have hdag := (h.below (by omega) hp).1.dagRank
      have hdag' := (h.below hk hc).1.dagRank
      rw [Rank.lt_iff, hdag, hdag']
      omega

/-- In a network with the default increase, the rank of the node 85 hops below the root is computed
as zero, below the rank of every other node. -/
theorem not_ascends_root : ¬ Ascends Rank.root 85 ∧
    (rankBelow Rank.root 85).toOption.map Rank.value = some 0 := by
  refine ⟨?_, by decide +kernel⟩
  rw [ascends_iff]
  intro h
  have hlast := h 84 (by omega) (by decide)
  exact absurd hlast (by decide)

end ObjectiveFunction0

end Smoltcp.Rpl
