import Smoltcp.Storage.Assembler.Contigs

/-!
# The assembler as a set of positions

The array carries its invariant: used contigs form a prefix and all but the first have a hole. The
operations are those of the source on the array, and `Assembler.Covers` is what they mean.
-/

namespace Smoltcp

/-- A buffer (re)assembler. The number of contigs is a compile-time constant, at least one. -/
structure Assembler where
  contigs : List Contig
  contigs_ne : contigs ≠ []
  canonical : Contigs.Canonical contigs

namespace Assembler

open Contigs Contig

def new (n : ℕ) (hn : n ≠ 0) : Assembler where
  contigs := List.replicate n Contig.empty
  contigs_ne := by simpa using hn
  canonical := (unused_replicate n).separated.canonical

/-- The empty assembler with as many contigs as `a`. -/
def clear (a : Assembler) : Assembler := new a.contigs.length (by simpa using a.contigs_ne)

def front (a : Assembler) : Contig := a.contigs.head a.contigs_ne

/-- The assembler contains no data. -/
def isEmpty (a : Assembler) : Prop := ¬ a.front.hasData

instance (a : Assembler) : Decidable a.isEmpty := inferInstanceAs (Decidable (¬ _))

/-- Position `p` behind the front is present. -/
def Covers (a : Assembler) (p : ℕ) : Prop := Contigs.Covers a.contigs p

def add (a : Assembler) (offset size : ℕ) : Except TooManyHolesError Assembler :=
  if hsize : size = 0 then .ok a
  else
    match h : Contigs.add offset size a.contigs with
    | .error e => .error e
    | .ok contigs => .ok
        { contigs := contigs
          contigs_ne := by
            have hlen := (add_spec a.canonical (by omega) h).2.1
            have hne := a.contigs_ne
            rintro rfl
            exact hne (List.length_eq_zero_iff.mp hlen.symm)
          canonical := (add_spec a.canonical (by omega) h).2.2.1 }

/-- `remove_contig_at(0)`, for a first contig with data. -/
def removeContigAt (a : Assembler) (hd : a.front.hasData) : Assembler where
  contigs := removeFirst a.contigs
  contigs_ne := by
    obtain ⟨_ | ⟨c, rest⟩, hne, hcan⟩ := a
    · exact absurd rfl hne
    · have hd' : c.hasData := hd
      change removeFirst (c :: rest) ≠ []
      rw [removeFirst_eq hd' (hcan.separated_tail hd')]
      simp
  canonical := by
    obtain ⟨_ | ⟨c, rest⟩, hne, hcan⟩ := a
    · exact absurd rfl hne
    · have hd' : c.hasData := hd
      change Canonical (removeFirst (c :: rest))
      rw [removeFirst_eq hd' (hcan.separated_tail hd')]
      exact (separated_append_unused (hcan.separated_tail hd') (unused_replicate 1)).canonical

/-- Remove a contiguous range from the front, and return its length. -/
def removeFront (a : Assembler) : Assembler × ℕ :=
  if h : ¬ a.front.hasHole ∧ a.front.hasData then (a.removeContigAt h.2, a.front.dataSize)
  else (a, 0)

/-- The length of the contiguous range at the front. -/
def peekFront (a : Assembler) : ℕ := if a.front.hasHole then 0 else a.front.dataSize

/-- `self.contigs[0].hole_size -= size`, for a hole that stays. -/
def shrinkFront (a : Assembler) (size : ℕ) : Assembler where
  contigs := a.front.shrinkHoleBy size :: a.contigs.tail
  contigs_ne := by simp
  canonical := by
    obtain ⟨_ | ⟨c, rest⟩, hne, hcan⟩ := a
    · exact absurd rfl hne
    · rcases hcan with h | h
      · obtain ⟨rfl, hrest⟩ := unused_cons.mp h
        exact .inl (unused_cons.mpr ⟨by simp [front, shrinkHoleBy, Contig.empty], hrest⟩)
      · exact .inr h

/-- Add a segment, then `removeFront`. A segment at the front that does not fill the first hole is
taken out at once, which never needs a new contig. -/
def addThenRemoveFront (a : Assembler) (offset size : ℕ) :
    Except TooManyHolesError (Assembler × ℕ) :=
  if offset = 0 ∧ size < a.front.holeSize then .ok (a.shrinkFront size, size)
  else do
    let a ← a.add offset size
    return a.removeFront

/-- The ranges of present positions, counted from `left` on. -/
def iterFrom (left : ℕ) : List Contig → List (ℕ × ℕ)
  | [] => []
  | c :: rest =>
    if c.hasData then (left + c.holeSize, left + c.totalSize) :: iterFrom (left + c.totalSize) rest
    else iterFrom (left + c.totalSize) rest

/-- All contiguous data ranges, shifted by `firstOffset` on 64 bits. -/
def iterData (a : Assembler) (firstOffset : ℕ) : List (ℕ × ℕ) :=
  (iterFrom 0 a.contigs).map fun r =>
    ((r.1 + firstOffset) % 2 ^ 64, (r.2 + firstOffset) % 2 ^ 64)

/-! ### What the operations mean -/

variable {a a' : Assembler} {offset size n p : ℕ}

lemma contigs_eq (a : Assembler) : a.contigs = a.front :: a.contigs.tail :=
  (List.cons_head_tail a.contigs_ne).symm

@[simp] lemma not_covers_new (n : ℕ) (hn : n ≠ 0) : ¬ (new n hn).Covers p :=
  (unused_replicate n).not_covers

@[simp] lemma not_covers_clear (a : Assembler) : ¬ a.clear.Covers p := not_covers_new _ _

@[simp] lemma isEmpty_new (n : ℕ) (hn : n ≠ 0) : (new n hn).isEmpty := by
  have h : (new n hn).front ∈ List.replicate n Contig.empty := List.head_mem _
  rw [isEmpty, List.eq_of_mem_replicate h]
  exact not_hasData_empty

lemma isEmpty.not_covers (h : a.isEmpty) : ¬ a.Covers p := by
  have hcan := a.canonical
  rw [contigs_eq] at hcan
  rw [Covers, contigs_eq]
  exact (hcan.unused h).not_covers

lemma add_covers (h : a.add offset size = .ok a') :
    a'.Covers p ↔ a.Covers p ∨ (offset ≤ p ∧ p < offset + size) := by
  unfold add at h
  split_ifs at h with hs
  · cases h
    constructor
    · exact .inl
    · rintro (h | h)
      · exact h
      · omega
  · split at h
    · cases h
    · rename_i contigs hadd
      cases h
      exact (add_spec a.canonical (by omega) hadd).1 p

/-- The range removed from the front is present, and the others move down by its length. -/
lemma removeFront_spec (h : a.removeFront = (a', n)) :
    (∀ p < n, a.Covers p) ∧ ¬ a'.Covers 0 ∧ ∀ p, a'.Covers p ↔ a.Covers (p + n) := by
  obtain ⟨_ | ⟨c, rest⟩, hne, hcan⟩ := a
  · exact absurd rfl hne
  unfold removeFront at h
  split_ifs at h with hfront
  · cases h
    have hd : c.hasData := hfront.2
    have hsep := hcan.separated_tail hd
    have hun : Unused [Contig.empty] := unused_replicate 1
    have hhole : c.holeSize = 0 := by
      have hh : ¬ c.hasHole := hfront.1
      simpa [hasHole] using hh
    have hcov : ∀ p, Covers (removeContigAt ⟨c :: rest, hne, hcan⟩ hfront.2) p ↔
        Contigs.Covers rest p := by
      intro p
      change Contigs.Covers (removeFirst (c :: rest)) p ↔ _
      rw [removeFirst_eq hd hsep, covers_append_unused hun]
    refine ⟨?_, ?_, ?_⟩
    · intro p hp
      exact .inl ⟨by omega, by simp only [totalSize]; exact Nat.lt_add_left _ hp⟩
    · rw [hcov]
      cases rest with
      | nil => exact id
      | cons d rest =>
        rcases hsep with h | ⟨hh, -, -⟩
        · exact h.not_covers
        · simp only [covers_cons, hasHole, totalSize] at *
          omega
    · intro p
      rw [hcov]
      change _ ↔ Contigs.Covers (c :: rest) (p + c.dataSize)
      have hpos : p + c.dataSize - c.totalSize = p := by simp only [totalSize]; omega
      rw [covers_cons, hpos]
      simp only [totalSize]
      constructor
      · intro hp
        exact .inr ⟨by omega, hp⟩
      · rintro (hp | hp)
        · omega
        · exact hp.2
  · cases h
    refine ⟨by simp, ?_, fun p => Iff.rfl⟩
    by_cases hd : c.hasData
    · have hh : c.hasHole := by
        by_contra hh
        exact hfront ⟨hh, hd⟩
      change ¬ Contigs.Covers (c :: rest) 0
      simp only [covers_cons, hasHole, hasData, totalSize] at *
      omega
    · exact (hcan.unused hd).not_covers

lemma peekFront_eq (a : Assembler) : a.peekFront = a.removeFront.2 := by
  unfold peekFront removeFront
  by_cases hhole : a.front.hasHole
  · rw [if_pos hhole, dif_neg fun h => h.1 hhole]
  · by_cases hdata : a.front.hasData
    · rw [if_neg hhole, dif_pos ⟨hhole, hdata⟩]
    · rw [if_neg hhole, dif_neg fun h => hdata h.2]
      exact not_not.mp hdata

/-- The range at the front ends where the next position is not present. -/
lemma peekFront_spec (a : Assembler) : (∀ p < a.peekFront, a.Covers p) ∧
    ¬ a.Covers a.peekFront := by
  obtain ⟨hfront, hzero, hcov⟩ := removeFront_spec (Prod.mk.eta : (_, _) = a.removeFront).symm
  rw [← peekFront_eq] at hfront hcov
  refine ⟨hfront, fun h => hzero ((hcov 0).mpr ?_)⟩
  rwa [Nat.zero_add]

lemma shrinkFront_covers (hs : size < a.front.holeSize) :
    (a.shrinkFront size).Covers p ↔ a.Covers (p + size) := by
  rw [Covers, Covers, contigs_eq a]
  change Contigs.Covers (a.front.shrinkHoleBy size :: a.contigs.tail) p ↔ _
  have hpos : p + size - (a.front.holeSize + a.front.dataSize) =
      p - (a.front.holeSize - size + a.front.dataSize) := by omega
  simp only [covers_cons, shrinkHoleBy, totalSize, hpos]
  constructor
  · rintro (h | ⟨h, h'⟩)
    · exact .inl (by omega)
    · exact .inr ⟨by omega, h'⟩
  · rintro (h | ⟨h, h'⟩)
    · exact .inl (by omega)
    · exact .inr ⟨by omega, h'⟩

/-- The specification of `add_then_remove_front`: with the segment added, `n` positions from the
front on are present, and the assembler then counts from behind them. -/
theorem addThenRemoveFront_spec (h : a.addThenRemoveFront offset size = .ok (a', n)) :
    (∀ p < n, a.Covers p ∨ (offset ≤ p ∧ p < offset + size)) ∧ ¬ a'.Covers 0 ∧
      ∀ p, a'.Covers p ↔ a.Covers (p + n) ∨ (offset ≤ p + n ∧ p + n < offset + size) := by
  unfold addThenRemoveFront at h
  split_ifs at h with hfront
  · obtain ⟨rfl, hs⟩ := hfront
    cases h
    refine ⟨fun p hp => .inr (by omega), ?_, fun p => ?_⟩
    · rw [shrinkFront_covers hs, Nat.zero_add, Covers, contigs_eq]
      simp only [covers_cons, totalSize]
      omega
    · rw [shrinkFront_covers hs]
      constructor
      · exact .inl
      · rintro (h | h)
        · exact h
        · omega
  · cases hadd : a.add offset size with
    | error e => rw [hadd] at h; cases h
    | ok a₁ =>
      rw [hadd] at h
      have hrm : a₁.removeFront = (a', n) := Except.ok.inj h
      obtain ⟨hn, h0, hcov⟩ := removeFront_spec hrm
      refine ⟨fun p hp => (add_covers hadd).mp (hn p hp), h0, fun p => ?_⟩
      rw [hcov, add_covers hadd]

/-- The next expected segment is never dropped. -/
theorem addThenRemoveFront_zero (a : Assembler) (size : ℕ) :
    ∃ a' n, a.addThenRemoveFront 0 size = .ok (a', n) := by
  unfold addThenRemoveFront
  split_ifs with hfront
  · exact ⟨_, _, rfl⟩
  · have hle : a.front.holeSize ≤ size := by omega
    by_cases hs : size = 0
    · subst hs
      exact ⟨_, _, by rw [add, dif_pos rfl]; rfl⟩
    · obtain ⟨l, hl⟩ := add_zero_ok a.contigs.tail hle
      rw [← contigs_eq] at hl
      have hadd : ∃ a₁, a.add 0 size = .ok a₁ := by
        rw [add, dif_neg hs]
        split
        · rename_i e he
          rw [hl] at he
          cases he
        · exact ⟨_, rfl⟩
      obtain ⟨a₁, ha₁⟩ := hadd
      rw [ha₁]
      exact ⟨_, _, rfl⟩

end Assembler

end Smoltcp
