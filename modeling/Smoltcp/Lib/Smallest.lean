import Mathlib

/-!
# The smallest elements of a stream

A buffer of `n` places is offered one element after the other. While it has room it keeps them all.
When it is full, a new element takes the place of the largest one if it is smaller, and is dropped
otherwise. At any time the buffer then holds the `n` smallest elements of all (`Keeps.perm_take`),
although it remembers nothing of those it dropped.
-/

namespace Smallest

variable {α : Type*} [LinearOrder α] {n : ℕ} {kept kept' all : List α} {a w : α}

/-- Of `all`, those in `kept` were kept: as many as there is room for, none of them above one that
was dropped. -/
def Keeps (n : ℕ) (kept all : List α) : Prop :=
  kept.length = min n all.length ∧
    ∃ rest, all.Perm (kept ++ rest) ∧ ∀ x ∈ kept, ∀ y ∈ rest, x ≤ y

/-- The elements in ascending order. -/
def sorted (l : List α) : List α := l.mergeSort fun a b => decide (a ≤ b)

lemma sorted_perm (l : List α) : (sorted l).Perm l := List.mergeSort_perm l _

lemma pairwise_sorted (l : List α) : (sorted l).Pairwise (· ≤ ·) := List.pairwise_mergeSort' _ l

namespace Keeps

lemma nil : Keeps n ([] : List α) [] :=
  ⟨by simp, [], .nil, by simp⟩

lemma perm (h : Keeps n kept all) (hperm : kept.Perm kept') : Keeps n kept' all := by
  obtain ⟨hlen, rest, hall, hle⟩ := h
  refine ⟨hperm.length_eq ▸ hlen, rest, hall.trans (hperm.append_right rest), ?_⟩
  intro x hx y hy
  exact hle x (hperm.mem_iff.mpr hx) y hy

/-- While there is room, nothing was dropped. -/
lemma perm_of_lt (h : Keeps n kept all) (hlt : kept.length < n) : all.Perm kept := by
  obtain ⟨hlen, rest, hall, -⟩ := h
  have hsum := hall.length_eq
  rw [List.length_append] at hsum
  have hrest : rest = [] := List.eq_nil_of_length_eq_zero (by omega)
  rwa [hrest, List.append_nil] at hall

lemma push (h : Keeps n kept all) (hlt : kept.length < n) : Keeps n (kept ++ [a]) (all ++ [a]) := by
  have hall := h.perm_of_lt hlt
  refine ⟨?_, [], ?_, by simp⟩
  · have hlen := hall.length_eq
    rw [List.length_append, List.length_append, hlen, List.length_singleton]
    omega
  · rw [List.append_nil]
    exact hall.append_right [a]

lemma length_le (h : Keeps n kept all) : kept.length ≤ all.length := by
  have hlen := h.1
  omega

/-- A full buffer drops an element that is not below its largest one. -/
lemma drop (h : Keeps n kept all) (hfull : kept.length = n) (hmax : ∀ x ∈ kept, x ≤ a) :
    Keeps n kept (all ++ [a]) := by
  have hlen := h.length_le
  obtain ⟨-, rest, hall, hle⟩ := h
  refine ⟨?_, rest ++ [a], ?_, ?_⟩
  · rw [List.length_append, List.length_singleton]
    omega
  · rw [← List.append_assoc]
    exact hall.append_right [a]
  · intro x hx y hy
    rcases List.mem_append.mp hy with hy | hy
    · exact hle x hx y hy
    · rw [List.mem_singleton.mp hy]
      exact hmax x hx

/-- In a full buffer, a smaller element takes the place of the largest one. -/
lemma replace (h : Keeps n (w :: kept) all) (hfull : kept.length + 1 = n)
    (hmax : ∀ x ∈ kept, x ≤ w) (hlt : a < w) : Keeps n (kept ++ [a]) (all ++ [a]) := by
  have hlen := h.length_le
  rw [List.length_cons] at hlen
  obtain ⟨-, rest, hall, hle⟩ := h
  refine ⟨?_, w :: rest, ?_, ?_⟩
  · rw [List.length_append, List.length_append, List.length_singleton]
    omega
  · calc List.Perm (all ++ [a]) (w :: kept ++ rest ++ [a]) := hall.append_right [a]
      List.Perm _ (kept ++ w :: (rest ++ [a])) := by
        rw [List.cons_append, List.cons_append, List.append_assoc]
        exact List.perm_middle.symm
      List.Perm _ (kept ++ a :: w :: rest) :=
        .append_left kept (List.perm_append_singleton a (w :: rest))
      List.Perm _ (kept ++ [a] ++ w :: rest) := by
        rw [List.append_assoc]
        rfl
  · have hw := hle w List.mem_cons_self
    intro x hx y hy
    have hxw : x ≤ w := by
      rcases List.mem_append.mp hx with hx | hx
      · exact hmax x hx
      · rw [List.mem_singleton.mp hx]
        exact hlt.le
    rcases List.mem_cons.mp hy with rfl | hy
    · exact hxw
    · exact hxw.trans (hw y hy)

/-- What is kept are the first elements in ascending order. -/
theorem perm_take (h : Keeps n kept all) : kept.Perm ((sorted all).take n) := by
  obtain ⟨hlen, rest, hall, hle⟩ := h
  have hsorted : sorted all = sorted kept ++ sorted rest := by
    have hperm : (sorted all).Perm (sorted kept ++ sorted rest) :=
      ((sorted_perm all).trans hall).trans ((sorted_perm kept).append (sorted_perm rest)).symm
    refine hperm.eq_of_pairwise' (pairwise_sorted all) (List.pairwise_append.mpr
      ⟨pairwise_sorted kept, pairwise_sorted rest, ?_⟩)
    intro x hx y hy
    exact hle x ((sorted_perm kept).mem_iff.mp hx) y ((sorted_perm rest).mem_iff.mp hy)
  have hsum := hall.length_eq
  have hkept := (sorted_perm kept).length_eq
  rw [List.length_append] at hsum
  have htake : (sorted all).take n = sorted kept := by
    rw [hsorted]
    rcases Nat.le_total n all.length with hn | hn
    · exact List.take_left' (by omega)
    · have hrest : rest = [] := List.eq_nil_of_length_eq_zero (by omega)
      have hnil : sorted rest = [] := by rw [hrest, sorted, List.mergeSort_nil]
      rw [hnil, List.append_nil, List.take_of_length_le (by omega)]
  rw [htake]
  exact (sorted_perm kept).symm

/-- A buffer with a place keeps an element that no other is below. -/
theorem exists_le (h : Keeps n kept all) (hn : 0 < n) {y : α} (hy : y ∈ all) :
    ∃ x ∈ kept, x ≤ y := by
  obtain ⟨hlen, rest, hall, hle⟩ := h
  rcases List.mem_append.mp (hall.mem_iff.mp hy) with hy | hy
  · exact ⟨y, hy, le_rfl⟩
  · cases kept with
    | nil =>
      have hpos := List.length_pos_of_mem hy
      have hsum := hall.length_eq
      rw [List.nil_append] at hsum
      rw [List.length_nil] at hlen
      omega
    | cons x kept => exact ⟨x, List.mem_cons_self, hle x List.mem_cons_self y hy⟩

end Keeps

end Smallest
