import Mathlib

/-!
# Maximal runs of a set of numbers

A set of natural numbers falls into maximal runs of consecutive elements. A list of intervals that
are not empty and neither overlap nor touch enumerates the runs of the set it covers
(`Spaced.mem_iff`), so the number of runs is its length (`Spaced.count_eq`).
-/

namespace Runs

variable {S : Set ℕ} {l : List (ℕ × ℕ)} {r r' : ℕ × ℕ}

/-- The interval from `r.1` up to `r.2` is a maximal run of `S`. -/
structure IsRun (S : Set ℕ) (r : ℕ × ℕ) : Prop where
  lt : r.1 < r.2
  subset : Set.Ico r.1 r.2 ⊆ S
  left : ∀ p, p + 1 = r.1 → p ∉ S
  right : r.2 ∉ S

/-- The number of maximal runs. -/
noncomputable def count (S : Set ℕ) : ℕ := {r | IsRun S r}.ncard

/-- The length of the run that starts at 0: the first number that is not an element. -/
noncomputable def frontLen (S : Set ℕ) : ℕ := sInf Sᶜ

/-- Intervals in increasing order, with a gap between any two. -/
structure Spaced (l : List (ℕ × ℕ)) : Prop where
  lt : ∀ r ∈ l, r.1 < r.2
  gap : l.Pairwise fun r r' => r.2 < r'.1

/-- The numbers in some interval of a list. -/
def union (l : List (ℕ × ℕ)) : Set ℕ := {p | ∃ r ∈ l, r.1 ≤ p ∧ p < r.2}

lemma frontLen_eq {n : ℕ} (hlt : ∀ p < n, p ∈ S) (hn : n ∉ S) : frontLen S = n := by
  have hleast : IsLeast Sᶜ n := by
    refine ⟨hn, fun p hp => ?_⟩
    by_contra h
    exact hp (hlt p (by omega))
  exact hleast.csInf_eq

/-- Maximal runs that share an element are the same. -/
lemma IsRun.eq_of_mem (h : IsRun S r) (h' : IsRun S r') (hlo : r'.1 ≤ r.1) (hhi : r.1 < r'.2) :
    r = r' := by
  have hfst : r.1 = r'.1 := by
    by_contra hne
    exact h.left (r.1 - 1) (by omega) (h'.subset ⟨by omega, by omega⟩)
  have hlt := h.lt
  have hsnd : r.2 = r'.2 := by
    rcases lt_trichotomy r.2 r'.2 with hlt' | heq | hgt
    · exact absurd (h'.subset ⟨by omega, hlt'⟩) h.right
    · exact heq
    · exact absurd (h.subset ⟨by omega, hgt⟩) h'.right
  exact Prod.ext hfst hsnd

/-- A run starts where some interval starts, so there are no more runs than intervals. -/
theorem count_union_le (l : List (ℕ × ℕ)) : count (union l) ≤ l.length := by
  have hstart : ∀ r, IsRun (union l) r → r.1 ∈ (l.map Prod.fst).toFinset := by
    intro r hr
    obtain ⟨r', hr', hlo, hhi⟩ := hr.subset ⟨le_rfl, hr.lt⟩
    rw [List.mem_toFinset, List.mem_map]
    refine ⟨r', hr', ?_⟩
    by_contra hne
    exact hr.left (r.1 - 1) (by omega) ⟨r', hr', by omega, by omega⟩
  have hinj : Set.InjOn Prod.fst {r | IsRun (union l) r} := by
    intro r hr r' hr' heq
    have hlt := IsRun.lt hr'
    exact IsRun.eq_of_mem hr hr' heq.ge (by omega)
  calc count (union l)
    _ ≤ (((l.map Prod.fst).toFinset : Finset ℕ) : Set ℕ).ncard :=
      Set.ncard_le_ncard_of_injOn Prod.fst hstart hinj (Finset.finite_toSet _)
    _ = (l.map Prod.fst).toFinset.card := Set.ncard_coe_finset _
    _ ≤ (l.map Prod.fst).length := List.toFinset_card_le _
    _ = l.length := List.length_map ..

namespace Spaced

lemma gap_or (h : Spaced l) (hr : r ∈ l) (hr' : r' ∈ l) (hne : r ≠ r') :
    r.2 < r'.1 ∨ r'.2 < r.1 := by
  have hpair : l.Pairwise fun r r' => r.2 < r'.1 ∨ r'.2 < r.1 := h.gap.imp .inl
  have hsymm : Std.Symm fun r r' : ℕ × ℕ => r.2 < r'.1 ∨ r'.2 < r.1 := ⟨fun _ _ => Or.symm⟩
  exact hpair.forall hr hr' hne

lemma isRun (h : Spaced l) (hr : r ∈ l) : IsRun (union l) r := by
  have hlt := h.lt r hr
  refine ⟨hlt, ?_, ?_, ?_⟩
  · rintro p ⟨hlo, hhi⟩
    exact ⟨r, hr, hlo, hhi⟩
  · rintro p hp ⟨r', hr', hlo, hhi⟩
    have hne : r ≠ r' := by
      rintro rfl
      omega
    rcases h.gap_or hr hr' hne with hgap | hgap <;> omega
  · rintro ⟨r', hr', hlo, hhi⟩
    have hne : r ≠ r' := by
      rintro rfl
      omega
    rcases h.gap_or hr hr' hne with hgap | hgap <;> omega

/-- A spaced list enumerates the maximal runs of what it covers. -/
theorem mem_iff (h : Spaced l) : r ∈ l ↔ IsRun (union l) r := by
  refine ⟨h.isRun, fun hrun => ?_⟩
  obtain ⟨r', hr', hlo, hhi⟩ := hrun.subset ⟨le_rfl, hrun.lt⟩
  rw [hrun.eq_of_mem (h.isRun hr') hlo hhi]
  exact hr'

lemma nodup (h : Spaced l) : l.Nodup := by
  have hpair : l.Pairwise fun r r' => r.1 < r.2 ∧ r.2 < r'.1 :=
    (List.pairwise_iff_forall_sublist.mpr fun {r r'} hsub =>
      ⟨h.lt r (hsub.subset (by simp)), List.pairwise_iff_forall_sublist.mp h.gap hsub⟩)
  refine hpair.imp ?_
  rintro r r' ⟨hlt, hgap⟩ rfl
  omega

lemma setOf_isRun (h : Spaced l) : {r | IsRun (union l) r} = (l.toFinset : Set (ℕ × ℕ)) := by
  ext r
  simp [h.mem_iff]

theorem count_eq (h : Spaced l) : count (union l) = l.length := by
  rw [count, h.setOf_isRun, Set.ncard_coe_finset, List.toFinset_card_of_nodup h.nodup]

/-- An interval that touches no element makes one more run. -/
theorem count_insert (h : Spaced l) {a b : ℕ} (hab : a < b)
    (hgap : ∀ p ∈ union l, p + 1 < a ∨ b < p) :
    count (union l ∪ Set.Ico a b) = l.length + 1 := by
  have hrun : {r | IsRun (union l ∪ Set.Ico a b) r} = insert (a, b) {r | IsRun (union l) r} := by
    have hnew : IsRun (union l ∪ Set.Ico a b) (a, b) := by
      refine ⟨hab, fun p hp => .inr hp, ?_, ?_⟩
      · rintro p hp (hmem | hmem)
        · have := hgap p hmem
          simp only at hp
          omega
        · simp only [Set.mem_Ico] at hp hmem
          omega
      · rintro (hmem | hmem)
        · have := hgap b hmem
          omega
        · simp at hmem
    -- a run of the old set stays one, since the interval touches none of its ends
    have hold : ∀ r, IsRun (union l) r → IsRun (union l ∪ Set.Ico a b) r := by
      intro r hr
      have hlt := hr.lt
      have hfirst := hgap r.1 (hr.subset ⟨le_rfl, hlt⟩)
      have hlast := hgap (r.2 - 1) (hr.subset ⟨by omega, by omega⟩)
      refine ⟨hlt, fun p hp => .inl (hr.subset hp), ?_, ?_⟩
      · rintro p hp (hmem | hmem)
        · exact hr.left p hp hmem
        · simp only [Set.mem_Ico] at hmem
          omega
      · rintro (hmem | hmem)
        · exact hr.right hmem
        · simp only [Set.mem_Ico] at hmem
          omega
    ext r
    simp only [Set.mem_ofPred_eq, Set.mem_insert_iff]
    constructor
    · intro hr
      rcases hr.subset ⟨le_rfl, hr.lt⟩ with hmem | hmem
      · obtain ⟨r', hr', hlo, hhi⟩ := hmem
        rw [hr.eq_of_mem (hold r' (h.isRun hr')) hlo hhi]
        exact .inr (h.isRun hr')
      · exact .inl (hr.eq_of_mem hnew hmem.1 hmem.2)
    · rintro (rfl | hr)
      · exact hnew
      · exact hold r hr
  have hnot : (a, b) ∉ {r | IsRun (union l) r} := by
    intro hr
    have := hgap a (hr.subset ⟨le_rfl, hab⟩)
    omega
  have hfinite : {r | IsRun (union l) r}.Finite := by
    rw [h.setOf_isRun]
    exact Finset.finite_toSet _
  rw [count, hrun, Set.ncard_insert_of_notMem hnot hfinite, ← h.count_eq, count]

end Spaced

end Runs
