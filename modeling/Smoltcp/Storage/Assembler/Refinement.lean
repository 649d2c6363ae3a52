import Smoltcp.Lib.Machine
import Smoltcp.Lib.Runs
import Smoltcp.Storage.Assembler.Properties

/-!
# The assembler refines a set of positions

The abstract assembler is a set of positions of which at most as many maximal runs are allowed as
there are contigs. The array goes through the same outcomes as that set, over every sequence of
operations, and enumerates the runs of the set.
-/

namespace Smoltcp

namespace Contigs

open Contig Runs Assembler

variable {l rest : List Contig} {c : Contig} {offset size left p : ℕ}

/-! ### The ranges of the array -/

lemma iterFrom_cons_of_unused (h : Unused l) (left : ℕ) : iterFrom left l = [] := by
  induction l generalizing left with
  | nil => rfl
  | cons c rest ih =>
    obtain ⟨rfl, hrest⟩ := unused_cons.mp h
    rw [iterFrom, if_neg not_hasData_empty]
    exact ih hrest _

lemma length_iterFrom_le (l : List Contig) (left : ℕ) : (iterFrom left l).length ≤ l.length := by
  induction l generalizing left with
  | nil => exact le_rfl
  | cons c rest ih =>
    rw [iterFrom]
    split_ifs
    · exact Nat.succ_le_succ (ih _)
    · exact (ih _).trans (Nat.le_succ _)

lemma length_iterFrom (hl : ∀ c ∈ l, c.hasData) (left : ℕ) :
    (iterFrom left l).length = l.length := by
  induction l generalizing left with
  | nil => rfl
  | cons c rest ih =>
    rw [iterFrom, if_pos (hl c (by simp)), List.length_cons, List.length_cons,
      ih (fun d hd => hl d (List.mem_cons_of_mem _ hd))]

/-- The ranges cover what the array covers. -/
lemma mem_union_iterFrom : p ∈ union (iterFrom left l) ↔ left ≤ p ∧ Covers l (p - left) := by
  induction l generalizing left with
  | nil => simp [iterFrom, union]
  | cons c rest ih =>
    have hrest := @ih (left + c.totalSize)
    have hsub : p - (left + c.totalSize) = p - left - c.totalSize := by omega
    simp only [union, Set.mem_ofPred_eq] at hrest ⊢
    rw [iterFrom, covers_cons]
    rw [hsub] at hrest
    have htotal : c.totalSize = c.holeSize + c.dataSize := rfl
    split_ifs with hd
    · simp only [List.exists_mem_cons_iff, hrest]
      constructor
      · rintro (h | h)
        · exact ⟨by omega, .inl (by omega)⟩
        · exact ⟨by omega, .inr ⟨by omega, h.2⟩⟩
      · rintro ⟨hle, h | h⟩
        · exact .inl (by omega)
        · exact .inr ⟨by omega, h.2⟩
    · have hzero : c.dataSize = 0 := not_not.mp hd
      rw [hrest]
      constructor
      · rintro h
        exact ⟨by omega, .inr ⟨by omega, h.2⟩⟩
      · rintro ⟨hle, h | h⟩
        · omega
        · exact ⟨by omega, h.2⟩

lemma Separated.spaced (h : Separated l) (left : ℕ) :
    Spaced (iterFrom left l) ∧ ∀ r ∈ iterFrom left l, left < r.1 := by
  induction l generalizing left with
  | nil => exact ⟨⟨by simp [iterFrom], by simp [iterFrom]⟩, by simp [iterFrom]⟩
  | cons c rest ih =>
    rcases h with h | ⟨hh, hd, hrest⟩
    · rw [iterFrom_cons_of_unused h]
      exact ⟨⟨by simp, by simp⟩, by simp⟩
    · obtain ⟨hspaced, hlt⟩ := ih hrest (left + c.totalSize)
      have htotal : c.totalSize = c.holeSize + c.dataSize := rfl
      rw [iterFrom, if_pos hd]
      simp only [Contig.hasHole, Contig.hasData] at hh hd
      refine ⟨⟨?_, ?_⟩, ?_⟩
      · intro r hr
        rcases List.mem_cons.mp hr with rfl | hr
        · simp only
          omega
        · exact hspaced.lt r hr
      · exact List.pairwise_cons.mpr ⟨fun r hr => hlt r hr, hspaced.gap⟩
      · intro r hr
        rcases List.mem_cons.mp hr with rfl | hr
        · simp only
          omega
        · have := hlt r hr
          omega

lemma Canonical.spaced (h : Canonical l) (left : ℕ) : Spaced (iterFrom left l) := by
  cases l with
  | nil => exact ⟨by simp [iterFrom], by simp [iterFrom]⟩
  | cons c rest =>
    rcases h with h | ⟨hd, hrest⟩
    · rw [iterFrom_cons_of_unused h]
      exact ⟨by simp, by simp⟩
    · obtain ⟨hspaced, hlt⟩ := hrest.spaced (left + c.totalSize)
      rw [iterFrom, if_pos hd]
      refine ⟨?_, List.pairwise_cons.mpr ⟨fun r hr => hlt r hr, hspaced.gap⟩⟩
      intro r hr
      rcases List.mem_cons.mp hr with rfl | hr
      · simp only [hasData, totalSize] at hd ⊢
        omega
      · exact hspaced.lt r hr

/-- What the array covers reaches up to the end of its last contig. -/
lemma Canonical.sum_le (h : Canonical l) {b : ℕ} (hb : ∀ p, Covers l p → p < b) :
    (l.map totalSize).sum ≤ b := by
  induction l generalizing b with
  | nil => exact Nat.zero_le _
  | cons c rest ih =>
    rcases h with h | ⟨hd, hrest⟩
    · rw [h.eq_replicate]
      simp [totalSize, Contig.empty]
    · have htotal : c.totalSize = c.holeSize + c.dataSize := rfl
      simp only [hasData] at hd
      have hlast := hb (c.totalSize - 1) (covers_cons.mpr (.inl (by omega)))
      have hsum := ih hrest.canonical (b := b - c.totalSize) fun p hp => by
        have := hb (p + c.totalSize) (covers_cons.mpr (.inr ⟨by omega, by simpa using hp⟩))
        omega
      rw [List.map_cons, List.sum_cons]
      omega

/-! ### Failure of `add` -/

lemma Separated.hasData_of_getLast (h : Separated (c :: rest))
    (hlast : (((c :: rest).getLast?).getD Contig.empty).hasData) : ∀ d ∈ c :: rest, d.hasData := by
  induction rest generalizing c with
  | nil =>
    intro d hd
    rw [List.mem_singleton.mp hd]
    simpa using hlast
  | cons e rest ih =>
    have htail := ih h.tail (by simpa using hlast)
    intro d hd
    rcases List.mem_cons.mp hd with rfl | hd
    · rcases h with h | ⟨-, h, -⟩
      · -- an unused array has no contig with data
        have he := htail e (by simp)
        rw [(unused_cons.mp (unused_cons.mp h).2).1] at he
        exact absurd he not_hasData_empty
      · exact h
    · exact htail d hd

lemma addAt_eq_error {e : TooManyHolesError} (hrest : Separated rest)
    (h : addAt offset size c rest = .error e) :
    offset + size < c.holeSize ∧ ∀ d ∈ rest, d.hasData := by
  unfold addAt at h
  split_ifs at h with hin
  refine ⟨hin.2, ?_⟩
  unfold insertFirst at h
  split_ifs at h with hlast
  cases rest with
  | nil => simp
  | cons d rest =>
    refine hrest.hasData_of_getLast ?_
    simpa [List.getLast?_cons] using hlast

/-- `add` fails only if every contig is used and the range touches none of them. -/
lemma add_eq_error {e : TooManyHolesError} (hl : Canonical l)
    (h : add offset size l = .error e) :
    (∀ c ∈ l, c.hasData) ∧ ∀ p, Covers l p → p + 1 < offset ∨ offset + size < p := by
  induction l generalizing offset with
  | nil => exact ⟨by simp, fun p hp => absurd hp not_covers_nil⟩
  | cons c rest ih =>
    rw [add] at h
    split_ifs at h with hd hoff
    · have hsep := hl.separated_tail hd
      obtain ⟨hlt, hrest⟩ := addAt_eq_error hsep h
      refine ⟨?_, ?_⟩
      · intro d hmem
        rcases List.mem_cons.mp hmem with rfl | hmem
        · exact hd
        · exact hrest d hmem
      · intro p hp
        have htotal : c.totalSize = c.holeSize + c.dataSize := rfl
        rcases covers_cons.mp hp with hp | hp <;> omega
    · have hsep := hl.separated_tail hd
      cases hrec : add (offset - c.totalSize) size rest with
      | ok rest' =>
        rw [hrec] at h
        cases h
      | error e' =>
        obtain ⟨hused, hgap⟩ := ih hsep.canonical hrec
        refine ⟨?_, ?_⟩
        · intro d hmem
          rcases List.mem_cons.mp hmem with rfl | hmem
          · exact hd
          · exact hused d hmem
        · intro p hp
          rcases covers_cons.mp hp with hp | ⟨hle, hp⟩
          · omega
          · have := hgap _ hp
            omega

end Contigs

namespace Assembler

open Contigs Runs

variable {a a' : Assembler} {S : Set ℕ} {offset size n p : ℕ}

inductive Op where
  | add (offset size : ℕ)
  | removeFront
  | addThenRemoveFront (offset size : ℕ)
  | clear

/-- The array under an operation. An error is found before anything is written, and no operation
panics. -/
def step (a : Assembler) : Op → Except Empty (Assembler × Except TooManyHolesError ℕ)
  | .add offset size =>
    match a.add offset size with
    | .ok a' => .ok (a', .ok 0)
    | .error e => .ok (a, .error e)
  | .removeFront => .ok (a.removeFront.1, .ok a.removeFront.2)
  | .addThenRemoveFront offset size =>
    match a.addThenRemoveFront offset size with
    | .ok (a', n) => .ok (a', .ok n)
    | .error e => .ok (a, .error e)
  | .clear => .ok (a.clear, .ok 0)

/-- The set without its run at 0, counted from behind that run. -/
def dropFront (S : Set ℕ) : Set ℕ := {p | p + frontLen S ∈ S}

open Classical in
/-- The set under an operation, with room for `n` runs. The next expected range is always taken. -/
noncomputable def stepSet (n : ℕ) (S : Set ℕ) :
    Op → Except Empty (Set ℕ × Except TooManyHolesError ℕ)
  | .add offset size =>
    let S' := S ∪ Set.Ico offset (offset + size)
    if count S' ≤ n then .ok (S', .ok 0) else .ok (S, .error .mk)
  | .removeFront => .ok (dropFront S, .ok (frontLen S))
  | .addThenRemoveFront offset size =>
    let S' := S ∪ Set.Ico offset (offset + size)
    if offset = 0 ∨ count S' ≤ n then .ok (dropFront S', .ok (frontLen S')) else .ok (S, .error .mk)
  | .clear => .ok (∅, .ok 0)

/-- The array of `n` contigs denotes `S`. -/
structure Denotes (n : ℕ) (a : Assembler) (S : Set ℕ) : Prop where
  length : a.contigs.length = n
  covers : ∀ p, a.Covers p ↔ p ∈ S

lemma Denotes.union_eq (h : Denotes n a S) : union (iterFrom 0 a.contigs) = S := by
  ext p
  rw [mem_union_iterFrom, ← h.covers]
  simp [Covers]

lemma Denotes.count_eq (h : Denotes n a S) : count S = (iterFrom 0 a.contigs).length := by
  rw [← h.union_eq, (a.canonical.spaced 0).count_eq]

lemma Denotes.count_le (h : Denotes n a S) : count S ≤ n := by
  rw [h.count_eq, ← h.length]
  exact length_iterFrom_le _ _

lemma length_add (h : a.add offset size = .ok a') : a'.contigs.length = a.contigs.length := by
  unfold add at h
  split_ifs at h with hs
  · cases h
    rfl
  · split at h
    · cases h
    · rename_i contigs hadd
      cases h
      exact (add_spec a.canonical (by omega) hadd).2.1

lemma Denotes.add (h : Denotes n a S) (hadd : a.add offset size = .ok a') :
    Denotes n a' (S ∪ Set.Ico offset (offset + size)) := by
  refine ⟨(length_add hadd).trans h.length, fun p => ?_⟩
  rw [add_covers hadd, h.covers]
  rfl

/-- `add` fails only if the union has too many runs. -/
lemma Denotes.add_error (h : Denotes n a S) {e : TooManyHolesError}
    (hadd : a.add offset size = .error e) : n < count (S ∪ Set.Ico offset (offset + size)) := by
  unfold Assembler.add at hadd
  split_ifs at hadd with hs
  split at hadd
  · rename_i e' herr
    obtain ⟨hused, hgap⟩ := add_eq_error a.canonical herr
    have hlen := length_iterFrom hused 0
    have hgap' : ∀ p ∈ union (iterFrom 0 a.contigs), p + 1 < offset ∨ offset + size < p := by
      intro p hp
      rw [h.union_eq, ← h.covers] at hp
      exact hgap p hp
    have hcount := (a.canonical.spaced 0).count_insert (by omega) hgap'
    rw [h.union_eq] at hcount
    rw [hcount, hlen, h.length]
    exact Nat.lt_succ_self _
  · cases hadd

lemma length_removeFront (a : Assembler) : a.removeFront.1.contigs.length = a.contigs.length := by
  unfold removeFront
  split_ifs with hfront
  · obtain ⟨_ | ⟨c, rest⟩, hne, hcan⟩ := a
    · exact absurd rfl hne
    · have hd : c.hasData := hfront.2
      change (removeFirst (c :: rest)).length = _
      rw [removeFirst_eq hd (hcan.separated_tail hd)]
      simp
  · rfl

/-- Counting from behind a range at the front that is present and as long as possible. -/
lemma denotes_dropFront (hlen : a'.contigs.length = n) (hfront : ∀ p < size, p ∈ S)
    (hzero : ¬ a'.Covers 0) (hcov : ∀ p, a'.Covers p ↔ p + size ∈ S) :
    frontLen S = size ∧ Denotes n a' (dropFront S) := by
  have hsize : frontLen S = size := by
    refine frontLen_eq hfront fun hmem => hzero ?_
    rw [hcov, Nat.zero_add]
    exact hmem
  refine ⟨hsize, hlen, fun p => ?_⟩
  rw [hcov, Assembler.dropFront, hsize]
  rfl

lemma Denotes.removeFront (h : Denotes n a S) :
    frontLen S = a.removeFront.2 ∧ Denotes n a.removeFront.1 (Assembler.dropFront S) := by
  have heq : a.removeFront = (a.removeFront.1, a.removeFront.2) := rfl
  obtain ⟨hfront, hzero, hcov⟩ := removeFront_spec heq
  refine denotes_dropFront ?_ (fun p hp => (h.covers p).mp (hfront p hp)) hzero fun p => ?_
  · rw [length_removeFront, h.length]
  · rw [hcov, h.covers]

lemma length_addThenRemoveFront (h : a.addThenRemoveFront offset size = .ok (a', n)) :
    a'.contigs.length = a.contigs.length := by
  unfold addThenRemoveFront at h
  split_ifs at h with hfront
  · cases h
    rw [contigs_eq a]
    rfl
  · cases hadd : a.add offset size with
    | error e =>
      rw [hadd] at h
      cases h
    | ok a₁ =>
      rw [hadd] at h
      have hrm : a₁.removeFront = (a', n) := Except.ok.inj h
      have hlen := length_removeFront a₁
      rw [hrm, length_add hadd] at hlen
      exact hlen

lemma Denotes.addThenRemoveFront (h : Denotes n a S) {m : ℕ}
    (hadd : a.addThenRemoveFront offset size = .ok (a', m)) :
    frontLen (S ∪ Set.Ico offset (offset + size)) = m ∧
      Denotes n a' (Assembler.dropFront (S ∪ Set.Ico offset (offset + size))) := by
  obtain ⟨hfront, hzero, hcov⟩ := addThenRemoveFront_spec hadd
  refine denotes_dropFront ((length_addThenRemoveFront hadd).trans h.length) ?_ hzero ?_
  · intro p hp
    exact (hfront p hp).imp (h.covers p).mp id
  · intro p
    rw [hcov, h.covers]
    rfl

/-- Where `addThenRemoveFront` succeeds, the range was at the front or there is room for it. -/
lemma Denotes.addThenRemoveFront_error (h : Denotes n a S) {e : TooManyHolesError}
    (hadd : a.addThenRemoveFront offset size = .error e) :
    offset ≠ 0 ∧ n < count (S ∪ Set.Ico offset (offset + size)) := by
  have hne : offset ≠ 0 := by
    rintro rfl
    obtain ⟨a', m, hok⟩ := addThenRemoveFront_zero a size
    rw [hok] at hadd
    cases hadd
  refine ⟨hne, ?_⟩
  unfold Assembler.addThenRemoveFront at hadd
  rw [if_neg fun h => hne h.1] at hadd
  cases hfail : a.add offset size with
  | ok a₁ =>
    rw [hfail] at hadd
    cases hadd
  | error e' => exact h.add_error hfail

lemma addThenRemoveFront_of_ne (hne : offset ≠ 0)
    (h : a.addThenRemoveFront offset size = .ok (a', n)) : ∃ a₁, a.add offset size = .ok a₁ := by
  unfold addThenRemoveFront at h
  rw [if_neg fun h => hne h.1] at h
  cases hadd : a.add offset size with
  | ok a₁ => exact ⟨a₁, rfl⟩
  | error e =>
    rw [hadd] at h
    cases h

/-- One operation on the array is the same operation on the set. -/
lemma Denotes.step (h : Denotes n a S) (op : Op) :
    Machine.Matches (Denotes n) (a.step op) (stepSet n S op) := by
  cases op with
  | add offset size =>
    simp only [Assembler.step, stepSet]
    cases hadd : a.add offset size with
    | ok a' =>
      have hden := h.add hadd
      rw [if_pos hden.count_le]
      exact .ok _ hden
    | error e =>
      rw [if_neg (h.add_error hadd).not_ge]
      exact .ok _ h
  | removeFront =>
    obtain ⟨hfront, hden⟩ := h.removeFront
    simp only [Assembler.step, stepSet, hfront]
    exact .ok _ hden
  | addThenRemoveFront offset size =>
    simp only [Assembler.step, stepSet]
    cases hadd : a.addThenRemoveFront offset size with
    | ok r =>
      obtain ⟨a', m⟩ := r
      obtain ⟨hfront, hden⟩ := h.addThenRemoveFront hadd
      have hroom : offset = 0 ∨ count (S ∪ Set.Ico offset (offset + size)) ≤ n := by
        refine or_iff_not_imp_left.mpr fun hne => ?_
        obtain ⟨a₁, ha₁⟩ := addThenRemoveFront_of_ne hne hadd
        exact (h.add ha₁).count_le
      rw [if_pos hroom, hfront]
      exact .ok _ hden
    | error e =>
      obtain ⟨hne, hcount⟩ := h.addThenRemoveFront_error hadd
      rw [if_neg fun hroom => hroom.elim hne hcount.not_ge]
      exact .ok _ h
  | clear =>
    refine .ok _ ⟨?_, fun p => ?_⟩
    · rw [← h.length]
      exact List.length_replicate
    · simp

/-- The end of the range that an operation adds. -/
def Op.stop : Op → ℕ
  | .add offset size | .addThenRemoveFront offset size => offset + size
  | .removeFront | .clear => 0

/-- The set stays below every bound of the ranges that are added. -/
lemma stepSet_bounded {b : ℕ} {op : Op} {r : Except TooManyHolesError ℕ} {S' : Set ℕ}
    (hS : ∀ p ∈ S, p < b) (hop : op.stop ≤ b) (h : stepSet n S op = .ok (S', r)) :
    ∀ p ∈ S', p < b := by
  have hdrop : ∀ {T : Set ℕ}, (∀ p ∈ T, p < b) → ∀ p ∈ dropFront T, p < b := by
    intro T hT p hp
    exact (Nat.le_add_right _ _).trans_lt (hT _ hp)
  have hunion : ∀ {offset size : ℕ}, offset + size ≤ b →
      ∀ p ∈ S ∪ Set.Ico offset (offset + size), p < b := by
    rintro offset size hle p (hp | hp)
    · exact hS p hp
    · exact hp.2.trans_le hle
  cases op with
  | add offset size =>
    simp only [stepSet] at h
    split_ifs at h <;> cases h
    · exact hunion hop
    · exact hS
  | removeFront =>
    cases h
    exact hdrop hS
  | addThenRemoveFront offset size =>
    simp only [stepSet] at h
    split_ifs at h <;> cases h
    · exact hdrop (hunion hop)
    · exact hS
  | clear =>
    cases h
    simp

/-- The ranges that the array enumerates are the runs of the set, in order. -/
lemma Denotes.iterData (h : Denotes n a S) {k : ℕ} (hk : ∀ p ∈ S, p + 1 + k < 2 ^ 64) :
    (∀ r, r ∈ a.iterData k ↔ ∃ r₀, IsRun S r₀ ∧ r = (r₀.1 + k, r₀.2 + k)) ∧
      (a.iterData k).Pairwise fun r r' => r.2 < r'.1 := by
  have hspaced := a.canonical.spaced 0
  have hrun : ∀ {r}, r ∈ iterFrom 0 a.contigs ↔ IsRun S r := by
    intro r
    rw [hspaced.mem_iff, h.union_eq]
  have heq : a.iterData k = (iterFrom 0 a.contigs).map fun r => (r.1 + k, r.2 + k) := by
    refine List.map_congr_left fun r hr => ?_
    have hr := hrun.mp hr
    have hlt := hr.lt
    have hlast := hk (r.2 - 1) (hr.subset ⟨by omega, by omega⟩)
    rw [Nat.mod_eq_of_lt (by omega), Nat.mod_eq_of_lt (by omega)]
  rw [heq]
  refine ⟨fun r => ?_, ?_⟩
  · simp only [List.mem_map, hrun, eq_comm]
  · rw [List.pairwise_map]
    exact hspaced.gap.imp fun hgap => by simpa using hgap

/-- Over every sequence of operations the array has the outcomes of the set, denotes it, keeps its
invariant and stays below every bound of the ranges added, and enumerates the runs of the set. -/
theorem refines_set (n : ℕ) (hn : n ≠ 0) (ops : List Op) :
    ∃ a S outcomes, Machine.run step (new n hn) ops = .ok (a, outcomes) ∧
      Machine.run (stepSet n) ∅ ops = .ok (S, outcomes) ∧
      a.contigs.length = n ∧ Canonical a.contigs ∧ (∀ p, a.Covers p ↔ p ∈ S) ∧
      (∀ b, (∀ op ∈ ops, op.stop ≤ b) → (a.contigs.map Contig.totalSize).sum ≤ b) ∧
      ∀ k, (∀ p ∈ S, p + 1 + k < 2 ^ 64) →
        (∀ r, r ∈ a.iterData k ↔ ∃ r₀, IsRun S r₀ ∧ r = (r₀.1 + k, r₀.2 + k)) ∧
        (a.iterData k).Pairwise fun r r' => r.2 < r'.1 := by
  have hempty : Denotes n (new n hn) ∅ := ⟨List.length_replicate, fun p => by simp⟩
  have hbounded : ∀ b, (∀ op ∈ ops, op.stop ≤ b) →
      Machine.Matches (fun a S => Denotes n a S ∧ ∀ p ∈ S, p < b)
        (Machine.run step (new n hn) ops) (Machine.run (stepSet n) ∅ ops) := by
    intro b hb
    refine Machine.run_matches (fun a S op hop h => ?_) ⟨hempty, by simp⟩
    have hstep := h.1.step op
    generalize hx : a.step op = x at hstep
    generalize hy : stepSet n S op = y at hstep
    cases hstep with
    | ok r hden => exact .ok r ⟨hden, stepSet_bounded h.2 (hb op hop) hy⟩
    | error e => exact .error e
  have hrun : Machine.Matches (Denotes n) (Machine.run step (new n hn) ops)
      (Machine.run (stepSet n) ∅ ops) :=
    Machine.run_matches (fun a S op _ h => h.step op) hempty
  generalize Machine.run step (new n hn) ops = x at hrun hbounded
  generalize Machine.run (stepSet n) ∅ ops = y at hrun hbounded
  cases hrun with
  | @ok a S outcomes h =>
    refine ⟨a, S, outcomes, rfl, rfl, h.length, a.canonical, h.covers, ?_, fun k => h.iterData⟩
    intro b hb
    cases hbounded b hb with
    | ok _ hbound => exact a.canonical.sum_le fun p hp => hbound.2 p ((h.covers p).mp hp)
  | error e => exact e.elim

/-- Two contigs: a third run is refused, a range that closes the gap is not. -/
theorem refines_set_two : ∃ a S, Machine.run step (new 2 (by decide))
      [.add 1 2, .add 5 1, .add 8 1, .add 2 4, .add 10 2, .addThenRemoveFront 0 1] =
        .ok (a, [.ok 0, .ok 0, .error .mk, .ok 0, .ok 0, .ok 6]) ∧
    a.iterData 7 = [(11, 13)] ∧ (∀ p, a.Covers p ↔ p ∈ S) ∧
    ∀ r, r ∈ a.iterData 7 ↔ ∃ r₀, IsRun S r₀ ∧ r = (r₀.1 + 7, r₀.2 + 7) := by
  obtain ⟨a, S, outcomes, hrun, -, -, -, hcov, -, hiter⟩ := refines_set 2 (by decide)
    [.add 1 2, .add 5 1, .add 8 1, .add 2 4, .add 10 2, .addThenRemoveFront 0 1]
  have heval : (Machine.run step (new 2 (by decide))
      [.add 1 2, .add 5 1, .add 8 1, .add 2 4, .add 10 2, .addThenRemoveFront 0 1]).toOption.map
        (fun r => (r.1.contigs, r.2)) =
      some ([⟨4, 2⟩, ⟨0, 0⟩], [.ok 0, .ok 0, .error .mk, .ok 0, .ok 0, .ok 6]) := rfl
  rw [hrun] at heval
  simp only [Except.toOption, Option.map_some, Option.some.injEq, Prod.mk.injEq] at heval
  obtain ⟨ha, rfl⟩ := heval
  refine ⟨a, S, hrun, ?_, hcov, (hiter 7 fun p hp => ?_).1⟩
  · rw [iterData, ha]
    decide
  · rw [← hcov, Covers, ha] at hp
    simp only [Contigs.Covers, Contig.totalSize, and_false, or_false] at hp
    omega

end Assembler

end Smoltcp
