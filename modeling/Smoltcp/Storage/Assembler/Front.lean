import Smoltcp.Storage.Assembler.Refinement

/-!
# The next expected segment

The source changes its array in place, and returns early with an error. Here its functions are
written so that they return the array they leave behind with an error too. Adding a segment and
then removing the front is one operation, with a way of its own for a segment at the front that
does not fill the first hole.
-/

namespace Smoltcp

namespace Contigs

open Contig

/-- The array that a function leaves behind, and what it returns. -/
abbrev InPlace (α : Type) := List Contig × Except TooManyHolesError α

/-- `add_contig_at`, from the index on. -/
def addContigAt (l : List Contig) : InPlace Unit :=
  if (l.getLast?.getD Contig.empty).hasData then (l, .error .mk)
  else (Contig.empty :: l.dropLast, .ok ())

/-- The part of `add` behind the search, at the contig `c`. -/
def addAtInPlace (offset size : ℕ) (c : Contig) (rest : List Contig) : InPlace Unit :=
  if offset < c.holeSize ∧ offset + size < c.holeSize then
    match addContigAt (c :: rest) with
    | (l, .error e) => (l, .error e)
    -- the contig that was at the index is behind it now
    | (l, .ok ()) =>
      ((l.set 0 ⟨offset, size⟩).modify 1 (·.shrinkHoleBy (offset + size)), .ok ())
  else
    let c := if offset < c.holeSize then c.shrinkHoleTo offset else c
    (grow (offset + size) c rest, .ok ())

/-- `add` for a non-empty range, from the contig on that the search is at. -/
def addInPlace (offset size : ℕ) : List Contig → InPlace Unit
  | [] => ([], .error .mk)
  | c :: rest =>
    if c.hasData then
      if offset ≤ c.totalSize then addAtInPlace offset size c rest
      else
        let (rest, r) := addInPlace (offset - c.totalSize) size rest
        (c :: rest, r)
    else (⟨offset, size⟩ :: rest, .ok ())

def removeFrontInPlace : List Contig → InPlace ℕ
  | [] => ([], .ok 0)
  | c :: rest =>
    if c.hasHole ∨ ¬ c.hasData then (c :: rest, .ok 0)
    else (removeFirst (c :: rest), .ok c.dataSize)

def addThenRemoveFrontInPlace (offset size : ℕ) : List Contig → InPlace ℕ
  | [] => ([], .ok 0)
  | c :: rest =>
    -- The only case where a segment at the front needs one more contig.
    if offset = 0 ∧ size < c.holeSize then
      ({ c with holeSize := c.holeSize - size } :: rest, .ok size)
    else
      match (if size = 0 then (c :: rest, .ok ()) else addInPlace offset size (c :: rest)) with
      | (l, .error e) => (l, .error e)
      | (l, .ok ()) => removeFrontInPlace l

variable {l rest : List Contig} {c : Contig} {offset size : ℕ}

lemma addAtInPlace_eq (hd : c.hasData) : addAtInPlace offset size c rest =
    match addAt offset size c rest with
    | .ok l => (l, .ok ())
    | .error e => (c :: rest, .error e) := by
  unfold addAtInPlace addAt
  by_cases hhole : offset < c.holeSize ∧ offset + size < c.holeSize
  · rw [if_pos hhole, if_pos hhole]
    unfold addContigAt insertFirst
    cases rest with
    | nil =>
      -- the only contig has data
      have hd' : (c.shrinkHoleBy (offset + size)).hasData := hd
      simp [hd, hd']
    | cons d rest =>
      simp only [List.getLast?_cons_cons]
      by_cases hlast : ((d :: rest).getLast?.getD Contig.empty).hasData
      · rw [if_pos hlast, if_pos hlast]
      · rw [if_neg hlast, if_neg hlast]
        rfl
  · rw [if_neg hhole, if_neg hhole]

/-- No function changes the array and then returns an error. -/
lemma addInPlace_eq (l : List Contig) (offset size : ℕ) : addInPlace offset size l =
    match add offset size l with
    | .ok l' => (l', .ok ())
    | .error e => (l, .error e) := by
  induction l generalizing offset with
  | nil => rfl
  | cons c rest ih =>
    rw [addInPlace, add]
    split_ifs with hd hoff
    · exact addAtInPlace_eq hd
    · rw [ih]
      cases add (offset - c.totalSize) size rest <;> rfl
    · rfl

end Contigs

namespace Assembler

open Contigs Contig Runs

variable {a a' a₁ : Assembler} {offset size n : ℕ}

lemma removeFrontInPlace_eq (a : Assembler) :
    removeFrontInPlace a.contigs = (a.removeFront.1.contigs, .ok a.removeFront.2) := by
  have heq := contigs_eq a
  rw [heq, removeFrontInPlace, ← heq, removeFront]
  by_cases hfront : ¬ a.front.hasHole ∧ a.front.hasData
  · rw [dif_pos hfront, if_neg (by tauto)]
    rfl
  · rw [dif_neg hfront, if_pos (by tauto)]

/-- Taking a segment out of the first hole is adding it and removing the front. -/
lemma shrinkFront_eq (hsize : size < a.front.holeSize) (hadd : a.add 0 size = .ok a₁) :
    a₁.removeFront.1.contigs = (a.shrinkFront size).contigs ∧ a₁.removeFront.2 = size := by
  have hhole : a.front.hasHole := by
    simp only [hasHole]
    omega
  unfold Assembler.add at hadd
  by_cases hzero : size = 0
  · rw [dif_pos hzero] at hadd
    cases hadd
    subst hzero
    rw [removeFront, dif_neg fun h => h.1 hhole]
    exact ⟨contigs_eq a, rfl⟩
  · rw [dif_neg hzero] at hadd
    split at hadd
    · cases hadd
    · rename_i contigs hcontigs
      have hcan := a.canonical
      rw [contigs_eq a] at hcan hcontigs
      have hd : a.front.hasData := by
        by_contra hd
        rw [(unused_cons.mp (hcan.unused hd)).1] at hhole
        exact hhole rfl
      rw [Contigs.add, if_pos hd, if_pos (Nat.zero_le _), addAt, Nat.zero_add,
        if_pos ⟨by omega, hsize⟩] at hcontigs
      have hsep := hcan.separated_tail hd
      obtain ⟨rest', rfl, hrest⟩ :=
        insertFirst_eq_ok (c := a.front.shrinkHoleBy size) hd hsep hcontigs
      obtain rfl := Except.ok.inj hadd
      have hd' : (⟨0, size⟩ : Contig).hasData := hzero
      have hsep' : Separated (a.front.shrinkHoleBy size :: rest') := by
        refine .inr ⟨?_, hd, Separated.of_append_empty (hrest ▸ hsep)⟩
        simp only [hasHole, shrinkHoleBy]
        omega
      rw [removeFront, dif_pos ⟨fun h => h rfl, hd'⟩]
      refine ⟨?_, rfl⟩
      change removeFirst (⟨0, size⟩ :: a.front.shrinkHoleBy size :: rest') = _
      rw [removeFirst_eq hd' hsep', List.cons_append, ← hrest]
      rfl

lemma contigs_add (hsize : size ≠ 0) : Contigs.add offset size a.contigs =
    match a.add offset size with
    | .ok a' => .ok a'.contigs
    | .error e => .error e := by
  cases hadd : a.add offset size with
  | ok a' =>
    rw [Assembler.add, dif_neg hsize] at hadd
    split at hadd
    · cases hadd
    · rename_i l hl
      cases hadd
      exact hl
  | error e =>
    rw [Assembler.add, dif_neg hsize] at hadd
    split at hadd
    · rename_i e' he
      cases hadd
      exact he
    · cases hadd

/-- With an error the array is as it was. -/
lemma addThenRemoveFrontInPlace_eq (a : Assembler) (offset size : ℕ) :
    addThenRemoveFrontInPlace offset size a.contigs =
      match a.addThenRemoveFront offset size with
      | .ok (a', n) => (a'.contigs, .ok n)
      | .error e => (a.contigs, .error e) := by
  have heq := contigs_eq a
  rw [heq, addThenRemoveFrontInPlace, ← heq, addThenRemoveFront]
  by_cases hfront : offset = 0 ∧ size < a.front.holeSize
  · rw [if_pos hfront, if_pos hfront]
    rfl
  · rw [if_neg hfront, if_neg hfront, addInPlace_eq]
    by_cases hzero : size = 0
    · rw [if_pos hzero, Assembler.add, dif_pos hzero]
      exact removeFrontInPlace_eq a
    · rw [if_neg hzero, contigs_add hzero]
      cases a.add offset size with
      | error e => rfl
      | ok a₁ => exact removeFrontInPlace_eq a₁

/-- Adding a segment and removing the front is `add` and then `removeFront` wherever `add` succeeds.
The next expected segment is always taken, and an error leaves the array as it was. -/
theorem addThenRemoveFront_refines (a : Assembler) (offset size : ℕ) :
    (∀ a₁, a.add offset size = .ok a₁ →
      addThenRemoveFrontInPlace offset size a.contigs =
        (a₁.removeFront.1.contigs, .ok a₁.removeFront.2)) ∧
    (offset = 0 → ∃ a' : Assembler,
      addThenRemoveFrontInPlace offset size a.contigs =
        (a'.contigs, .ok (frontLen ({p | a.Covers p} ∪ Set.Ico 0 size))) ∧
      {p | a'.Covers p} = dropFront ({p | a.Covers p} ∪ Set.Ico 0 size)) ∧
    ∀ l e, addThenRemoveFrontInPlace offset size a.contigs = (l, .error e) → l = a.contigs := by
  rw [addThenRemoveFrontInPlace_eq]
  refine ⟨fun a₁ hadd => ?_, fun hzero => ?_, fun l e h => ?_⟩
  · by_cases hfront : offset = 0 ∧ size < a.front.holeSize
    · obtain ⟨rfl, hsize⟩ := hfront
      obtain ⟨hcontigs, hlen⟩ := shrinkFront_eq hsize hadd
      rw [Assembler.addThenRemoveFront, if_pos ⟨rfl, hsize⟩, hcontigs, hlen]
    · rw [Assembler.addThenRemoveFront, if_neg hfront, hadd]
      rfl
  · subst hzero
    obtain ⟨a', n, hok⟩ := addThenRemoveFront_zero a size
    have hden : Denotes a.contigs.length a {p | a.Covers p} := ⟨rfl, fun _ => Iff.rfl⟩
    obtain ⟨hfront, hden'⟩ := hden.addThenRemoveFront hok
    rw [Nat.zero_add] at hfront hden'
    rw [hok, hfront]
    exact ⟨a', rfl, Set.ext hden'.covers⟩
  · cases hadd : a.addThenRemoveFront offset size with
    | ok r =>
      rw [hadd] at h
      cases h
    | error e' =>
      rw [hadd] at h
      exact (Prod.mk.inj h).1.symm

end Assembler

end Smoltcp
