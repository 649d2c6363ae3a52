import Smoltcp.Storage.Assembler.Basic

/-!
# The contig array denotes a set of positions

Every operation on the array keeps it canonical and has the effect on `Covers` that its name says.
The lemmas follow the order of the source: first the loops, then `addAt`, then the search.
-/

namespace Smoltcp.Contigs

open Contig

variable {c : Contig} {l rest : List Contig} {p offset size stop : ℕ}

@[simp] lemma not_covers_nil : ¬ Covers [] p := id

lemma covers_cons : Covers (c :: rest) p ↔
    (c.holeSize ≤ p ∧ p < c.totalSize) ∨ (c.totalSize ≤ p ∧ Covers rest (p - c.totalSize)) :=
  Iff.rfl

lemma unused_cons : Unused (c :: rest) ↔ c = Contig.empty ∧ Unused rest := by
  simp [Unused]

lemma Unused.eq_replicate (h : Unused l) : l = List.replicate l.length Contig.empty :=
  List.eq_replicate_of_mem h

lemma unused_replicate (n : ℕ) : Unused (List.replicate n Contig.empty) := by
  intro c hc
  exact List.eq_of_mem_replicate hc

lemma Unused.not_covers (h : Unused l) : ¬ Covers l p := by
  induction l generalizing p with
  | nil => exact id
  | cons c rest ih =>
    obtain ⟨rfl, hrest⟩ := unused_cons.mp h
    rw [covers_cons]
    rintro (⟨-, hp⟩ | ⟨-, hp⟩)
    · simp [Contig.empty, totalSize] at hp
    · exact ih hrest hp

lemma covers_cons_of_unused (h : Unused rest) :
    Covers (c :: rest) p ↔ c.holeSize ≤ p ∧ p < c.totalSize := by
  rw [covers_cons]
  simp [h.not_covers]

@[simp] lemma not_hasData_empty : ¬ Contig.empty.hasData := by simp [hasData, Contig.empty]

lemma Unused.separated (h : Unused l) : Separated l := by
  cases l with
  | nil => trivial
  | cons c rest => exact .inl h

lemma Separated.canonical (h : Separated l) : Canonical l := by
  cases l with
  | nil => trivial
  | cons c rest =>
    rcases h with h | ⟨-, hd, hrest⟩
    · exact .inl h
    · exact .inr ⟨hd, hrest⟩

/-- The rest of a separated list is separated. -/
lemma Separated.tail (h : Separated (c :: rest)) : Separated rest := by
  rcases h with h | ⟨-, -, hrest⟩
  · exact (unused_cons.mp h).2.separated
  · exact hrest

lemma Separated.drop (h : Separated l) (n : ℕ) : Separated (l.drop n) := by
  induction n generalizing l with
  | zero => exact h
  | succ n ih =>
    cases l with
    | nil => trivial
    | cons c rest => exact ih h.tail

/-- Unused contigs at the end neither cover anything nor spoil the invariant. -/
lemma separated_append_unused {f : List Contig} (h : Separated l) (hf : Unused f) :
    Separated (l ++ f) := by
  induction l with
  | nil => exact hf.separated
  | cons c rest ih =>
    rcases h with h | ⟨hh, hd, hrest⟩
    · refine .inl (fun d hd => ?_)
      rcases List.mem_append.mp (show d ∈ (c :: rest) ++ f from hd) with hd | hd
      · exact h d hd
      · exact hf d hd
    · exact .inr ⟨hh, hd, ih hrest⟩

lemma covers_append_unused {f : List Contig} (hf : Unused f) : Covers (l ++ f) p ↔ Covers l p := by
  induction l generalizing p with
  | nil => simp [hf.not_covers]
  | cons c rest ih => simp only [List.cons_append, covers_cons, ih]

/-! ### The loops -/

lemma shiftDown_eq (h : Separated l) (n : ℕ) :
    shiftDown n l = l.drop n ++ List.replicate (min n l.length) Contig.empty := by
  induction l with
  | nil => simp [shiftDown]
  | cons c rest ih =>
    by_cases hd : c.hasData
    · rw [shiftDown, if_pos hd, ih h.tail]
      rcases Nat.lt_or_ge rest.length n with hn | hn
      · have hnone : (c :: rest)[n]? = none := List.getElem?_eq_none (by simp; omega)
        have hmin : min n (c :: rest).length = rest.length + 1 := by simp; omega
        have hmin' : min n rest.length = rest.length := by omega
        have hdrop : rest.drop n = [] := List.drop_eq_nil_of_le hn.le
        have hdrop' : (c :: rest).drop n = [] := List.drop_eq_nil_of_le (by simp; omega)
        rw [hnone, hmin, hmin', hdrop, hdrop']
        simp [List.replicate_succ]
      · have hlt : n < (c :: rest).length := by simp; omega
        rw [List.drop_eq_getElem_cons hlt, List.getElem?_eq_getElem hlt, List.drop_succ_cons,
          Nat.min_eq_left hlt.le, Nat.min_eq_left hn]
        simp
    · rcases h with h | ⟨-, hd', -⟩
      · rw [shiftDown, if_neg hd, h.eq_replicate]
        simp only [List.drop_replicate, List.replicate_append_replicate, List.length_replicate]
        congr 1
        omega
      · exact absurd hd' hd

/-- Removing the first contig, when it is used, moves all others down. -/
lemma removeFirst_eq (hd : c.hasData) (h : Separated rest) :
    removeFirst (c :: rest) = rest ++ [Contig.empty] := by
  induction rest generalizing c with
  | nil => rfl
  | cons d rest ih =>
    rw [removeFirst, if_pos hd]
    rcases h with h | ⟨-, hd', hrest⟩
    · -- Only unused contigs follow, and the loop stops at the first of them.
      obtain ⟨rfl, hrest⟩ := unused_cons.mp h
      rw [hrest.eq_replicate]
      cases rest with
      | nil => rfl
      | cons e rest =>
        rw [List.length_cons, List.replicate_succ, removeFirst, if_neg not_hasData_empty]
        simp [← List.replicate_succ, ← List.replicate_succ']
    · rw [ih hd' hrest]
      rfl

/-- One round of the coalescing loop: swallowing `d` covers its hole, which `stop` is behind. -/
private lemma covers_swallow {d : Contig} (h : c.totalSize + d.holeSize ≤ stop) :
    Covers ({ c with dataSize := c.dataSize + d.totalSize } :: rest) p ∨
        (c.totalSize ≤ p ∧ p < stop) ↔
      Covers (c :: d :: rest) p ∨ (c.totalSize ≤ p ∧ p < stop) := by
  by_cases hin : c.totalSize ≤ p ∧ p < stop
  · simp [hin]
  have hpos : p - (c.holeSize + c.dataSize) - (d.holeSize + d.dataSize) =
      p - (c.holeSize + (c.dataSize + (d.holeSize + d.dataSize))) := by omega
  simp only [hin, or_false, covers_cons]
  simp only [totalSize] at h hin ⊢
  rw [hpos]
  constructor
  · rintro (⟨h1, h2⟩ | ⟨h1, h2⟩)
    · rcases Nat.lt_or_ge p (c.holeSize + c.dataSize) with hlt | hge
      · exact .inl ⟨h1, hlt⟩
      · exact .inr ⟨hge, .inl (by omega)⟩
    · exact .inr ⟨by omega, .inr ⟨by omega, h2⟩⟩
  · rintro (⟨h1, h2⟩ | ⟨h1, ⟨h2, h3⟩ | ⟨h2, h3⟩⟩)
    · exact .inl ⟨h1, by omega⟩
    · exact .inl ⟨by omega, by omega⟩
    · exact .inr ⟨by omega, h3⟩

/-- What the coalescing loop returns: the grown contig covers the swallowed contigs and holes, and
the next contig starts behind `stop`. -/
lemma coalesce_spec (hl : Separated l) {c' : Contig} {n : ℕ} (h : coalesce stop c l = (c', n)) :
    c'.holeSize = c.holeSize ∧ c.dataSize ≤ c'.dataSize ∧ n ≤ l.length ∧
      (∀ d tl, l.drop n = d :: tl → d.hasData → stop < c'.totalSize + d.holeSize) ∧
      (∀ p, Covers (c' :: l.drop n) p ∨ (c.totalSize ≤ p ∧ p < stop) ↔
        Covers (c :: l) p ∨ (c.totalSize ≤ p ∧ p < stop)) := by
  induction l generalizing c c' n with
  | nil =>
    simp only [coalesce, Prod.mk.injEq] at h
    obtain ⟨rfl, rfl⟩ := h
    simp
  | cons d rest ih =>
    by_cases hd : d.hasData ∧ c.totalSize + d.holeSize ≤ stop
    · rw [coalesce, if_pos hd] at h
      simp only [Prod.mk.injEq] at h
      obtain ⟨h', rfl⟩ := h
      obtain ⟨hhole, hdata, hlen, hnext, hcov⟩ := ih hl.tail (Prod.ext h' rfl)
      refine ⟨hhole, le_trans (Nat.le_add_right _ _) hdata, by simpa using hlen, hnext, ?_⟩
      intro p
      rw [← covers_swallow hd.2, List.drop_succ_cons]
      -- The grown contig ends behind `c`, so the range added for it is part of the one for `c`.
      have hle : c.totalSize ≤
          (Contig.mk c.holeSize (c.dataSize + d.totalSize)).totalSize := by
        simp only [totalSize]; omega
      have := hcov p
      by_cases hin : c.totalSize ≤ p ∧ p < stop
      · simp [hin]
      · have hout : ¬ ((Contig.mk c.holeSize (c.dataSize + d.totalSize)).totalSize ≤ p ∧
            p < stop) := by omega
        simpa [hin, hout] using this
    · rw [coalesce, if_neg hd] at h
      simp only [Prod.mk.injEq] at h
      obtain ⟨rfl, rfl⟩ := h
      refine ⟨rfl, le_rfl, Nat.zero_le _, ?_, fun p => Iff.rfl⟩
      intro e tl he hdata
      simp only [List.drop_zero, List.cons.injEq] at he
      obtain ⟨rfl, rfl⟩ := he
      by_contra hle
      exact hd ⟨hdata, by omega⟩

lemma length_shrinkNext (n : ℕ) : (shrinkNext n l).length = l.length := by
  cases l with
  | nil => rfl
  | cons d rest => rw [shrinkNext]; split_ifs <;> rfl

lemma length_extend : (extend stop c rest).length = rest.length + 1 := by
  unfold extend
  split_ifs <;> simp [length_shrinkNext]

lemma covers_extend (hrest : Separated rest)
    (hnext : ∀ d tl, rest = d :: tl → d.hasData → stop < c.totalSize + d.holeSize) :
    Covers (extend stop c rest) p ↔ Covers (c :: rest) p ∨ (c.totalSize ≤ p ∧ p < stop) := by
  unfold extend
  split_ifs with h
  · cases rest with
    | nil =>
      simp only [shrinkNext, covers_cons, not_covers_nil, totalSize, and_false, or_false] at h ⊢
      omega
    | cons d tl =>
      by_cases hd : d.hasData
      · have hlt := hnext d tl rfl hd
        simp only [shrinkNext, if_pos hd, covers_cons, totalSize, shrinkHoleBy] at h hlt ⊢
        -- Behind the two contigs the positions are the same as before.
        have hpos : p - (c.holeSize + (c.dataSize + (stop - (c.holeSize + c.dataSize)))) -
              (d.holeSize - (stop - (c.holeSize + c.dataSize)) + d.dataSize) =
            p - (c.holeSize + c.dataSize) - (d.holeSize + d.dataSize) := by omega
        rw [hpos]
        constructor
        · rintro (⟨h1, h2⟩ | ⟨h1, ⟨h2, h3⟩ | ⟨h2, h3⟩⟩)
          · omega
          · exact .inl (.inr ⟨by omega, .inl (by omega)⟩)
          · exact .inl (.inr ⟨by omega, .inr ⟨by omega, h3⟩⟩)
        · rintro ((⟨h1, h2⟩ | ⟨h1, ⟨h2, h3⟩ | ⟨h2, h3⟩⟩) | ⟨h1, h2⟩)
          · exact .inl (by omega)
          · exact .inr ⟨by omega, .inl (by omega)⟩
          · exact .inr ⟨by omega, .inr ⟨by omega, h3⟩⟩
          · exact .inl (by omega)
      · have hun : Unused (d :: tl) := by
          rcases hrest with h | ⟨-, h, -⟩
          · exact h
          · exact absurd h hd
        simp only [shrinkNext, if_neg hd]
        rw [covers_cons_of_unused hun, covers_cons_of_unused hun]
        simp only [totalSize] at h ⊢
        omega
  · constructor
    · exact .inl
    · rintro (hc | hc)
      · exact hc
      · omega

lemma canonical_extend (hd : c.hasData) (hrest : Separated rest)
    (hnext : ∀ d tl, rest = d :: tl → d.hasData → stop < c.totalSize + d.holeSize) :
    ∃ c' rest', extend stop c rest = c' :: rest' ∧ c'.holeSize = c.holeSize ∧ c'.hasData ∧
      Separated rest' := by
  unfold extend
  split_ifs with h
  · refine ⟨_, _, rfl, rfl, ?_, ?_⟩
    · simp only [hasData] at *; omega
    · cases rest with
      | nil => trivial
      | cons d tl =>
        rw [shrinkNext]
        split_ifs with hd'
        · have hlt := hnext d tl rfl hd'
          exact .inr ⟨by simp only [hasHole, shrinkHoleBy]; omega, hd', hrest.tail⟩
        · exact hrest
  · exact ⟨c, rest, rfl, rfl, hd, hrest⟩

/-! ### Adding a range -/

/-- Making room at the end takes away an unused contig. -/
lemma insertFirst_eq_ok {new : Contig} (hd : c.hasData) (hrest : Separated rest)
    {l' : List Contig} (h : insertFirst new (c :: rest) = .ok l') :
    ∃ rest', l' = new :: c :: rest' ∧ rest = rest' ++ [Contig.empty] := by
  unfold insertFirst at h
  split_ifs at h with hlast
  cases h
  rcases List.eq_nil_or_concat rest with rfl | ⟨rest', d, rfl⟩
  · simp [hd] at hlast
  · have hd' : ¬ d.hasData := by simpa [List.getLast?_cons] using hlast
    -- The last contig of a separated list is unused when it has no data.
    have hempty : d = Contig.empty := by
      have := hrest.drop rest'.length
      rw [List.concat_eq_append, List.drop_left] at this
      rcases this with h | ⟨-, h, -⟩
      · exact h d (by simp)
      · exact absurd h hd'
    refine ⟨rest', ?_, by rw [List.concat_eq_append, hempty]⟩
    rw [List.concat_eq_append, ← List.cons_append, List.dropLast_concat]

lemma Separated.of_append_empty {rest' : List Contig} (h : Separated (rest' ++ [Contig.empty])) :
    Separated rest' := by
  induction rest' with
  | nil => trivial
  | cons d rest' ih =>
    rcases h with h | ⟨hh, hd, hrest⟩
    · exact .inl (fun e he => h e (List.mem_append_left _ he))
    · exact .inr ⟨hh, hd, ih hrest⟩

/-- Letting a used contig grow up to `stop` adds exactly the positions up to there. -/
lemma grow_spec (stop : ℕ) (hd : c.hasData) (hrest : Separated rest) :
    (∀ p, Covers (grow stop c rest) p ↔
        Covers (c :: rest) p ∨ (c.totalSize ≤ p ∧ p < stop)) ∧
      (grow stop c rest).length = rest.length + 1 ∧
      ∃ c' rest', grow stop c rest = c' :: rest' ∧ c'.holeSize = c.holeSize ∧ c'.hasData ∧
        Separated rest' := by
  generalize hco : coalesce stop c rest = r
  obtain ⟨c₂, n⟩ := r
  obtain ⟨hhole₂, hdata₂, hn, hnext, hcov⟩ := coalesce_spec hrest hco
  have hshift : (if n ≠ 0 then shiftDown n rest else rest) =
      rest.drop n ++ List.replicate n Contig.empty := by
    split_ifs with h0
    · rw [shiftDown_eq hrest, Nat.min_eq_left hn]
    · simp at h0; simp [h0]
  have hgrow : grow stop c rest =
      extend stop c₂ (rest.drop n ++ List.replicate n Contig.empty) := by
    simp only [grow, hco, hshift]
  have hun : Unused (List.replicate n Contig.empty) := unused_replicate n
  have hsep : Separated (rest.drop n ++ List.replicate n Contig.empty) :=
    separated_append_unused (hrest.drop n) hun
  have hnext' : ∀ d tl, rest.drop n ++ List.replicate n Contig.empty = d :: tl → d.hasData →
      stop < c₂.totalSize + d.holeSize := by
    intro d tl hcons hd'
    cases hdrop : rest.drop n with
    | nil =>
      rw [hdrop, List.nil_append] at hcons
      have : d ∈ List.replicate n Contig.empty := by rw [hcons]; exact List.mem_cons_self
      exact absurd hd' (by rw [hun d this]; exact not_hasData_empty)
    | cons e tl' =>
      rw [hdrop, List.cons_append, List.cons.injEq] at hcons
      obtain ⟨rfl, -⟩ := hcons
      exact hnext e tl' hdrop hd'
  have hd₂ : c₂.hasData := by simp only [hasData] at *; omega
  have htot₂ : c.totalSize ≤ c₂.totalSize := by simp only [totalSize] at *; omega
  rw [hgrow]
  refine ⟨fun p => ?_, ?_, ?_⟩
  · rw [covers_extend hsep hnext', ← List.cons_append, covers_append_unused hun, ← hcov p]
    constructor
    · rintro (h1 | h1)
      · exact .inl h1
      · exact .inr (by omega)
    · rintro (h1 | h1)
      · exact .inl h1
      · -- Between the old and the new end the coalesced contig covers everything.
        rcases Nat.lt_or_ge p c₂.totalSize with hlt | hge
        · exact .inl (.inl ⟨by simp only [totalSize] at *; omega, hlt⟩)
        · exact .inr (by omega)
  · rw [length_extend]
    simp
    omega
  · obtain ⟨c', rest', heq, hhole', hd', hsep'⟩ := canonical_extend hd₂ hsep hnext'
    exact ⟨c', rest', heq, by rw [hhole', hhole₂], hd', hsep'⟩

/-- The contigs a used contig is replaced by when a range is added at it. -/
lemma addAt_spec (hd : c.hasData) (hrest : Separated rest) (hoff : offset ≤ c.totalSize)
    (hsize : 0 < size) {l' : List Contig} (h : addAt offset size c rest = .ok l') :
    (∀ p, Covers l' p ↔ Covers (c :: rest) p ∨ (offset ≤ p ∧ p < offset + size)) ∧
      l'.length = rest.length + 1 ∧
      ∃ c' rest', l' = c' :: rest' ∧ c'.holeSize = min c.holeSize offset ∧ c'.hasData ∧
        Separated rest' := by
  by_cases hhole : offset < c.holeSize ∧ offset + size < c.holeSize
  · -- The range lies inside the hole.
    rw [addAt, if_pos hhole] at h
    obtain ⟨rest', rfl, rfl⟩ := insertFirst_eq_ok (c := c.shrinkHoleBy (offset + size)) hd hrest h
    refine ⟨fun p => ?_, by simp, _, _, rfl, by simp; omega, by simp only [hasData]; omega,
      .inr ⟨by simp only [hasHole, shrinkHoleBy]; omega, hd, hrest.of_append_empty⟩⟩
    have hun : Unused [Contig.empty] := unused_replicate 1
    have hpos : p - (offset + size) - (c.holeSize - (offset + size) + c.dataSize) =
        p - (c.holeSize + c.dataSize) := by omega
    simp only [covers_cons, covers_append_unused hun, totalSize, shrinkHoleBy, hpos]
    constructor
    · rintro (h1 | ⟨h1, h2 | ⟨h2, h3⟩⟩)
      · exact .inr (by omega)
      · exact .inl (.inl (by omega))
      · exact .inl (.inr ⟨by omega, h3⟩)
    · rintro ((h1 | ⟨h1, h2⟩) | h1)
      · exact .inr ⟨by omega, .inl (by omega)⟩
      · exact .inr ⟨by omega, .inr ⟨by omega, h2⟩⟩
      · exact .inl (by omega)
  · -- The range touches the data of `c`, which grows first to the left and then to the right.
    rw [addAt, if_neg hhole] at h
    cases h
    set c₁ := if offset < c.holeSize then c.shrinkHoleTo offset else c with hc₁
    have hhole₁ : c₁.holeSize = min c.holeSize offset := by
      rw [hc₁]
      split_ifs <;> simp [shrinkHoleTo] <;> omega
    have htot₁ : c₁.totalSize = c.totalSize := by
      rw [hc₁]
      split_ifs
      · simp only [shrinkHoleTo, totalSize] at *
        omega
      · rfl
    have hdata₁ : c₁.hasData := by
      rw [hc₁]
      split_ifs
      · simp only [shrinkHoleTo, totalSize, hasData] at *
        omega
      · exact hd
    obtain ⟨hcov, hlen, c', rest', heq, hhole', hd', hsep'⟩ :=
      grow_spec (offset + size) hdata₁ hrest
    refine ⟨fun p => ?_, hlen, c', rest', heq, hhole'.trans hhole₁, hd', hsep'⟩
    rw [hcov, covers_cons, covers_cons, htot₁, hhole₁]
    have hct : c.holeSize ≤ c.totalSize := Nat.le_add_right _ _
    constructor
    · rintro ((h1 | h1) | h1)
      · rcases Nat.lt_or_ge p c.holeSize with hlt | hge
        · exact .inr (by omega)
        · exact .inl (.inl (by omega))
      · exact .inl (.inr h1)
      · exact .inr (by omega)
    · rintro ((h1 | h1) | h1)
      · exact .inl (.inl (by omega))
      · exact .inl (.inr h1)
      · rcases Nat.lt_or_ge p c.totalSize with hlt | hge
        · exact .inl (.inl (by omega))
        · exact .inr (by omega)

/-- What follows a used contig of a canonical array is separated. -/
lemma Canonical.separated_tail (h : Canonical (c :: rest)) (hd : c.hasData) : Separated rest := by
  rcases h with h | ⟨-, h⟩
  · exact absurd hd (by rw [(unused_cons.mp h).1]; exact not_hasData_empty)
  · exact h

lemma Canonical.unused (h : Canonical (c :: rest)) (hd : ¬ c.hasData) : Unused (c :: rest) := by
  rcases h with h | ⟨h, -⟩
  · exact h
  · exact absurd h hd

lemma Separated.hasHole (h : Separated (c :: rest)) (hd : c.hasData) : c.hasHole := by
  rcases h with h | ⟨h, -, -⟩
  · exact absurd hd (by rw [(unused_cons.mp h).1]; exact not_hasData_empty)
  · exact h

/-- Adding a range to an array, from any contig on. A range that starts behind the front of a
separated array leaves it separated. -/
lemma add_spec (hl : Canonical l) (hsize : 0 < size) {l' : List Contig}
    (h : add offset size l = .ok l') :
    (∀ p, Covers l' p ↔ Covers l p ∨ (offset ≤ p ∧ p < offset + size)) ∧
      l'.length = l.length ∧ Canonical l' ∧ (Separated l → 0 < offset → Separated l') := by
  induction l generalizing offset l' with
  | nil => simp [add] at h
  | cons c rest ih =>
    rw [add] at h
    by_cases hd : c.hasData
    · have hrest := hl.separated_tail hd
      rw [if_pos hd] at h
      by_cases hoff : offset ≤ c.totalSize
      · rw [if_pos hoff] at h
        obtain ⟨hcov, hlen, c', rest', rfl, hhole, hd', hsep⟩ := addAt_spec hd hrest hoff hsize h
        refine ⟨hcov, hlen, .inr ⟨hd', hsep⟩, fun hs h0 => .inr ⟨?_, hd', hsep⟩⟩
        have := hs.hasHole hd
        simp only [hasHole] at *
        omega
      · rw [if_neg hoff] at h
        cases hadd : add (offset - c.totalSize) size rest with
        | error e => rw [hadd] at h; cases h
        | ok rest' =>
          rw [hadd] at h
          cases h
          obtain ⟨hcov, hlen, -, hsep⟩ := ih hrest.canonical hadd
          have hsep' := hsep hrest (by omega)
          refine ⟨fun p => ?_, by simp [hlen], .inr ⟨hd, hsep'⟩, fun hs _ =>
            .inr ⟨hs.hasHole hd, hd, hsep'⟩⟩
          simp only [covers_cons, hcov]
          constructor
          · rintro (h1 | ⟨h1, h2 | h2⟩)
            · exact .inl (.inl h1)
            · exact .inl (.inr ⟨h1, h2⟩)
            · exact .inr (by omega)
          · rintro ((h1 | ⟨h1, h2⟩) | h1)
            · exact .inl h1
            · exact .inr ⟨h1, .inl h2⟩
            · exact .inr ⟨by omega, .inr (by omega)⟩
    · -- The first unused contig takes the range.
      rw [if_neg hd] at h
      cases h
      have hun := hl.unused hd
      have hrest := (unused_cons.mp hun).2
      refine ⟨fun p => ?_, rfl, .inr ⟨by simp only [hasData]; omega, hrest.separated⟩, fun _ h0 =>
        .inr ⟨by simp only [hasHole]; omega, by simp only [hasData]; omega, hrest.separated⟩⟩
      rw [covers_cons_of_unused hrest]
      simp [hun.not_covers, totalSize]

/-- A range at the front that reaches the first data needs no new contig. -/
lemma add_zero_ok (rest : List Contig) (hsize : c.holeSize ≤ size) :
    ∃ l', add 0 size (c :: rest) = .ok l' := by
  rw [add]
  split_ifs with hd h0
  · rw [addAt, if_neg (by omega)]
    exact ⟨_, rfl⟩
  · exact absurd (Nat.zero_le _) h0
  · exact ⟨_, rfl⟩

end Smoltcp.Contigs
