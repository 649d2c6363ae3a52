import Smoltcp.Lib.Span

/-!
# The longest run of a list

A run is a span of positions whose elements all have a property. The list is gone through once,
with the longest run so far and the run that ends at the current position. What is found is the
first of the longest runs.
-/

namespace Span

variable {α : Type*} {p : α → Prop} {l pre : List α} {a : α} {i : ℕ} {s t current longest : Span}

/-- The elements at the positions of a span have a property. -/
def IsRun (p : α → Prop) (l : List α) (s : Span) : Prop := ∀ i ∈ s, ∃ a ∈ l[i]?, p a

lemma isRun_of_len (h : s.len = 0) : IsRun p l s := by
  intro i hi
  rw [mem_iff] at hi
  omega

lemma IsRun.mono (h : IsRun p l s) (hsub : ∀ i ∈ t, i ∈ s) : IsRun p l t :=
  fun i hi => h i (hsub i hi)

lemma IsRun.length_le (h : IsRun p l s) (hs : 0 < s.len) : s.start + s.len ≤ l.length := by
  obtain ⟨a, ha, -⟩ := h (s.start + s.len - 1) (by rw [mem_iff]; omega)
  obtain ⟨hlt, -⟩ := List.getElem?_eq_some_iff.mp ha
  omega

lemma IsRun.append (h : IsRun p l s) (back : List α) : IsRun p (l ++ back) s := by
  intro i hi
  obtain ⟨a, ha, hp⟩ := h i hi
  exact ⟨a, List.getElem?_append_left (List.getElem?_eq_some_iff.mp ha).1 ▸ ha, hp⟩

/-- The first of the longest runs up to a position. -/
structure IsLongest (p : α → Prop) (l : List α) (i : ℕ) (s : Span) : Prop where
  isRun : IsRun p l s
  le : s.start + s.len ≤ i
  first : ∀ t, 0 < t.len → IsRun p l t → t.start + t.len ≤ i →
    t.len < s.len ∨ t.len = s.len ∧ s.start ≤ t.start

/-- The longest run that ends at a position. -/
structure IsCurrent (p : α → Prop) (l : List α) (i : ℕ) (s : Span) : Prop where
  isRun : IsRun p l s
  ends : 0 < s.len → s.start + s.len = i
  most : ∀ t, 0 < t.len → IsRun p l t → t.start + t.len = i → 0 < s.len ∧ s.start ≤ t.start

/-- The current run with one more element. -/
def grow (current : Span) (i : ℕ) : Span :=
  ⟨if current.len = 0 then i else current.start, current.len + 1⟩

/-- The loop over the elements behind a position. -/
def longestFrom (p : α → Prop) [DecidablePred p] : List α → ℕ → Span → Span → Span
  | [], _, longest, _ => longest
  | a :: l, i, longest, current =>
    if p a then
      let current := current.grow i
      longestFrom p l (i + 1) (if longest.len < current.len then current else longest) current
    else longestFrom p l (i + 1) longest ⟨0, 0⟩

/-- The first of the longest runs of a list. -/
def longestRun (p : α → Prop) [DecidablePred p] (l : List α) : Span :=
  longestFrom p l 0 ⟨0, 0⟩ ⟨0, 0⟩

lemma IsCurrent.start_grow (h : IsCurrent p l i current) :
    (current.grow i).start + (current.grow i).len = i + 1 := by
  have hends := h.ends
  simp only [grow]
  split_ifs <;> omega

lemma IsCurrent.grow (h : IsCurrent p l i current) (ha : a ∈ l[i]?) (hp : p a) :
    IsCurrent p l (i + 1) (current.grow i) := by
  have hstop := h.start_grow
  have hgrow : 0 < (current.grow i).len := Nat.succ_pos _
  refine ⟨fun j hj => ?_, fun _ => hstop, fun t hpos hrun hend => ⟨hgrow, ?_⟩⟩
  · rw [mem_iff, hstop] at hj
    obtain rfl | hlt := Nat.eq_or_lt_of_le (Nat.le_of_lt_succ hj.2)
    · exact ⟨a, ha, hp⟩
    · refine h.isRun j ?_
      have hends := h.ends
      rw [mem_iff]
      simp only [Span.grow] at hj
      split_ifs at hj <;> omega
  · by_cases hone : t.len = 1
    · omega
    · -- the run without its last element ends where the current one does
      have hmost := h.most ⟨t.start, t.len - 1⟩ (show 0 < t.len - 1 by omega)
        (hrun.mono fun j hj => by simp only [mem_iff] at hj ⊢; omega)
        (show t.start + (t.len - 1) = i by omega)
      obtain ⟨hcurrent, hle⟩ := hmost
      simp only [Span.grow, if_neg hcurrent.ne']
      exact hle

lemma IsCurrent.reset (ha : a ∈ l[i]?) (hp : ¬ p a) : IsCurrent p l (i + 1) ⟨0, 0⟩ := by
  refine ⟨isRun_of_len rfl, fun h => absurd h (Nat.lt_irrefl 0), fun t hpos hrun hend => ?_⟩
  obtain ⟨b, hb, hpb⟩ := hrun i (by rw [mem_iff]; omega)
  rw [Option.mem_unique hb ha] at hpb
  exact absurd hpb hp

lemma IsLongest.grow (h : IsLongest p l i longest) (hcurrent : IsCurrent p l (i + 1) current)
    (hpos : 0 < current.len) :
    IsLongest p l (i + 1) (if longest.len < current.len then current else longest) := by
  have hends := hcurrent.ends hpos
  have hle := h.le
  split_ifs with hlt
  · refine ⟨hcurrent.isRun, hends.le, fun t ht hrun htle => ?_⟩
    by_cases hend : t.start + t.len = i + 1
    · have hmost := hcurrent.most t ht hrun hend
      omega
    · have hfirst := h.first t ht hrun (by omega)
      omega
  · refine ⟨h.isRun, by omega, fun t ht hrun htle => ?_⟩
    by_cases hend : t.start + t.len = i + 1
    · have hmost := hcurrent.most t ht hrun hend
      omega
    · exact h.first t ht hrun (by omega)

lemma IsLongest.skip (h : IsLongest p l i longest) (ha : a ∈ l[i]?) (hp : ¬ p a) :
    IsLongest p l (i + 1) longest := by
  refine ⟨h.isRun, h.le.trans (Nat.le_succ i), fun t ht hrun htle => ?_⟩
  by_cases hend : t.start + t.len = i + 1
  · have hmost := (IsCurrent.reset ha hp).most t ht hrun hend
    exact absurd hmost.1 (Nat.lt_irrefl 0)
  · exact h.first t ht hrun (by omega)

section Loop

variable [DecidablePred p]

lemma isLongest_longestFrom (h : IsLongest p (pre ++ l) pre.length longest)
    (hcurrent : IsCurrent p (pre ++ l) pre.length current) :
    IsLongest p (pre ++ l) (pre ++ l).length (longestFrom p l pre.length longest current) := by
  induction l generalizing pre longest current with
  | nil => simpa [longestFrom] using h
  | cons a l ih =>
    have ha : a ∈ (pre ++ a :: l)[pre.length]? := by simp
    have hcons : pre ++ a :: l = (pre ++ [a]) ++ l := List.append_cons pre a l
    have hlen : pre.length + 1 = (pre ++ [a]).length := by simp
    rw [longestFrom]
    split_ifs with hp
    · have hgrow := hcurrent.grow ha hp
      have hlongest := h.grow hgrow (Nat.succ_pos _)
      rw [hcons, hlen] at hgrow hlongest
      rw [hcons, hlen]
      exact ih hlongest hgrow
    · have hreset := IsCurrent.reset ha hp
      have hskip := h.skip ha hp
      rw [hcons, hlen] at hreset hskip
      rw [hcons, hlen]
      exact ih hskip hreset

theorem isLongest_longestRun (p : α → Prop) [DecidablePred p] (l : List α) :
    IsLongest p l l.length (longestRun p l) := by
  have hnone (t : Span) (ht : 0 < t.len) : ¬ t.start + t.len ≤ 0 := by omega
  refine @isLongest_longestFrom α p l [] _ _ _ ?_ ?_
  · exact ⟨isRun_of_len rfl, le_rfl, fun t ht _ hle => absurd hle (hnone t ht)⟩
  · exact ⟨isRun_of_len rfl, fun h => absurd h (Nat.lt_irrefl 0),
      fun t ht _ hend => absurd hend.le (hnone t ht)⟩

end Loop

/-! ### Runs of equal elements -/

section Equal

variable {x : α}

lemma getElem?_of_isRun (h : IsRun (· = x) l s) (hi : i ∈ s) : l[i]? = some x := by
  obtain ⟨a, ha, rfl⟩ := h i hi
  exact ha

/-- The elements of a run, between what is in front of it and what is behind. -/
lemma IsRun.eq_append (h : IsRun (· = x) l s) :
    l = l.take s.start ++ List.replicate s.len x ++ l.drop (s.start + s.len) := by
  have hmid : (l.drop s.start).take s.len = List.replicate s.len x := by
    apply List.ext_getElem?
    intro j
    by_cases hj : j < s.len
    · rw [List.getElem?_take_of_lt hj, List.getElem?_drop, List.getElem?_replicate_of_lt hj]
      exact getElem?_of_isRun h (by rw [mem_iff]; omega)
    · rw [List.getElem?_eq_none, List.getElem?_eq_none]
      · simpa using hj
      · simp only [List.length_take, List.length_drop]
        omega
  rw [← hmid, ← List.drop_drop, List.append_assoc, List.take_append_drop, List.take_append_drop]

lemma isRun_append (front back : List α) (n : ℕ) (x : α) :
    IsRun (· = x) (front ++ List.replicate n x ++ back) ⟨front.length, n⟩ := by
  intro i hi
  obtain ⟨hstart, hend⟩ : front.length ≤ i ∧ i < front.length + n := hi
  have hlt : i - front.length < (List.replicate n x).length := by
    rw [List.length_replicate]
    omega
  refine ⟨x, ?_, rfl⟩
  rw [List.append_assoc, List.getElem?_append_right hstart, List.getElem?_append_left hlt,
    List.getElem?_replicate_of_lt (by simpa using hlt)]
  rfl

end Equal

end Span
