import Mathlib

/-!
# Spans of positions

A span is a run of consecutive positions in a store. A reader takes positions off the front of the
span it stands in, and may jump into another span that it keeps `before` it: of this one only the
part in front of the place it jumps to is kept. From then on no position is taken twice, and all
that is taken fits into the two spans.
-/

/-- The positions from `start` on, as many as `len`. -/
structure Span where
  start : ℕ
  len : ℕ
  deriving DecidableEq, Repr

namespace Span

instance : Membership ℕ Span := ⟨fun s x => s.start ≤ x ∧ x < s.start + s.len⟩

variable {α : Type*} {f : ℕ → α} {s before here : Span} {n p x : ℕ} {l : List Span}

lemma mem_iff : x ∈ s ↔ s.start ≤ x ∧ x < s.start + s.len := Iff.rfl

instance : Decidable (x ∈ s) := decidable_of_iff _ mem_iff.symm

def take (s : Span) (n : ℕ) : Span := ⟨s.start, min n s.len⟩

def drop (s : Span) (n : ℕ) : Span := ⟨s.start + n, s.len - n⟩

@[simp] lemma start_take : (s.take n).start = s.start := rfl

@[simp] lemma len_take : (s.take n).len = min n s.len := rfl

@[simp] lemma start_drop : (s.drop n).start = s.start + n := rfl

@[simp] lemma len_drop : (s.drop n).len = s.len - n := rfl

lemma mem_take : x ∈ s.take n ↔ x ∈ s ∧ x < s.start + n := by
  simp only [mem_iff, start_take, len_take]
  omega

lemma mem_drop : x ∈ s.drop n ↔ x ∈ s ∧ s.start + n ≤ x := by
  simp only [mem_iff, start_drop, len_drop]
  omega

/-- A span is cut into two. -/
lemma mem_take_or_drop : x ∈ s ↔ x ∈ s.take n ∨ x ∈ s.drop n := by
  rw [mem_take, mem_drop, ← and_or_left]
  exact (and_iff_left (Nat.lt_or_ge x (s.start + n))).symm

lemma not_mem_drop (h : x ∈ s.take n) : x ∉ s.drop n := by
  intro hdrop
  exact Nat.not_le.mpr (mem_take.mp h).2 (mem_drop.mp hdrop).2

/-! ### What a store holds -/

/-- What stands at the positions of a span. -/
def read (f : ℕ → α) (s : Span) : List α := (List.range' s.start s.len).map f

@[simp] lemma length_read : (s.read f).length = s.len := by
  simp [read]

lemma read_take : (s.take n).read f = (s.read f).take n := by
  rw [read, read, ← List.map_take, len_take]
  rcases le_total n s.len with hle | hle
  · rw [min_eq_left hle, List.take_range'_of_length_ge hle, start_take]
  · rw [min_eq_right hle, List.take_range'_of_length_le hle, start_take]

lemma read_drop : (s.drop n).read f = (s.read f).drop n := by
  rw [read, read, ← List.map_drop, List.drop_range', mul_one]
  rfl

/-- A span that is not empty has a first position. -/
lemma read_cons (h : 0 < s.len) : s.read f = f s.start :: (s.drop 1).read f := by
  obtain ⟨start, len⟩ := s
  obtain ⟨len, rfl⟩ := Nat.exists_eq_succ_of_ne_zero h.ne'
  rfl

/-! ### Readers that jump back -/

/-- How many of the spans a position is in. -/
def times (l : List Span) (x : ℕ) : ℕ := l.countP (x ∈ ·)

@[simp] lemma times_nil : times [] x = 0 := rfl

lemma times_cons : times (s :: l) x = (if x ∈ s then 1 else 0) + times l x := by
  rw [times, List.countP_cons, add_comm]
  simp [times]

@[simp] lemma times_pos_cons : 0 < times (s :: l) x ↔ x ∈ s ∨ 0 < times l x := by
  rw [times_cons]
  split_ifs with hmem <;> simp [hmem]

/-- The spans that a reader takes, one after the other, that stands in `here` and may jump into
`before`. -/
inductive Trail : Span → Span → List Span → Prop where
  | nil {before here : Span} : Trail before here []
  | advance {before here : Span} {n : ℕ} {l : List Span} (h : Trail before (here.drop n) l) :
      Trail before here (here.take n :: l)
  | jump {before here : Span} {n p : ℕ} {l : List Span}
      (h : Trail (before.take p) (before.drop p) l) : Trail before here (here.take n :: l)

namespace Trail

/-- Nothing else is taken. -/
lemma mem_of_times (h : Trail before here l) (hx : 0 < times l x) : x ∈ here ∨ x ∈ before := by
  induction h with
  | nil => simp at hx
  | advance _ ih =>
    rcases times_pos_cons.mp hx with hmem | hx
    · exact .inl (mem_take.mp hmem).1
    · exact (ih hx).imp (fun h => (mem_drop.mp h).1) id
  | jump _ ih =>
    rcases times_pos_cons.mp hx with hmem | hx
    · exact .inl (mem_take.mp hmem).1
    · exact .inr (mem_take_or_drop.mpr (ih hx).symm)

/-- A reader that stands apart from what it may jump into takes every position at most once. -/
theorem times_le_one (h : Trail before here l) (hapart : x ∈ here → x ∉ before) :
    times l x ≤ 1 := by
  induction h with
  | nil => simp
  | @advance before here n l h ih =>
    have hle := ih fun hx => hapart (mem_drop.mp hx).1
    rw [times_cons]
    split_ifs with hmem
    · have hzero : times l x = 0 := by
        by_contra hne
        rcases h.mem_of_times (Nat.pos_of_ne_zero hne) with hdrop | hbefore
        · exact not_mem_drop hmem hdrop
        · exact hapart (mem_take.mp hmem).1 hbefore
      rw [hzero]
    · rwa [zero_add]
  | @jump before here n p l h ih =>
    have hle := ih fun hdrop htake => not_mem_drop htake hdrop
    rw [times_cons]
    split_ifs with hmem
    · have hzero : times l x = 0 := by
        by_contra hne
        have hbefore := mem_take_or_drop.mpr (h.mem_of_times (Nat.pos_of_ne_zero hne)).symm
        exact hapart (mem_take.mp hmem).1 hbefore
      rw [hzero]
    · rwa [zero_add]

/-- What is taken in all is not longer than both spans. -/
theorem sum_le (h : Trail before here l) : (l.map len).sum ≤ before.len + here.len := by
  induction h with
  | nil => simp
  | @advance before here n l h ih =>
    simp only [List.map_cons, List.sum_cons, len_take, len_drop] at ih ⊢
    omega
  | @jump before here n p l h ih =>
    simp only [List.map_cons, List.sum_cons, len_take, len_drop] at ih ⊢
    omega

end Trail

end Span
